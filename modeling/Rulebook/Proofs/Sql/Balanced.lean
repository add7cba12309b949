import Rulebook.Proofs.Sql.Scan

/-!
# Balanced texts

In a balanced text every quote and every parenthesis that opens also closes. The mask goes over such
a text and is left as it was before: what follows is masked as if it stood alone (`mask_append`),
and between parentheses nothing of the text is seen (`mask_parens`).
-/

namespace Rulebook.Sql
open Text

/-- A character that opens and closes nothing. -/
def IsPlain (c : Char) : Prop := closingQuote? c = none ∧ c ≠ '(' ∧ c ≠ ')'

instance (c : Char) : Decidable (IsPlain c) := inferInstanceAs (Decidable (_ ∧ _))

/-- The characters that open or close something. -/
def marks : List Char := ['\'', '"', backtick, '[', '(', ')']

/-- A character that differs from all marks in some way is plain. -/
lemma isPlain_of_class {ok : Char → Bool} {c : Char} (h : ok c = true) (hm : marks.any ok = false) :
    IsPlain c := by
  have ne : ∀ x ∈ marks, c ≠ x := by
    rintro x hx rfl
    exact List.any_eq_false.1 hm c hx h
  simp only [marks, List.forall_mem_cons] at ne
  simp [IsPlain, closingQuote?, isQuote, ne]

/-- A text in which all that opens closes, and nothing else does. -/
inductive Balanced : List Char → Prop
  | nil : Balanced []
  | plain {c s} : IsPlain c → Balanced s → Balanced (c :: s)
  | quoted {o q body s} : closingQuote? o = some q → q ∉ body → Balanced s →
      Balanced (o :: (body ++ q :: s))
  | parens {inner s} : Balanced inner → Balanced s → Balanced ('(' :: (inner ++ ')' :: s))

/-- Balanced texts after one another are balanced. -/
lemma Balanced.append {s t : List Char} (hs : Balanced s) (ht : Balanced t) :
    Balanced (s ++ t) := by
  induction hs with
  | nil => exact ht
  | plain hc _ ih => exact ih.plain hc
  | @quoted o q body s ho hq _ ih =>
    rw [List.cons_append, List.append_assoc, List.cons_append]
    exact ih.quoted ho hq
  | @parens inner s hi _ _ ih =>
    rw [List.cons_append, List.append_assoc, List.cons_append]
    exact hi.parens ih

/-- A plain text is balanced. -/
lemma balanced_of_plain {s : List Char} (h : ∀ c ∈ s, IsPlain c) : Balanced s := by
  induction s with
  | nil => exact .nil
  | cons c s ih =>
    rw [List.forall_mem_cons] at h
    exact (ih h.2).plain h.1

/-! ## Masks -/

variable {depth : Int} {s t : List Char}

/-- A plain character is shown at its depth. -/
lemma maskFrom_plain {c : Char} (h : IsPlain c) :
    maskFrom depth none (c :: s) = shownAt depth c :: maskFrom depth none s := by
  obtain ⟨hq, ho, hc⟩ := h
  simp only [maskFrom, hq, ho, hc, if_false]

/-- Quoted text is blanked out up to the quote that closes it. -/
lemma maskFrom_quoted {q : Char} {body : List Char} (h : q ∉ body) :
    maskFrom depth (some q) (body ++ q :: s) =
      List.replicate body.length ' ' ++ shownAt depth q :: maskFrom depth none s := by
  induction body with
  | nil =>
    rw [List.nil_append, maskFrom, if_pos rfl]
    rfl
  | cons c body ih =>
    rw [List.mem_cons, not_or] at h
    rw [List.cons_append, maskFrom, if_neg (Ne.symm h.1), ih h.2]
    rfl

/-- A quote is shown, and opens. -/
lemma maskFrom_opening {o q : Char} (h : closingQuote? o = some q) :
    maskFrom depth none (o :: s) = shownAt depth o :: maskFrom depth (some q) s := by
  simp only [maskFrom, h]

/-- An opening parenthesis is shown at the depth outside. -/
lemma maskFrom_openParen :
    maskFrom depth none ('(' :: s) = shownAt depth '(' :: maskFrom (depth + 1) none s := rfl

/-- A closing parenthesis is shown at the depth outside. -/
lemma maskFrom_closeParen :
    maskFrom (depth + 1) none (')' :: s) = shownAt depth ')' :: maskFrom depth none s := by
  have close : maskFrom (depth + 1) none (')' :: s) =
      shownAt (depth + 1 - 1) ')' :: maskFrom (depth + 1 - 1) none s := rfl
  rw [close, Int.add_sub_cancel]

/-- Nothing shows below the top level. -/
lemma shownAt_nested (h : 0 < depth) (c : Char) : shownAt depth c = ' ' := if_pos h

/-- Every character shows at the top level. -/
lemma shownAt_zero (c : Char) : shownAt 0 c = c := rfl

/-- What stands after a balanced text is masked at the same depth. -/
lemma Balanced.maskFrom_append (hs : Balanced s) (depth : Int) (t : List Char) :
    maskFrom depth none (s ++ t) = maskFrom depth none s ++ maskFrom depth none t := by
  -- The depth is any, because it is another one between parentheses.
  induction hs generalizing depth t with
  | nil => rfl
  | plain hc _ ih =>
    rw [List.cons_append, maskFrom_plain hc, maskFrom_plain hc, ih, List.cons_append]
  | @quoted o q body s ho hq _ ih =>
    rw [List.cons_append, List.append_assoc, List.cons_append, maskFrom_opening ho,
      maskFrom_quoted hq, maskFrom_opening ho, maskFrom_quoted hq, ih, List.cons_append,
      List.append_assoc, List.cons_append]
  | @parens inner s _ _ hi ih =>
    rw [List.cons_append, List.append_assoc, List.cons_append, maskFrom_openParen, hi,
      maskFrom_closeParen, maskFrom_openParen, hi, maskFrom_closeParen, ih, List.cons_append,
      List.append_assoc, List.cons_append]

/-- Between parentheses nothing of a balanced text is seen. -/
lemma Balanced.maskFrom_nested (hs : Balanced s) (h : 0 < depth) :
    maskFrom depth none s = List.replicate s.length ' ' := by
  induction hs generalizing depth with
  | nil => rfl
  | plain hc _ ih =>
    rw [maskFrom_plain hc, ih h, shownAt_nested h, List.length_cons, List.replicate_succ]
  | @quoted o q body s ho hq _ ih =>
    rw [maskFrom_opening ho, maskFrom_quoted hq, ih h, shownAt_nested h,
      shownAt_nested h, List.length_cons, List.length_append, List.length_cons, List.replicate_succ,
      List.replicate_add, List.replicate_succ]
  | @parens inner s hi _ ihi ih =>
    have deeper : 0 < depth + 1 := by omega
    rw [maskFrom_openParen, hi.maskFrom_append, ihi deeper, maskFrom_closeParen, ih h,
      shownAt_nested h, shownAt_nested h, List.length_cons, List.length_append, List.length_cons,
      List.replicate_succ, List.replicate_add, List.replicate_succ]

/-- What stands after a balanced text is masked as if it stood alone. -/
lemma Balanced.mask_append (hs : Balanced s) (t : List Char) : mask (s ++ t) = mask s ++ mask t :=
  hs.maskFrom_append 0 t

/-- A plain text is its own mask. -/
lemma mask_of_plain (h : ∀ c ∈ s, IsPlain c) : mask s = s := by
  induction s with
  | nil => rfl
  | cons c s ih =>
    rw [List.forall_mem_cons] at h
    rw [mask, maskFrom_plain h.1, shownAt_zero, ← mask, ih h.2]

/-- Of a quoted text the quotes show. -/
lemma mask_quoted {o q : Char} {body : List Char} (ho : closingQuote? o = some q)
    (hq : q ∉ body) (s : List Char) :
    mask (o :: (body ++ q :: s)) = o :: (List.replicate body.length ' ' ++ q :: mask s) := by
  rw [mask, maskFrom_opening ho, maskFrom_quoted hq]
  rfl

/-- Of what stands between parentheses only these are seen. -/
lemma Balanced.mask_parens {inner : List Char} (hi : Balanced inner) (s : List Char) :
    mask ('(' :: (inner ++ ')' :: s)) =
    '(' :: (List.replicate inner.length ' ' ++ ')' :: mask s) := by
  rw [mask, maskFrom_openParen, hi.maskFrom_append, hi.maskFrom_nested (by decide),
    maskFrom_closeParen]
  rfl

end Rulebook.Sql
