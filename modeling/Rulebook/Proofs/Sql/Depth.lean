import Rulebook.Proofs.Sql.Literal

/-!
# Balanced texts by their depth

A text is balanced exactly if none of its prefixes closes more parentheses than it opens and at its
end nothing is open (`balanced_iff`). So whether a text is balanced is decided by one scan, and a
prefix after which nothing is open can be taken off (`Balanced.split`).
-/

namespace Rulebook.Sql
open Text

variable {s t b : List Char} {depth : ℤ}

/-! ## The scan for depth -/

/-- The mask goes on in a text from where it stands after the text before. -/
lemma maskAfter_append (depth : ℤ) (quote : Option Char) (s t : List Char) :
    maskAfter depth quote (s ++ t) =
    maskAfter (maskAfter depth quote s).1 (maskAfter depth quote s).2 t := by
  fun_induction maskAfter depth quote s <;> simp_all [maskAfter]

/-- After a quote, the mask stands in the quoted text. -/
lemma maskAfter_opening {o q : Char} (h : closingQuote? o = some q) :
    maskAfter depth none (o :: s) = maskAfter depth (some q) s := by
  simp only [maskAfter, h]

/-- A plain character leaves the mask where it stands. -/
lemma maskAfter_plain {c : Char} (h : IsPlain c) :
    maskAfter depth none (c :: s) = maskAfter depth none s := by
  obtain ⟨hq, ho, hc⟩ := h
  simp only [maskAfter, hq, ho, hc, if_false]

/-- After an opening parenthesis, the mask stands one level deeper. -/
lemma maskAfter_openParen : maskAfter depth none ('(' :: s) = maskAfter (depth + 1) none s := rfl

/-- After a closing parenthesis, the mask stands one level higher. -/
lemma maskAfter_closeParen : maskAfter depth none (')' :: s) = maskAfter (depth - 1) none s := rfl

/-- What the mask shows is the character itself: outside of quotes or at their end, and at the top
level or leading to it. -/
lemma shown_inv {depth : ℤ} {quote : Option Char} {c m : Char}
    (shown : (maskFrom depth quote (c :: t)).head? = some m)
    (visible : m ≠ ' ') :
    c = m ∧ (depth ≤ 0 ∧ (∀ q ∈ quote, q = m) ∨ depth = 1 ∧ quote = none ∧ m = ')') := by
  have self {k : ℤ} (h : some (shownAt k c) = some m) : c = m ∧ k ≤ 0 := by
    rw [Option.some.injEq, shownAt] at h
    split at h
    · exact absurd h.symm visible
    · exact ⟨h, by omega⟩
  cases quote with
  | some q =>
    rw [maskFrom] at shown
    split at shown
    · rename_i eq
      obtain ⟨rfl, top⟩ := self shown
      exact ⟨rfl, .inl ⟨top, fun q' hq => (Option.mem_some_iff.1 hq).symm.trans eq.symm⟩⟩
    · exact absurd (Option.some.inj shown).symm visible
  | none =>
    have unquoted : ∀ q ∈ (none : Option Char), q = c := by simp
    rw [maskFrom] at shown
    split at shown
    · obtain ⟨rfl, top⟩ := self shown
      exact ⟨rfl, .inl ⟨top, unquoted⟩⟩
    · split at shown
      · obtain ⟨rfl, top⟩ := self shown
        exact ⟨rfl, .inl ⟨top, unquoted⟩⟩
      · split at shown
        · rename_i eq
          obtain ⟨rfl, top⟩ := self shown
          obtain top | last : depth ≤ 0 ∨ depth = 1 := by omega
          · exact ⟨rfl, .inl ⟨top, unquoted⟩⟩
          · exact ⟨rfl, .inr ⟨last, rfl, eq⟩⟩
        · obtain ⟨rfl, top⟩ := self shown
          exact ⟨rfl, .inl ⟨top, unquoted⟩⟩

/-- Quoted text that is not closed goes on to the end. -/
lemma maskAfter_openQuote {q : Char} (h : q ∉ s) (depth : ℤ) :
    maskAfter depth (some q) s = (depth, some q) := by
  induction s with
  | nil => rfl
  | cons c s ih =>
    obtain ⟨other, h⟩ := List.ne_and_not_mem_of_not_mem_cons h
    rw [maskAfter, if_neg other.symm, ih h]

/-- Quoted text changes no depth, closed or not. -/
lemma maskAfter_within {q : Char} {body p : List Char} (h : q ∉ body)
    (hp : p <+: body ++ [q]) (depth : ℤ) :
    (maskAfter depth (some q) p).1 = depth := by
  obtain rfl | hp := List.prefix_concat_iff.1 hp
  · rw [maskAfter_quoted h]
  · rw [maskAfter_openQuote fun hq => h (hp.mem hq)]

/-- A prefix of a text that begins with another one is a prefix of that one or goes on behind it. -/
lemma prefix_append_or {p : List Char} (h : p <+: s ++ t) :
    p <+: s ∨ ∃ r, p = s ++ r ∧ r <+: t := by
  obtain within | beyond := List.prefix_or_prefix_of_prefix h (List.prefix_append s t)
  · exact .inl within
  · obtain ⟨r, rfl⟩ := beyond
    exact .inr ⟨r, rfl, List.prefix_append_right_inj s |>.1 h⟩

/-- Nothing is open after a balanced text that was not open before it. -/
lemma Balanced.maskAfter_eq (hs : Balanced s) (depth : ℤ) :
    maskAfter depth none s = (depth, none) := by
  induction hs generalizing depth with
  | nil => rfl
  | plain hc _ ih => rw [maskAfter_plain hc, ih]
  | @quoted o q body s ho hq _ ih =>
    have whole : body ++ q :: s = body ++ [q] ++ s := by simp
    rw [maskAfter_opening ho, whole, maskAfter_append, maskAfter_quoted hq, ih]
  | @parens inner s _ _ hi ih =>
    rw [maskAfter_openParen, maskAfter_append, hi, maskAfter_closeParen, Int.add_sub_cancel, ih]

/-- No prefix of a balanced text goes below the depth before it. -/
lemma Balanced.le_maskAfter (hs : Balanced s) {p : List Char} (hp : p <+: s) (depth : ℤ) :
    depth ≤ (maskAfter depth none p).1 := by
  induction hs generalizing depth p with
  | nil =>
    obtain rfl := List.prefix_nil.1 hp
    exact Int.le_refl depth
  | plain hc _ ih =>
    obtain rfl | ⟨r, rfl, hr⟩ := List.prefix_cons_iff.1 hp
    · exact Int.le_refl depth
    · rw [maskAfter_plain hc]
      exact ih hr depth
  | @quoted o q body s ho hq _ ih =>
    obtain rfl | ⟨r, rfl, hr⟩ := List.prefix_cons_iff.1 hp
    · exact Int.le_refl depth
    · have whole : body ++ q :: s = body ++ [q] ++ s := by simp
      rw [maskAfter_opening ho]
      rw [whole] at hr
      obtain within | ⟨u, rfl, hu⟩ := prefix_append_or hr
      · exact Int.le_of_eq (maskAfter_within hq within depth).symm
      · rw [maskAfter_append, maskAfter_quoted hq]
        exact ih hu depth
  | @parens inner s hi _ ihi ih =>
    obtain rfl | ⟨r, rfl, hr⟩ := List.prefix_cons_iff.1 hp
    · exact Int.le_refl depth
    · rw [maskAfter_openParen]
      obtain within | ⟨u, rfl, hu⟩ := prefix_append_or hr
      · have := ihi within (depth + 1)
        omega
      · rw [maskAfter_append, hi.maskAfter_eq]
        obtain rfl | ⟨v, rfl, hv⟩ := List.prefix_cons_iff.1 hu
        · show depth ≤ depth + 1
          omega
        · rw [maskAfter_closeParen, Int.add_sub_cancel]
          exact ih hv depth

/-! ## Closing what is open -/

/-- A text that closes so many parentheses, and all that it opens itself. -/
inductive Closing : ℕ → List Char → Prop
  | balanced {s : List Char} : Balanced s → Closing 0 s
  | close {k : ℕ} {b s : List Char} : Balanced b → Closing k s → Closing (k + 1) (b ++ ')' :: s)

/-- A balanced text may stand before one that closes. -/
lemma Closing.prepend {k : ℕ} (hb : Balanced b) (h : Closing k s) : Closing k (b ++ s) := by
  cases h with
  | balanced hs => exact .balanced (hb.append hs)
  | close hc hs =>
    rw [← List.append_assoc]
    exact .close (hb.append hc) hs

/-- A text that goes from a depth to the top level without leaving it closes
that many parentheses. -/
lemma closing_of_maskAfter {k : ℕ} (above : ∀ p, p <+: s → 0 ≤ (maskAfter k none p).1)
    (closed : maskAfter k none s = (0, none)) : Closing k s := by
  induction hn : s.length using Nat.strong_induction_on generalizing s k with
  | _ n ih =>
    subst hn
    match s with
    | [] =>
      have zero : (k : ℤ) = 0 := congrArg Prod.fst closed
      obtain rfl : k = 0 := by exact_mod_cast zero
      exact .balanced .nil
    | c :: s =>
      -- What is balanced at the front is taken off: what follows it starts at the same depth.
      have rest {b t : List Char} (hb : Balanced b) (ht : c :: s = b ++ t) (ne : b ≠ []) :
          Closing k (c :: s) := by
        have shorter : t.length < (c :: s).length := by
          rw [ht, List.length_append]
          have := List.length_pos_of_ne_nil ne
          omega
        rw [ht] at above closed ⊢
        refine .prepend hb (ih t.length shorter (fun p hp => ?_) ?_ rfl)
        · have := above (b ++ p) ((List.prefix_append_right_inj b).2 hp)
          rwa [maskAfter_append, hb.maskAfter_eq] at this
        · rwa [maskAfter_append, hb.maskAfter_eq] at closed
      cases hq : closingQuote? c with
      | some q =>
        by_cases inside : q ∈ s
        · obtain ⟨body, t, rfl, first⟩ := List.eq_append_cons_of_mem inside
          exact rest (.quoted hq first .nil) (t := t) (by simp) (by simp)
        · rw [maskAfter_opening hq, maskAfter_openQuote inside] at closed
          cases congrArg Prod.snd closed
      | none =>
        by_cases opens : c = '('
        · subst opens
          have inner : Closing (k + 1) s := by
            refine ih s.length (by simp) (fun p hp => ?_) ?_ rfl
            · exact_mod_cast above ('(' :: p) (List.cons_prefix_cons.2 ⟨rfl, hp⟩)
            · exact_mod_cast closed
          cases inner with
          | @close _ b t hb ht =>
            have whole : '(' :: (b ++ ')' :: t) = '(' :: (b ++ [')']) ++ t := by simp
            rw [whole]
            exact .prepend (.parens hb .nil) ht
        · by_cases closes : c = ')'
          · subst closes
            have positive : (0 : ℤ) ≤ k - 1 := above [')'] (List.prefix_append [')'] s)
            obtain ⟨j, rfl⟩ : ∃ j, k = j + 1 := ⟨k - 1, by omega⟩
            have down : ((j + 1 : ℕ) : ℤ) - 1 = j := by omega
            refine .close .nil (ih s.length (by simp) (fun p hp => ?_) ?_ rfl)
            · have := above (')' :: p) (List.cons_prefix_cons.2 ⟨rfl, hp⟩)
              rwa [maskAfter_closeParen, down] at this
            · rwa [maskAfter_closeParen, down] at closed
          · exact rest (.plain ⟨hq, opens, closes⟩ .nil) (t := s) rfl (by simp)

/-- A text is balanced if none of its prefixes closes more parentheses than it opens, and if nothing
is open at its end. -/
theorem balanced_iff :
    Balanced s ↔ (∀ p, p <+: s → 0 ≤ (maskAfter 0 none p).1) ∧ maskAfter 0 none s = (0, none) := by
  constructor
  · intro h
    exact ⟨fun p hp => h.le_maskAfter hp 0, h.maskAfter_eq 0⟩
  · rintro ⟨above, closed⟩
    cases closing_of_maskAfter (k := 0) above closed with
    | balanced h => exact h

instance : Decidable (Balanced s) :=
  decidable_of_iff ((∀ p ∈ s.inits, 0 ≤ (maskAfter 0 none p).1) ∧
    maskAfter 0 none s = (0, none)) <| by
    simp only [List.mem_inits, balanced_iff]

/-- A balanced text parts where nothing is open. -/
lemma Balanced.split (h : Balanced (s ++ t)) (top : maskAfter 0 none s = (0, none)) :
    Balanced s ∧ Balanced t := by
  obtain ⟨above, closed⟩ := balanced_iff.1 h
  refine ⟨balanced_iff.2 ⟨fun p hp => above p (hp.trans (List.prefix_append s t)), top⟩,
    balanced_iff.2 ⟨fun p hp => ?_, ?_⟩⟩
  · have := above (s ++ p) ((List.prefix_append_right_inj s).2 hp)
    rwa [maskAfter_append, top] at this
  · rwa [maskAfter_append, top] at closed

end Rulebook.Sql
