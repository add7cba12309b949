import Rulebook.Proofs.Sql.Depth

/-!
# The top level of a text

Masking shows the same of a masked text (`maskFrom_maskFrom`). The pieces between separators
make up the text, and those of a balanced text are balanced and hold no separator at their own
top level (`splitTopLevel_lossless`): a separator parts a balanced text exactly if what stands
before it is balanced.
-/

namespace Rulebook.Sql
open Text

variable {s a b : List Char} {c sep : Char} {depth : ℤ} {quote : Option Char}

/-- The mask has a character of the text in its place, or a blank. -/
lemma getElem?_mask (s : List Char) (i : ℕ) : (mask s)[i]? = s[i]? ∨ (mask s)[i]? = some ' ' := by
  obtain within | beyond := Nat.lt_or_ge i s.length
  · have within' : i < (mask s).length := by rwa [length_mask]
    have pair : (s[i], (mask s)[i]) ∈ s.zip (mask s) := by
      rw [← List.getElem_zip (h := by rw [List.length_zip]; omega)]
      exact List.getElem_mem _
    rw [List.getElem?_eq_getElem within, List.getElem?_eq_getElem within', Option.some.injEq,
      Option.some.injEq]
    exact mem_zip_maskFrom pair
  · left
    rw [List.getElem?_eq_none beyond, List.getElem?_eq_none (by rwa [length_mask])]

/-! ## Masking again -/

/-- The characters that close quoted text. -/
def closings : List Char := ['\'', '"', backtick, ']']

/-- What closes a quoted text is a closing mark. -/
lemma mem_closings {o q : Char} (h : closingQuote? o = some q) : q ∈ closings := by
  unfold closingQuote? isQuote at h
  split at h
  · rename_i quote
    cases h
    simpa [closings, or_assoc] using Or.inl quote
  · split at h
    · cases h
      decide
    · cases h

/-- An open quote is closed by a closing one. -/
lemma mem_closings_of_maskAfter (visible : ∀ q ∈ quote, q ∈ closings) :
    ∀ q ∈ (maskAfter depth quote s).2, q ∈ closings := by
  have unquoted : ∀ q ∈ (none : Option Char), q ∈ closings := by simp
  fun_induction maskAfter depth quote s with
  | case1 => exact visible
  | case2 depth q c rest ih =>
    refine ih ?_
    split
    · exact unquoted
    · exact visible
  | case3 depth c rest q opens ih =>
    exact ih fun q' hq => Option.mem_some_iff.1 hq ▸ mem_closings opens
  | case4 depth c rest _ ih => exact ih unquoted

/-- Where the mask of a masked text stands, where the mask of the text itself stood: below the top
level nothing is left to see. -/
def shownState (depth : ℤ) (quote : Option Char) : ℤ × Option Char :=
  if 0 < depth then (1, none) else (depth, quote)

/-- A character of the mask stays when it is masked again, and leads to where the
character of the text led. -/
lemma shownState_step (depth : ℤ) (visible : ∀ q ∈ quote, q ∈ closings) (c : Char) :
    maskFrom (shownState depth quote).1 (shownState depth quote).2 (maskFrom depth quote [c]) =
    maskFrom depth quote [c] ∧
    maskAfter (shownState depth quote).1 (shownState depth quote).2 (maskFrom depth quote [c]) =
      shownState (maskAfter depth quote [c]).1 (maskAfter depth quote [c]).2 := by
  have nothing : closingQuote? ' ' = none := rfl
  cases quote with
  | some q =>
    have other : ' ' ≠ q := by
      rintro rfl
      exact absurd (visible _ rfl) (by decide)
    by_cases deep : 0 < depth <;> by_cases closes : c = q <;>
      simp [maskFrom, maskAfter, shownState, shownAt, deep, closes, other, nothing]
  | none =>
    cases opens : closingQuote? c with
    | some q => by_cases deep :
        0 < depth <;> simp [maskFrom, maskAfter, shownState, shownAt, deep, opens, nothing]
    | none =>
      -- A parenthesis is shown where it leads from the top level, or to it.
      by_cases paren : c = '('
      · subst paren
        obtain above | rfl | deep := Int.lt_trichotomy depth 0
        · have top : ¬ 0 < depth := by omega
          have top' : ¬ 0 < depth + 1 := by omega
          simp [maskFrom, maskAfter, shownState, shownAt, opens, top, top']
        · decide
        · have deeper : 0 < depth + 1 := by omega
          simp [maskFrom, maskAfter, shownState, shownAt, opens, nothing, deep, deeper]
      · by_cases closes : c = ')'
        · subst closes
          obtain above | rfl | below := Int.lt_trichotomy depth 1
          · have top : ¬ 0 < depth := by omega
            have top' : ¬ 1 < depth := by omega
            simp [maskFrom, maskAfter, shownState, shownAt, opens, top, top']
          · decide
          · have deep : 0 < depth := by omega
            simp [maskFrom, maskAfter, shownState, shownAt, opens, nothing, deep, below]
        · by_cases deep : 0 < depth <;>
            simp [maskFrom, maskAfter, shownState, shownAt, deep, opens, paren, closes, nothing]

/-- Masking a masked text shows the same, wherever the mask begins. -/
lemma maskFrom_maskFrom (depth : ℤ) (quote : Option Char) (visible : ∀ q ∈ quote, q ∈ closings)
    (s : List Char) :
    maskFrom (shownState depth quote).1 (shownState depth quote).2 (maskFrom depth quote s) =
    maskFrom depth quote s := by
  induction s generalizing depth quote with
  | nil => rfl
  | cons c s ih =>
    obtain ⟨same, after⟩ := shownState_step depth visible c
    have parts : maskFrom depth quote (c :: s) =
        maskFrom depth quote [c] ++
        maskFrom (maskAfter depth quote [c]).1 (maskAfter depth quote [c]).2 s :=
      maskFrom_append depth quote [c] s
    rw [parts, maskFrom_append, same, after, ih _ _ (mem_closings_of_maskAfter visible)]

/-- Masking is idempotent. -/
lemma mask_mask (s : List Char) : mask (mask s) = mask s := maskFrom_maskFrom 0 none (by simp) s

/-! ## Separators -/

/-- The separators of statements and of items. -/
def separators : List Char := [',', ';']

/-- Separators are plain, and neither blanks nor closing marks. -/
lemma separator_facts : ∀ sep ∈ separators, IsPlain sep ∧ sep ≠ ' ' ∧ sep ∉ closings := by
  rw [separators, List.forall_mem_cons, List.forall_mem_singleton]
  decide

/-- A separator that the mask shows is one, and stands outside quotes and below no parenthesis. -/
lemma top_of_shown (hsep : sep ∈ separators) (shown : (mask (a ++ c :: b))[a.length]? = some sep) :
    c = sep ∧ ∃ d ≤ 0, maskAfter 0 none a = (d, none) := by
  obtain ⟨⟨-, -, noParen⟩, visible, noClosing⟩ := separator_facts sep hsep
  have closes : ∀ q ∈ (maskAfter 0 none a).2, q ∈ closings := mem_closings_of_maskAfter (by simp)
  rw [mask, maskFrom_append, List.getElem?_append_right (length_maskFrom ..).le,
    length_maskFrom, Nat.sub_self, ← List.head?_eq_getElem?] at shown
  obtain ⟨rfl, ⟨top, quoted⟩ | ⟨-, -, paren⟩⟩ := shown_inv shown visible
  · have unquoted : (maskAfter 0 none a).2 = none :=
      Option.eq_none_iff_forall_not_mem.2 fun q hq => noClosing (quoted q hq ▸ closes q hq)
    exact ⟨rfl, _, top, Prod.ext rfl unquoted⟩
  · exact absurd paren noParen

/-! ## Parts of a balanced text -/

variable {x y z : List (Char × Char)}

/-- Behind a balanced text, the marks are those of the rest on its own. -/
lemma Balanced.zip_mask_append (ha : Balanced a) (b : List Char) :
    (a ++ b).zip (mask (a ++ b)) = a.zip (mask a) ++ b.zip (mask b) := by
  rw [ha.mask_append, List.zip_append (length_mask a).symm]

/-- The text of a row of characters and marks is its characters. -/
lemma text_of_zip (h : s.zip (mask s) = z) : s = z.map Prod.fst := by
  rw [← h, List.map_fst_zip (length_mask s).ge]

/-- The mask of a row of characters and marks is its marks. -/
lemma mask_of_zip (h : s.zip (mask s) = z) : mask s = z.map Prod.snd := by
  rw [← h, List.map_snd_zip (length_mask s).le]

/-- A balanced text parts before a separator that the mask shows. -/
lemma Balanced.parts_before (hs : Balanced s) (hsep : sep ∈ separators)
    (hz : s.zip (mask s) = x ++ y) (starts : ∀ d ∈ y.head?, d.2 = sep) :
    ∃ a b, s = a ++ b ∧ Balanced a ∧ Balanced b ∧ x = a.zip (mask a) ∧ y = b.zip (mask b) := by
  have whole : s = x.map Prod.fst ++ y.map Prod.fst := by
    rw [← List.map_append, ← text_of_zip hz]
  have closed : maskAfter 0 none (x.map Prod.fst) = (0, none) := by
    cases y with
    | nil =>
      rw [List.map_nil, List.append_nil] at whole
      rw [← whole, hs.maskAfter_eq]
    | cons d y =>
      have shown : (mask s)[(x.map Prod.fst).length]? = some sep := by
        simp [mask_of_zip hz, starts d rfl]
      rw [whole, List.map_cons] at shown
      obtain ⟨-, depth, top, after⟩ := top_of_shown hsep shown
      have nested := hs.le_maskAfter ⟨_, whole.symm⟩ 0
      rw [after] at nested
      obtain rfl : depth = 0 := Int.le_antisymm top nested
      exact after
  rw [whole] at hs hz
  obtain ⟨ha, hb⟩ := hs.split closed
  rw [ha.zip_mask_append] at hz
  obtain ⟨hx, hy⟩ := List.append_inj hz (by simp [length_mask])
  exact ⟨_, _, whole, ha, hb, hx.symm, hy.symm⟩

/-- A balanced text parts after a separator that the mask shows. -/
lemma Balanced.parts_after (hs : Balanced s) (hsep : sep ∈ separators)
    (hz : s.zip (mask s) = x ++ y) (ends : ∀ d ∈ x.getLast?, d.2 = sep) :
    ∃ a b, s = a ++ b ∧ Balanced a ∧ Balanced b ∧ x = a.zip (mask a) ∧ y = b.zip (mask b) := by
  obtain rfl | ⟨x, d, rfl⟩ := List.eq_nil_or_concat' x
  · exact ⟨[], s, rfl, .nil, hs, rfl, hz.symm⟩
  · rw [List.getLast?_concat] at ends
    rw [List.append_assoc, List.singleton_append] at hz
    obtain ⟨a, b, rfl, ha, hb, rfl, hy⟩ := hs.parts_before hsep hz fun e he => ends e he
    cases b with
    | nil => cases hy
    | cons c b =>
      have shown : (mask ([] ++ c :: b))[([] : List Char).length]? = some sep := by
        rw [List.nil_append, mask_of_zip hy.symm, List.length_nil, List.map_cons,
          List.getElem?_cons_zero, ends d rfl]
      obtain ⟨rfl, -⟩ := top_of_shown hsep shown
      have alone : maskAfter 0 none [c] = (0, none) := maskAfter_plain (separator_facts c hsep).1
      obtain ⟨hc, hb⟩ := hb.split (s := [c]) alone
      have pairs : [d] ++ y = [c].zip (mask [c]) ++ b.zip (mask b) :=
        hy.trans (hc.zip_mask_append b)
      obtain ⟨hd, hy⟩ := List.append_inj pairs (by simp [length_mask])
      refine ⟨a ++ [c], b, by simp, ha.append hc, hb, ?_, hy⟩
      rw [ha.zip_mask_append, hd]

/-! ## Pieces -/

/-- Joined with the separator, the pieces make up the text. -/
lemma joinWith_cut {isSep : Char → Bool} (same : ∀ d ∈ z, isSep d.2 = true → d.1 = sep) (pos : ℕ) :
    joinWith [sep] ((cut isSep pos z).map Piece.text) = z.map Prod.fst := by
  fun_induction cut isSep pos z with
  | case1 => rfl
  | case2 pos c m rest shown ih =>
    obtain ⟨rfl, same⟩ : c = sep ∧ _ :=
      ⟨same (c, m) (List.mem_cons_self ..) shown, List.forall_mem_of_forall_mem_cons same⟩
    obtain ⟨q, qs, first⟩ := cut_head isSep (pos + 1) rest
    have joined := ih same
    rw [first, List.map_cons] at joined ⊢
    rw [List.map_cons, joinWith_cons_cons, joined, List.map_cons, List.nil_append]
  | case3 pos c m rest _ none => exact absurd none (cut_ne_nil _ _)
  | case4 pos c m rest _ p ps eq ih =>
    have joined := ih (List.forall_mem_of_forall_mem_cons same)
    rw [eq] at joined
    rw [List.map_cons (l := rest), ← joined]
    cases ps with
    | nil => simp [joinWith]
    | cons q qs => simp only [List.map_cons, joinWith_cons_cons, List.cons_append]

/-- A piece of a balanced text is balanced and is its own only piece. -/
lemma Balanced.piece (hs : Balanced s) (hsep : sep ∈ separators) {p : Piece}
    (hp : p ∈ splitTopLevel (· == sep) s) :
    Balanced p.text ∧ splitTopLevel (· == sep) p.text = [⟨p.text, 0⟩] := by
  obtain ⟨before, part, after, hz, rfl, inside, opens, closes⟩ := cut_slice hp
  rw [← List.append_assoc] at hz
  obtain ⟨t, _, -, ht, -, upTo, -⟩ := hs.parts_before hsep hz fun d hd => eq_of_beq (closes d hd)
  obtain ⟨_, u, -, -, hu, -, own⟩ := ht.parts_after hsep upTo.symm fun d hd =>
    eq_of_beq (opens d hd)
  rw [← text_of_zip own.symm]
  refine ⟨hu, ?_⟩
  rw [splitTopLevel, ← own, cut_single inside, text_of_zip own.symm]

/-- A separator parts a balanced text exactly if what stands before it is balanced. -/
lemma Balanced.parted_iff (hs : Balanced (a ++ sep :: b)) (hsep : sep ∈ separators) :
    (∃ p ∈ splitTopLevel (· == sep) (a ++ sep :: b), p.offset = a.length + 1) ↔ Balanced a := by
  constructor
  · rintro ⟨p, hp, offset⟩
    obtain ⟨before, part, after, hz, rfl, -, opens, -⟩ := cut_slice hp
    obtain rfl | ⟨before, d, rfl⟩ := List.eq_nil_or_concat' before
    · simp at offset
    · rw [List.append_assoc, List.singleton_append] at hz
      obtain ⟨t, u, whole, ht, -, rfl, -⟩ := hs.parts_before hsep hz fun e he => by
        cases he
        exact eq_of_beq (opens d (by simp))
      obtain ⟨rfl, -⟩ := List.append_inj whole (by simpa [length_mask] using offset.symm)
      exact ht
  · intro ha
    have own : mask (sep :: b) = sep :: mask b := maskFrom_plain (separator_facts sep hsep).1
    have shown : (a ++ sep :: b).zip (mask (a ++ sep :: b)) = a.zip (mask a) ++
        (sep, sep) :: b.zip (mask b) := by
      rw [ha.zip_mask_append, own, List.zip_cons_cons]
    have before : 0 + (a.zip (mask a)).length = a.length := by simp [length_mask]
    obtain ⟨q, qs, first⟩ := cut_head (· == sep) (a.length + 1) (b.zip (mask b))
    refine ⟨⟨q, a.length + 1⟩, ?_, rfl⟩
    have parted : cut (· == sep) 0 (a.zip (mask a) ++ (sep, sep) :: b.zip (mask b)) =
        cut (· == sep) 0 (a.zip (mask a)) ++ cut (· == sep) (0 + (a.zip (mask a)).length + 1)
          (b.zip (mask b)) :=
      cut_append (by simp) 0 _ _
    rw [splitTopLevel, shown, parted, before, first]
    exact List.mem_append_right _ (List.mem_cons_self ..)

/-- The mask of a text has its characters or blanks in their places, and masking it again changes
nothing. Joined with the separator, the pieces between separators make up the text, and each is what
the text holds at its offset. A piece of a balanced text is balanced and its own only piece: a
separator in quotes or parentheses parts nothing, and any other does. -/
theorem splitTopLevel_lossless (s : List Char) :
    (mask s).length = s.length ∧ (∀ i : ℕ, (mask s)[i]? = s[i]? ∨ (mask s)[i]? = some ' ') ∧
    mask (mask s) = mask s ∧ ∀ sep ∈ separators,
      joinWith [sep] ((splitTopLevel (· == sep) s).map Piece.text) = s ∧
      (∀ p ∈ splitTopLevel (· == sep) s, p.text <+: s.drop p.offset) ∧
      (Balanced s →
        (∀ p ∈ splitTopLevel (· == sep) s, Balanced p.text ∧
          splitTopLevel (· == sep) p.text = [⟨p.text, 0⟩]) ∧
        ∀ a b, s = a ++ sep :: b →
          ((∃ p ∈ splitTopLevel (· == sep) s, p.offset = a.length + 1) ↔ Balanced a)) := by
  refine ⟨length_mask s, getElem?_mask s, mask_mask s, fun sep hsep =>
    ⟨?_, fun p hp => ?_, fun hs => ⟨?_, ?_⟩⟩⟩
  · have shown : ∀ d ∈ s.zip (mask s), (d.2 == sep) = true → d.1 = sep := by
      intro d hd same
      obtain rfl := eq_of_beq same
      obtain same | blank := mem_zip_maskFrom hd
      · exact same.symm
      · exact absurd blank (separator_facts _ hsep).2.1
    rw [splitTopLevel, joinWith_cut shown, ← text_of_zip rfl]
  · have blank : (' ' == sep) = false := beq_eq_false_iff_ne.2 (separator_facts sep hsep).2.1.symm
    obtain ⟨before, after, whole, offset, -⟩ := splitTopLevel_slice blank hp
    refine ⟨after, ?_⟩
    conv => rhs; rw [whole, ← offset, List.drop_left]
  · exact fun p hp => hs.piece hsep hp
  · rintro a b rfl
    exact hs.parted_iff hsep

/-- The definitions of two columns, with commas in a type, in a name and between the two. -/
def twoColumns : List Char := "price DECIMAL(10,2), [net, EUR] INT".toList

/-- Two columns are parted by the comma between them, and not by the one in parentheses. -/
theorem twoColumns_pieces :
    ',' ∈ separators ∧ Balanced twoColumns ∧
    (∀ p ∈ splitTopLevel (· == ',') twoColumns, Balanced p.text ∧
      splitTopLevel (· == ',') p.text = [⟨p.text, 0⟩]) ∧
    ((∃ p ∈ splitTopLevel (· == ',') twoColumns,
      p.offset = "price DECIMAL(10,2)".toList.length + 1) ↔ Balanced "price DECIMAL(10,2)".toList) ∧
    ((∃ p ∈ splitTopLevel (· == ',') twoColumns, p.offset = "price DECIMAL(10".toList.length + 1) ↔
      Balanced "price DECIMAL(10".toList) := by
  have known : ',' ∈ separators := by decide
  have balanced : Balanced twoColumns := by decide +kernel
  obtain ⟨pieces, parted⟩ := ((splitTopLevel_lossless twoColumns).2.2.2 ',' known).2.2 balanced
  exact ⟨known, balanced, pieces, parted _ " [net, EUR] INT".toList rfl,
    parted _ "2), [net, EUR] INT".toList rfl⟩

end Rulebook.Sql
