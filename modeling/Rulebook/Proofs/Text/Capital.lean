import Rulebook.Proofs.Outcome
import Rulebook.Proofs.Text.Blank
import Rulebook.Proofs.Text.Ways
import Rulebook.Proofs.Text.Word
import Rulebook.Text.Case

/-!
# Words in capitals

Making the letters of a text capital parts no word and joins none (`words_upper_joinWith`). The case
variants of a keyword have the capitals of the keyword (`Variant.upper_eq`), but for the dotted
capital `i`, which is its own capital form.
-/

namespace Rulebook.Text
open Pattern

/-! ## Words of a text -/

/-- A blank in front makes no word. -/
lemma words_cons_blank {c : Char} (hc : isBlank c = true) (s : List Char) :
    words (c :: s) = words s := by
  rw [words, splitRuns, splitOn, if_pos hc]
  rfl

/-- Blanks in front make no word. -/
lemma words_blanks {g : List Char} (hg : ∀ c ∈ g, isBlank c = true) (s : List Char) :
    words (g ++ s) = words s := by
  induction g with
  | nil => rfl
  | cons c g ih =>
    rw [List.forall_mem_cons] at hg
    rw [List.cons_append, words_cons_blank hg.1]
    exact ih hg.2

/-- The first word of a text ends where blanks follow. -/
lemma words_solid {w g : List Char} (hw : Solid w) (hg : ∀ c ∈ g, isBlank c = true)
    (ne : g ≠ []) (s : List Char) :
    words (w ++ (g ++ s)) = w :: words s := by
  obtain ⟨c, g, rfl⟩ := List.exists_cons_of_ne_nil ne
  rw [List.forall_mem_cons] at hg
  have first : words (w ++ c :: (g ++ s)) = w :: words (g ++ s) := by
    rw [words, splitRuns, splitOn_append hg.1 hw.2, List.filter_cons_of_pos (by simpa using hw.1)]
    rfl
  rw [List.cons_append, first, words_blanks hg.2]

/-- Pieces hold no separators. -/
lemma not_isSep_of_mem_splitOn {isSep : Char → Bool} {s piece : List Char}
    (h : piece ∈ splitOn isSep s) :
    ∀ c ∈ piece, isSep c = false := by
  induction s generalizing piece with
  | nil =>
    cases List.mem_singleton.1 h
    exact List.forall_mem_nil _
  | cons c s ih =>
    obtain ⟨p, ps, hp⟩ := splitOn_head isSep s
    rw [splitOn, hp] at h
    split at h
    · obtain rfl | h := List.mem_cons.1 h
      · exact List.forall_mem_nil _
      · exact ih (hp ▸ h)
    · rename_i plain
      obtain rfl | h := List.mem_cons.1 h
      · exact List.forall_mem_cons.2 ⟨Bool.eq_false_iff.2 plain, ih (hp ▸ List.mem_cons_self)⟩
      · exact ih (hp ▸ List.mem_cons_of_mem p h)

/-- A word is solid. -/
lemma solid_of_mem_words {s w : List Char} (h : w ∈ words s) : Solid w := by
  obtain ⟨piece, some⟩ := List.mem_filter.1 h
  exact ⟨by simpa using some, not_isSep_of_mem_splitOn piece⟩

/-! ## Capitals -/

/-- A run of small letters has no blank among its partners. -/
def CaseRun.sparesBlanks (r : CaseRun) : Bool :=
  blankCodes.all fun b => Nat.blt b (r.first + r.shift).toNat || Nat.blt (r.last + r.shift).toNat b

/-- No run of small letters has a blank among its partners. -/
lemma upperRuns_spareBlanks : ∀ r ∈ upperRuns, r.sparesBlanks = true := by decide +kernel

/-- What is no blank has solid capitals, among the characters of ASCII. -/
lemma solid_ascii : ∀ n < 128, isBlank (Char.ofNat n) = false →
    Solid (upperChar (Char.ofNat n)) := by decide +kernel

/-- The capitals of more than one character are solid. -/
lemma solid_upperSpecial : ∀ e ∈ upperSpecial, Solid (e.2.map Char.ofNat) := by decide +kernel

/-- The partner of a small letter is no blank. -/
lemma not_isBlank_of_image? {r : CaseRun} (spares : r.sparesBlanks = true) {n : Nat} {c : Char}
    (h : r.image? n = some c) :
    isBlank c = false := by
  by_contra blank
  have code := List.all_eq_true.1 spares c.toNat (mem_blankCodes (Bool.not_eq_false _ ▸ blank))
  rw [Bool.or_eq_true, Nat.blt_eq, Nat.blt_eq] at code
  unfold CaseRun.image? at h
  split at h
  · rename_i held
    simp only [Bool.and_eq_true, decide_eq_true_eq] at held
    cases h
    by_cases valid : ((n : Int) + r.shift).toNat.isValidChar
    · have same : (Char.ofNat ((n : Int) + r.shift).toNat).toNat = ((n : Int) + r.shift).toNat := by
        unfold Char.ofNat
        rw [dif_pos valid]
        rfl
      rw [same] at code
      omega
    · have null : Char.ofNat ((n : Int) + r.shift).toNat = Char.ofNat 0 := by
        unfold Char.ofNat
        rw [dif_neg valid]
        rfl
      rw [null] at blank
      exact blank (by decide)
  · cases h

/-- The capital form of a character that is no blank is one or more such characters. -/
lemma solid_upperChar {c : Char} (h : isBlank c = false) : Solid (upperChar c) := by
  by_cases ascii : c.toNat < 128
  · have form := solid_ascii c.toNat ascii
    rw [Char.ofNat_toNat] at form
    exact form h
  · unfold upperChar
    rw [if_neg ascii]
    split
    · rename_i ns found
      obtain ⟨before, after, entries, -⟩ := List.lookup_eq_some_iff.1 found
      exact solid_upperSpecial (c.toNat, ns) (entries ▸ List.mem_append_cons_self)
    · refine ⟨List.cons_ne_nil _ _, fun d hd => ?_⟩
      cases List.mem_singleton.1 hd
      cases found : upperRuns.findSome? (·.image? c.toNat) with
      | none => exact h
      | some d =>
        obtain ⟨r, hr, image⟩ := List.exists_of_findSome?_eq_some found
        exact not_isBlank_of_image? (upperRuns_spareBlanks r hr) image

/-- The capitals of two texts are those of both. -/
lemma upper_append (s t : List Char) : upper (s ++ t) = upper s ++ upper t := List.flatMap_append

/-- The capitals of a solid text are solid. -/
lemma solid_upper {w : List Char} (h : Solid w) : Solid (upper w) := by
  refine ⟨?_, fun d hd => ?_⟩
  · obtain ⟨c, w, rfl⟩ := List.exists_cons_of_ne_nil h.1
    rw [upper, List.flatMap_cons]
    exact List.append_ne_nil_of_left_ne_nil (solid_upperChar (h.2 c (.head _))).1 _
  · obtain ⟨c, hc, hd⟩ := List.mem_flatMap.1 hd
    exact (solid_upperChar (h.2 c hc)).2 d hd

/-- The capitals of joined words are their capitals joined. -/
lemma upper_joinWith (ws : List (List Char)) :
    upper (joinWith [' '] ws) = joinWith [' '] (ws.map upper) := by
  induction ws with
  | nil => rfl
  | cons w ws ih =>
    cases ws with
    | nil => simp [joinWith]
    | cons v ws =>
      rw [joinWith_cons_cons, upper_append, List.map_cons, List.map_cons, joinWith_cons_cons,
        ← List.map_cons, ← ih]
      rfl

/-- Joined words in capitals are the words in capitals. -/
lemma words_upper_joinWith {ws : List (List Char)} (h : ∀ w ∈ ws, Solid w) :
    words (upper (joinWith [' '] ws)) = ws.map upper := by
  rw [upper_joinWith, words_joinWith]
  intro v hv
  obtain ⟨w, hw, rfl⟩ := List.mem_map.1 hv
  exact solid_upper (h w hw)

/-! ## Keywords -/

namespace Pattern

/-- A variant of a letter has its capital form, unless it is the dotted capital `i`
or the Kelvin sign. -/
lemma upperChar_of_sameLetter {l c : Char} (hl : IsLetter l) (h : sameLetter l c = true) :
    upperChar c = upperChar l ∨ l = 'i' ∧ c = Char.ofNat 0x130 ∨ l = 'k' ∧
    c = Char.ofNat 0x212A := by
  have small : ∀ n < 26, upperChar (Char.ofNat (n + 65)) = upperChar (Char.ofNat (n + 97)) := by
    decide +kernel
  have char (x : Char) {n : Nat} (hn : x.toNat = n) : x = Char.ofNat n := by
    rw [← hn, Char.ofNat_toNat]
  obtain same | capital | ⟨i, dotted | dotless⟩ | ⟨s, long⟩ | ⟨k, kelvin⟩ := sameLetter_codes h
  · rw [char c same, Char.ofNat_toNat]
    exact .inl rfl
  · obtain ⟨low, high⟩ := hl
    have partner := small (l.toNat - 97) (by omega)
    rw [Nat.sub_add_cancel low, Char.ofNat_toNat, show l.toNat - 97 + 65 = c.toNat by omega,
      Char.ofNat_toNat] at partner
    exact .inl partner
  · exact .inr (.inl ⟨char l i, char c dotted⟩)
  · rw [char c dotless, char l i]
    exact .inl (by decide +kernel)
  · rw [char c long, char l s]
    exact .inl (by decide +kernel)
  · exact .inr (.inr ⟨char l k, char c kelvin⟩)

/-- A variant of a keyword without `i` and `k` has the capitals of the keyword. -/
lemma Variant.upper_eq {w t : List Char} (letters : ∀ l ∈ w, IsLetter l)
    (hi : 'i' ∉ w) (hk : 'k' ∉ w) (h : Variant w t) : upper t = upper w := by
  induction h with
  | nil => rfl
  | @cons l c w t same _ ih =>
    rw [List.forall_mem_cons] at letters
    rw [List.mem_cons, not_or] at hi hk
    obtain form | ⟨rfl, -⟩ | ⟨rfl, -⟩ := upperChar_of_sameLetter letters.1 same
    · rw [upper, upper, List.flatMap_cons, List.flatMap_cons, form]
      exact congrArg _ (ih letters.2 hi.2 hk.2)
    · exact absurd rfl hi.1
    · exact absurd rfl hk.1

/-- A word is a variant of one keyword at most. -/
lemma Variant.unique {w w' t : List Char} (letters : ∀ l ∈ w, IsLetter l)
    (letters' : ∀ l ∈ w', IsLetter l) (h : Variant w t) (h' : Variant w' t) : w = w' := by
  induction h generalizing w' with
  | nil =>
    cases h'
    rfl
  | cons same _ ih =>
    cases h' with
    | cons same' rest' =>
      rw [List.forall_mem_cons] at letters letters'
      rw [sameLetter_unique letters.1 letters'.1 same same', ih letters.2 letters'.2 rest']

/-- What is a word of letters up to case is solid. -/
lemma Variant.solid {w t : List Char} (letters : ∀ l ∈ w, IsLetter l) (ne : w ≠ [])
    (h : Variant w t) : Solid t := by
  constructor
  · rintro rfl
    cases h
    exact ne rfl
  · intro c hc
    obtain ⟨l, hl, same⟩ := exists_of_forall₂ h hc
    by_contra blank
    have word := not_isWord_of_isBlank (Bool.not_eq_false _ ▸ blank)
    rw [isWord_of_sameLetter (letters l hl) same] at word
    cases word

end Pattern
end Rulebook.Text
