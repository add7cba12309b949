import Rulebook.Proofs.Text.Pattern
import Rulebook.Text.Digit

/-!
# Characters of words

No blank stands in a word (`not_isWord_of_isBlank`), and every letter does, also the letters beyond
ASCII that count as case variants (`isWord_of_begins`, `isWord_of_sameLetter`). Words and numerals
hold none of the marks that texts are cut at.
-/

namespace Rulebook.Text
open Pattern

/-- The code points of blanks. -/
def blankCodes : List Nat :=
  [9, 10, 11, 12, 13, 28, 29, 30, 31, 32, 0x85, 0xA0, 0x1680, 0x2000, 0x2001, 0x2002,
  0x2003, 0x2004, 0x2005, 0x2006, 0x2007, 0x2008, 0x2009, 0x200A, 0x2028, 0x2029,
  0x202F, 0x205F, 0x3000]

/-- The blanks are listed. -/
lemma mem_blankCodes {c : Char} (h : isBlank c = true) : c.toNat ∈ blankCodes := by
  simp only [isBlank, Bool.or_eq_true, Bool.and_eq_true, decide_eq_true_eq, beq_iff_eq] at h
  simp only [blankCodes, List.mem_cons, List.not_mem_nil, or_false]
  omega

/-- The code points of the letters beyond ASCII that count as case variants. -/
def variantCodes : List Nat := [0x130, 0x131, 0x17F, 0x212A]

/-- No blank belongs to a word, and all other forms of letters do. -/
lemma isWord_codes : (∀ n ∈ blankCodes, isWord (Char.ofNat n) = false) ∧
    ∀ n ∈ variantCodes, isWord (Char.ofNat n) = true := by
  decide +kernel

/-- A blank belongs to no word. -/
lemma not_isWord_of_isBlank {c : Char} (h : isBlank c = true) : isWord c = false := by
  have word := isWord_codes.1 c.toNat (mem_blankCodes h)
  rwa [Char.ofNat_toNat] at word

/-- A letter up to case, or an underscore, stands in words. -/
lemma isWord_of_begins {c : Char} (h : (isLetterUpToCase c || c == '_') = true) :
    isWord c = true := by
  have cases : isAsciiLetter c = true ∨ c.toNat ∈ variantCodes ∨ c = '_' := by
    simpa [isLetterUpToCase, variantCodes, or_assoc] using h
  obtain letter | variant | rfl := cases
  · rw [isWord, letter]
    rfl
  · have word := isWord_codes.2 c.toNat variant
    rwa [Char.ofNat_toNat] at word
  · rfl

/-- A small letter of ASCII. -/
def IsLetter (l : Char) : Prop := 97 ≤ l.toNat ∧ l.toNat ≤ 122

instance (l : Char) : Decidable (IsLetter l) := inferInstanceAs (Decidable (_ ∧ _))

/-- The case variants of a small letter. -/
lemma sameLetter_codes {l c : Char} (h : sameLetter l c = true) :
    c.toNat = l.toNat ∨ c.toNat + 32 = l.toNat ∨
    (l.toNat = 105 ∧ (c.toNat = 0x130 ∨ c.toNat = 0x131)) ∨
      (l.toNat = 115 ∧ c.toNat = 0x17F) ∨ (l.toNat = 107 ∧ c.toNat = 0x212A) := by
  simp only [sameLetter, Bool.or_eq_true, Bool.and_eq_true, beq_iff_eq, decide_eq_true_eq] at h
  obtain rfl | ⟨-, ((capital | ⟨rfl, i⟩) | ⟨rfl, s⟩) | ⟨rfl, k⟩⟩ := h
  · exact .inl rfl
  · exact .inr (.inl capital)
  · exact .inr (.inr (.inl ⟨rfl, i⟩))
  · exact .inr (.inr (.inr (.inl ⟨rfl, s⟩)))
  · exact .inr (.inr (.inr (.inr ⟨rfl, k⟩)))

/-- A character is a case variant of one letter at most. -/
lemma sameLetter_unique {l l' c : Char} (hl : IsLetter l) (hl' : IsLetter l')
    (h : sameLetter l c = true) (h' : sameLetter l' c = true) : l = l' := by
  have codes := sameLetter_codes h
  have codes' := sameLetter_codes h'
  obtain ⟨low, high⟩ := hl
  obtain ⟨low', high'⟩ := hl'
  exact Char.ext (UInt32.toNat_inj.1 (show l.toNat = l'.toNat by omega))

/-- What is a letter up to case belongs to a word. -/
lemma isWord_of_sameLetter {l c : Char} (hl : IsLetter l) (h : sameLetter l c = true) :
    isWord c = true := by
  refine isWord_of_begins (Bool.or_eq_true _ _ ▸ .inl ?_)
  have codes := sameLetter_codes h
  obtain ⟨low, high⟩ := hl
  simp only [isLetterUpToCase, isAsciiLetter, Bool.or_eq_true, Bool.and_eq_true,
    decide_eq_true_eq, beq_iff_eq, Char.le_def, UInt32.le_iff_toNat_le]
  have code (x : Char) : x.val.toNat = x.toNat := rfl
  simp only [code]
  have ends : 'a'.toNat = 97 ∧ 'z'.toNat = 122 ∧ 'A'.toNat = 65 ∧ 'Z'.toNat = 90 := by decide
  omega

end Rulebook.Text
