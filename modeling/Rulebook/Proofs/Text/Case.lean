import Mathlib.Tactic.Lemma
import Rulebook.Text.Case

/-!
# Small letters stay as they are

The partners of the capital letters lie outside the runs of capitals (`lowerRuns_avoid`), so the
small form of a letter is its own small form (`lowerChar_small`), and making the letters of a text
small a second time changes nothing (`lower_lower`).
-/

namespace Rulebook.Text

/-! ## Runs -/

/-- The partners of a run lie in no part of another one: before it, after it, or
between its letters. -/
def CaseRun.avoids (r r' : CaseRun) : Bool :=
  -- `Nat.blt` is what makes the check of the whole table fast.
  Nat.blt (r.last + r.shift).toNat r'.first || Nat.blt r'.last (r.first + r.shift).toNat ||
    r'.step == 2 && (r.step == 2 || r.first == r.last) && 0 ≤ r.first + r.shift &&
      (r.first + r.shift - r'.first) % 2 == 1

/-- A partner of the one run is not held by the other. -/
lemma CaseRun.image?_of_avoids {r r' : CaseRun} (h : r.avoids r' = true) {n : Nat} {c : Char}
    (hn : r.image? n = some c) : r'.image? (n + r.shift).toNat = none := by
  unfold image? at hn ⊢
  simp only [avoids, Nat.blt_eq, Bool.or_eq_true, Bool.and_eq_true, beq_iff_eq,
    decide_eq_true_eq] at h
  split at hn
  · rename_i held
    simp only [Bool.and_eq_true, decide_eq_true_eq, beq_iff_eq] at held
    rw [if_neg]
    simp only [Bool.and_eq_true, decide_eq_true_eq, beq_iff_eq]
    rintro ⟨⟨lo, hi⟩, rest⟩
    obtain (below | above) | ⟨⟨⟨step', step⟩, pos⟩, odd⟩ := h
    · omega
    · omega
    · rw [step'] at rest
      obtain step | single := step
      · rw [step] at held
        omega
      · omega
  · cases hn

/-- All capital letters: those of ASCII, the one whose small form is two
characters, and the others. -/
def capitalRuns : List CaseRun := ⟨0x41, 0x5A, 1, 32⟩ :: ⟨0x130, 0x130, 1, 0⟩ :: lowerRuns

/-- The small forms of capitals are no capitals. -/
lemma lowerRuns_avoid : ∀ r ∈ lowerRuns, capitalRuns.all r.avoids = true := by decide +kernel

/-! ## Letters -/

/-- A character that is its own small form, and not the capital sigma, whose small form
depends on its place. -/
def IsSmall (c : Char) : Prop := lowerChar c = [c] ∧ c.toNat ≠ 0x3A3

instance (c : Char) : Decidable (IsSmall c) := inferInstanceAs (Decidable (_ ∧ _))

/-- What no run of capitals holds is small. -/
lemma isSmall_of_image? {c : Char} (h : ∀ r ∈ capitalRuns, r.image? c.toNat = none) :
    IsSmall c := by
  obtain ⟨ascii, h⟩ := List.forall_mem_cons.1 h
  obtain ⟨special, others⟩ := List.forall_mem_cons.1 h
  constructor
  · unfold lowerChar
    split
    · -- The first run holds the capitals of ASCII.
      rw [if_neg]
      intro capital
      have held : 0x41 ≤ c.toNat ∧ c.toNat ≤ 0x5A := by simpa [Char.le_def, UInt32.le_iff_toNat_le]
        using capital
      simp [CaseRun.image?, held, Nat.mod_one] at ascii
    · rw [if_neg, List.findSome?_eq_none_iff.2 others]
      · rfl
      · intro eq
        rw [beq_iff_eq.1 eq] at special
        cases special
  · intro eq
    obtain ⟨r, hr, held⟩ : ∃ r ∈ lowerRuns, (r.image? 0x3A3).isSome = true := by decide +kernel
    have none := others r hr
    rw [eq] at none
    rw [none] at held
    cases held

/-- A code point outside the runs of capitals is that of a small character. -/
lemma isSmall_ofNat {n : Nat} (h : ∀ r ∈ capitalRuns, r.image? n = none) :
    IsSmall (Char.ofNat n) := by
  by_cases valid : n.isValidChar
  · have eq : (Char.ofNat n).toNat = n := by
      unfold Char.ofNat
      rw [dif_pos valid]
      rfl
    exact isSmall_of_image? (by rwa [eq])
  · have eq : Char.ofNat n = Char.ofNat 0 := by
      unfold Char.ofNat
      rw [dif_neg valid]
      rfl
    rw [eq]
    decide

/-- The small forms of ASCII are small. -/
lemma ascii_isSmall :
    ((List.range 128).all fun n => (lowerChar (Char.ofNat n)).all fun d => decide (IsSmall d)) =
    true := by
  decide +kernel

/-- The small form of a letter is small, that of the capital sigma apart. -/
lemma lowerChar_isSmall {c d : Char} (hc : c.toNat ≠ 0x3A3) (hd : d ∈ lowerChar c) : IsSmall d := by
  by_cases ascii : c.toNat < 128
  · have all := List.all_eq_true.1 ascii_isSmall c.toNat (List.mem_range.2 ascii)
    rw [Char.ofNat_toNat] at all
    simpa using List.all_eq_true.1 all d hd
  by_cases special : c.toNat = 0x130
  · have eq : c = Char.ofNat 0x130 := by rw [← special, Char.ofNat_toNat]
    subst eq
    have both : ((lowerChar (Char.ofNat 0x130)).all fun d => decide (IsSmall d)) =
        true := by decide +kernel
    simpa using List.all_eq_true.1 both d hd
  have form : lowerChar c = [(lowerRuns.findSome? (·.image? c.toNat)).getD c] := by
    unfold lowerChar
    rw [if_neg ascii, if_neg (by simpa using special)]
  cases found : lowerRuns.findSome? (·.image? c.toNat) with
  | none =>
    rw [found] at form
    rw [form] at hd
    cases List.mem_singleton.1 hd
    exact ⟨form, hc⟩
  | some d' =>
    rw [form, found] at hd
    cases List.mem_singleton.1 hd
    obtain ⟨r, hr, held⟩ := List.exists_of_findSome?_eq_some found
    have image : d' = Char.ofNat (c.toNat + r.shift).toNat := by
      unfold CaseRun.image? at held
      split at held
      · exact (Option.some.inj held).symm
      · cases held
    rw [Option.getD_some, image]
    exact isSmall_ofNat fun r' hr' =>
      CaseRun.image?_of_avoids (List.all_eq_true.1 (lowerRuns_avoid r hr) r' hr') held

/-! ## Texts -/

/-- A text in small letters has small characters only. -/
lemma lowerFrom_isSmall {s : List Char} : ∀ {before}, ∀ d ∈ lowerFrom before s, IsSmall d := by
  induction s with
  | nil => intro before d hd; cases hd
  | cons c rest ih =>
    intro before d hd
    unfold lowerFrom at hd
    obtain here | hd := List.mem_append.1 hd
    · split at here
      · -- Both forms of the small sigma are small.
        cases List.mem_singleton.1 here
        split <;> decide +kernel
      · rename_i hc
        exact lowerChar_isSmall (by simpa using hc) here
    · exact ih d hd

/-- A text of small characters is its own small form. -/
lemma lowerFrom_of_isSmall {s : List Char} :
    ∀ {before}, (∀ c ∈ s, IsSmall c) → lowerFrom before s = s := by
  induction s with
  | nil => intro before _; rfl
  | cons c rest ih =>
    intro before h
    obtain ⟨⟨small, sigma⟩, h⟩ := List.forall_mem_cons.1 h
    unfold lowerFrom
    rw [if_neg (by simpa using sigma), small, ih h]
    rfl

/-- A text in small letters is its own small form. -/
lemma lower_lower (s : List Char) : lower (lower s) = lower s :=
  lowerFrom_of_isSmall lowerFrom_isSmall

end Rulebook.Text
