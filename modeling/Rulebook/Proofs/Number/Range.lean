import Mathlib.Tactic.Lemma
import Rulebook.Number.Double

/-!
# The range of doubles

An integer has a nearest double up to the point halfway between the largest double and the next
number on its grid; from there on it has none (`Double.ofInt?_eq_none`).
-/

namespace Rulebook.Number.Double

/-- The least magnitude of an integer that has no nearest double, which is `2 ^ 1024 - 2 ^ 970`. -/
def overflowBound : Nat := (Nat.pow 2 54 - 1) * Nat.pow 2 970

/-- Zero is in range. -/
lemma overflowBound_pos : 0 < overflowBound := by
  unfold overflowBound
  exact Nat.mul_pos (by decide) (Nat.two_pow_pos _)

/-- The power of two at or below a positive integer. -/
lemma leadingPower_one {n : Nat} (hn : n ≠ 0) : leadingPower n 1 = Nat.log2 n := by
  have h : Nat.pow 2 (Nat.log2 n) ≤ n := Nat.log2_self_le hn
  have one : Nat.log2 1 = 0 := by decide
  simp only [leadingPower, one, Nat.one_mul, Int.natCast_zero, Int.sub_zero, Int.toNat_natCast]
  have down : (-(Nat.log2 n : Int)).toNat = 0 := by omega
  have unit : Nat.pow 2 0 = 1 := rfl
  rw [down, unit, Nat.mul_one, if_pos h]

/-- A quotient is rounded to at least a number if it is past the middle below that number, or on it
and the number is even. -/
lemma lt_roundQuotient_iff {n d k : Nat} (hd : 0 < d) :
    k < roundQuotient n d ↔ (2 * k + 1) * d < 2 * n ∨ (2 * k + 1) * d = 2 * n ∧ k % 2 = 1 := by
  have hn : d * (n / d) + n % d = n := Nat.div_add_mod n d
  have hr : n % d < d := Nat.mod_lt n hd
  have middle : (2 * k + 1) * d = 2 * (d * k) + d := by
    rw [Nat.add_mul, Nat.mul_assoc, Nat.mul_comm k, Nat.one_mul]
  unfold roundQuotient
  simp only [Bool.and_eq_true, decide_eq_true_eq]
  generalize n / d = q at hn ⊢
  generalize n % d = r at hn hr ⊢
  -- Only at the whole part of the quotient does the remainder decide.
  obtain below | rfl | above := Nat.lt_trichotomy k q
  · have : d * (k + 1) ≤ d * q := Nat.mul_le_mul_left d below
    have : d * (k + 1) = d * k + d := Nat.mul_succ d k
    refine iff_of_true ?_ (.inl (by omega))
    split
    · omega
    · split <;> omega
  · split
    · omega
    · split <;> omega
  · have : d * (q + 1) ≤ d * k := Nat.mul_le_mul_left d above
    have : d * (q + 1) = d * q + d := Nat.mul_succ d q
    refine iff_of_false ?_ (by omega)
    split
    · omega
    · split <;> omega

/-- A quotient below an even number is rounded up to it from the middle on. -/
lemma roundQuotient_eq {n d k : Nat} (hd : 0 < d) (h : n < (2 * k + 2) * d) :
    roundQuotient n d = 2 * k + 2 ↔ (4 * k + 3) * d ≤ 2 * n := by
  have low : 2 * k + 1 < roundQuotient n d ↔ _ := lt_roundQuotient_iff hd
  have high : 2 * k + 2 < roundQuotient n d ↔ _ := lt_roundQuotient_iff hd
  have below : (2 * (2 * k + 1) + 1) * d = (4 * k + 3) * d := by congr 1; omega
  have above : (2 * (2 * k + 2) + 1) * d = 2 * ((2 * k + 2) * d) + d := by
    rw [Nat.add_mul, Nat.one_mul, Nat.mul_assoc]
  omega

/-- A positive integer is rounded on the grid of its leading power, and is out of range if
this grid is too coarse, or if it is the coarsest one and the integer is rounded up to the
next power of two. -/
lemma ofRatio_one {n : Nat} (hn : n ≠ 0) (negative : Bool) :
    (∃ sign, ofRatio negative n 1 = .infinite sign) ↔
      1024 ≤ Nat.log2 n ∨ Nat.log2 n = 1023 ∧
      roundQuotient n (Nat.pow 2 maxExponent.toNat) = Nat.pow 2 53 := by
  have he : max (leadingPower n 1 - 52) minExponent = (Nat.log2 n : Int) - 52 := by
    rw [leadingPower_one hn]
    unfold minExponent
    omega
  have coarsest : Nat.log2 n = 1023 →
      roundQuotient (n * Nat.pow 2 (-((Nat.log2 n : Int) - 52)).toNat)
        (1 * Nat.pow 2 ((Nat.log2 n : Int) - 52).toNat) =
          roundQuotient n (Nat.pow 2 maxExponent.toNat) := by
    intro h
    have down : (-(((1023 : Nat) : Int) - 52)).toNat = 0 := by decide
    have up : (((1023 : Nat) : Int) - 52).toNat = maxExponent.toNat := by decide
    have one : Nat.pow 2 0 = 1 := rfl
    rw [h, down, up, one, Nat.one_mul, Nat.mul_one]
  have out : ∀ (p : Prop) [Decidable p] (m : Nat) (e : Int),
      (∃ sign, (if p then infinite negative else finite negative m e) = infinite sign) ↔ p := by
    intro p _ m e
    by_cases h : p
    · simp [h]
    · simp [h]
  unfold ofRatio
  rw [if_neg hn]
  dsimp only
  rw [he, out]
  generalize roundQuotient (n * Nat.pow 2 (-((Nat.log2 n : Int) - 52)).toNat)
    (1 * Nat.pow 2 ((Nat.log2 n : Int) - 52).toNat) = m at coarsest ⊢
  have top : maxExponent = 971 := rfl
  generalize roundQuotient n (Nat.pow 2 maxExponent.toNat) = w at coarsest ⊢
  rw [top]
  -- Being rounded up to the next power of two moves the integer to the next coarser grid.
  have moved : (if m = Nat.pow 2 53 then (Nat.pow 2 52, (Nat.log2 n : Int) - 52 + 1)
      else (m, (Nat.log2 n : Int) - 52)).2 =
        (Nat.log2 n : Int) - 52 + if m = Nat.pow 2 53 then 1 else 0 := by
    split
    · rfl
    · rw [Int.add_zero]
  rw [moved]
  by_cases hl : Nat.log2 n = 1023
  · rw [← coarsest hl]
    split
    · rename_i hm
      exact ⟨fun _ => .inr ⟨hl, hm⟩, fun _ => by omega⟩
    · rename_i hm
      constructor
      · intro h
        omega
      · rintro (h | ⟨_, h⟩)
        · omega
        · exact absurd h hm
  · split
    · omega
    · omega

/-- The integers from which on 53 bits do not suffice on a grid: their leading power is beyond it,
or it is on the grid and they are rounded up beyond it. -/
lemma grid_le_iff {n : Nat} (hn : n ≠ 0) (k : Nat) :
    (Nat.pow 2 54 - 1) * Nat.pow 2 k ≤ n ↔
      54 + k ≤ Nat.log2 n ∨ Nat.log2 n = 53 + k ∧
      roundQuotient n (Nat.pow 2 (1 + k)) = Nat.pow 2 53 := by
  have low : Nat.pow 2 (Nat.log2 n) ≤ n := Nat.log2_self_le hn
  have high : n < Nat.pow 2 (Nat.log2 n + 1) := Nat.lt_log2_self
  have add : ∀ a, Nat.pow 2 (a + k) = Nat.pow 2 a * Nat.pow 2 k := fun a => Nat.pow_add 2 a k
  have mono : ∀ {a b}, a ≤ b → Nat.pow 2 a ≤ Nat.pow 2 b :=
    fun h => Nat.pow_le_pow_right (by decide) h
  have pos : 0 < Nat.pow 2 k := Nat.two_pow_pos k
  have h1 : Nat.pow 2 1 = 2 := rfl
  have h53 : Nat.pow 2 53 = 2 * (4503599627370496 - 1) + 2 := rfl
  have h54 : Nat.pow 2 54 = 18014398509481984 := rfl
  rw [add, h1, h53, h54]
  -- The leading power is beyond the grid, on it, or below it; only on it does rounding matter.
  by_cases wide : 54 + k ≤ Nat.log2 n
  · have := mono wide
    rw [add, h54] at this
    exact ⟨fun _ => .inl wide, fun _ => by omega⟩
  by_cases hl : Nat.log2 n = 53 + k
  · rw [hl, Nat.add_right_comm, add, h54] at high
    have hq := @roundQuotient_eq n (2 * Nat.pow 2 k) (4503599627370496 - 1) (by omega) (by omega)
    constructor
    · intro h
      exact .inr ⟨hl, hq.2 (by omega)⟩
    · rintro (h | ⟨_, h⟩)
      · exact absurd h wide
      · have := hq.1 h
        omega
  · have narrow : Nat.log2 n + 1 ≤ 53 + k := by omega
    have := mono narrow
    rw [add, h53] at this
    constructor
    · intro h
      omega
    · rintro (h | ⟨h, _⟩)
      · exact absurd h wide
      · exact absurd h hl

/-- A positive integer is beyond the doubles from the bound on. -/
lemma overflowBound_le_iff {n : Nat} (hn : n ≠ 0) :
    overflowBound ≤ n ↔
      1024 ≤ Nat.log2 n ∨ Nat.log2 n = 1023 ∧
      roundQuotient n (Nat.pow 2 maxExponent.toNat) = Nat.pow 2 53 := by
  have top : maxExponent.toNat = 1 + 970 := rfl
  unfold overflowBound
  rw [top, grid_le_iff hn]

/-- An integer has no nearest double from the bound on. -/
theorem ofInt?_eq_none {n : Int} : ofInt? n = none ↔ overflowBound ≤ n.natAbs := by
  have cut : ofInt? n = none ↔ ∃ sign, ofRatio (n < 0) n.natAbs 1 = .infinite sign := by
    unfold ofInt?
    cases ofRatio (n < 0) n.natAbs 1 with
    | infinite sign => exact ⟨fun _ => ⟨sign, rfl⟩, fun _ => rfl⟩
    | finite | nan =>
      constructor
      · intro h; cases h
      · rintro ⟨_, h⟩; cases h
  rw [cut]
  by_cases hn : n.natAbs = 0
  · rw [hn]
    constructor
    · rintro ⟨_, h⟩; cases h
    · intro h
      exact absurd overflowBound_pos (Nat.not_lt.2 h)
  · rw [ofRatio_one hn, overflowBound_le_iff hn]

end Rulebook.Number.Double
