import Mathlib.Algebra.Order.Field.Rat
import Mathlib.Algebra.Order.Ring.Cast
import Mathlib.Data.Nat.Log
import Mathlib.Order.Compare
import Mathlib.Tactic.Lemma
import Mathlib.Tactic.Ring
import Rulebook.Number.Double

/-!
# Numbers as rationals

A finite decimal is a rational number (`Decimal.toRat?`), and decimals compare as these do
(`Decimal.compare?_toRat?`): the places of the leading digits decide, or else the coefficients on a
common scale. Decimals that compare equal cannot be told apart by comparing
(`Decimal.compare?_congr`).
-/

namespace Rulebook.Number
open Text

namespace Decimal

/-- The rational number `± c · 10 ^ e`. -/
def ratio (negative : Bool) (c : ℕ) (e : ℤ) : ℚ := (if negative then -1 else 1) * (c * 10 ^ e)

/-- The rational number that a finite decimal is. -/
def toRat? : Decimal → Option ℚ
  | .finite negative c e => some (ratio negative c e)
  | _ => none

/-! ## Magnitudes -/

/-- A number has one digit more than the power of ten of its leading digit. -/
lemma digitCount_eq (n : ℕ) : digitCount n = Nat.log 10 n + 1 := by
  have go : ∀ (fuel n : ℕ) (tail : List Char), n ≤ fuel →
      (decimalDigits.go fuel n tail).length = Nat.log 10 n + 1 + tail.length := by
    intro fuel
    induction fuel with
    | zero =>
      intro n tail hn
      obtain rfl := Nat.le_zero.1 hn
      simp [decimalDigits.go, Nat.add_comm]
    | succ fuel ih =>
      intro n tail hn
      rw [decimalDigits.go]
      split
      · rename_i small
        rw [Nat.log_of_lt small, List.length_cons]
        omega
      · rename_i large
        rw [ih _ _ (by omega), Nat.log_of_one_lt_of_le (by decide) (Nat.le_of_not_lt large),
          List.length_cons]
        omega
  exact go n n [] (Nat.le_refl n)

/-- The adjusted exponent of a decimal is that of its first digit. -/
lemma adjusted_eq (c : ℕ) (e : ℤ) : adjusted c e = e + Nat.log 10 c := by
  unfold adjusted
  rw [digitCount_eq]
  push_cast
  ring

variable {c c₁ c₂ : ℕ} {e e₁ e₂ : ℤ}

/-- A magnitude lies between two neighbouring powers of ten. -/
lemma magnitude_bounds (hc : c ≠ 0) :
    (10 : ℚ) ^ adjusted c e ≤ c * 10 ^ e ∧ (c : ℚ) * 10 ^ e < 10 ^ (adjusted c e + 1) := by
  have ten : (10 : ℚ) ≠ 0 := by norm_num
  have scale : (0 : ℚ) < 10 ^ e := zpow_pos (by norm_num) e
  have low : ((10 ^ Nat.log 10 c : ℕ) : ℚ) ≤ c := Nat.cast_le.2 (Nat.pow_log_le_self 10 hc)
  have high : (c : ℚ) < ((10 ^ (Nat.log 10 c + 1) : ℕ) : ℚ) :=
    Nat.cast_lt.2 (Nat.lt_pow_succ_log_self (by decide) c)
  push_cast at low high
  constructor
  · rw [adjusted_eq, zpow_add₀ ten, zpow_natCast, mul_comm]
    exact mul_le_mul_of_nonneg_right low scale.le
  · rw [adjusted_eq, add_assoc, zpow_add₀ ten, mul_comm (10 ^ e)]
    have power : (10 : ℚ) ^ ((Nat.log 10 c : ℤ) + 1) = 10 ^ (Nat.log 10 c + 1) := by
      exact_mod_cast zpow_natCast (10 : ℚ) (Nat.log 10 c + 1)
    rw [power]
    exact mul_lt_mul_of_pos_right high scale

/-- A magnitude whose leading digit stands further right is less. -/
lemma magnitude_lt (h₁ : c₁ ≠ 0) (h₂ : c₂ ≠ 0) (h : adjusted c₁ e₁ < adjusted c₂ e₂) :
    (c₁ : ℚ) * 10 ^ e₁ < c₂ * 10 ^ e₂ :=
  calc (c₁ : ℚ) * 10 ^ e₁ < 10 ^ (adjusted c₁ e₁ + 1) := (magnitude_bounds h₁).2
    _ ≤ 10 ^ adjusted c₂ e₂ := zpow_le_zpow_right₀ (by norm_num) h
    _ ≤ c₂ * 10 ^ e₂ := (magnitude_bounds h₂).1

/-- A magnitude on the scale of the lower one of two exponents. -/
lemma magnitude_scaled (c : ℕ) (e e' : ℤ) :
    (c : ℚ) * 10 ^ e = ((c * Nat.pow 10 (e - e').toNat : ℕ) : ℚ) * 10 ^ min e e' := by
  have split : e = ((e - e').toNat : ℤ) + min e e' := by omega
  have power : (10 : ℚ) ^ e = 10 ^ (e - e').toNat * 10 ^ min e e' := by
    rw [← zpow_natCast, ← zpow_add₀ (by norm_num)]
    exact congrArg _ split
  rw [power, ← mul_assoc]
  congr 1
  exact_mod_cast rfl

/-- Numbers in the same order as two others compare alike. -/
lemma compare_congr {α β : Type} [LinearOrder α] [LinearOrder β] {a b : α} {a' b' : β}
    (lt : a < b ↔ a' < b') (gt : b < a ↔ b' < a') : compare a b = compare a' b' := by
  obtain h | h | h := lt_trichotomy a b
  · rw [compare_lt_iff_lt.2 h, compare_lt_iff_lt.2 (lt.1 h)]
  · have h' : a' = b' := le_antisymm (not_lt.1 (mt gt.2 h.not_gt)) (not_lt.1 (mt lt.2 h.not_lt))
    rw [compare_eq_iff_eq.2 h, compare_eq_iff_eq.2 h']
  · rw [compare_gt_iff_gt.2 h, compare_gt_iff_gt.2 (gt.1 h)]

/-- Magnitudes compare as the rational numbers that they are. -/
lemma compareMagnitude_eq (h₁ : c₁ ≠ 0) (h₂ : c₂ ≠ 0) :
    compareMagnitude c₁ e₁ c₂ e₂ = compare ((c₁ : ℚ) * 10 ^ e₁) (c₂ * 10 ^ e₂) := by
  unfold compareMagnitude
  obtain h | h | h := lt_trichotomy (adjusted c₁ e₁) (adjusted c₂ e₂)
  · rw [compare_lt_iff_lt.2 h, compare_lt_iff_lt.2 (magnitude_lt h₁ h₂ h)]
  · have scale : (0 : ℚ) < 10 ^ min e₁ e₂ := zpow_pos (by norm_num) _
    rw [compare_eq_iff_eq.2 h, magnitude_scaled c₁ e₁ e₂, magnitude_scaled c₂ e₂ e₁, min_comm e₂ e₁]
    dsimp only
    apply compare_congr
    · rw [mul_lt_mul_iff_left₀ scale, Nat.cast_lt]
    · rw [mul_lt_mul_iff_left₀ scale, Nat.cast_lt]
  · rw [compare_gt_iff_gt.2 h, compare_gt_iff_gt.2 (magnitude_lt h₂ h₁ h)]

/-! ## Decimals -/

variable {d d' x : Decimal} {q q' : ℚ}

/-- A coefficient other than zero has a positive magnitude. -/
lemma magnitude_pos (hc : c ≠ 0) (e : ℤ) : (0 : ℚ) < c * 10 ^ e :=
  mul_pos (Nat.cast_pos.2 (Nat.pos_of_ne_zero hc)) (zpow_pos (by norm_num) e)

/-- The sign of a finite decimal is that of the rational number. -/
lemma signOf_spec (negative : Bool) (c : ℕ) (e : ℤ) :
    (signOf negative c < 0 ↔ ratio negative c e < 0) ∧ (0 < signOf negative c ↔
      0 < ratio negative c e) := by
  unfold signOf ratio
  by_cases hc : c = 0
  · simp [hc]
  · have pos := magnitude_pos hc e
    cases negative with
    | true => simp [hc, pos, pos.le]
    | false => simp [hc, pos, pos.le]

/-- A sign is between minus one and one. -/
lemma signOf_bounds (negative : Bool) (c : ℕ) : -1 ≤ signOf negative c ∧ signOf negative c ≤ 1 := by
  unfold signOf
  split
  · decide
  · split <;> decide

/-- Signs that differ decide which of two numbers is less. -/
lemma ratio_lt_of_signOf_lt {n₁ n₂ : Bool} (h : signOf n₁ c₁ < signOf n₂ c₂) :
    ratio n₁ c₁ e₁ < ratio n₂ c₂ e₂ := by
  obtain ⟨neg₁, pos₁⟩ := signOf_spec n₁ c₁ e₁
  obtain ⟨neg₂, pos₂⟩ := signOf_spec n₂ c₂ e₂
  have low := (signOf_bounds n₁ c₁).1
  by_cases hs : signOf n₁ c₁ < 0
  · exact (neg₁.1 hs).trans_le (not_lt.1 (mt neg₂.2 (by omega)))
  · exact (not_lt.1 (mt pos₁.2 (by have := (signOf_bounds n₂ c₂).2; omega))).trans_lt
      (pos₂.1 (by omega))

/-- Finite decimals compare as the rational numbers that they are. -/
theorem compare?_toRat? (h : d.toRat? = some q) (h' : d'.toRat? = some q') :
    d.compare? d' = some (compare q q') := by
  cases d with
  | infinite | nan => cases h
  | finite n₁ c₁ e₁ =>
    cases d' with
    | infinite | nan => cases h'
    | finite n₂ c₂ e₂ =>
      cases h
      cases h'
      unfold compare?
      dsimp only
      obtain lt | eq | gt := lt_trichotomy (signOf n₁ c₁) (signOf n₂ c₂)
      · rw [compare_lt_iff_lt.2 lt, compare_lt_iff_lt.2 (ratio_lt_of_signOf_lt lt)]
      · rw [compare_eq_iff_eq.2 eq]
        by_cases h₁ : c₁ = 0
        · have h₂ : c₂ = 0 := by
            by_contra h₂
            cases n₂ <;> simp [signOf, h₁, h₂] at eq
          simp [h₁, h₂, ratio]
        · have h₂ : c₂ ≠ 0 := by
            rintro rfl
            cases n₁ <;> simp [signOf, h₁] at eq
          have hn : n₁ = n₂ := by
            cases n₁ <;> cases n₂ <;> simp [signOf, h₁, h₂] at eq ⊢
          subst hn
          -- Of two negative numbers the one with the greater magnitude is less.
          cases n₁ with
          | true =>
            simp only [h₁, if_false, if_true, compareMagnitude_eq h₂ h₁, ratio]
            congr 1
            apply compare_congr <;> simp
          | false => simp [h₁, compareMagnitude_eq h₁ h₂, ratio]
      · rw [compare_gt_iff_gt.2 gt, compare_gt_iff_gt.2 (ratio_lt_of_signOf_lt gt)]

/-- Decimals that compare equal cannot be told apart by comparing. -/
theorem compare?_congr (h : d.compare? d' = some .eq) (x : Decimal) :
    x.compare? d = x.compare? d' := by
  cases d with
  | nan => cases h
  | infinite n =>
    cases d' with
    | nan => cases h
    | finite => cases n <;> cases h
    | infinite n' =>
      have hn : n = n' := by cases n <;> cases n' <;> first | rfl | cases h
      rw [hn]
  | finite n c e =>
    cases d' with
    | nan => cases h
    | infinite n' => cases n' <;> cases h
    | finite n' c' e' =>
      cases x with
      | nan | infinite => rfl
      | finite m k f =>
        rw [compare?_toRat? rfl rfl, Option.some.injEq, compare_eq_iff_eq] at h
        rw [compare?_toRat? rfl rfl, compare?_toRat? rfl rfl, h]

end Decimal

namespace Double

/-- The exponent of a double is in range below; without this the scale for comparing
does not reach it. -/
def Placed : Double → Prop
  | .finite _ _ e => minExponent ≤ e
  | _ => True

/-- A finite double is the rational number `± m · 2 ^ e`. -/
lemma toDecimal_finite (negative : Bool) (m : ℕ) (e : ℤ) :
    ∃ c f, toDecimal (.finite negative m e) = .finite negative c f ∧
      Decimal.ratio negative c f = (if negative then -1 else 1) * ((m : ℚ) * 2 ^ e) := by
  unfold toDecimal Decimal.ratio
  dsimp only
  split
  · rename_i he
    refine ⟨_, _, rfl, ?_⟩
    have power : (2 : ℚ) ^ e = 2 ^ e.toNat := by
      rw [← zpow_natCast, Int.toNat_of_nonneg he]
    simp [power]
  · rename_i he
    refine ⟨_, _, rfl, ?_⟩
    -- The fives of the coefficient and the tens of the exponent leave twos.
    have power : (5 : ℚ) ^ (-e).toNat * 10 ^ e = 2 ^ e := by
      have five : (5 : ℚ) ^ (-e).toNat = 5 ^ (-e) := by
        rw [← zpow_natCast, Int.toNat_of_nonneg (by omega)]
      have ten : (10 : ℚ) ^ e = 5 ^ e * 2 ^ e := by
        rw [← mul_zpow]
        norm_num
      rw [five, ten, ← mul_assoc, ← zpow_add₀ (by norm_num)]
      simp
    simp [mul_assoc, power]

/-- On the scale of the smallest exponent a double is a whole number. -/
lemma scaled_eq (negative : Bool) (m : ℕ) {e : ℤ} (he : minExponent ≤ e) :
    (scaled negative m e : ℚ) = (if negative then -1 else 1) * (m * 2 ^ e) * 2 ^
      (-minExponent) := by
  have power : (2 : ℚ) ^ (e - minExponent).toNat = 2 ^ e * 2 ^ (-minExponent) := by
    rw [← zpow_natCast, Int.toNat_of_nonneg (by omega), sub_eq_add_neg, zpow_add₀ (by norm_num)]
  cases negative with
  | true => simp [scaled, power, mul_assoc]
  | false => simp [scaled, power, mul_assoc]

/-- Doubles compare as the decimals that they are. -/
theorem compare?_toDecimal {x y : Double} (hx : x.Placed) (hy : y.Placed) :
    x.toDecimal.compare? y.toDecimal = x.compare? y := by
  cases x with
  | nan => rfl
  | infinite n =>
    cases y with
    | nan | infinite => rfl
    | finite n' m' e' =>
      obtain ⟨c', f', eq', -⟩ := toDecimal_finite n' m' e'
      rw [eq']
      rfl
  | finite n m e =>
    obtain ⟨c, f, eq, value⟩ := toDecimal_finite n m e
    rw [eq]
    cases y with
    | nan | infinite => rfl
    | finite n' m' e' =>
      obtain ⟨c', f', eq', value'⟩ := toDecimal_finite n' m' e'
      have scale : (0 : ℚ) < 2 ^ (-minExponent) := zpow_pos (by norm_num) _
      rw [eq', Decimal.compare?_toRat? rfl rfl, compare?, Option.some.injEq, value, value']
      apply Decimal.compare_congr
      · rw [← Int.cast_lt (R := ℚ), scaled_eq n m hx, scaled_eq n' m' hy,
          mul_lt_mul_iff_left₀ scale]
      · rw [← Int.cast_lt (R := ℚ), scaled_eq n m hx, scaled_eq n' m' hy,
          mul_lt_mul_iff_left₀ scale]

/-- The double nearest to a quotient has an exponent in range. -/
lemma ofRatio_placed (negative : Bool) (n d : ℕ) : (ofRatio negative n d).Placed := by
  unfold ofRatio
  split
  · exact Int.le_refl minExponent
  · have low : minExponent ≤ max (leadingPower n d - 52) minExponent := le_max_right _ _
    dsimp only
    generalize max (leadingPower n d - 52) minExponent = e at low ⊢
    split
    · dsimp only
      split
      · trivial
      · exact Int.le_add_one low
    · dsimp only
      split
      · trivial
      · exact low

/-- What is nearest to a number is placed. -/
lemma ofScientific_placed (negative : Bool) (c : ℕ) (e : ℤ) :
    (ofScientific negative c e).Placed := by
  unfold ofScientific
  dsimp only
  split
  · exact Int.le_refl minExponent
  · split
    · trivial
    · exact ofRatio_placed _ _ _

end Double
end Rulebook.Number
