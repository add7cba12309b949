import Rulebook.Proofs.Number.Range
import Rulebook.Proofs.Number.Rational

/-!
# Integers as doubles

The double nearest to an integer is the integer itself rounded to 53 significant bits
(`Double.toRat?_ofInt?`): to a multiple of a power of two that depends on how large it is. Within
one such grid rounding keeps the order, and what is rounded on a grid does not leave it, so that
rounding keeps the order of all integers (`Double.rounded_mono`). Integers up to `2 ^ 53` stay what
they are (`Double.rounded_eq_self`).
-/

namespace Rulebook.Number.Double

variable {n n' d : ℕ}

/-! ## Quotients -/

/-- Rounding a quotient is monotone in the dividend. -/
lemma roundQuotient_mono (hd : 0 < d) (h : n ≤ n') : roundQuotient n d ≤ roundQuotient n' d := by
  by_contra! less
  -- The middle that the smaller number reaches is reached by the larger one.
  have reached := (lt_roundQuotient_iff hd).1 less
  have missed := mt (lt_roundQuotient_iff hd).2 (Nat.lt_irrefl (roundQuotient n' d))
  omega

/-- A whole quotient is not rounded. -/
lemma roundQuotient_mul (k : ℕ) (hd : 0 < d) : roundQuotient (k * d) d = k := by
  unfold roundQuotient
  simp [Nat.mul_div_cancel k hd, hd.ne]

/-! ## Natural numbers -/

/-- The step between the doubles at the size of a number. -/
def step (n : ℕ) : ℕ := 2 ^ (Nat.log2 n - 52)

/-- The distance of neighbouring doubles is positive. -/
lemma step_pos (n : ℕ) : 0 < step n := Nat.two_pow_pos _

/-- A number rounded to 53 significant bits. -/
def nearest (n : ℕ) : ℕ := roundQuotient n (step n) * step n

/-- A number that is whole on its own grid is not rounded. -/
lemma nearest_of_dvd (h : step n ∣ n) : nearest n = n := by
  obtain ⟨k, hk⟩ := h
  have whole : roundQuotient n (step n) = k := by
    conv => lhs; arg 1; rw [hk, Nat.mul_comm]
    exact roundQuotient_mul k (step_pos n)
  rw [nearest, whole, Nat.mul_comm, ← hk]

/-- Up to `2 ^ 53` all numbers are doubles. -/
lemma nearest_eq_self (h : n ≤ 2 ^ 53) : nearest n = n := by
  apply nearest_of_dvd
  obtain rfl | less := Nat.eq_or_lt_of_le h
  · exact ⟨2 ^ 52, by decide⟩
  · have fine : Nat.log2 n < 53 := by
      by_cases hn : n = 0
      · simp [hn]
      · exact (Nat.log2_lt hn).2 less
    have unit : step n = 1 := by
      rw [step, Nat.sub_eq_zero_of_le (by omega), pow_zero]
    rw [unit]
    exact Nat.one_dvd n

/-- Rounding stays between the powers of two around a number. -/
lemma nearest_bounds (hn : n ≠ 0) :
    2 ^ Nat.log2 n ≤ nearest n ∧ nearest n ≤ 2 ^ (Nat.log2 n + 1) := by
  have low : 2 ^ Nat.log2 n ≤ n := Nat.log2_self_le hn
  have high : n ≤ 2 ^ (Nat.log2 n + 1) := Nat.lt_log2_self.le
  have power {e : ℕ} (he : Nat.log2 n ≤ e) : ∃ k, 2 ^ e = k * step n :=
    ⟨2 ^ (e - (Nat.log2 n - 52)), by rw [step, ← pow_add]; congr 1; omega⟩
  obtain ⟨k, hk⟩ := power le_rfl
  obtain ⟨k', hk'⟩ := power (Nat.le_succ _)
  rw [hk] at low ⊢
  rw [hk'] at high ⊢
  constructor
  · refine Nat.mul_le_mul_right _ ?_
    rw [← roundQuotient_mul k (step_pos n)]
    exact roundQuotient_mono (step_pos n) low
  · refine Nat.mul_le_mul_right _ ?_
    rw [← roundQuotient_mul k' (step_pos n)]
    exact roundQuotient_mono (step_pos n) high

/-- The nearest double is monotone. -/
lemma nearest_mono (h : n ≤ n') : nearest n ≤ nearest n' := by
  by_cases hn : n = 0
  · subst hn
    exact Nat.zero_le _
  have hn' : n' ≠ 0 := by omega
  have logs : Nat.log2 n ≤ Nat.log2 n' := (Nat.le_log2 hn').2 ((Nat.log2_self_le hn).trans h)
  obtain same | less := Nat.eq_or_lt_of_le logs
  · rw [nearest, nearest, step, same]
    exact Nat.mul_le_mul_right _ (roundQuotient_mono (step_pos n') h)
  · -- A power of two stands between numbers of different sizes.
    calc nearest n ≤ 2 ^ (Nat.log2 n + 1) := (nearest_bounds hn).2
      _ ≤ 2 ^ Nat.log2 n' := Nat.pow_le_pow_right (by decide) less
      _ ≤ nearest n' := (nearest_bounds hn').1

/-! ## Integers -/

/-- An integer rounded to 53 significant bits. -/
def rounded (n : ℤ) : ℤ := if n < 0 then -(nearest n.natAbs) else nearest n.natAbs

/-- Rounding is monotone. -/
lemma rounded_mono {a b : ℤ} (h : a ≤ b) : rounded a ≤ rounded b := by
  unfold rounded
  split
  · split
    · have := nearest_mono (show b.natAbs ≤ a.natAbs by omega)
      omega
    · omega
  · rw [if_neg (by omega)]
    have := nearest_mono (show a.natAbs ≤ b.natAbs by omega)
    omega

/-- Integers of at most 53 binary digits are not rounded. -/
lemma rounded_eq_self {n : ℤ} (h : |n| ≤ 2 ^ 53) : rounded n = n := by
  have small : n.natAbs ≤ 2 ^ 53 := by
    rw [Int.abs_eq_natAbs] at h
    exact_mod_cast h
  unfold rounded
  rw [nearest_eq_self small]
  split <;> omega

/-- A positive integer becomes a double that is the integer rounded to 53 significant bits, unless
the exponent for it is too large. -/
lemma exists_ofRatio_one (hn : n ≠ 0) (negative : Bool) :
    ∃ (m : ℕ) (e : ℤ), (m : ℚ) * 2 ^ e = nearest n ∧
      ofRatio negative n 1 = if maxExponent < e then .infinite negative
      else .finite negative m e := by
  have exponent : max (leadingPower n 1 - 52) minExponent = (Nat.log2 n : ℤ) - 52 := by
    rw [leadingPower_one hn]
    unfold minExponent
    omega
  -- Below the grid of whole numbers nothing is rounded.
  obtain ⟨m, hm, value⟩ : ∃ m, roundQuotient (n * Nat.pow 2 (-((Nat.log2 n : ℤ) - 52)).toNat)
      (1 * Nat.pow 2 ((Nat.log2 n : ℤ) - 52).toNat) = m ∧
        (m : ℚ) * 2 ^ ((Nat.log2 n : ℤ) - 52) = nearest n := by
    refine ⟨_, rfl, ?_⟩
    obtain coarse | fine := le_or_gt 52 (Nat.log2 n)
    · have down : (-((Nat.log2 n : ℤ) - 52)).toNat = 0 := by omega
      have up : ((Nat.log2 n : ℤ) - 52).toNat = Nat.log2 n - 52 := by omega
      have grid : (2 : ℚ) ^ ((Nat.log2 n : ℤ) - 52) = (step n : ℚ) := by
        rw [step, Nat.cast_pow, ← zpow_natCast]
        congr 1
        omega
      rw [down, up, grid, nearest, Nat.cast_mul]
      simp [step]
    · have down : (-((Nat.log2 n : ℤ) - 52)).toNat = 52 - Nat.log2 n := by omega
      have up : ((Nat.log2 n : ℤ) - 52).toNat = 0 := by omega
      have whole : step n ∣ n := by
        rw [step, Nat.sub_eq_zero_of_le fine.le]
        exact Nat.one_dvd n
      have back : (2 : ℚ) ^ (52 - Nat.log2 n) * 2 ^ ((Nat.log2 n : ℤ) - 52) = 1 := by
        rw [← zpow_natCast, ← zpow_add₀ (by norm_num), Nat.cast_sub fine.le]
        simp
      have exact : roundQuotient (n * Nat.pow 2 (52 - Nat.log2 n)) (1 * Nat.pow 2 0) =
          n * 2 ^ (52 - Nat.log2 n) := by
        have := roundQuotient_mul (n * 2 ^ (52 - Nat.log2 n)) Nat.one_pos
        simpa using this
      rw [down, up, exact, nearest_of_dvd whole, Nat.cast_mul, Nat.cast_pow, Nat.cast_ofNat,
        mul_assoc, back, mul_one]
  unfold ofRatio
  rw [if_neg hn]
  dsimp only
  rw [exponent, hm]
  split
  · rename_i carry
    refine ⟨Nat.pow 2 52, (Nat.log2 n : ℤ) - 52 + 1, ?_, rfl⟩
    rw [← value, carry, zpow_add_one₀ (by norm_num)]
    push_cast [Nat.pow_eq]
    ring
  · exact ⟨m, _, value, rfl⟩

/-- The double nearest to an integer is the integer rounded to 53 significant bits. -/
lemma toRat?_ofInt? {n : ℤ} {x : Double} (h : ofInt? n = some x) :
    x.toDecimal.toRat? = some (rounded n : ℚ) := by
  have finite : ofRatio (n < 0) n.natAbs 1 = x ∧ ∀ sign, x ≠ .infinite sign := by
    unfold ofInt? at h
    split at h
    · cases h
    · rename_i fin
      cases h
      exact ⟨rfl, fin⟩
  obtain ⟨rfl, fin⟩ := finite
  by_cases hn : n.natAbs = 0
  · obtain rfl := Int.natAbs_eq_zero.1 hn
    decide +kernel
  · obtain ⟨m, e, value, eq⟩ := exists_ofRatio_one hn (n < 0)
    rw [eq] at fin ⊢
    split
    · rename_i large
      rw [if_pos large] at fin
      exact absurd rfl (fin _)
    · obtain ⟨c, f, same, ratio⟩ := toDecimal_finite (n < 0) m e
      rw [same, Decimal.toRat?, ratio, value]
      by_cases neg : n < 0
      · simp [rounded, neg]
      · simp [rounded, neg]

end Rulebook.Number.Double
