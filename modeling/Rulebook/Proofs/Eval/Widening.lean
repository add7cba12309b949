import Rulebook.Proofs.Bound.Exact
import Rulebook.Proofs.Number.Rounding

/-!
# Integers in fields of doubles

An integer and an integer literal are both rounded before a field of doubles compares them, and
compare as the rounded integers do (`Compare.field_rounded`). Rounding changes no integer up to
`2 ^ 53` and never turns two integers around, so that small integers compare exactly and an answer
"less" or "greater" about large ones is right (`Compare.field_integers`).
-/

namespace Rulebook
open Number Text

namespace Compare

variable {t : ScalarType} {a b : ℤ}

/-- Integers that have a nearest double compare as these doubles do. -/
lemma field_rounded (binary : t.isBinary = true) (ha : Double.ofInt? a ≠ none)
    (hb : Double.ofInt? b ≠ none) (written : Option String) :
    ∃ literal, comparisonLiteral (.int b) t written = .ok literal ∧
      ∀ op, field (some (.int a)) op literal t =
      .ok (decide (op.Relates (Double.rounded a) (Double.rounded b))) := by
  obtain ⟨x, hx⟩ := Option.ne_none_iff_exists'.1 ha
  obtain ⟨y, hy⟩ := Option.ne_none_iff_exists'.1 hb
  have double {n : ℤ} {z : Double} (h : Double.ofInt? n = some z) : doubleOf (.int n) = .ok z := by
    rw [doubleOf, Double.ofInt, h]
    rfl
  refine ⟨.float y, ?_, fun op => ?_⟩
  · have literal : comparisonLiteral (.int b) t written = Value.float <$> doubleOf (.int b) := by
      cases t with
      | int32 | int64 | float64 => rfl
      | _ => cases binary
    rw [literal, double hy]
    rfl
  · rw [field_binary binary, ← op.holds_compare,
      ← Decimal.compare?_toRat? (Double.toRat?_ofInt? hx) (Double.toRat?_ofInt? hy)]
    dsimp only
    rw [double hx]
    rfl

/-- Integers up to `2 ^ 53` have a nearest double. -/
lemma ofInt?_ne_none (h : |a| ≤ 2 ^ 53) : Double.ofInt? a ≠ none := by
  intro none
  have large : Double.overflowBound ≤ a.natAbs := Double.ofInt?_eq_none.1 none
  have bound : 2 ^ 53 < Double.overflowBound := by
    unfold Double.overflowBound
    calc 2 ^ 53 < (Nat.pow 2 54 - 1) * 1 := by decide
      _ ≤ (Nat.pow 2 54 - 1) * Nat.pow 2 970 := Nat.mul_le_mul_left _ (Nat.two_pow_pos _)
  rw [Int.abs_eq_natAbs] at h
  have small : a.natAbs ≤ 2 ^ 53 := by exact_mod_cast h
  exact absurd (bound.trans_le large) (Nat.not_lt.2 small)

/-- In a field of doubles, an integer compares with an integer literal as the two integers do if
both are at most `2 ^ 53` in absolute value. Of any two integers that have a nearest double, those
are not turned around: "less" and "greater" are answered of no others, and "at most" and "at least"
of all for which they are right. -/
theorem field_integers (binary : t.isBinary = true) (a b : ℤ) (written : Option String) :
    (|a| ≤ 2 ^ 53 → |b| ≤ 2 ^ 53 →
      ∃ literal, comparisonLiteral (.int b) t written = .ok literal ∧
        ∀ op, field (some (.int a)) op literal t = .ok (decide (op.Relates a b))) ∧
    (Double.ofInt? a ≠ none → Double.ofInt? b ≠ none →
      ∃ (literal : Value) (answer : Operator → Bool),
      comparisonLiteral (.int b) t written = .ok literal ∧
        (∀ op, field (some (.int a)) op literal t = .ok (answer op)) ∧
        (answer .lt = true → a < b) ∧ (answer .gt = true → b < a) ∧
        (a ≤ b → answer .le = true) ∧ (b ≤ a → answer .ge = true)) := by
  refine ⟨fun ha hb => ?_, fun ha hb => ?_⟩
  · obtain ⟨literal, compiled, asked⟩ :=
      field_rounded binary (ofInt?_ne_none ha) (ofInt?_ne_none hb) written
    rw [Double.rounded_eq_self ha, Double.rounded_eq_self hb] at asked
    exact ⟨literal, compiled, asked⟩
  · obtain ⟨literal, compiled, asked⟩ := field_rounded binary ha hb written
    refine ⟨literal, _, compiled, asked, fun less => ?_, fun greater => ?_,
      fun le => ?_, fun ge => ?_⟩
    · have less : (Double.rounded a : ℚ) < Double.rounded b := of_decide_eq_true less
      by_contra! ge
      exact absurd (Double.rounded_mono ge) (not_le.2 (by exact_mod_cast less))
    · have greater : (Double.rounded b : ℚ) < Double.rounded a := of_decide_eq_true greater
      by_contra! le
      exact absurd (Double.rounded_mono le) (not_le.2 (by exact_mod_cast greater))
    · exact decide_eq_true (show (Double.rounded a : ℚ) ≤ Double.rounded b by
        exact_mod_cast Double.rounded_mono le)
    · exact decide_eq_true (show (Double.rounded b : ℚ) ≤ Double.rounded a by
        exact_mod_cast Double.rounded_mono ge)

/-- Eight compares with nine as integers do. The integer behind `2 ^ 53`, which becomes the same
double, is not less than it, and at least it. -/
theorem neighbours_integers :
    ScalarType.isBinary .int64 = true ∧ |(8 : ℤ)| ≤ 2 ^ 53 ∧ |(9 : ℤ)| ≤ 2 ^ 53 ∧
      Double.ofInt? (2 ^ 53 + 1) ≠ none ∧ Double.ofInt? (2 ^ 53) ≠ none ∧
      (∃ literal, comparisonLiteral (.int 9) .int64 none = .ok literal ∧
        ∀ op, field (some (.int 8)) op literal .int64 = .ok (decide (op.Relates 8 9))) ∧
      ∃ literal, comparisonLiteral (.int (2 ^ 53)) .int64 none = .ok literal ∧
        field (some (.int (2 ^ 53 + 1))) .lt literal .int64 = .ok false ∧
        field (some (.int (2 ^ 53 + 1))) .ge literal .int64 = .ok true := by
  have eight : |(8 : ℤ)| ≤ 2 ^ 53 := by decide
  have nine : |(9 : ℤ)| ≤ 2 ^ 53 := by decide
  have next : Double.ofInt? (2 ^ 53 + 1) ≠ none := by decide +kernel
  have power : Double.ofInt? (2 ^ 53) ≠ none := by decide +kernel
  obtain ⟨exact, -⟩ := field_integers (t := .int64) rfl 8 9 none
  obtain ⟨-, order⟩ := field_integers (t := .int64) rfl (2 ^ 53 + 1) (2 ^ 53) none
  obtain ⟨literal, answer, compiled, asked, less, -, -, ge⟩ := order next power
  refine ⟨rfl, eight, nine, next, power, ?_, literal, compiled, ?_, ?_⟩
  · exact_mod_cast exact eight nine
  · rw [asked, Bool.eq_false_iff.2 (mt less (by decide))]
  · rw [asked, ge (by decide)]

end Compare
end Rulebook
