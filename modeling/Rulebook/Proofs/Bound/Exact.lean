import Mathlib.Data.List.TakeWhile
import Rulebook.Proofs.Bound.Literal
import Rulebook.Proofs.Number.Rational
import Rulebook.Proofs.Rule.Data
import Rulebook.Proofs.Rule.Phrases

/-!
# Exact comparisons

A condition on a decimal field compares the number that its numeral denotes with the number of the
value it finds, as rational numbers (`Feature.readCondition_exact`). The numeral passes through
the reading of the document, the writing of rules as data and the binding to a decimal field;
nothing is rounded on the way, neither integers nor digits around a point, although the latter are
also kept as a double.
-/

namespace Rulebook
open Number Text

/-! ## Rational numbers -/

/-- The relation between two rational numbers that an operator names. -/
def Operator.Relates : Operator → ℚ → ℚ → Prop
  | .eq, a, b => a = b
  | .ne, a, b => a ≠ b
  | .gt, a, b => b < a
  | .lt, a, b => a < b
  | .ge, a, b => b ≤ a
  | .le, a, b => a ≤ b

instance : (op : Operator) → (a b : ℚ) → Decidable (op.Relates a b)
  | .eq, a, b => inferInstanceAs (Decidable (a = b))
  | .ne, a, b => inferInstanceAs (Decidable (a ≠ b))
  | .gt, a, b => inferInstanceAs (Decidable (b < a))
  | .lt, a, b => inferInstanceAs (Decidable (a < b))
  | .ge, a, b => inferInstanceAs (Decidable (b ≤ a))
  | .le, a, b => inferInstanceAs (Decidable (a ≤ b))

/-- An operator holds of the order of two rational numbers if they are in its relation. -/
lemma Operator.holds_compare (op : Operator) (a b : ℚ) :
    op.holds (some (compare a b)) = decide (op.Relates a b) := by
  rw [Bool.eq_iff_iff, decide_eq_true_iff]
  obtain h | h | h := lt_trichotomy a b
  · rw [compare_lt_iff_lt.2 h]
    cases op <;> simp [holds, Relates, h, h.ne, h.le, h.not_gt]
  · rw [compare_eq_iff_eq.2 h]
    cases op <;> simp [holds, Relates, h]
  · rw [compare_gt_iff_gt.2 h]
    cases op <;> simp [holds, Relates, h, h.ne', h.le, h.not_gt]

/-- The rational number that an integer, a finite decimal, or the text of one is. -/
def Value.exact? : Value → Option ℚ
  | .int n => some n
  | .decimal d => d.toRat?
  | .text s => (Decimal.read? s.toList).bind Decimal.toRat?
  | _ => none

namespace Literal

/-- A numeral of a rule document: an integer that is not too long to be read, or digits around a
point in the range of decimals. -/
inductive Numeral (s : List Char) : Prop
  | integer : isIntegerShape s = true → (digitsOf s).length ≤ maxDigits → Numeral s
  | point : isFloatShape s = true →
      Decimal.inRange (digitsValue (digitsOf s)) (-(places s : Int)) = true → Numeral s

/-- The rational number that a numeral denotes: its digits, shifted by the places behind the
point, with its sign. -/
def denoted (s : List Char) : ℚ :=
  (if (takeSign s).1 then -1 else 1) * (digitsValue (digitsOf s) / 10 ^ places s)

/-- The number that a numeral denotes is the one that its sign, digits and places stand for. -/
lemma denoted_eq (s : List Char) :
    denoted s = Decimal.ratio (takeSign s).1 (digitsValue (digitsOf s)) (-(places s : Int)) := by
  unfold denoted Decimal.ratio
  rw [zpow_neg, zpow_natCast, div_eq_mul_inv]

/-- Only numerals of `10 ^ 18` characters and more can be out of the range of decimals. -/
lemma Numeral.of_isFloatShape {s : List Char} (shape : isFloatShape s = true)
    (short : s.length ≤ 999999999999999999) :
    Numeral s := by
  have digits : (digitsOf s).length ≤ s.length := List.length_filterMap_le _ _
  have behind : places s ≤ s.length :=
    (List.length_filterMap_le _ _).trans (List.dropWhile_sublist _).length_le
  have value : digitsValue (digitsOf s) < 10 ^ (digitsOf s).length := by
    refine digitsValue_lt fun d hd => ?_
    obtain ⟨c, -, hc⟩ := List.mem_filterMap.1 hd
    exact (digitValue?_some hc).1
  refine .point shape ?_
  unfold Decimal.inRange Decimal.minExponent Decimal.maxExponent
  rw [Bool.and_eq_true, decide_eq_true_iff, decide_eq_true_iff, Decimal.adjusted_eq]
  constructor
  · omega
  · split
    · omega
    · rename_i nonzero
      have log := Nat.log_lt_of_lt_pow nonzero value
      omega

/-- No digit of an integer stands behind a point. -/
lemma places_of_isIntegerShape {s : List Char} (h : isIntegerShape s = true) : places s = 0 := by
  have point : ∀ c ∈ s, c ≠ '.' := by
    refine forall_takeSign (by decide) (by decide) fun c hc => ?_
    rintro rfl
    cases (digits_of_isIntegerShape h).2 _ hc
  have none_left : s.dropWhile (· != '.') = [] :=
    List.dropWhile_eq_nil_iff.2 fun c hc => by simpa using point c hc
  unfold places
  rw [none_left]
  rfl

end Literal

/-! ## Literals -/

/-- An integer as a decimal is the same rational number. -/
lemma Number.Decimal.toRat?_ofInt (n : Int) : (Decimal.ofInt n).toRat? = some (n : ℚ) := by
  unfold ofInt toRat? ratio
  obtain h | h := lt_or_ge n 0
  · have abs : ((n.natAbs : ℤ) : ℚ) = ((-n : ℤ) : ℚ) := congrArg _ (Int.ofNat_natAbs_of_nonpos h.le)
    push_cast at abs
    simp [h, abs]
  · have abs : ((n.natAbs : ℤ) : ℚ) = (n : ℚ) := congrArg _ (Int.natAbs_of_nonneg h)
    push_cast at abs
    simp [h.not_gt, abs]

namespace Condition

variable {field : String} {op : Operator} {value : List Char}

/-- A numeral is read as a literal that a decimal field compares as the number that
the numeral denotes. -/
lemma comparand_numeral (h : Literal.Numeral (trim value)) :
    ∃ literal d, Literal.read value = .ok literal ∧ d.toRat? = some (Literal.denoted (trim value)) ∧
      (⟨field, op, literal, literal.spelling? value⟩ : Condition).comparand .decimal =
      .ok (.decimal d) := by
  have again (c : Layout.Constant) (hc : c.written = trim value) :
      Literal.read value = Literal.read c.written := by
    unfold Literal.read
    rw [c.trim_written, hc]
  cases h with
  | integer shape short =>
    have read := Layout.Constant.read_ok (c := .int _ shape) |>.2 ⟨short, rfl⟩
    refine ⟨_, .ofInt _, (again (.int _ shape) rfl).trans read, ?_, rfl⟩
    rw [Decimal.toRat?_ofInt, Literal.denoted, Literal.places_of_isIntegerShape shape, signed]
    cases (takeSign (trim value)).1 <;> simp
  | point shape range =>
    have read := Layout.Constant.read_ok (c := .decimal _ shape) |>.2 ⟨trivial, rfl⟩
    have text := Decimal.read?_of_isFloatShape shape
    rw [if_pos range] at text
    refine ⟨_, .finite _ _ _, (again (.decimal _ shape) rfl).trans read,
      congrArg some (Literal.denoted_eq (trim value)).symm, ?_⟩
    unfold comparand comparisonLiteral
    rw [Layout.Constant.literal, Literal.spelling?]
    dsimp only
    rw [decimalOfText, String.toList_ofList, text]
    rfl

end Condition

/-- A value that is a rational number compares with a decimal as the two numbers do. -/
lemma Compare.field_exact {v : Value} {d : Decimal} {p q : ℚ} (op : Operator)
    (hv : v.exact? = some q) (hd : d.toRat? = some p) :
    Compare.field (some v) op (.decimal d) .decimal = .ok (decide (op.Relates q p)) := by
  obtain ⟨x, hx, hq⟩ : ∃ x, v.numberIn? .decimal = some x ∧ x.toRat? = some q := by
    cases v with
    | int n =>
      cases hv
      exact ⟨_, rfl, Decimal.toRat?_ofInt n⟩
    | decimal d => exact ⟨d, rfl, hv⟩
    | text s => exact Option.bind_eq_some_iff.1 hv
    | _ => cases hv
  have number : x.isNaN = false := by
    cases x with
    | nan => cases hq
    | _ => rfl
  have suits : (Comparand.decimal d).Suits .decimal := by
    cases d with
    | finite => exact .finite
    | _ => cases hd
  have literal : (Comparand.decimal d).toValue = .decimal d := rfl
  rw [← literal, field_decimal, hx]
  dsimp only
  rw [number, if_neg Bool.false_ne_true, holds_decimal suits number,
    if_neg (by simp), Comparand.number, Decimal.compare?_toRat? hq hd, op.holds_compare]

/-! ## Conditions of documents -/

/-- A rule that is written as data is read back with all of its conditions. -/
lemma Rule.conditions_reload (r : Rule) :
    ∃ r', Rule.ofData r.toData = .ok r' ∧ r'.conditions = r.conditions := by
  by_cases hd : r.description = some ""
  · -- An empty description is not written.
    have same : r.toData = { r with description := none }.toData := by
      unfold Rule.toData
      rw [hd]
      rfl
    rw [same]
    exact ⟨_, Rule.ofData_toData nofun, rfl⟩
  · exact ⟨_, Rule.ofData_toData hd, rfl⟩

/-- A condition with a numeral is read, and a decimal field compares it exactly: every value
that is a rational number satisfies the bound clause if it is in the relation of the operator to
the number that the numeral denotes. The condition is the same after its rule was written as
data and read back. -/
theorem Feature.readCondition_exact {st : Feature.Setting} {line : Nat}
    {field operator value : List Char} {op : Operator}
    (spelled : Operator.parse? operator = some op) (numeral : Literal.Numeral (trim value)) :
    ∃ c, Feature.readCondition st line field operator value = .ok c ∧
      (∀ rule category, ∃ b, Bind.clause rule c (some .decimal) category = .ok b ∧
        ∀ v q, v.exact? = some q → Compare.field (some v) b.operator b.literal.toValue b.type =
          .ok (decide (op.Relates q (Literal.denoted (trim value))))) ∧
      ∀ r : Rule, c ∈ r.conditions → ∃ r', Rule.ofData r.toData = .ok r' ∧ c ∈ r'.conditions := by
  obtain ⟨literal, d, read, denotes, bound⟩ :=
    @Condition.comparand_numeral (String.ofList (trim field)) op value numeral
  refine ⟨⟨String.ofList (trim field), op, literal, literal.spelling? value⟩, ?_,
    fun rule category => ?_, fun r hm => ?_⟩
  · rw [readCondition, spelled]
    dsimp only
    rw [read]
    cases literal <;> rfl
  · refine ⟨⟨_, op, .decimal d, .decimal, _⟩, Bind.clause_ok.2 ⟨rfl, rfl, rfl, rfl, bound⟩,
      fun v q hv => ?_⟩
    exact Compare.field_exact op hv denotes
  · obtain ⟨r', reload, same⟩ := r.conditions_reload
    exact ⟨r', reload, same ▸ hm⟩

namespace Prices

/-- The double nearest to a tenth, with all of its digits. -/
def numeral : List Char := "0.1000000000000000055511151231257827021181583404541015625".toList

/-- A rule about prices. -/
def rule (c : Condition) : Rule where
  name := "Cheap"
  target := { name := "Item", domain := "shop" }
  condition := .single c
  positive := "cheap"
  negative := "dear"

/-- A tenth is less than the numeral, although both have the same nearest double. -/
theorem tenth_less :
    Operator.parse? "<".toList = some .lt ∧ Literal.Numeral (trim numeral) ∧
      ∃ c b, Feature.readCondition { defaultDomain := "shop" } 1 "price".toList "<".toList numeral =
      .ok c ∧
        Bind.clause (rule c) c (some .decimal) none = .ok b ∧
        (∃ r', Rule.ofData (rule c).toData = .ok r' ∧ c ∈ r'.conditions) ∧
        Compare.field (some (.text "0.1")) b.operator b.literal.toValue b.type = .ok true := by
  have spelled : Operator.parse? "<".toList = some .lt := by decide +kernel
  have shape : Literal.Numeral (trim numeral) :=
    .of_isFloatShape (by decide +kernel) (by decide +kernel)
  obtain ⟨c, read, bound, reload⟩ :
      ∃ c, Feature.readCondition { defaultDomain := "shop" } 1 "price".toList "<".toList numeral =
      .ok c ∧ _ :=
    Feature.readCondition_exact spelled shape
  obtain ⟨b, clause, compare⟩ := bound (rule c) none
  have less : Operator.lt.Relates (1 / 10) (Literal.denoted (trim numeral)) := by decide +kernel
  refine ⟨spelled, shape, c, b, read, clause, reload (rule c) (.head _), ?_⟩
  rw [compare (.text "0.1") (1 / 10) (by decide +kernel), decide_eq_true less]

end Prices
end Rulebook
