import Mathlib.Tactic.Lemma
import Rulebook.Eval.Compare
import Rulebook.Proofs.Number.Range
import Rulebook.Proofs.Outcome

/-!
# What a comparison answers

The comparison of a looked-up value with a literal, kind by kind: texts (`Compare.field_string`),
booleans (`Compare.field_bool`), doubles (`Compare.field_binary`) and exact decimals
(`Compare.field_decimal`). The literals are those that suit the type of the field
(`Comparand.Suits`); for them the comparison has no answer only in the cases that `Comparand.Faulty`
lists (`Compare.field_error`).
-/

namespace Rulebook
open Number Text

/-- The values of a type compare as doubles. -/
def ScalarType.isBinary : ScalarType → Bool
  | .int32 | .int64 | .float64 => true
  | _ => false

/-- The types whose values are compared as doubles are types of numbers. -/
lemma ScalarType.isNumeric_of_isBinary {t : ScalarType} (ht : t.isBinary = true) :
    t.isNumeric = true := by
  cases t with
  | int32 | int64 | float64 => rfl
  | _ => cases ht

/-- The number that a value is in a field of a type: a decimal field has it exactly, the others have
the nearest double. -/
def Value.numberIn? : ScalarType → Value → Option Decimal
  | .decimal, .int n => some (.ofInt n)
  | .decimal, .float x => some (decimalOfDouble x)
  | .decimal, .decimal d => some d
  | .decimal, .text s => Decimal.read? s.toList
  | .int32, .int n | .int64, .int n | .float64, .int n => (Double.ofInt? n).map (·.toDecimal)
  | .int32, .float x | .int64, .float x | .float64, .float x => some x.toDecimal
  | .int32, .decimal d | .int64, .decimal d | .float64, .decimal d =>
    (Double.ofDecimal d).toOption.map (·.toDecimal)
  | _, _ => none

namespace Comparand

/-- A literal has the form in which it is compared with fields of a type. Of a decimal field, only
what is not finite is a double. -/
inductive Suits : Comparand → ScalarType → Prop
  | text {s} : Suits (.text s) .string
  | bool {b} : Suits (.bool b) .bool
  | finite {n c e} : Suits (.decimal (.finite n c e)) .decimal
  | infinite {n} : Suits (.float (.infinite n)) .decimal
  | nan : Suits (.float .nan) .decimal
  | binary {x t} : t.isBinary = true → Suits (.float x) t

/-- A comparison that has no answer: an integer beyond the doubles or a signaling decimal where
doubles are compared, and the order of an exact number and of what is no number. -/
inductive Faulty (op : Operator) (literal : Comparand) (type : ScalarType) : Value → Prop
  | overflow {n} : type.isBinary = true → Double.overflowBound ≤ n.natAbs →
      Faulty op literal type (.int n)
  | signaling {neg payload} :
      type.isBinary = true → Faulty op literal type (.decimal (.nan neg true payload))
  | unordered {v d} : type = .decimal → literal = .float .nan → op.isOrdering = true →
      v.numberIn? .decimal = some d → d.isNaN = false → Faulty op literal type v

/-- The number that a literal is. -/
def number : Comparand → Decimal
  | .decimal d => d
  | .float x => x.toDecimal
  | _ => .nan false false 0

end Comparand

namespace Compare

/-! ## Texts and booleans -/

/-- Texts compare by the order of their code points. -/
lemma field_string {actual : Option Value} {op : Operator} {u : String} :
    field actual op (.text u) .string =
      .ok (match actual.bind Value.points? with
        | some ps => op.holds (some (compare ps (u.toList.map Char.toNat)))
        | none => false) := by
  cases actual with
  | none => rfl
  | some v => cases v <;> rfl

/-- Booleans compare as zero and one. -/
lemma field_bool {actual : Option Value} {op : Operator} {b : Bool} :
    field actual op (.bool b) .bool =
      .ok (match actual with
        | some (.bool a) => op.holds (some (compare a b))
        | _ => false) := by
  cases actual with
  | none => rfl
  | some v =>
    cases v with
    | bool a => cases a <;> cases b <;> rfl
    | _ => rfl

/-! ## Numbers -/

/-- A value becomes a double, or is of no number, or cannot become one. -/
lemma field_binary {v : Value} {op : Operator} {y : Double} {t : ScalarType}
    (ht : t.isBinary = true) :
    field (some v) op (.float y) t =
      match v with
      | .int _ | .float _ | .decimal _ =>
        (fun x : Double => op.holds (x.toDecimal.compare? y.toDecimal)) <$> doubleOf v
      | _ => .ok false := by
  cases t with
  | int32 | int64 | float64 =>
    cases v with
    | int n | float x | decimal d =>
      simp only [field, coerce]
      cases doubleOf _ <;> rfl
    | _ => rfl
  | _ => cases ht

/-- A value has an exact number that is compared, or none. -/
lemma field_decimal {v : Value} {op : Operator} {literal : Comparand} :
    field (some v) op literal.toValue .decimal =
      match v.numberIn? .decimal with
      | some d => if d.isNaN then .ok false else holds op (.decimal d) literal.toValue
      | none => .ok false := by
  cases v with
  | text s =>
    simp only [field, coerce, Value.numberIn?]
    cases Decimal.read? s.toList <;> rfl
  | _ => rfl

/-- An exact number is compared with a literal, unless the order of what is no
number is asked for. -/
lemma holds_decimal {d : Decimal} {op : Operator} {literal : Comparand}
    (hs : literal.Suits .decimal) (hd : d.isNaN = false) :
    holds op (.decimal d) literal.toValue =
      if literal = .float .nan ∧ op.isOrdering = true then .error .notDecimal
      else .ok (op.holds (d.compare? literal.number)) := by
  have quiet : d.isSignaling = false := by
    cases d with
    | nan => cases hd
    | _ => rfl
  have hn : holds op (.decimal d) literal.toValue = numbers op d literal.number true := by
    cases hs with
    | binary ht => cases ht
    | _ => rfl
  have calm : literal.number.isSignaling = false := by
    cases hs with
    | binary ht => cases ht
    | _ => rfl
  have nan : literal.number.isNaN = true ↔ literal = .float .nan := by
    cases hs with
    | binary ht => cases ht
    | nan => exact ⟨fun _ => rfl, fun _ => rfl⟩
    | _ => exact ⟨nofun, nofun⟩
  rw [hn, numbers, quiet, calm, hd]
  by_cases h : literal = .float .nan
  · rw [nan.2 h]
    simp [h]
  · have : literal.number.isNaN = false := by simpa using mt nan.1 h
    simp [h, this]

/-! ## Answers -/

/-- What is not ordered satisfies no ordering operator. -/
lemma holds_none {op : Operator} (h : op.isOrdering = true) : op.holds none = false := by
  cases op with
  | eq | ne => cases h
  | _ => rfl

/-- The number that a value is where doubles are compared. -/
lemma numberIn?_binary {v : Value} {t : ScalarType} (ht : t.isBinary = true) :
    v.numberIn? t =
      match v with
      | .int _ | .float _ | .decimal _ => (doubleOf v).toOption.map (·.toDecimal)
      | _ => none := by
  cases t with
  | int32 | int64 | float64 =>
    cases v with
    | int n =>
      simp only [Value.numberIn?, doubleOf, Double.ofInt]
      cases Double.ofInt? n <;> rfl
    | decimal d =>
      simp only [Value.numberIn?, doubleOf]
      cases Double.ofDecimal d <;> rfl
    | _ => rfl
  | _ => cases ht

/-- The values that cannot become doubles. -/
lemma doubleOf_error {v : Value} {op : Operator} {literal : Comparand} {t : ScalarType}
    (ht : t.isBinary = true) :
    Comparand.Faulty op literal t v ↔
      match v with
      | .int _ | .decimal _ => ∃ e, doubleOf v = .error e
      | _ => False := by
  have hd : t ≠ .decimal := by rintro rfl; cases ht
  constructor
  · intro h
    cases h with
    | overflow _ ho =>
      refine ⟨.numeral .overflow, ?_⟩
      simp only [doubleOf, Double.ofInt, Double.ofInt?_eq_none.2 ho, Except.mapError]
    | signaling _ => exact ⟨_, rfl⟩
    | unordered h => exact absurd h hd
  · intro h
    cases v with
    | int n =>
      obtain ⟨e, he⟩ := h
      cases ho : Double.ofInt? n with
      | none => exact .overflow ht (Double.ofInt?_eq_none.1 ho)
      | some x =>
        rw [doubleOf, Double.ofInt, ho] at he
        cases he
    | decimal d =>
      obtain ⟨e, he⟩ := h
      cases d with
      | nan neg signaling payload =>
        cases signaling with
        | true => exact .signaling ht
        | false => cases he
      | _ => cases he
    | _ => cases h

/-- A literal that suits a type of doubles is a double. -/
lemma float_of_suits {literal : Comparand} {t : ScalarType} (hs : literal.Suits t)
    (ht : t.isBinary = true) : ∃ y, literal = .float y := by
  cases hs with
  | binary => exact ⟨_, rfl⟩
  | _ => cases ht

/-- A number satisfies a comparison when its number is in the relation that the operator names. -/
lemma field_number {v : Value} {op : Operator} {literal : Comparand} {t : ScalarType}
    (hs : literal.Suits t) (ht : t.isNumeric = true) :
    field (some v) op literal.toValue t = .ok true ↔
      ∃ d, v.numberIn? t = some d ∧ (t = .decimal → d.isNaN = false) ∧
        op.holds (d.compare? literal.number) = true := by
  by_cases hd : t = .decimal
  · subst hd
    rw [field_decimal]
    cases hn : v.numberIn? .decimal with
    | none => simp
    | some d =>
      cases hi : d.isNaN with
      | true => simp [hi]
      | false =>
        simp only [Bool.false_eq_true, if_false, holds_decimal hs hi,
          Option.some.injEq, exists_eq_left', forall_const, hi, true_and]
        split
        · rename_i h
          obtain ⟨rfl, ho⟩ := h
          have hc : d.compare? (Comparand.number (.float .nan)) = none := by cases d <;> rfl
          rw [hc, holds_none ho]
          simp
        · simp
  · have hb : t.isBinary = true := by cases t <;> first | exact absurd rfl hd | rfl | cases ht
    obtain ⟨y, rfl⟩ := float_of_suits hs hb
    rw [show (Comparand.float y).toValue = .float y from rfl, field_binary hb, numberIn?_binary hb]
    cases v with
    | int | float | decimal =>
      simp only [Outcome.map_ok]
      cases doubleOf _ with
      | error e => simp [Except.toOption]
      | ok x => simp [Except.toOption, hd, Comparand.number]
    | _ => simp

/-- Only comparisons of numbers are faulty. -/
lemma isNumeric_of_faulty {v : Value} {op : Operator} {literal : Comparand} {t : ScalarType}
    (h : Comparand.Faulty op literal t v) : t.isNumeric = true := by
  cases h with
  | overflow ht | signaling ht => exact ScalarType.isNumeric_of_isBinary ht
  | unordered ht => subst ht; rfl

/-- A comparison with exact numbers fails if the order of a number and no number is asked for. -/
lemma field_decimal_error {v : Value} {op : Operator} {literal : Comparand}
    (hs : literal.Suits .decimal) :
    (∃ e, field (some v) op literal.toValue .decimal = .error e) ↔
    Comparand.Faulty op literal .decimal v := by
  rw [field_decimal]
  constructor
  · rintro ⟨e, h⟩
    cases hn : v.numberIn? .decimal with
    | none => rw [hn] at h; cases h
    | some d =>
      rw [hn] at h
      dsimp only at h
      cases hi : d.isNaN with
      | true => rw [hi] at h; cases h
      | false =>
        rw [hi, if_neg Bool.false_ne_true, holds_decimal hs hi] at h
        split at h
        · rename_i ho
          exact .unordered rfl ho.1 ho.2 hn hi
        · cases h
  · intro h
    cases h with
    | overflow h | signaling h => cases h
    | unordered _ hl ho hn hi =>
      refine ⟨.notDecimal, ?_⟩
      rw [hn]
      dsimp only
      rw [hi, if_neg Bool.false_ne_true, holds_decimal hs hi, if_pos ⟨hl, ho⟩]

/-- A comparison with doubles fails if the value cannot become one. -/
lemma field_binary_error {v : Value} {op : Operator} {y : Double} {t : ScalarType}
    (ht : t.isBinary = true) :
    (∃ e, field (some v) op (.float y) t = .error e) ↔ Comparand.Faulty op (.float y) t v := by
  rw [field_binary ht, doubleOf_error ht]
  cases v with
  | int | decimal => simp only [Outcome.map_error]
  | float => simp [doubleOf]
  | _ => simp

/-- A comparison with a literal that suits the type fails exactly if it is faulty. -/
theorem field_error {actual : Option Value} {op : Operator} {literal : Comparand} {t : ScalarType}
    (hs : literal.Suits t) :
    (∃ e, field actual op literal.toValue t = .error e) ↔
      ∃ v, actual = some v ∧ Comparand.Faulty op literal t v := by
  cases actual with
  | none =>
    constructor
    · rintro ⟨e, h⟩; cases h
    · rintro ⟨v, h, _⟩; cases h
  | some v =>
    simp only [Option.some.injEq, exists_eq_left']
    cases hs with
    | text =>
      rw [Comparand.toValue, field_string]
      constructor
      · rintro ⟨e, h⟩; cases h
      · intro h; cases isNumeric_of_faulty h
    | bool =>
      rw [Comparand.toValue, field_bool]
      constructor
      · rintro ⟨e, h⟩; cases h
      · intro h; cases isNumeric_of_faulty h
    | finite => exact field_decimal_error .finite
    | infinite => exact field_decimal_error .infinite
    | nan => exact field_decimal_error .nan
    | binary ht => exact field_binary_error ht

end Compare
end Rulebook
