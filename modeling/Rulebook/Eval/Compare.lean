import Rulebook.Bound.Comparand

/-!
# Comparing

A looked-up value is first brought into the domain of its field's type; one that does not belong
there compares false under every operator, as do null and what was not found. Texts compare by code
point, numbers by value.
-/

namespace Rulebook

open Number Text

/-- The operator holds between two things that compare in a way; `none` stands for things without
order, of which only inequality holds. -/
def Operator.holds : Operator → Option Ordering → Bool
  | .eq, o => o == some .eq
  | .ne, o => o != some .eq
  | .gt, o => o == some .gt
  | .lt, o => o == some .lt
  | .ge, o => o == some .gt || o == some .eq
  | .le, o => o == some .lt || o == some .eq

namespace Compare

/-- Brings a value into the domain of a type; `none` stands for a value that
does not belong there. -/
def coerce (value : Value) (type : ScalarType) : Outcome (Option Comparand) :=
  match type, value with
  | .string, .text s => .ok (some (.text s))
  | .string, .broken ps => .ok (some (.broken ps))
  | .bool, .bool b => .ok (some (.bool b))
  | .decimal, .decimal d => .ok (some (.decimal d))
  | .decimal, .int n => .ok (some (.decimal (.ofInt n)))
  | .decimal, .float x => .ok (some (.decimal (decimalOfDouble x)))
  | .decimal, .text s => .ok ((Decimal.read? s.toList).map .decimal)
  | .int32, .int _ | .int32, .float _ | .int32, .decimal _
  | .int64, .int _ | .int64, .float _ | .int64, .decimal _
  | .float64, .int _ | .float64, .float _ | .float64, .decimal _ =>
    (some ∘ .float) <$> doubleOf value
  | _, _ => .ok none

/-- A number with whether it is an exact decimal and not a double or integer. -/
def number? : Value → Option (Decimal × Bool)
  | .bool b => some (.ofInt b.toNat, false)
  | .int n => some (.ofInt n, false)
  | .float x => some (x.toDecimal, false)
  | .decimal d => some (d, true)
  | _ => none

/-- Compares two numbers. Among decimals, asking for the order of what is no number is a fault, and
so is any use of a signaling one. -/
def numbers (op : Operator) (a b : Decimal) (exact : Bool) : Outcome Bool :=
  if exact && (a.isSignaling || b.isSignaling || (op.isOrdering && (a.isNaN || b.isNaN))) then
    .error .notDecimal
  else .ok (op.holds (a.compare? b))

/-- Compares a comparand with a literal, texts by their code points; of different kinds,
only inequality holds. -/
def holds (op : Operator) (a : Comparand) (b : Value) : Outcome Bool :=
  match a.toValue.points?, b.points? with
  | some ps, some qs => .ok (op.holds (some (compare ps qs)))
  | _, _ =>
    match number? a.toValue, number? b with
    | some (x, exactX), some (y, exactY) => numbers op x y (exactX || exactY)
    | _, _ => .ok (op == .ne)

/-- Compares a looked-up value with a literal under the type of the field. -/
def field (actual : Option Value) (op : Operator) (literal : Value) (type : ScalarType) :
    Outcome Bool :=
  match actual with
  | none | some .null => .ok false
  | some v => do
    match ← coerce v type with
    | none => .ok false
    | some (.decimal d) => if d.isNaN then .ok false else holds op (.decimal d) literal
    | some c => holds op c literal

end Compare
end Rulebook
