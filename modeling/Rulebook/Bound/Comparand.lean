import Rulebook.Diagnostic

/-!
# Comparands

What comparisons are made between: texts, booleans, exact decimals and doubles. Fields of decimal
type compare exactly, so a literal for them is read from the text it was written as; all other
numbers are compared as doubles.
-/

namespace Rulebook

open Number Text

/-- One side of a comparison. -/
inductive Comparand where
  | text (s : String)
  | broken (points : List Nat)
  | bool (b : Bool)
  | decimal (d : Decimal)
  | float (x : Double)
  deriving DecidableEq

namespace Comparand

/-- A comparand as a value. -/
def toValue : Comparand → Value
  | .text s => .text s
  | .broken ps => .broken ps
  | .bool b => .bool b
  | .decimal d => .decimal d
  | .float x => .float x

/-- The comparand that stands for a value in a bound rule: an integer becomes a double if one is
near it, and so does a decimal that is not finite. -/
def ofValue : Value → Outcome Comparand
  | .text s => .ok (.text s)
  | .bool b => .ok (.bool b)
  | .float x => .ok (.float x)
  | .int n =>
    match Double.ofInt? n with
    | some x => .ok (.float x)
    | none => .ok (.decimal (.ofInt n))
  | .decimal (.finite n c e) => .ok (.decimal (.finite n c e))
  | .decimal d =>
    match Double.ofDecimal d with
    | .ok x => .ok (.float x)
    | .error _ => .error .invalidData
  | _ => .error .invalidData

end Comparand

/-! ## Conversions -/

/-- The decimal that a text denotes. -/
def decimalOfText (s : List Char) : Outcome Decimal :=
  match Decimal.read? s with
  | some d => .ok d
  | none => .error .notDecimal

/-- The decimal with the digits of a double's text. -/
def decimalOfDouble (x : Double) : Decimal := (Decimal.read? x.toText).getD (.nan false false 0)

/-- The decimal that a value stands for as a literal. -/
def decimalOf : Value → Outcome Decimal
  | .int n => .ok (.ofInt n)
  | .bool b => .ok (.ofInt b.toNat)
  | .float x => .ok (decimalOfDouble x)
  | .decimal d => .ok d
  | .text s => decimalOfText s.toList
  | .broken _ => .error .notDecimal
  | .list _ => .error (.badValue "argument must be a sequence of length 3")
  | _ => .error .wrongType

/-- The double that a value stands for. -/
def doubleOf : Value → Outcome Double
  | .int n => (Double.ofInt n).mapError .numeral
  | .bool b => (Double.ofInt b.toNat).mapError .numeral
  | .float x => .ok x
  | .decimal d => (Double.ofDecimal d).mapError .numeral
  | .text s => (Double.read s.toList).mapError .numeral
  | .broken ps =>
    .error (.badValue s!"could not convert string to float: {(Value.broken ps).display}")
  | _ => .error .wrongType

/-- The form in which a literal is compared with a field of a type. -/
def comparisonLiteral (value : Value) (type : ScalarType) (written : Option String) :
    Outcome Value :=
  match type with
  | .decimal =>
    match written with
    | some s => .decimal <$> decimalOfText s.toList
    | none => .decimal <$> decimalOf value
  | .int32 | .int64 | .float64 => .float <$> doubleOf value
  | _ => .ok value

end Rulebook
