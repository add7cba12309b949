import Rulebook.Diagnostic

/-!
# Literals

The constants that conditions compare with. Their type is fixed by their shape alone: quoted text,
`true` and `false`, digits, or digits with a point.
-/

namespace Rulebook

open Number Text

/-- A constant of a condition. -/
inductive Literal where
  | bool (b : Bool)
  | int (n : Int)
  | float (x : Double)
  | text (s : String)
  deriving DecidableEq

namespace Literal

/-- The name of a literal's shape. -/
def shape : Literal → String
  | .bool _ => "bool"
  | .int _ => "int"
  | .float _ => "float"
  | .text _ => "string"

/-- A literal as a value. -/
def toValue : Literal → Value
  | .bool b => .bool b
  | .int n => .int n
  | .float x => .float x
  | .text s => .text s

/-- The literal that a value is. -/
def exactly? : Value → Option Literal
  | .bool b => some (.bool b)
  | .int n => some (.int n)
  | .float x => some (.float x)
  | .text s => some (.text s)
  | _ => none

/-- The literal that a value of data stands for; a decimal stands for the nearest double. -/
def ofValue? : Value → Option Literal
  | .decimal d => (Double.ofDecimal d).toOption.map .float
  | v => exactly? v

/-- The literal as conditions show it. -/
def shown : Literal → String
  | .bool b => if b then "true" else "false"
  | .int n => toString n
  | .float x => String.ofList x.toText
  | .text s => "\"" ++ s ++ "\""

/-- The literal as messages show it. -/
def display (l : Literal) : String := l.toValue.display

/-- A literal can be compared with a field of a type: texts and booleans with their own type,
numbers of either shape with every numeric type. -/
def fits : Literal → ScalarType → Bool
  | .text _, t => t == .string
  | .bool _, t => t == .bool
  | .int _, t | .float _, t => t.isNumeric

/-- Two literals are equal as values; `nan` is not equal to itself. -/
def same : Literal → Literal → Bool
  | .bool a, .bool b => a == b
  | .int a, .int b => a == b
  | .float a, .float b => a.compare? b == some .eq
  | .text a, .text b => a == b
  | _, _ => false

/-- Digits with at most a sign before them. -/
def isIntegerShape (s : List Char) : Bool :=
  let ds := (takeSign s).2
  !ds.isEmpty && ds.all isDecimalDigit

/-- Digits, a point and digits, with at most a sign before them. -/
def isFloatShape (s : List Char) : Bool :=
  let body := (takeSign s).2
  let fraction := (body.dropWhile isDecimalDigit).drop 1
  !(body.takeWhile isDecimalDigit).isEmpty && (body.dropWhile isDecimalDigit).head? == some '.' &&
    !fraction.isEmpty && fraction.all isDecimalDigit

/-- The text between two equal quotes. -/
def unquoted? (s : List Char) : Option (List Char) :=
  match s with
  | q :: rest =>
    if (q == '\'' || q == '"') && rest.getLast? == some q then some rest.dropLast else none
  | [] => none

/-- Reads a literal; blanks around it do not count. -/
def read (source : List Char) : Except LiteralFault Literal :=
  let s := trim source
  match unquoted? s with
  | some inner => .ok (.text (String.ofList inner))
  | none =>
    if s == "true".toList then .ok (.bool true)
    else if s == "false".toList then .ok (.bool false)
    else if isIntegerShape s then (readInteger s).mapError .numeral |>.map .int
    else if isFloatShape s then (Double.read s).mapError .numeral |>.map .float
    else .error (.unknownShape (String.ofList s))

end Literal
end Rulebook
