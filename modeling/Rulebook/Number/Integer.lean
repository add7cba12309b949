import Rulebook.Text.Blank
import Rulebook.Text.Digit
import Rulebook.Text.Quoted

/-!
# Integer numerals

A numeral is an optional sign and decimal digits of any script, with single underscores allowed
between digits and blanks around the whole. Numerals of more than 4300 digits are refused.
-/

namespace Rulebook.Number

open Text

/-- Why a text denotes no number. -/
inductive NumeralFault where
  | notInteger (text : List Char) (base : Nat)
  | tooManyDigits (count : Nat)
  | notFloat (text : List Char)
  | signalingNaN
  | overflow
  deriving DecidableEq

/-- The longest numeral that is read. -/
def maxDigits : Nat := 4300

/-- The wording of a fault; a refused integer numeral is shown up to 200 characters. -/
def NumeralFault.message : NumeralFault → String
  | .notInteger text base =>
    s!"invalid literal for int() with base {base}: " ++ String.ofList ((quoted text).take 200)
  | .tooManyDigits count =>
    s!"Exceeds the limit ({maxDigits} digits) for integer string conversion: value has {count} digits; " ++
      "use sys.set_int_max_str_digits() to increase the limit"
  | .notFloat text => "could not convert string to float: " ++ String.ofList (quoted text)
  | .signalingNaN => "cannot convert signaling NaN to float"
  | .overflow => "int too large to convert to float"

/-- A blank that may surround a numeral; the separator controls of ASCII may not. -/
def isNumeralBlank (c : Char) : Bool := isBlank c && !(28 ≤ c.toNat && c.toNat ≤ 31)

/-- Drops the blanks that may surround a numeral. -/
def trimNumeral (s : List Char) : List Char :=
  ((s.dropWhile isNumeralBlank).reverse.dropWhile isNumeralBlank).reverse

/-- Takes an optional sign off the front; `true` stands for minus. -/
def takeSign : List Char → Bool × List Char
  | '-' :: rest => (true, rest)
  | '+' :: rest => (false, rest)
  | s => (false, s)

/-- The digit values of a row of digits with single underscores between them, and what follows. -/
def digitRow : List Char → List Nat × List Char
  | [] => ([], [])
  | c :: '_' :: rest =>
    match digitValue? c with
    | none => ([], c :: '_' :: rest)
    | some d =>
      match digitRow rest with
      | ([], _) => ([d], '_' :: rest)
      | (ds, r) => (d :: ds, r)
  | c :: rest =>
    match digitValue? c with
    | none => ([], c :: rest)
    | some d => let (ds, r) := digitRow rest; (d :: ds, r)

/-- A number with its sign. -/
def signed (negative : Bool) (n : Nat) : Int := if negative then -(n : Int) else n

/-- Reads an integer numeral. -/
def readInteger (s : List Char) : Except NumeralFault Int :=
  let (negative, body) := takeSign (trimNumeral s)
  match digitRow body with
  | ([], _) => .error (.notInteger s 10)
  | (ds, rest) =>
    if rest.head? == some '_' then .error (.notInteger s 10)
    else if maxDigits < ds.length then .error (.tooManyDigits ds.length)
    else if rest.isEmpty then .ok (signed negative (digitsValue ds))
    else .error (.notInteger s 10)

end Rulebook.Number
