import Rulebook.Text.Blank
import Rulebook.Text.Case
import Rulebook.Text.Digit

/-!
# Exact decimals

A decimal is a signed whole coefficient times a power of ten; trailing zeros are kept. There are
also two infinities and values that are no number. Comparison is exact and never builds a power of
ten larger than the operands' digits call for.
-/

namespace Rulebook.Number

open Text

/-- An exact decimal. -/
inductive Decimal where
  /-- The number `± coefficient · 10 ^ exponent`. -/
  | finite (negative : Bool) (coefficient : Nat) (exponent : Int)
  | infinite (negative : Bool)
  | nan (negative signaling : Bool) (payload : Nat)
  deriving DecidableEq, Inhabited

namespace Decimal

/-- The decimal of an integer. -/
def ofInt (n : Int) : Decimal := .finite (n < 0) n.natAbs 0

/-- The value is no number. -/
def isNaN : Decimal → Bool
  | .nan .. => true
  | _ => false

/-- The value is no number and using it is a fault. -/
def isSignaling : Decimal → Bool
  | .nan _ signaling _ => signaling
  | _ => false

/-- How many digits a coefficient has; zero has one. -/
def digitCount (n : Nat) : Nat := (decimalDigits n).length

/-- The power of ten of the leading digit. -/
def adjusted (coefficient : Nat) (exponent : Int) : Int :=
  exponent + digitCount coefficient - 1

/-! ## Reading -/

/-- The largest power of ten that a leading digit may stand for. -/
def maxExponent : Int := 999999999999999999

/-- The smallest power of ten that a last digit may stand for. -/
def minExponent : Int := -1999999999999999997

/-- The number fits the range in which it is represented exactly. -/
def inRange (coefficient : Nat) (exponent : Int) : Bool :=
  minExponent ≤ exponent &&
    (if coefficient = 0 then exponent else adjusted coefficient exponent) ≤ maxExponent

/-- A numeral's characters with digits of other scripts turned to ASCII and underscores left out;
`none` if a character can stand in no numeral. -/
def plainNumeral? : List Char → Option (List Char)
  | [] => some []
  | c :: rest =>
    if c == '_' then plainNumeral? rest
    else if c.toNat < 128 then (plainNumeral? rest).map (c :: ·)
    else if isBlank c then (plainNumeral? rest).map (' ' :: ·)
    else match digitValue? c with
      | some d => (plainNumeral? rest).map (digitChar d :: ·)
      | none => none

/-- A digit of ASCII. -/
def isPlainDigit (c : Char) : Bool := '0' ≤ c && c ≤ '9'

/-- The number a row of ASCII digits denotes. -/
def plainValue (ds : List Char) : Nat := digitsValue (ds.map fun c => c.toNat - 48)

/-- Reads the part of a numeral that follows the mantissa: nothing, or a power of ten. -/
def exponentPart? : List Char → Option Int
  | [] => some 0
  | e :: rest =>
    if e == 'e' || e == 'E' then
      let (negative, ds) : Bool × List Char :=
        match rest with
        | '-' :: r => (true, r)
        | '+' :: r => (false, r)
        | r => (false, r)
      if ds.isEmpty || !ds.all isPlainDigit then none
      else some (if negative then -(plainValue ds : Int) else plainValue ds)
    else none

/-- Reads an unsigned finite numeral as a coefficient and an exponent. -/
def magnitude? (s : List Char) : Option (Nat × Int) :=
  let whole := s.takeWhile isPlainDigit
  let afterWhole := s.dropWhile isPlainDigit
  let (fraction, rest) : List Char × List Char :=
    match afterWhole with
    | '.' :: r => (r.takeWhile isPlainDigit, r.dropWhile isPlainDigit)
    | r => ([], r)
  if whole.isEmpty && fraction.isEmpty then none
  else (exponentPart? rest).map fun e => (plainValue (whole ++ fraction), e - fraction.length)

/-- Reads an unsigned numeral, a name of infinity, or a name of no number with its payload. -/
def unsigned? (negative : Bool) (s : List Char) : Option Decimal :=
  let small := s.map fun c => if 'A' ≤ c && c ≤ 'Z' then Char.ofNat (c.toNat + 32) else c
  if small == "inf".toList || small == "infinity".toList then some (.infinite negative)
  else match dropStart? "nan".toList small, dropStart? "snan".toList small with
    | some payload, _ =>
      if payload.all isPlainDigit then some (.nan negative false (plainValue payload)) else none
    | _, some payload =>
      if payload.all isPlainDigit then some (.nan negative true (plainValue payload)) else none
    | none, none =>
      match magnitude? s with
      | some (c, e) => if inRange c e then some (.finite negative c e) else none
      | none => none

/-- Reads a decimal; blanks around it and underscores anywhere in it do not count. -/
def read? (s : List Char) : Option Decimal :=
  match plainNumeral? (trim s) with
  | some ('-' :: rest) => unsigned? true rest
  | some ('+' :: rest) => unsigned? false rest
  | some rest => unsigned? false rest
  | none => none

/-! ## Writing -/

/-- The text of an unsigned finite decimal: positional unless the exponent is positive or the number
is very small, with every digit of the coefficient. -/
def magnitudeText (coefficient : Nat) (exponent : Int) : List Char :=
  let ds := decimalDigits coefficient
  let lead := adjusted coefficient exponent
  if exponent ≤ 0 && -6 ≤ lead then
    let places := (-exponent).toNat
    if places = 0 then ds
    else
      let padded := List.replicate (places + 1 - ds.length) '0' ++ ds
      padded.take (padded.length - places) ++ '.' :: padded.drop (padded.length - places)
  else
    let mantissa := match ds with
      | d :: [] => [d]
      | d :: more => d :: '.' :: more
      | [] => []
    mantissa ++ 'E' :: (if 0 ≤ lead then '+' else '-') :: decimalDigits lead.natAbs

/-- The text of a decimal, which reads back as the same decimal. -/
def toText : Decimal → List Char
  | .finite negative c e => (if negative then ['-'] else []) ++ magnitudeText c e
  | .infinite negative => (if negative then ['-'] else []) ++ "Infinity".toList
  | .nan negative signaling payload =>
    (if negative then ['-'] else []) ++ (if signaling then ['s'] else []) ++ "NaN".toList ++
      (if payload = 0 then [] else decimalDigits payload)

/-! ## Comparing -/

/-- Compares two positive magnitudes: by the place of the leading digit, then digit by digit. -/
def compareMagnitude (c₁ : Nat) (e₁ : Int) (c₂ : Nat) (e₂ : Int) : Ordering :=
  match compare (adjusted c₁ e₁) (adjusted c₂ e₂) with
  | .eq => compare (c₁ * Nat.pow 10 (e₁ - e₂).toNat) (c₂ * Nat.pow 10 (e₂ - e₁).toNat)
  | o => o

/-- The sign of a finite decimal: zero has none. -/
def signOf (negative : Bool) (coefficient : Nat) : Int :=
  if coefficient = 0 then 0 else if negative then -1 else 1

/-- Compares two decimals by value; `none` if either is no number. -/
def compare? : Decimal → Decimal → Option Ordering
  | .nan .., _ => none
  | _, .nan .. => none
  | .infinite n₁, .infinite n₂ => some (compare n₂.toNat n₁.toNat)
  | .infinite n, .finite .. => some (if n then .lt else .gt)
  | .finite .., .infinite n => some (if n then .gt else .lt)
  | .finite n₁ c₁ e₁, .finite n₂ c₂ e₂ =>
    match compare (signOf n₁ c₁) (signOf n₂ c₂) with
    | .eq =>
      if c₁ = 0 then some .eq
      else if n₁ then some (compareMagnitude c₂ e₂ c₁ e₁)
      else some (compareMagnitude c₁ e₁ c₂ e₂)
    | o => some o

end Decimal
end Rulebook.Number
