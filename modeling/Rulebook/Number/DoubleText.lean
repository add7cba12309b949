import Rulebook.Number.Double
import Rulebook.Number.Integer

/-!
# The text of a double

A double is written with the fewest digits that read back as the same double, of those the nearest
to its value. Numbers from `10 ^ -4` up to below `10 ^ 16` are written positionally and always with
a point; others get an exponent with a sign and at least two digits.
-/

namespace Rulebook.Number.Double

open Text

/-! ## Shortest digits -/

/-- Of two decimals that read back, the nearer to `c` on the grid of step `10 ^ drop`; an exact tie
goes to the even one. -/
def nearer (c drop low : Nat) : Nat :=
  let below := c - low * Nat.pow 10 drop
  let above := (low + 1) * Nat.pow 10 drop - c
  if below < above then low
  else if above < below then low + 1
  else if low % 2 = 0 then low else low + 1

/-- A coefficient `c` at exponent `e`, cut to the grid that drops its last `drop` digits, if a
neighbour on that grid reads back as `x`. -/
def onGrid? (x : Double) (c : Nat) (e : Int) (drop : Nat) : Option (Nat × Int) :=
  let low := c / Nat.pow 10 drop
  let reads (k : Nat) : Bool := ofScientific false k (e + drop) == x
  match reads low, reads (low + 1) with
  | true, true => some (nearer c drop low, e + drop)
  | true, false => some (low, e + drop)
  | false, true => some (low + 1, e + drop)
  | false, false => none

/-- The fewest digits that read back as the positive double `m · 2 ^ e`, with the
exponent of the last. -/
def shortest (m : Nat) (e : Int) : Nat × Int :=
  let c := if 0 ≤ e then m * Nat.pow 2 e.toNat else m * Nat.pow 5 (-e).toNat
  let exponent := if 0 ≤ e then 0 else e
  let count := Decimal.digitCount c
  ((List.range 17).findSome? fun k =>
    onGrid? (.finite false m e) c exponent (count - (k + 1))).getD (c, exponent)

/-- Drops the zeros at the end of a coefficient, at most `fuel` of them. -/
def dropZeros : Nat → Nat → Int → Nat × Int
  | 0, c, e => (c, e)
  | fuel + 1, c, e => if c % 10 = 0 && c ≠ 0 then dropZeros fuel (c / 10) (e + 1) else (c, e)

/-! ## Writing -/

/-- Digits with a point after the first `point` of them, zeros filled in on either side. -/
def positional (ds : List Char) (point : Int) : List Char :=
  if point ≤ 0 then '0' :: '.' :: List.replicate (-point).toNat '0' ++ ds
  else if (ds.length : Int) ≤ point then
    ds ++ List.replicate (point.toNat - ds.length) '0' ++ ['.', '0']
  else ds.take point.toNat ++ '.' :: ds.drop point.toNat

/-- Digits with a point after the first and a power of ten. -/
def exponential (ds : List Char) (lead : Int) : List Char :=
  let mantissa := match ds with
    | [] => []
    | [d] => [d]
    | d :: more => d :: '.' :: more
  let power := decimalDigits lead.natAbs
  mantissa ++ 'e' :: (if lead < 0 then '-' else '+') ::
    (List.replicate (2 - power.length) '0' ++ power)

/-- The text of a double. -/
def toText : Double → List Char
  | .nan => "nan".toList
  | .infinite negative => (if negative then ['-'] else []) ++ "inf".toList
  | .finite negative m e =>
    (if negative then ['-'] else []) ++
      if m = 0 then "0.0".toList
      else
        let (c, k) := shortest m e
        let (c, k) := dropZeros 400 c k
        let ds := decimalDigits c
        let point := k + ds.length
        if -4 < point && point ≤ 16 then positional ds point else exponential ds (point - 1)

/-! ## Reading -/

/-- A numeral with its underscores left out; `none` unless each stands between two digits. -/
def dropUnderscores? : Option Char → List Char → Option (List Char)
  | _, [] => some []
  | before, '_' :: rest =>
    if before.any Decimal.isPlainDigit && rest.head?.any Decimal.isPlainDigit then
      dropUnderscores? (some '_') rest
    else none
  | _, c :: rest => (dropUnderscores? (some c) rest).map (c :: ·)

/-- Digits of other scripts and blanks turned to ASCII; `none` if another character
beyond ASCII occurs. -/
def toAscii? : List Char → Option (List Char)
  | [] => some []
  | c :: rest =>
    if c.toNat < 128 then (toAscii? rest).map (c :: ·)
    else if isBlank c then (toAscii? rest).map (' ' :: ·)
    else match digitValue? c with
      | some d => (toAscii? rest).map (digitChar d :: ·)
      | none => none

/-- Reads an unsigned numeral, or a name of infinity or of no number. -/
def unsigned? (negative : Bool) (s : List Char) : Option Double :=
  let small := s.map fun c => if 'A' ≤ c && c ≤ 'Z' then Char.ofNat (c.toNat + 32) else c
  if small == "inf".toList || small == "infinity".toList then some (.infinite negative)
  else if small == "nan".toList then some .nan
  else (Decimal.magnitude? s).map fun (c, e) => ofScientific negative c e

/-- Reads a double from its text. -/
def read? (s : List Char) : Option Double :=
  match (toAscii? (trimNumeral s)).bind (dropUnderscores? none) with
  | some t => let (negative, body) := takeSign t; unsigned? negative body
  | none => none

/-- Reads a double from its text, or says that it is none. -/
def read (s : List Char) : Except NumeralFault Double :=
  match read? s with
  | some x => .ok x
  | none => .error (.notFloat s)

/-- The double nearest to a decimal, read off the decimal's text. -/
def ofDecimal : Decimal → Except NumeralFault Double
  | .finite negative c e => .ok (ofScientific negative c e)
  | .infinite negative => .ok (.infinite negative)
  | .nan _ signaling _ => if signaling then .error .signalingNaN else .ok .nan

/-- The double nearest to an integer. -/
def ofInt (n : Int) : Except NumeralFault Double :=
  match ofInt? n with
  | some x => .ok x
  | none => .error .overflow

end Rulebook.Number.Double
