import Rulebook.Number.Decimal

/-!
# Doubles

Binary numbers of 53 significant bits, as exact values: a signed significand times a power of two,
two infinities, and one value that is no number. Only what the rule book does with them is here:
rounding an exact number to the nearest double, and comparing.
-/

namespace Rulebook.Number

open Text

/-- A double. -/
inductive Double where
  /-- The number `± significand · 2 ^ exponent`, with the smallest exponent from -1074 on that
  leaves the significand below `2 ^ 53`. -/
  | finite (negative : Bool) (significand : Nat) (exponent : Int)
  | infinite (negative : Bool)
  | nan
  deriving DecidableEq, Inhabited

namespace Double

/-- The whole number nearest to a quotient, of two equally near ones the even one. -/
def roundQuotient (n d : Nat) : Nat :=
  let q := n / d
  let r := n % d
  if d < 2 * r then q + 1
  else if 2 * r = d && q % 2 = 1 then q + 1
  else q

/-- The smallest exponent. -/
def minExponent : Int := -1074

/-- The largest exponent. -/
def maxExponent : Int := 971

/-- The power of two at or below a positive quotient. -/
def leadingPower (n d : Nat) : Int :=
  let k : Int := (Nat.log2 n : Int) - Nat.log2 d
  if d * Nat.pow 2 k.toNat ≤ n * Nat.pow 2 (-k).toNat then k else k - 1

/-- The double nearest to a quotient, of two equally near ones the one with an even significand;
beyond the largest double it is infinite. -/
def ofRatio (negative : Bool) (n d : Nat) : Double :=
  if n = 0 then .finite negative 0 minExponent
  else
    let e := max (leadingPower n d - 52) minExponent
    let m := roundQuotient (n * Nat.pow 2 (-e).toNat) (d * Nat.pow 2 e.toNat)
    let (m, e) := if m = Nat.pow 2 53 then (Nat.pow 2 52, e + 1) else (m, e)
    if maxExponent < e then .infinite negative else .finite negative m e

/-- The double nearest to an integer; `none` beyond the largest double. -/
def ofInt? (n : Int) : Option Double :=
  match ofRatio (n < 0) n.natAbs 1 with
  | .infinite _ => none
  | x => some x

/-- The double nearest to `± c · 10 ^ e`. -/
def ofScientific (negative : Bool) (c : Nat) (e : Int) : Double :=
  let lead := Decimal.adjusted c e
  if c = 0 || lead < -400 then .finite negative 0 minExponent
  else if 400 < lead then .infinite negative
  else ofRatio negative (c * Nat.pow 10 e.toNat) (Nat.pow 10 (-e).toNat)

/-- The value as a decimal, exactly. -/
def toDecimal : Double → Decimal
  | .finite negative m e =>
    if 0 ≤ e then .finite negative (m * Nat.pow 2 e.toNat) 0
    else .finite negative (m * Nat.pow 5 (-e).toNat) e
  | .infinite negative => .infinite negative
  | .nan => .nan false false 0

/-- The value is finite. -/
def isFinite : Double → Bool
  | .finite .. => true
  | _ => false

/-- A finite value on the scale `2 ^ minExponent`, of which it is a whole multiple. -/
def scaled (negative : Bool) (m : Nat) (e : Int) : Int :=
  let n : Int := m * Nat.pow 2 (e - minExponent).toNat
  if negative then -n else n

/-- Compares two doubles by value; `none` if either is no number. -/
def compare? : Double → Double → Option Ordering
  | .nan, _ => none
  | _, .nan => none
  | .infinite n₁, .infinite n₂ => some (compare n₂.toNat n₁.toNat)
  | .infinite n, .finite .. => some (if n then .lt else .gt)
  | .finite .., .infinite n => some (if n then .gt else .lt)
  | .finite n₁ m₁ e₁, .finite n₂ m₂ e₂ => some (compare (scaled n₁ m₁ e₁) (scaled n₂ m₂ e₂))

/-! ## Arithmetic -/

/-- The double with the other sign. -/
def negate : Double → Double
  | .finite negative m e => .finite (!negative) m e
  | .infinite negative => .infinite (!negative)
  | .nan => .nan

/-- The double nearest to a multiple of the smallest positive double. -/
def ofScaled (n : Int) : Double := ofRatio (n < 0) n.natAbs (Nat.pow 2 (-minExponent).toNat)

/-- The double nearest to the sum of two doubles. -/
def add : Double → Double → Double
  | .finite n₁ m₁ e₁, .finite n₂ m₂ e₂ => ofScaled (scaled n₁ m₁ e₁ + scaled n₂ m₂ e₂)
  | .infinite n₁, .infinite n₂ => if n₁ = n₂ then .infinite n₁ else .nan
  | .nan, _ | _, .nan => .nan
  | .infinite n, _ | _, .infinite n => .infinite n

/-- The double nearest to a positive multiple of a double. -/
def scale : Double → Nat → Double
  | .finite n m e, k => ofScaled (scaled n m e * k)
  | x, _ => x

end Double
end Rulebook.Number
