import Rulebook.Diagnostic
import Rulebook.Text.Pattern

/-!
# Plain scalars

What an unquoted scalar stands for: null, a boolean, a number, a moment, one of two words that only
make sense as keys, or else its own text. The same judgement decides which texts have to be quoted
when they are written.
-/

namespace Rulebook.Yaml

open Number Text

/-- What a plain scalar stands for. -/
inductive PlainKind where
  | text
  | null
  | boolean
  | integer
  | float
  | moment
  /-- The key whose value is merged into a mapping. -/
  | merge
  /-- The key of the default value. -/
  | value
  deriving DecidableEq

/-! ## Shapes -/

/-- A digit or an underscore. -/
def isDigitPart (c : Char) : Bool := Decimal.isPlainDigit c || c == '_'

/-- Underscores and digits after a digit that is not excluded. -/
def isDigitRun (first : Char → Bool) : List Char → Bool
  | [] => false
  | c :: rest => Decimal.isPlainDigit c && first c && rest.all isDigitPart

/-- At least one character, all of one kind. -/
def isRunOf (ok : Char → Bool) (s : List Char) : Bool := !s.isEmpty && s.all ok

/-- A part of a number to base sixty after the first: up to two digits, below sixty. -/
def isSixtieth : List Char → Bool
  | [d] => Decimal.isPlainDigit d
  | [t, d] => '0' ≤ t && t ≤ '5' && Decimal.isPlainDigit d
  | _ => false

/-- Parts of a number to base sixty, with colons between them, of which there is at least one. -/
def isSexagesimal (first : Char → Bool) (s : List Char) : Bool :=
  match splitOn (· == ':') s with
  | whole :: part :: parts => isDigitRun first whole && (part :: parts).all isSixtieth
  | _ => false

/-- A digit to base sixteen or an underscore. -/
def isHexPart (c : Char) : Bool := isDigitPart c || ('a' ≤ c && c ≤ 'f') || ('A' ≤ c && c ≤ 'F')

/-- A whole number: binary, octal, hexadecimal, decimal or to base sixty. -/
def isInteger (s : List Char) : Bool :=
  let body := (takeSign s).2
  match body with
  | ['0'] => true
  | '0' :: 'b' :: ds => isRunOf (fun c => c == '0' || c == '1' || c == '_') ds
  | '0' :: 'x' :: ds => isRunOf isHexPart ds
  | '0' :: ds => isRunOf (fun c => ('0' ≤ c && c ≤ '7') || c == '_') ds
  | _ => isDigitRun (· != '0') body || isSexagesimal (· != '0') body

/-- Nothing, or a power of ten with a sign. -/
def isPower : List Char → Bool
  | [] => true
  | e :: sign :: ds =>
    (e == 'e' || e == 'E') && (sign == '-' || sign == '+') && isRunOf Decimal.isPlainDigit ds
  | _ => false

/-- A number with a point, infinity, or the word for no number. -/
def isFloat (s : List Char) : Bool :=
  let body := (takeSign s).2
  let whole := body.takeWhile (· != '.')
  match body.dropWhile (· != '.') with
  | '.' :: rest =>
    let power := rest.dropWhile isDigitPart
    (isDigitRun (fun _ => true) whole && isPower power) ||
      (s.head? == some '.' && isDigitRun (fun _ => true) (rest.takeWhile isDigitPart) &&
        isPower power) ||
      (isSexagesimal (fun _ => true) whole && power.isEmpty) ||
      (whole.isEmpty && ["inf".toList, "Inf".toList, "INF".toList].contains rest) ||
      (s.head? == some '.' && ["nan".toList, "NaN".toList, "NAN".toList].contains rest)
  | _ => false

/-- The words for the booleans. -/
def isBoolean (s : List Char) : Bool :=
  [("yes", "Yes", "YES"), ("no", "No", "NO"), ("true", "True", "TRUE"), ("false", "False", "FALSE"),
    ("on", "On", "ON"), ("off", "Off", "OFF")].any fun (a, b, c) =>
      [a.toList, b.toList, c.toList].contains s

/-- The words for null. -/
def isNull (s : List Char) : Bool :=
  s.isEmpty || ["~".toList, "null".toList, "Null".toList, "NULL".toList].contains s

/-! ## Moments -/

/-- A time of day and an offset from universal time as they are written: hour, minute,
second, fraction, and of the offset, if it is not that of universal time itself, the sign,
hours and minutes. -/
structure ClockText where
  hour : List Char
  minute : List Char
  second : List Char
  fraction : List Char
  zone : Option (Option (Bool × List Char × List Char))

/-- One digit or two. -/
def upToTwoDigits : Pattern (List Char) := do
  let a ← Pattern.one Decimal.isPlainDigit
  let b ← Pattern.optional (Pattern.one Decimal.isPlainDigit)
  pure (a :: b.toList)

/-- A given number of digits. -/
def digits : Nat → Pattern (List Char)
  | 0 => pure []
  | n + 1 => do
    let d ← Pattern.one Decimal.isPlainDigit
    let ds ← digits n
    pure (d :: ds)

/-- A blank inside a line. -/
def isInlineBlank (c : Char) : Bool := c == ' ' || c == '\t'

/-- The letter for universal time, or a sign with hours and perhaps minutes. -/
def zone : Pattern (Option (Bool × List Char × List Char)) :=
  Pattern.either (do let _ ← Pattern.char 'Z'; pure none) do
    let sign ← Pattern.one fun c => c == '-' || c == '+'
    let hours ← upToTwoDigits
    let minutes ← Pattern.optional do let _ ← Pattern.char ':'; digits 2
    pure (some (sign == '-', hours, minutes.getD []))

/-- A time of day with its offset. -/
def clock : Pattern ClockText := do
  let hour ← upToTwoDigits
  let _ ← Pattern.char ':'
  let minute ← digits 2
  let _ ← Pattern.char ':'
  let second ← digits 2
  let fraction ← Pattern.optional do let _ ← Pattern.char '.'; Pattern.run Decimal.isPlainDigit
  let zone ← Pattern.optional do let _ ← Pattern.run isInlineBlank; zone
  pure ⟨hour, minute, second, fraction.getD [], zone⟩

/-- A date, and a time if there is one; without one, month and day have two digits. -/
def momentText : Pattern (List Char × List Char × List Char × Option ClockText) := do
  let year ← digits 4
  let _ ← Pattern.char '-'
  let month ← upToTwoDigits
  let _ ← Pattern.char '-'
  let day ← upToTwoDigits
  let clock ← Pattern.optional do
    let _ ← Pattern.either (Pattern.one fun c => c == 'T' || c == 't')
      (Pattern.one isInlineBlank <* Pattern.run isInlineBlank)
    clock
  Pattern.atEnd
  pure (year, month, day, clock)

/-- The parts of a moment, if a text has that form. -/
def momentParts? (s : List Char) : Option (List Char × List Char × List Char × Option ClockText) :=
  match s with
  | c :: _ =>
    if Decimal.isPlainDigit c then
      match momentText.first? s with
      | some ((y, m, d, clock), _) =>
        if clock.isSome || s.length = 10 then some (y, m, d, clock) else none
      | none => none
    else none
  | [] => none

/-- What a plain scalar stands for. -/
def PlainKind.of (s : List Char) : PlainKind :=
  if isBoolean s then .boolean
  else if isFloat s then .float
  else if isInteger s then .integer
  else if s == "<<".toList then .merge
  else if isNull s then .null
  else if (momentParts? s).isSome then .moment
  else if s == "=".toList then .value
  else .text

/-! ## Values -/

/-- The number that digits denote to a base, if they are digits of it. -/
def natOfBase? (base : Nat) (s : List Char) : Option Nat :=
  if s.isEmpty then none
  else s.foldlM (fun acc c =>
    let d := if Decimal.isPlainDigit c then c.toNat - 48
      else if 'a' ≤ c && c ≤ 'f' then c.toNat - 87
      else if 'A' ≤ c && c ≤ 'F' then c.toNat - 55
      else base
    if d < base then some (acc * base + d) else none) 0

/-- Reads digits to a base other than ten. -/
def readBase (base : Nat) (s : List Char) : Except NumeralFault Nat :=
  match natOfBase? base s with
  | some n => .ok n
  | none => .error (.notInteger s base)

/-- Reads a whole number. -/
def readWhole (s : List Char) : Except NumeralFault Int := do
  let (negative, body) := takeSign (s.filter (· != '_'))
  let n ← match body with
    | ['0'] => .ok 0
    | '0' :: 'b' :: ds => Int.ofNat <$> readBase 2 ds
    | '0' :: 'x' :: ds => Int.ofNat <$> readBase 16 ds
    | '0' :: ds => Int.ofNat <$> readBase 8 ('0' :: ds)
    | _ => do
      let parts ← (splitOn (· == ':') body).mapM readInteger
      .ok (parts.foldl (fun acc d => acc * 60 + d) 0)
  .ok (if negative then -n else n)

/-- The sum of the parts of a number to base sixty, last part first, each rounded to a double. -/
def sexagesimalSum : Double → Nat → List Double → Double
  | sum, _, [] => sum
  | sum, weight, part :: parts => sexagesimalSum (sum.add (part.scale weight)) (weight * 60) parts

/-- Reads a number with a point. -/
def readReal (s : List Char) : Except NumeralFault Double :=
  let (negative, body) := takeSign (lower (s.filter (· != '_')))
  if body == ".inf".toList then .ok (.infinite negative)
  else if body == ".nan".toList then .ok .nan
  else do
    let x ← match splitOn (· == ':') body with
      | [_] => Double.read body
      | parts => do
        let parts ← parts.mapM Double.read
        .ok (sexagesimalSum (.finite false 0 Double.minExponent) 1 parts.reverse)
    .ok (if negative then x.negate else x)

/-- The days of a month. -/
def daysIn (year month : Nat) : Nat :=
  if month = 2 then (if year % 4 = 0 && (year % 100 ≠ 0 || year % 400 = 0) then 29 else 28)
  else if [4, 6, 9, 11].contains month then 30 else 31

/-- The number of some digits. -/
def number (ds : List Char) : Nat := Decimal.plainValue ds

/-- Why the parts of a moment are out of range, in the order in which they are looked at. -/
def rangeFault? (year month day : Nat) (time : Option (Nat × Nat × Nat)) : Option String :=
  let (hour, minute, second) := time.getD (0, 0, 0)
  if year = 0 then some "year 0 is out of range"
  else if month = 0 || 12 < month then some "month must be in 1..12"
  else if day = 0 || daysIn year month < day then some "day is out of range for month"
  else if 23 < hour then some "hour must be in 0..23"
  else if 59 < minute then some "minute must be in 0..59"
  else if 59 < second then some "second must be in 0..59"
  else none

/-- Why an offset of so many minutes is none. -/
def offsetFault? (minutes : Int) : Option String :=
  let day := 24 * 60
  if minutes.natAbs < day then none
  else
    let days := minutes.fdiv day
    let seconds := minutes.fmod day * 60
    some ("offset must be a timedelta strictly between -timedelta(hours=24) and timedelta(hours=24), not " ++
      s!"datetime.timedelta(days={days}" ++ (if seconds = 0 then "" else s!", seconds={seconds}") ++
      ").")

/-- Reads a moment. -/
def readMoment (year month day : List Char) (clock : Option ClockText) : Except String Moment := do
  let date : Moment := { year := number year, month := number month, day := number day }
  let fail (fault? : Option String) : Except String Unit :=
    match fault? with
    | some message => .error message
    | none => .ok ()
  match clock with
  | none => do
    fail (rangeFault? date.year date.month date.day none)
    .ok date
  | some c => do
    let offset := c.zone.map fun z => match z with
      | none => (0 : Int)
      | some (negative, h, m) => signed negative (number h * 60 + number m)
    fail (offset.bind offsetFault?)
    let time := (number c.hour, number c.minute, number c.second)
    fail (rangeFault? date.year date.month date.day (some time))
    let micros := number ((c.fraction ++ List.replicate 6 '0').take 6)
    .ok { date with time := some (time.1, time.2.1, time.2.2, micros), offset }

/-- The value of a plain scalar. -/
def readPlain (s : List Char) : Outcome Value :=
  match PlainKind.of s with
  | .text => .ok (.text (String.ofList s))
  | .null => .ok .null
  | .boolean => .ok (.bool (["yes", "true", "on"].contains (String.ofList (lower s))))
  | .integer => (readWhole s).mapError .numeral |>.map .int
  | .float => (readReal s).mapError .numeral |>.map .float
  | .moment =>
    match momentParts? s with
    | some (y, m, d, clock) => (readMoment y m d clock).mapError .badValue |>.map .moment
    | none => .error (.unreadableDocument .content)
  | .merge | .value => .error (.unreadableDocument .content)

end Rulebook.Yaml
