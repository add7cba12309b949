import Rulebook.Value

/-!
# JSON text

Reading a JSON text as a value. The names of infinity and of no number are read as doubles, and of
two entries with one key the later one counts. Escapes denote code units: two that form a surrogate
pair are one character, and half a pair on its own stays what it is.
-/

namespace Rulebook.Json

open Number Text

/-- Why a text cannot be read. -/
inductive Fault where
  | malformed
  | numeral (fault : NumeralFault)
  deriving DecidableEq

/-- A blank between tokens. -/
def isSpace (c : Char) : Bool := c == ' ' || c == '\t' || c == '\n' || c == '\r'

/-- Drops the blanks at the start. -/
def skipSpace (s : List Char) : List Char := s.dropWhile isSpace

/-- The value of a digit to base sixteen. -/
def hexValue? (c : Char) : Option Nat :=
  if '0' ≤ c && c ≤ '9' then some (c.toNat - 48)
  else if 'a' ≤ c && c ≤ 'f' then some (c.toNat - 87)
  else if 'A' ≤ c && c ≤ 'F' then some (c.toNat - 55)
  else none

/-- The code unit that four digits to base sixteen denote, and what follows them. -/
def codeUnit? : List Char → Option (Nat × List Char)
  | a :: b :: c :: d :: rest => do
    let a ← hexValue? a
    let b ← hexValue? b
    let c ← hexValue? c
    let d ← hexValue? d
    some (((a * 16 + b) * 16 + c) * 16 + d, rest)
  | _ => none

/-- The first halves of surrogate pairs. -/
def isHighHalf (n : Nat) : Bool := 0xD800 ≤ n && n < 0xDC00

/-- The second halves of surrogate pairs. -/
def isLowHalf (n : Nat) : Bool := 0xDC00 ≤ n && n < 0xE000

/-- The code point that an escape after `\\u` denotes, with the escape after it if
the two are a pair. -/
def codePoint? (s : List Char) : Option (Nat × List Char) := do
  let (high, after) ← codeUnit? s
  match after with
  | '\\' :: 'u' :: more =>
    match codeUnit? more with
    | some (low, afterPair) =>
      if isHighHalf high && isLowHalf low then
        some (0x10000 + (high - 0xD800) * 0x400 + (low - 0xDC00), afterPair)
      else some (high, after)
    | none => some (high, after)
  | _ => some (high, after)

/-- The code point that an escape after a backslash stands for. -/
def escape? : List Char → Option (Nat × List Char)
  | '"' :: rest => some ('"'.toNat, rest)
  | '\\' :: rest => some ('\\'.toNat, rest)
  | '/' :: rest => some ('/'.toNat, rest)
  | 'b' :: rest => some (8, rest)
  | 'f' :: rest => some (12, rest)
  | 'n' :: rest => some (10, rest)
  | 'r' :: rest => some (13, rest)
  | 't' :: rest => some (9, rest)
  | 'u' :: rest => codePoint? rest
  | _ => none

/-- Reads the code points of a text after its opening quote; the first argument bounds
the number of steps. -/
def readText : Nat → List Nat → List Char → Except Fault (List Nat × List Char)
  | 0, _, _ => .error .malformed
  | _, _, [] => .error .malformed
  | fuel + 1, acc, c :: rest =>
    if c == '"' then .ok (acc.reverse, rest)
    else if c == '\\' then
      match escape? rest with
      | some (n, rest) => readText fuel (n :: acc) rest
      | none => .error .malformed
    else if c.toNat < 32 then .error .malformed
    else readText fuel (c.toNat :: acc) rest

/-- The digits at the start of a text, and what follows them. -/
def takeDigits (s : List Char) : List Char × List Char :=
  (s.takeWhile Decimal.isPlainDigit, s.dropWhile Decimal.isPlainDigit)

/-- Reads a number without its sign. -/
def readNumber (negative : Bool) (s : List Char) : Except Fault (Value × List Char) :=
  let (whole, rest) :=
    match s with
    | '0' :: rest => (['0'], rest)
    | _ => takeDigits s
  if whole.isEmpty then .error .malformed
  else
    let (fraction, rest) : List Char × List Char :=
      match rest with
      | '.' :: r =>
        if (takeDigits r).1.isEmpty then ([], rest) else ('.' :: (takeDigits r).1, (takeDigits r).2)
      | _ => ([], rest)
    let (power, rest) : List Char × List Char :=
      match rest with
      | e :: r =>
        if e == 'e' || e == 'E' then
          let (sign, ds) : List Char × List Char :=
            match r with
            | '+' :: ds => (['+'], ds)
            | '-' :: ds => (['-'], ds)
            | ds => ([], ds)
          if (takeDigits ds).1.isEmpty then ([], rest)
          else (e :: sign ++ (takeDigits ds).1, (takeDigits ds).2)
        else ([], rest)
      | [] => ([], rest)
    if fraction.isEmpty && power.isEmpty then
      match readInteger whole with
      | .ok n => .ok (.int (if negative then -n else n), rest)
      | .error fault => .error (.numeral fault)
    else
      match Double.unsigned? negative (whole ++ fraction ++ power) with
      | some x => .ok (.float x, rest)
      | none => .error .malformed

mutual

/-- Reads a value after blanks; the first argument bounds the number of steps. -/
def readValue : Nat → List Char → Except Fault (Value × List Char)
  | 0, _ => .error .malformed
  | fuel + 1, s =>
    match skipSpace s with
    | '"' :: rest => do
      let (ps, rest) ← readText (rest.length + 1) [] rest
      .ok (.ofPoints ps, rest)
    | '[' :: rest =>
      match skipSpace rest with
      | ']' :: rest => .ok (.list [], rest)
      | rest => do
        let (items, rest) ← readItems fuel rest
        .ok (.list items, rest)
    | '\x7b' :: rest =>
      match skipSpace rest with
      | '\x7d' :: rest => .ok (.mapping [], rest)
      | rest => do
        let (entries, rest) ← readEntries fuel rest
        .ok (Value.ofEntries entries, rest)
    | 't' :: 'r' :: 'u' :: 'e' :: rest => .ok (.bool true, rest)
    | 'f' :: 'a' :: 'l' :: 's' :: 'e' :: rest => .ok (.bool false, rest)
    | 'n' :: 'u' :: 'l' :: 'l' :: rest => .ok (.null, rest)
    | 'N' :: 'a' :: 'N' :: rest => .ok (.float .nan, rest)
    | '-' :: rest =>
      match dropStart? "Infinity".toList rest with
      | some rest => .ok (.float (.infinite true), rest)
      | none => readNumber true rest
    | rest =>
      match dropStart? "Infinity".toList rest with
      | some rest => .ok (.float (.infinite false), rest)
      | none => readNumber false rest

/-- Reads the items of a list up to its closing bracket. -/
def readItems : Nat → List Char → Except Fault (List Value × List Char)
  | 0, _ => .error .malformed
  | fuel + 1, s => do
    let (v, rest) ← readValue fuel s
    match skipSpace rest with
    | ',' :: rest => do
      let (vs, rest) ← readItems fuel rest
      .ok (v :: vs, rest)
    | ']' :: rest => .ok ([v], rest)
    | _ => .error .malformed

/-- Reads the entries of a mapping up to its closing brace. -/
def readEntries : Nat → List Char → Except Fault (List (Value × Value) × List Char)
  | 0, _ => .error .malformed
  | fuel + 1, s =>
    match skipSpace s with
    | '"' :: rest => do
      let (key, rest) ← readText (rest.length + 1) [] rest
      match skipSpace rest with
      | ':' :: rest => do
        let (v, rest) ← readValue fuel rest
        let entry := (Value.ofPoints key, v)
        match skipSpace rest with
        | ',' :: rest => do
          let (more, rest) ← readEntries fuel rest
          .ok (entry :: more, rest)
        | '\x7d' :: rest => .ok ([entry], rest)
        | _ => .error .malformed
      | _ => .error .malformed
    | _ => .error .malformed

end

/-- Reads a text that holds one value and nothing else. -/
def read (s : List Char) : Except Fault Value := do
  let (v, rest) ← readValue (2 * s.length + 2) s
  if (skipSpace rest).isEmpty then .ok v else .error .malformed

end Rulebook.Json
