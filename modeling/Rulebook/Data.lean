import Rulebook.Diagnostic

/-!
# Typed parts of data

Reading the parts of a value that is supposed to have a given form. What may be absent may also
be null or empty. Booleans and whole numbers are read generously: from each other, and from
their usual spellings.
-/

namespace Rulebook.Data

open Number Text

/-- The entry of a key of a value that must be a mapping. -/
def get (v : Value) (key : String) : Outcome (Option Value) :=
  match v with
  | .mapping entries => .ok (Value.lookup? key entries)
  | _ => .error .noAttribute

/-- The entry of a key that must be there. -/
def index (v : Value) (key : String) : Outcome Value :=
  match v with
  | .mapping entries =>
    match Value.lookup? key entries with
    | some e => .ok e
    | none => .error (.missingKey key)
  | _ => .error .wrongType

/-- The entries of a mapping; a vacant value has none. -/
def entries : Option Value → Outcome (List (Value × Value))
  | none => .ok []
  | some (.mapping es) => .ok es
  | some v => if v.isVacant then .ok [] else .error .noAttribute

/-- The items of a value that can be gone through: a list, the characters of a text, the keys of a
mapping. -/
def iterate : Value → Outcome (List Value)
  | .list items => .ok items
  | .text s => .ok (s.toList.map fun c => .text (String.singleton c))
  | .broken ps => .ok (ps.map fun n => .ofPoints [n])
  | .mapping es => .ok (es.map (·.1))
  | _ => .error .wrongType

/-- The items of a value that may be absent; a vacant value has none. -/
def items : Option Value → Outcome (List Value)
  | none => .ok []
  | some v => if v.isVacant then .ok [] else iterate v

/-- The entries of a mapping all keys of which are texts. -/
def arguments (v : Value) : Outcome (List (Value × Value)) :=
  match v with
  | .mapping es => if es.all fun (k, _) => k.points?.isSome then .ok es else .error .wrongType
  | _ => .error .wrongType

/-- A text. -/
def text : Value → Outcome String
  | .text s => .ok s
  | _ => .error .invalidData

/-- A text, or null. -/
def optionalText : Option Value → Outcome (Option String)
  | none | some .null => .ok none
  | some v => some <$> text v

/-- The spellings of the booleans, in small letters. -/
def booleanSpellings : List (String × Bool) := [
  ("true", true), ("t", true), ("yes", true), ("y", true), ("on", true), ("1", true),
  ("false", false), ("f", false), ("no", false), ("n", false), ("off", false), ("0", false)]

/-- The boolean that a value stands for. -/
def boolean? : Value → Option Bool
  | .bool b => some b
  | .int n => if n = 0 then some false else if n = 1 then some true else none
  | .float x =>
    if x.compare? (.finite false 0 0) == some .eq then some false
    else if x.compare? (.finite false 1 0) == some .eq then some true
    else none
  | .text s => booleanSpellings.lookup (String.ofList (lower s.toList))
  | _ => none

/-- A boolean, with a value for when it is absent. -/
def boolean (default : Bool) : Option Value → Outcome Bool
  | none => .ok default
  | some v =>
    match boolean? v with
    | some b => .ok b
    | none => .error .invalidData

/-- The whole number that a decimal is. -/
def wholeDecimal? : Decimal → Option Int
  | .finite negative c e =>
    if 0 ≤ e then some (signed negative (c * Nat.pow 10 e.toNat))
    else if c % Nat.pow 10 (-e).toNat = 0 then some (signed negative (c / Nat.pow 10 (-e).toNat))
    else none
  | _ => none

/-- A numeral without a point and zeros at its end. -/
def dropPointZeros (s : List Char) : List Char :=
  match (s.reverse.dropWhile (· == '0')) with
  | '.' :: rest => rest.reverse
  | _ => s

/-- The whole number that a value stands for. -/
def integer? : Value → Option Int
  | .int n => some n
  | .bool b => some b.toNat
  | .float x => wholeDecimal? x.toDecimal
  | .decimal d => wholeDecimal? d
  | .text s => (readInteger (dropPointZeros (trim s.toList))).toOption
  | _ => none

/-- A whole number. -/
def integer (v : Value) : Outcome Int :=
  match integer? v with
  | some n => .ok n
  | none => .error .invalidData

/-- A whole number, or null. -/
def optionalInteger : Option Value → Outcome (Option Int)
  | none | some .null => .ok none
  | some v => some <$> integer v

/-- An entry that must be there. -/
def required (key : String) (es : List (Value × Value)) : Outcome Value :=
  match Value.lookup? key es with
  | some v => .ok v
  | none => .error .invalidData

/-- The member of a family that a name stands for. -/
def member {α : Type} (ofName? : String → Option α) (v : Value) : Outcome α :=
  match v.text?.bind ofName? with
  | some a => .ok a
  | none => .error .invalidData

end Rulebook.Data
