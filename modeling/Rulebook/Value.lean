import Rulebook.Number.DoubleText

/-!
# Values

The values that documents, requests and entities are made of. An object has attributes and methods;
reading a method as an attribute gives something that can be called.

A text is a string of characters. A request can also hold a text with half of a surrogate pair,
which is no character; such a broken text is told by its code points. Names are never broken: data
that have one for a name do not fit.
-/

namespace Rulebook

open Number Text

/-- A date, or a date with a time of day and perhaps an offset from universal time in minutes. -/
structure Moment where
  year : Nat
  month : Nat
  day : Nat
  /-- Hour, minute, second, microsecond. -/
  time : Option (Nat × Nat × Nat × Nat) := none
  offset : Option Int := none
  deriving DecidableEq

/-- How calling a method goes wrong. -/
inductive MethodFault where
  | wrongType
  | noAttribute
  | badValue
  deriving DecidableEq

mutual

/-- A value. -/
inductive Value where
  | null
  | bool (b : Bool)
  | int (n : Int)
  | float (x : Double)
  | decimal (d : Decimal)
  | text (s : String)
  /-- A text with half of a surrogate pair in it, by its code points. -/
  | broken (points : List Nat)
  | moment (m : Moment)
  | list (items : List Value)
  | mapping (entries : List (Value × Value))
  | object (attributes : List (String × Value)) (methods : List (String × Behaviour))
  | method (behaviour : Behaviour)

/-- What a method does when it is called without arguments. -/
inductive Behaviour where
  | returns (v : Value)
  | raises (fault : MethodFault)
  | needsArgument

end

instance : Inhabited Value := ⟨.null⟩

instance : Inhabited Behaviour := ⟨.needsArgument⟩

namespace Value

/-- A mapping with text keys. -/
def record (entries : List (String × Value)) : Value :=
  .mapping (entries.map fun (k, v) => (.text k, v))

/-- A list of texts. -/
def texts (ss : List String) : Value := .list (ss.map .text)

/-- The text of a value that is one. -/
def text? : Value → Option String
  | .text s => some s
  | _ => none

/-- The text with given code points, which is broken if one of them is no character. -/
def ofPoints (ps : List Nat) : Value :=
  if ps.all fun n => decide n.isValidChar then .text (String.ofList (ps.map Char.ofNat))
    else .broken ps

/-- The code points of a value that is a text, broken or not. -/
def points? : Value → Option (List Nat)
  | .text s => some (s.toList.map Char.toNat)
  | .broken ps => some ps
  | _ => none

/-- The value counts as absent where a document may leave a part out: null, false, zero and
whatever is empty. -/
def isVacant : Value → Bool
  | .null | .bool false => true
  | .int n => n == 0
  | .float (.finite _ m _) => m == 0
  | .decimal (.finite _ c _) => c == 0
  | .text s => s == ""
  | .list items => items.isEmpty
  | .mapping entries => entries.isEmpty
  | _ => false

/-- The number that a value stands for as a key: booleans stand for zero and one. -/
def keyNumber? : Value → Option Decimal
  | .bool b => some (.ofInt b.toNat)
  | .int n => some (.ofInt n)
  | .float x => some x.toDecimal
  | .decimal d => some d
  | _ => none

/-- Two scalars are one key of a mapping. -/
def sameKey : Value → Value → Bool
  | .null, .null => true
  | .text a, .text b => a == b
  | .broken a, .broken b => a == b
  | .moment a, .moment b => a == b
  | a, b =>
    match a.keyNumber?, b.keyNumber? with
    | some x, some y => x.compare? y == some .eq
    | _, _ => false

/-- Sets a key in the entries of a mapping: a new key goes last, a known one keeps its place. -/
def insertEntry (key value : Value) : List (Value × Value) → List (Value × Value)
  | [] => [(key, value)]
  | (k, v) :: rest =>
    if k.sameKey key then (k, value) :: rest else (k, v) :: insertEntry key value rest

/-- A mapping from entries in which a later one replaces an earlier one with the same key. -/
def ofEntries (entries : List (Value × Value)) : Value :=
  .mapping (entries.foldl (fun acc (k, v) => insertEntry k v acc) [])

/-- The entry of a text key. -/
def lookup? (key : String) : List (Value × Value) → Option Value
  | [] => none
  | (.text k, v) :: rest => if k = key then some v else lookup? key rest
  | _ :: rest => lookup? key rest

/-! ## Text of values -/

/-- A number with at least `width` digits. -/
def padded (width n : Nat) : String :=
  let ds := decimalDigits n
  String.ofList (List.replicate (width - ds.length) '0' ++ ds)

/-- The text of an offset from universal time. -/
def offsetText (minutes : Int) : String :=
  (if minutes < 0 then "-" else "+") ++ padded 2 (minutes.natAbs / 60) ++ ":" ++
  padded 2 (minutes.natAbs % 60)

/-- The text of a date or a time. -/
def momentText (m : Moment) : String :=
  let date := padded 4 m.year ++ "-" ++ padded 2 m.month ++ "-" ++ padded 2 m.day
  match m.time with
  | none => date
  | some (h, mi, s, us) =>
    date ++ " " ++ padded 2 h ++ ":" ++ padded 2 mi ++ ":" ++ padded 2 s ++
      (if us = 0 then "" else "." ++ padded 6 us) ++ ((m.offset.map offsetText).getD "")

/-- The text of a date or a time inside other values. -/
def momentDisplay (m : Moment) : String :=
  match m.time with
  | none => s!"datetime.date({m.year}, {m.month}, {m.day})"
  | some (h, mi, s, us) =>
    s!"datetime.datetime({m.year}, {m.month}, {m.day}, {h}, {mi}" ++
      (if s = 0 && us = 0 then "" else s!", {s}") ++ (if us = 0 then "" else s!", {us}") ++ ")"

mutual

/-- The text of a value as it stands inside other values: texts are quoted. -/
def display : Value → String
  | .null => "None"
  | .bool b => if b then "True" else "False"
  | .int n => toString n
  | .float x => String.ofList x.toText
  | .decimal d => "Decimal('" ++ String.ofList d.toText ++ "')"
  | .text s => String.ofList (quoted s.toList)
  | .broken ps => String.ofList (quotedPoints ps)
  | .moment m => momentDisplay m
  | .list items => "[" ++ displayItems items ++ "]"
  | .mapping entries => "\x7b" ++ displayEntries entries ++ "\x7d"
  | .object _ _ => "<object>"
  | .method _ => "<method>"

/-- The texts of the items of a list, with commas between them. -/
def displayItems : List Value → String
  | [] => ""
  | [v] => v.display
  | v :: vs => v.display ++ ", " ++ displayItems vs

/-- The texts of the entries of a mapping, with commas between them. -/
def displayEntries : List (Value × Value) → String
  | [] => ""
  | [(k, v)] => k.display ++ ": " ++ v.display
  | (k, v) :: rest => k.display ++ ": " ++ v.display ++ ", " ++ displayEntries rest

end

/-- The text of a value on its own: a text is itself, and a broken one is shown as
inside other values. -/
def shown : Value → String
  | .text s => s
  | .moment m => momentText m
  | .decimal d => String.ofList d.toText
  | v => v.display

end Value
end Rulebook
