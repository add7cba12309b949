import Rulebook.Text.Case
import Rulebook.Text.Word
import Rulebook.Diagnostic

/-!
# Access to fields

A field is looked up by name in a mapping or among the attributes of an object. Entities show only
their declared fields. Objects of the context are asked more freely: their methods are called,
also those whose name begins with `get_` or `is_`, and the name is tried in small letters joined
by underscores too.

The answer is the value of the field, or nothing if it was not found.
-/

namespace Rulebook.Access

open Text

/-- The value of a mapping's entry, or of an attribute or method of an object. -/
def lookup (target : Value) (name : String) : Option Value :=
  match target with
  | .mapping es => Value.lookup? name es
  | .object attributes methods => (attributes.lookup name).or ((methods.lookup name).map .method)
  | _ => none

/-- The value of a declared field. -/
def declared (fields : List String) (target : Value) (name : String) : Option Value :=
  if fields.contains name then lookup target name else none

/-- Calls a method without arguments; a call that fails for want of a fitting type, argument or
attribute finds nothing. -/
def call : Behaviour → Outcome (Option Value)
  | .returns v => .ok (some v)
  | .raises .badValue => .error (.badValue "boom")
  | .raises _ | .needsArgument => .ok none

/-- The name with an underscore before every capital of ASCII but the first
character, in small letters. -/
def underscored (name : String) : String :=
  match name.toList with
  | [] => ""
  | c :: rest =>
    String.ofList (lower (c :: rest.flatMap fun x => if isAsciiUpper x then ['_', x] else [x]))

/-- Calls what a name means to an object, if it is a method; `none` stands for a
name that means none. -/
def callNamed (target : Value) (name : String) : Outcome (Option Value) :=
  match lookup target name with
  | some (.method b) => call b
  | _ => .ok none

/-- The value of a name as it is written: of an object, the attribute, the method, or the method
with one of the usual beginnings. -/
def named (target : Value) (name : String) : Outcome (Option Value) :=
  match target with
  | .mapping es => .ok (Value.lookup? name es)
  | .object .. => do
    match lookup target name with
    | some (.method b) =>
      match ← call b with
      | some v => return some v
      | none => pure ()
    | some v => return some v
    | none => pure ()
    match ← callNamed target ("get_" ++ name) with
    | some v => .ok (some v)
    | none => callNamed target ("is_" ++ name)
  | _ => .ok none

/-- The value of a name of the context, as it is written or else with underscores. -/
def context (target : Value) (name : String) : Outcome (Option Value) := do
  match ← named target name with
  | some v => .ok (some v)
  | none => if underscored name = name then .ok none else named target (underscored name)

end Rulebook.Access
