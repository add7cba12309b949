import Rulebook.Data
import Rulebook.Rule.Registry
import Rulebook.Yaml.Document

/-!
# Registry documents

A registry is written as a YAML mapping from category names to a flag and a list of fields, perhaps
under the key `metadata`. Names of any scalar type are turned into text.
-/

namespace Rulebook.Registry

/-- Rejects a registry. -/
def refuse {α : Type} (source : Option String) (fault : RegistryFault) (line : Option Nat := none) :
    Outcome α :=
  reject (.registry fault) (.atLine source line)

/-- A field declared so far has the name that a value is; a value that is no text equals no name. -/
def isDeclared (fields : List ContextField) (name : Value) : Bool :=
  fields.any fun f => name.text? == some f.name

/-- Reads the fields of a category after those read so far. -/
def readFields (source : Option String) (category : String) (fields : List ContextField) :
    List Value → Outcome (List ContextField)
  | [] => .ok fields
  | entry :: rest =>
    let parts := match entry with
      | .mapping es => (Value.lookup? "name" es).bind fun n => (Value.lookup? "type" es).map (n, ·)
      | _ => none
    match parts with
    | none => refuse source (.incompleteField category)
    | some (name, type) =>
      match ScalarType.ofSpelling? type.shown with
      | none => refuse source (.unknownType category name.shown type.shown)
      | some t =>
        if isDeclared fields name then refuse source (.fieldTwice category name.shown)
        else readFields source category (fields ++ [⟨name.shown, t⟩]) rest

/-- Reads a category. -/
def readCategory (source : Option String) (name : String) (definition : Value) : Outcome Category :=
  do
  let es ← match definition with
    | .mapping es => .ok es
    | v => if v.isVacant then .ok [] else refuse source (.categoryNotMapping name)
  let enabled ← match Value.lookup? "enabled" es with
    | none => .ok true
    | some (.bool b) => .ok b
    | some _ => refuse source (.enabledNotBoolean name)
  let items ← Data.items (Value.lookup? "fields" es)
  let fields ← readFields source name [] items
  .ok { name, enabled, fields }

/-- Reads the categories of a registry. -/
def readCategories (source : Option String) (categories : List Category) :
    List (Value × Value) → Outcome (List Category)
  | [] => .ok categories
  | (name, definition) :: rest => do
    let c ← readCategory source name.shown definition
    readCategories source (insert c categories) rest

/-- Reads a registry from a loaded document. -/
def ofDocument (source : Option String) (document : Value) : Outcome Registry :=
  match (if document.isVacant then .mapping [] else document) with
  | .mapping es =>
    match (Value.lookup? "metadata" es).getD (.mapping es) with
    | .mapping body => (readCategories source [] body).map .mk
    | _ => refuse source .bodyNotMapping
  | _ => refuse source .notMapping (some 1)

/-- Reads a registry from its text. -/
def read (text : List Char) (source : Option String := none) : Outcome Registry :=
  match Yaml.read text with
  | .error (.unreadableDocument _) => refuse source .unreadable
  | .error e => .error e
  | .ok document => ofDocument source document

end Rulebook.Registry
