import Rulebook.Build.Files
import Rulebook.Data
import Rulebook.Json

/-!
# Settings

How a project is built and where its parts lie. Settings have defaults, which the file `.env`
changes and explicit values change again. Names that stand for no setting are refused.
-/

namespace Rulebook

open Text

/-- The settings of a project. -/
structure Settings where
  /-- The domain of statements and rules that name none. -/
  defaultDomain : String := "default"
  parseWorkers : Int := 4
  /-- Warnings keep a project from being built. -/
  failOnWarnings : Bool := false
  schemaFiles : List String := ["schema.sql", "views.sql"]
  featuresFolder : String := "features"
  metadataPath : String := "metadata.yaml"
  modelsOutput : String := "models.yaml"
  specsOutput : String := "specs.yaml"
  deriving DecidableEq

namespace Settings

/-- Changes the setting of a name. The name of the application, the level of its log and its debug
mode must fit their types, but nothing depends on them. -/
def set (s : Settings) (name : String) (v : Value) : Outcome Settings :=
  match name with
  | "app_name" | "log_level" => do
    let _ ← Data.text v
    .ok s
  | "debug" => do
    let _ ← Data.boolean false (some v)
    .ok s
  | "default_domain" => do .ok { s with defaultDomain := ← Data.text v }
  | "parse_workers" => do .ok { s with parseWorkers := ← Data.integer v }
  | "fail_on_warnings" =>
    do .ok { s with failOnWarnings := ← Data.boolean s.failOnWarnings (some v) }
  | "schema_files" =>
    match v with
    | .list items => do .ok { s with schemaFiles := ← items.mapM Data.text }
    | _ => .error .invalidData
  | "features_dir" => do .ok { s with featuresFolder := ← Data.text v }
  | "metadata_path" => do .ok { s with metadataPath := ← Data.text v }
  | "models_output" => do .ok { s with modelsOutput := ← Data.text v }
  | "specs_output" => do .ok { s with specsOutput := ← Data.text v }
  | _ => .error .invalidData

/-- Changes settings, one after the other. -/
def setAll (s : Settings) : List (String × Value) → Outcome Settings
  | [] => .ok s
  | (name, v) :: rest => do
    let s ← s.set name v
    setAll s rest

/-! ## The settings file -/

/-- What the names of settings begin with in the file. -/
def variableStart : List Char := "rulegate_".toList

/-- The value of a variable without its quotes or the comment after it. Escapes within quotes and
references to other variables stay as they are written. -/
def variableValue (s : List Char) : List Char :=
  match trim s with
  | q :: rest =>
    if (q == '\'' || q == '"') && rest.contains q then rest.takeWhile (· != q)
    else trimEnd ((q :: rest).take (commentStart (q :: rest)))
  | [] => []
where
  /-- Where a comment begins: at a number sign after a blank. -/
  commentStart : List Char → Nat
    | a :: b :: rest => if isBlank a && b == '#' then 0 else commentStart (b :: rest) + 1
    | s => s.length

/-- The variable of a line, with its name in small letters. -/
def assignment? (line : List Char) : Option (String × String) :=
  let line := trim line
  let line := match dropStart? "export ".toList line with
    | some rest => trim rest
    | none => line
  if line.isEmpty || line.head? == some '#' || !line.contains '=' then none
  else
    let (name, value) := cutAt '=' line
    some (String.ofList (lower (trim name)), String.ofList (variableValue value))

/-- The value that a setting takes from a variable: lists are written as JSON. -/
def ofVariable (name value : String) : Outcome Value :=
  if name == "schema_files" then
    match Json.read value.toList with
    | .ok v => .ok v
    | .error _ => .error .invalidData
  else .ok (.text value)

/-- Changes settings by the lines of the settings file. -/
def setVariables (s : Settings) : List (List Char) → Outcome Settings
  | [] => .ok s
  | line :: rest =>
    match assignment? line with
    | none => setVariables s rest
    | some (name, value) =>
      match dropStart? variableStart name.toList with
      | none => if value == "" then setVariables s rest else .error .invalidData
      | some field => do
        let v ← ofVariable (String.ofList field) value
        let s ← s.set (String.ofList field) v
        setVariables s rest

/-- The settings of a project, with explicit values for some. An explicit value cannot empty the
name of the domain. -/
def load (files : Files) (values : List (String × Value) := []) : Outcome Settings := do
  let base ← setVariables {} (lines ((files.read ".env").toOption.getD []))
  let s ← base.setAll values
  .ok { s with
    defaultDomain := if s.defaultDomain == "" then base.defaultDomain else s.defaultDomain }

end Settings
end Rulebook
