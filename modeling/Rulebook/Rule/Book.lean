import Rulebook.Data
import Rulebook.Rule.Definition
import Rulebook.Rule.Registry

/-!
# Books

All rules of a project with the registry they refer to, and their form as data: nested mappings from
which the book can be read back. Where a rule stands in its document is not written.
-/

namespace Rulebook

open Value

/-- All rules of a project, with the registry of context categories. -/
structure Book where
  version : Int := 1
  registry : Registry := {}
  rules : List Rule := []
  deriving DecidableEq

/-- The first rule of a name. -/
def Book.rule? (b : Book) (name : String) : Option Rule := b.rules.find? fun r => r.name == name

/-! ## Writing -/

/-- A condition as data. -/
def Condition.toData (c : Condition) : Value :=
  record ([("field", .text c.field), ("operator", .text c.operator.symbol),
    ("value", c.literal.toValue), ("value_type", .text c.literal.shape)] ++ match c.literalText with
    | some t => [("literal_text", .text t)]
    | none => [])

/-- A main condition as data. -/
def MainCondition.toData : MainCondition → Value
  | .single c => c.toData
  | .compound logic cs =>
    record [("logic", .text logic.name), ("clauses", .list (cs.map Condition.toData))]

/-- A requirement as data. -/
def Requirement.toData (r : Requirement) : Value :=
  record [("category", .text r.category), ("conditions", .list (r.conditions.map Condition.toData))]

/-- A target as data. -/
def Target.toData (t : Target) : Value :=
  record [("type", .text t.kind.name), ("name", .text t.name), ("domain", .text t.domain)]

/-- A status as data. -/
def statusData (status : String) : Value := record [("status", .text status)]

/-- A rule as data; an empty description is left out. -/
def Rule.toData (r : Rule) : Value :=
  record ([("name", .text r.name), ("target", r.target.toData), ("blocking", .bool r.blocking)] ++
    (match r.description with
      | some d => if d == "" then [] else [("description", .text d)]
      | none => []) ++
    [("metadata_requirements", .list (r.requirements.map Requirement.toData)),
      ("condition", r.condition.toData), ("then", statusData r.positive),
      ("else", statusData r.negative)])

/-- A category as data, without its name. -/
def Category.toData (c : Category) : Value :=
  record [("enabled", .bool c.enabled), ("fields", .list (c.fields.map fun f =>
    record [("name", .text f.name), ("type", .text f.type.name)]))]

/-- A registry as data. -/
def Registry.toData (r : Registry) : Value := record (r.categories.map fun c => (c.name, c.toData))

/-- A book as data. -/
def Book.toData (b : Book) : Value :=
  record [("schema_version", .int b.version), ("metadata", b.registry.toData),
    ("rules", .list (b.rules.map Rule.toData))]

/-! ## Reading -/

/-- The operator of a symbol in data. -/
def Operator.ofData (v : Value) : Outcome Operator :=
  match v.text?.bind Operator.ofSymbol? with
  | some o => .ok o
  | none => .error (.notMember v.display .operator)

/-- Reads a condition. -/
def Condition.ofData (v : Value) : Outcome Condition := do
  let field ← Data.index v "field"
  let operator ← Data.index v "operator" >>= Operator.ofData
  let value ← Data.index v "value"
  let written ← Data.get v "literal_text"
  let field ← Data.text field
  match Literal.ofValue? value with
  | none => .error .invalidData
  | some literal => .ok { field, operator, literal, literalText := ← Data.optionalText written }

/-- Reads a main condition: compound if it has an entry for the logic. -/
def MainCondition.ofData (v : Value) : Outcome MainCondition :=
  match v with
  | .mapping es =>
    match lookup? "logic" es with
    | none => .single <$> Condition.ofData v
    | some logic => do
      let clauses ← (← Data.items (lookup? "clauses" es)).mapM Condition.ofData
      let logic ← Data.member Logic.ofName? logic
      .ok (.compound logic clauses)
  | _ => .error .wrongType

/-- Reads a requirement. -/
def Requirement.ofData (v : Value) : Outcome Requirement := do
  let category ← Data.index v "category"
  let items ← Data.get v "conditions" >>= Data.items
  let conditions ← items.mapM Condition.ofData
  .ok { category := ← Data.text category, conditions }

/-- Reads a target. -/
def Target.ofData (v : Value) : Outcome Target := do
  let es ← Data.arguments v
  let kind ← match lookup? "type" es with
    | none => .ok .model
    | some k => Data.member TargetKind.ofName? k
  let name ← Data.required "name" es >>= Data.text
  let domain ← Data.required "domain" es >>= Data.text
  .ok { kind, name, domain }

/-- Reads a status. -/
def statusOfData (v : Value) : Outcome String := do
  let es ← Data.arguments v
  Data.required "status" es >>= Data.text

/-- Reads a rule. -/
def Rule.ofData (v : Value) : Outcome Rule := do
  let condition ← Data.index v "condition" >>= MainCondition.ofData
  let name ← Data.index v "name"
  let target ← Data.index v "target" >>= Target.ofData
  let blocking ← Data.get v "blocking"
  let requirements ← (← Data.get v "metadata_requirements" >>= Data.items).mapM Requirement.ofData
  let positive ← Data.index v "then" >>= statusOfData
  let negative ← Data.index v "else" >>= statusOfData
  let description ← Data.get v "description"
  let name ← Data.text name
  let blocking ← Data.boolean false blocking
  let description ← Data.optionalText description
  .ok { name, target, blocking, requirements, condition, positive, negative, description }

/-- Reads a field of a category. -/
def ContextField.ofData (v : Value) : Outcome ContextField := do
  let es ← Data.arguments v
  let name ← Data.required "name" es >>= Data.text
  let type ← Data.required "type" es >>= Data.member ScalarType.ofName?
  .ok { name, type }

/-- Reads a category. -/
def Category.ofData (name body : Value) : Outcome Category := do
  let es ← Data.entries (some body)
  let fields ← (← Data.items (lookup? "fields" es)).mapM ContextField.ofData
  let name ← Data.text name
  let enabled ← Data.boolean true (lookup? "enabled" es)
  .ok { name, enabled, fields }

/-- Reads a registry. -/
def Registry.ofData (v : Option Value) : Outcome Registry := do
  let es ← Data.entries v
  let categories ← es.mapM fun (name, body) => Category.ofData name body
  .ok { categories }

/-- Reads a book. -/
def Book.ofData (v : Value) : Outcome Book := do
  let version ← Data.get v "schema_version"
  let registry ← Data.get v "metadata" >>= Registry.ofData
  let rules ← (← Data.get v "rules" >>= Data.items).mapM Rule.ofData
  let version ← match version with
    | none => .ok 1
    | some n => Data.integer n
  .ok { version, registry, rules }

end Rulebook
