import Rulebook.Catalog.Entity
import Rulebook.Data

/-!
# The catalog as data

A catalog is written as nested mappings, domain by domain, and read back from them.
-/

namespace Rulebook

open Value

/-! ## Writing -/

/-- An entry that is left out when there is nothing to write. -/
def optionalEntry (key : String) : Option Int → List (String × Value)
  | some n => [(key, .int n)]
  | none => []

/-- A field as data. -/
def Field.toData (f : Field) : Value :=
  record ([("name", .text f.name), ("type", .text f.type.name), ("nullable", .bool f.nullable),
    ("is_primary_key", .bool f.isKey), ("ordinal", .int f.ordinal)] ++
    optionalEntry "primary_key_position" f.keyPosition ++ optionalEntry "precision" f.precision ++
    optionalEntry "scale" f.scale)

/-- The key under which an entity's relation is named. -/
def TargetKind.sourceKey : TargetKind → String
  | .model => "source_table"
  | .view => "source_view"

/-- An entity as data. -/
def Entity.toData (e : Entity) : Value :=
  record ([("name", .text e.name), (e.kind.sourceKey, .text e.sourceName),
    ("resource", .text e.resource), ("fields", .list (e.fields.map Field.toData))] ++
    match e.kind with
    | .model => []
    | .view => [("referenced_columns", texts e.referenced)])

/-- A domain as data. -/
def Domain.toData (d : Domain) : Value :=
  record [("models", .list (d.models.map Entity.toData)),
    ("views", .list (d.views.map Entity.toData))]

/-- A catalog as data. -/
def Catalog.toData (c : Catalog) : Value :=
  record [("schema_version", .int c.version),
    ("domains", record (c.domains.map fun d => (d.name, d.toData)))]

/-! ## Reading -/

/-- Reads a field. -/
def Field.ofData (v : Value) : Outcome Field := do
  let es ← Data.arguments v
  let name ← Data.required "name" es >>= Data.text
  let type ← Data.required "type" es >>= Data.member ScalarType.ofName?
  let nullable ← Data.boolean true (lookup? "nullable" es)
  let isKey ← Data.boolean false (lookup? "is_primary_key" es)
  let ordinal ← Data.required "ordinal" es >>= Data.integer
  let keyPosition ← Data.optionalInteger (lookup? "primary_key_position" es)
  let precision ← Data.optionalInteger (lookup? "precision" es)
  let scale ← Data.optionalInteger (lookup? "scale" es)
  .ok { name, type, nullable, isKey, ordinal, keyPosition, precision, scale }

/-- The entries of an entity; what is no mapping is refused in various ways. -/
def entityEntries : Value → Outcome (List (Value × Value))
  | .mapping es => .ok es
  | .list [] | .text "" => .error .noAttribute
  | .text _ =>
    .error (.badValue "dictionary update sequence element #0 has length 1; 2 is required")
  | _ => .error .wrongType

/-- Reads an entity of a domain. -/
def Entity.ofData (kind : TargetKind) (domain : Value) (v : Value) : Outcome Entity := do
  let es ← entityEntries v
  let fields ← (← Data.items (lookup? "fields" es)).mapM Field.ofData
  let referenced ← Data.items (lookup? "referenced_columns" es)
  let _ ← Data.arguments v
  if (lookup? "domain" es).isSome then .error .wrongType
  let name ← Data.required "name" es >>= Data.text
  let domain ← Data.text domain
  let sourceName ← Data.required kind.sourceKey es >>= Data.text
  let resource ← Data.text ((lookup? "resource" es).getD (.text ""))
  let referenced ← match kind with
    | .model => .ok []
    | .view => referenced.mapM Data.text
  .ok { kind, name, domain, sourceName, resource, fields, referenced }

/-- Reads a domain. -/
def Domain.ofData (name body : Value) : Outcome Domain := do
  let es ← Data.entries (some body)
  let models ← (← Data.items (lookup? "models" es)).mapM (Entity.ofData .model name)
  let views ← (← Data.items (lookup? "views" es)).mapM (Entity.ofData .view name)
  let name ← Data.text name
  .ok { name, models, views }

/-- Reads a catalog. -/
def Catalog.ofData (v : Value) : Outcome Catalog := do
  let entries ← Data.entries (← Data.get v "domains")
  let domains ← entries.mapM fun (name, body) => Domain.ofData name body
  let version ← match ← Data.get v "schema_version" with
    | none => .ok 1
    | some n => Data.integer n
  .ok { version, domains }

end Rulebook
