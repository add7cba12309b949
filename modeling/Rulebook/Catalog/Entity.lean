import Rulebook.Text.Case
import Rulebook.Vocabulary

/-!
# The catalog

The catalog holds, by domain, the entities that rules are about: models made from tables and views
made from views. Each has typed fields that are numbered for good. An entity goes by its own name
and, in any case of letters, by the name of the relation it was made from.
-/

namespace Rulebook

open Text

/-- A field of an entity. -/
structure Field where
  name : String
  type : ScalarType
  nullable : Bool := true
  isKey : Bool := false
  /-- The number of the field, the same in every version of the entity. -/
  ordinal : Int
  /-- The place of the field in the primary key. -/
  keyPosition : Option Int := none
  precision : Option Int := none
  scale : Option Int := none
  deriving DecidableEq

/-- A model or a view. -/
structure Entity where
  kind : TargetKind
  name : String
  domain : String
  /-- The name of the table or view it was made from, in small letters. -/
  sourceName : String
  resource : String
  fields : List Field
  /-- The columns that a view uses without showing them. -/
  referenced : List String := []
  deriving DecidableEq

namespace Entity

/-- The names of the fields. -/
def fieldNames (e : Entity) : List String := e.fields.map (·.name)

/-- The first field of a name. -/
def field? (e : Entity) (name : String) : Option Field := e.fields.find? fun f => f.name == name

/-- The first field of a name, up to case. -/
def fieldUpToCase? (e : Entity) (name : String) : Option Field :=
  e.fields.find? fun f => lower f.name.toList == lower name.toList

/-- The entity goes by a name. -/
def answersTo (e : Entity) (name : String) : Bool :=
  String.ofList (lower name.toList) == e.sourceName || name == e.name

/-- The names of the key fields in the order of their places. -/
def primaryKey (e : Entity) : List String :=
  ((e.fields.filter (·.isKey)).mergeSort fun a b =>
    a.keyPosition.getD 0 ≤ b.keyPosition.getD 0).map (·.name)

end Entity

/-- A domain with its entities in the order of their declaration. -/
structure Domain where
  name : String
  models : List Entity := []
  views : List Entity := []
  deriving DecidableEq

/-- The entities of one kind. -/
def Domain.ofKind (d : Domain) : TargetKind → List Entity
  | .model => d.models
  | .view => d.views

/-- All that rules can be about. -/
structure Catalog where
  version : Int := 1
  domains : List Domain := []
  deriving DecidableEq

namespace Catalog

/-- The entities, domain by domain, models first. -/
def entities (c : Catalog) : List Entity := c.domains.flatMap fun d => d.models ++ d.views

/-- The domain of a name. -/
def domain? (c : Catalog) (name : String) : Option Domain := c.domains.find? fun d => d.name == name

/-- The first entity of a kind that goes by a name in a domain. -/
def findTarget? (c : Catalog) (domain name : String) (kind : TargetKind) : Option Entity :=
  (c.domain? domain).bind fun d => (d.ofKind kind).find? (·.answersTo name)

end Catalog
end Rulebook
