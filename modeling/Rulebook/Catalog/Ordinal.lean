import Rulebook.Catalog.Entity

/-!
# Ordinals

Fields are numbered once and for all: a field that the entity had before keeps its number, and new
fields are numbered in order after the highest number that the entity had.
-/

namespace Rulebook

/-- The numbers of the fields of one entity. -/
abbrev Numbering := List (String × Int)

namespace Numbering

/-- Sets the number of a field. -/
def insert (field : String) (ordinal : Int) : Numbering → Numbering
  | [] => [(field, ordinal)]
  | (f, o) :: rest =>
    if f = field then (f, ordinal) :: rest else (f, o) :: insert field ordinal rest

/-- The numbers that the fields of an entity have. -/
def ofEntity (e : Entity) : Numbering := e.fields.foldl (fun n f => n.insert f.name f.ordinal) []

/-- The number of a field. -/
def ordinal? (n : Numbering) (field : String) : Option Int := List.lookup field n

/-- The highest number; zero if there is none. -/
def highest : Numbering → Int
  | [] => 0
  | (_, o) :: rest => rest.foldl (fun acc p => max acc p.2) o

/-- Numbers fields: known ones keep their number, others go on after `last`. -/
def assignAfter (n : Numbering) (last : Int) : List String → List Int
  | [] => []
  | field :: fields =>
    match n.ordinal? field with
    | some o => o :: assignAfter n last fields
    | none => (last + 1) :: assignAfter n (last + 1) fields

/-- Numbers the fields of an entity. -/
def assign (n : Numbering) (fields : List String) : List Int := n.assignAfter n.highest fields

end Numbering

/-- The numbering that an entity of a catalog had: of several entities of one name in one domain
the last one counts. -/
def Catalog.numbering (c : Catalog) (domain entity : String) : Numbering :=
  match c.entities.reverse.find? fun e => e.domain == domain && e.name == entity with
  | some e => .ofEntity e
  | none => []

/-- The numbering of an entity in the catalog before, if there is one. -/
def previousNumbering (previous : Option Catalog) (domain entity : String) : Numbering :=
  (previous.map fun c => c.numbering domain entity).getD []

end Rulebook
