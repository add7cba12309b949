import Rulebook.Catalog.Entity
import Rulebook.Diagnostic
import Rulebook.Sql.Identifier
import Rulebook.Sql.Statement

/-!
# Relations

The tables and views compiled so far, and the names under which one view knows those it selects
from. A relation of the view's own domain hides those of the same name in other domains.
-/

namespace Rulebook

open Sql Text

/-- The relations compiled so far, in the order in which their names were first declared. -/
abbrev Relations := List Entity

namespace Relations

/-- Two entities are relations of one name in one domain. -/
def sameRelation (a b : Entity) : Bool := a.domain == b.domain && a.sourceName == b.sourceName

/-- Adds a relation; one of the same domain and name gives its place to the new one. -/
def add (e : Entity) : Relations → Relations
  | [] => [e]
  | r :: rest => if sameRelation r e then e :: rest else r :: add e rest

/-- The relations that a view of a domain may mean by a name. -/
def candidates (rs : Relations) (domain name : String) : List Entity :=
  let name := String.ofList (lower name.toList)
  match rs.find? fun r => r.domain == domain && r.sourceName == name with
  | some r => [r]
  | none => rs.filter fun r => r.sourceName == name

end Relations

/-- What a view knows: its statement, and its relations by their names in small
letters, the latest first. -/
structure Scope where
  view : View
  names : List (String × Entity)

namespace Scope

/-- Rejects a view, at an offset of its file. -/
def reject {α : Type} (view : View) (fault : RelationFault) (offset : Nat) : Outcome α :=
  Rulebook.reject (.relation fault) (Place.atOffset view.text offset view.source)

/-- A name in small letters. -/
def small (name : String) : String := String.ofList (lower name.toList)

/-- The relation that one source of a view means. -/
def resolveSource (rs : Relations) (view : View) (domain : String) (source : Source) :
    Outcome Entity :=
  match rs.candidates domain source.table with
  | [] => reject view (.unknownTable view.name source.table) view.offset
  | [r] => .ok r
  | several =>
    reject view (.ambiguousTable view.name source.table
      ((several.map (·.domain)).mergeSort fun a b => !(b < a))) view.offset

/-- The names that one source gives to its relation, the latest first. -/
def namesOf (source : Source) (r : Entity) : List (String × Entity) :=
  match source.givenName with
  | some a => if a == "" then [(small source.table, r)] else [(small a, r), (small source.table, r)]
  | none => [(small source.table, r)]

/-- Adds the names that sources give to their relations. -/
def addSources (rs : Relations) (view : View) (domain : String) (names : List (String × Entity)) :
    List Source → Outcome (List (String × Entity))
  | [] => .ok names
  | source :: more => do
    let r ← resolveSource rs view domain source
    addSources rs view domain (namesOf source r ++ names) more

/-- What a view of a domain knows. -/
def ofView (rs : Relations) (view : View) (domain : String) : Outcome Scope := do
  .ok ⟨view, ← addSources rs view domain [] view.sources⟩

/-- The relation of a name. -/
def relation? (scope : Scope) (name : String) : Option Entity :=
  List.lookup (small name) scope.names

/-- The relations of the sources, one for each, found under the names of their tables. -/
def tableRelations (scope : Scope) : List Entity :=
  scope.view.sources.filterMap fun s => scope.relation? s.table

/-- The relations of the sources, one for each, found under their aliases if they have one. -/
def aliasRelations (scope : Scope) : List Entity :=
  scope.view.sources.filterMap fun s =>
    match s.givenName with
    | some a => scope.relation? (if a == "" then s.table else a)
    | none => scope.relation? s.table

end Scope

/-- The field that a column name means in a relation: of exactly that name, or else up to case. -/
def Entity.column? (e : Entity) (name : String) : Option Field :=
  (e.field? name).or (e.fieldUpToCase? name)

end Rulebook
