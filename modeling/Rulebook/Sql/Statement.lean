import Rulebook.Vocabulary

/-!
# Statements

What a schema file declares: tables with their columns, views with what they select and from where,
and the markers that assign statements to domains.
-/

namespace Rulebook.Sql

/-- A column of a table. -/
structure Column where
  name : String
  /-- The type as it is written, words in capitals. -/
  nativeType : String
  type : ScalarType
  nullable : Bool := true
  isKey : Bool := false
  /-- The place of the column in the primary key, counted from one. -/
  keyPosition : Option Nat := none
  precision : Option Int := none
  scale : Option Int := none
  deriving DecidableEq

/-- A table. -/
structure Table where
  name : String
  domain : Option String
  columns : List Column
  source : Option String
  line : Nat
  deriving DecidableEq

/-- One item of a select list, with the name that `AS` gives it. -/
structure Projection where
  expression : String
  givenName : Option String
  offset : Nat
  deriving DecidableEq

/-- A relation that a view selects from, with the name that it has there. -/
structure Source where
  table : String
  givenName : Option String
  deriving DecidableEq

/-- A view. -/
structure View where
  name : String
  domain : Option String
  projections : List Projection
  sources : List Source
  columnNames : Option (List String)
  /-- The join conditions, join columns, filters and groupings. -/
  filters : List String
  source : Option String
  /-- The text of the whole file, in which offsets count. -/
  text : List Char
  offset : Nat
  line : Nat
  deriving DecidableEq

/-- A comment that assigns the statements after it to a domain. -/
structure Marker where
  name : String
  description : Option String
  offset : Nat
  deriving DecidableEq

/-- All that one file declares. -/
structure Schema where
  source : Option String := none
  markers : List Marker := []
  tables : List Table := []
  views : List View := []
  deriving DecidableEq

/-- The file and the domain in which a statement stands, and the offset of its first character. -/
structure Setting where
  text : List Char
  source : Option String
  domain : Option String
  start : Nat

end Rulebook.Sql
