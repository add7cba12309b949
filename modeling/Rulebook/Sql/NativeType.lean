import Rulebook.Vocabulary

/-!
# Native types

The column types of the usual databases and the scalar types they stand for.
-/

namespace Rulebook.Sql

/-- The native types, words in capitals. -/
def nativeTypes : List (String × ScalarType) := [
  ("VARCHAR", .string), ("CHAR", .string), ("CHARACTER", .string), ("CHARACTER VARYING", .string),
  ("NVARCHAR", .string), ("NCHAR", .string), ("VARCHAR2", .string), ("NVARCHAR2", .string),
  ("TEXT", .string), ("CLOB", .string),
  ("INT", .int32), ("INTEGER", .int32), ("SMALLINT", .int32), ("TINYINT", .int32),
  ("MEDIUMINT", .int32), ("SERIAL", .int32),
  ("BIGINT", .int64), ("LONG", .int64), ("BIGSERIAL", .int64),
  ("DECIMAL", .decimal), ("NUMERIC", .decimal), ("NUMBER", .decimal), ("MONEY", .decimal),
  ("FLOAT", .float64), ("DOUBLE", .float64), ("DOUBLE PRECISION", .float64), ("REAL", .float64),
  ("DATE", .date),
  ("TIMESTAMP", .datetime), ("TIMESTAMPTZ", .datetime), ("DATETIME", .datetime),
  ("DATETIME2", .datetime), ("BOOLEAN", .bool), ("BOOL", .bool), ("BIT", .bool)]

/-- The scalar type of a native type; one that is unknown as a whole may be known
by its first word. -/
def scalarTypeOf? (words : List String) : Option ScalarType :=
  (nativeTypes.lookup (" ".intercalate words)).or (words.head?.bind fun word =>
    nativeTypes.lookup word)

/-- A word that ends the type of a column. -/
def endsType (word : String) : Bool :=
  ["NOT", "NULL", "DEFAULT", "PRIMARY", "UNIQUE", "CHECK", "REFERENCES",
    "CONSTRAINT", "AUTO_INCREMENT", "AUTOINCREMENT", "GENERATED", "COLLATE", "COMMENT", "IDENTITY",
    "ON"].contains word

/-- A word that begins a constraint of a table. -/
def beginsConstraint (word : String) : Bool :=
  ["PRIMARY", "FOREIGN", "CONSTRAINT", "UNIQUE", "CHECK", "INDEX", "KEY", "EXCLUDE"].contains word

end Rulebook.Sql
