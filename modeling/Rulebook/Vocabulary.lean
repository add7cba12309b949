import Rulebook.Text.Blank
import Rulebook.Text.Case

/-!
# Vocabulary

The scalar types of fields, the six comparison operators with the phrases that name them, the two
ways to combine clauses, and the two kinds of entity.
-/

namespace Rulebook

open Text

/-! ## Scalar types -/

/-- The type of a field, independent of any database. -/
inductive ScalarType where
  | string | int32 | int64 | decimal | float64 | bool | date | datetime
  deriving DecidableEq

namespace ScalarType

/-- All scalar types. -/
def all : List ScalarType := [.string, .int32, .int64, .decimal, .float64, .bool, .date, .datetime]

/-- The name of a type in data. -/
def name : ScalarType → String
  | .string => "string"
  | .int32 => "int32"
  | .int64 => "int64"
  | .decimal => "decimal"
  | .float64 => "float64"
  | .bool => "bool"
  | .date => "date"
  | .datetime => "datetime"

/-- The type of a given name. -/
def ofName? (s : String) : Option ScalarType := all.find? fun t => t.name == s

/-- Conditions may use the type; dates and times take no operator. -/
def isComparable : ScalarType → Bool
  | .date | .datetime => false
  | _ => true

/-- The type holds numbers. -/
def isNumeric : ScalarType → Bool
  | .int32 | .int64 | .decimal | .float64 => true
  | _ => false

/-- The ordering operators apply to the type. -/
def isOrderable (t : ScalarType) : Bool := t.isComparable && t != .bool

/-- The place of a numeric type in the widening order. -/
def width? : ScalarType → Option Nat
  | .int32 => some 0
  | .int64 => some 1
  | .decimal => some 2
  | .float64 => some 3
  | _ => none

/-- The wider of two types; the first of two equally wide ones. -/
def wider (a b : ScalarType) : ScalarType :=
  if a.width?.getD 0 < b.width?.getD 0 then b else a

/-- Why a list of types has no widest one. -/
inductive WideningFault where
  | noTypes
  | notNumeric
  deriving DecidableEq

/-- The widest type of a list of numeric types. -/
def widest : List ScalarType → Except WideningFault ScalarType
  | [] => .error .noTypes
  | t :: ts => if (t :: ts).all isNumeric then .ok (ts.foldl wider t) else .error .notNumeric

/-- The spellings under which a registry may name a type. -/
def spellings : List (String × ScalarType) := [
  ("string", .string), ("str", .string), ("text", .string),
  ("int", .int32), ("integer", .int32), ("int32", .int32),
  ("long", .int64), ("int64", .int64),
  ("decimal", .decimal), ("bigdecimal", .decimal),
  ("double", .float64), ("float", .float64), ("float64", .float64),
  ("bool", .bool), ("boolean", .bool),
  ("date", .date), ("datetime", .datetime), ("timestamp", .datetime)]

/-- The type that a registry spelling names; case and surrounding blanks do not count. -/
def ofSpelling? (s : String) : Option ScalarType :=
  spellings.lookup (String.ofList (lower (trim s.toList)))

end ScalarType

/-! ## Operators -/

/-- A comparison operator. -/
inductive Operator where
  | eq | ne | gt | lt | ge | le
  deriving DecidableEq

namespace Operator

/-- All operators. -/
def all : List Operator := [.eq, .ne, .gt, .lt, .ge, .le]

/-- The symbol of an operator. -/
def symbol : Operator → String
  | .eq => "=="
  | .ne => "!="
  | .gt => ">"
  | .lt => "<"
  | .ge => ">="
  | .le => "<="

/-- The operator of a symbol. -/
def ofSymbol? (s : String) : Option Operator := all.find? fun o => o.symbol == s

/-- The operator asks for an order and not only for equality. -/
def isOrdering : Operator → Bool
  | .eq | .ne => false
  | _ => true

/-- The spellings of an operator by symbols. -/
def symbols : List (String × Operator) := [
  ("==", .eq), ("=", .eq), ("!=", .ne), ("<>", .ne), (">", .gt), ("<", .lt),
  (">=", .ge), ("<=", .le)]

/-- The phrases for an operator, longer ones first. -/
def phrases : List (String × Operator) := [
  ("is not equal to", .ne), ("is greater than", .gt), ("does not equal", .ne),
  ("is less than", .lt), ("is at least", .ge), ("is equal to", .eq),
  ("is at most", .le), ("equals", .eq)]

/-- The operator named by a symbol or a phrase; case does not count, nor how words are spaced. -/
def parse? (s : List Char) : Option Operator :=
  let cleaned := String.ofList (joinWith [' '] (words (lower (trim s))))
  (symbols ++ phrases).lookup cleaned

end Operator

/-! ## Logic and kinds -/

/-- How the clauses of a compound condition are combined. -/
inductive Logic where
  | all
  | any
  deriving DecidableEq

/-- The name of a combination in data. -/
def Logic.name : Logic → String
  | .all => "AND"
  | .any => "OR"

/-- The combination of a given name. -/
def Logic.ofName? (s : String) : Option Logic := [Logic.all, .any].find? fun l => l.name == s

/-- What a rule is about: an entity made from a table or one made from a view. -/
inductive TargetKind where
  | model
  | view
  deriving DecidableEq

/-- The name of a kind in data. -/
def TargetKind.name : TargetKind → String
  | .model => "model"
  | .view => "view"

/-- The kind of a given name. -/
def TargetKind.ofName? (s : String) : Option TargetKind :=
  [TargetKind.model, .view].find? fun k => k.name == s

/-- The other kind. -/
def TargetKind.other : TargetKind → TargetKind
  | .model => .view
  | .view => .model

end Rulebook
