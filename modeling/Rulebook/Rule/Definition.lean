import Rulebook.Rule.Literal

/-!
# Rules

A rule is about one target entity. Its metadata requirements must be met by the context before its
main condition is looked at; the condition then decides between its two statuses.
-/

namespace Rulebook

/-- A comparison of a field with a literal. -/
structure Condition where
  field : String
  operator : Operator
  literal : Literal
  /-- How a literal with a point was written. -/
  literalText : Option String := none
  deriving DecidableEq

/-- A condition in one line. -/
def Condition.describe (c : Condition) : String :=
  s!"{c.field} {c.operator.symbol} {c.literalText.getD c.literal.shown}"

/-- The entity that a rule is about, by the name that the rule uses. -/
structure Target where
  kind : TargetKind := .model
  name : String
  domain : String
  deriving DecidableEq

/-- Conditions on one category of the context, all of which must hold. -/
structure Requirement where
  category : String
  conditions : List Condition := []
  deriving DecidableEq

/-- What decides a rule: one condition, or several that are combined. -/
inductive MainCondition where
  | single (condition : Condition)
  | compound (logic : Logic) (clauses : List Condition)
  deriving DecidableEq

/-- The conditions in a main condition. -/
def MainCondition.conditions : MainCondition → List Condition
  | .single c => [c]
  | .compound _ cs => cs

/-- A rule. -/
structure Rule where
  name : String
  target : Target
  /-- A violation is a reason to reject. -/
  blocking : Bool := false
  requirements : List Requirement := []
  condition : MainCondition
  /-- The status when requirements and condition are met. -/
  positive : String
  /-- The status otherwise. -/
  negative : String
  description : Option String := none
  source : Option String := none
  line : Option Nat := none
  deriving DecidableEq

/-- Where a rule stands. -/
def Rule.place (r : Rule) : Place := .atLine r.source r.line

end Rulebook
