import Rulebook.Vocabulary

/-!
# Warnings

Findings that do not keep a rule from being used but are probably not what its author meant.
-/

namespace Rulebook

/-- What is odd about a rule. -/
inductive Finding where
  /-- A text literal is the name of another field. -/
  | literalIsField (literal condition entity : String)
  /-- Two clauses of one group are opposites. -/
  | complementary (group : String) (logic : Logic) (first second field : String)
  /-- A clause is repeated in its group. -/
  | repeated (group clause field : String)
  | ruleName (name : String)
  | statusName (status : String)
  | sameStatuses (status : String)
  deriving DecidableEq

namespace Finding

/-- The fixed name of a kind of finding. -/
def code : Finding → String
  | .literalIsField .. => "literal-matches-field"
  | .complementary .. => "complementary-clauses"
  | .repeated .. => "duplicate-clause"
  | .ruleName _ => "rule-name-style"
  | .statusName _ => "status-name-style"
  | .sameStatuses _ => "identical-outcomes"

/-- The wording of a finding. -/
def message : Finding → String
  | .literalIsField literal condition entity =>
    s!"literal \"{literal}\" in '{condition}' equals a field of {entity}; " ++
      "conditions compare against constants, not other fields"
  | .complementary group logic first second _ =>
    s!"{group} {logic.name} of '{first}' and '{second}' " ++
      match logic with
      | .any => "is always true"
      | .all => "can never be true"
  | .repeated group clause _ => s!"{group} repeats '{clause}'"
  | .ruleName _ => "rule names should be PascalCase"
  | .statusName status => s!"status \"{status}\" should be UPPER_SNAKE_CASE"
  | .sameStatuses status => s!"both outcomes are \"{status}\"; the rule cannot distinguish anything"

/-- The field, literal or name that a finding is about. -/
def element : Finding → String
  | .literalIsField literal .. => literal
  | .complementary _ _ _ _ field => field
  | .repeated _ _ field => field
  | .ruleName name => name
  | .statusName status => status
  | .sameStatuses status => status

end Finding

/-- A finding about a rule. -/
structure Warning where
  rule : String
  finding : Finding
  deriving DecidableEq

/-- A warning in one line. -/
def Warning.text (w : Warning) : String :=
  s!"[{w.finding.code}] rule '{w.rule}': {w.finding.message}"

/-- What checking a book comes to. -/
structure Report where
  rulesChecked : Nat := 0
  warnings : List Warning := []
  deriving DecidableEq

namespace Report

/-- The warnings about one rule. -/
def about (r : Report) (rule : String) : List Warning := r.warnings.filter fun w => w.rule == rule

/-- The codes that occur, in order and each once. -/
def codes (r : Report) : List String :=
  ((r.warnings.map (·.finding.code)).eraseDups).mergeSort fun a b => !(b < a)

end Report
end Rulebook
