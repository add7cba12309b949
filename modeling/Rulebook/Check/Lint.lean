import Rulebook.Catalog.Entity
import Rulebook.Check.Warning
import Rulebook.Rule.Definition
import Rulebook.Text.Pattern

/-!
# Lint

The findings about a rule: texts that name other fields, clauses that contradict or repeat each
other, and names out of style.
-/

namespace Rulebook.Lint

open Text

/-- Text literals that name a field of the entity other than the one they are compared with. -/
def literalFields (rule : Rule) (entity : Entity) : List Finding :=
  rule.condition.conditions.filterMap fun c =>
    match c.literal with
    | .text s =>
      if entity.fieldNames.contains s && s != c.field then
        some (.literalIsField s c.describe entity.name) else none
    | _ => none

/-- Two clauses compare one field with one literal. -/
def comparesSame (a b : Condition) : Bool := a.field == b.field && a.literal.same b.literal

/-- What is odd about two clauses of one group. -/
def pair (group : String) (logic : Logic) (a b : Condition) : Option Finding :=
  if !comparesSame a b then none
  else if (a.operator == .eq && b.operator == .ne) || (a.operator == .ne && b.operator == .eq) then
    some (.complementary group logic a.describe b.describe a.field)
  else if a.operator == b.operator then some (.repeated group a.describe a.field)
  else none

/-- What is odd about the clauses of one group, pair by pair. -/
def clauses (group : String) (logic : Logic) : List Condition → List Finding
  | [] => []
  | c :: cs => cs.filterMap (pair group logic c) ++ clauses group logic cs

/-- The style of rule names: letters and digits, a capital first. -/
def ruleStyle : Pattern Unit := do
  let _ ← Pattern.one isAsciiUpper
  let _ ← Pattern.run fun c => isAsciiLetter c || isAsciiDigit c
  Pattern.atEnd

/-- A capital letter or a digit. -/
def isStatusPart (c : Char) : Bool := isAsciiUpper c || isAsciiDigit c

/-- The style of statuses: capitals and digits, a capital first, in parts joined by
single underscores. -/
def statusStyle : Pattern Unit := do
  let _ ← Pattern.one isAsciiUpper
  let _ ← Pattern.run isStatusPart
  let _ ← Pattern.many do
    let _ ← Pattern.char '_'
    Pattern.run1 isStatusPart
  Pattern.atEnd

/-- What is odd about the names in a rule. -/
def names (rule : Rule) : List Finding :=
  (if ruleStyle.matchesStart rule.name.toList then [] else [.ruleName rule.name]) ++
    ([rule.positive, rule.negative].filter fun s => !statusStyle.matchesStart s.toList).map
      .statusName ++
    if rule.positive == rule.negative then [.sameStatuses rule.positive] else []

/-- All that is odd about a rule. -/
def findings (rule : Rule) (entity : Entity) : List Finding :=
  literalFields rule entity ++
    (match rule.condition with
      | .compound logic cs => clauses "condition" logic cs
      | .single _ => []) ++
    rule.requirements.flatMap (fun q => clauses s!"{q.category} requirement" .all q.conditions) ++
    names rule

end Rulebook.Lint
