import Rulebook.Check.Lint
import Rulebook.Rule.Book

/-!
# Checking a book

A book is checked against a catalog: rule names are unique, targets and fields exist, types can be
compared, literals fit. The first fault rejects the whole book; a book without faults gets a
report of what is odd.
-/

namespace Rulebook.Check

/-- Rejects a rule. -/
def refuse {α : Type} (rule : Rule) (fault : RuleFault) : Outcome α :=
  reject (.rule fault) rule.place (some rule.name)

/-- Where the rule that holds a name was declared, if its document has a name. -/
def declaredAt (first : Rule) : Option (String × Option Nat) :=
  (first.source.filter (· != "")).map (·, first.line)

/-- No rule has the name of an earlier one. -/
def uniqueNames (seen : List Rule) : List Rule → Outcome Unit
  | [] => .ok ()
  | r :: rs =>
    match seen.find? fun s => s.name == r.name with
    | some first => refuse r (.duplicateName r.name (declaredAt first))
    | none => uniqueNames (seen ++ [r]) rs

/-- The entity that a rule is about. -/
def target (catalog : Catalog) (rule : Rule) : Outcome Entity :=
  let t := rule.target
  match catalog.findTarget? t.domain t.name t.kind with
  | some e => .ok e
  | none =>
    refuse rule (.noTarget t.kind t.name t.domain
      (catalog.findTarget? t.domain t.name t.kind.other).isSome)

/-- A condition can be applied to a field of a type. -/
def conditionType (rule : Rule) (c : Condition) (type : ScalarType) (field : FieldLabel) :
    Outcome Unit :=
  if !type.isComparable then refuse rule (.notComparable field type)
  else if c.operator.isOrdering && !type.isOrderable then refuse rule (.noOrder c.operator field)
  else if !c.literal.fits type then
    refuse rule (.literalMismatch c.literal.shape c.literal.display type field)
  else .ok ()

/-- Why an entity lacks a field: a view may use a column without showing it. -/
def missingField (e : Entity) (field : String) : RuleFault :=
  match e.kind with
  | .view =>
    .notProjected field e.sourceName
      (e.referenced.any fun r => (Text.splitOn (· == '.') r.toList).getLast? == some field.toList)
  | .model => .notDeclared field e.kind e.name

/-- The conditions of the main condition, one after the other. -/
def mainConditions (rule : Rule) (e : Entity) : List Condition → Outcome Unit
  | [] => .ok ()
  | c :: cs =>
    match e.field? c.field with
    | none => refuse rule (missingField e c.field)
    | some f => do
      conditionType rule c f.type (.entity c.field)
      mainConditions rule e cs

/-- The main condition of a rule. -/
def mainCondition (rule : Rule) (e : Entity) : Outcome Unit :=
  match rule.condition with
  | .compound _ [] => refuse rule .emptyCompound
  | m => mainConditions rule e m.conditions

/-- The conditions of a requirement, one after the other. -/
def requirementConditions (rule : Rule) (category : Category) : List Condition → Outcome Unit
  | [] => .ok ()
  | c :: cs =>
    match category.field? c.field with
    | none => refuse rule (.noCategoryField category.name c.field)
    | some f => do
      conditionType rule c f.type (.context category.name c.field)
      requirementConditions rule category cs

/-- A requirement on the context. -/
def requirement (registry : Registry) (rule : Rule) (q : Requirement) : Outcome Unit :=
  match registry.category? q.category with
  | none => refuse rule (.unknownCategory q.category)
  | some category =>
    if !category.enabled then refuse rule (.disabledCategory q.category)
    else if q.conditions.isEmpty then refuse rule (.emptyGroup q.category)
    else requirementConditions rule category q.conditions

/-- The requirements of a rule, one after the other. -/
def requirements (registry : Registry) (rule : Rule) : List Requirement → Outcome Unit
  | [] => .ok ()
  | q :: qs => do
    requirement registry rule q
    requirements registry rule qs

/-- Checks a rule: its target, its requirements, its main condition; then lints it. -/
def checkRule (catalog : Catalog) (registry : Registry) (rule : Rule) : Outcome (List Warning) := do
  let e ← target catalog rule
  requirements registry rule rule.requirements
  mainCondition rule e
  .ok ((Lint.findings rule e).map (⟨rule.name, ·⟩))

/-- Checks rules, one after the other. -/
def checkRules (catalog : Catalog) (registry : Registry) : List Rule → Outcome Report
  | [] => .ok {}
  | r :: rs => do
    let warnings ← checkRule catalog registry r
    let rest ← checkRules catalog registry rs
    .ok ⟨rest.rulesChecked + 1, warnings ++ rest.warnings⟩

end Check

/-- Checks a book against a catalog. -/
def Book.check (b : Book) (catalog : Catalog) : Outcome Report := do
  Check.uniqueNames [] b.rules
  Check.checkRules catalog b.registry b.rules

end Rulebook
