import Rulebook.Rule.Definition
import Rulebook.Rule.Feature.Line

/-!
# Rule documents

A document holds one feature, which may name a domain, and any number of scenarios, each of which is
a rule. Reading is a walk over the lines with a state: what has been read, tags that wait for their
heading, the scenario at hand, and the table that is open. Every fault is reported with its line.
-/

namespace Rulebook

open Text

/-- The rules of one document in the order of its scenarios. -/
structure Feature where
  source : Option String := none
  name : String := ""
  domain : Option String := none
  rules : List Rule := []
  deriving DecidableEq

namespace Feature

/-- A tag without its sign, and its line. -/
abbrev Tag := List Char × Nat

/-- What the rows of a table are for. -/
inductive Heading where
  | requirement (category : String)
  | compound (logic : Logic)
  deriving DecidableEq

/-- A table that may get further rows. -/
structure OpenTable where
  heading : Heading
  line : Nat
  /-- The row with the names of the columns was read. -/
  headed : Bool := false
  rows : List Condition := []

/-- The scenario at hand. -/
structure Scenario where
  title : List Char
  tags : List Tag
  line : Nat
  requirements : List Requirement := []
  condition : Option MainCondition := none
  positive : Option String := none
  negative : Option String := none
  /-- The kind of step that `And` continues. -/
  last : Option StepWord := none

/-- The state of reading. -/
structure Reading where
  /-- The heading of the feature was read. -/
  begun : Bool := false
  name : String := ""
  domain : Option String := none
  rules : List Rule := []
  pending : List Tag := []
  scenario : Option Scenario := none
  table : Option OpenTable := none

/-- The name of a document, and the domain of rules that name none. -/
structure Setting where
  source : Option String := none
  defaultDomain : String

/-- Rejects a line. -/
def refuse {α : Type} (st : Setting) (line : Nat) (fault : FeatureFault)
    (rule : Option String := none) :
    Outcome α :=
  reject (.feature fault) (.atLine st.source (some line)) rule

/-! ## Conditions and tables -/

/-- The condition that its three written parts make. -/
def readCondition (st : Setting) (line : Nat) (field operator value : List Char) :
    Outcome Condition :=
  match Operator.parse? operator with
  | none => refuse st line (.unknownOperator (String.ofList operator))
  | some op =>
    match Literal.read value with
    | .error fault => refuse st line (.literal fault)
    | .ok literal =>
      let written := match literal with
        | .float _ => some (String.ofList (trim value))
        | _ => none
      .ok ⟨String.ofList (trim field), op, literal, written⟩

/-- Adds a row to a table; the first row names the columns. -/
def addRow (st : Setting) (line : Nat) (t : OpenTable) (cells : List (List Char)) :
    Outcome OpenTable :=
  if !t.headed then
    if cells.map lower == ["field".toList, "operator".toList, "value".toList] then
      .ok { t with headed := true }
    else refuse st line .tableHeader
  else match cells with
    | [field, operator, value] =>
      if field.isEmpty then refuse st line .tableRow
      else do
        let c ← readCondition st line field operator value
        .ok { t with rows := t.rows ++ [c] }
    | _ => refuse st line .tableRow

/-- Adds what a table says to a scenario. -/
def Scenario.addTable (s : Scenario) (t : OpenTable) : Scenario :=
  match t.heading with
  | .requirement category => { s with requirements := s.requirements ++ [⟨category, t.rows⟩] }
  | .compound logic => { s with condition := some (.compound logic t.rows) }

/-- Closes the open table, which must have a row. -/
def closeTable (st : Setting) (r : Reading) : Outcome Reading :=
  match r.table with
  | none => .ok r
  | some t =>
    if t.rows.isEmpty then refuse st t.line .emptyTable
    else .ok { r with table := none, scenario := r.scenario.map (·.addTable t) }

/-! ## Tags -/

/-- The key of a tag and what follows its first colon. -/
def tagParts (tag : List Char) : List Char × List Char := cutAt ':' tag

/-- The value of a tag, which must not be blank. -/
def tagValue (st : Setting) (tag : Tag) : Outcome String :=
  let (key, value) := tagParts tag.1
  if (trim value).isEmpty then refuse st tag.2 (.tagNeedsValue (String.ofList key))
  else .ok (String.ofList (trim value))

/-- The tags of a line. -/
def readTags (st : Setting) (line : Nat) : List (List Char) → Outcome (List Tag)
  | [] => .ok []
  | word :: rest =>
    match word with
    | '@' :: c :: cs => do
      let tags ← readTags st line rest
      .ok ((c :: cs, line) :: tags)
    | _ => refuse st line (.malformedTag (String.ofList word))

/-- The domain that the last of some tags names, if any does. -/
def featureDomain (st : Setting) (domain : Option String) : List Tag → Outcome (Option String)
  | [] => .ok domain
  | tag :: rest =>
    if (tagParts tag.1).1 == "domain".toList then do
      let d ← tagValue st tag
      featureDomain st (some d) rest
    else featureDomain st domain rest

/-- What the tags of a scenario say. -/
structure ScenarioTags where
  name : Option String := none
  target : Option String := none
  domain : Option String := none
  blocking : Bool := false
  kind : TargetKind := .model

/-- Reads the tags of a scenario after those read so far; tags of no meaning are passed over. -/
def readScenarioTags (st : Setting) (s : ScenarioTags) : List Tag → Outcome ScenarioTags
  | [] => .ok s
  | tag :: rest => do
    let key := String.ofList (tagParts tag.1).1
    let once (value : Option String) (set : String → ScenarioTags) : Outcome ScenarioTags :=
      if value.isSome then refuse st tag.2 (.tagTwice key) else set <$> tagValue st tag
    let s ← match key with
      | "rule" => once s.name fun v => { s with name := some v }
      | "target" => once s.target fun v => { s with target := some v }
      | "domain" => once s.domain fun v => { s with domain := some v }
      | "blocking" => .ok { s with blocking := true }
      | "view" => .ok { s with kind := .view }
      | _ => .ok s
    readScenarioTags st s rest

/-! ## Scenarios -/

/-- The rule that a scenario makes. -/
def finish (st : Setting) (featureDomain : Option String) (s : Scenario) : Outcome Rule := do
  let tags ← readScenarioTags st {} s.tags
  match tags.name with
  | none => refuse st s.line (.noRuleTag (String.ofList s.title))
  | some name =>
    match tags.target, s.condition, s.positive, s.negative with
    | none, _, _, _ => refuse st s.line .noTargetTag (some name)
    | _, none, _, _ => refuse st s.line .noCondition (some name)
    | _, _, none, _ => refuse st s.line .noPositive (some name)
    | _, _, _, none => refuse st s.line .noNegative (some name)
    | some target, some condition, some positive, some negative =>
      .ok { name
            target := ⟨tags.kind, target, (tags.domain.or featureDomain).getD st.defaultDomain⟩
            blocking := tags.blocking, requirements := s.requirements, condition, positive, negative
            description := if s.title.isEmpty then none else some (String.ofList s.title)
            source := st.source, line := some s.line }

/-- Adds the rule of the scenario at hand, if there is one. -/
def finishScenario (st : Setting) (r : Reading) : Outcome Reading :=
  match r.scenario with
  | none => .ok r
  | some s => do
    let rule ← finish st r.domain s
    .ok { r with rules := r.rules ++ [rule], scenario := none }

/-- Reads a requirement, the table of which follows. -/
def requirementStep (st : Setting) (line : Nat) (s : Scenario) (body : List Char) :
    Outcome OpenTable :=
  match StepBody.requirement.first? body with
  | none => refuse st line (.expectedContext (String.ofList body))
  | some (category, _) =>
    let category := String.ofList category
    if s.condition.isSome then refuse st line .lateContext
    else if s.requirements.any fun q => q.category == category then
      refuse st line (.categoryTwice category)
    else .ok { heading := .requirement category, line }

/-- Reads the main condition, or the heading of the table that holds it. -/
def conditionStep (st : Setting) (line : Nat) (s : Scenario) (body : List Char) :
    Outcome (Scenario × Option OpenTable) :=
  if s.condition.isSome then refuse st line .secondCondition
  else match StepBody.compound.first? body, StepBody.condition.first? body with
    | some (logic, _), _ => .ok (s, some { heading := .compound logic, line })
    | none, some (c, _) => do
      let c ← readCondition st line c.field c.operator c.value
      .ok ({ s with condition := some (.single c) }, none)
    | none, none => refuse st line (.unreadableCondition (String.ofList body))

/-- The kind of a step: `And` continues the step before, whose kind the scenario remembers. -/
def stepKind (st : Setting) (line : Nat) (s : Scenario) (word : StepWord) :
    Outcome (Scenario × StepWord) :=
  match word, s.last with
  | .also, none => refuse st line .looseAnd
  | .also, some last => .ok (s, last)
  | .but, _ => .ok (s, .but)
  | word, _ => .ok ({ s with last := some word }, word)

/-- Reads the positive status. -/
def positiveStep (st : Setting) (line : Nat) (s : Scenario) (body : List Char) : Outcome Scenario :=
  match StepBody.status.first? body with
  | none => refuse st line (.expectedStatus (String.ofList body))
  | some (status, _) =>
    if s.positive.isSome then refuse st line .secondPositive
    else .ok { s with positive := some (String.ofList status) }

/-- Reads the negative status. -/
def negativeStep (st : Setting) (line : Nat) (s : Scenario) (body : List Char) : Outcome Scenario :=
  match StepBody.otherwise.first? body with
  | none => refuse st line (.expectedOtherwise (String.ofList body))
  | some (status, _) =>
    if s.negative.isSome then refuse st line .secondNegative
    else .ok { s with negative := some (String.ofList status) }

/-- Reads the body of a step of a kind; some steps open a table. -/
def readBody (st : Setting) (line : Nat) (s : Scenario) (body : List Char) :
    StepWord → Outcome (Scenario × Option OpenTable)
  | .given => (fun t => (s, some t)) <$> requirementStep st line s body
  | .when => conditionStep st line s body
  | .outcome => (·, none) <$> positiveStep st line s body
  | .also | .but => (·, none) <$> negativeStep st line s body

/-- Reads a step of a scenario. -/
def readStep (st : Setting) (line : Nat) (s : Scenario) (word : StepWord) (body : List Char) :
    Outcome (Scenario × Option OpenTable) := do
  let (s, kind) ← stepKind st line s word
  readBody st line s body kind

/-! ## Lines -/

/-- Reads a line that is no row, when no table is open. -/
def readHeading (st : Setting) (line : Nat) (r : Reading) : FeatureLine → Outcome Reading
  | .nothing | .row _ => .ok r
  | .unsupported word => refuse st line (.unsupported (String.ofList word))
  | .tags words => do
    let tags ← readTags st line words
    .ok { r with pending := r.pending ++ tags }
  | .feature title =>
    if r.begun then refuse st line .secondFeature
    else do
      let domain ← featureDomain st r.domain r.pending
      .ok { r with begun := true, name := String.ofList title, domain, pending := [] }
  | .scenario title =>
    if !r.begun then refuse st line .scenarioBeforeFeature
    else do
      let r ← finishScenario st r
      .ok { r with scenario := some { title, tags := r.pending, line }, pending := [] }
  | .step word body =>
    match r.scenario with
    | none => refuse st line .stepOutsideScenario
    | some s => do
      let (s, table) ← readStep st line s word body
      .ok { r with scenario := some s, table }
  | .other text =>
    if r.scenario.isSome then refuse st line (.unexpectedInScenario (String.ofList text))
    else if !r.begun then refuse st line (.unexpectedBeforeFeature (String.ofList text))
    else .ok r

/-- Reads a line. -/
def readLine (st : Setting) (line : Nat) (r : Reading) (l : FeatureLine) : Outcome Reading :=
  match l with
  | .nothing => .ok r
  | .row cells =>
    match r.table with
    | none => refuse st line .rowOutsideTable
    | some t => do
      let t ← addRow st line t cells
      .ok { r with table := some t }
  | l => do
    let r ← closeTable st r
    readHeading st line r l

/-- Reads lines, the first of which has the given number. -/
def readLines (st : Setting) : Nat → Reading → List FeatureLine → Outcome Reading
  | _, r, [] => .ok r
  | line, r, l :: ls => do
    let r ← readLine st line r l
    readLines st (line + 1) r ls

/-- What has been read, at the end of the document. -/
def close (st : Setting) (r : Reading) : Outcome Feature := do
  let r ← closeTable st r
  match r.pending.getLast? with
  | some tag => refuse st tag.2 .looseTags
  | none => do
    let r ← finishScenario st r
    if r.begun then
      .ok { source := st.source, name := r.name, domain := r.domain, rules := r.rules }
    else refuse st 1 .noFeature

/-- Reads a document. -/
def read (text : List Char) (source : Option String) (defaultDomain : String) : Outcome Feature :=
  do
  let st : Setting := ⟨source, defaultDomain⟩
  let r ← readLines st 1 {} ((lines text).map FeatureLine.of)
  close st r

end Feature
end Rulebook
