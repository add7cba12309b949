import Rulebook.Proofs.Number.Reading
import Rulebook.Proofs.Text.Blank
import Rulebook.Rule.Feature

/-!
# The layout of rule documents

What a rule document can say (`Layout.Document`), the text in which it is laid out
(`Document.text`), and the feature that the text is meant to declare (`Document.feature`), with
every rule at the line of its scenario. What is said is built from parts that carry the proofs that
they can be written in their place.
-/

namespace Rulebook.Layout
open Text Number

/-! ## Words and constants -/

/-- A word without blanks. -/
structure Word where
  text : List Char
  solid : Solid text

/-- A text of one line without blanks at its ends. -/
structure Title where
  text : List Char
  ne_nil : text ≠ []
  oneLine : OneLine text
  trimmed : trim text = text

/-- A name that begins with a letter or an underscore and goes on with characters of a kind. -/
structure Name (continues : Char → Bool) where
  first : Char
  more : List Char
  begins : (Pattern.isLetterUpToCase first || first == '_') = true
  goes_on : ∀ c ∈ more, continues c = true

/-- The characters of a name. -/
def Name.text {continues : Char → Bool} (n : Name continues) : List Char := n.first :: n.more

/-- A category of the context. -/
abbrev Category := Name fun c => isWord c || c == '-'

/-- The name of a field that stands in the condition itself. -/
abbrev FieldName := Name fun c => isWord c || c == '.'

/-- A status. -/
structure Status where
  text : List Char
  oneLine : OneLine text
  noQuote : '"' ∉ text

/-- A symbol or a phrase for an operator. -/
structure Spelling where
  text : String
  operator : Operator
  listed : (text, operator) ∈ Operator.symbols ++ Operator.phrases

/-- A constant: a text between double quotes, a truth value, or a numeral
without or with a point. -/
inductive Constant where
  | text (s : List Char) (oneLine : OneLine s)
  | bool (b : Bool)
  | int (s : List Char) (shape : Literal.isIntegerShape s = true)
  | decimal (s : List Char) (shape : Literal.isFloatShape s = true)

namespace Constant

/-- The constant of an integer. -/
def ofInt (n : Int) : Constant := .int (numeral n) (numeral_spec n).1

/-- The constant as it is written. -/
def written : Constant → List Char
  | .text s _ => '"' :: (s ++ ['"'])
  | .bool true => "true".toList
  | .bool false => "false".toList
  | .int s _ | .decimal s _ => s

/-- What the constant denotes. -/
def literal : Constant → Literal
  | .text s _ => .text (String.ofList s)
  | .bool b => .bool b
  | .int s _ => .int (signed (takeSign s).1 (digitsValue (digitsOf s)))
  | .decimal s _ =>
    .float (.ofScientific (takeSign s).1 (digitsValue (digitsOf s)) (-(places s : Int)))

/-- The digits that are kept of a numeral with a point. -/
def kept : Constant → Option String
  | .decimal s _ => some (String.ofList s)
  | .text _ _ | .bool _ | .int _ _ => none

/-- The constant is no integer of more digits than are read. -/
def Short : Constant → Prop
  | .int s _ => (digitsOf s).length ≤ maxDigits
  | .text _ _ | .bool _ | .decimal _ _ => True

instance : (c : Constant) → Decidable c.Short
  | .int s _ => inferInstanceAs (Decidable ((digitsOf s).length ≤ maxDigits))
  | .text _ _ | .bool _ | .decimal _ _ => .isTrue trivial

end Constant

/-! ## Rules -/

/-- A row of a table; a bar would end its cell. -/
structure Row where
  field : Title
  spelling : Spelling
  constant : Constant
  noBar : '|' ∉ field.text ∧ '|' ∉ constant.written

/-- A requirement on one category of the context. -/
structure Group where
  category : Category
  rows : List Row
  ne_nil : rows ≠ []

/-- A main condition, in one line or as a table. -/
inductive Main where
  | single (field : FieldName) (spelling : Spelling) (constant : Constant)
  | table (logic : Logic) (rows : List Row) (ne_nil : rows ≠ [])

/-- A rule. -/
structure Scenario where
  name : Word
  target : Word
  domain : Option Word
  blocking : Bool
  kind : TargetKind
  title : Title
  groups : List Group
  distinct : (groups.map (·.category.text)).Nodup
  main : Main
  positive : Status
  negative : Status

/-- The rules of a document under a feature that may name a domain. -/
structure Document where
  domain : Option Word
  name : Title
  scenarios : List Scenario

/-! ## Text -/

/-- A line after so many spaces. -/
def indent (n : Nat) (line : List Char) : List Char := List.replicate n ' ' ++ line

/-- Cells between bars. -/
def barred (cells : List (List Char)) : List Char :=
  '|' :: cells.flatMap fun cell => ' ' :: (cell ++ [' ', '|'])

/-- The cells of a row. -/
def Row.cells (r : Row) : List (List Char) :=
  [r.field.text, r.spelling.text.toList, r.constant.written]

/-- The names of the columns, and the rows. -/
def tableCells (rows : List Row) : List (List (List Char)) :=
  ["field".toList, "operator".toList, "value".toList] :: rows.map Row.cells

/-- The lines of a table. -/
def tableLines (rows : List Row) : List (List Char) :=
  (tableCells rows).map fun cells => indent 6 (barred cells)

/-- The line of a step. -/
def stepLine (word : String) (body : List Char) : List Char := indent 4 (word.toList ++ ' ' :: body)

/-- What a requirement says in front of its table. -/
def Group.body (g : Group) : List Char :=
  g.category.text ++ ' ' :: ("context".toList ++ ' ' :: ("requires".toList ++ [':']))

/-- The lines of a requirement. -/
def Group.lines (word : String) (g : Group) : List (List Char) :=
  stepLine word g.body :: tableLines g.rows

/-- The lines of all requirements: the first one is given, others follow. -/
def groupLines : List Group → List (List Char)
  | [] => []
  | g :: gs => g.lines "Given" ++ gs.flatMap (Group.lines "And")

/-- What a main condition says, in front of its table if it has one. -/
def Main.body : Main → List Char
  | .single field spelling constant =>
    field.text ++ ' ' :: (spelling.text.toList ++ ' ' :: constant.written)
  | .table .all _ _ =>
    "all".toList ++ ' ' :: ("conditions".toList ++ ' ' :: ("are".toList ++ ' ' :: "met:".toList))
  | .table .any _ _ =>
    "any".toList ++ ' ' :: ("condition".toList ++ ' ' :: ("is".toList ++ ' ' :: "met:".toList))

/-- The lines of a main condition. -/
def Main.lines (m : Main) : List (List Char) :=
  stepLine "When" m.body ::
    match m with
    | .single _ _ _ => []
    | .table _ rows _ => tableLines rows

/-- What a step says of a status. -/
def Status.body (s : Status) : List Char :=
  "status".toList ++ ' ' :: ("is".toList ++ ' ' :: '"' :: (s.text ++ ['"']))

namespace Scenario

/-- The tags of a rule, without their signs. -/
def tags (s : Scenario) : List (List Char) :=
  ["target:".toList ++ s.target.text, "rule:".toList ++ s.name.text] ++
    (s.domain.map fun d => "domain:".toList ++ d.text).toList ++
    (if s.blocking then ["blocking".toList] else []) ++
    match s.kind with
    | .model => []
    | .view => ["view".toList]

/-- The lines of a rule. -/
def lines (s : Scenario) : List (List Char) :=
  [] :: indent 2 (joinWith [' '] (s.tags.map ('@' :: ·))) :: indent 2 ("Scenario:".toList ++
    ' ' :: s.title.text) ::
    (groupLines s.groups ++ s.main.lines ++
      [stepLine "Then" s.positive.body,
        stepLine "But" ("otherwise".toList ++ ' ' :: s.negative.body)])

end Scenario

namespace Document

/-- The lines before the rules. -/
def head (d : Document) : List (List Char) :=
  (d.domain.map fun w => '@' :: ("domain:".toList ++ w.text)).toList ++
  ["Feature:".toList ++ ' ' :: d.name.text]

/-- The lines of a document. -/
def lines (d : Document) : List (List Char) := d.head ++ d.scenarios.flatMap Scenario.lines

/-- The text of a document. -/
def text (d : Document) : List Char := unlines d.lines

end Document

/-! ## Meaning -/

/-- The condition that a field, an operator and a constant make. -/
def condition (field : List Char) (spelling : Spelling) (constant : Constant) : Condition :=
  ⟨String.ofList field, spelling.operator, constant.literal, constant.kept⟩

/-- The condition of a row. -/
def Row.condition (r : Row) : Condition := Layout.condition r.field.text r.spelling r.constant

/-- The requirement of a group. -/
def Group.requirement (g : Group) : Requirement :=
  ⟨String.ofList g.category.text, g.rows.map Row.condition⟩

/-- The main condition. -/
def Main.condition : Main → MainCondition
  | .single field spelling constant => .single (Layout.condition field.text spelling constant)
  | .table logic rows _ => .compound logic (rows.map Row.condition)

/-- A word as a string. -/
def Word.string (w : Word) : String := String.ofList w.text

/-- The rule, in a document with a domain, its title at the given line. -/
def Scenario.rule (s : Scenario) (source : Option String) (domain : String) (line : Nat) :
    Rule where
  name := s.name.string
  target := ⟨s.kind, s.target.string, (s.domain.map Word.string).getD domain⟩
  blocking := s.blocking
  requirements := s.groups.map Group.requirement
  condition := s.main.condition
  positive := String.ofList s.positive.text
  negative := String.ofList s.negative.text
  description := some (String.ofList s.title.text)
  source := source
  line := some line

/-- The rules of scenarios, the first of which begins at the given line. -/
def rulesFrom (source : Option String) (domain : String) : Nat → List Scenario → List Rule
  | _, [] => []
  | line, s :: rest =>
    s.rule source domain (line + 2) :: rulesFrom source domain (line + s.lines.length) rest

/-- The feature that a document declares. -/
def Document.feature (d : Document) (source : Option String) (default : String) : Feature where
  source := source
  name := String.ofList d.name.text
  domain := d.domain.map Word.string
  rules := rulesFrom source ((d.domain.map Word.string).getD default)
    (d.head.length + 1) d.scenarios

/-- The constants of a main condition. -/
def Main.constants : Main → List Constant
  | .single _ _ constant => [constant]
  | .table _ rows _ => rows.map (·.constant)

/-- The constants of a rule. -/
def Scenario.constants (s : Scenario) : List Constant :=
  (s.groups.flatMap fun g => g.rows.map (·.constant)) ++ s.main.constants

/-- No integer of the document has more digits than are read. -/
def Document.Short (d : Document) : Prop := ∀ s ∈ d.scenarios, ∀ c ∈ s.constants, c.Short

instance (d : Document) : Decidable d.Short :=
  inferInstanceAs (Decidable (∀ s ∈ d.scenarios, ∀ c ∈ s.constants, c.Short))

end Rulebook.Layout
