import Rulebook.Text.Pattern
import Rulebook.Vocabulary

/-!
# Lines of rule documents

A rule document is read line by line. What a line is can be told from the line alone: a row of a
table, tags, the heading of the feature or of a scenario, a step, or some other text. Comments and
blank lines say nothing.
-/

namespace Rulebook

open Text

/-- The word that begins a step. -/
inductive StepWord where
  /-- `Given`, a requirement on the context. -/
  | given
  /-- `When`, the main condition. -/
  | when
  /-- `Then`, the positive status. -/
  | outcome
  /-- `And`, another step of the kind before. -/
  | also
  /-- `But`, the negative status. -/
  | but
  deriving DecidableEq

/-- The words that begin steps. -/
def StepWord.spellings : List (String × StepWord) := [
  ("Given", .given), ("When", .when), ("Then", .outcome), ("And", .also), ("But", .but)]

/-- What a line of a rule document is. -/
inductive FeatureLine where
  | nothing
  | row (cells : List (List Char))
  | unsupported (word : List Char)
  | tags (words : List (List Char))
  | feature (title : List Char)
  | scenario (title : List Char)
  | step (word : StepWord) (body : List Char)
  | other (text : List Char)
  deriving DecidableEq

namespace FeatureLine

/-- The beginnings of constructs that are not supported. -/
def unsupportedStarts : List (List Char) :=
  ["Background:", "Rule:", "Examples:", "Scenarios:", "Scenario Outline:", "Scenario Template:",
    "\"\"\""].map String.toList ++ [List.replicate 3 (Char.ofNat 96)]

/-- The word and the body of a step: at least one blank stands between them. -/
def step? (line : List Char) : Option (StepWord × List Char) :=
  StepWord.spellings.findSome? fun (spelling, word) =>
    match dropStart? spelling.toList line with
    | some (c :: rest) => if isBlank c then some (word, trim rest) else none
    | _ => none

/-- The cells of a row, trimmed; the outermost bars separate nothing. -/
def cells (line : List Char) : List (List Char) := (splitOn (· == '|') (trimChar '|' line)).map trim

/-- What a line is. -/
def of (raw : List Char) : FeatureLine :=
  let line := trim raw
  match line with
  | [] => .nothing
  | '#' :: _ => .nothing
  | '|' :: _ => .row (cells line)
  | c :: _ =>
    if unsupportedStarts.any fun start => startsWith start line then
      .unsupported ((words line).headD [])
    else if c == '@' then .tags (words line)
    else match dropStart? "Feature:".toList line, dropStart? "Scenario:".toList line,
      step? line with
      | some title, _, _ => .feature (trim title)
      | none, some title, _ => .scenario (trim title)
      | none, none, some (word, body) => .step word body
      | none, none, none => .other line

end FeatureLine

/-! ## Bodies of steps -/

namespace StepBody

/-- The category of a requirement on the context. -/
def requirement : Pattern (List Char) := do
  let first ← Pattern.one fun c => Pattern.isLetterUpToCase c || c == '_'
  let more ← Pattern.run fun c => isWord c || c == '-'
  let _ ← Pattern.gap
  Pattern.kw "context"
  let _ ← Pattern.gap
  Pattern.kw "requires"
  let _ ← Pattern.blanks
  let _ ← Pattern.optional (Pattern.char ':')
  Pattern.atEnd
  pure (first :: more)

/-- How the rows of the table that follows are combined. -/
def compound : Pattern Logic := do
  let logic ← Pattern.either (do Pattern.kw "all"; pure .all) (do Pattern.kw "any"; pure .any)
  let _ ← Pattern.gap
  Pattern.kw "condition"
  let _ ← Pattern.optional (Pattern.kw "s")
  let _ ← Pattern.gap
  Pattern.either (Pattern.kw "are") (Pattern.kw "is")
  let _ ← Pattern.gap
  Pattern.kw "met"
  let _ ← Pattern.blanks
  let _ ← Pattern.optional (Pattern.char ':')
  Pattern.atEnd
  pure logic

/-- A condition in one line as it is written. -/
structure ConditionText where
  field : List Char
  operator : List Char
  value : List Char

/-- A phrase or a symbol for an operator, as it is written. -/
def operatorText : Pattern (List Char) :=
  Pattern.anyOf ((Operator.phrases.map fun (p, _) => Pattern.taken (Pattern.kw p)) ++
    ["==", "!=", "<>", ">=", "<=", "=", ">", "<"].map fun s =>
    Pattern.taken (Pattern.exactly s.toList))

/-- A condition in one line. -/
def condition : Pattern ConditionText := do
  let first ← Pattern.one fun c => Pattern.isLetterUpToCase c || c == '_'
  let more ← Pattern.run fun c => isWord c || c == '.'
  let _ ← Pattern.gap
  let operator ← operatorText
  let _ ← Pattern.gap
  let value ← Pattern.remainder
  pure ⟨first :: more, operator, value⟩

/-- A status between double quotes. -/
def status : Pattern (List Char) := do
  Pattern.kw "status"
  let _ ← Pattern.gap
  Pattern.kw "is"
  let _ ← Pattern.gap
  let _ ← Pattern.char '"'
  let text ← Pattern.run (· != '"')
  let _ ← Pattern.char '"'
  Pattern.atEnd
  pure text

/-- The status that applies otherwise. -/
def otherwise : Pattern (List Char) := do
  Pattern.kw "otherwise"
  let _ ← Pattern.gap
  status

end StepBody
end Rulebook
