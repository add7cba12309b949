import Rulebook.Diagnostic.Document
import Rulebook.Diagnostic.Feature
import Rulebook.Diagnostic.Rule
import Rulebook.Diagnostic.Schema
import Rulebook.Text.Position
import Rulebook.Value

/-!
# Diagnostics

A diagnostic says what is wrong with a source, where, and in which rule. The place is written in
front of the wording: source, line and column, as far as they are known, with colons between them.

A failure is either a diagnostic or something that goes wrong with data, files or requests.
-/

namespace Rulebook

open Number Text

/-- Where something is wrong; parts that are not known are absent. -/
structure Place where
  source : Option String := none
  line : Option Nat := none
  column : Option Nat := none
  offset : Option Nat := none
  deriving DecidableEq

namespace Place

/-- The place of an offset in a text. -/
def atOffset (text : List Char) (offset : Nat) (source : Option String) : Place :=
  ⟨source, some (lineAt text offset), some (columnAt text offset), some offset⟩

/-- The place of a line. -/
def atLine (source : Option String) (line : Option Nat) : Place := ⟨source, line, none, none⟩

/-- The known parts of a place with colons between them. -/
def text (p : Place) : String :=
  ":".intercalate (p.source.toList ++ (p.line.map toString).toList ++
    (p.column.map toString).toList)

/-- A message with its place and rule in front. -/
def render (p : Place) (rule : Option String) (message : String) : String :=
  let message := match rule with
    | some r => if r == "" then message else s!"rule '{r}': {message}"
    | none => message
  if p.text == "" then message else s!"{p.text}: {message}"

end Place

/-- What is wrong with a source. -/
inductive Cause where
  | statement (fault : StatementFault)
  | relation (fault : RelationFault)
  | feature (fault : FeatureFault)
  | registry (fault : RegistryFault)
  | rule (fault : RuleFault)
  | warnings (texts : List String)
  deriving DecidableEq

namespace Cause

/-- The kind of a cause. -/
def kind : Cause → DiagnosticKind
  | .statement fault => fault.kind
  | .relation fault => fault.kind
  | .feature _ => .malformed
  | .registry fault => fault.kind
  | .rule fault => fault.kind
  | .warnings _ => .aborted

/-- The wording of a cause. -/
def message : Cause → String
  | .statement fault => fault.message
  | .relation fault => fault.message
  | .feature fault => fault.message
  | .registry fault => fault.message
  | .rule fault => fault.message
  | .warnings texts =>
    s!"{texts.length} semantic warning(s) with fail_on_warnings set: " ++ "; ".intercalate texts

end Cause

/-- What is wrong with a source, where, and in which rule. -/
structure Diagnostic where
  cause : Cause
  place : Place
  rule : Option String := none
  deriving DecidableEq

/-- A diagnostic in one line. -/
def Diagnostic.text (d : Diagnostic) : String := d.place.render d.rule d.cause.message

/-- A set of names of which a piece of data names none. -/
inductive Family where
  | operator
  | targetKind
  | scalarType
  deriving DecidableEq

/-- The wording of a set of names. -/
def Family.text : Family → String
  | .operator => "Operator"
  | .targetKind => "TargetKind"
  | .scalarType => "NeutralType"

/-- Anything that keeps an operation from giving an answer. -/
inductive Failure where
  /-- A source is wrong. -/
  | diagnostic (d : Diagnostic)
  /-- Data lack a key. -/
  | missingKey (key : String)
  /-- A value names no member of a family. -/
  | notMember (display : String) (family : Family)
  /-- Data do not fit their type. -/
  | invalidData
  /-- A value is used as a kind of value that it is not. -/
  | wrongType
  /-- A value lacks an attribute. -/
  | noAttribute
  /-- A text or number cannot be converted. -/
  | numeral (fault : NumeralFault)
  /-- A value cannot be converted, with a wording of its own. -/
  | badValue (message : String)
  /-- A text is no decimal, or a decimal that is no number is ordered. -/
  | notDecimal
  /-- Types have no widest one. -/
  | widening (fault : ScalarType.WideningFault)
  /-- A document is not well formed. -/
  | unreadableDocument (fault : DocumentFault)
  /-- A file does not exist. -/
  | missingFile (path : String)
  /-- A folder is used as a file. -/
  | isFolder
  /-- A request is refused with a status. -/
  | refused (status : Nat) (message : String)
  deriving DecidableEq

namespace Failure

/-- The wording of a failure to find a widest type. -/
def wideningMessage : ScalarType.WideningFault → String
  | .noTypes => "max() arg is an empty sequence"
  | .notNumeric => "tuple.index(x): x not in tuple"

/-- The wording of a failure, where it has one. -/
def message? : Failure → Option String
  | .diagnostic d => some d.text
  | .missingKey key => some (String.ofList (quoted key.toList))
  | .notMember display family => some s!"{display} is not a valid {family.text}"
  | .numeral fault => some fault.message
  | .badValue message => some message
  | .widening fault => some (wideningMessage fault)
  | .missingFile path =>
    some ("[Errno 2] No such file or directory: " ++ String.ofList (quoted path.toList))
  | .refused _ message => some message
  | .invalidData | .wrongType | .noAttribute | .notDecimal | .unreadableDocument _ | .isFolder =>
    none

end Failure

/-- An answer, or what keeps it from being given. -/
abbrev Outcome (α : Type) := Except Failure α

/-- Rejects a source. -/
def reject {α : Type} (cause : Cause) (place : Place) (rule : Option String := none) : Outcome α :=
  .error (.diagnostic ⟨cause, place, rule⟩)

end Rulebook
