import Rulebook.Diagnostic.Kind
import Rulebook.Vocabulary

/-!
# Faults of rules

What can be wrong with a rule in the light of the model and the registry.
-/

namespace Rulebook

/-- The field that a condition is about, as faults speak of it. -/
inductive FieldLabel where
  | entity (field : String)
  | context (category field : String)
  deriving DecidableEq

/-- The wording of a field. -/
def FieldLabel.text : FieldLabel → String
  | .entity field => s!"field '{field}'"
  | .context category field => s!"metadata field '{category}.{field}'"

/-- What is wrong with a rule. -/
inductive RuleFault where
  | duplicateName (rule : String) (first : Option (String × Option Nat))
  | noTarget (kind : TargetKind) (target domain : String) (otherKindExists : Bool)
  | emptyCompound
  | notProjected (field view : String) (referenced : Bool)
  | notDeclared (field : String) (kind : TargetKind) (entity : String)
  | unknownCategory (category : String)
  | disabledCategory (category : String)
  | emptyGroup (category : String)
  | noCategoryField (category field : String)
  | notComparable (field : FieldLabel) (type : ScalarType)
  | noOrder (operator : Operator) (field : FieldLabel)
  | literalMismatch (shape display : String) (type : ScalarType) (field : FieldLabel)
  | unboundField (owner : Option String) (field : String)
  deriving DecidableEq

namespace RuleFault

/-- The kind of a fault of a rule. -/
def kind : RuleFault → DiagnosticKind
  | .duplicateName .. => .duplicate
  | .emptyCompound | .emptyGroup _ => .malformed
  | .notComparable .. | .noOrder .. | .literalMismatch .. => .mistyped
  | _ => .unresolved

/-- The wording of a line number. -/
def lineText (line : Option Nat) : String := (line.map toString).getD "None"

/-- The wording of a fault of a rule. -/
def message : RuleFault → String
  | .duplicateName rule none => s!"duplicate rule name '{rule}'"
  | .duplicateName rule (some (source, line)) =>
    s!"duplicate rule name '{rule}' (first declared at {source}:{lineText line})"
  | .noTarget kind target domain otherKindExists =>
    s!"target {kind.name} '{target}' not found in domain '{domain}'" ++
      (if otherKindExists then s!"; a {kind.other.name} of that name exists" else "")
  | .emptyCompound => "compound condition has no clauses"
  | .notProjected field view referenced =>
    s!"field '{field}' is not projected by view {view}" ++
      (if referenced then " (used only in joins or filters)" else "")
  | .notDeclared field kind entity => s!"field '{field}' is not declared on {kind.name} {entity}"
  | .unknownCategory category => s!"unknown metadata category '{category}'"
  | .disabledCategory category => s!"metadata category '{category}' is disabled"
  | .emptyGroup category => s!"metadata requirement '{category}' has no conditions"
  | .noCategoryField category field => s!"metadata category '{category}' has no field '{field}'"
  | .notComparable field type =>
    s!"{field.text} has type {type.name}, which cannot be used in conditions"
  | .noOrder operator field => s!"operator '{operator.symbol}' is not defined for bool {field.text}"
  | .literalMismatch shape display type field =>
    s!"{shape} literal {display} cannot be compared with {type.name} {field.text}"
  | .unboundField none field => s!"target has no field '{field}'"
  | .unboundField (some category) field => s!"metadata category '{category}' has no field '{field}'"

end RuleFault
end Rulebook
