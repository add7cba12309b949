import Rulebook.Diagnostic.Kind
import Rulebook.Number.Integer

/-!
# Faults of rule documents and registries

What can be wrong with a rule document, all of it a matter of form, and with a registry of context
categories.
-/

namespace Rulebook

open Number

/-- What is wrong with a literal. -/
inductive LiteralFault where
  | unknownShape (text : String)
  | numeral (fault : NumeralFault)
  deriving DecidableEq

/-- The wording of a fault of a literal. -/
def LiteralFault.message : LiteralFault → String
  | .unknownShape text => s!"invalid literal '{text}': quote strings, or use true/false or a number"
  | .numeral fault => fault.message

/-- What is wrong with a rule document. -/
inductive FeatureFault where
  | rowOutsideTable
  | unsupported (word : String)
  | malformedTag (tag : String)
  | tagNeedsValue (key : String)
  | tagTwice (key : String)
  | looseTags
  | secondFeature
  | scenarioBeforeFeature
  | stepOutsideScenario
  | unexpectedInScenario (line : String)
  | unexpectedBeforeFeature (line : String)
  | noFeature
  | looseAnd
  | expectedContext (text : String)
  | lateContext
  | categoryTwice (category : String)
  | secondCondition
  | unreadableCondition (text : String)
  | expectedStatus (text : String)
  | secondPositive
  | expectedOtherwise (text : String)
  | secondNegative
  | unknownOperator (text : String)
  | literal (fault : LiteralFault)
  | tableHeader
  | tableRow
  | emptyTable
  | noRuleTag (title : String)
  | noTargetTag
  | noCondition
  | noPositive
  | noNegative
  deriving DecidableEq

/-- The wording of a fault of a rule document. -/
def FeatureFault.message : FeatureFault → String
  | .rowOutsideTable => "table row outside a condition block"
  | .unsupported word => s!"unsupported construct '{word}'"
  | .malformedTag tag => s!"malformed tag '{tag}'"
  | .tagNeedsValue key => s!"tag '@{key}' needs a value"
  | .tagTwice key => s!"tag '@{key}' given twice"
  | .looseTags => "tags not followed by a Feature or Scenario"
  | .secondFeature => "only one Feature is allowed per document"
  | .scenarioBeforeFeature => "Scenario before Feature"
  | .stepOutsideScenario => "step outside a Scenario"
  | .unexpectedInScenario line => s!"unexpected line in scenario: {line}"
  | .unexpectedBeforeFeature line => s!"unexpected text before Feature: {line}"
  | .noFeature => "document has no Feature"
  | .looseAnd => "'And' must follow another step"
  | .expectedContext text => s!"expected '<category> context requires:', got '{text}'"
  | .lateContext => "metadata requirements must precede the main condition"
  | .categoryTwice category => s!"metadata category '{category}' required twice"
  | .secondCondition => "a rule has exactly one main condition"
  | .unreadableCondition text => s!"cannot parse condition '{text}'"
  | .expectedStatus text => s!"expected 'status is \"<STATUS>\"', got '{text}'"
  | .secondPositive => "positive outcome declared twice"
  | .expectedOtherwise text => s!"expected 'otherwise status is \"<STATUS>\"', got '{text}'"
  | .secondNegative => "negative outcome declared twice"
  | .unknownOperator text => s!"unknown operator '{text}'"
  | .literal fault => fault.message
  | .tableHeader => "condition table header must be '| field | operator | value |'"
  | .tableRow => "condition row needs exactly field, operator and value"
  | .emptyTable => "condition table has no rows"
  | .noRuleTag title => s!"scenario '{title}' has no @rule tag"
  | .noTargetTag => "scenario has no @target tag"
  | .noCondition => "scenario has no When condition"
  | .noPositive => "scenario has no 'Then status is' outcome"
  | .noNegative => "scenario has no 'But otherwise status is' outcome"

/-- What is wrong with a registry of context categories. -/
inductive RegistryFault where
  | unreadable
  | notMapping
  | bodyNotMapping
  | categoryNotMapping (category : String)
  | enabledNotBoolean (category : String)
  | incompleteField (category : String)
  | unknownType (category field type : String)
  | fieldTwice (category field : String)
  deriving DecidableEq

namespace RegistryFault

/-- The kind of a fault of a registry. -/
def kind : RegistryFault → DiagnosticKind
  | .unknownType .. => .mistyped
  | _ => .malformed

/-- The wording of a fault of a registry. -/
def message : RegistryFault → String
  | .unreadable => "invalid metadata registry"
  | .notMapping => "metadata registry must be a mapping"
  | .bodyNotMapping => "'metadata' must map category names to definitions"
  | .categoryNotMapping category => s!"metadata category '{category}' must be a mapping"
  | .enabledNotBoolean category =>
    s!"metadata category '{category}': 'enabled' must be true or false"
  | .incompleteField category =>
    s!"metadata category '{category}': each field needs a name and a type"
  | .unknownType category field type =>
    s!"metadata field '{category}.{field}' has unknown type '{type}'"
  | .fieldTwice category field => s!"metadata category '{category}' declares field '{field}' twice"

end RegistryFault
end Rulebook
