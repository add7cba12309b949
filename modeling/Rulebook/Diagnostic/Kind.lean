/-!
# Kinds of diagnostics

What a rejected source is guilty of, in the widest terms.
-/

namespace Rulebook

/-- The kind of a diagnostic. -/
inductive DiagnosticKind where
  /-- The text does not have the required form. -/
  | malformed
  /-- A name refers to nothing. -/
  | unresolved
  /-- Types do not fit. -/
  | mistyped
  /-- A name is given twice. -/
  | duplicate
  /-- Warnings were promoted to errors. -/
  | aborted
  deriving DecidableEq

/-- The name under which a kind is reported. -/
def DiagnosticKind.label : DiagnosticKind → String
  | .malformed => "SyntaxError"
  | .unresolved => "ReferenceError"
  | .mistyped => "TypeError"
  | .duplicate => "DuplicateDefinitionError"
  | .aborted => "BuildAborted"

end Rulebook
