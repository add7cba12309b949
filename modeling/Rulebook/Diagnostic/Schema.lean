import Rulebook.Diagnostic.Kind
import Rulebook.Vocabulary

/-!
# Faults of schemas

What can be wrong with a single statement, and what can be wrong once the statements of all
files are put together.
-/

namespace Rulebook

/-- What is wrong with one statement. -/
inductive StatementFault where
  | malformedTable
  | unbalancedTable (table : String)
  | emptyColumn (table : String)
  | noColumns (table : String)
  | undeclaredKey (key table : String)
  | invalidColumn (table text : String)
  | untypedColumn (column table : String)
  | unknownType (native column table : String)
  | malformedView
  | notSelect (view : String)
  | noFrom (view : String)
  | setOperation (view : String)
  | emptyItem (view : String)
  | columnCount (view : String) (named selected : Nat)
  | derivedTable (view : String)
  | unreadableSource (view text : String)
  deriving DecidableEq

namespace StatementFault

/-- The kind of a fault of one statement. -/
def kind : StatementFault → DiagnosticKind
  | .unknownType .. => .mistyped
  | _ => .malformed

/-- The wording of a fault of one statement. -/
def message : StatementFault → String
  | .malformedTable => "malformed CREATE TABLE statement"
  | .unbalancedTable table => s!"unbalanced parentheses in CREATE TABLE {table}"
  | .emptyColumn table => s!"empty column definition in table {table}"
  | .noColumns table => s!"table {table} declares no columns"
  | .undeclaredKey key table => s!"primary key column '{key}' is not declared in table {table}"
  | .invalidColumn table text => s!"invalid column declaration in table {table}: {text}"
  | .untypedColumn column table => s!"column '{column}' in table {table} has no type"
  | .unknownType native column table =>
    s!"unknown native type '{native}' for column '{column}' in table {table}"
  | .malformedView => "malformed CREATE VIEW statement"
  | .notSelect view => s!"view {view} must be defined by a SELECT"
  | .noFrom view => s!"view {view} has no FROM clause"
  | .setOperation view => s!"view {view}: set operations are not supported"
  | .emptyItem view => s!"empty select item in view {view}"
  | .columnCount view named selected => s!"view {view} names {named} columns but selects {selected}"
  | .derivedTable view => s!"view {view}: derived tables are not supported"
  | .unreadableSource view text => s!"view {view}: cannot parse FROM item '{text}'"

end StatementFault

/-- What is wrong with the statements of a project taken together. -/
inductive RelationFault where
  | duplicateModel (model domain : String)
  | duplicateView (view domain : String)
  | duplicateColumn (column table : String)
  | duplicateProjection (view : String) (columns : List String)
  | columnCount (view : String) (named selected : Nat)
  | unknownTable (view table : String)
  | ambiguousTable (view table : String) (domains : List String)
  | needsAlias (view expression : String)
  | unknownAlias (view qualifier expression : String)
  | unknownFunction (view function expression : String)
  | unresolvable (view expression : String)
  | noColumn (view relation column expression : String)
  | unresolvedColumn (view column expression : String)
  | ambiguousColumn (view column expression : String)
  | aggregateNeedsColumn (view function expression : String)
  | nonNumeric (view operand : String) (type : ScalarType) (expression : String)
  deriving DecidableEq

namespace RelationFault

/-- The kind of a fault of statements taken together. -/
def kind : RelationFault → DiagnosticKind
  | .duplicateModel .. | .duplicateView .. | .duplicateColumn .. | .duplicateProjection .. =>
    .duplicate
  | .columnCount .. => .malformed
  | .nonNumeric .. => .mistyped
  | _ => .unresolved

/-- The wording of a fault of statements taken together. -/
def message : RelationFault → String
  | .duplicateModel model domain => s!"duplicate model '{model}' in domain '{domain}'"
  | .duplicateView view domain => s!"duplicate view '{view}' in domain '{domain}'"
  | .duplicateColumn column table => s!"duplicate column '{column}' in table {table}"
  | .duplicateProjection view columns =>
    s!"view {view} projects duplicate column(s): " ++ ", ".intercalate columns
  | .columnCount view named selected => (StatementFault.columnCount view named selected).message
  | .unknownTable view table => s!"view {view} selects from unknown table '{table}'"
  | .ambiguousTable view table domains =>
    s!"view {view}: table '{table}' is ambiguous, declared in domains " ++ ", ".intercalate domains
  | .needsAlias view expression => s!"view {view}: expression '{expression}' needs an alias"
  | .unknownAlias view qualifier expression =>
    s!"view {view}: unknown table alias '{qualifier}' in '{expression}'"
  | .unknownFunction view function expression =>
    s!"view {view}: unknown function '{function}' in '{expression}'"
  | .unresolvable view expression => s!"view {view}: cannot resolve expression '{expression}'"
  | .noColumn view relation column expression =>
    s!"view {view}: '{relation}' has no column '{column}' in '{expression}'"
  | .unresolvedColumn view column expression =>
    s!"view {view}: unresolved column '{column}' in '{expression}'"
  | .ambiguousColumn view column expression =>
    s!"view {view}: ambiguous column '{column}' in '{expression}'"
  | .aggregateNeedsColumn view function expression =>
    s!"view {view}: {function} needs a column in '{expression}'"
  | .nonNumeric view operand type expression =>
    s!"view {view}: non-numeric operand '{operand}' ({type.name}) in '{expression}'"

end RelationFault
end Rulebook
