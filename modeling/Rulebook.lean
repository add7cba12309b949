import Rulebook.Bound.Comparand
import Rulebook.Bound.RuleSet
import Rulebook.Build.Files
import Rulebook.Build.Holder
import Rulebook.Build.Project
import Rulebook.Build.Settings
import Rulebook.Catalog.Compile
import Rulebook.Catalog.Data
import Rulebook.Catalog.Entity
import Rulebook.Catalog.Expression
import Rulebook.Catalog.Naming
import Rulebook.Catalog.Ordinal
import Rulebook.Catalog.Relation
import Rulebook.Check.Lint
import Rulebook.Check.Rules
import Rulebook.Check.Warning
import Rulebook.Data
import Rulebook.Diagnostic
import Rulebook.Diagnostic.Document
import Rulebook.Diagnostic.Feature
import Rulebook.Diagnostic.Kind
import Rulebook.Diagnostic.Rule
import Rulebook.Diagnostic.Schema
import Rulebook.Eval.Access
import Rulebook.Eval.Compare
import Rulebook.Eval.Record
import Rulebook.Eval.Verdict
import Rulebook.Json
import Rulebook.Number.Decimal
import Rulebook.Number.Double
import Rulebook.Number.DoubleText
import Rulebook.Number.Integer
import Rulebook.Proofs.Bound.Alone
import Rulebook.Proofs.Bound.Completeness
import Rulebook.Proofs.Bound.Correspondence
import Rulebook.Proofs.Bound.Exact
import Rulebook.Proofs.Bound.Literal
import Rulebook.Proofs.Bound.Partition
import Rulebook.Proofs.Bound.Reload
import Rulebook.Proofs.Bound.Targets
import Rulebook.Proofs.Build.Publication
import Rulebook.Proofs.Catalog.Compile
import Rulebook.Proofs.Catalog.Data
import Rulebook.Proofs.Catalog.History
import Rulebook.Proofs.Catalog.ItemFault
import Rulebook.Proofs.Catalog.Listed
import Rulebook.Proofs.Catalog.Lookup
import Rulebook.Proofs.Catalog.Numbering
import Rulebook.Proofs.Catalog.Ordinals
import Rulebook.Proofs.Catalog.Parentheses
import Rulebook.Proofs.Catalog.PrimaryKey
import Rulebook.Proofs.Catalog.Rearranged
import Rulebook.Proofs.Catalog.Recompile
import Rulebook.Proofs.Catalog.Referenced
import Rulebook.Proofs.Catalog.Scope
import Rulebook.Proofs.Catalog.Sound
import Rulebook.Proofs.Check.Faults
import Rulebook.Proofs.Check.Lint
import Rulebook.Proofs.Check.WellFormed
import Rulebook.Proofs.Data
import Rulebook.Proofs.Eval.Agreement
import Rulebook.Proofs.Eval.Classes
import Rulebook.Proofs.Eval.Comparison
import Rulebook.Proofs.Eval.Consistency
import Rulebook.Proofs.Eval.Faults
import Rulebook.Proofs.Eval.Reading
import Rulebook.Proofs.Eval.Run
import Rulebook.Proofs.Eval.Trace
import Rulebook.Proofs.Eval.Visibility
import Rulebook.Proofs.Eval.Widening
import Rulebook.Proofs.Number.Numeral
import Rulebook.Proofs.Number.Range
import Rulebook.Proofs.Number.Rational
import Rulebook.Proofs.Number.Reading
import Rulebook.Proofs.Number.Rounding
import Rulebook.Proofs.Outcome
import Rulebook.Proofs.Rule.Data
import Rulebook.Proofs.Rule.Described
import Rulebook.Proofs.Rule.Layout
import Rulebook.Proofs.Rule.Lines
import Rulebook.Proofs.Rule.Phrases
import Rulebook.Proofs.Rule.Registry
import Rulebook.Proofs.Rule.Respaced
import Rulebook.Proofs.Rule.Roundtrip
import Rulebook.Proofs.Rule.Rows
import Rulebook.Proofs.Rule.Sections
import Rulebook.Proofs.Rule.Sound
import Rulebook.Proofs.Rule.Written
import Rulebook.Proofs.Service.Body
import Rulebook.Proofs.Service.Context
import Rulebook.Proofs.Service.Headers
import Rulebook.Proofs.Service.Path
import Rulebook.Proofs.Service.Target
import Rulebook.Proofs.Sql.ColumnFault
import Rulebook.Proofs.Sql.Comments
import Rulebook.Proofs.Sql.Depth
import Rulebook.Proofs.Sql.Dispatch
import Rulebook.Proofs.Sql.File
import Rulebook.Proofs.Sql.KeyNumbering
import Rulebook.Proofs.Sql.Parentheses
import Rulebook.Proofs.Sql.QuotedText
import Rulebook.Proofs.Sql.Scan
import Rulebook.Proofs.Sql.Statement
import Rulebook.Proofs.Sql.TopLevel
import Rulebook.Proofs.Text.Capital
import Rulebook.Proofs.Text.Lines
import Rulebook.Proofs.Text.Pattern
import Rulebook.Rule.Book
import Rulebook.Rule.Definition
import Rulebook.Rule.Feature
import Rulebook.Rule.Feature.Line
import Rulebook.Rule.Literal
import Rulebook.Rule.Registry
import Rulebook.Rule.Registry.Document
import Rulebook.Service.Header
import Rulebook.Service.Request
import Rulebook.Service.Server
import Rulebook.Sql.File
import Rulebook.Sql.Identifier
import Rulebook.Sql.NativeType
import Rulebook.Sql.Scan
import Rulebook.Sql.Statement
import Rulebook.Sql.Table
import Rulebook.Sql.View
import Rulebook.Text.Blank
import Rulebook.Text.Case
import Rulebook.Text.Digit
import Rulebook.Text.Pattern
import Rulebook.Text.Position
import Rulebook.Text.Printable
import Rulebook.Text.Quoted
import Rulebook.Text.Ranges
import Rulebook.Text.Word
import Rulebook.Value
import Rulebook.Vocabulary
import Rulebook.Yaml.Cursor
import Rulebook.Yaml.Document
import Rulebook.Yaml.Layout
import Rulebook.Yaml.Node
import Rulebook.Yaml.Plain
import Rulebook.Yaml.Scalar
import Rulebook.Yaml.Token
