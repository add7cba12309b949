import Rulebook.Sql.View

/-!
# Schema files

A schema file is a list of statements separated by semicolons. Statements that create tables and
views are read, others are passed over. A comment that names a domain assigns the statements after
it to that domain.
-/

namespace Rulebook.Sql

open Text

/-- A blank that does not end a line. -/
def isSpaceOrTab (c : Char) : Bool := c == ' ' || c == '\t'

/-- The end of a line or of the text. -/
def lineStop : Pattern Unit := fun s =>
  match s with
  | [] => [((), s)]
  | c :: _ => if c == '\n' then [((), s)] else []

/-- A comment that names a domain and may describe it. -/
def markerComment : Pattern (List Char × Option (List Char)) := do
  Pattern.exactly ['-', '-']
  let _ ← Pattern.run isSpaceOrTab
  let first ← Pattern.one (beginsIdentifier true)
  let more ← Pattern.run fun c => isWord c || c == '-'
  let _ ← Pattern.run1 isSpaceOrTab
  Pattern.kw "domain"
  Pattern.wordEnd
  let _ ← Pattern.run isSpaceOrTab
  let description ← Pattern.optional do
    let _ ← Pattern.char ':'
    let _ ← Pattern.run isSpaceOrTab
    Pattern.run (· != '\n')
  lineStop
  pure (first :: more, description)

/-- The domain markers of a file. -/
def markersOf (text : List Char) : List Marker :=
  (Pattern.findAll markerComment .anywhere text).map fun found =>
    let description := trim (found.value.2.getD [])
    { name := String.ofList (lower found.value.1)
      description := if description.isEmpty then none else some (String.ofList description)
      offset := found.start }

/-- The domain of the last marker before an offset. -/
def domainAt (markers : List Marker) (offset : Nat) : Option String :=
  (markers.reverse.find? fun m => m.offset < offset).map (·.name)

/-- What kind of statement a text is, judged by its first six words. -/
inductive StatementKind where
  | table
  | view
  | other
  deriving DecidableEq

/-- Judges a statement by its first six words. -/
def statementKind (statement : List Char) : StatementKind :=
  let head := (words (upper (joinWith [' '] ((words statement).take 6)))).take 6
  if !startsWith "CREATE".toList (upper (joinWith [' '] ((words statement).take 6))) then .other
  else if head.contains "TABLE".toList && !head.contains "VIEW".toList then .table
  else if head.contains "VIEW".toList then .view
  else .other

/-- Reads the statements of a file. -/
def readStatements (text : List Char) (source : Option String) (markers : List Marker) :
    List Piece → Outcome Schema
  | [] => .ok { source, markers }
  | piece :: rest =>
    let statement := trim piece.text
    let start := piece.offset + (piece.text.length - (trimStart piece.text).length)
    let setting : Setting := ⟨text, source, domainAt markers start, start⟩
    match statementKind statement with
    | .table => do
      let table ← readTable setting statement
      let schema ← readStatements text source markers rest
      .ok { schema with tables := table :: schema.tables }
    | .view => do
      let view ← readView setting statement
      let schema ← readStatements text source markers rest
      .ok { schema with views := view :: schema.views }
    | .other => readStatements text source markers rest

/-- Reads a schema file. -/
def readSchema (text : List Char) (source : Option String := none) : Outcome Schema :=
  readStatements text source (markersOf text) (splitTopLevel (· == ';') (blankComments text))

end Rulebook.Sql
