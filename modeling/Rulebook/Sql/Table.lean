import Rulebook.Diagnostic
import Rulebook.Sql.Identifier
import Rulebook.Sql.NativeType
import Rulebook.Sql.Statement

/-!
# Table statements

Reading `CREATE TABLE`: the items between the outer parentheses are columns and constraints. The
primary key is numbered from one, inline key columns first.
-/

namespace Rulebook.Sql

open Text Number

/-! ## Patterns -/

/-- `TEMP` or `TEMPORARY`, and a gap. -/
def temporary : Pattern Unit := do
  Pattern.kw "temp"
  let _ ← Pattern.optional (Pattern.kw "orary")
  let _ ← Pattern.gap

/-- `IF NOT EXISTS`, and a gap. -/
def ifNotExists : Pattern Unit := do
  Pattern.kw "if"
  let _ ← Pattern.gap
  Pattern.kw "not"
  let _ ← Pattern.gap
  Pattern.kw "exists"
  let _ ← Pattern.gap

/-- The head of a table statement up to the opening parenthesis; gives the name as it is written. -/
def tableHead : Pattern (List Char) := do
  Pattern.kw "create"
  let _ ← Pattern.gap
  let _ ← Pattern.optional do
    Pattern.either (Pattern.kw "global") (Pattern.kw "local")
    let _ ← Pattern.gap
  let _ ← Pattern.optional temporary
  Pattern.kw "table"
  let _ ← Pattern.gap
  let _ ← Pattern.optional ifNotExists
  let name ← qualifiedName true
  let _ ← Pattern.blanks
  let _ ← Pattern.char '('
  pure name

/-- Text in parentheses that holds no closing one; gives what stands between them. -/
def inParens : Pattern (List Char) := do
  let _ ← Pattern.char '('
  let cs ← Pattern.run (· != ')')
  let _ ← Pattern.char ')'
  pure cs

/-- `NOT NULL`. -/
def notNull : Pattern Unit := do
  Pattern.kw "not"
  let _ ← Pattern.gap
  Pattern.kw "null"
  Pattern.wordEnd

/-- `PRIMARY KEY`. -/
def primaryKey : Pattern Unit := do
  Pattern.kw "primary"
  let _ ← Pattern.gap
  Pattern.kw "key"

/-- `PRIMARY KEY` with its columns. -/
def keyColumns : Pattern (List Char) := do
  primaryKey
  let _ ← Pattern.blanks
  inParens

/-- One token of the type of a column: arguments in parentheses, or a word. -/
inductive TypeToken where
  | arguments (text : List Char)
  | word (text : List Char)
  deriving DecidableEq

/-- A token of the type of a column. -/
def typeToken : Pattern TypeToken :=
  Pattern.either (TypeToken.arguments <$> inParens)
    (TypeToken.word <$> Pattern.run1 fun c => !isBlank c && c != '(')

/-! ## Columns -/

/-- Capital letters throughout. -/
def capitals (s : List Char) : String := String.ofList (upper s)

/-- The words of a type and its arguments, read off the tokens that follow the name of a column. -/
def readType (words : List String) (arguments : Option (List Char)) :
    List TypeToken → List String × Option (List Char)
  | [] => (words, arguments)
  | .arguments text :: rest =>
    if arguments.isNone && !words.isEmpty then readType words (some text) rest
      else (words, arguments)
  | .word text :: rest =>
    if endsType (capitals text) || arguments.isSome then (words, arguments)
    else readType (words ++ [capitals text]) arguments rest

/-- A whole number written with digits only; other texts give nothing. -/
def readSize (s : List Char) : Outcome (Option Int) :=
  if !s.isEmpty && s.all isDigit then
    match readInteger s with
    | .ok n => .ok (some n)
    | .error fault => .error (.numeral fault)
  else .ok none

/-- The precision and the scale that the arguments of a decimal type give. -/
def readSizes (arguments : List Char) : Outcome (Option Int × Option Int) :=
  match (splitOn (· == ',') arguments).map trim with
  | [] => .ok (none, none)
  | p :: rest => do
    let precision ← readSize p
    let scale ← match rest with
      | s :: _ => readSize s
      | [] => .ok none
    .ok (precision, scale)

/-- Reads a column; `offset` is the offset of its first character in the file. -/
def readColumn (setting : Setting) (table : String) (text : List Char) (offset : Nat) :
    Outcome Column :=
  let place := Place.atOffset setting.text offset setting.source
  match (identifier false).first? text with
  | none => reject (.statement (.invalidColumn table (String.ofList text))) place
  | some (written, rest) => do
    let name := String.ofList (unquote written)
    let (words, arguments) :=
      readType [] none ((Pattern.findAll typeToken .anywhere rest).map (·.value))
    if words.isEmpty then reject (.statement (.untypedColumn name table)) place
    else
      let native := " ".intercalate words
      match scalarTypeOf? words with
      | none => reject (.statement (.unknownType native name table)) place
      | some type =>
        let (precision, scale) ← match type, arguments with
          | .decimal, some args => if args.isEmpty then .ok (none, none) else readSizes args
          | _, _ => .ok (none, none)
        let isKey := (Pattern.search? (primaryKey *> Pattern.wordEnd) .wordStart rest).isSome
        let isNotNull := (Pattern.search? notNull .wordStart rest).isSome
        .ok {
          name, type, precision, scale, isKey
          nativeType := match arguments with
            | none => native
            | some args => native ++ "(" ++ String.ofList args ++ ")"
          nullable := !(isKey || isNotNull) }

/-- An item that begins like a constraint is a column all the same if its second
word is a native type. -/
def looksLikeColumn (text : List Char) : Bool :=
  match words text with
  | first :: second :: _ =>
    !(["PRIMARY", "FOREIGN", "CONSTRAINT"].contains (capitals first)) &&
      (nativeTypes.lookup (capitals (second.takeWhile fun c => !isBlank c && c != '('))).isSome
  | _ => false

/-- An item is a constraint of the table and no column. -/
def isConstraint (text : List Char) : Bool :=
  beginsConstraint (capitals (text.takeWhile isWord)) && !looksLikeColumn text

/-- The columns that a constraint makes keys. -/
def constraintKeys (text : List Char) : List String :=
  match Pattern.search? keyColumns .wordStart text with
  | some found => (splitOn (· == ',') found.value).map fun c => String.ofList (unquote c)
  | none => []

/-! ## Tables -/

/-- The columns of a table and the keys that its constraints name. -/
structure Items where
  columns : List Column := []
  keys : List String := []

/-- Reads the items of a table; `base` is the offset of the text they were cut from. -/
def readItems (setting : Setting) (table : String) (base : Nat) : List Piece → Outcome Items
  | [] => .ok {}
  | piece :: rest =>
    let text := trim piece.text
    let offset := base + piece.offset + (piece.text.length - (trimStart piece.text).length)
    if text.isEmpty then
      reject (.statement (.emptyColumn table)) (Place.atOffset setting.text offset setting.source)
    else if isConstraint text then do
      let items ← readItems setting table base rest
      .ok { items with keys := constraintKeys text ++ items.keys }
    else do
      let column ← readColumn setting table text offset
      let items ← readItems setting table base rest
      .ok { items with columns := column :: items.columns }

/-- Numbers the inline key columns from `position` on; gives the next number too. -/
def numberInline (position : Nat) : List Column → List Column × Nat
  | [] => ([], position)
  | c :: cs =>
    if c.isKey then
      let (cs, next) := numberInline (position + 1) cs
      ({ c with keyPosition := some position } :: cs, next)
    else
      let (cs, next) := numberInline position cs
      (c :: cs, next)

/-- The last column of a name, up to case. -/
def columnNamed? (columns : List Column) (name : String) : Option Column :=
  columns.reverse.find? fun c => sameName c.name name

/-- Changes the last column of a name, up to case. -/
def mapColumnNamed (f : Column → Column) (name : String) (columns : List Column) : List Column :=
  let rec go : List Column → List Column
    | [] => []
    | c :: cs => if sameName c.name name then f c :: cs else c :: go cs
  (go columns.reverse).reverse

/-- Makes the columns that constraints name keys, numbered from `position` on; a column that is one
already keeps its number. -/
def numberKeys (undeclared : String → Outcome (List Column)) (position : Nat)
    (columns : List Column) :
    List String → Outcome (List Column)
  | [] => .ok columns
  | key :: keys =>
    match columnNamed? columns key with
    | none => undeclared key
    | some c =>
      if c.isKey then numberKeys undeclared position columns keys
      else
        numberKeys undeclared (position + 1)
          (mapColumnNamed (fun c =>
            { c with isKey := true, nullable := false, keyPosition := some position })
            key columns)
          keys

/-- Reads a table statement. -/
def readTable (setting : Setting) (statement : List Char) : Outcome Table :=
  let place (offset : Nat) := Place.atOffset setting.text offset setting.source
  match tableHead.first? statement with
  | none => reject (.statement .malformedTable) (place setting.start)
  | some (written, inside) =>
    let name := String.ofList (unquote written)
    let opening := statement.length - inside.length - 1
    match closingParen? ('(' :: inside) with
    | none => reject (.statement (.unbalancedTable name)) (place (setting.start + opening))
    | some closing => do
      let body := inside.take (closing - 1)
      let items ← readItems setting name (setting.start + opening + 1)
        (splitTopLevel (· == ',') body)
      if items.columns.isEmpty then reject (.statement (.noColumns name)) (place setting.start)
      else
        let (columns, next) := numberInline 1 items.columns
        let undeclared (key : String) : Outcome (List Column) :=
          reject (.statement (.undeclaredKey key name)) (place setting.start)
        let columns ← numberKeys undeclared next columns items.keys
        .ok { name, columns, domain := setting.domain, source := setting.source
              line := lineAt setting.text setting.start }

end Rulebook.Sql
