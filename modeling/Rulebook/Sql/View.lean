import Rulebook.Diagnostic
import Rulebook.Sql.Table

/-!
# View statements

Reading `CREATE VIEW ... AS SELECT`: the select list, the relations after `FROM` with their joins,
and the texts of join conditions, filters and groupings.
-/

namespace Rulebook.Sql

open Text

/-! ## Patterns -/

/-- The name of a view and its column list, as they are written, up to and with `AS`. -/
def viewHead : Pattern (List Char × Option (List Char)) := do
  Pattern.kw "create"
  let _ ← Pattern.gap
  let _ ← Pattern.optional do
    Pattern.kw "or"
    let _ ← Pattern.gap
    Pattern.kw "replace"
    let _ ← Pattern.gap
  let _ ← Pattern.optional temporary
  let _ ← Pattern.optional do
    Pattern.kw "materialized"
    let _ ← Pattern.gap
  Pattern.kw "view"
  let _ ← Pattern.gap
  let _ ← Pattern.optional ifNotExists
  let name ← qualifiedName true
  let _ ← Pattern.blanks
  let columns ← Pattern.optional do
    let cs ← inParens
    let _ ← Pattern.blanks
    pure cs
  Pattern.kw "as"
  Pattern.wordEnd
  pure (name, columns)

/-- `SELECT` with what may stand before the select list. -/
def selectHead : Pattern Unit := do
  Pattern.kw "select"
  let _ ← Pattern.gap
  let _ ← Pattern.optional do
    Pattern.either (Pattern.kw "distinct") (Pattern.kw "all")
    let _ ← Pattern.gap

/-- Two keywords with a gap between them. -/
def twoWords (first second : String) : Pattern Unit := do
  Pattern.kw first
  let _ ← Pattern.gap
  Pattern.kw second

/-- A keyword that begins a clause of a query, as it is written. -/
def clauseKeyword : Pattern (List Char) := fun s =>
  let p : Pattern Unit := Pattern.anyOf [
    Pattern.kw "from", Pattern.kw "where", twoWords "group" "by", Pattern.kw "having",
    twoWords "order" "by", Pattern.kw "limit", Pattern.kw "union", Pattern.kw "intersect",
    Pattern.kw "except"]
  ((p <* Pattern.wordEnd) s).map fun ((), rest) => (s.take (s.length - rest.length), rest)

/-- `JOIN` with what may stand before it. -/
def joinWords : Pattern Unit := do
  let _ ← Pattern.optional do
    Pattern.kw "natural"
    let _ ← Pattern.gap
  let _ ← Pattern.optional do
    let outer : Pattern Unit := do
      Pattern.anyOf [Pattern.kw "left", Pattern.kw "right", Pattern.kw "full"]
      let _ ← Pattern.optional do
        let _ ← Pattern.gap
        Pattern.kw "outer"
    Pattern.anyOf [Pattern.kw "inner", Pattern.kw "cross", outer]
    let _ ← Pattern.gap
  Pattern.kw "join"
  Pattern.wordEnd

/-- What follows the name of a relation: a condition, or a list of columns. -/
inductive JoinPart where
  | on (text : List Char)
  | columns (text : List Char)

/-- A relation with its alias and what it is joined on. -/
def sourceItem : Pattern (List Char × Option (List Char) × Option JoinPart) := do
  let _ ← Pattern.blanks
  let table ← qualifiedName true
  let given ← Pattern.optional do
    let _ ← Pattern.gap
    let _ ← Pattern.optional do
      Pattern.kw "as"
      let _ ← Pattern.gap
    identifier true
  let part ← Pattern.optional do
    let _ ← Pattern.gap
    let on : Pattern JoinPart := do
      Pattern.kw "on"
      let _ ← Pattern.gap
      JoinPart.on <$> Pattern.everything
    let columns : Pattern JoinPart := do
      Pattern.kw "using"
      let _ ← Pattern.blanks
      JoinPart.columns <$> inParens
    Pattern.either on columns
  let _ ← Pattern.blanks
  Pattern.atEnd
  pure (table, given, part)

/-- An expression with an alias: the lengths of the expression and of what stands before the alias,
and whether `AS` does. -/
structure AliasShape where
  expression : Nat
  hasAs : Bool
  aliasStart : Nat
  aliasStop : Nat

/-- A select item that ends in an alias; the expression is as short as possible. -/
def aliased : Pattern AliasShape := fun s =>
  let shape : Pattern (Nat × Bool × Nat × Nat) := do
    let (expression, before, hasAs, length) ← Pattern.before do
      let blanks ← Pattern.gap
      let as ← Pattern.optional do
        Pattern.kw "as"
        Pattern.gap
      let given ← identifier true
      let _ ← Pattern.blanks
      Pattern.atEnd
      pure (blanks.length + ((as.map fun gap => 2 + gap.length).getD 0), as.isSome, given.length)
    let start := expression.length + before
    pure (expression.length, hasAs, start, start + length)
  (shape s).map fun ((e, a, b, c), rest) => (⟨e, a, b, c⟩, rest)

/-! ## Select lists -/

/-- A word that is no alias. -/
def isReservedAlias (word : List Char) : Bool :=
  ["ON", "USING", "WHERE", "JOIN", "INNER", "LEFT", "RIGHT", "FULL", "CROSS",
    "NATURAL", "GROUP", "ORDER", "HAVING", "LIMIT", "END", "FROM", "AND",
    "OR"].contains (capitals word)

/-- A text that ends in an operator, so that what follows belongs to the expression. -/
def isDangling (s : List Char) : Bool :=
  match (trimEnd s).getLast? with
  | some c => ['+', '-', '*', '/', '%', ',', '('].contains c
  | none => false

/-- Reads one item of a select list. -/
def readProjection (item : List Char) (offset : Nat) : Projection :=
  let plain : Projection := ⟨String.ofList item, none, offset⟩
  match aliased.first? (mask item) with
  | none => plain
  | some (shape, _) =>
    let expression := trim (item.take shape.expression)
    let given := (item.take shape.aliasStop).drop shape.aliasStart
    if !isReservedAlias given && (shape.hasAs || !isDangling expression) then
      ⟨String.ofList expression, some (String.ofList (unquote given)), offset⟩
    else plain

/-- Reads the items of a select list, the text of which begins at offset `base`. -/
def readProjections (setting : Setting) (view : String) (base : Nat) :
    List Piece → Outcome (List Projection)
  | [] => .ok []
  | piece :: rest =>
    let item := trim piece.text
    if item.isEmpty then
      reject (.statement (.emptyItem view))
        (Place.atOffset setting.text (base + piece.offset) setting.source)
    else do
      let more ← readProjections setting view base rest
      .ok (readProjection item (base + piece.offset) :: more)

/-! ## Sources -/

/-- The relations of a `FROM` clause and the texts they are joined on. -/
structure Origins where
  sources : List Source := []
  filters : List String := []

/-- One origin after the others. -/
def Origins.append (a b : Origins) : Origins := ⟨a.sources ++ b.sources, a.filters ++ b.filters⟩

/-- Drops the first `JOIN` of a text, with what may stand before it. -/
def dropJoin (s : List Char) : List Char :=
  match Pattern.search? joinWords .wordStart s with
  | some found => s.take found.start ++ s.drop found.stop
  | none => s

/-- The filters that a joined relation adds; an empty text adds none. -/
def JoinPart.filters : JoinPart → List String
  | .on text => if text.isEmpty then [] else [String.ofList (trim text)]
  | .columns text => if text.isEmpty then [] else [String.ofList (trim text)]

/-- Reads one relation of a `FROM` clause. -/
def readSource (setting : Setting) (view : String) (segment : List Char) (offset : Nat) :
    Outcome Origins :=
  let place := Place.atOffset setting.text offset setting.source
  let trimmed := trim segment
  if trimmed.head? == some '(' then reject (.statement (.derivedTable view)) place
  else match sourceItem.first? segment with
    | none => reject (.statement (.unreadableSource view (String.ofList trimmed))) place
    | some ((table, given, part), _) =>
      let given := given.filter fun a => !isReservedAlias a
      .ok {
        sources := [⟨String.ofList (unquote table), given.map fun a => String.ofList (unquote a)⟩]
        filters := (part.map JoinPart.filters).getD [] }

/-- Reads the joined relations of one piece, the joins of which begin at the given offsets. -/
def readJoins (setting : Setting) (view : String) (piece : List Char) (base : Nat) (isFirst : Bool)
    (start : Nat) : List Nat → Outcome Origins
  | [] => .ok {}
  | stop :: stops => do
    let segment := (piece.take stop).drop start
    let segment := if isFirst then segment else dropJoin segment
    let here ← readSource setting view segment (base + start)
    let more ← readJoins setting view piece base false stop stops
    .ok (here.append more)

/-- Reads the pieces of a `FROM` clause, the text of which begins at offset `base`. -/
def readSources (setting : Setting) (view : String) (base : Nat) : List Piece → Outcome Origins
  | [] => .ok {}
  | piece :: rest => do
    let joins := (Pattern.findAll joinWords .wordStart (mask piece.text)).map (·.start)
    let here ← readJoins setting view piece.text (base + piece.offset) true 0 (joins ++
      [piece.text.length])
    let more ← readSources setting view base rest
    .ok (here.append more)

/-! ## Views -/

/-- A clause of a query: the first word of its keyword in capitals, and the
offsets of the keyword. -/
structure Clause where
  keyword : String
  start : Nat
  stop : Nat

/-- The clauses at the top level of a query. -/
def clausesOf (select : List Char) : List Clause :=
  (Pattern.findAll clauseKeyword .wordStart (mask select)).map fun found =>
    ⟨capitals ((words found.value).headD []), found.start, found.stop⟩

/-- Takes off the parentheses around a whole query; the number counts the opening ones taken off.
The first argument bounds the number of steps. -/
def peelParens : Nat → List Char → List Char × Nat
  | 0, s => (s, 0)
  | fuel + 1, s =>
    if s.head? == some '(' && closingParen? s == some (s.length - 1) then
      let (inner, n) := peelParens fuel (trim (s.drop 1).dropLast)
      (inner, n + 1)
    else (s, 0)

/-- Reads the clauses of a query from `FROM` on. -/
def readClauses (setting : Setting) (view : String) (select : List Char) (base : Nat) :
    List Clause → Outcome Origins
  | [] => .ok {}
  | clause :: rest => do
    let stop := (rest.head?.map (·.start)).getD select.length
    let body := (select.take stop).drop clause.stop
    let here ←
      if clause.keyword == "FROM" then
        readSources setting view (base + clause.stop) (splitTopLevel (· == ',') body)
      else if ["WHERE", "GROUP", "HAVING"].contains clause.keyword then
        .ok { filters := [String.ofList (trim body)] }
      else .ok {}
    let more ← readClauses setting view select base rest
    .ok (here.append more)

/-- Reads a view statement. -/
def readView (setting : Setting) (statement : List Char) : Outcome View :=
  let place (offset : Nat) := Place.atOffset setting.text offset setting.source
  match viewHead.first? statement with
  | none => reject (.statement .malformedView) (place setting.start)
  | some ((written, columns), query) => do
    let name := String.ofList (unquote written)
    let columnNames := (columns.filter fun cs => !cs.isEmpty).map fun cs =>
      (splitOn (· == ',') cs).map fun c => String.ofList (unquote c)
    let queryStart := setting.start + (statement.length - query.length)
    let leading := query.length - (trimStart query).length
    let (select, peeled) := peelParens query.length (trim query)
    let base := queryStart + leading + peeled
    match selectHead.first? select with
    | none => reject (.statement (.notSelect name)) (place base)
    | some (_, afterHead) => do
      let headLength := select.length - afterHead.length
      let clauses := clausesOf select
      match clauses with
      | [] => reject (.statement (.noFrom name)) (place base)
      | first :: _ => do
        if first.keyword != "FROM" then reject (.statement (.noFrom name)) (place base)
        if clauses.any fun c => ["UNION", "INTERSECT", "EXCEPT"].contains c.keyword then
          reject (.statement (.setOperation name)) (place base)
        let list := (select.take first.start).drop headLength
        let projections ← readProjections setting name (base + headLength)
          (splitTopLevel (· == ',') list)
        let origins ← readClauses setting name select base clauses
        match columnNames with
        | some names =>
          if names.length != projections.length then
            reject (.statement (.columnCount name names.length projections.length))
              (place setting.start)
        | none => pure ()
        .ok { name, domain := setting.domain, projections, columnNames, sources := origins.sources
              filters := origins.filters, source := setting.source, text := setting.text
              offset := setting.start, line := lineAt setting.text setting.start }

end Rulebook.Sql
