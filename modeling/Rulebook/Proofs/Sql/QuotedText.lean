import Rulebook.Proofs.Sql.ColumnText
import Rulebook.Proofs.Sql.Statement
import Rulebook.Proofs.Sql.TableHead
import Rulebook.Proofs.Text.Position
import Rulebook.Sql.File

/-!
# What is quoted in a column

A literal between single quotes may stand in a column, behind its type (`InColumn`): as a default,
in a comment or in a check. Another literal of the same length makes the same columns, or the same
failure at the same offset, if `PRIMARY KEY` and `NOT NULL` stand in both of them or in none, and
the statement is one that creates a table with either of them (`readSchema_withLiteral`). The
provisos are needed: attributes are also found within quotes.
-/

namespace Rulebook
open Text Pattern

/-! ## Places -/

/-- The place of the same offset in a text. -/
def Place.inText (text : List Char) (p : Place) : Place :=
  match p.offset with
  | some offset => atOffset text offset p.source
  | none => p

/-- Places are the same in two texts with line feeds at the same offsets. -/
lemma Place.atOffset_of_lineFeeds {s t : List Char} (h : s.map (· == '\n') = t.map (· == '\n'))
    (offset : Nat) (source : Option String) :
    atOffset s offset source = atOffset t offset source := by
  have length : s.length = t.length := by
    rw [← List.length_map (· == '\n'), h, List.length_map]
  have taken : (s.take offset).map (· == '\n') = (t.take offset).map (· == '\n') := by
    rw [List.map_take, h, List.map_take]
  obtain ⟨line, column⟩ := position_of_lineFeeds taken length
  rw [atOffset, atOffset, line, column]

namespace Sql

/-! ## Literals in columns -/

/-- An item of a list is a column, and the type of the column has ended. -/
structure AfterType (item : List Char) : Prop where
  column : isConstraint (item ++ ['\'']) = false
  typed : ∃ name rest, (identifier false).first? item = some (name, rest) ∧ TypeEnds rest

/-- A list of columns goes on outside of quotes, in a column the type of which has ended. -/
structure InItems (list : List Char) : Prop where
  unquoted : (maskAfter 0 none list).2 = none
  item : AfterType (trimStart (lastPiece (· == ',') list))

/-- A table statement goes on in its list of columns. -/
structure InTable (statement : List Char) : Prop where
  opened : ∃ name list depth, tableHead.first? statement = some (name, list) ∧
    closingAfter? 0 none ('(' :: list) = some (depth, none) ∧ InItems list

/-- A file goes on outside of comments and quotes, in a column of a table, the type
of which has ended. -/
structure InColumn (text : List Char) : Prop where
  code : CommentState.code.after text = .code
  unquoted : (maskAfter 0 none (blankComments text)).2 = none
  table : InTable (trimStart (lastPiece (· == ';') (blankComments text)))

variable {a u u' : List Char}

/-! ## Tables -/

/-- What is read of a list depends on what is read of each item. -/
lemma readItems_congr {setting : Setting} {table : String} {base : Nat} {p p' : Piece}
    (h : ∀ rest, readItems setting table base (p :: rest) = readItems setting table base
      (p' :: rest)) (L R : List Piece) :
    readItems setting table base (L ++ p :: R) = readItems setting table base (L ++ p' :: R) := by
  induction L with
  | nil => exact h R
  | cons q L ih => rw [List.cons_append, List.cons_append, readItems, readItems, ih]

/-- In the items of a table, a literal may be another one that is alike. -/
lemma readItems_withLiteral (alike : Alike u u') (h : InItems a) (b : List Char)
    (setting : Setting) (table : String) (base : Nat) :
    readItems setting table base (splitTopLevel (· == ',') (withLiteral a b u)) =
      readItems setting table base (splitTopLevel (· == ',') (withLiteral a b u')) := by
  obtain ⟨column, name, rest, named, typed⟩ := h.item
  obtain ⟨L, o, y, R, -, pieces⟩ :=
    @splitTopLevel_withLiteral a (· == ',') rfl rfl h.unquoted b u.length
  rw [pieces u rfl alike.closed, pieces u' alike.length.symm alike.closed']
  refine readItems_congr (fun more => ?_) L R
  have some (v : List Char) :
      (trim (withLiteral (lastPiece (· == ',') a) y v)).isEmpty = false := by
    rw [trim_withLiteral, withLiteral]
    simp
  have item (v : List Char) :
      isConstraint (trim (withLiteral (lastPiece (· == ',') a) y v)) = false := by
    rw [trim_withLiteral]
    exact isConstraint_quote column _
  rw [readItems, readItems, some, some, item, item, trim_withLiteral, trim_withLiteral,
    trimStart_withLiteral, trimStart_withLiteral]
  simp only [length_withLiteral, alike.length, Bool.false_eq_true, if_false,
    readColumn_withLiteral alike named typed]

/-- In a table statement, a literal may be another one that is alike. -/
lemma readTable_withLiteral (alike : Alike u u') (h : InTable a) (b : List Char)
    (setting : Setting) :
    readTable setting (withLiteral a b u) = readTable setting (withLiteral a b u') := by
  obtain ⟨name, list, depth, head, opened, items⟩ := h.opened
  have head (v : List Char) :
      tableHead.first? (withLiteral a b v) = some (name, withLiteral list b v) :=
    first?_tableHead head _
  unfold readTable
  rw [head, head]
  simp only [length_withLiteral, alike.length]
  obtain never | ⟨closing, y, closes⟩ := closingParen?_withLiteral opened b u.length
  · rw [never u rfl alike.closed, never u' alike.length.symm alike.closed']
  · obtain ⟨closed, body⟩ := closes u rfl alike.closed
    obtain ⟨closed', body'⟩ := closes u' alike.length.symm alike.closed'
    rw [closed, closed']
    simp only [body, body', readItems_withLiteral alike items]

/-! ## Files -/

/-- The statement of a text within which a start of the text ends. -/
def statementAt (start text : List Char) : List Char :=
  ((splitTopLevel (· == ';') (blankComments text))[(splitTopLevel (· == ';')
    (blankComments start)).length - 1]?.map
    fun p => trim p.text).getD []

/-- What is read of a file depends on what is read of each statement. -/
lemma readStatements_congr {text : List Char} {source : Option String}
    {markers : List Marker} {p p' : Piece}
    (h : ∀ rest, readStatements text source markers (p :: rest) = readStatements text source
      markers (p' :: rest))
    (L R : List Piece) :
    readStatements text source markers (L ++ p :: R) =
    readStatements text source markers (L ++ p' :: R) := by
  induction L with
  | nil => exact h R
  | cons q L ih => rw [List.cons_append, List.cons_append, readStatements, readStatements, ih]

/-- The statements of a file are the same with either literal. -/
lemma readStatements_withLiteral (alike : Alike u u') (h : InColumn a) {b : List Char}
    (table : statementKind (statementAt a (withLiteral a b u)) = .table)
    (table' : statementKind (statementAt a (withLiteral a b u')) = .table) (text : List Char)
    (source : Option String) (markers : List Marker) :
    readStatements text source markers (splitTopLevel (· == ';')
      (blankComments (withLiteral a b u))) =
      readStatements text source markers (splitTopLevel (· == ';')
        (blankComments (withLiteral a b u'))) := by
  obtain ⟨L, o, y, R, before, pieces⟩ :=
    @splitTopLevel_withLiteral (blankComments a) (· == ';') rfl rfl h.unquoted
      (blankComments b) u.length
  have blanked := blankComments_withLiteral (b := b) h.code alike.closed
  have blanked' := blankComments_withLiteral (b := b) h.code alike.closed'
  have place : (splitTopLevel (· == ';') (blankComments a)).length - 1 = L.length := by
    rw [before, List.length_append]
    simp
  have cut := pieces u rfl alike.closed
  have cut' := pieces u' alike.length.symm alike.closed'
  rw [statementAt, blanked, cut, place, List.getElem?_append_right le_rfl, Nat.sub_self] at table
  rw [statementAt, blanked', cut', place, List.getElem?_append_right le_rfl, Nat.sub_self] at table'
  have table : statementKind (trim (withLiteral (lastPiece (· == ';') (blankComments a)) y u)) =
      .table := table
  have table' : statementKind (trim (withLiteral (lastPiece (· == ';') (blankComments a)) y u')) =
      .table := table'
  rw [blanked, blanked', cut, cut']
  refine readStatements_congr (fun rest => ?_) L R
  rw [readStatements, readStatements]
  simp only [table, table']
  simp only [trim_withLiteral, trimStart_withLiteral, length_withLiteral, alike.length,
    readTable_withLiteral alike h.table]

/-- The columns of the tables of a file. -/
def Schema.columns (schema : Schema) : List (String × List Column) :=
  schema.tables.map fun t => (t.name, t.columns)

/-- The setting of a statement of a file. -/
def settingOf (text : List Char) (source : Option String) (markers : List Marker) (p : Piece) :
    Setting :=
  let start := p.offset + (p.text.length - (trimStart p.text).length)
  ⟨text, source, domainAt markers start, start⟩

/-- The columns of a file are those of its tables, one after the other. -/
lemma columns_readStatements (text : List Char) (source : Option String)
    (markers : List Marker) (p : Piece) (rest : List Piece) :
    Schema.columns <$> readStatements text source markers (p :: rest) =
      match statementKind (trim p.text) with
      | .table => do
        let t ← readTable (settingOf text source markers p) (trim p.text)
        let columns ← Schema.columns <$> readStatements text source markers rest
        .ok ((t.name, t.columns) :: columns)
      | .view => do
        let _ ← readView (settingOf text source markers p) (trim p.text)
        let columns ← Schema.columns <$> readStatements text source markers rest
        .ok columns
      | .other => Schema.columns <$> readStatements text source markers rest := by
  rw [readStatements]
  dsimp only [settingOf]
  cases statementKind (trim p.text) with
  | table =>
    dsimp only
    cases readTable _ (trim p.text) with
    | error e => rfl
    | ok t => cases readStatements text source markers rest <;> rfl
  | view =>
    dsimp only
    cases readView _ (trim p.text) with
    | error e => rfl
    | ok v => cases readStatements text source markers rest <;> rfl
  | other => rfl

/-- In a text with other places and markers, the same statements declare the same columns. -/
lemma columns_readStatements_moved {f : Place → Place} {text text' : List Char}
    {source : Option String}
    (place : ∀ offset, Place.atOffset text' offset source = f (Place.atOffset text offset source))
    (markers markers' : List Marker) (pieces : List Piece) :
    Schema.columns <$> readStatements text' source markers' pieces =
      (Schema.columns <$> readStatements text source markers pieces).translate
        (Failure.replace f) id := by
  induction pieces with
  | nil => rfl
  | cons p rest ih =>
    have moved (bound : Nat) :
        (settingOf text source markers p).Moved f 0 bound (settingOf text' source markers' p) :=
      ⟨rfl, fun offset _ => place offset⟩
    rw [columns_readStatements, columns_readStatements]
    split
    · refine Outcome.bind_translate (readTable_moved (moved _) le_rfl) fun t _ => ?_
      exact Outcome.bind_translate ih fun columns _ => rfl
    · refine Outcome.bind_translate (readView_moved (moved _) le_rfl) fun v _ => ?_
      exact Outcome.bind_translate ih fun columns _ => rfl
    · exact ih

/-- In a literal behind the type of a column other characters may stand. The file then has the
same columns, or it fails in the same way at the same offset; the place is the same, too, if
the line feeds are. -/
theorem readSchema_withLiteral {before after old new : List Char} {source : Option String}
    (inColumn : InColumn before) (alike : Alike old new)
    (table : statementKind (statementAt before (withLiteral before after old)) = .table)
    (table' : statementKind (statementAt before (withLiteral before after new)) = .table) :
    Schema.columns <$> readSchema (withLiteral before after new) source =
        (Schema.columns <$> readSchema (withLiteral before after old) source).translate
          (Failure.replace (Place.inText (withLiteral before after new))) id ∧
      (old.map (· == '\n') = new.map (· == '\n') →
        Schema.columns <$> readSchema (withLiteral before after new) source =
          Schema.columns <$> readSchema (withLiteral before after old) source) := by
  -- The statements are those of the old literal, read in the new text; this text counts for places
  -- and markers only.
  have same := readStatements_withLiteral alike inColumn table table' (withLiteral before after new)
    source
    (markersOf (withLiteral before after new))
  have moved {f : Place → Place} (place : ∀ offset,
      Place.atOffset (withLiteral before after new) offset source =
      f (Place.atOffset (withLiteral before after old) offset source)) :
      Schema.columns <$> readSchema (withLiteral before after new) source =
        (Schema.columns <$> readSchema (withLiteral before after old) source).translate
          (Failure.replace f) id := by
    rw [readSchema, ← same]
    exact columns_readStatements_moved place _ _ _
  refine ⟨moved fun offset => rfl, fun lineFeeds => ?_⟩
  have text : (withLiteral before after new).map (· == '\n') =
      (withLiteral before after old).map (· == '\n') := by
    simp only [withLiteral, List.map_append, List.map_cons, lineFeeds]
  rw [moved (f := id) fun offset => Place.atOffset_of_lineFeeds text offset source,
    Failure.replace_id]
  exact Outcome.translate_id fun e _ => rfl

namespace Defaulted

/-- A table up to the default of its column. -/
def start : List Char := "CREATE TABLE t (a INT DEFAULT ".toList

/-- What follows the default. -/
def rest : List Char := ");\n".toList

/-- The literal is the default of a column. -/
lemma inColumn_start : InColumn start := by
  have type : TypeEnds (' ' :: ("INT".toList ++ ' ' :: ("DEFAULT".toList ++ [' ']))) := by
    apply TypeEnds.blank rfl
    apply TypeEnds.word (by decide) (List.all_eq_true.1 (by decide)) rfl
    apply TypeEnds.blank rfl
    exact TypeEnds.stop (by decide) (List.all_eq_true.1 (by decide)) rfl (by decide +kernel)
  have items : InItems "a INT DEFAULT ".toList :=
    ⟨by decide +kernel, by decide +kernel, "a".toList, _, by decide +kernel, type⟩
  have table : InTable (trimStart (lastPiece (· == ';') (blankComments start))) :=
    ⟨"t".toList, _, 1, by decide +kernel, by decide +kernel, items⟩
  exact ⟨by decide +kernel, by decide +kernel, table⟩

/-- One word for another is the same default to the columns. -/
theorem open_withLiteral : InColumn start ∧ Alike "open".toList "shut".toList ∧
    statementKind (statementAt start (withLiteral start rest "open".toList)) = .table ∧
    statementKind (statementAt start (withLiteral start rest "shut".toList)) = .table ∧
    Schema.columns <$> readSchema (withLiteral start rest "shut".toList) =
      Schema.columns <$> readSchema (withLiteral start rest "open".toList) := by
  have alike : Alike "open".toList "shut".toList :=
    ⟨rfl, by decide, by decide, by decide +kernel, by decide +kernel⟩
  have table : statementKind (statementAt start (withLiteral start rest "open".toList)) =
      .table := by decide +kernel
  have table' : statementKind (statementAt start (withLiteral start rest "shut".toList)) =
      .table := by decide +kernel
  exact ⟨inColumn_start, alike, table, table',
    (readSchema_withLiteral inColumn_start alike table table').2 rfl⟩

/-- The words of an attribute within the quotes make the column one that may not be null. -/
theorem void_nullable : InColumn start ∧
    statementKind (statementAt start (withLiteral start rest "NOT VOID".toList)) = .table ∧
    statementKind (statementAt start (withLiteral start rest "NOT NULL".toList)) = .table ∧
    Schema.columns <$> readSchema (withLiteral start rest "NOT VOID".toList) =
      .ok [("t", [{ name := "a", nativeType := "INT", type := .int32, nullable := true }])] ∧
    Schema.columns <$> readSchema (withLiteral start rest "NOT NULL".toList) =
      .ok [("t", [{ name := "a", nativeType := "INT", type := .int32, nullable := false }])] := by
  refine ⟨inColumn_start, ?_, ?_, ?_, ?_⟩
  · decide +kernel
  · decide +kernel
  · decide +kernel
  · decide +kernel

end Defaulted
end Sql
end Rulebook
