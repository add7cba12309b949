import Rulebook.Proofs.Sql.Slice
import Rulebook.Proofs.Sql.Statement
import Rulebook.Proofs.Text.Position

/-!
# Faults of columns point at the column

A column is an item of the list in parentheses of a table statement. Where a file cannot be read
because a column has no name, no type or an unknown type, the fault is placed at the first character
of that column (`readSchema_columnFault`), and no other offset of the file has this line and column.
-/

namespace Rulebook
open Text Pattern

/-- The words of the type of a column, read off what follows its name. -/
def Sql.typeWords (rest : List Char) : List String :=
  (readType [] none ((findAll typeToken .anywhere rest).map (·.value))).1

/-- A column is at fault: it has no name, no type, or a type that is not known. -/
def StatementFault.Blames : StatementFault → List Char → Prop
  | .invalidColumn _ text, column =>
    (Sql.identifier false).first? column = none ∧ text = String.ofList column
  | .untypedColumn name _, column =>
    ∃ written rest, (Sql.identifier false).first? column = some (written, rest) ∧
      name = String.ofList (Sql.unquote written) ∧ Sql.typeWords rest = []
  | .unknownType native name _, column =>
    ∃ written rest, (Sql.identifier false).first? column = some (written, rest) ∧
      name = String.ofList (Sql.unquote written) ∧ Sql.typeWords rest ≠ [] ∧
      native = " ".intercalate (Sql.typeWords rest) ∧ Sql.scalarTypeOf? (Sql.typeWords rest) = none
  | _, _ => False

/-- A fault of a column: no name, no type or an unknown type. -/
def StatementFault.OfColumn : StatementFault → Prop
  | .invalidColumn .. | .untypedColumn .. | .unknownType .. => True
  | _ => False

namespace Sql

/-- A list in parentheses has an item at an offset: from the blanks after an opening parenthesis or
a comma to those before a comma or a closing parenthesis. -/
structure IsItem (s : List Char) (offset : Nat) (item : List Char) : Prop where
  ne_nil : item ≠ []
  trimmed : trim item = item
  between : ∃ before opening pre post closing after,
    s = before ++ opening :: (pre ++ (item ++ (post ++ closing :: after))) ∧
    offset = before.length + 1 + pre.length ∧ opening ∈ ['(', ','] ∧ closing ∈ [',', ')'] ∧
    (∀ c ∈ pre, isBlank c = true) ∧ ∀ c ∈ post, isBlank c = true

/-- A piece of a list in parentheses is an item, unless it is blank. -/
lemma isItem_of_piece {before body after : List Char} {p : Piece}
    (h : p ∈ splitTopLevel (· == ',') body) (ne : trim p.text ≠ []) :
    IsItem (before ++ '(' :: (body ++ ')' :: after))
      (before.length + 1 + p.offset + (p.text.length - (trimStart p.text).length))
      (trim p.text) := by
  obtain ⟨left, right, rfl, offset, opens, closes⟩ := splitTopLevel_slice rfl h
  obtain ⟨pre, post, piece, length, blanks, blanks'⟩ := exists_trim p.text
  -- To the left is the opening parenthesis or the comma before the piece, to the
  -- right what ends it.
  obtain ⟨left', opening, hl, ho⟩ : ∃ left' opening, before ++ '(' :: left = left' ++ [opening] ∧
    opening ∈ ['(', ','] := by
    cases hlast : left.getLast? with
    | none =>
      rw [List.getLast?_eq_none_iff] at hlast
      subst hlast
      exact ⟨before, '(', rfl, by decide⟩
    | some c =>
      obtain ⟨left', rfl⟩ := List.getLast?_eq_some_iff.1 hlast
      exact ⟨before ++ '(' :: left', c, by simp, by simp [eq_of_beq (opens c hlast)]⟩
  obtain ⟨closing, right', hr, hc⟩ : ∃ closing right', right ++ ')' :: after = closing :: right' ∧
    closing ∈ [',', ')'] := by
    cases right with
    | nil => exact ⟨')', after, rfl, by decide⟩
    | cons c right => exact ⟨c, right ++ ')' :: after, rfl, by simp [eq_of_beq (closes c rfl)]⟩
  refine ⟨ne, trim_trim _, left', opening, pre, post, closing, right', ?_, ?_, ho,
    hc, blanks, blanks'⟩
  · calc before ++ '(' :: (left ++ (p.text ++ right) ++ ')' :: after)
        = (before ++ '(' :: left) ++ (p.text ++ (right ++ ')' :: after)) := by simp
      _ = left' ++ [opening] ++ (pre ++ (trim p.text ++ post) ++ closing :: right') := by
        rw [hl, hr, ← piece]
      _ = left' ++ opening :: (pre ++ (trim p.text ++ (post ++ closing :: right'))) := by simp
  · have size := congrArg List.length hl
    simp only [List.length_append, List.length_cons, List.length_nil] at size
    omega

/-! ## Columns and tables -/

variable {setting : Setting} {d : Diagnostic}

/-- A size that cannot be read is no fault of a statement. -/
lemma readSize_of_diagnostic {size : List Char} : ¬ readSize size = .error (.diagnostic d) := by
  intro h
  unfold readSize at h
  split at h
  · split at h <;> cases h
  · cases h

/-- Sizes that cannot be read are no fault of a statement. -/
lemma readSizes_of_diagnostic {arguments : List Char} :
    ¬ readSizes arguments = .error (.diagnostic d) := by
  intro h
  unfold readSizes at h
  split at h
  · cases h
  · obtain h | ⟨precision, -, h⟩ := Outcome.bind_error.1 h
    · exact readSize_of_diagnostic h
    · split at h
      · exact readSize_of_diagnostic (Outcome.bind_result_error.1 h)
      · cases h

/-- A column that cannot be read is at fault itself, and the fault is placed where
the column begins. -/
lemma readColumn_error {table : String} {text : List Char} {offset : Nat}
    (h : readColumn setting table text offset = .error (.diagnostic d)) :
    ∃ fault : StatementFault, fault.Blames text ∧
      d = ⟨.statement fault, Place.atOffset setting.text offset setting.source, none⟩ := by
  unfold readColumn at h
  dsimp only at h
  split at h
  · rename_i unnamed
    cases h
    exact ⟨.invalidColumn table (String.ofList text), ⟨unnamed, rfl⟩, rfl⟩
  · rename_i written rest named
    split at h
    · rename_i untyped
      cases h
      exact ⟨.untypedColumn (String.ofList (unquote written)) table,
        ⟨written, rest, named, rfl, List.isEmpty_iff.1 untyped⟩, rfl⟩
    · rename_i typed
      split at h
      · rename_i unknown
        cases h
        exact ⟨.unknownType (" ".intercalate (typeWords rest))
          (String.ofList (unquote written)) table,
          ⟨written, rest, named, rfl, fun none => typed (List.isEmpty_iff.2 none), rfl, unknown⟩,
          rfl⟩
      · -- What is left to go wrong is a size, and that is not a fault of a statement.
        split at h
        · split at h
          · cases h
          · obtain h | ⟨sizes, -, h⟩ := Outcome.bind_error.1 h
            · exact absurd h readSizes_of_diagnostic
            · cases h
        · cases h

/-- Of the items of a table one is at fault, and is no constraint. -/
lemma readItems_error {fault : StatementFault} {place : Place} {rule : Option String}
    {table : String} {base : Nat} {pieces : List Piece}
    (h : readItems setting table base pieces = .error (.diagnostic ⟨.statement fault, place, rule⟩))
    (ofColumn : fault.OfColumn) :
    ∃ p ∈ pieces, trim p.text ≠ [] ∧ fault.Blames (trim p.text) ∧
      place = Place.atOffset setting.text (base + p.offset
        + (p.text.length - (trimStart p.text).length)) setting.source := by
  induction pieces with
  | nil => cases h
  | cons p pieces ih =>
    have further (h : readItems setting table base pieces =
        .error (.diagnostic ⟨.statement fault, place, rule⟩)) :
        ∃ q ∈ p :: pieces, trim q.text ≠ [] ∧ fault.Blames (trim q.text) ∧ place =
          Place.atOffset setting.text (base + q.offset
            + (q.text.length - (trimStart q.text).length)) setting.source := by
      obtain ⟨q, hq, blamed⟩ := ih h
      exact ⟨q, .tail _ hq, blamed⟩
    rw [readItems] at h
    split at h
    · cases h
      exact ofColumn.elim
    · rename_i ne
      split at h
      · exact further (Outcome.bind_result_error.1 h)
      · obtain h | ⟨column, -, h⟩ := Outcome.bind_error.1 h
        · obtain ⟨fault', blamed, same⟩ := readColumn_error h
          cases same
          exact ⟨p, .head _, fun none => ne (List.isEmpty_iff.2 none), blamed, rfl⟩
        · exact further (Outcome.bind_result_error.1 h)

/-- The head of a table statement ends with the parenthesis that it opens. -/
lemma endsIn_tableHead : tableHead.EndsIn '(' := by
  unfold tableHead
  refine .bind fun _ => .bind fun _ => .bind fun _ => .bind fun _ => ?_
  exact .bind fun _ => .bind fun _ => .bind fun _ => .bind fun _ => .bind fun _ => endsIn_char

/-- Keys are numbered, or one of them is not declared. -/
lemma numberKeys_error {undeclared : String → Outcome (List Column)} {position : Nat}
    {columns : List Column} {keys : List String} {e : Failure}
    (h : numberKeys undeclared position columns keys = .error e) :
    ∃ key ∈ keys, undeclared key = .error e := by
  fun_induction numberKeys undeclared position columns keys with
  | case1 => cases h
  | case2 position columns key keys => exact ⟨key, .head _, h⟩
  | case3 position columns key keys c found isKey ih =>
    obtain ⟨key', hk, he⟩ := ih h
    exact ⟨key', .tail _ hk, he⟩
  | case4 position columns key keys c found isKey ih =>
    obtain ⟨key', hk, he⟩ := ih h
    exact ⟨key', .tail _ hk, he⟩

/-- A fault of a column of a table is placed at an item of its statement. -/
lemma readTable_error {fault : StatementFault} {place : Place} {rule : Option String}
    {statement : List Char}
    (h : readTable setting statement = .error (.diagnostic ⟨.statement fault, place, rule⟩))
    (ofColumn : fault.OfColumn) :
    ∃ k declaration, IsItem statement k declaration ∧ fault.Blames declaration ∧
      place = Place.atOffset setting.text (setting.start + k) setting.source := by
  unfold readTable at h
  dsimp only at h
  split at h
  · cases h
    exact ofColumn.elim
  · rename_i written inside hh
    obtain ⟨head, hs⟩ := endsIn_tableHead _ _ (mem_of_first? hh)
    dsimp only at hs
    split at h
    · cases h
      exact ofColumn.elim
    · rename_i closing hc
      obtain ⟨body, after, hi, rfl⟩ : ∃ body after, inside = body ++ ')' :: after ∧
        closing = body.length + 1 := by
        obtain ⟨before, after, hb, rfl⟩ := closingParenFrom_some hc
        cases before with
        | nil => cases hb
        | cons c body =>
          cases hb
          exact ⟨body, after, rfl, by rw [List.length_cons]; omega⟩
      have taken : inside.take (body.length + 1 - 1) = body := by
        rw [hi, Nat.add_sub_cancel, List.take_left]
      have opening : statement.length - inside.length - 1 = head.length := by
        rw [hs, List.length_append, List.length_cons]
        omega
      rw [taken, opening] at h
      obtain h | ⟨items, -, h⟩ := Outcome.bind_error.1 h
      · obtain ⟨p, hp, ne, blamed, rfl⟩ := readItems_error h ofColumn
        refine ⟨_, _, hs ▸ hi ▸ isItem_of_piece hp ne, blamed, ?_⟩
        congr 1
        omega
      · split at h
        · cases h
          exact ofColumn.elim
        · obtain h | ⟨columns, -, h⟩ := Outcome.bind_error.1 h
          · obtain ⟨key, -, he⟩ := numberKeys_error h
            cases he
            exact ofColumn.elim
          · cases h

/-! ## Views -/

end Sql

/-- The failure is a fault of a column. -/
def Failure.OfColumn : Failure → Prop
  | .diagnostic ⟨.statement fault, _, _⟩ => fault.OfColumn
  | _ => False

namespace Sql

/-- Reading fails, if it does, for something else than a column. -/
abbrev SparesColumns {α : Type} (x : Outcome α) : Prop := x.FailsAs fun e => ¬ e.OfColumn

/-- The items of a select list are no fault of a column. -/
lemma readProjections_spares (view : String) (base : Nat) (pieces : List Piece) :
    SparesColumns (readProjections setting view base pieces) := by
  induction pieces with
  | nil => exact .ok _
  | cons p pieces ih =>
    rw [readProjections]
    split
    · exact .reject id
    · exact ih.bind fun more _ => .ok _

/-- A relation of a `FROM` clause is no fault of a column. -/
lemma readSource_spares (view : String) (segment : List Char) (offset : Nat) :
    SparesColumns (readSource setting view segment offset) := by
  unfold readSource
  dsimp only
  split
  · exact .reject id
  · split
    · exact .reject id
    · exact .ok _

/-- The relations of a piece are no fault of a column. -/
lemma readJoins_spares (view : String) (piece : List Char) (base : Nat) (isFirst : Bool)
    (start : Nat) (stops : List Nat) :
    SparesColumns (readJoins setting view piece base isFirst start stops) := by
  induction stops generalizing isFirst start with
  | nil => exact .ok _
  | cons stop stops ih =>
    rw [readJoins]
    exact (readSource_spares _ _ _).bind fun here _ => (ih _ _).bind fun more _ => .ok _

/-- A `FROM` clause is no fault of a column. -/
lemma readSources_spares (view : String) (base : Nat) (pieces : List Piece) :
    SparesColumns (readSources setting view base pieces) := by
  induction pieces with
  | nil => exact .ok _
  | cons p pieces ih =>
    rw [readSources]
    exact (readJoins_spares _ _ _ _ _ _).bind fun here _ => ih.bind fun more _ => .ok _

/-- The clauses of a query are no fault of a column. -/
lemma readClauses_spares (view : String) (select : List Char) (base : Nat) (clauses : List Clause) :
    SparesColumns (readClauses setting view select base clauses) := by
  induction clauses with
  | nil => exact .ok _
  | cons clause clauses ih =>
    have further (here : Origins) : SparesColumns (do
        let more ← readClauses setting view select base clauses
        .ok (here.append more)) := ih.bind fun more _ => .ok _
    rw [readClauses]
    dsimp only
    split
    · exact (readSources_spares _ _ _).bind fun here _ => further here
    · split
      · exact further _
      · exact further _

/-- A view statement is no fault of a column. -/
lemma readView_spares (statement : List Char) : SparesColumns (readView setting statement) := by
  unfold readView
  dsimp only
  split
  · exact .reject id
  · split
    · exact .reject id
    · split
      · exact .reject id
      · split
        · exact .reject id
        · split
          · exact .reject id
          · refine (readProjections_spares _ _ _).bind fun projections _ => ?_
            refine (readClauses_spares _ _ _ _).bind fun origins _ => ?_
            split
            · split
              · exact .reject id
              · exact .ok _
            · exact .ok _

/-! ## Files -/

/-- A fault of a column is placed at a declaration of one of the statements that it blames. -/
lemma readStatements_error {fault : StatementFault} {place : Place} {rule : Option String}
    {text : List Char} {source : Option String} {markers : List Marker} {pieces : List Piece}
    (h : readStatements text source markers pieces =
      .error (.diagnostic ⟨.statement fault, place, rule⟩))
    (ofColumn : fault.OfColumn) :
    ∃ p ∈ pieces, ∃ k declaration, IsItem (trim p.text) k declaration ∧ fault.Blames declaration ∧
      place = Place.atOffset text (p.offset + (p.text.length - (trimStart p.text).length) + k)
        source := by
  induction pieces with
  | nil => cases h
  | cons p pieces ih =>
    have further (h : readStatements text source markers pieces =
        .error (.diagnostic ⟨.statement fault, place, rule⟩)) :
        ∃ q ∈ p :: pieces, ∃ k declaration, IsItem (trim q.text) k declaration ∧
        fault.Blames declaration ∧
          place = Place.atOffset text (q.offset + (q.text.length - (trimStart q.text).length) + k)
            source := by
      obtain ⟨q, hq, blamed⟩ := ih h
      exact ⟨q, .tail _ hq, blamed⟩
    rw [readStatements] at h
    split at h
    · obtain h | ⟨table, -, h⟩ := Outcome.bind_error.1 h
      · obtain ⟨k, declaration, item, blamed, rfl⟩ := readTable_error h ofColumn
        exact ⟨p, .head _, k, declaration, item, blamed, rfl⟩
      · exact further (Outcome.bind_result_error.1 h)
    · obtain h | ⟨view, -, h⟩ := Outcome.bind_error.1 h
      · exact absurd ofColumn (readView_spares _ _ h)
      · exact further (Outcome.bind_result_error.1 h)
    · exact further h

/-- An item stands in a longer text as far on as the text does. -/
lemma IsItem.append {s item : List Char} {k : Nat} (h : IsItem s k item)
    (before after : List Char) :
    IsItem (before ++ (s ++ after)) (before.length + k) item := by
  obtain ⟨ne, trimmed, left, opening, pre, post, closing, right, rfl, rfl, ho, hc, blanks⟩ := h
  refine ⟨ne, trimmed, before ++ left, opening, pre, post, closing, right ++ after, ?_,
    ?_, ho, hc, blanks⟩
  · simp
  · simp only [List.length_append, Nat.add_assoc]

/-- From its offset on, a text reads like the item. -/
lemma IsItem.isPrefix {s item : List Char} {k : Nat} (h : IsItem s k item) : item <+: s.drop k := by
  obtain ⟨-, -, before, opening, pre, post, closing, after, rfl, rfl, -⟩ := h
  refine ⟨post ++ closing :: after, ?_⟩
  have length : before.length + 1 + pre.length = (before ++ opening :: pre).length := by
    simp [Nat.add_assoc, Nat.add_comm 1]
  have split : before ++ opening :: (pre ++ (item ++ (post ++ closing :: after))) =
      (before ++ opening :: pre) ++ (item ++ (post ++ closing :: after)) := by simp
  rw [length, split, List.drop_left]

/-- A file that cannot be read for a fault of a column is told so at the first
character of that column. -/
theorem readSchema_columnFault {text : List Char} {source : Option String}
    {fault : StatementFault} {place : Place} {rule : Option String}
    (h : readSchema text source = .error (.diagnostic ⟨.statement fault, place, rule⟩))
    (ofColumn : fault.OfColumn) :
    ∃ offset declaration,
      place = ⟨source, some ((text.take offset).count '\n' + 1), some (columnAt text offset),
        some offset⟩ ∧
      fault.Blames declaration ∧ IsItem (blankComments text) offset declaration ∧
      declaration <+: (blankComments text).drop offset ∧
      ∀ other, lineAt text other = lineAt text offset → columnAt text other = columnAt text offset →
      other = offset := by
  obtain ⟨p, hp, k, declaration, item, blamed, rfl⟩ := readStatements_error h ofColumn
  obtain ⟨before, after, whole, start⟩ := exists_statement hp
  have placed : IsItem (blankComments text) (before.length + k) declaration :=
    whole ▸ item.append before after
  rw [start] at placed
  exact ⟨_, declaration, rfl, blamed, placed, placed.isPrefix, fun other line column =>
    offset_unique line column⟩

namespace Places

/-- A table with a column of an unknown type behind a comment. -/
def places : List Char := "CREATE TABLE places (\n  id INT, -- key\n  at GEOMETRY\n);".toList

/-- The fault of the column `at` is placed in the third line and the third column. -/
theorem places_columnFault : ∃ offset declaration,
    (⟨some "p.sql", some 3, some 3, some 41⟩ : Place) =
      ⟨some "p.sql", some ((places.take offset).count '\n' + 1), some (columnAt places offset),
        some offset⟩ ∧
    (StatementFault.unknownType "GEOMETRY" "at" "places").Blames declaration ∧
    IsItem (blankComments places) offset declaration ∧
    declaration <+: (blankComments places).drop offset ∧
    ∀ other, lineAt places other = lineAt places offset →
    columnAt places other = columnAt places offset →
      other = offset := by
  have read : readSchema places (some "p.sql") = .error (.diagnostic
      ⟨.statement (.unknownType "GEOMETRY" "at" "places"), ⟨some "p.sql", some 3, some 3, some 41⟩,
        none⟩) := by
    decide +kernel
  exact readSchema_columnFault read trivial

end Places
end Sql
end Rulebook
