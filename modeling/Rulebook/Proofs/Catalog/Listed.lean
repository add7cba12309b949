import Rulebook.Proofs.Catalog.Scope
import Rulebook.Proofs.Sql.View

/-!
# Views that list the names of their columns

The names that a view lists are counted twice: against the items of the select list when the
statement is read, and against the columns that the items give when it is compiled. The view
compiles if both counts agree, and then its fields have the listed names and the types of the
columns (`readView_listed`). Without items that stand for several columns the two counts are one.
-/

namespace Rulebook
open Sql

/-- A view is told that it names so many columns and selects another number of them. -/
def Cause.MiscountsColumns (view : String) (named : Nat) : Cause → Prop
  | .statement (.columnCount v n selected) => v = view ∧ n = named ∧ selected ≠ named
  | .relation (.columnCount v n selected) => v = view ∧ n = named ∧ selected ≠ named
  | _ => False

/-- All that the type of a field says. -/
def Field.typing (f : Field) : ScalarType × Bool × Option Int × Option Int :=
  (f.type, f.nullable, f.precision, f.scale)

/-- All that the type of a column says. -/
def Resolved.typing (c : Resolved) : ScalarType × Bool × Option Int × Option Int :=
  (c.type, c.nullable, c.precision, c.scale)

/-- The fields of a view have the types of its columns. -/
lemma typing_viewEntity (settings : CompileSettings) (scope : Scope) (domain : String)
    (columns : List Resolved) :
    (viewEntity settings scope domain columns).fields.map Field.typing =
    columns.map Resolved.typing := by
  simp only [viewEntity, List.map_map]
  rw [show (Field.typing ∘ _) = fun p : (Resolved × String) × Int => p.1.1.typing from rfl,
    map_fst_zip_of_le (fun p : Resolved × String => p.1.typing), map_fst_zip_of_le Resolved.typing]
  · exact Nat.le_of_eq (List.length_map _).symm
  · rw [List.length_zip, CompileSettings.length_ordinals]
    exact Nat.min_le_right _ _

/-- Columns under listed names have these names, and their own types. -/
lemma renameColumns_facts {cs : List Resolved} {names : List String}
    (h : names.length = cs.length) :
    ((renameColumns cs names).map fun c => c.name.getD "") = names ∧
      (renameColumns cs names).map Resolved.typing = cs.map Resolved.typing := by
  induction cs generalizing names with
  | nil =>
    obtain rfl := List.eq_nil_of_length_eq_zero h
    exact ⟨rfl, rfl⟩
  | cons c cs ih =>
    cases names with
    | nil => cases h
    | cons n names =>
      obtain ⟨named, typed⟩ := ih (Nat.succ.inj h)
      rw [renameColumns, List.map_cons, List.map_cons, List.map_cons, named, typed]
      exact ⟨rfl, rfl⟩

section

variable {rs : Relations} {view : View} {domain : String} {scope : Scope} {names : List String}
  {cs : List Resolved}

/-- A view that lists other than as many names as it has columns is not compiled. -/
lemma compileView_miscounts (settings : CompileSettings) (listed : view.columnNames = some names)
    (known : Scope.ofView rs view domain = .ok scope) (columns : scope.columns = .ok cs)
    (h : names.length ≠ cs.length) :
    compileView settings rs view domain =
    refuseView view (.columnCount view.name names.length cs.length) := by
  unfold compileView listedColumns
  rw [known, Outcome.ok_bind, columns, Outcome.ok_bind, listed]
  dsimp only
  rw [if_pos (bne_iff_ne.2 h)]
  rfl

/-- A view that lists different names, one for each of its columns, is compiled with these names. -/
lemma compileView_listed (settings : CompileSettings) (listed : view.columnNames = some names)
    (distinct : names.Nodup) (known : Scope.ofView rs view domain = .ok scope)
    (columns : scope.columns = .ok cs) (h : names.length = cs.length) :
    ∃ e, compileView settings rs view domain = .ok e ∧ e.fieldNames = names ∧
      e.fields.map Field.typing = cs.map Resolved.typing := by
  obtain ⟨named, typed⟩ := renameColumns_facts h
  have renamed : listedColumns view cs = .ok (renameColumns cs names) := by
    unfold listedColumns
    rw [listed]
    dsimp only
    rw [if_neg (by simpa using h)]
  refine ⟨viewEntity settings scope domain (renameColumns cs names),
    compileView_ok.2 ⟨scope, cs, _, known, columns,
    renamed, repeatedNames_isEmpty.2 (named.symm ▸ distinct), rfl⟩, ?_, ?_⟩
  · rw [fieldNames_viewEntity, named]
  · rw [typing_viewEntity, typed]

/-- An item that does not stand for all columns of something is one column. -/
lemma columnsOf_single {item : Projection}
    (plain : Expression.star.first? item.expression.toList = none)
    (h : scope.columnsOf item = .ok cs) : cs.length = 1 := by
  unfold Scope.columnsOf at h
  rw [plain] at h
  obtain ⟨r, -, h⟩ := Outcome.bind_ok.1 h
  dsimp only at h
  split at h
  · cases h
    rfl
  · cases h

/-- Without items that stand for several columns, a view has as many columns as items. -/
lemma length_columns (plain : ∀ item ∈ scope.view.projections,
      Expression.star.first? item.expression.toList = none)
    (h : scope.columns = .ok cs) : cs.length = scope.view.projections.length := by
  obtain ⟨css, each, rfl⟩ := Outcome.map_ok.1 h
  have each := Outcome.mapM_ok.1 each
  have single : ∀ l ∈ css, l.length = 1 := by
    intro l hl
    obtain ⟨item, hi, one⟩ := exists_of_forall₂ each hl
    exact columnsOf_single (plain item hi) one
  rw [List.length_flatten, List.map_congr_left single, List.map_const',
    List.sum_replicate_nat, Nat.mul_one, each.length_eq]

/-- A view statement that lists different names is read and compiled if it lists as many as it has
items, and as many as these give columns. Then the fields have the names and the types of the
columns. Otherwise it is told that it names another number of columns than it selects. Items that do
not stand for several columns are as many as the columns. -/
theorem readView_listed {setting : Setting} {statement : List Char} (settings : CompileSettings)
    (reads : ReadsAs setting statement view) (listed : view.columnNames = some names)
    (distinct : names.Nodup) (known : Scope.ofView rs view domain = .ok scope)
    (columns : scope.columns = .ok cs) :
    ((∃ cause place, cause.MiscountsColumns view.name names.length ∧
      (readView setting statement >>= fun v => compileView settings rs v domain) =
      .error (.diagnostic ⟨cause, place, none⟩)) ↔
        names.length ≠ cs.length ∨ names.length ≠ view.projections.length) ∧
    (names.length = cs.length → names.length = view.projections.length →
      ∃ e, (readView setting statement >>= fun v => compileView settings rs v domain) = .ok e ∧
      e.fieldNames = names ∧
        e.fields.map Field.typing = cs.map Resolved.typing) ∧
    ((∀ item ∈ view.projections, Expression.star.first? item.expression.toList = none) →
      cs.length = view.projections.length) := by
  have whole (h : names.length = view.projections.length) :
      readView setting statement = .ok view := by
    refine readView_ok_iff.2 ⟨reads, fun names' listed' => ?_⟩
    cases listed.symm.trans listed'
    exact h
  refine ⟨⟨?_, ?_⟩, ?_, ?_⟩
  · rintro ⟨cause, place, -, failed⟩
    by_contra h
    rw [not_or, not_not, not_not] at h
    obtain ⟨e, compiled, -⟩ := compileView_listed settings listed distinct known columns h.1
    rw [whole h.2, Outcome.ok_bind, compiled] at failed
    cases failed
  · intro h
    by_cases items : names.length = view.projections.length
    · have other : names.length ≠ cs.length := h.resolve_right (not_not_intro items)
      rw [whole items, Outcome.ok_bind, compileView_miscounts settings listed known columns other]
      exact ⟨.relation (.columnCount view.name names.length cs.length), _,
        ⟨rfl, rfl, other.symm⟩, rfl⟩
    · rw [reads.readView_eq]
      unfold View.counted
      rw [listed]
      dsimp only
      rw [if_pos (bne_iff_ne.2 items)]
      exact ⟨.statement (.columnCount view.name names.length view.projections.length), _,
        ⟨rfl, rfl, Ne.symm items⟩, rfl⟩
  · intro h items
    rw [whole items, Outcome.ok_bind]
    exact compileView_listed settings listed distinct known columns h
  · obtain rfl := (Scope.of_ofView known).view_eq
    exact fun plain => length_columns plain columns

end

namespace Starred

deriving instance DecidableEq for Sql.Clause, Sql.Origins, Resolved

/-- A view of all columns of a relation, with a list of names. -/
def view (relation : String) (names : List String) (text : String) (star : Nat) : View where
  name := "v"
  domain := none
  projections := [{ expression := "*", givenName := none, offset := star }]
  sources := [{ table := relation, givenName := none }]
  columnNames := some names
  filters := []
  source := none
  text := text.toList
  offset := 0
  line := 1

/-- A view with one name for the one column of its relation. -/
def one : View := view "s" ["x"] "CREATE VIEW v (x) AS SELECT * FROM s" 28

/-- A view with two names for the two columns of its relation. -/
def two : View := view "t" ["x", "y"] "CREATE VIEW v (x, y) AS SELECT * FROM t" 31

/-- The statement of a view in a file of its own. -/
def setting (v : View) : Setting := { text := v.text, source := none, domain := none, start := 0 }

/-- Compiling into one domain. -/
def settings : CompileSettings := { defaultDomain := "default" }

/-- A relation with certain fields. -/
def relation (name : String) (fields : List Field) : Entity where
  kind := .model
  name := name
  domain := "default"
  sourceName := name
  resource := name
  fields := fields

/-- A field that may be missing. -/
def a : Field := { name := "a", type := .int32, nullable := true, ordinal := 1 }

/-- A field that may not be missing. -/
def b : Field := { name := "b", type := .string, nullable := false, ordinal := 2 }

/-- The view with one name compiles, and its field has the type of the column. -/
theorem one_listed : ∃ e,
    (readView (setting one) one.text >>= fun v =>
      compileView settings [relation "s" [a]] v "default") = .ok e ∧
      e.fieldNames = ["x"] ∧ e.fields.map Field.typing = [a.typing] := by
  have reads : ReadsAs (setting one) one.text one := (readView_ok_iff.1 (by decide +kernel)).1
  have columns : Scope.columns ⟨one, [("s", relation "s" [a])]⟩ =
      .ok [.ofField (relation "s" [a]) a] := by decide +kernel
  exact (readView_listed settings reads rfl (by decide) rfl columns).2.1 rfl rfl

/-- The view with two names has two columns, but its statement is told to select one. -/
theorem two_miscounted :
    ReadsAs (setting two) two.text two ∧ two.columnNames = some ["x", "y"] ∧
      (∃ scope cs, Scope.ofView [relation "t" [a, b]] two "default" = .ok scope ∧
        scope.columns = .ok cs ∧ cs.length = 2) ∧
      readView (setting two) two.text =
      .error (.diagnostic ⟨.statement (.columnCount "v" 2 1), ⟨none, some 1, some 1, some 0⟩,
        none⟩) := by
  have parts := @ReadsAs.intro (setting two) two.text "v".toList (some "x, y".toList)
    " SELECT * FROM t".toList
    "SELECT * FROM t".toList "* FROM t".toList 0 24 ⟨"FROM", 9, 13⟩ [] two.projections
    ⟨two.sources, []⟩
    (by decide +kernel) (by decide +kernel) (by decide +kernel) (by decide +kernel)
      (by decide +kernel) rfl
    (by decide +kernel) (by decide +kernel) (by decide +kernel)
  have columns : Scope.columns ⟨two, [("t", relation "t" [a, b])]⟩ =
      .ok [.ofField (relation "t" [a, b]) a, .ofField (relation "t" [a, b]) b] := by decide +kernel
  refine ⟨Eq.mp (congrArg (ReadsAs (setting two) two.text) (by decide +kernel)) parts, rfl,
    ⟨_, _, rfl, columns, rfl⟩, ?_⟩
  decide +kernel

end Starred
end Rulebook
