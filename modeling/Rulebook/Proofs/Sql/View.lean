import Rulebook.Proofs.Outcome
import Rulebook.Sql.View

/-!
# What a view statement reads as

The parts of a view statement (`ReadsAs`): its head with the names that it lists, the query without
the parentheses around it, the select list, and the clauses. A statement with these parts is read as
the view, provided that it lists as many names as items or no names at all (`ReadsAs.readView_eq`),
and no other statement is read (`readView_ok_iff`).
-/

namespace Rulebook.Sql
open Text

/-- A view statement has the parts of a view, whatever the number of names that it lists. -/
inductive ReadsAs (setting : Setting) (statement : List Char) : View → Prop
  | intro {written : List Char} {columns : Option (List Char)} {query select afterHead : List Char}
      {peeled base : Nat} {first : Clause} {later : List Clause} {projections : List Projection}
      {origins : Origins} (head : viewHead.first? statement = some ((written, columns), query))
      (peel : peelParens query.length (trim query) = (select, peeled))
      (start : base =
        setting.start + (statement.length - query.length)
        + (query.length - (trimStart query).length) + peeled)
      (selects : selectHead.first? select = some ((), afterHead))
      (clauses : clausesOf select = first :: later)
      (begins : first.keyword = "FROM")
      (alone : ((clausesOf select).any fun c =>
        ["UNION", "INTERSECT", "EXCEPT"].contains c.keyword) = false)
      (items : readProjections setting (String.ofList (unquote written))
        (base + (select.length - afterHead.length)) (splitTopLevel (· == ',')
        ((select.take first.start).drop (select.length - afterHead.length))) = .ok projections)
      (sources : readClauses setting (String.ofList (unquote written)) select base
        (clausesOf select) = .ok origins) :
    ReadsAs setting statement {
      name := String.ofList (unquote written)
      domain := setting.domain
      projections
      sources := origins.sources
      columnNames := (columns.filter fun cs => !cs.isEmpty).map fun cs =>
        (splitOn (· == ',') cs).map fun c => String.ofList (unquote c)
      filters := origins.filters
      source := setting.source
      text := setting.text
      offset := setting.start
      line := lineAt setting.text setting.start }

/-- The view, if it lists as many names as items or no names at all. -/
def View.counted (view : View) : Outcome View :=
  match view.columnNames with
  | some names =>
    if names.length != view.projections.length then
      reject (.statement (.columnCount view.name names.length view.projections.length))
        (Place.atOffset view.text view.offset view.source)
    else .ok view
  | none => .ok view

variable {setting : Setting} {statement : List Char} {view : View}

/-- A view statement is read part by part, and then its names are counted. -/
lemma ReadsAs.readView_eq (h : ReadsAs setting statement view) :
    readView setting statement = view.counted := by
  obtain ⟨head, peel, rfl, selects, clauses, begins, alone, items, sources⟩ := h
  rw [clauses] at alone sources
  unfold readView
  rw [head]
  dsimp only
  rw [peel]
  dsimp only
  rw [selects]
  dsimp only
  rw [clauses]
  dsimp only
  rw [begins, alone, items, Outcome.ok_bind, sources]
  rfl

/-- A view is accepted if it lists as many columns as it selects, or lists none. -/
lemma View.counted_ok {view' : View} : view'.counted = .ok view ↔
    view' = view ∧ ∀ names, view.columnNames = some names →
    names.length = view.projections.length := by
  unfold View.counted
  split
  · rename_i names listed
    split
    · rename_i other
      refine iff_of_false nofun ?_
      rintro ⟨rfl, counted⟩
      exact bne_iff_ne.1 other (counted names listed)
    · rename_i same
      rw [Except.ok.injEq]
      refine ⟨?_, And.left⟩
      rintro rfl
      refine ⟨rfl, fun names' listed' => ?_⟩
      cases listed.symm.trans listed'
      simpa using same
  · rename_i bare
    rw [Except.ok.injEq]
    refine ⟨?_, And.left⟩
    rintro rfl
    exact ⟨rfl, fun names listed => nomatch bare.symm.trans listed⟩

/-- The views that are read are those whose statements have their parts, with as
many names as items. -/
lemma readView_ok_iff : readView setting statement = .ok view ↔ ReadsAs setting statement view ∧
    ∀ names, view.columnNames = some names → names.length = view.projections.length := by
  constructor
  · intro h
    obtain ⟨view', reads⟩ : ∃ view', ReadsAs setting statement view' := by
      unfold readView at h
      dsimp only at h
      split at h
      · cases h
      · rename_i written columns query head
        split at h
        · cases h
        · rename_i afterHead selects
          split at h
          · cases h
          · rename_i first later clauses
            split at h
            · cases h
            · rename_i begins
              split at h
              · cases h
              · rename_i alone
                obtain ⟨projections, items, h⟩ := Outcome.bind_ok.1 h
                obtain ⟨origins, sources, -⟩ := Outcome.bind_ok.1 h
                exact ⟨_, .intro head rfl rfl selects clauses (by simpa using begins)
                  (Bool.eq_false_iff.2 alone)
                  items sources⟩
    rw [reads.readView_eq] at h
    obtain ⟨rfl, counted⟩ := View.counted_ok.1 h
    exact ⟨reads, counted⟩
  · rintro ⟨reads, counted⟩
    rw [reads.readView_eq]
    exact View.counted_ok.2 ⟨rfl, counted⟩

end Rulebook.Sql
