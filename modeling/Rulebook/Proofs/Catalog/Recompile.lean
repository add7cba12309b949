import Rulebook.Proofs.Catalog.Compile
import Rulebook.Proofs.Catalog.Numbering

/-!
# Compiling again

Every entity of a compiled catalog has the numbers that the catalog before gives it
(`compileSchemas_numbered`), and nothing else of the result depends on the catalog before
(`compileSchemas_again`). So a catalog that is compiled again with itself as the one before comes
out the same exactly if every entity has the numbers that are kept under its own name, which only a
view of the same name can prevent (`recompile_iff`).
-/

namespace Rulebook
open Sql Text

variable {s : CompileSettings} {previous : Option Catalog}

/-! ## Single entities -/

/-- The model of a table has the numbers that are kept under its name. -/
lemma tableEntity_numbered (table : Table) (domain : String) :
    (tableEntity s table domain).NumberedBy
      (previousNumbering s.previous domain (Naming.modelName table.name)) := by
  unfold Entity.NumberedBy
  rw [fieldNames_tableEntity]
  simp only [tableEntity, List.map_map]
  apply List.map_snd_zip
  apply Nat.le_of_eq
  rw [CompileSettings.length_ordinals, List.length_map]

/-- The entity of a view has the numbers that are kept under its name. -/
lemma viewEntity_numbered (scope : Scope) (domain : String) (columns : List Resolved) :
    (viewEntity s scope domain columns).NumberedBy
      (previousNumbering s.previous domain (Naming.viewName scope.view.name)) := by
  unfold Entity.NumberedBy
  rw [fieldNames_viewEntity]
  simp only [viewEntity, List.map_map]
  apply List.map_snd_zip
  apply Nat.le_of_eq
  rw [CompileSettings.length_ordinals, List.length_map, List.length_zip,
    List.length_map, Nat.min_self]

/-- With another catalog before, the fields of an entity get the same numbers. -/
def Entity.SameAfter (s : CompileSettings) (previous : Option Catalog) (e : Entity) : Prop :=
  { s with previous }.ordinals e.domain e.name e.fieldNames =
  s.ordinals e.domain e.name e.fieldNames

/-- A table makes the same model after another catalog that gives it the same numbers. -/
lemma compileTable_congr {table : Table} {domain : String} {e : Entity}
    (h : compileTable s table domain = .ok e) (same : e.SameAfter s previous) :
    compileTable { s with previous } table domain = .ok e := by
  obtain ⟨hr, rfl⟩ := compileTable_ok.1 h
  refine compileTable_ok.2 ⟨hr, ?_⟩
  unfold Entity.SameAfter at same
  rw [fieldNames_tableEntity] at same
  unfold tableEntity at same ⊢
  dsimp only at same ⊢
  rw [same]

/-- A view makes the same entity after another catalog that gives it the same numbers. -/
lemma compileView_congr {rs : Relations} {view : View} {domain : String} {e : Entity}
    (h : compileView s rs view domain = .ok e) (same : e.SameAfter s previous) :
    compileView { s with previous } rs view domain = .ok e := by
  obtain ⟨scope, shown, columns, hs, hw, hc, hr, rfl⟩ := compileView_ok.1 h
  refine compileView_ok.2 ⟨scope, shown, columns, hs, hw, hc, hr, ?_⟩
  unfold Entity.SameAfter at same
  rw [fieldNames_viewEntity] at same
  unfold viewEntity at same ⊢
  dsimp only at same ⊢
  rw [same]

/-! ## Catalogs -/

/-- Every entity of a compiled catalog has the numbers that the catalog before
keeps under its name. -/
lemma compileSchemas_numbered {schemas : List Schema} {c : Catalog}
    (h : compileSchemas s schemas = .ok c) :
    ∀ e ∈ c.entities, e.NumberedBy (previousNumbering s.previous e.domain e.name) := by
  intro e he
  obtain ⟨_, ht⟩ | ⟨_, _, hv⟩ := compileSchemas_made h he
  · obtain ⟨_, rfl⟩ := compileTable_ok.1 ht
    exact tableEntity_numbered _ _
  · obtain ⟨_, _, _, _, _, _, _, rfl⟩ := compileView_ok.1 hv
    exact viewEntity_numbered _ _ _

/-- Tables make the same models after another catalog that gives them the same numbers. -/
lemma addTables_congr {tables : List Table} :
    ∀ {p q}, addTables s p tables = .ok q →
      (∀ e ∈ q.entities, e.SameAfter s previous) →
      addTables { s with previous } p tables = .ok q := by
  induction tables with
  | nil => intro p q h _; exact h
  | cons t ts ih =>
    intro p q h same
    obtain ⟨e, he, h⟩ := Outcome.bind_ok.1 h
    obtain ⟨p', hp', h⟩ := Outcome.bind_ok.1 h
    have hm : e ∈ q.entities := (mem_addTables h).2 (.inl ((Progress.mem_declare hp').2 (.inr rfl)))
    exact Outcome.bind_ok.2 ⟨e, compileTable_congr he (same e hm),
      Outcome.bind_ok.2 ⟨p', hp', ih h same⟩⟩

/-- Views make the same entities after another catalog that gives them the same numbers. -/
lemma addViews_congr {views : List View} :
    ∀ {p q}, addViews s p views = .ok q →
      (∀ e ∈ q.entities, e.SameAfter s previous) →
      addViews { s with previous } p views = .ok q := by
  induction views with
  | nil => intro p q h _; exact h
  | cons v vs ih =>
    intro p q h same
    obtain ⟨e, he, h⟩ := Outcome.bind_ok.1 h
    obtain ⟨p', hp', h⟩ := Outcome.bind_ok.1 h
    have hm : e ∈ q.entities := mem_addViews_of_mem h ((Progress.mem_declare hp').2 (.inr rfl))
    exact Outcome.bind_ok.2 ⟨e, compileView_congr he (same e hm),
      Outcome.bind_ok.2 ⟨p', hp', ih h same⟩⟩

/-- Schemas make the same catalog after another catalog that gives its entities the same numbers. -/
lemma compileSchemas_again {schemas : List Schema} {c : Catalog}
    (h : compileSchemas s schemas = .ok c) (same : ∀ e ∈ c.entities, e.SameAfter s previous) :
    compileSchemas { s with previous } schemas = .ok c := by
  obtain ⟨p, hp, h⟩ := Outcome.bind_ok.1 h
  obtain ⟨q, hq, h⟩ := Outcome.bind_ok.1 h
  cases h
  have tables : ∀ e ∈ p.entities, e.SameAfter s previous :=
    fun e he => same e (mem_addViews_of_mem hq he)
  exact Outcome.bind_ok.2 ⟨p, addTables_congr hp tables,
    Outcome.bind_ok.2 ⟨q, addViews_congr hq same, rfl⟩⟩

/-- An entity has the numbers of its own numbering. -/
lemma Entity.numberedBy_self {e : Entity} (nd : e.fieldNames.Nodup) : e.NumberedBy (.ofEntity e) :=
  (Numbering.assignAfter_known fun _ hf => Numbering.ordinal?_of_mem nd hf).symm

/-- Compiled again after itself, a catalog comes out the same exactly if every model that a view
eclipses has the numbers that the view gives it. -/
lemma recompile_iff {schemas : List Schema} {c : Catalog} (h : compileSchemas s schemas = .ok c) :
    compileSchemas { s with previous := some c } schemas = .ok c ↔
      ∀ v ∈ c.entities, ∀ m ∈ c.entities, v.Eclipses m → m.NumberedBy (.ofEntity v) := by
  have sound := compileSchemas_sound h
  constructor
  · -- The second time, the model gets the numbers kept under its name, which are those of the view.
    intro again v hv m hm ec
    have numbered : m.NumberedBy (c.numbering m.domain m.name) := compileSchemas_numbered again m hm
    rw [← ec.domain_eq, ← ec.name_eq, sound.numbering_eq hv fun o _ =>
      ec.not_eclipses o] at numbered
    exact numbered
  · intro settled
    refine compileSchemas_again h fun e he => ?_
    have numbered : e.NumberedBy (c.numbering e.domain e.name) := by
      by_cases ec : ∃ v ∈ c.entities, v.Eclipses e
      · obtain ⟨v, hv, ec⟩ := ec
        rw [← ec.domain_eq, ← ec.name_eq, sound.numbering_eq hv fun o _ => ec.not_eclipses o]
        exact settled v hv e he ec
      · rw [sound.numbering_eq he fun v hv ev => ec ⟨v, hv, ev⟩]
        exact Entity.numberedBy_self (sound.fields_nodup he)
    exact numbered.symm.trans (compileSchemas_numbered h e he)

end Rulebook
