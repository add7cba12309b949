import Mathlib.Data.List.Nodup
import Mathlib.Data.List.Dedup
import Rulebook.Catalog.Compile
import Rulebook.Proofs.Catalog.Sound
import Rulebook.Proofs.Outcome

/-!
# Compiled catalogs are sound

What compiling a table (`compileTable_formed`) and a view (`compileView_formed`) gives is an entity
of its kind and domain whose fields have names of their own; adding an entity whose name is not
taken keeps the domains sound (`Progress.Sound.declare`). From these two facts the headline
`compileSchemas_sound` follows by going through the tables and then through the views.
-/

namespace Rulebook
open Sql Text

/-! ## Numbering -/

/-- Every field gets a number. -/
lemma Numbering.length_assignAfter (n : Numbering) (fields : List String) :
    ∀ last, (n.assignAfter last fields).length = fields.length := by
  induction fields with
  | nil => intro last; rfl
  | cons f fs ih =>
    intro last
    unfold assignAfter
    cases n.ordinal? f with
    | none => simp only [List.length_cons, ih]
    | some o => simp only [List.length_cons, ih]

/-- Every field of an entity gets a number. -/
lemma CompileSettings.length_ordinals (s : CompileSettings) (domain entity : String)
    (fields : List String) :
    (s.ordinals domain entity fields).length = fields.length :=
  Numbering.length_assignAfter _ _ _

/-! ## Single entities -/

/-- What compiling a statement gives: an entity of a kind in a domain, with names of their
own for its fields. -/
structure Entity.Formed (e : Entity) (kind : TargetKind) (domain : String) : Prop where
  kind_eq : e.kind = kind
  domain_eq : e.domain = domain
  fields : e.fieldNames.Nodup

/-- Names none of which repeats an earlier one up to case are distinct. -/
lemma firstRepeated?_none {names : List String} :
    ∀ {seen}, firstRepeated? seen names = none →
      names.Nodup ∧ ∀ n ∈ names, lower n.toList ∉ seen := by
  induction names with
  | nil => intro seen _; exact ⟨.nil, nofun⟩
  | cons n ns ih =>
    intro seen h
    unfold firstRepeated? at h
    split at h
    · cases h
    · rename_i hn
      obtain ⟨nd, fresh⟩ := ih h
      have hn : lower n.toList ∉ seen := by simpa using hn
      refine ⟨List.nodup_cons.2 ⟨?_, nd⟩, ?_⟩
      · intro hm
        exact fresh n hm (.head _)
      · intro m hm
        cases hm with
        | head => exact hn
        | tail _ hm => exact fun h => fresh m hm (.tail _ h)

/-- No name is reported as repeated exactly if the names are distinct. -/
lemma repeatedNames_isEmpty {names : List String} :
    (repeatedNames names).isEmpty = true ↔ names.Nodup := by
  have repeated : (names.filter fun n => 1 < names.count n) = [] ↔ names.Nodup := by
    rw [List.filter_eq_nil_iff, List.nodup_iff_count_le_one]
    constructor
    · intro h a
      by_cases ha : a ∈ names
      · have := h a ha
        simpa using this
      · rw [List.count_eq_zero_of_not_mem ha]
        exact Nat.zero_le 1
    · intro h a _
      have := h a
      simpa using this
  rw [← repeated]
  unfold repeatedNames
  cases names.filter fun n => 1 < names.count n with
  | nil => simp
  | cons a as => simp [List.eraseDups_cons, List.isEmpty_iff, ← List.length_eq_zero_iff]

/-- What is read off the first parts of pairs does not depend on the second ones. -/
lemma map_fst_zip_of_le {α β γ : Type} (f : α → γ) {l : List α} {m : List β}
    (h : l.length ≤ m.length) :
    (l.zip m).map (fun p => f p.1) = l.map f := by
  calc (l.zip m).map (fun p => f p.1) = ((l.zip m).map Prod.fst).map f := List.map_map.symm
    _ = l.map f := by rw [List.map_fst_zip h]

/-- The fields of a model have the names of its columns. -/
lemma fieldNames_tableEntity (settings : CompileSettings) (table : Table) (domain : String) :
    (tableEntity settings table domain).fieldNames = table.columns.map (·.name) := by
  simp only [tableEntity, Entity.fieldNames, List.map_map, Function.comp_def]
  rw [map_fst_zip_of_le]
  apply Nat.le_of_eq
  rw [CompileSettings.length_ordinals, List.length_map]

/-- A table compiles to its entity, if no column repeats the name of an earlier one. -/
lemma compileTable_ok {settings : CompileSettings} {table : Table} {domain : String} {e : Entity} :
    compileTable settings table domain = .ok e ↔
      firstRepeated? [] (table.columns.map (·.name)) = none ∧
      e = tableEntity settings table domain := by
  unfold compileTable
  cases firstRepeated? [] (table.columns.map (·.name)) with
  | some column => simp [reject]
  | none => simp [eq_comm]

/-- A compiled table is a model of its domain. -/
lemma compileTable_formed {settings : CompileSettings} {table : Table}
    {domain : String} {e : Entity} (h : compileTable settings table domain = .ok e) :
    e.Formed .model domain := by
  obtain ⟨hr, rfl⟩ := compileTable_ok.1 h
  refine ⟨rfl, rfl, ?_⟩
  rw [fieldNames_tableEntity]
  exact (firstRepeated?_none hr).1

/-- The fields of a view have the names of its columns. -/
lemma fieldNames_viewEntity (settings : CompileSettings) (scope : Scope) (domain : String)
    (columns : List Resolved) :
    (viewEntity settings scope domain columns).fieldNames = columns.map fun c =>
    c.name.getD "" := by
  simp only [viewEntity, Entity.fieldNames, List.map_map, Function.comp_def]
  rw [map_fst_zip_of_le (fun p : Resolved × String => p.2)]
  · exact List.map_snd_zip (Nat.le_of_eq (List.length_map _))
  · rw [List.length_zip, CompileSettings.length_ordinals]
    exact Nat.min_le_right _ _

/-- A view compiles to its entity, if its columns can be told and have names of their own. -/
lemma compileView_ok {settings : CompileSettings} {rs : Relations} {view : View} {domain : String}
    {e : Entity} :
    compileView settings rs view domain = .ok e ↔
      ∃ scope shown columns, Scope.ofView rs view domain = .ok scope ∧ scope.columns = .ok shown ∧
        listedColumns view shown = .ok columns ∧
        (repeatedNames (columns.map fun c => c.name.getD "")).isEmpty = true ∧
        e = viewEntity settings scope domain columns := by
  constructor
  · intro h
    obtain ⟨scope, hs, h⟩ := Outcome.bind_ok.1 h
    obtain ⟨shown, hw, h⟩ := Outcome.bind_ok.1 h
    obtain ⟨columns, hc, h⟩ := Outcome.bind_ok.1 h
    dsimp only at h
    split at h
    · rename_i hr
      exact ⟨scope, shown, columns, hs, hw, hc, hr, (Except.ok.inj h).symm⟩
    · cases h
  · rintro ⟨scope, shown, columns, hs, hw, hc, hr, rfl⟩
    refine Outcome.bind_ok.2 ⟨scope, hs,
      Outcome.bind_ok.2 ⟨shown, hw, Outcome.bind_ok.2 ⟨columns, hc, ?_⟩⟩⟩
    exact if_pos hr

/-- A compiled view is a view of its domain. -/
lemma compileView_formed {settings : CompileSettings} {rs : Relations}
    {view : View} {domain : String} {e : Entity} (h : compileView settings rs view domain = .ok e) :
    e.Formed .view domain := by
  obtain ⟨_, _, _, _, _, _, hr, rfl⟩ := compileView_ok.1 h
  refine ⟨rfl, rfl, ?_⟩
  rw [fieldNames_viewEntity]
  exact repeatedNames_isEmpty.1 hr

/-! ## Domains -/

namespace Domain

variable {d : Domain} {e : Entity} {k : TargetKind}

/-- A domain keeps its name when an entity is added. -/
@[simp] lemma name_add : (d.add e).name = d.name := by
  unfold add
  cases e.kind <;> rfl

/-- An added entity goes last among those of its kind. -/
lemma ofKind_add : (d.add e).ofKind k = d.ofKind k ++ if k = e.kind then [e] else [] := by
  unfold add
  cases h : e.kind <;> cases k <;> simp [ofKind]

/-- An added entity joins those that were there. -/
lemma mem_ofKind_add {o : Entity} :
    o ∈ (d.add e).ofKind k ↔ o ∈ d.ofKind k ∨ k = e.kind ∧ o = e := by
  rw [ofKind_add, List.mem_append]
  split <;> simp [*]

/-- A domain stays sound when an entity of a new name is added. -/
lemma Sound.add (hd : d.Sound) (hn : e.domain = d.name) (hf : e.fieldNames.Nodup)
    (fresh : ∀ o ∈ d.ofKind e.kind, o.name ≠ e.name) : (d.add e).Sound where
  domain_eq k o ho := by
    rw [name_add]
    obtain ho | ⟨_, rfl⟩ := mem_ofKind_add.1 ho
    · exact hd.domain_eq k o ho
    · exact hn
  kind_eq k o ho := by
    obtain ho | ⟨rfl, rfl⟩ := mem_ofKind_add.1 ho
    · exact hd.kind_eq k o ho
    · rfl
  names k := by
    rw [ofKind_add, List.map_append]
    by_cases h : k = e.kind
    · subst h
      rw [if_pos rfl]
      refine List.nodup_append.2 ⟨hd.names _, List.nodup_singleton _, ?_⟩
      intro n hn m hm eq
      obtain ⟨o, ho, rfl⟩ := List.mem_map.1 hn
      cases List.mem_singleton.1 hm
      exact fresh o ho eq
    · rw [if_neg h, List.map_nil, List.append_nil]
      exact hd.names k
  fields k o ho := by
    obtain ho | ⟨_, rfl⟩ := mem_ofKind_add.1 ho
    · exact hd.fields k o ho
    · exact hf

end Domain

/-- Adding an entity opens its domain, if it is not there yet. -/
lemma map_name_addEntity (e : Entity) (ds : List Domain) :
    (addEntity e ds).map (·.name) =
      if e.domain ∈ ds.map (·.name) then ds.map (·.name) else ds.map (·.name) ++ [e.domain] := by
  induction ds with
  | nil => simp [addEntity]
  | cons d ds ih =>
    unfold addEntity
    by_cases h : d.name = e.domain
    · rw [if_pos h, if_pos (List.mem_map.2 ⟨d, .head _, h⟩), List.map_cons,
        Domain.name_add, List.map_cons]
    · have hm : e.domain ∈ (d :: ds).map (·.name) ↔ e.domain ∈ ds.map (·.name) := by
        simp [Ne.symm h]
      rw [if_neg h, List.map_cons, ih]
      simp only [hm]
      split <;> rfl

/-- Sound domains stay sound when an entity of a new name is added. -/
lemma addEntity_sound {e : Entity} {ds : List Domain} (hs : ∀ d ∈ ds, d.Sound)
    (hf : e.fieldNames.Nodup) (fresh : ∀ d ∈ ds, d.name = e.domain → ∀ o ∈ d.ofKind e.kind,
      o.name ≠ e.name) :
    ∀ d ∈ addEntity e ds, d.Sound := by
  induction ds with
  | nil =>
    have empty : Domain.Sound { name := e.domain } := by
      constructor <;> (intro k; cases k <;> simp [Domain.ofKind])
    intro d hd
    cases List.mem_singleton.1 hd
    refine empty.add rfl hf fun o ho => ?_
    cases h : e.kind <;> simp [h, Domain.ofKind] at ho
  | cons d ds ih =>
    unfold addEntity
    split
    · rename_i h
      intro d' hd'
      cases hd' with
      | head => exact (hs d (.head _)).add h.symm hf (fresh d (.head _) h)
      | tail _ hd' => exact hs d' (.tail _ hd')
    · intro d' hd'
      cases hd' with
      | head => exact hs d (.head _)
      | tail _ hd' =>
        exact ih (fun x hx => hs x (.tail _ hx)) (fun x hx => fresh x (.tail _ hx)) d' hd'

/-! ## Schemas -/

/-- A catalog under construction is sound as far as it has come. -/
def Progress.Sound (p : Progress) : Prop := Catalog.Sound { domains := p.domains }

/-- An entity that is not declared yet has a new name in its domain. -/
lemma Progress.Sound.fresh {p : Progress} {e : Entity} (hp : p.Sound) (h : p.declares e = false) :
    ∀ d ∈ p.domains, d.name = e.domain → ∀ o ∈ d.ofKind e.kind, o.name ≠ e.name := by
  intro d hd hn o ho
  unfold declares at h
  cases hf : p.domains.find? fun d => d.name == e.domain with
  | none => exact absurd hn (by simpa using List.find?_eq_none.1 hf d hd)
  | some d' =>
    have hn' : d'.name = e.domain := by simpa using List.find?_some hf
    have eq := List.inj_on_of_nodup_map hp.names (List.mem_of_find?_eq_some hf) hd
      (hn'.trans hn.symm)
    subst eq
    have h : ∀ o ∈ d'.ofKind e.kind, o.name ≠ e.name := by simpa [hf] using h
    exact h o ho

/-- Declaring an entity keeps the catalog sound. -/
lemma Progress.Sound.declare {p p' : Progress} {e : Entity} {place : Place} (hp : p.Sound)
    (hf : e.fieldNames.Nodup) (h : p.declare e place = .ok p') : p'.Sound := by
  unfold Progress.declare at h
  split at h
  · cases h
  · rename_i hd
    cases h
    refine ⟨?_, addEntity_sound hp.domains hf (hp.fresh (by simpa using hd))⟩
    show ((addEntity e p.domains).map (·.name)).Nodup
    rw [map_name_addEntity]
    split
    · exact hp.names
    · rename_i hm
      refine List.nodup_append.2 ⟨hp.names, List.nodup_singleton _, ?_⟩
      intro n hn m hm' eq
      cases List.mem_singleton.1 hm'
      exact hm (eq ▸ hn)

/-- Tables are added soundly. -/
lemma Progress.Sound.addTables {settings : CompileSettings} {tables : List Table} :
    ∀ {p p' : Progress}, p.Sound → Rulebook.addTables settings p tables = .ok p' → p'.Sound := by
  induction tables with
  | nil => intro p p' hp h; cases h; exact hp
  | cons t ts ih =>
    intro p p' hp h
    obtain ⟨e, he, h⟩ := Outcome.bind_ok.1 h
    obtain ⟨q, hq, h⟩ := Outcome.bind_ok.1 h
    exact ih (hp.declare (compileTable_formed he).fields hq) h

/-- Views are added soundly. -/
lemma Progress.Sound.addViews {settings : CompileSettings} {views : List View} :
    ∀ {p p' : Progress}, p.Sound → Rulebook.addViews settings p views = .ok p' → p'.Sound := by
  induction views with
  | nil => intro p p' hp h; cases h; exact hp
  | cons v vs ih =>
    intro p p' hp h
    obtain ⟨e, he, h⟩ := Outcome.bind_ok.1 h
    obtain ⟨q, hq, h⟩ := Outcome.bind_ok.1 h
    exact ih (hp.declare (compileView_formed he).fields hq) h

/-- A compiled catalog is sound. -/
theorem compileSchemas_sound {settings : CompileSettings} {schemas : List Schema} {c : Catalog}
    (h : compileSchemas settings schemas = .ok c) : c.Sound := by
  obtain ⟨p, hp, h⟩ := Outcome.bind_ok.1 h
  obtain ⟨q, hq, h⟩ := Outcome.bind_ok.1 h
  cases h
  have empty : Progress.Sound {} := ⟨.nil, nofun⟩
  exact (empty.addTables hp).addViews hq

/-! ## Where entities come from -/

/-- Adding an entity adds just this one. -/
lemma mem_addEntity {e o : Entity} {ds : List Domain} :
    (∃ d ∈ addEntity e ds, ∃ k, o ∈ d.ofKind k) ↔ (∃ d ∈ ds, ∃ k, o ∈ d.ofKind k) ∨ o = e := by
  have added (d : Domain) : (∃ k, o ∈ (d.add e).ofKind k) ↔ (∃ k, o ∈ d.ofKind k) ∨ o = e := by
    simp only [Domain.mem_ofKind_add, exists_or, exists_and_right, exists_eq, true_and]
  induction ds with
  | nil =>
    have empty : ¬ ∃ k, o ∈ Domain.ofKind { name := e.domain } k := by
      rintro ⟨k, hk⟩
      cases k <;> cases hk
    simp only [addEntity, List.mem_singleton, exists_eq_left, added, empty,
      List.not_mem_nil, false_and, exists_false]
  | cons d ds ih =>
    unfold addEntity
    split
    · simp only [List.mem_cons, exists_eq_or_imp, added]
      exact or_right_comm
    · simp only [List.mem_cons, exists_eq_or_imp, ih]
      exact or_assoc.symm

/-- The entities of a catalog under construction. -/
def Progress.entities (p : Progress) : List Entity := Catalog.entities { domains := p.domains }

/-- Declaring an entity adds just this one. -/
lemma Progress.mem_declare {p q : Progress} {e o : Entity} {place : Place}
    (h : p.declare e place = .ok q) :
    o ∈ q.entities ↔ o ∈ p.entities ∨ o = e := by
  unfold Progress.declare at h
  split at h
  · cases h
  · cases h
    unfold entities
    rw [Catalog.mem_entities, Catalog.mem_entities]
    exact mem_addEntity

/-- An entity is compiled from a table, in the domain of the table. -/
def Sql.Table.Makes (settings : CompileSettings) (table : Table) (e : Entity) : Prop :=
  compileTable settings table (settings.domainOf table.name table.domain) = .ok e

/-- An entity is compiled from a view, in the domain of the view and with the
relations before it. -/
def Sql.View.Makes (settings : CompileSettings) (view : View) (e : Entity) : Prop :=
  ∃ rs, compileView settings rs view (settings.domainOf view.name view.domain) = .ok e

/-- Adding tables adds the entities that are compiled from them. -/
lemma mem_addTables {settings : CompileSettings} {tables : List Table} {o : Entity} :
    ∀ {p q}, addTables settings p tables = .ok q →
      (o ∈ q.entities ↔ o ∈ p.entities ∨ ∃ t ∈ tables, t.Makes settings o) := by
  induction tables with
  | nil => intro p q h; cases h; simp
  | cons t ts ih =>
    intro p q h
    obtain ⟨e, he, h⟩ := Outcome.bind_ok.1 h
    obtain ⟨p', hp', h⟩ := Outcome.bind_ok.1 h
    have made : t.Makes settings o ↔ o = e := by
      unfold Sql.Table.Makes
      rw [he, Except.ok.injEq, eq_comm]
    rw [ih h, Progress.mem_declare hp', List.exists_mem_cons_iff, made, or_assoc]

/-- Adding views keeps the entities that there are. -/
lemma mem_addViews_of_mem {settings : CompileSettings} {views : List View} {o : Entity} :
    ∀ {p q}, addViews settings p views = .ok q → o ∈ p.entities → o ∈ q.entities := by
  induction views with
  | nil => intro p q h ho; cases h; exact ho
  | cons v vs ih =>
    intro p q h ho
    obtain ⟨e, _, h⟩ := Outcome.bind_ok.1 h
    obtain ⟨p', hp', h⟩ := Outcome.bind_ok.1 h
    exact ih h ((Progress.mem_declare hp').2 (.inl ho))

/-- Adding views adds only entities that are compiled from them. -/
lemma mem_addViews {settings : CompileSettings} {views : List View} {o : Entity} :
    ∀ {p q}, addViews settings p views = .ok q → o ∈ q.entities →
      o ∈ p.entities ∨ ∃ v ∈ views, v.Makes settings o := by
  induction views with
  | nil => intro p q h ho; cases h; exact .inl ho
  | cons v vs ih =>
    intro p q h ho
    obtain ⟨e, he, h⟩ := Outcome.bind_ok.1 h
    obtain ⟨p', hp', h⟩ := Outcome.bind_ok.1 h
    rw [List.exists_mem_cons_iff]
    obtain ho | hv := ih h ho
    · obtain ho | rfl := (Progress.mem_declare hp').1 ho
      · exact .inl ho
      · exact .inr (.inl ⟨_, he⟩)
    · exact .inr (.inr hv)

/-- Every entity of a compiled catalog is compiled from a table or a view. -/
lemma compileSchemas_made {settings : CompileSettings} {schemas : List Schema}
    {c : Catalog} {o : Entity} (h : compileSchemas settings schemas = .ok c) (ho : o ∈ c.entities) :
    (∃ table, Sql.Table.Makes settings table o) ∨ ∃ view, Sql.View.Makes settings view o := by
  obtain ⟨p, hp, h⟩ := Outcome.bind_ok.1 h
  obtain ⟨q, hq, h⟩ := Outcome.bind_ok.1 h
  cases h
  obtain ho | ⟨v, _, hv⟩ := mem_addViews hq ho
  · obtain ho | ⟨t, _, ht⟩ := (mem_addTables hp).1 ho
    · cases ho
    · exact .inl ⟨t, ht⟩
  · exact .inr ⟨v, hv⟩

end Rulebook
