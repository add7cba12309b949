import Mathlib.Data.List.Perm.Basic
import Rulebook.Proofs.Catalog.Compile

/-!
# Tables in another order

Schemas whose tables are the same up to their order and to the files they stand in compile to the
same models and views (`compileSchemas_rearranged`), as long as no two tables of one domain have the
same name up to case.

What tables compile to is told by the list of their entities (`addTables_ok`): the domains hold them
by name (`entitiesIn_declareAll`), and the relations are these entities (`Relations.foldl_add`). So
tables in another order give catalogs under construction that are alike (`Progress.Alike`). A view
finds the same relations in either of them (`Relations.candidates_perm`), and what is compiled from
it keeps them alike (`Progress.Alike.addViews`).
-/

namespace Rulebook
open Sql Text

variable {s : CompileSettings}

/-! ## Entities by domain and kind -/

/-- The entities of a kind that domains hold under the name of one of them. -/
def entitiesIn (ds : List Domain) (domain : String) (k : TargetKind) : List Entity :=
  ((ds.find? fun d => d.name == domain).map (·.ofKind k)).getD []

/-- A domain that nothing was added to has no entities. -/
@[simp] lemma Domain.ofKind_empty (domain : String) (k : TargetKind) :
    Domain.ofKind { name := domain } k = [] := by
  cases k <;> rfl

/-- The entities of a name are those of the first domain that has it. -/
lemma entitiesIn_cons (d : Domain) (ds : List Domain) (domain : String) (k : TargetKind) :
    entitiesIn (d :: ds) domain k = if d.name = domain then d.ofKind k
    else entitiesIn ds domain k := by
  unfold entitiesIn
  by_cases h : d.name = domain
  · rw [List.find?_cons_of_pos (by simpa using h), if_pos h]
    rfl
  · rw [List.find?_cons_of_neg (by simpa using h), if_neg h]

/-- An added entity goes last among those of its domain and kind. -/
lemma entitiesIn_addEntity (e : Entity) (ds : List Domain) (domain : String) (k : TargetKind) :
    entitiesIn (addEntity e ds) domain k =
      entitiesIn ds domain k ++ if e.domain = domain ∧ e.kind = k then [e] else [] := by
  induction ds with
  | nil =>
    rw [addEntity, entitiesIn_cons, Domain.name_add, Domain.ofKind_add, Domain.ofKind_empty]
    by_cases hd : e.domain = domain <;> simp [hd, entitiesIn, eq_comm]
  | cons d ds ih =>
    unfold addEntity
    by_cases hd : d.name = e.domain
    · rw [if_pos hd, entitiesIn_cons, entitiesIn_cons, Domain.name_add, Domain.ofKind_add, hd]
      by_cases hn : e.domain = domain <;> simp [hn, eq_comm]
    · rw [if_neg hd, entitiesIn_cons, entitiesIn_cons, ih]
      by_cases hn : d.name = domain
      · have other : e.domain ≠ domain := fun h => hd (hn.trans h.symm)
        simp [hn, other]
      · rw [if_neg hn, if_neg hn]

/-- The domains of a sound catalog hold their own entities under their names. -/
lemma Catalog.Sound.entitiesIn_eq {c : Catalog} (hc : c.Sound) {d : Domain} (hd : d ∈ c.domains)
    (k : TargetKind) :
    entitiesIn c.domains d.name k = d.ofKind k := by
  have found : c.domains.find? (fun x => x.name == d.name) = some d := hc.domain?_name hd
  unfold entitiesIn
  rw [found]
  rfl

/-- Adding an entity names its domain, and no other one that was not there. -/
lemma mem_name_addEntity {e : Entity} {ds : List Domain} {n : String} :
    n ∈ (addEntity e ds).map (·.name) ↔ n ∈ ds.map (·.name) ∨ n = e.domain := by
  rw [map_name_addEntity]
  by_cases h : e.domain ∈ ds.map (·.name)
  · rw [if_pos h]
    constructor
    · exact .inl
    · rintro (hn | rfl)
      · exact hn
      · exact h
  · rw [if_neg h, List.mem_append, List.mem_singleton]

/-! ## Declarations -/

/-- Two entities of one kind in one domain have the same name. -/
def Entity.Clashes (e o : Entity) : Prop := e.domain = o.domain ∧ e.kind = o.kind ∧ e.name = o.name

/-- Clashing is symmetric. -/
lemma Entity.Clashes.symm {e o : Entity} (h : e.Clashes o) : o.Clashes e :=
  ⟨h.1.symm, h.2.1.symm, h.2.2.symm⟩

namespace Progress

variable {p q : Progress} {e o : Entity} {es : List Entity} {place : Place}

/-- A catalog under construction with one more entity. -/
def adding (p : Progress) (e : Entity) : Progress := ⟨addEntity e p.domains, p.relations.add e⟩

/-- An entity is declared if its name is not taken. -/
lemma declare_ok : p.declare e place = .ok q ↔ p.declares e = false ∧ q = p.adding e := by
  unfold declare adding
  cases p.declares e <;> simp [reject, eq_comm]

/-- A catalog under construction declares an entity if it has one of its domain, kind and name. -/
lemma declares_eq_true :
    p.declares e = true ↔ ∃ o ∈ entitiesIn p.domains e.domain e.kind, o.name = e.name := by
  have eq : p.declares e = (entitiesIn p.domains e.domain e.kind).any fun o =>
      o.name == e.name := by
    unfold declares entitiesIn
    cases p.domains.find? fun d => d.name == e.domain <;> rfl
  rw [eq, List.any_eq_true]
  simp only [beq_iff_eq]

/-- After an entity is added, its name is taken too. -/
lemma declares_adding : (p.adding e).declares o = true ↔ p.declares o = true ∨ e.Clashes o := by
  rw [declares_eq_true, declares_eq_true]
  simp only [adding, entitiesIn_addEntity, List.mem_append, or_and_right, exists_or]
  refine or_congr_right ?_
  constructor
  · rintro ⟨x, hx, hn⟩
    split at hx
    · rename_i h
      cases List.mem_singleton.1 hx
      exact ⟨h.1, h.2, hn⟩
    · cases hx
  · rintro ⟨hd, hk, hn⟩
    exact ⟨e, by rw [if_pos ⟨hd, hk⟩]; exact List.mem_singleton.2 rfl, hn⟩

/-- None of several entities has a name that is taken, or that another one of them has. -/
def Admits (p : Progress) (es : List Entity) : Prop :=
  (∀ e ∈ es, p.declares e = false) ∧ es.Pairwise fun e o => ¬ e.Clashes o

/-- Entities are admitted one after the other. -/
lemma admits_cons : p.Admits (e :: es) ↔ p.declares e = false ∧ (p.adding e).Admits es := by
  have taken (o : Entity) : (p.adding e).declares o = false ↔
      p.declares o = false ∧ ¬ e.Clashes o := by
    rw [← Bool.not_eq_true, declares_adding, not_or, Bool.not_eq_true]
  unfold Admits
  simp only [List.forall_mem_cons, List.pairwise_cons, taken, forall₂_and]
  tauto

/-- Which entities are admitted does not depend on their order. -/
lemma Admits.perm {es' : List Entity} (h : p.Admits es) (perm : es.Perm es') : p.Admits es' := by
  refine ⟨fun e he => h.1 e (perm.mem_iff.2 he), ?_⟩
  exact (perm.pairwise_iff fun clear clash => clear clash.symm).1 h.2

/-- A catalog under construction with several more entities. -/
def addingAll (p : Progress) (es : List Entity) : Progress := es.foldl adding p

/-- Several entities go last among those of their domains and kinds. -/
lemma entitiesIn_addingAll (domain : String) (k : TargetKind) :
    ∀ {p : Progress}, entitiesIn (p.addingAll es).domains domain k =
      entitiesIn p.domains domain k ++ es.filter fun e => e.domain = domain ∧ e.kind = k := by
  induction es with
  | nil => intro p; exact (List.append_nil _).symm
  | cons e es ih =>
    intro p
    have step : entitiesIn (p.addingAll (e :: es)).domains domain k = _ := ih (p := p.adding e)
    rw [step, adding, entitiesIn_addEntity, List.append_assoc, List.filter_cons]
    by_cases h : e.domain = domain ∧ e.kind = k <;> simp [h]

/-- The domains of several entities are opened. -/
lemma mem_name_addingAll {n : String} :
    ∀ {p : Progress}, n ∈ (p.addingAll es).domains.map (·.name) ↔
      n ∈ p.domains.map (·.name) ∨ ∃ e ∈ es, n = e.domain := by
  induction es with
  | nil => intro p; simp [addingAll]
  | cons e es ih =>
    intro p
    have step : n ∈ (p.addingAll (e :: es)).domains.map (·.name) ↔ _ := ih (p := p.adding e)
    rw [step, adding, mem_name_addEntity, List.exists_mem_cons_iff, or_assoc]

/-- The relations of several entities are added one after the other. -/
lemma relations_addingAll :
    ∀ {p : Progress}, (p.addingAll es).relations = es.foldl (fun rs e => rs.add e) p.relations := by
  induction es with
  | nil => intro p; rfl
  | cons e es ih => intro p; exact ih (p := p.adding e)

end Progress

/-- Tables are added exactly if each one makes an entity and none of these has a name that is taken;
they are added in their order. -/
lemma addTables_ok {tables : List Table} :
    ∀ {p q : Progress}, addTables s p tables = .ok q ↔
      ∃ es, List.Forall₂ (fun t e => t.Makes s e) tables es ∧ p.Admits es ∧ q = p.addingAll es := by
  induction tables with
  | nil =>
    intro p q
    constructor
    · rintro ⟨⟩
      exact ⟨[], .nil, ⟨nofun, .nil⟩, rfl⟩
    · rintro ⟨_, ⟨⟩, _, rfl⟩
      rfl
  | cons t ts ih =>
    intro p q
    constructor
    · intro h
      obtain ⟨e, he, h⟩ := Outcome.bind_ok.1 h
      obtain ⟨p', hp', h⟩ := Outcome.bind_ok.1 h
      obtain ⟨new, rfl⟩ := Progress.declare_ok.1 hp'
      obtain ⟨es, made, admitted, rfl⟩ := ih.1 h
      exact ⟨e :: es, .cons he made, Progress.admits_cons.2 ⟨new, admitted⟩, rfl⟩
    · rintro ⟨_, made, admitted, rfl⟩
      cases made with
      | cons he made =>
        obtain ⟨new, admitted⟩ := Progress.admits_cons.1 admitted
        exact Outcome.bind_ok.2 ⟨_, he, Outcome.bind_ok.2
          ⟨p.adding _, Progress.declare_ok.2 ⟨new, rfl⟩, ih.2 ⟨_, made, admitted, rfl⟩⟩⟩

/-! ## Relations -/

/-- A relation is known by its domain and its name in small letters. -/
def Entity.key (e : Entity) : String × String := (e.domain, e.sourceName)

namespace Relations

variable {rs rs' : Relations} {e : Entity}

/-- No two relations of one domain have the same name. -/
def Distinct (rs : Relations) : Prop := (rs.map (·.key)).Nodup

/-- Two entities are the same relation if they have the same key. -/
lemma sameRelation_iff {a b : Entity} : sameRelation a b = true ↔ a.key = b.key := by
  simp [sameRelation, Entity.key]

/-- An added relation stands beside those of other names. -/
lemma add_perm (h : rs.Distinct) : (add e rs).Perm (e :: rs.filter fun r => r.key ≠ e.key) := by
  induction rs with
  | nil => rfl
  | cons r rest ih =>
    obtain ⟨new, h⟩ := List.nodup_cons.1 h
    unfold add
    by_cases hr : r.key = e.key
    · -- No other relation has the name of the one that is replaced.
      have others : rest.filter (fun x => x.key ≠ e.key) = rest := by
        refine List.filter_eq_self.2 fun x hx => ?_
        have : x.key ≠ e.key := fun hk => new (List.mem_map.2 ⟨x, hx, hk.trans hr.symm⟩)
        simpa using this
      rw [if_pos (sameRelation_iff.2 hr), List.filter_cons_of_neg (by simpa using hr), others]
    · rw [if_neg (by rwa [sameRelation_iff]), List.filter_cons_of_pos (by simpa using hr)]
      exact ((ih h).cons r).trans (.swap e r _)

/-- Relations stay distinct when one is added. -/
lemma Distinct.add (h : rs.Distinct) : (Relations.add e rs).Distinct := by
  refine ((add_perm h).map _).nodup_iff.2
    (List.nodup_cons.2 ⟨?_, (List.filter_sublist.map _).nodup h⟩)
  intro hm
  obtain ⟨x, hx, hk⟩ := List.mem_map.1 hm
  have other : x.key ≠ e.key := by simpa using (List.mem_filter.1 hx).2
  exact other hk

/-- Relations with names of their own are added one after the other. -/
lemma foldl_add {es : List Entity} :
    ∀ {rs : Relations}, Distinct (rs ++ es) → es.foldl (fun rs e => add e rs) rs = rs ++ es := by
  have new {e : Entity} : ∀ {rs : Relations}, e.key ∉ rs.map (·.key) → add e rs = rs ++ [e] := by
    intro rs
    induction rs with
    | nil => intro _; rfl
    | cons r rest ih =>
      intro h
      obtain ⟨hr, hrest⟩ : e.key ≠ r.key ∧ e.key ∉ rest.map (·.key) := by simpa using h
      unfold add
      rw [if_neg (by rw [sameRelation_iff]; exact hr.symm), ih hrest, List.cons_append]
  induction es with
  | nil => intro rs _; exact (List.append_nil _).symm
  | cons e es ih =>
    intro rs h
    have apart : e.key ∉ rs.map (·.key) := by
      unfold Distinct at h
      rw [List.map_append] at h
      exact fun hm => (List.nodup_append.1 h).2.2 _ hm _ (.head _) rfl
    rw [List.foldl_cons, new apart, ih (by simpa using h), List.append_assoc]
    rfl

/-- In distinct relations the order does not matter for what a view may mean by a name, if
it is one relation. -/
lemma candidates_perm (h : rs.Distinct) (perm : rs.Perm rs') {domain name : String}
    (one : rs.candidates domain name = [e]) : rs'.candidates domain name = [e] := by
  unfold candidates at one ⊢
  dsimp only at one ⊢
  generalize String.ofList (lower name.toList) = n at one ⊢
  cases found : rs.find? fun r => r.domain == domain && r.sourceName == n with
  | some r =>
    have hr : r.key = (domain, n) := by simpa [Entity.key] using List.find?_some found
    have hm := List.mem_of_find?_eq_some found
    cases found' : rs'.find? fun r => r.domain == domain && r.sourceName == n with
    | none =>
      have := List.find?_eq_none.1 found' r (perm.mem_iff.1 hm)
      simp [Entity.key] at hr
      simp [hr] at this
    | some r' =>
      have hr' : r'.key = (domain, n) := by simpa [Entity.key] using List.find?_some found'
      have hm' := perm.mem_iff.2 (List.mem_of_find?_eq_some found')
      rw [found] at one
      rw [← one, List.inj_on_of_nodup_map h hm' hm (hr'.trans hr.symm)]
  | none =>
    have found' : rs'.find? (fun r => r.domain == domain && r.sourceName == n) = none :=
      List.find?_eq_none.2 fun x hx => List.find?_eq_none.1 found x (perm.mem_iff.2 hx)
    rw [found] at one
    rw [found']
    have perm := perm.filter fun r => r.sourceName == n
    rw [show rs.filter _ = [e] from one] at perm
    exact List.perm_singleton.1 perm.symm

end Relations

namespace Scope

variable {rs rs' : Relations} {view : View} {domain : String}

/-- A source means a relation if the relation is the only candidate. -/
lemma resolveSource_ok {source : Source} {r : Entity} :
    resolveSource rs view domain source = .ok r ↔ rs.candidates domain source.table = [r] := by
  unfold resolveSource
  split
  · rename_i h
    simp [h, reject, Rulebook.reject]
  · rename_i h
    simp [h]
  · rename_i h _
    constructor
    · intro h
      cases h
    · intro one
      exact absurd one (by grind)

/-- In distinct relations the order does not matter for what a view knows. -/
lemma addSources_perm (h : rs.Distinct) (perm : rs.Perm rs') {sources : List Source}
    {names' : List (String × Entity)} :
    ∀ {names}, addSources rs view domain names sources = .ok names' →
      addSources rs' view domain names sources = .ok names' := by
  induction sources with
  | nil => intro names hn; exact hn
  | cons source more ih =>
    intro names hn
    obtain ⟨r, hr, hn⟩ := Outcome.bind_ok.1 hn
    have one := Relations.candidates_perm h perm (resolveSource_ok.1 hr)
    exact Outcome.bind_ok.2 ⟨r, resolveSource_ok.2 one, ih hn⟩

end Scope

/-- In distinct relations the order does not matter for what a view compiles to. -/
lemma compileView_perm {rs rs' : Relations} (h : rs.Distinct) (perm : rs.Perm rs')
    {view : View} {domain : String} {e : Entity} (made : compileView s rs view domain = .ok e) :
    compileView s rs' view domain = .ok e := by
  obtain ⟨scope, shown, columns, hs, rest⟩ := compileView_ok.1 made
  obtain ⟨names, hn, rfl⟩ := Outcome.map_ok.1 hs
  exact compileView_ok.2 ⟨_, shown, columns,
    Outcome.map_ok.2 ⟨names, Scope.addSources_perm h perm hn, rfl⟩, rest⟩

/-! ## Catalogs that are alike -/

/-- Two catalogs under construction hold the same, up to the order of domains,
models and relations. -/
structure Progress.Alike (p q : Progress) : Prop where
  names : ∀ n, n ∈ p.domains.map (·.name) ↔ n ∈ q.domains.map (·.name)
  models : ∀ n, (entitiesIn p.domains n .model).Perm (entitiesIn q.domains n .model)
  views : ∀ n, entitiesIn p.domains n .view = entitiesIn q.domains n .view
  relations : p.relations.Perm q.relations
  distinct : p.relations.Distinct

namespace Progress

variable {p p' q : Progress}

/-- Models in another order give catalogs that are alike, if they are distinct relations. -/
lemma alike_addingAll {es es' : List Entity} (perm : es.Perm es') (distinct : Relations.Distinct es)
    (models : ∀ e ∈ es, e.kind = .model) : (addingAll {} es).Alike (addingAll {} es') := by
  have relations {es : List Entity} (h : Relations.Distinct es) :
      (addingAll {} es).relations = es :=
    relations_addingAll.trans (Relations.foldl_add h)
  have distinct' : Relations.Distinct es' := (perm.map _).nodup_iff.1 distinct
  have noView {es : List Entity} (h : ∀ e ∈ es, e.kind = .model) (n : String) :
      es.filter (fun e => e.domain = n ∧ e.kind = .view) = [] :=
    List.filter_eq_nil_iff.2 fun e he => by simp [h e he]
  constructor
  case names =>
    intro n
    simp only [mem_name_addingAll, perm.mem_iff]
  case models =>
    intro n
    rw [entitiesIn_addingAll, entitiesIn_addingAll]
    exact (perm.filter _).append_left _
  case views =>
    intro n
    rw [entitiesIn_addingAll, entitiesIn_addingAll, noView models,
      noView fun e he => models e (perm.mem_iff.2 he)]
  case relations =>
    rwa [relations distinct, relations distinct']
  case distinct =>
    rwa [relations distinct]

/-- Adding one and the same entity keeps catalogs alike. -/
lemma Alike.adding (h : p.Alike p') (e : Entity) : (p.adding e).Alike (p'.adding e) where
  names n := by
    unfold Progress.adding
    rw [mem_name_addEntity, mem_name_addEntity, h.names]
  models n := by
    unfold Progress.adding
    rw [entitiesIn_addEntity, entitiesIn_addEntity]
    exact (h.models n).append_right _
  views n := by
    unfold Progress.adding
    rw [entitiesIn_addEntity, entitiesIn_addEntity, h.views]
  relations := by
    have distinct' : p'.relations.Distinct := (h.relations.map _).nodup_iff.1 h.distinct
    refine (Relations.add_perm h.distinct).trans (.trans ?_ (Relations.add_perm distinct').symm)
    exact (h.relations.filter _).cons e
  distinct := h.distinct.add

/-- The same views can be added to catalogs that are alike, which keeps them alike. -/
lemma Alike.addViews {views : List View} :
    ∀ {p p' q : Progress}, p.Alike p' → Rulebook.addViews s p views = .ok q →
      ∃ q', Rulebook.addViews s p' views = .ok q' ∧ q.Alike q' := by
  induction views with
  | nil =>
    intro p p' q h hq
    cases hq
    exact ⟨p', rfl, h⟩
  | cons v vs ih =>
    intro p p' q h hq
    obtain ⟨e, he, hq⟩ := Outcome.bind_ok.1 hq
    obtain ⟨o, ho, hq⟩ := Outcome.bind_ok.1 hq
    obtain ⟨new, rfl⟩ := declare_ok.1 ho
    have kind : e.kind = .view := (compileView_formed he).kind_eq
    have new' : p'.declares e = false := by
      rw [← Bool.not_eq_true, declares_eq_true, kind, ← h.views, ← kind,
        ← declares_eq_true, Bool.not_eq_true]
      exact new
    obtain ⟨q', hq', alike⟩ := ih (h.adding e) hq
    refine ⟨q', ?_, alike⟩
    exact Outcome.bind_ok.2 ⟨e, compileView_perm h.distinct h.relations he,
      Outcome.bind_ok.2 ⟨_, declare_ok.2 ⟨new', rfl⟩, hq'⟩⟩

end Progress

/-! ## Tables in another order -/

/-- A table without the place where it stands. -/
def Sql.Table.unplaced (t : Table) : Table := { t with source := none, line := 0 }

/-- The domain that a table goes to. -/
def Sql.Table.domainIn (s : CompileSettings) (t : Table) : String := s.domainOf t.name t.domain

/-- The entity that a table makes does not depend on the place of the table. -/
lemma Sql.Table.makes_unplaced {t : Table} {e : Entity} : t.unplaced.Makes s e ↔ t.Makes s e := by
  unfold Makes
  rw [compileTable_ok, compileTable_ok]
  rfl

/-- The entity of a table is a relation of its domain and name. -/
lemma Sql.Table.Makes.key_eq {t : Table} {e : Entity} (h : t.Makes s e) :
    e.key = (t.domainIn s, String.ofList (lower t.name.toList)) := by
  obtain ⟨_, rfl⟩ := compileTable_ok.1 h
  rfl

/-- The tables of no domain have the same name up to case. -/
def TablesApart (s : CompileSettings) (tables : List Table) : Prop :=
  tables.Pairwise fun t u => t.domainIn s = u.domainIn s → lower t.name.toList ≠ lower u.name.toList

/-- The entities of tables that are apart are distinct relations. -/
lemma TablesApart.distinct {tables : List Table} {es : List Entity} (apart : TablesApart s tables)
    (made : List.Forall₂ (fun t e => t.Makes s e) tables es) : Relations.Distinct es := by
  have keys : es.map (·.key) = tables.map fun t =>
      (t.domainIn s, String.ofList (lower t.name.toList)) := by
    induction made with
    | nil => rfl
    | cons he _ ih =>
      rw [List.map_cons, List.map_cons, he.key_eq, ih (List.pairwise_cons.1 apart).2]
  unfold Relations.Distinct
  rw [keys, List.Nodup, List.pairwise_map]
  refine apart.imp fun {t u} clear eq => ?_
  obtain ⟨hd, hn⟩ := Prod.mk.inj eq
  exact clear hd (String.ofList_injective hn)

/-- Tables in another order make catalogs that are alike. -/
lemma addTables_perm {tables tables' : List Table}
    (perm : (tables.map Table.unplaced).Perm (tables'.map Table.unplaced))
    (apart : TablesApart s tables) {p : Progress} (h : addTables s {} tables = .ok p) :
    ∃ p', addTables s {} tables' = .ok p' ∧ p.Alike p' := by
  obtain ⟨es, made, admitted, rfl⟩ := addTables_ok.1 h
  have unplaced : List.Forall₂ (fun t e => t.Makes s e) (tables.map Table.unplaced) es :=
    List.forall₂_map_left_iff.2 (made.imp fun _ _ => Table.makes_unplaced.2)
  obtain ⟨es', made', perm⟩ := List.perm_comp_forall₂ perm.symm unplaced
  have made' : List.Forall₂ (fun t e => t.Makes s e) tables' es' :=
    (List.forall₂_map_left_iff.1 made').imp fun _ _ => Table.makes_unplaced.1
  have models : ∀ e ∈ es, e.kind = .model := by
    intro e he
    obtain ⟨t, _, ht⟩ := exists_of_forall₂ made he
    exact (compileTable_formed ht).kind_eq
  exact ⟨_, addTables_ok.2 ⟨es', made', admitted.perm perm.symm, rfl⟩,
    Progress.alike_addingAll perm.symm (apart.distinct made) models⟩

/-- Two domains of one name hold the same models, in any order, and the same views. -/
structure Domain.Rearranged (d d' : Domain) : Prop where
  name : d.name = d'.name
  models : d.models.Perm d'.models
  views : d.views = d'.views

/-- Two catalogs hold the same models and views: only the order of domains and of models within a
domain may differ. -/
structure Catalog.Rearranged (c c' : Catalog) : Prop where
  version : c.version = c'.version
  domains : ∃ ds, List.Forall₂ Domain.Rearranged c.domains ds ∧ ds.Perm c'.domains

/-- Catalogs that are alike hold the same models and views. -/
lemma Progress.Alike.rearranged {p p' : Progress} (h : p.Alike p')
    (hp : Catalog.Sound { domains := p.domains }) (hp' : Catalog.Sound { domains := p'.domains }) :
    Catalog.Rearranged { domains := p.domains } { domains := p'.domains } := by
  have names : (p.domains.map (·.name)).Perm (p'.domains.map (·.name)) :=
    (List.perm_ext_iff_of_nodup hp.names hp'.names).2 h.names
  have own : List.Forall₂ (fun n d => d.name = n) (p'.domains.map (·.name)) p'.domains :=
    List.forall₂_map_left_iff.2 (List.forall₂_same.2 fun _ _ => rfl)
  obtain ⟨ds, same, perm⟩ := List.perm_comp_forall₂ names own
  refine ⟨rfl, ds, ?_, perm⟩
  have same : List.Forall₂ (fun d d' => d'.name = d.name) p.domains ds :=
    List.forall₂_map_left_iff.1 same
  obtain ⟨length, zip⟩ := List.forall₂_iff_zip.1 same
  refine List.forall₂_iff_zip.2 ⟨length, fun {d d'} hz => ?_⟩
  obtain ⟨hd, hd'⟩ := List.of_mem_zip hz
  have name := zip hz
  have entities (k : TargetKind) : entitiesIn p.domains d.name k = d.ofKind k :=
    hp.entitiesIn_eq hd k
  have entities' (k : TargetKind) : entitiesIn p'.domains d.name k = d'.ofKind k :=
    name ▸ hp'.entitiesIn_eq (perm.mem_iff.1 hd') k
  constructor
  case name => exact name.symm
  case models =>
    have models := h.models d.name
    rw [entities, entities'] at models
    exact models
  case views =>
    have views := h.views d.name
    rw [entities, entities'] at views
    exact views

variable {schemas schemas' : List Schema}

/-- If schemas compile, then so do those with the same tables in another order and other places, and
to the same models and views. -/
lemma compileSchemas_perm {c : Catalog}
    (perm : ((schemas.flatMap (·.tables)).map Table.unplaced).Perm
      ((schemas'.flatMap (·.tables)).map Table.unplaced))
    (views : schemas.flatMap (·.views) = schemas'.flatMap (·.views))
    (apart : TablesApart s (schemas.flatMap (·.tables))) (h : compileSchemas s schemas = .ok c) :
    ∃ c', compileSchemas s schemas' = .ok c' ∧ c.Rearranged c' := by
  have sound := compileSchemas_sound h
  obtain ⟨p, hp, h⟩ := Outcome.bind_ok.1 h
  obtain ⟨q, hq, h⟩ := Outcome.bind_ok.1 h
  cases h
  obtain ⟨p', hp', alike⟩ := addTables_perm perm apart hp
  obtain ⟨q', hq', alike⟩ := alike.addViews hq
  have compiled : compileSchemas s schemas' = .ok { domains := q'.domains } :=
    Outcome.bind_ok.2 ⟨p', hp', Outcome.bind_ok.2 ⟨q', views ▸ hq', rfl⟩⟩
  exact ⟨_, compiled, alike.rearranged sound (compileSchemas_sound compiled)⟩

/-- Tables that are apart are so in every order and at every place. -/
lemma TablesApart.perm {tables tables' : List Table} (apart : TablesApart s tables)
    (perm : (tables.map Table.unplaced).Perm (tables'.map Table.unplaced)) :
    TablesApart s tables' := by
  have unplaced {ts : List Table} : TablesApart s (ts.map Table.unplaced) ↔
      TablesApart s ts := List.pairwise_map
  refine unplaced.1 ((perm.pairwise_iff ?_).1 (unplaced.2 apart))
  exact fun clear hd hn => clear hd.symm hn.symm

/-- The order of tables and the files they stand in do not matter. Of schemas with the same
tables, up to their places, and the same views in the same order, either all compile or none
does, and they compile to the same models and views, if no two tables of one domain have the
same name up to case. -/
theorem compileSchemas_rearranged
    (perm : ((schemas.flatMap (·.tables)).map Table.unplaced).Perm
      ((schemas'.flatMap (·.tables)).map Table.unplaced))
    (views : schemas.flatMap (·.views) = schemas'.flatMap (·.views))
    (apart : TablesApart s (schemas.flatMap (·.tables))) :
    ((∃ c, compileSchemas s schemas = .ok c) ↔ ∃ c', compileSchemas s schemas' = .ok c') ∧
      ∀ c c', compileSchemas s schemas = .ok c → compileSchemas s schemas' = .ok c' →
      c.Rearranged c' := by
  refine ⟨⟨fun ⟨c, h⟩ => ?_, fun ⟨c', h⟩ => ?_⟩, fun c c' h h' => ?_⟩
  · obtain ⟨c', h', _⟩ := compileSchemas_perm perm views apart h
    exact ⟨c', h'⟩
  · obtain ⟨c, h, _⟩ := compileSchemas_perm perm.symm views.symm (apart.perm perm) h
    exact ⟨c, h⟩
  · obtain ⟨_, eq, rearranged⟩ := compileSchemas_perm perm views apart h
    rw [h'] at eq
    cases eq
    exact rearranged

namespace Shelves

/-- A table of whole numbers at some place. -/
def table (name : String) (domain : Option String) (columns : List String) (file : String)
    (line : Nat) : Table where
  name := name
  domain := domain
  columns := columns.map fun name => { name, nativeType := "INT", type := .int32 }
  source := some file
  line := line

/-- A view of all books; there are books in two domains. -/
def view : View where
  name := "stock"
  domain := some "shop"
  projections := [{ expression := "*", givenName := none, offset := 0 }]
  sources := [{ table := "books", givenName := none }]
  columnNames := none
  filters := []
  source := some "shop.sql"
  text := []
  offset := 0
  line := 9

/-- Compiling into one domain. -/
def settings : CompileSettings := { defaultDomain := "default" }

/-- The schema in one file. -/
def oneFile : List Schema :=
  [{ tables := [table "books" (some "library") ["id"] "all.sql" 1,
       table "books" (some "shop") ["id", "price"] "all.sql" 2,
       table "clerks" (some "shop") ["id"] "all.sql" 3]
     views := [view] }]

/-- The schema in two files, with the tables in another order. -/
def twoFiles : List Schema :=
  [{ tables := [table "clerks" (some "shop") ["id"] "shop.sql" 1,
       table "books" (some "shop") ["id", "price"] "shop.sql" 4]
     views := [view] },
    { tables := [table "books" (some "library") ["id"] "library.sql" 1] }]

/-- An entity of whole numbers. -/
def entity (kind : TargetKind) (name domain source : String) (fields : List (String × Int)) :
    Entity where
  kind := kind
  name := name
  domain := domain
  sourceName := source
  resource := source
  fields := fields.map fun (name, ordinal) => { name, type := .int32, ordinal }

/-- The books of the library. -/
def libraryBooks : Entity := entity .model "Book" "library" "books" [("id", 1)]

/-- The books of the shop. -/
def shopBooks : Entity := entity .model "Book" "shop" "books" [("id", 1), ("price", 2)]

/-- The clerks of the shop. -/
def clerks : Entity := entity .model "Clerk" "shop" "clerks" [("id", 1)]

/-- The view of the books of the shop. -/
def stock : Entity := entity .view "Stock" "shop" "stock" [("id", 1), ("price", 2)]

/-- What either of the schemas compiles to. -/
def catalog : Catalog where
  domains := [{ name := "library", models := [libraryBooks] },
    { name := "shop", models := [shopBooks, clerks], views := [stock] }]

/-- The tables and the view of one file compile to the catalog. -/
lemma compiles : compileSchemas settings oneFile = .ok catalog := by
  have made : compileView settings [libraryBooks, shopBooks, clerks] view "shop" = .ok stock :=
    compileView_ok.2 ⟨⟨view, [("books", shopBooks)]⟩, _, _, rfl, rfl, rfl,
      repeatedNames_isEmpty.2 (by decide), rfl⟩
  have tables : addTables settings {} (oneFile.flatMap (·.tables)) =
      .ok ⟨[{ name := "library", models := [libraryBooks] },
        { name := "shop", models := [shopBooks, clerks] }],
        [libraryBooks, shopBooks, clerks]⟩ := rfl
  exact Outcome.bind_ok.2 ⟨_, tables,
    Outcome.bind_ok.2 ⟨_, Outcome.bind_ok.2 ⟨stock, made, rfl⟩, rfl⟩⟩

/-- The two files compile to the same as the one. -/
theorem twoFiles_rearranged :
    ((oneFile.flatMap (·.tables)).map Table.unplaced).Perm
      ((twoFiles.flatMap (·.tables)).map Table.unplaced) ∧
      TablesApart settings (oneFile.flatMap (·.tables)) ∧
      ∃ c', compileSchemas settings twoFiles = .ok c' ∧ catalog.Rearranged c' := by
  have perm : ((oneFile.flatMap (·.tables)).map Table.unplaced).Perm
      ((twoFiles.flatMap (·.tables)).map Table.unplaced) := by decide
  have apart : TablesApart settings (oneFile.flatMap (·.tables)) := by
    unfold TablesApart
    decide
  obtain ⟨compile, rearranged⟩ := compileSchemas_rearranged perm rfl apart
  obtain ⟨c', h'⟩ := compile.1 ⟨catalog, compiles⟩
  exact ⟨perm, apart, c', h', rearranged catalog c' compiles h'⟩

end Shelves
end Rulebook
