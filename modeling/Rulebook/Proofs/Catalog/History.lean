import Rulebook.Proofs.Catalog.Recompile

/-!
# Histories of schemas

A project is compiled again and again, each time after the catalog of the version before. The
numbers of an entity's fields go on from one version to the next (`History.ordinals_continue`),
unless a view has taken the entity's name. A number that was given once is not given to another
field as long as every version in between still has a number as high (`History.ordinals_reserved`):
nothing else than the version before is remembered.
-/

namespace Rulebook
open Sql

/-- A catalog is compiled after another one, or as the first one. -/
def Catalog.CompiledAfter (previous : Option Catalog) (c : Catalog) : Prop :=
  ∃ settings schemas, settings.previous = previous ∧ compileSchemas settings schemas = .ok c

/-- The versions of a project, the latest first: each one is compiled after the one before. -/
inductive History : List Catalog → Prop
  | first {c} : c.CompiledAfter none → History [c]
  | next {c p older} : c.CompiledAfter (some p) → History (p :: older) → History (c :: p :: older)

/-! ## Steps -/

namespace Catalog.CompiledAfter

variable {previous : Option Catalog} {p c : Catalog} {e e' : Entity}

/-- A compiled catalog is sound. -/
lemma sound (h : c.CompiledAfter previous) : c.Sound := by
  obtain ⟨_, _, _, hc⟩ := h
  exact compileSchemas_sound hc

/-- The fields of a version have the numbers that the version before gives them. -/
lemma numbered (h : c.CompiledAfter previous) (he : e ∈ c.entities) :
    e.NumberedBy (previousNumbering previous e.domain e.name) := by
  obtain ⟨_, _, rfl, hc⟩ := h
  exact compileSchemas_numbered hc e he

/-- An entity goes on with the numbers of the one that was before it, unless a view
had taken the name. -/
lemma continues (h : c.CompiledAfter (some p)) (hp : p.Sound) (he : e ∈ p.entities)
    (clear : ∀ v ∈ p.entities, ¬ v.Eclipses e) (he' : e' ∈ c.entities) (hd : e'.domain = e.domain)
    (hn : e'.name = e.name) : e'.Continues e := by
  have numbered : e'.NumberedBy (p.numbering e'.domain e'.name) := h.numbered he'
  rw [hd, hn, hp.numbering_eq he clear] at numbered
  exact numbered.continues (hp.fields_nodup he)

end Catalog.CompiledAfter

/-! ## Numbers that stay taken -/

/-- A number that only the field of one name can get: it is not beyond the highest number, and no
other field has it. -/
structure Numbering.Reserves (n : Numbering) (o : Int) (name : String) : Prop where
  reached : o ≤ n.highest
  owner : ∀ g, n.ordinal? g = some o → g = name

/-- A reserved number is given to no other field. -/
lemma Numbering.Reserves.name_eq {n : Numbering} {o : Int} {name : String} {e : Entity} {g : Field}
    (h : n.Reserves o name) (numbered : e.NumberedBy n) (hg : g ∈ e.fields) (ho : g.ordinal = o) :
    g.name = name := by
  obtain known | ⟨_, beyond⟩ := Numbering.known_or_beyond numbered g hg
  · exact h.owner _ (ho ▸ known)
  · have := h.reached
    omega

/-- The fields of an entity that a numbering does not know. -/
def Entity.newFields (e : Entity) (n : Numbering) : List Field :=
  e.fields.filter fun f => (n.ordinal? f.name).isNone

/-- The fields of an entity have numbers of their own. -/
def Entity.Distinct (e : Entity) : Prop := (e.fields.map (·.ordinal)).Nodup

/-- An entity reserves the numbers of its fields. -/
lemma Entity.Distinct.reserves {e : Entity} {f : Field} (h : e.Distinct) (nd : e.fieldNames.Nodup)
    (hf : f ∈ e.fields) : (Numbering.ofEntity e).Reserves f.ordinal f.name where
  reached := Numbering.le_highest (Numbering.ordinal?_of_mem nd hf)
  owner g hg := by
    obtain ⟨f', hf', rfl, ho⟩ := Numbering.mem_of_ordinal? nd hg
    rw [List.inj_on_of_nodup_map h hf' hf ho]

namespace Catalog

variable {p c : Catalog} {domain name field : String} {o : Int}

/-- What a catalog knows about a name are the fields of one entity. -/
lemma mem_of_numbering (hc : c.Sound) (h : (c.numbering domain name).ordinal? field = some o) :
    ∃ e ∈ c.entities, e.domain = domain ∧ e.name = name ∧ c.numbering domain name = .ofEntity e ∧
      ∃ f ∈ e.fields, f.name = field ∧ f.ordinal = o := by
  obtain empty | ⟨e, he, hd, hn, eq⟩ := c.numbering_cases domain name
  · rw [empty] at h
    cases h
  · rw [eq] at h
    exact ⟨e, he, hd, hn, eq, Numbering.mem_of_ordinal? (hc.fields_nodup he) h⟩

/-- A version whose highest number has not fallen below it keeps a number reserved. -/
lemma CompiledAfter.reserves (step : c.CompiledAfter (some p))
    (h : (p.numbering domain name).Reserves o field)
    (reached : o ≤ (c.numbering domain name).highest) :
    (c.numbering domain name).Reserves o field where
  reached := reached
  owner g hg := by
    obtain ⟨e, he, rfl, rfl, _, f, hf, rfl, ho⟩ := mem_of_numbering step.sound hg
    exact h.name_eq (step.numbered he) hf ho

/-- The fields of a version's entity have numbers of their own, if they had in
the version before. -/
lemma CompiledAfter.distinct {previous : Option Catalog} (step : c.CompiledAfter previous)
    (before : ∀ p ∈ previous, p.Sound ∧ ∀ e ∈ p.entities, e.Distinct) :
    ∀ e ∈ c.entities, e.Distinct := by
  intro e he
  refine Numbering.nodup_ordinals (step.sound.fields_nodup he) ?_ (Int.le_refl _) (step.numbered he)
  intro f g o hf hg
  cases previous with
  | none => cases hf
  | some p =>
    obtain ⟨hp, distinct⟩ := before p rfl
    obtain ⟨e', he', _, _, eq, f', hf', rfl, ho⟩ := mem_of_numbering hp hf
    have owner := ((distinct e' he').reserves (hp.fields_nodup he') hf').owner
    have hg : (p.numbering e.domain e.name).ordinal? g = some o := hg
    rw [eq, ← ho] at hg
    exact (owner g hg).symm

end Catalog

/-! ## Versions -/

namespace History

variable {cs newer older : List Catalog} {c p : Catalog}

/-- What came before a version was a history too. -/
lemma of_append (h : History (newer ++ c :: older)) : History (c :: older) := by
  induction newer with
  | nil => exact h
  | cons n newer ih =>
    -- The latest version is taken off.
    apply ih
    rw [List.cons_append] at h
    generalize eq : newer ++ c :: older = rest at h
    cases h with
    | first _ =>
      rw [List.append_eq_nil_iff] at eq
      cases eq.2
    | next _ h =>
      exact h

/-- A version is compiled after the one before. -/
lemma compiledAfter (h : History (newer ++ c :: p :: older)) : c.CompiledAfter (some p) := by
  cases h.of_append with
  | next step _ => exact step

/-- Each version of a history is compiled. -/
lemma compiled (h : History cs) : ∀ c ∈ cs, ∃ previous, c.CompiledAfter previous := by
  intro c hc
  obtain ⟨newer, older, rfl⟩ := List.append_of_mem hc
  cases h.of_append with
  | first step => exact ⟨none, step⟩
  | next step _ => exact ⟨_, step⟩

/-- Each version of a history is sound. -/
lemma sound (h : History cs) (hc : c ∈ cs) : c.Sound := by
  obtain ⟨_, step⟩ := h.compiled c hc
  exact step.sound

/-- From one version to the next, an entity goes on with the numbers of the entity of its domain
and name; if a view had the name of a model, with those of the view. What is compiled again
after itself comes out the same exactly if every model that a view eclipses has the numbers that
the view gives it. -/
theorem ordinals_continue (h : History cs) :
    (∀ p c, [c, p] <:+: cs → ∀ e ∈ p.entities, ∀ e' ∈ c.entities, e'.domain = e.domain →
      e'.name = e.name → ((∀ v ∈ p.entities, ¬ v.Eclipses e) → e'.Continues e) ∧
        ∀ v ∈ p.entities, v.Eclipses e → e'.Continues v) ∧
    ∀ settings schemas c, compileSchemas settings schemas = .ok c →
      (compileSchemas { settings with previous := some c } schemas = .ok c ↔
        ∀ v ∈ c.entities, ∀ m ∈ c.entities, v.Eclipses m → m.NumberedBy (.ofEntity v)) := by
  constructor
  · rintro p c ⟨newer, older, rfl⟩ e he e' he' hd hn
    rw [List.append_assoc] at h
    have step : c.CompiledAfter (some p) := h.compiledAfter
    have hp : p.Sound := h.sound (by simp)
    refine ⟨fun clear => step.continues hp he clear he' hd hn, fun v hv ec => ?_⟩
    exact step.continues hp hv (fun o _ => ec.not_eclipses o) he' (hd.trans ec.domain_eq.symm)
      (hn.trans ec.name_eq.symm)
  · intro settings schemas c hc
    exact recompile_iff hc

end History

namespace Versions

/-- Compiling after a catalog, or as the first time. -/
def settings (previous : Option Catalog) : CompileSettings :=
  { defaultDomain := "default", previous }

/-- A table of whole numbers. -/
def table (name : String) (columns : List String) : Table where
  name := name
  domain := none
  columns := columns.map fun name => { name, nativeType := "INT", type := .int32 }
  source := none
  line := 1

/-- An entity with fields of whole numbers. -/
def entity (kind : TargetKind) (name source : String) (fields : List (String × Int)) : Entity where
  kind := kind
  name := name
  domain := "default"
  sourceName := source
  resource := source
  fields := fields.map fun (name, ordinal) => { name, type := .int32, ordinal }

/-! ### A view that takes the name of a model -/

/-- The view `user` shows the ages. -/
def view : View where
  name := "user"
  domain := none
  projections := [{ expression := "*", givenName := none, offset := 0 }]
  sources := [{ table := "ages", givenName := none }]
  columnNames := none
  filters := []
  source := none
  text := []
  offset := 0
  line := 3

/-- Users, their ages, and the view of these. -/
def schema : Schema :=
  { tables := [table "users" ["id", "age"], table "ages" ["age"]], views := [view] }

/-- The model of the users, with the numbers of its fields. -/
def users (id age : Int) : Entity := entity .model "User" "users" [("id", id), ("age", age)]

/-- The model of the ages. -/
def ages : Entity := entity .model "Age" "ages" [("age", 1)]

/-- The view has the name of the first model. -/
def shown : Entity := entity .view "User" "user" [("age", 1)]

/-- What the schema makes, with the numbers of the users' fields. -/
def catalog (id age : Int) : Catalog where
  domains := [{ name := "default", models := [users id age, ages], views := [shown] }]

/-- The schema makes the catalog if its tables make the models and the column of the
view makes its entity. -/
lemma compiles {previous : Option Catalog} {id age : Int}
    (tables : addTables (settings previous) {} schema.tables =
      .ok ⟨[{ name := "default", models := [users id age, ages] }], [users id age, ages]⟩)
    (numbered : shown = viewEntity (settings previous) ⟨view, [("ages", ages)]⟩ "default"
      (ages.fields.map (.ofField ages))) :
    compileSchemas (settings previous) [schema] = .ok (catalog id age) := by
  have made : compileView (settings previous) [users id age, ages] view "default" = .ok shown :=
    compileView_ok.2 ⟨_, _, _, rfl, rfl, rfl, repeatedNames_isEmpty.2 (List.nodup_singleton "age"),
      numbered⟩
  exact Outcome.bind_ok.2 ⟨_, tables,
    Outcome.bind_ok.2 ⟨_, Outcome.bind_ok.2 ⟨shown, made, rfl⟩, rfl⟩⟩

/-- The schema is compiled twice; the second time the users' fields are numbered after the view. -/
lemma twice : compileSchemas (settings none) [schema] = .ok (catalog 1 2) ∧
    compileSchemas (settings (some (catalog 1 2))) [schema] = .ok (catalog 2 1) :=
  ⟨compiles rfl rfl, compiles rfl rfl⟩

/-- The schema compiled twice makes a history, in which the numbers of the users change. -/
lemma twice_history : History [catalog 2 1, catalog 1 2] :=
  .next ⟨_, _, rfl, twice.2⟩ (.first ⟨_, _, rfl, twice.1⟩)

/-- The second version goes on with the ages and, for the users, with the view. -/
theorem users_continue :
    History [catalog 2 1, catalog 1 2] ∧ ages.Continues ages ∧ (users 2 1).Continues shown := by
  have step := History.ordinals_continue twice_history
    |>.1 (catalog 1 2) (catalog 2 1) ⟨[], [], rfl⟩
  refine ⟨twice_history, ?_, ?_⟩
  · exact (step ages (by decide) ages (by decide) rfl rfl).1 (by decide)
  · exact (step (users 1 2) (by decide) (users 2 1) (by decide) rfl rfl).2 shown (by decide)
      ⟨rfl, rfl, rfl, rfl⟩

/-- Fields do not keep their numbers in every history, and what is compiled again after itself does
not always come out the same: the view changes the numbers of the users. -/
theorem renumbers :
    (¬ ∀ cs, History cs → ∀ p c, [c, p] <:+: cs → ∀ e ∈ p.entities, ∀ e' ∈ c.entities,
      e'.domain = e.domain → e'.kind = e.kind → e'.name = e.name →
      ∀ f ∈ e.fields, ∀ f' ∈ e'.fields, f'.name = f.name → f'.ordinal = f.ordinal) ∧
    ¬ ∀ settings schemas c, compileSchemas settings schemas = .ok c →
      compileSchemas { settings with previous := some c } schemas = .ok c := by
  constructor
  · intro kept
    have eq : (2 : Int) = 1 := kept _ twice_history (catalog 1 2) (catalog 2 1) ⟨[], [], rfl⟩
      (users 1 2) (.head _) (users 2 1) (.head _) rfl rfl rfl _ (.head _) _ (.head _) rfl
    omega
  · intro again
    have eq : catalog 1 2 = catalog 2 1 :=
      Except.ok.inj ((again (settings none) [schema] _ twice.1).symm.trans twice.2)
    exact absurd eq (by decide)

end Versions

namespace History

variable {cs older : List Catalog} {p : Catalog}

/-- In each version of a history, the fields of an entity have numbers of their own. -/
lemma distinct (h : History cs) : ∀ c ∈ cs, ∀ e ∈ c.entities, e.Distinct := by
  induction h with
  | first step =>
    rw [List.forall_mem_singleton]
    exact step.distinct nofun
  | @next c p older step hp ih =>
    refine List.forall_mem_cons.2 ⟨step.distinct ?_, ih⟩
    intro q hq
    cases hq
    exact ⟨hp.sound (.head _), ih p (.head _)⟩

/-- A number that one version reserves is reserved in the last version before a later one, if every
version in between has a number as high. -/
lemma reserves {between : List Catalog} {domain name field : String} {o : Int}
    (reserved : (p.numbering domain name).Reserves o field) :
    ∀ {c}, History (c :: (between ++ p :: older)) →
      (∀ m ∈ between, o ≤ (m.numbering domain name).highest) →
      ∃ q, c.CompiledAfter (some q) ∧ (q.numbering domain name).Reserves o field := by
  -- The versions in between are passed from the oldest to the latest; each of them keeps the
  -- number reserved.
  induction between with
  | nil =>
    intro c h _
    cases h with
    | next step _ => exact ⟨p, step, reserved⟩
  | cons m between ih =>
    intro c h reached
    obtain ⟨hm, reached⟩ := List.forall_mem_cons.1 reached
    cases h with
    | next step h =>
      obtain ⟨q, before, hq⟩ := ih h reached
      exact ⟨m, step, before.reserves hq hm⟩

/-- The number of a field is given to no other field of its entity in a later version, if every
version in between still has a number as high. The new fields of a version get the numbers after the
highest one of the version before, one by one and in their order. -/
theorem ordinals_reserved (h : History cs) :
    (∀ p c between, c :: (between ++ [p]) <:+: cs → ∀ e ∈ p.entities,
      (∀ v ∈ p.entities, ¬ v.Eclipses e) →
      ∀ f ∈ e.fields, (∀ m ∈ between, f.ordinal ≤ (m.numbering e.domain e.name).highest) →
      ∀ e' ∈ c.entities, e'.domain = e.domain → e'.name = e.name →
      ∀ g ∈ e'.fields, g.ordinal = f.ordinal → g.name = f.name) ∧
    ∀ p c, [c, p] <:+: cs → ∀ e ∈ c.entities,
      (e.newFields (p.numbering e.domain e.name)).map (·.ordinal) =
        (List.range (e.newFields (p.numbering e.domain e.name)).length).map fun i : Nat =>
          (p.numbering e.domain e.name).highest + 1 + i := by
  constructor
  · rintro p c between ⟨newer, older, rfl⟩ e he clear f hf reached e' he' hd hn g hg ho
    have hp : p.Sound := h.sound (by simp)
    have distinct : e.Distinct := h.distinct p (by simp) e he
    have reserved : (p.numbering e.domain e.name).Reserves f.ordinal f.name := by
      rw [hp.numbering_eq he clear]
      exact distinct.reserves (hp.fields_nodup he) hf
    rw [List.append_assoc, List.cons_append, List.append_assoc] at h
    obtain ⟨q, step, hq⟩ := reserves reserved h.of_append reached
    have numbered : e'.NumberedBy (q.numbering e'.domain e'.name) := step.numbered he'
    rw [hd, hn] at numbered
    exact hq.name_eq numbered hg ho
  · rintro p c ⟨newer, older, rfl⟩ e he
    rw [List.append_assoc] at h
    have step : c.CompiledAfter (some p) := h.compiledAfter
    exact Numbering.ordinals_new (step.numbered he)

end History

namespace Versions

/-! ### A field that is dropped -/

/-- Items with some columns. -/
def itemsSchema (columns : List String) : Schema := { tables := [table "items" columns] }

/-- The model of the items, with the numbers of its fields. -/
def items (fields : List (String × Int)) : Entity := entity .model "Item" "items" fields

/-- A catalog of items with certain fields. -/
def itemsCatalog (fields : List (String × Int)) : Catalog where
  domains := [{ name := "default", models := [items fields] }]

/-- The second column of the items is dropped, and then another one is added. -/
lemma dropped_history :
    History [itemsCatalog [("a", 1), ("c", 2)], itemsCatalog [("a", 1)],
      itemsCatalog [("a", 1), ("b", 2)]] := by
  refine .next ⟨settings (some (itemsCatalog [("a", 1)])), [itemsSchema ["a", "c"]], rfl, by rfl⟩ ?_
  refine .next ⟨settings (some (itemsCatalog [("a", 1), ("b", 2)])),
    [itemsSchema ["a"]], rfl, by rfl⟩ ?_
  exact .first ⟨settings none, [itemsSchema ["a", "b"]], rfl, by rfl⟩

/-- The first item field has its number for good, and the added one gets the number after it. -/
theorem items_reserved :
    History [itemsCatalog [("a", 1), ("c", 2)], itemsCatalog [("a", 1)],
      itemsCatalog [("a", 1), ("b", 2)]] ∧
      (∀ g ∈ (items [("a", 1), ("c", 2)]).fields, g.ordinal = 1 → g.name = "a") ∧
      ((items [("a", 1), ("c", 2)]).newFields [("a", 1)]).map (·.ordinal) = [2] := by
  obtain ⟨reserved, new⟩ := History.ordinals_reserved dropped_history
  refine ⟨dropped_history, ?_, ?_⟩
  · exact reserved (itemsCatalog [("a", 1), ("b", 2)]) (itemsCatalog [("a", 1), ("c", 2)])
      [itemsCatalog [("a", 1)]]
      ⟨[], [], rfl⟩ (items [("a", 1), ("b", 2)]) (.head _) (by decide) _ (.head _) (by decide)
      (items [("a", 1), ("c", 2)]) (.head _) rfl rfl
  · exact new (itemsCatalog [("a", 1)]) (itemsCatalog [("a", 1), ("c", 2)]) ⟨[], [_], rfl⟩
      (items [("a", 1), ("c", 2)]) (.head _)

/-- Numbers are given again in some histories: the number of the dropped column
goes to the added one. -/
theorem reuses :
    ¬ ∀ cs, History cs → ∀ p c between, c :: (between ++ [p]) <:+: cs →
      ∀ e ∈ p.entities, ∀ e' ∈ c.entities, e'.domain = e.domain → e'.kind = e.kind →
      e'.name = e.name →
      ∀ f ∈ e.fields, ∀ g ∈ e'.fields, g.ordinal = f.ordinal → g.name = f.name := by
  intro h
  have eq : "c" = "b" :=
    h _ dropped_history (itemsCatalog [("a", 1), ("b", 2)]) (itemsCatalog [("a", 1), ("c", 2)])
    [itemsCatalog [("a", 1)]] ⟨[], [], rfl⟩ (items [("a", 1), ("b", 2)]) (.head _)
    (items [("a", 1), ("c", 2)]) (.head _) rfl rfl rfl _ (.tail _ (.head _)) _
      (.tail _ (.head _)) rfl
  exact absurd eq (by decide)

end Versions
end Rulebook
