import Rulebook.Proofs.Catalog.Compile
import Rulebook.Proofs.Text.Case

/-!
# Looking entities up

An entity goes by its own name and by the name of its table or view, and a lookup takes the first
one that goes by the name. So an entity is found exactly if it goes by the name and none that was
declared before it does (`Catalog.Sound.findTarget?_iff`). Of a compiled catalog the names tell
when this is so (`compileSchemas_found_iff`): own names are never shared, but nothing keeps a
table from having the name, up to case, of a model made from a later table, or two tables from
having one name up to case.
-/

namespace Rulebook
open Sql Text

variable {c : Catalog} {e o : Entity}

/-- An entity is declared before another one of the same domain and kind. -/
def Catalog.Before (c : Catalog) (o e : Entity) : Prop :=
  ∃ d ∈ c.domains, ∃ k before after, d.ofKind k = before ++ e :: after ∧ o ∈ before

namespace Catalog.Sound

/-- What is declared before an entity stands before it among those of its domain and kind. -/
lemma before_iff (hc : c.Sound) {d : Domain} {k : TargetKind} {before after : List Entity}
    (hd : d ∈ c.domains) (eq : d.ofKind k = before ++ e :: after) : c.Before o e ↔ o ∈ before := by
  refine ⟨fun ⟨d', hd', k', before', after', eq', ho⟩ => ?_,
    fun ho => ⟨d, hd, k, before, after, eq, ho⟩⟩
  have em : e ∈ d.ofKind k := by simp [eq]
  have em' : e ∈ d'.ofKind k' := by simp [eq']
  -- The entity occurs once, so it stands at the same place both times.
  have nd := ((hc.domains d' hd').names k').of_map
  rw [eq', List.nodup_middle, List.nodup_cons, List.mem_append, not_or] at nd
  obtain ⟨rfl, rfl⟩ := hc.place_eq hd' em' hd em rfl rfl
  rw [eq'] at eq
  obtain ⟨rfl, _⟩ := (List.append_cons_inj_of_notMem nd.1.1 nd.1.2).1 eq
  exact ho

/-- Two entities one of which is declared before the other have names of their own. -/
lemma name_ne (hc : c.Sound) (h : c.Before o e) : o.name ≠ e.name := by
  obtain ⟨d, hd, k, before, after, eq, ho⟩ := h
  have nd := (hc.domains d hd).names k
  rw [eq, List.map_append, List.map_cons, List.nodup_append] at nd
  exact nd.2.2 _ (List.mem_map_of_mem ho) _ (.head _)

/-- A lookup finds an entity exactly if it goes by the name and none that is
declared before it does. -/
lemma findTarget?_iff (hc : c.Sound) (he : e ∈ c.entities) (name : String) :
    c.findTarget? e.domain name e.kind = some e ↔
      e.answersTo name = true ∧ ∀ o, c.Before o e → o.answersTo name = false := by
  obtain ⟨d, hd, k, em⟩ := Catalog.mem_entities.1 he
  have sd := hc.domains d hd
  unfold findTarget?
  rw [sd.domain_eq k e em, sd.kind_eq k e em, hc.domain?_name hd, Option.bind_some,
    List.find?_eq_some_iff_append]
  constructor
  · rintro ⟨ha, before, after, eq, clear⟩
    refine ⟨ha, fun o ho => ?_⟩
    have := clear o ((hc.before_iff hd eq).1 ho)
    simpa using this
  · rintro ⟨ha, clear⟩
    obtain ⟨before, after, eq⟩ := List.append_of_mem em
    refine ⟨ha, before, after, eq, fun o ho => ?_⟩
    rw [clear o ((hc.before_iff hd eq).2 ho)]
    rfl

end Catalog.Sound

/-! ## Compiled catalogs -/

/-- The table or view of a compiled entity is named in small letters. -/
lemma compileSchemas_lower {settings : CompileSettings} {schemas : List Schema}
    (h : compileSchemas settings schemas = .ok c) (he : e ∈ c.entities) :
    String.ofList (lower e.sourceName.toList) = e.sourceName := by
  obtain ⟨table, ht⟩ | ⟨view, _, hv⟩ := compileSchemas_made h he
  · obtain ⟨_, rfl⟩ := compileTable_ok.1 ht
    simp only [tableEntity, String.toList_ofList, lower_lower]
  · obtain ⟨scope, _, _, _, _, _, _, rfl⟩ := compileView_ok.1 hv
    simp only [viewEntity, String.toList_ofList, lower_lower]

/-- A compiled entity is found by its own name exactly if no table or view of its domain and kind
that was declared before it has this name, up to case. It is found by the name of its table or view
exactly if nothing of its domain and kind that was declared before it has this name, neither as its
own nor as that of its table or view. -/
theorem compileSchemas_found_iff {settings : CompileSettings} {schemas : List Schema}
    (h : compileSchemas settings schemas = .ok c) (he : e ∈ c.entities) :
    (c.findTarget? e.domain e.name e.kind = some e ↔
      ∀ o, c.Before o e → o.sourceName ≠ String.ofList (lower e.name.toList)) ∧
    (c.findTarget? e.domain e.sourceName e.kind = some e ↔
      ∀ o, c.Before o e → o.sourceName ≠ e.sourceName ∧ o.name ≠ e.sourceName) := by
  have sound := compileSchemas_sound h
  have small := compileSchemas_lower h he
  rw [sound.findTarget?_iff he, sound.findTarget?_iff he]
  constructor
  · have itself : e.answersTo e.name = true := by simp [Entity.answersTo]
    rw [and_iff_right itself]
    refine forall₂_congr fun o ho => ?_
    have other : e.name ≠ o.name := (sound.name_ne ho).symm
    unfold Entity.answersTo
    rw [beq_false_of_ne other, Bool.or_false, beq_eq_false_iff_ne, ne_comm]
  · have itself : e.answersTo e.sourceName = true := by simp [Entity.answersTo, small]
    rw [and_iff_right itself]
    refine forall₂_congr fun o _ => ?_
    unfold Entity.answersTo
    rw [small, Bool.or_eq_false_iff, beq_eq_false_iff_ne, beq_eq_false_iff_ne, ne_comm,
      ne_comm (a := o.name)]

namespace Buses

/-- Compiling into one domain. -/
def settings : CompileSettings := { defaultDomain := "default" }

/-- A table of numbers. -/
def table (name : String) : Table where
  name := name
  domain := none
  columns := [{ name := "id", nativeType := "INT", type := .int32 }]
  source := none
  line := 1

/-- Two tables, the first one with the name of the model that is made from the second one. -/
def schema : Schema := { tables := [table "bus", table "buses"] }

/-- A model of a table. -/
def model (name source : String) : Entity where
  kind := .model
  name := name
  domain := "default"
  sourceName := source
  resource := source
  fields := [{ name := "id", type := .int32, ordinal := 1 }]

/-- What the tables compile to. -/
def catalog : Catalog where
  domains := [{ name := "default", models := [model "Bu" "bus", model "Bus" "buses"] }]

/-- The second model is found by the name of its table, but not by its own. -/
theorem found_by_table :
    compileSchemas settings [schema] = .ok catalog ∧
      catalog.findTarget? "default" "Bus" .model ≠ some (model "Bus" "buses") ∧
      catalog.findTarget? "default" "buses" .model = some (model "Bus" "buses") := by
  have hc : compileSchemas settings [schema] = .ok catalog := by rfl
  have before {o : Entity} : catalog.Before o (model "Bus" "buses") ↔ o ∈ [model "Bu" "bus"] :=
    (compileSchemas_sound hc).before_iff (k := .model) (.head _) rfl
  obtain ⟨byName, byTable⟩ :=
    compileSchemas_found_iff hc (e := model "Bus" "buses") (.tail _ (.head _))
  refine ⟨hc, fun found => ?_, byTable.2 fun o ho => ?_⟩
  · exact byName.1 found (model "Bu" "bus") (before.2 (.head _)) (by decide)
  · cases List.mem_singleton.1 (before.1 ho)
    decide

/-- Not every compiled entity is found by its names: by the name of the second model the
first one is found. -/
theorem hidden :
    ¬ ∀ {settings : CompileSettings} {schemas : List Schema} {c : Catalog},
      compileSchemas settings schemas = .ok c → ∀ e ∈ c.entities,
        c.findTarget? e.domain e.name e.kind = some e ∧
        c.findTarget? e.domain e.sourceName e.kind = some e := by
  intro h
  have hc : compileSchemas settings [schema] = .ok catalog := by rfl
  have found : catalog.findTarget? "default" "Bus" .model = some (model "Bu" "bus") := by rfl
  have itself : catalog.findTarget? "default" "Bus" .model = some (model "Bus" "buses") :=
    (h hc (model "Bus" "buses") (.tail _ (.head _))).1
  exact absurd (Option.some.inj (found.symm.trans itself)) (by decide)

end Buses
end Rulebook
