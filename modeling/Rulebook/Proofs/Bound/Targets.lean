import Rulebook.Check.Rules
import Rulebook.Proofs.Bound.Correspondence
import Rulebook.Proofs.Catalog.Compile

/-!
# Rules under the names of their targets

A rule names its target, and a rule set is asked for the rules about a name. The two resolve
names differently: the catalog takes the first entity in the order of declaration that goes by a
name, the rule set prefers an entity of that very name among those that rules are about, and then
takes the first one in the order of use. Both are brought down to the list of entities that the
rules are about (`Book.subjects`), and `RuleSet.mem_forTarget` says exactly when a rule is found
under the name that it uses itself. A catalog in which the name belongs to one entity is always
enough (`Target.Leads.of_unambiguous`), but tables whose names become equal up to case can hide a
rule (`Clash.hides`).
-/

namespace Rulebook
open Text

/-! ## Subjects -/

/-- The entities that the rules of a book are about, in the order of the rules. -/
def Book.subjects (book : Book) (catalog : Catalog) : List Entity :=
  book.rules.filterMap (·.subject? catalog)

namespace Entity

/-- An entity of a domain and a kind has a name. -/
def hasName (domain name : String) (kind : TargetKind) (e : Entity) : Bool :=
  e.domain == domain && e.kind == kind && e.name == name

/-- The table or view of an entity of a domain and a kind has a name, in any case. -/
def hasSource (domain name : String) (kind : TargetKind) (e : Entity) : Bool :=
  e.domain == domain && e.kind == kind && e.sourceName == String.ofList (lower name.toList)

end Entity

/-- A target leads to an entity among others: it has the entity's own name, or else none of the
others has the name and the entity is the first one whose table or view has it. -/
def Target.Leads (t : Target) (es : List Entity) (e : Entity) : Prop :=
  e.name = t.name ∨
    (∀ o ∈ es, o.hasName t.domain t.name t.kind = false) ∧
    es.find? (·.hasSource t.domain t.name t.kind) = some e

/-- Leaving out what occurred before changes nothing about the first item with a property. -/
lemma find?_eraseDups {α : Type} [BEq α] [LawfulBEq α] (p : α → Bool) (l : List α) :
    l.eraseDups.find? p = l.find? p := by
  match l with
  | [] => rfl
  | a :: as =>
    rw [List.eraseDups_cons, List.find?_cons, List.find?_cons]
    cases hp : p a with
    | true => rfl
    | false =>
      -- The items left out equal the first one, which lacks the property.
      have decreasing : (as.filter fun b => !b == a).length ≤ as.length := List.length_filter_le _ _
      dsimp only
      rw [find?_eraseDups p (as.filter fun b => !b == a), List.find?_filter]
      congr
      funext b
      by_cases hb : b = a
      · subst hb; simp [hp]
      · simp [hb]
termination_by l.length

namespace Book

variable {book : Book} {catalog : Catalog} {set : RuleSet}

/-- The subjects of a book are entities of the catalog. -/
lemma mem_entities_of_mem_subjects (hc : catalog.Sound) {e : Entity}
    (h : e ∈ book.subjects catalog) :
    e ∈ catalog.entities := by
  obtain ⟨r, _, hf⟩ := List.mem_filterMap.1 h
  exact (hc.of_findTarget? hf).1

/-- The bindings of bound rules are those of the subjects. -/
lemma map_binding {registry : Registry} {rs : List Rule} {bs : List BoundRule}
    (h : List.Forall₂ (fun r b => b.Binds catalog registry r) rs bs) :
    bs.map (·.binding) = (rs.filterMap (·.subject? catalog)).map Binding.ofEntity := by
  induction h with
  | nil => rfl
  | cons h _ ih =>
    obtain ⟨e, hf, hu⟩ := h
    rename_i r b rs bs _
    rw [List.map_cons, ih, List.filterMap_cons, hf, List.map_cons, hu.binding_eq]

/-- A name is resolved among the subjects of the book. -/
lemma resolve?_eq (hc : catalog.Sound) (h : book.bind catalog = .ok set) (domain name : String)
    (kind : TargetKind) :
    set.targets.resolve? domain name kind =
      (((book.subjects catalog).find? (·.hasName domain name kind)).or
        ((book.subjects catalog).find? (·.hasSource domain name kind))).map Binding.ofEntity := by
  obtain ⟨hr, ht, _, _⟩ := (bind_ok hc).1 h
  have hm : (set.rules.map (·.binding)) = (book.subjects catalog).map Binding.ofEntity :=
    map_binding hr
  rw [Targets.resolve?, Targets.get?, ht, find?_eraseDups, find?_eraseDups, hm, List.find?_map,
    List.find?_map, Option.map_or]
  rfl

end Book

/-- Among entities of a sound catalog, the entity that a name is resolved to is the
one that it leads to. -/
lemma Target.leads_iff {catalog : Catalog} {t : Target} {es : List Entity} {e : Entity}
    (hc : catalog.Sound) (hes : ∀ o ∈ es, o ∈ catalog.entities) (he : e ∈ es)
    (hd : e.domain = t.domain) (hk : e.kind = t.kind) :
    (es.find? (·.hasName t.domain t.name t.kind)).or
      (es.find? (·.hasSource t.domain t.name t.kind)) = some e ↔ t.Leads es e := by
  unfold Target.Leads
  cases hf : es.find? (·.hasName t.domain t.name t.kind) with
  | some o =>
    have ho := List.mem_of_find?_eq_some hf
    have hon := List.find?_some hf
    have ⟨⟨od, ok⟩, on⟩ : (o.domain = t.domain ∧ o.kind = t.kind) ∧ o.name = t.name := by
      simpa [Entity.hasName] using hon
    rw [Option.some_or, Option.some.injEq]
    constructor
    · rintro rfl
      exact .inl on
    · rintro (en | ⟨none, _⟩)
      · exact hc.unique (hes o ho) (hes e he) (od.trans hd.symm) (ok.trans hk.symm)
          (on.trans en.symm)
      · rw [none o ho] at hon
        cases hon
  | none =>
    -- No entity has the very name, so only the names of tables and views count.
    have none : ∀ o ∈ es, o.hasName t.domain t.name t.kind = false := by
      simpa using List.find?_eq_none.1 hf
    rw [Option.none_or]
    constructor
    · intro h
      exact .inr ⟨none, h⟩
    · rintro (en | ⟨_, h⟩)
      · have := none e he
        simp [Entity.hasName, hd, hk, en] at this
      · exact h

/-- A target that only one entity of the catalog goes by leads to that entity. -/
theorem Target.Leads.of_unambiguous {catalog : Catalog} {t : Target} {es : List Entity} {e : Entity}
    (hes : ∀ o ∈ es, o ∈ catalog.entities) (he : e ∈ es) (hd : e.domain = t.domain)
    (hk : e.kind = t.kind) (ha : e.answersTo t.name = true)
    (unambiguous : ∀ o ∈ catalog.entities, o.domain = t.domain → o.kind = t.kind →
      o.answersTo t.name = true → o = e) : t.Leads es e := by
  have only : ∀ o ∈ es, o.domain = t.domain → o.kind = t.kind → o.answersTo t.name = true → o = e :=
    fun o ho => unambiguous o (hes o ho)
  by_cases hn : e.name = t.name
  · exact .inl hn
  -- The entity goes by the name of its table or view; one of that very name would be a second
  -- entity that answers to it.
  refine .inr ⟨?_, ?_⟩
  · intro o ho
    rw [Bool.eq_false_iff]
    intro h
    have ⟨⟨od, ok⟩, on⟩ : (o.domain = t.domain ∧ o.kind = t.kind) ∧ o.name = t.name := by
      simpa [Entity.hasName] using h
    cases only o ho od ok (by simp [Entity.answersTo, on])
    exact hn on
  · have hs : e.hasSource t.domain t.name t.kind = true := by
      have : String.ofList (lower t.name.toList) = e.sourceName := by
        simpa [Entity.answersTo, Ne.symm hn] using ha
      simp [Entity.hasSource, hd, hk, this]
    cases hf : es.find? (·.hasSource t.domain t.name t.kind) with
    | none =>
      have := List.find?_eq_none.1 hf e he
      exact absurd hs this
    | some o =>
      have ⟨⟨od, ok⟩, os⟩ : (o.domain = t.domain ∧ o.kind = t.kind) ∧
          o.sourceName = String.ofList (lower t.name.toList) := by
        simpa [Entity.hasSource] using List.find?_some hf
      rw [only o (List.mem_of_find?_eq_some hf) od ok (by simp [Entity.answersTo, os])]

namespace RuleSet

variable {settings : CompileSettings} {schemas : List Sql.Schema} {catalog : Catalog} {book : Book}
  {set : RuleSet}

/-- The rules about a name are those that are bound to the entity that the name is resolved to. -/
lemma mem_forTarget_iff (hc : catalog.Sound) (hb : book.bind catalog = .ok set)
    {b : BoundRule} {e : Entity} (hr : b ∈ set.rules) (he : e ∈ catalog.entities)
    (hbe : b.binding = Binding.ofEntity e) (domain name : String) (kind : TargetKind) :
    b ∈ set.forTarget domain name kind ↔
      ((book.subjects catalog).find? (·.hasName domain name kind)).or
        ((book.subjects catalog).find? (·.hasSource domain name kind)) = some e := by
  unfold forTarget
  rw [Book.resolve?_eq hc hb]
  cases ho : ((book.subjects catalog).find? (·.hasName domain name kind)).or
      ((book.subjects catalog).find? (·.hasSource domain name kind)) with
  | none => simp
  | some o =>
    have hm : o ∈ book.subjects catalog := by
      obtain h | ⟨_, h⟩ := Option.or_eq_some_iff.1 ho
      · exact List.mem_of_find?_eq_some h
      · exact List.mem_of_find?_eq_some h
    have hk : (Binding.ofEntity e).sameKey (Binding.ofEntity o) = true ↔ o = e := by
      constructor
      · intro h
        have ⟨⟨hd, hk⟩, hn⟩ : (e.domain = o.domain ∧ e.kind = o.kind) ∧ e.name = o.name := by
          simpa [Binding.sameKey, Binding.ofEntity] using h
        exact hc.unique (Book.mem_entities_of_mem_subjects hc hm) he hd.symm hk.symm hn.symm
      · rintro rfl
        simp [Binding.sameKey]
    simp [List.mem_filter, hr, hbe, hk]

/-- A rule is found under the name that it uses for its target exactly if this name leads, among the
entities that the rules are about, to the entity of the rule. -/
theorem mem_forTarget (hc : compileSchemas settings schemas = .ok catalog)
    (hb : book.bind catalog = .ok set) :
    List.Forall₂ (fun r b => ∃ e, r.subject? catalog = some e ∧
      (b ∈ set.forTarget r.target.domain r.target.name r.target.kind ↔
        r.target.Leads (book.subjects catalog) e)) book.rules set.rules := by
  have sound := compileSchemas_sound hc
  obtain ⟨len, pairs⟩ := List.forall₂_iff_zip.1 ((Book.bind_ok sound).1 hb).1
  refine List.forall₂_iff_zip.2 ⟨len, fun {r b} h => ?_⟩
  obtain ⟨hr, hbr⟩ := List.of_mem_zip h
  obtain ⟨e, hf, hu⟩ := pairs h
  obtain ⟨he, hd, hk, _⟩ := sound.of_findTarget? hf
  have hes : e ∈ book.subjects catalog := List.mem_filterMap.2 ⟨r, hr, hf⟩
  refine ⟨e, hf, ?_⟩
  rw [mem_forTarget_iff sound hb hbr he hu.binding_eq]
  exact Target.leads_iff sound (fun o => Book.mem_entities_of_mem_subjects sound) hes hd hk

end RuleSet

/-! ## A hidden rule -/

namespace Clash

/-- Compiling without a previous version. -/
def settings : CompileSettings := { defaultDomain := "default" }

/-- A table with one whole number. -/
def table (name : String) : Sql.Table where
  name := name
  domain := none
  columns := [{ name := "a", nativeType := "INT", type := .int32 }]
  source := none
  line := 1

/-- Two tables; the second one makes an entity with the first one's name, up to case. -/
def schema : Sql.Schema := { tables := [table "USER", table "users"] }

/-- The entity that a table with one whole number makes. -/
def entity (name source : String) : Entity where
  kind := .model
  name := name
  domain := "default"
  sourceName := source
  resource := source
  fields := [{ name := "a", type := .int32, ordinal := 1 }]

/-- What the two tables make. -/
def catalog : Catalog where
  domains := [{ name := "default", models := [entity "USER" "user", entity "User" "users"] }]

/-- A rule about a target. -/
def rule (name target : String) : Rule where
  name := name
  target := { name := target, domain := "default" }
  condition := .single { field := "a", operator := .gt, literal := .int 1 }
  positive := "OK"
  negative := "NO"

/-- A rule about `User`, which is the first table for the catalog, and one
about the second table. -/
def book : Book := { rules := [rule "OnAccount" "User", rule "OnUsers" "users"] }

/-- The tables compile, the book is bound, and whether its rules are found is decided by where
their targets lead. -/
theorem found_iff_leads :
    compileSchemas settings [schema] = .ok catalog ∧ ∃ set, book.bind catalog = .ok set ∧
      List.Forall₂ (fun r b => ∃ e, r.subject? catalog = some e ∧
        (b ∈ set.forTarget r.target.domain r.target.name r.target.kind ↔
          r.target.Leads (book.subjects catalog) e)) book.rules set.rules := by
  have hc : compileSchemas settings [schema] = .ok catalog := by rfl
  obtain ⟨set, hb⟩ : ∃ set, book.bind catalog = .ok set := ⟨_, rfl⟩
  exact ⟨hc, set, hb, RuleSet.mem_forTarget hc hb⟩

/-- Not every rule of a checked book is found under the name that it uses. -/
theorem hides :
    ¬ ∀ {settings : CompileSettings} {schemas : List Sql.Schema} {catalog : Catalog} {book : Book}
        {report : Report} {set : RuleSet}, compileSchemas settings schemas = .ok catalog →
      book.check catalog = .ok report → book.bind catalog = .ok set →
      List.Forall₂ (fun r b => b ∈ set.forTarget r.target.domain r.target.name r.target.kind)
        book.rules set.rules := by
  intro h
  have hc : compileSchemas settings [schema] = .ok catalog := by rfl
  obtain ⟨report, hv⟩ : ∃ report, book.check catalog = .ok report := ⟨_, rfl⟩
  obtain ⟨set, hb, names, b, bs, hr, hn⟩ : ∃ set, book.bind catalog = .ok set ∧
      (set.forTarget "default" "User" .model).map (·.name) = ["OnUsers"] ∧
      ∃ b bs, set.rules = b :: bs ∧ b.name = "OnAccount" := ⟨_, rfl, rfl, _, _, rfl, rfl⟩
  have found := h hc hv hb
  rw [hr] at found
  cases found with
  | cons hm _ =>
    have : b.name ∈ (set.forTarget "default" "User" .model).map (·.name) := List.mem_map_of_mem hm
    rw [names, hn] at this
    exact absurd this (by decide)

end Clash
end Rulebook
