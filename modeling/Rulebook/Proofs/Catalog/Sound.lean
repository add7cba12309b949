import Mathlib.Data.List.Nodup
import Mathlib.Tactic.Lemma
import Rulebook.Catalog.Entity

/-!
# Sound catalogs

In a sound catalog a domain, a kind and a name belong to one entity (`Catalog.Sound.unique`),
and the fields of an entity have names of their own, so that the first field of a name is the
only one. A target that is found (`Catalog.Sound.of_findTarget?`) lies in the domain and has the
kind it was asked for.
-/

namespace Rulebook

/-- A domain whose entities know their domain and kind, and whose names are distinct within a kind
and within an entity. -/
structure Domain.Sound (d : Domain) : Prop where
  domain_eq : ∀ k, ∀ e ∈ d.ofKind k, e.domain = d.name
  kind_eq : ∀ k, ∀ e ∈ d.ofKind k, e.kind = k
  names : ∀ k, ((d.ofKind k).map (·.name)).Nodup
  fields : ∀ k, ∀ e ∈ d.ofKind k, e.fieldNames.Nodup

/-- A catalog of sound domains with names of their own. -/
structure Catalog.Sound (c : Catalog) : Prop where
  names : (c.domains.map (·.name)).Nodup
  domains : ∀ d ∈ c.domains, d.Sound

/-- The entities of a catalog are those of its domains. -/
lemma Catalog.mem_entities {c : Catalog} {e : Entity} :
    e ∈ c.entities ↔ ∃ d ∈ c.domains, ∃ k, e ∈ d.ofKind k := by
  simp only [Catalog.entities, List.mem_flatMap, List.mem_append]
  constructor
  · rintro ⟨d, hd, h | h⟩
    · exact ⟨d, hd, .model, h⟩
    · exact ⟨d, hd, .view, h⟩
  · rintro ⟨d, hd, k, h⟩
    cases k with
    | model => exact ⟨d, hd, .inl h⟩
    | view => exact ⟨d, hd, .inr h⟩

namespace Catalog.Sound

variable {c : Catalog} {domain name : String} {kind : TargetKind} {e e' : Entity}

/-- Entities of one domain and kind stand in one place. -/
lemma place_eq (hc : c.Sound) {d d' : Domain} {k k' : TargetKind} (dm : d ∈ c.domains)
    (em : e ∈ d.ofKind k) (dm' : d' ∈ c.domains) (em' : e' ∈ d'.ofKind k')
    (hd : e.domain = e'.domain) (hk : e.kind = e'.kind) :
    d = d' ∧ k = k' := by
  have sd := hc.domains d dm
  have sd' := hc.domains d' dm'
  have ed : d.name = d'.name := by rw [← sd.domain_eq k e em, hd, sd'.domain_eq k' e' em']
  have ek : k = k' := by rw [← sd.kind_eq k e em, hk, sd'.kind_eq k' e' em']
  exact ⟨List.inj_on_of_nodup_map hc.names dm dm' ed, ek⟩

/-- Domain, kind and name tell the entities of a catalog apart. -/
lemma unique (hc : c.Sound) (he : e ∈ c.entities) (he' : e' ∈ c.entities)
    (hd : e.domain = e'.domain) (hk : e.kind = e'.kind) (hn : e.name = e'.name) : e = e' := by
  obtain ⟨d, dm, k, em⟩ := Catalog.mem_entities.1 he
  obtain ⟨d', dm', k', em'⟩ := Catalog.mem_entities.1 he'
  obtain ⟨rfl, rfl⟩ := hc.place_eq dm em dm' em' hd hk
  exact List.inj_on_of_nodup_map ((hc.domains d dm).names k) em em' hn

/-- A domain is found by its name. -/
lemma domain?_name (hc : c.Sound) {d : Domain} (dm : d ∈ c.domains) :
    c.domain? d.name = some d := by
  cases found : c.domain? d.name with
  | none =>
    have := List.find?_eq_none.1 found d dm
    simp at this
  | some d' =>
    have dn : d'.name = d.name := by simpa using List.find?_some found
    rw [List.inj_on_of_nodup_map hc.names (List.mem_of_find?_eq_some found) dm dn]

/-- The fields of an entity have names of their own. -/
lemma fields_nodup (hc : c.Sound) (he : e ∈ c.entities) : e.fieldNames.Nodup := by
  obtain ⟨d, dm, k, em⟩ := Catalog.mem_entities.1 he
  exact (hc.domains d dm).fields k e em

/-- A target that is found is an entity of the domain and kind it was asked for,
and goes by the name. -/
lemma of_findTarget? (hc : c.Sound) (h : c.findTarget? domain name kind = some e) :
    e ∈ c.entities ∧ e.domain = domain ∧ e.kind = kind ∧ e.answersTo name = true := by
  obtain ⟨d, hd, he⟩ := Option.bind_eq_some_iff.1 h
  have dm := List.mem_of_find?_eq_some hd
  have dn : d.name = domain := by simpa using List.find?_some hd
  have em := List.mem_of_find?_eq_some he
  have sd := hc.domains d dm
  have ea : e.answersTo name = true := by simpa using List.find?_some he
  refine ⟨Catalog.mem_entities.2 ⟨d, dm, kind, em⟩, ?_, sd.kind_eq kind e em, ea⟩
  rw [sd.domain_eq kind e em, dn]

end Catalog.Sound

/-- A field that is found by a name has it. -/
lemma Entity.field?_some {e : Entity} {f : Field} {name : String} (h : e.field? name = some f) :
    f ∈ e.fields ∧ f.name = name := by
  have hn : f.name = name := by simpa using List.find?_some h
  exact ⟨List.mem_of_find?_eq_some h, hn⟩

end Rulebook
