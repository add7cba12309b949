import Mathlib.Data.List.Nodup
import Mathlib.Tactic.Lemma
import Rulebook.Catalog.Ordinal
import Rulebook.Proofs.Catalog.Sound

/-!
# Numbering fields

What a numbering knows is what its entity says (`Numbering.ordinal?_ofEntity`), and every field that
is numbered by it either keeps its known number or gets one beyond the last one
(`Numbering.known_or_beyond`). New fields are numbered without gaps (`Numbering.ordinals_new`), and
no two fields get one number (`Numbering.nodup_ordinals`).

A catalog keeps one numbering for a name in a domain. It is that of the entity of this name that no
view eclipses (`Catalog.Sound.numbering_eq`): of the view, if there is one, and else of the model.
-/

namespace Rulebook

namespace Numbering

variable {n : Numbering} {f g : String} {o last : Int}

/-! ## Known numbers -/

/-- The number of a name is the first one that is listed for it. -/
lemma ordinal?_cons (n : Numbering) (f g : String) (o : Int) :
    ordinal? ((f, o) :: n) g = if f = g then some o else n.ordinal? g := by
  unfold ordinal?
  grind

/-- Setting the number of a field changes the number of no other field. -/
lemma ordinal?_insert (n : Numbering) (f g : String) (o : Int) :
    (n.insert f o).ordinal? g = if f = g then some o else n.ordinal? g := by
  induction n with
  | nil => exact ordinal?_cons [] f g o
  | cons p rest ih =>
    unfold insert
    grind [ordinal?_cons]

/-- Of fields with names of their own, each has the number that it is entered with. -/
lemma ordinal?_foldl_insert {fs : List Field} :
    ∀ {n : Numbering}, (fs.map (·.name)).Nodup →
      (fs.foldl (fun n f => n.insert f.name f.ordinal) n).ordinal? g =
        ((fs.find? fun f => f.name == g).map (·.ordinal)).or (n.ordinal? g) := by
  induction fs with
  | nil => intro n _; rfl
  | cons f fs ih =>
    intro n nd
    rw [List.map_cons, List.nodup_cons] at nd
    rw [List.foldl_cons, ih nd.2, ordinal?_insert, List.find?_cons]
    by_cases hf : f.name = g
    · -- No later field has the name, so the number that is set here stays.
      have later : fs.find? (fun f => f.name == g) = none := by
        rw [List.find?_eq_none]
        intro x hx hn
        have hn : x.name = g := by simpa using hn
        exact nd.1 (List.mem_map.2 ⟨x, hx, hn.trans hf.symm⟩)
      simp [hf, later]
    · have : (f.name == g) = false := by simpa using hf
      simp [hf, this]

/-- An entity's numbering knows its fields. -/
lemma ordinal?_ofEntity {e : Entity} (nd : e.fieldNames.Nodup) (g : String) :
    (ofEntity e).ordinal? g = (e.field? g).map (·.ordinal) := by
  unfold ofEntity
  rw [ordinal?_foldl_insert nd]
  exact Option.or_none

/-- A field has its number in the numbering of its entity. -/
lemma ordinal?_of_mem {e : Entity} (nd : e.fieldNames.Nodup) {f : Field} (hf : f ∈ e.fields) :
    (ofEntity e).ordinal? f.name = some f.ordinal := by
  rw [ordinal?_ofEntity nd]
  cases h : e.field? f.name with
  | none =>
    have := List.find?_eq_none.1 h f hf
    simp at this
  | some f' =>
    obtain ⟨hf', hn⟩ := Entity.field?_some h
    rw [List.inj_on_of_nodup_map nd hf' hf hn]
    rfl

/-- A number in the numbering of an entity is the number of a field. -/
lemma mem_of_ordinal? {e : Entity} (nd : e.fieldNames.Nodup)
    (h : (ofEntity e).ordinal? g = some o) :
    ∃ f ∈ e.fields, f.name = g ∧ f.ordinal = o := by
  rw [ordinal?_ofEntity nd] at h
  obtain ⟨f, hf, ho⟩ := Option.map_eq_some_iff.1 h
  obtain ⟨hm, hn⟩ := Entity.field?_some hf
  exact ⟨f, hm, hn, ho⟩

/-- The numbering of an entity knows the names of its fields and no others. -/
lemma ordinal?_eq_none {e : Entity} (nd : e.fieldNames.Nodup) :
    (ofEntity e).ordinal? g = none ↔ g ∉ e.fieldNames := by
  rw [ordinal?_ofEntity nd, Option.map_eq_none_iff]
  unfold Entity.field? Entity.fieldNames
  rw [List.find?_eq_none, List.mem_map]
  simp

/-- None of several numbers exceeds the greatest one. -/
lemma le_foldl_max {ps : List (String × Int)} :
    ∀ {acc : Int}, acc ≤ ps.foldl (fun acc p => max acc p.2) acc ∧
      ∀ p ∈ ps, p.2 ≤ ps.foldl (fun acc p => max acc p.2) acc := by
  induction ps with
  | nil => intro acc; exact ⟨Int.le_refl _, nofun⟩
  | cons p ps ih =>
    intro acc
    obtain ⟨start, rest⟩ := @ih (max acc p.2)
    rw [List.foldl_cons, List.forall_mem_cons]
    exact ⟨by omega, by omega, rest⟩

/-- No number is beyond the highest one. -/
lemma le_highest (h : n.ordinal? f = some o) : o ≤ n.highest := by
  obtain ⟨before, after, eq, _⟩ := List.lookup_eq_some_iff.1 h
  have hm : (f, o) ∈ n := by rw [eq]; simp
  cases n with
  | nil => cases hm
  | cons p rest =>
    cases hm with
    | head => exact le_foldl_max.1
    | tail _ hm => exact le_foldl_max.2 _ hm

/-! ## Numbers that are given -/

/-- Fields with known numbers keep them all. -/
lemma assignAfter_known {fs : List Field} (h : ∀ f ∈ fs, n.ordinal? f.name = some f.ordinal) :
    n.assignAfter last (fs.map (·.name)) = fs.map (·.ordinal) := by
  induction fs with
  | nil => rfl
  | cons f fs ih =>
    obtain ⟨hf, hfs⟩ := List.forall_mem_cons.1 h
    rw [List.map_cons, List.map_cons]
    unfold assignAfter
    rw [hf, ih hfs]

/-- How the first of several fields is numbered, and what remains for the others. -/
lemma assignAfter_cons {f : Field} {fs : List Field}
    (h : (f :: fs).map (·.ordinal) = n.assignAfter last ((f :: fs).map (·.name))) :
    n.ordinal? f.name = some f.ordinal ∧ fs.map (·.ordinal) = n.assignAfter last (fs.map (·.name)) ∨
      n.ordinal? f.name = none ∧ f.ordinal = last + 1 ∧
        fs.map (·.ordinal) = n.assignAfter (last + 1) (fs.map (·.name)) := by
  rw [List.map_cons, List.map_cons] at h
  unfold assignAfter at h
  cases hk : n.ordinal? f.name with
  | some known =>
    rw [hk] at h
    obtain ⟨hf, hfs⟩ := List.cons.inj h
    exact .inl ⟨by rw [hf], hfs⟩
  | none =>
    rw [hk] at h
    obtain ⟨hf, hfs⟩ := List.cons.inj h
    exact .inr ⟨rfl, hf, hfs⟩

/-- A field that is numbered keeps its known number, or gets one beyond the last number. -/
lemma known_or_beyond {fs : List Field} :
    ∀ {last}, fs.map (·.ordinal) = n.assignAfter last (fs.map (·.name)) →
      ∀ f ∈ fs, n.ordinal? f.name = some f.ordinal ∨ n.ordinal? f.name = none ∧
      last < f.ordinal := by
  induction fs with
  | nil => intro last _ f hf; cases hf
  | cons f fs ih =>
    intro last h
    rw [List.forall_mem_cons]
    obtain ⟨hf, hfs⟩ | ⟨hf, ho, hfs⟩ := assignAfter_cons h
    · exact ⟨.inl hf, ih hfs⟩
    · -- The others go on after `last + 1`, which lies beyond `last` too.
      refine ⟨.inr ⟨hf, by omega⟩, fun g hg => ?_⟩
      exact (ih hfs g hg).imp_right fun ⟨hn, hl⟩ => ⟨hn, by omega⟩

/-- New fields are numbered one by one after the last number, in their order. -/
lemma ordinals_new {fs : List Field} :
    ∀ {last}, fs.map (·.ordinal) = n.assignAfter last (fs.map (·.name)) →
      (fs.filter fun f => (n.ordinal? f.name).isNone).map (·.ordinal) =
        (List.range (fs.filter fun f => (n.ordinal? f.name).isNone).length).map fun i :
        Nat => last + 1 + i := by
  induction fs with
  | nil => intro last _; rfl
  | cons f fs ih =>
    intro last h
    obtain ⟨hf, hfs⟩ | ⟨hf, ho, hfs⟩ := assignAfter_cons h
    · rw [List.filter_cons_of_neg (by simp [hf])]
      exact ih hfs
    · rw [List.filter_cons_of_pos (by simp [hf]), List.map_cons, ih hfs, List.length_cons,
        List.range_succ_eq_map, List.map_cons, List.map_map, ho]
      congr 1
      · simp
      · apply List.map_congr_left
        intro i _
        simp only [Function.comp_apply]
        omega

/-- Distinct fields get distinct numbers, if the known numbers are distinct. -/
lemma nodup_ordinals {fs : List Field} (nd : (fs.map (·.name)).Nodup)
    (distinct : ∀ f g o, n.ordinal? f = some o → n.ordinal? g = some o → f = g) :
    ∀ {last}, n.highest ≤ last → fs.map (·.ordinal) = n.assignAfter last (fs.map (·.name)) →
      (fs.map (·.ordinal)).Nodup := by
  induction fs with
  | nil => intro last _ _; exact .nil
  | cons f fs ih =>
    intro last hl h
    obtain ⟨hn, nd⟩ := List.nodup_cons.1 nd
    -- A later field with the number of the first one would know it, as that of the first one,
    -- or lie beyond it.
    obtain ⟨hf, hfs⟩ | ⟨hf, ho, hfs⟩ := assignAfter_cons h
    · refine List.nodup_cons.2 ⟨fun hm => ?_, ih nd hl hfs⟩
      obtain ⟨g, hg, hgo⟩ : ∃ g ∈ fs, g.ordinal = f.ordinal := List.mem_map.1 hm
      obtain hk | ⟨_, hb⟩ := known_or_beyond hfs g hg
      · exact hn (List.mem_map.2 ⟨g, hg, distinct _ _ _ hk (hgo ▸ hf)⟩)
      · have := le_highest hf
        omega
    · refine List.nodup_cons.2 ⟨fun hm => ?_, ih nd (by omega) hfs⟩
      obtain ⟨g, hg, hgo⟩ : ∃ g ∈ fs, g.ordinal = f.ordinal := List.mem_map.1 hm
      obtain hk | ⟨_, hb⟩ := known_or_beyond hfs g hg
      · have := le_highest hk
        omega
      · omega

end Numbering

/-! ## Entities and their numberings -/

/-- The fields of an entity have the numbers that a numbering gives them. -/
def Entity.NumberedBy (e : Entity) (n : Numbering) : Prop :=
  e.fields.map (·.ordinal) = n.assign e.fieldNames

/-- An entity goes on with the numbers of another one: their common fields have the same numbers,
and its new fields come after all fields of the other one. -/
structure Entity.Continues (e' e : Entity) : Prop where
  kept : ∀ f ∈ e.fields, ∀ f' ∈ e'.fields, f'.name = f.name → f'.ordinal = f.ordinal
  after : ∀ f' ∈ e'.fields, f'.name ∉ e.fieldNames → ∀ f ∈ e.fields, f.ordinal < f'.ordinal

/-- What is numbered by the numbering of an entity goes on with its numbers. -/
lemma Entity.NumberedBy.continues {e e' : Entity} (h : e'.NumberedBy (.ofEntity e))
    (nd : e.fieldNames.Nodup) :
    e'.Continues e where
  kept f hf f' hf' hn := by
    have known := Numbering.ordinal?_of_mem nd hf
    rw [← hn] at known
    obtain hk | ⟨hk, _⟩ := Numbering.known_or_beyond h f' hf'
    · exact Option.some.inj (hk.symm.trans known)
    · rw [hk] at known
      cases known
  after f' hf' hn f hf := by
    have bound := Numbering.le_highest (Numbering.ordinal?_of_mem nd hf)
    obtain hk | ⟨_, hb⟩ := Numbering.known_or_beyond h f' hf'
    · rw [(Numbering.ordinal?_eq_none nd).2 hn] at hk
      cases hk
    · omega

/-- A view has the domain and the name of a model: one numbering is kept for both, and it
is that of the view. -/
structure Entity.Eclipses (v m : Entity) : Prop where
  view : v.kind = .view
  model : m.kind = .model
  domain_eq : v.domain = m.domain
  name_eq : v.name = m.name

instance (v m : Entity) : Decidable (v.Eclipses m) :=
  decidable_of_iff (v.kind = .view ∧ m.kind = .model ∧ v.domain = m.domain ∧ v.name = m.name)
    ⟨fun ⟨hv, hm, hd, hn⟩ => ⟨hv, hm, hd, hn⟩, fun h => ⟨h.view, h.model, h.domain_eq, h.name_eq⟩⟩

/-- What eclipses a model is a view, which nothing eclipses. -/
lemma Entity.Eclipses.not_eclipses {v m : Entity} (h : v.Eclipses m) (o : Entity) :
    ¬ o.Eclipses v := by
  intro ho
  cases ho.model.symm.trans h.view

namespace Catalog

variable {c : Catalog} {e : Entity} {domain name : String}

/-- Within a domain no model comes after a view. -/
lemma Sound.views_last (hc : c.Sound) :
    c.entities.Pairwise fun a b => a.domain = b.domain → a.kind = .view → b.kind = .view := by
  unfold entities
  rw [List.pairwise_flatMap]
  constructor
  · intro d hd
    have kinds := (hc.domains d hd).kind_eq
    refine List.pairwise_append.2 ⟨?_, ?_, ?_⟩
    · refine List.pairwise_of_forall_mem_list fun a ha b _ _ hk => ?_
      cases (kinds .model a ha).symm.trans hk
    · exact List.pairwise_of_forall_mem_list fun a _ b hb _ _ => kinds .view b hb
    · exact fun a _ b hb _ _ => kinds .view b hb
  · -- Entities of two domains have different domains.
    refine (List.pairwise_map.1 hc.names).imp_of_mem fun {d d'} hd hd' hne a ha b hb hab _ => ?_
    have ofDomain : ∀ d ∈ c.domains, ∀ a ∈ d.models ++ d.views, a.domain = d.name := by
      intro d hd a ha
      obtain ha | ha := List.mem_append.1 ha
      · exact (hc.domains d hd).domain_eq .model a ha
      · exact (hc.domains d hd).domain_eq .view a ha
    exact absurd ((ofDomain d hd a ha).symm.trans (hab.trans (ofDomain d' hd' b hb))) hne

/-- The numbering of a name is empty or that of an entity of this name. -/
lemma numbering_cases (c : Catalog) (domain name : String) :
    c.numbering domain name = [] ∨
      ∃ e ∈ c.entities, e.domain = domain ∧ e.name = name ∧
      c.numbering domain name = .ofEntity e := by
  unfold numbering
  cases hf : c.entities.reverse.find? fun e => e.domain == domain && e.name == name with
  | none => exact .inl rfl
  | some e =>
    have hm := List.mem_reverse.1 (List.mem_of_find?_eq_some hf)
    have hp : e.domain = domain ∧ e.name = name := by simpa using List.find?_some hf
    exact .inr ⟨e, hm, hp.1, hp.2, rfl⟩

/-- An entity that no view eclipses is the one that is numbered under its name. -/
lemma Sound.numbering_eq (hc : c.Sound) (he : e ∈ c.entities)
    (clear : ∀ v ∈ c.entities, ¬ v.Eclipses e) :
    c.numbering e.domain e.name = .ofEntity e := by
  unfold numbering
  cases hf : c.entities.reverse.find? fun x => x.domain == e.domain && x.name == e.name with
  | none =>
    have := List.find?_eq_none.1 hf e (List.mem_reverse.2 he)
    simp at this
  | some x =>
    have hx := List.mem_reverse.1 (List.mem_of_find?_eq_some hf)
    obtain ⟨hd, hn⟩ : x.domain = e.domain ∧ x.name = e.name := by simpa using List.find?_some hf
    by_cases hk : x.kind = e.kind
    · rw [hc.unique hx he hd hk hn]
    -- Of a model and a view of one name, the view is the last one.
    cases ek : e.kind with
    | model =>
      have xk : x.kind = .view := by cases h : x.kind with
        | model => exact absurd (h.trans ek.symm) hk
        | view => rfl
      exact absurd ⟨xk, ek, hd, hn⟩ (clear x hx)
    | view =>
      obtain ⟨_, before, after, eq, hb⟩ := List.find?_eq_some_iff_append.1 hf
      have eq' : c.entities = after.reverse ++ x :: before.reverse := by
        rw [← List.reverse_reverse c.entities, eq]
        simp
      have hm : e ∈ after.reverse := by
        rw [eq'] at he
        obtain he | he := List.mem_append.1 he
        · exact he
        · cases he with
          | head => exact absurd rfl hk
          | tail _ he =>
            have := hb e (List.mem_reverse.1 he)
            simp at this
      have last := hc.views_last
      rw [eq'] at last
      have xk := (List.pairwise_append.1 last).2.2 e hm x (.head _) hd.symm ek
      exact absurd (xk.trans ek.symm) hk

end Catalog
end Rulebook
