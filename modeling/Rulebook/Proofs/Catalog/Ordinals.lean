import Rulebook.Proofs.Catalog.History

/-!
# Numbers of fields in every version

In every version of a project the fields of an entity have names and numbers of their own, and the
numbers start at 1 (`History.ordinals_identify`). The first version numbers the fields in their
order. A later one looks at the last entity that the version before lists under the domain and the
name: the fields that this entity does not have come one by one after all of its numbers.

That no number lies below 1 is kept from one version to the next (`Catalog.CompiledAfter.positive`).
It is what makes the highest number of a numbering that of its entity, or zero
(`Entity.highest_ofEntity`).
-/

namespace Rulebook

/-! ## Highest numbers -/

/-- The numbers of fields go on one by one after a number, in the order of the fields. -/
def NumberedAfter (o : Int) (fs : List Field) : Prop :=
  fs.map (·.ordinal) = (List.range fs.length).map fun i : Nat => o + 1 + i

namespace Numbering

variable {n : Numbering} {f : String} {o : Int}

/-- A field without a number gets its number at the end. -/
lemma insert_of_notMem (h : f ∉ n.map (·.1)) : n.insert f o = n ++ [(f, o)] := by
  induction n with
  | nil => rfl
  | cons p rest ih =>
    obtain ⟨hp, hrest⟩ : f ≠ p.1 ∧ f ∉ rest.map (·.1) := by simpa using h
    unfold insert
    rw [if_neg (Ne.symm hp), ih hrest, List.cons_append]

/-- Inserting the numbers of fields with names of their own, none of which is
listed, appends them. -/
lemma foldl_insert {fs : List Field} :
    ∀ {n : Numbering}, (n.map (·.1) ++ fs.map (·.name)).Nodup →
      fs.foldl (fun n f => n.insert f.name f.ordinal) n = n ++ fs.map fun f =>
      (f.name, f.ordinal) := by
  induction fs with
  | nil => intro n _; simp
  | cons f fs ih =>
    intro n nd
    have new : f.name ∉ n.map (·.1) := fun hm => (List.nodup_append.1 nd).2.2 _ hm _ (.head _) rfl
    rw [List.foldl_cons, insert_of_notMem new, ih (by simpa using nd), List.append_assoc]
    rfl

/-- The highest of several numbers that are not negative. -/
lemma highest_of_nonneg (h : ∀ p ∈ n, 0 ≤ p.2) : n.highest = (n.map (·.2)).foldl max 0 := by
  cases n with
  | nil => rfl
  | cons p rest =>
    rw [List.map_cons, List.foldl_cons, Int.max_eq_right (h p (.head _)), List.foldl_map]
    rfl

end Numbering

namespace Entity

variable {e p : Entity}

/-- The highest number of an entity's fields; zero if it has none. -/
def lastOrdinal (e : Entity) : Int := (e.fields.map (·.ordinal)).foldl max 0

/-- The fields of an entity whose names another one does not have. -/
def fieldsBeyond (e p : Entity) : List Field := e.fields.filter fun f => f.name ∉ p.fieldNames

/-- The numbers of an entity's fields start at 1. -/
def Positive (e : Entity) : Prop := ∀ f ∈ e.fields, 1 ≤ f.ordinal

/-- The last number of an entity is not negative. -/
lemma lastOrdinal_nonneg (e : Entity) : 0 ≤ e.lastOrdinal := by
  unfold lastOrdinal
  rw [List.foldl_map]
  have bound := @Numbering.le_foldl_max (e.fields.map fun f => (f.name, f.ordinal)) 0
  rw [List.foldl_map] at bound
  exact bound.1

/-- The highest number of an entity's numbering is that of its fields. -/
lemma highest_ofEntity (nd : e.fieldNames.Nodup) (pos : e.Positive) :
    (Numbering.ofEntity e).highest = e.lastOrdinal := by
  have eq : Numbering.ofEntity e = e.fields.map fun f => (f.name, f.ordinal) :=
    Numbering.foldl_insert nd
  rw [Numbering.highest_of_nonneg, eq, List.map_map]
  · rfl
  · rw [eq]
    intro q hq
    obtain ⟨f, hf, rfl⟩ := List.mem_map.1 hq
    exact Int.le_trans (by decide) (pos f hf)

/-- The fields that an entity's numbering does not know are those whose names the
entity does not have. -/
lemma newFields_ofEntity (nd : p.fieldNames.Nodup) :
    e.newFields (.ofEntity p) = e.fieldsBeyond p := by
  apply List.filter_congr
  intro f _
  rw [Bool.eq_iff_iff, Option.isNone_iff_eq_none, Numbering.ordinal?_eq_none nd, decide_eq_true_iff]

/-- A numbering without entries knows no field. -/
lemma newFields_nil (e : Entity) : e.newFields [] = e.fields := List.filter_eq_self.2 fun _ _ => rfl

/-- New fields are numbered after the highest number. -/
lemma NumberedBy.numberedAfter {n : Numbering} (h : e.NumberedBy n) :
    NumberedAfter n.highest (e.newFields n) :=
  Numbering.ordinals_new h

end Entity

/-! ## Versions -/

/-- The last entity that a catalog lists under a domain and a name. -/
structure Catalog.LastNamed (c : Catalog) (domain name : String) (e : Entity) : Prop where
  domain_eq : e.domain = domain
  name_eq : e.name = name
  last : ∃ before after, c.entities = before ++ e :: after ∧ ∀ x ∈ after,
    ¬ (x.domain = domain ∧ x.name = name)

namespace Catalog

variable {c p : Catalog} {domain name : String} {e q : Entity}

/-- The last entity of a name gives the numbering that is kept under it. -/
lemma LastNamed.numbering_eq (h : c.LastNamed domain name q) :
    c.numbering domain name = .ofEntity q := by
  obtain ⟨before, after, eq, none_after⟩ := h.last
  have found : c.entities.reverse.find? (fun e => e.domain == domain && e.name == name) =
      some q := by
    refine List.find?_eq_some_iff_append.2 ⟨by simp [h.domain_eq, h.name_eq], after.reverse,
      before.reverse, ?_, ?_⟩
    · simp [eq]
    · intro x hx
      obtain hd | hn := not_and_or.1 (none_after x (List.mem_reverse.1 hx))
      · simp [hd]
      · simp [hn]
  unfold numbering
  rw [found]

/-- The last entity of a name is one of the catalog. -/
lemma LastNamed.mem (h : c.LastNamed domain name q) : q ∈ c.entities := by
  obtain ⟨before, after, eq, _⟩ := h.last
  simp [eq]

/-- Under a name that no entity has, no number is kept. -/
lemma numbering_eq_nil (h : ∀ q ∈ c.entities, ¬ (q.domain = domain ∧ q.name = name)) :
    c.numbering domain name = [] := by
  obtain eq | ⟨q, hq, hd, hn, _⟩ := c.numbering_cases domain name
  · exact eq
  · exact absurd ⟨hd, hn⟩ (h q hq)

/-- The numbers of a version start at 1, if those of the version before do. -/
lemma CompiledAfter.positive {previous : Option Catalog} (step : c.CompiledAfter previous)
    (before : ∀ p ∈ previous, p.Sound ∧ ∀ e ∈ p.entities, e.Positive) :
    ∀ e ∈ c.entities, e.Positive := by
  intro e he f hf
  obtain none_kept | ⟨p, q, rfl, hq, eq⟩ : previousNumbering previous e.domain e.name = [] ∨
      ∃ p q, previous = some p ∧ q ∈ p.entities ∧
      previousNumbering previous e.domain e.name = .ofEntity q := by
    cases previous with
    | none => exact .inl rfl
    | some p =>
      obtain empty | ⟨q, hq, _, _, eq⟩ := p.numbering_cases e.domain e.name
      · exact .inl empty
      · exact .inr ⟨p, q, rfl, hq, eq⟩
  · have numbered := none_kept ▸ step.numbered he
    obtain known | ⟨_, beyond⟩ := Numbering.known_or_beyond numbered f hf
    · cases known
    · exact beyond
  · have numbered := eq ▸ step.numbered he
    obtain ⟨sound, pos⟩ := before p rfl
    have nd := sound.fields_nodup hq
    obtain known | ⟨_, beyond⟩ := Numbering.known_or_beyond numbered f hf
    · obtain ⟨g, hg, _, ho⟩ := Numbering.mem_of_ordinal? nd known
      exact ho ▸ pos q hq g hg
    · rw [Entity.highest_ofEntity nd (pos q hq)] at beyond
      have := q.lastOrdinal_nonneg
      omega

end Catalog

namespace History

variable {cs : List Catalog} {c : Catalog}

/-- The oldest version is compiled without one before. -/
lemma compiledFirst (h : History cs) (hl : cs.getLast? = some c) : c.CompiledAfter none := by
  induction h with
  | first step =>
    cases hl
    exact step
  | next _ _ ih =>
    rw [List.getLast?_cons_cons] at hl
    exact ih hl

/-- In each version of a history, the fields have positive numbers. -/
lemma positive (h : History cs) : ∀ c ∈ cs, ∀ e ∈ c.entities, e.Positive := by
  induction h with
  | first step =>
    rw [List.forall_mem_singleton]
    exact step.positive nofun
  | @next c p older step hp ih =>
    refine List.forall_mem_cons.2 ⟨step.positive ?_, ih⟩
    intro q hq
    cases hq
    exact ⟨hp.sound (.head _), ih p (.head _)⟩

/-- In every version the fields of an entity have names and numbers of their own, from 1 on. In
the first version they are numbered in their order. In a later one the last entity that the
version before lists under the domain and the name counts: common fields keep its numbers, the
others are numbered after them, one by one and in their order; without such an entity the fields
are numbered from 1. -/
theorem ordinals_identify (h : History cs) :
    (∀ c ∈ cs, ∀ e ∈ c.entities, e.fieldNames.Nodup ∧ e.Distinct ∧ e.Positive) ∧
    (∀ c, cs.getLast? = some c → ∀ e ∈ c.entities, NumberedAfter 0 e.fields) ∧
    ∀ p c, [c, p] <:+: cs → ∀ e ∈ c.entities,
      (∀ q, p.LastNamed e.domain e.name q → e.Continues q ∧
        NumberedAfter q.lastOrdinal (e.fieldsBeyond q)) ∧
      ((∀ q ∈ p.entities, ¬ (q.domain = e.domain ∧ q.name = e.name)) →
        NumberedAfter 0 e.fields) := by
  refine ⟨fun c hc e he => ⟨(h.sound hc).fields_nodup he, h.distinct c hc e he,
    h.positive c hc e he⟩, ?_, ?_⟩
  · intro c hl e he
    have numbered := ((h.compiledFirst hl).numbered he).numberedAfter
    rwa [show previousNumbering none e.domain e.name = [] from rfl, e.newFields_nil] at numbered
  · rintro p c ⟨newer, older, rfl⟩ e he
    have positive := h.positive p (by simp)
    rw [List.append_assoc] at h
    have hp : p.Sound := h.sound (by simp)
    have numbered : e.NumberedBy (p.numbering e.domain e.name) := h.compiledAfter.numbered he
    constructor
    · intro q last
      have nd := hp.fields_nodup last.mem
      rw [last.numbering_eq] at numbered
      have after := numbered.numberedAfter
      rw [Entity.highest_ofEntity nd (positive q last.mem), Entity.newFields_ofEntity nd] at after
      exact ⟨numbered.continues nd, after⟩
    · intro none_named
      rw [Catalog.numbering_eq_nil none_named] at numbered
      have after := numbered.numberedAfter
      rwa [e.newFields_nil] at after

end History

namespace Versions

/-- The users of the second version come after the view, which is listed last under their name: the
age keeps the view's number, and the field that the view does not have gets the number after it. -/
theorem users_numbered :
    History [catalog 2 1, catalog 1 2] ∧ (users 2 1).Distinct ∧ (users 2 1).Positive ∧
      NumberedAfter 0 (users 1 2).fields ∧ (catalog 1 2).LastNamed "default" "User" shown ∧
      (users 2 1).Continues shown ∧ NumberedAfter 1 ((users 2 1).fieldsBeyond shown) := by
  obtain ⟨distinct, first, later⟩ := History.ordinals_identify twice_history
  have last : (catalog 1 2).LastNamed "default" "User" shown :=
    ⟨rfl, rfl, [users 1 2, ages], [], rfl, nofun⟩
  have step := later (catalog 1 2) (catalog 2 1) ⟨[], [], rfl⟩ (users 2 1) (.head _)
  obtain ⟨-, own, positive⟩ := distinct (catalog 2 1) (.head _) (users 2 1) (.head _)
  obtain ⟨continues, after⟩ := step.1 shown last
  exact ⟨twice_history, own, positive, first (catalog 1 2) rfl (users 1 2) (.head _),
    last, continues, after⟩

end Versions
end Rulebook
