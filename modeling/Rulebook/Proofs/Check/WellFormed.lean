import Mathlib.Tactic.Lemma
import Rulebook.Check.Rules
import Rulebook.Proofs.Outcome

/-!
# Well-formed rules

What a rule has to be like, without any order of checks: `Rule.WellFormed` says it of a rule and the
entity that it is about. The check of a rule accepts exactly the well-formed rules
(`Check.checkRule_ok`), and a book that is accepted consists of well-formed rules
(`Book.check_wellFormed`).
-/

namespace Rulebook

/-- The type of the first field of a name. -/
def Entity.fieldType? (e : Entity) (name : String) : Option ScalarType :=
  (e.field? name).map (·.type)

/-- A condition that can be applied to the fields of a type. -/
structure Condition.Admissible (c : Condition) (t : ScalarType) : Prop where
  comparable : t.isComparable = true
  ordered : c.operator.isOrdering = true → t.isOrderable = true
  fits : c.literal.fits t = true

/-- Conditions on fields that exist, and whose types admit them. -/
def Condition.AllAdmissible (typeOf : String → Option ScalarType) (cs : List Condition) : Prop :=
  ∀ c ∈ cs, ∃ t, typeOf c.field = some t ∧ c.Admissible t

/-- A requirement on an enabled category, with conditions that its fields admit. -/
structure Requirement.WellFormed (registry : Registry) (q : Requirement) : Prop where
  enabled : ∃ category, registry.category? q.category = some category ∧ category.enabled = true
  nonempty : q.conditions ≠ []
  conditions : Condition.AllAdmissible (registry.fieldType? q.category) q.conditions

/-- A rule about an entity, with conditions that the fields of the context and the entity admit. -/
structure Rule.WellFormed (catalog : Catalog) (registry : Registry) (r : Rule) (e : Entity) :
    Prop where
  target : catalog.findTarget? r.target.domain r.target.name r.target.kind = some e
  requirements : ∀ q ∈ r.requirements, q.WellFormed registry
  nonempty : ∀ logic, r.condition ≠ .compound logic []
  conditions : Condition.AllAdmissible e.fieldType? r.condition.conditions

namespace Check

variable {catalog : Catalog} {registry : Registry} {r : Rule} {e : Entity}

/-- A condition passes when the type admits it. -/
lemma conditionType_ok {c : Condition} {t : ScalarType} {label : FieldLabel} :
    conditionType r c t label = .ok () ↔ c.Admissible t := by
  unfold conditionType
  constructor
  · intro h
    split at h
    · cases h
    · split at h
      · cases h
      · split at h
        · cases h
        · rename_i hc ho hf
          refine ⟨by simpa using hc, fun hop => ?_, by simpa using hf⟩
          simpa [hop] using ho
  · rintro ⟨hc, ho, hf⟩
    cases hop : c.operator.isOrdering with
    | false => simp [hc, hf]
    | true => simp [hc, hf, ho hop]

/-- The conditions of a main condition pass when the fields of the entity admit them. -/
lemma mainConditions_ok {cs : List Condition} :
    mainConditions r e cs = .ok () ↔ Condition.AllAdmissible e.fieldType? cs := by
  induction cs with
  | nil => exact ⟨fun _ => nofun, fun _ => rfl⟩
  | cons c cs ih =>
    unfold mainConditions Condition.AllAdmissible
    rw [List.forall_mem_cons]
    cases hf : e.field? c.field with
    | none => simp [Entity.fieldType?, hf, refuse, reject]
    | some f =>
      dsimp only
      rw [Outcome.andThen_ok, conditionType_ok, ih]
      simp only [Condition.AllAdmissible, Entity.fieldType?, hf, Option.map_some, Option.some.injEq,
        exists_eq_left']

/-- The conditions of a requirement pass when the fields of its category admit them. -/
lemma requirementConditions_ok {category : Category} {cs : List Condition} :
    requirementConditions r category cs = .ok () ↔
      Condition.AllAdmissible (fun name => (category.field? name).map (·.type)) cs := by
  induction cs with
  | nil => exact ⟨fun _ => nofun, fun _ => rfl⟩
  | cons c cs ih =>
    unfold requirementConditions Condition.AllAdmissible
    rw [List.forall_mem_cons]
    cases hf : category.field? c.field with
    | none => simp [hf, refuse, reject]
    | some f =>
      dsimp only
      rw [Outcome.andThen_ok, conditionType_ok, ih]
      simp only [Condition.AllAdmissible, hf, Option.map_some, Option.some.injEq, exists_eq_left']

/-- A requirement passes when it is well formed. -/
lemma requirement_ok {q : Requirement} :
    requirement registry r q = .ok () ↔ q.WellFormed registry := by
  unfold requirement
  cases hc : registry.category? q.category with
  | none =>
    constructor
    · intro h; cases h
    · rintro ⟨⟨_, h, _⟩, _, _⟩
      rw [hc] at h; cases h
  | some category =>
    -- The category is looked up once here, and once for each field when the rule is bound.
    have types : registry.fieldType? q.category = fun name =>
        (category.field? name).map (·.type) := by
      funext name
      simp only [Registry.fieldType?, hc, Option.bind_some]
    constructor
    · intro h
      dsimp only at h
      split at h
      · cases h
      · split at h
        · cases h
        · rename_i he hn
          refine ⟨⟨category, hc, by simpa using he⟩, by simpa using hn, ?_⟩
          rw [types]
          exact requirementConditions_ok.1 h
    · rintro ⟨⟨category', hc', he⟩, hn, hq⟩
      cases hc.symm.trans hc'
      rw [types] at hq
      simp [he, hn, requirementConditions_ok.2 hq]

/-- Requirements pass when they are all well formed. -/
lemma requirements_ok {qs : List Requirement} :
    requirements registry r qs = .ok () ↔ ∀ q ∈ qs, q.WellFormed registry := by
  induction qs with
  | nil => exact ⟨fun _ => nofun, fun _ => rfl⟩
  | cons q qs ih =>
    unfold requirements
    rw [List.forall_mem_cons, Outcome.andThen_ok, requirement_ok, ih]

/-- A main condition passes when it has conditions and the fields of the entity admit them. -/
lemma mainCondition_ok :
    mainCondition r e = .ok () ↔
      (∀ logic, r.condition ≠ .compound logic []) ∧
        Condition.AllAdmissible e.fieldType? r.condition.conditions := by
  unfold mainCondition
  split
  · rename_i logic hm
    constructor
    · intro h; cases h
    · rintro ⟨h, _⟩; exact absurd hm (h logic)
  · rename_i hm
    rw [mainConditions_ok]
    exact ⟨fun h => ⟨hm, h⟩, fun h => h.2⟩

/-- The target of a rule passes when the catalog has it. -/
lemma target_ok :
    target catalog r = .ok e ↔
    catalog.findTarget? r.target.domain r.target.name r.target.kind = some e := by
  unfold target
  dsimp only
  cases catalog.findTarget? r.target.domain r.target.name r.target.kind with
  | none => exact ⟨nofun, nofun⟩
  | some e' => simp

/-- Exactly the well-formed rules pass, with the findings about them. -/
lemma checkRule_ok {ws : List Warning} :
    checkRule catalog registry r = .ok ws ↔
      ∃ e, r.WellFormed catalog registry e ∧ ws = (Lint.findings r e).map (⟨r.name, ·⟩) := by
  unfold checkRule
  rw [Outcome.bind_ok]
  constructor
  · rintro ⟨e, ht, h⟩
    obtain ⟨hq, h⟩ := Outcome.andThen_ok.1 h
    obtain ⟨hm, h⟩ := Outcome.andThen_ok.1 h
    cases h
    obtain ⟨hn, hc⟩ := mainCondition_ok.1 hm
    exact ⟨e, ⟨target_ok.1 ht, requirements_ok.1 hq, hn, hc⟩, rfl⟩
  · rintro ⟨e, ⟨ht, hq, hn, hc⟩, rfl⟩
    have hm := mainCondition_ok.2 ⟨hn, hc⟩
    exact ⟨e, target_ok.2 ht,
      Outcome.andThen_ok.2 ⟨requirements_ok.2 hq, Outcome.andThen_ok.2 ⟨hm, rfl⟩⟩⟩

/-- Rules that pass are well formed. -/
lemma checkRules_wellFormed {rs : List Rule} :
    ∀ {report}, checkRules catalog registry rs = .ok report →
      ∀ r ∈ rs, ∃ e, r.WellFormed catalog registry e := by
  induction rs with
  | nil => intro _ _ r hr; cases hr
  | cons r rs ih =>
    intro report h
    unfold checkRules at h
    obtain ⟨ws, hr, h⟩ := Outcome.bind_ok.1 h
    obtain ⟨rest, hrs, _⟩ := Outcome.bind_ok.1 h
    rw [List.forall_mem_cons]
    obtain ⟨e, he, _⟩ := checkRule_ok.1 hr
    exact ⟨⟨e, he⟩, ih hrs⟩

end Check

/-- The rules of a book that passes are well formed. -/
lemma Book.check_wellFormed {b : Book} {catalog : Catalog} {report : Report}
    (h : b.check catalog = .ok report) : ∀ r ∈ b.rules, ∃ e, r.WellFormed catalog b.registry e := by
  obtain ⟨_, _, h⟩ := Outcome.bind_ok.1 h
  exact Check.checkRules_wellFormed h

end Rulebook
