import Mathlib.Data.List.Nodup
import Rulebook.Proofs.Check.WellFormed

/-!
# Faults of rules

What a book is rejected for, rule by rule and without following the check. A rule is faulty in its
target, or else in its first requirement that is not well formed, or else in its main condition
(`Rule.Faulty`), and it has a fault exactly if it is not well formed (`Rule.exists_faulty_iff`).
`Book.check_decides` says what the check of a book comes to: a report on all rules of a well-formed
book, or else the fault of one rule, which is the first one that has the name of an earlier rule, or
if there is none the first one that is not well formed.
-/

namespace Rulebook

/-! ## First faults -/

/-- The first item of a list that is not good has a fault. -/
inductive FirstFault {α φ : Type} (good : α → Prop) (fault : α → φ → Prop) : List α → φ → Prop where
  | here {a as f} :
    fault a f →
    FirstFault good fault (a :: as) f
  | later {a as f} :
    good a →
    FirstFault good fault as f →
    FirstFault good fault (a :: as) f

namespace FirstFault

variable {α φ : Type} {good : α → Prop} {fault : α → φ → Prop} {as : List α} {f : φ}

/-- Good items may stand before a first fault. -/
lemma append {before : List α} (h : ∀ b ∈ before, good b) (hf : FirstFault good fault as f) :
    FirstFault good fault (before ++ as) f := by
  induction before with
  | nil => exact hf
  | cons b before ih =>
    obtain ⟨hb, h⟩ := List.forall_mem_cons.1 h
    exact .later hb (ih h)

/-- All items before the one that has the fault are good. -/
lemma split (h : FirstFault good fault as f) :
    ∃ before a after, as = before ++ a :: after ∧ (∀ b ∈ before, good b) ∧ fault a f := by
  induction h with
  | @here a as f hf => exact ⟨[], a, as, rfl, List.forall_mem_nil _, hf⟩
  | @later b as f hb _ ih =>
    obtain ⟨before, a, after, rfl, h, hf⟩ := ih
    exact ⟨b :: before, a, after, rfl, List.forall_mem_cons.2 ⟨hb, h⟩, hf⟩

end FirstFault

/-- A rule is rejected for a fault: the failure tells the rule's place and its name. -/
def Rule.refusal (r : Rule) (fault : RuleFault) : Failure :=
  .diagnostic ⟨.rule fault, r.place, some r.name⟩

/-- Steps that are taken in turn, each of which fails if its item has a fault, fail
with the first fault. -/
lemma Outcome.forM_error {α φ : Type} {step : α → Outcome Unit} {good : α → Prop}
    {fault : α → φ → Prop} {refusal : φ → Failure} (ok : ∀ a, step a = .ok () ↔ good a)
    (error : ∀ a x, step a = .error x ↔ ∃ f, fault a f ∧ x = refusal f)
    (as : List α) (x : Failure) :
    forM as step = .error x ↔ ∃ f, FirstFault good fault as f ∧ x = refusal f := by
  induction as with
  | nil =>
    constructor
    · intro h; cases h
    · rintro ⟨f, h, _⟩; cases h
  | cons a as ih =>
    rw [List.forM_cons, Outcome.bind_error, error]
    constructor
    · rintro (⟨f, hf, rfl⟩ | ⟨_, ha, h⟩)
      · exact ⟨f, .here hf, rfl⟩
      · obtain ⟨f, hf, rfl⟩ := ih.1 h
        exact ⟨f, .later ((ok a).1 ha) hf, rfl⟩
    · rintro ⟨f, hf, rfl⟩
      cases hf with
      | here hf => exact .inl ⟨f, hf, rfl⟩
      | later ha hf => exact .inr ⟨(), (ok a).2 ha, ih.2 ⟨f, hf, rfl⟩⟩

/-! ## What can be wrong -/

/-- A condition does not fit the type of its field: the type admits no condition, or no order,
or not this literal. -/
inductive Condition.Misfit (c : Condition) (t : ScalarType) (field : FieldLabel) :
    RuleFault → Prop where
  | type :
    t.isComparable = false →
    Misfit c t field (.notComparable field t)
  | order :
    t.isComparable = true →
    c.operator.isOrdering = true → t.isOrderable = false →
    Misfit c t field (.noOrder c.operator field)
  | literal :
    t.isComparable = true →
    (c.operator.isOrdering = true → t.isOrderable = true) →
    c.literal.fits t = false →
    Misfit c t field (.literalMismatch c.literal.shape c.literal.display t field)

/-- The fields that conditions may name, what is wrong with any other name, and how
faults speak of a field. -/
structure FieldScope where
  typeOf : String → Option ScalarType
  missing : String → RuleFault
  label : String → FieldLabel

/-- The fields of an entity. -/
def Entity.scope (e : Entity) : FieldScope := ⟨e.fieldType?, Check.missingField e, .entity⟩

/-- The fields of a category. -/
def Category.scope (c : Category) : FieldScope :=
  ⟨fun name => (c.field? name).map (·.type), .noCategoryField c.name, .context c.name⟩

/-- A condition on a field whose type admits it. -/
def Condition.AdmissibleIn (typeOf : String → Option ScalarType) (c : Condition) : Prop :=
  ∃ t, typeOf c.field = some t ∧ c.Admissible t

/-- A condition names no field, or does not fit its type. -/
inductive Condition.Faulty (scope : FieldScope) (c : Condition) : RuleFault → Prop where
  | missing :
    scope.typeOf c.field = none →
    Faulty scope c (scope.missing c.field)
  | misfit {t f} :
    scope.typeOf c.field = some t →
    c.Misfit t (scope.label c.field) f →
    Faulty scope c f

/-- The first of some conditions that is not admissible is faulty. -/
def Condition.FirstFaulty (scope : FieldScope) : List Condition → RuleFault → Prop :=
  FirstFault (·.AdmissibleIn scope.typeOf) (·.Faulty scope)

/-- A requirement is on a category that does not exist or is switched off, or it has no conditions,
or one of these is faulty. -/
inductive Requirement.Faulty (registry : Registry) (q : Requirement) : RuleFault → Prop where
  | unknown :
    registry.category? q.category = none →
    Faulty registry q (.unknownCategory q.category)
  | disabled {category} :
    registry.category? q.category = some category → category.enabled = false →
    Faulty registry q (.disabledCategory q.category)
  | empty {category} :
    registry.category? q.category = some category → category.enabled = true →
    q.conditions = [] →
    Faulty registry q (.emptyGroup q.category)
  | condition {category f} :
    registry.category? q.category = some category → category.enabled = true →
    Condition.FirstFaulty category.scope q.conditions f →
    Faulty registry q f

/-- What is wrong with a rule: its target; with a target, its first requirement that is not well
formed; with well-formed requirements, its main condition. -/
inductive Rule.Faulty (catalog : Catalog) (registry : Registry) (r : Rule) : RuleFault → Prop where
  | target :
    catalog.findTarget? r.target.domain r.target.name r.target.kind = none →
    Faulty catalog registry r (.noTarget r.target.kind r.target.name r.target.domain
      (catalog.findTarget? r.target.domain r.target.name r.target.kind.other).isSome)
  | requirement {e f} :
    catalog.findTarget? r.target.domain r.target.name r.target.kind = some e →
    FirstFault (·.WellFormed registry) (·.Faulty registry) r.requirements f →
    Faulty catalog registry r f
  | empty {e logic} :
    catalog.findTarget? r.target.domain r.target.name r.target.kind = some e →
    (∀ q ∈ r.requirements, q.WellFormed registry) →
    r.condition = .compound logic [] →
    Faulty catalog registry r .emptyCompound
  | condition {e f} :
    catalog.findTarget? r.target.domain r.target.name r.target.kind = some e →
    (∀ q ∈ r.requirements, q.WellFormed registry) →
    Condition.FirstFaulty e.scope r.condition.conditions f →
    Faulty catalog registry r f

/-- A book of rules that are well formed and have names of their own. -/
structure Book.WellFormed (book : Book) (catalog : Catalog) : Prop where
  names : (book.rules.map (·.name)).Nodup
  rules : ∀ r ∈ book.rules, ∃ e, r.WellFormed catalog book.registry e

/-- A book is rejected for its first rule that has the name of an earlier one, or else for its first
rule that is not well formed. -/
inductive Book.Rejected (book : Book) (catalog : Catalog) : Failure → Prop where
  | repeated {before r after first} :
    book.rules = before ++ r :: after →
    (before.map (·.name)).Nodup →
    first ∈ before → first.name = r.name →
    Rejected book catalog (r.refusal (.duplicateName r.name (Check.declaredAt first)))
  | faulty {before r after f} :
    (book.rules.map (·.name)).Nodup →
    book.rules = before ++ r :: after →
    (∀ s ∈ before, ∃ e, s.WellFormed catalog book.registry e) →
    (¬ ∃ e, r.WellFormed catalog book.registry e) →
    r.Faulty catalog book.registry f →
    Rejected book catalog (r.refusal f)

/-- The warnings about a rule: what is odd about it in view of its target. -/
def Rule.warnings (catalog : Catalog) (r : Rule) : List Warning :=
  match catalog.findTarget? r.target.domain r.target.name r.target.kind with
  | some e => (Lint.findings r e).map (⟨r.name, ·⟩)
  | none => []

/-! ## The check of a rule -/

namespace Check

variable {catalog : Catalog} {registry : Registry} {r : Rule} {e : Entity} {x : Failure}

/-- A condition on a field of a known type is rejected for its misfit. -/
lemma conditionType_error {c : Condition} {t : ScalarType} {field : FieldLabel} :
    conditionType r c t field = .error x ↔ ∃ f, c.Misfit t field f ∧ x = r.refusal f := by
  unfold conditionType
  constructor
  · intro h
    split at h
    · rename_i hc
      cases h
      exact ⟨_, .type (by simpa using hc), rfl⟩
    · rename_i hc
      have hc : t.isComparable = true := by simpa using hc
      split at h
      · rename_i ho
        cases h
        obtain ⟨ho, hn⟩ : c.operator.isOrdering = true ∧ t.isOrderable = false := by simpa using ho
        exact ⟨_, .order hc ho hn, rfl⟩
      · rename_i ho
        split at h
        · rename_i hl
          cases h
          exact ⟨_, .literal hc (by simpa using ho) (by simpa using hl), rfl⟩
        · cases h
  · rintro ⟨f, hf, rfl⟩
    cases hf with
    | type hc => rw [hc]; rfl
    | order hc ho hn => rw [hc, ho, hn]; rfl
    | literal hc ho hl =>
      cases hop : c.operator.isOrdering with
      | false => rw [hc, hl]; rfl
      | true => rw [hc, ho hop, hl]; rfl

/-- The check of a condition on one of some fields. -/
def conditionIn (r : Rule) (scope : FieldScope) (c : Condition) : Outcome Unit :=
  match scope.typeOf c.field with
  | none => refuse r (scope.missing c.field)
  | some t => conditionType r c t (scope.label c.field)

/-- A condition passes if it is admissible in the scope of its fields. -/
lemma conditionIn_ok {scope : FieldScope} (c : Condition) :
    conditionIn r scope c = .ok () ↔ c.AdmissibleIn scope.typeOf := by
  unfold conditionIn Condition.AdmissibleIn
  cases scope.typeOf c.field with
  | none =>
    constructor
    · intro h; cases h
    · rintro ⟨_, h, _⟩; cases h
  | some t =>
    rw [conditionType_ok]
    constructor
    · intro h; exact ⟨t, rfl, h⟩
    · rintro ⟨_, h, ha⟩; cases h; exact ha

/-- A condition is rejected for its fault in the scope of its fields. -/
lemma conditionIn_error {scope : FieldScope} (c : Condition) (x : Failure) :
    conditionIn r scope c = .error x ↔ ∃ f, c.Faulty scope f ∧ x = r.refusal f := by
  unfold conditionIn
  cases ht : scope.typeOf c.field with
  | none =>
    constructor
    · intro h
      cases h
      exact ⟨_, .missing ht, rfl⟩
    · rintro ⟨f, hf, rfl⟩
      cases hf with
      | missing => rfl
      | misfit h _ => rw [ht] at h; cases h
  | some t =>
    rw [conditionType_error]
    constructor
    · rintro ⟨f, hf, rfl⟩
      exact ⟨f, .misfit ht hf, rfl⟩
    · rintro ⟨f, hf, rfl⟩
      cases hf with
      | missing h => rw [ht] at h; cases h
      | misfit h hm => cases ht.symm.trans h; exact ⟨f, hm, rfl⟩

/-- Main conditions and the conditions of requirements are checked in one way,
on different fields. -/
lemma mainConditions_eq (cs : List Condition) :
    mainConditions r e cs = forM cs (conditionIn r e.scope) := by
  induction cs with
  | nil => rfl
  | cons c cs ih =>
    rw [List.forM_cons, ← ih, mainConditions]
    unfold conditionIn Entity.scope Entity.fieldType?
    dsimp only
    cases e.field? c.field with
    | none => rfl
    | some f => rfl

/-- The conditions of a requirement are checked in turn, in the scope of its category. -/
lemma requirementConditions_eq {category : Category} (cs : List Condition) :
    requirementConditions r category cs = forM cs (conditionIn r category.scope) := by
  induction cs with
  | nil => rfl
  | cons c cs ih =>
    rw [List.forM_cons, ← ih, requirementConditions]
    unfold conditionIn Category.scope
    dsimp only
    cases category.field? c.field with
    | none => rfl
    | some f => rfl

/-- Main conditions are rejected for the first fault among them. -/
lemma mainConditions_error {cs : List Condition} :
    mainConditions r e cs = .error x ↔ ∃ f, Condition.FirstFaulty e.scope cs f ∧
    x = r.refusal f := by
  rw [mainConditions_eq]
  exact Outcome.forM_error conditionIn_ok conditionIn_error cs x

/-- The conditions of a requirement are rejected for the first fault among them. -/
lemma requirementConditions_error {category : Category} {cs : List Condition} :
    requirementConditions r category cs = .error x ↔
      ∃ f, Condition.FirstFaulty category.scope cs f ∧ x = r.refusal f := by
  rw [requirementConditions_eq]
  exact Outcome.forM_error conditionIn_ok conditionIn_error cs x

/-- A requirement is rejected for its fault. -/
lemma requirement_error (q : Requirement) (x : Failure) :
    requirement registry r q = .error x ↔ ∃ f, q.Faulty registry f ∧ x = r.refusal f := by
  unfold requirement
  cases hc : registry.category? q.category with
  | none =>
    constructor
    · intro h
      cases h
      exact ⟨_, .unknown hc, rfl⟩
    · rintro ⟨f, hf, rfl⟩
      cases hf with
      | unknown => rfl
      | disabled h | empty h | condition h => rw [hc] at h; cases h
  | some category =>
    dsimp only
    constructor
    · intro h
      split at h
      · rename_i he
        cases h
        exact ⟨_, .disabled hc (by simpa using he), rfl⟩
      · rename_i he
        have he : category.enabled = true := by simpa using he
        split at h
        · rename_i hn
          cases h
          exact ⟨_, .empty hc he (by simpa using hn), rfl⟩
        · obtain ⟨f, hf, rfl⟩ := requirementConditions_error.1 h
          exact ⟨f, .condition hc he hf, rfl⟩
    · rintro ⟨f, hf, rfl⟩
      cases hf with
      | unknown h => rw [hc] at h; cases h
      | disabled h he => cases hc.symm.trans h; rw [he]; rfl
      | empty h he hn => cases hc.symm.trans h; rw [he, hn]; rfl
      | condition h he hf =>
        cases hc.symm.trans h
        have hn : q.conditions.isEmpty = false := by
          cases hq : q.conditions with
          | nil => rw [hq] at hf; cases hf
          | cons => rfl
        rw [he, hn]
        exact requirementConditions_error.2 ⟨f, hf, rfl⟩

/-- Requirements are checked in turn. -/
lemma requirements_eq (qs : List Requirement) :
    requirements registry r qs = forM qs (requirement registry r) := by
  induction qs with
  | nil => rfl
  | cons q qs ih => rw [List.forM_cons, ← ih, requirements]

/-- Requirements are rejected for the first fault among them. -/
lemma requirements_error {qs : List Requirement} :
    requirements registry r qs = .error x ↔
      ∃ f, FirstFault (·.WellFormed registry) (·.Faulty registry) qs f ∧ x = r.refusal f := by
  rw [requirements_eq]
  exact Outcome.forM_error (fun _ => requirement_ok) requirement_error qs x

/-- A main condition is rejected for having no conditions, or for the first fault among them. -/
lemma mainCondition_error :
    mainCondition r e = .error x ↔
      (∃ logic, r.condition = .compound logic []) ∧ x = r.refusal .emptyCompound ∨
        ∃ f, Condition.FirstFaulty e.scope r.condition.conditions f ∧ x = r.refusal f := by
  unfold mainCondition
  split
  · rename_i logic hm
    constructor
    · intro h
      cases h
      exact .inl ⟨⟨logic, hm⟩, rfl⟩
    · rintro (⟨_, rfl⟩ | ⟨f, hf, _⟩)
      · rfl
      · rw [hm] at hf; cases hf
  · rename_i hm
    rw [mainConditions_error]
    constructor
    · intro h; exact .inr h
    · rintro (⟨⟨logic, h⟩, _⟩ | h)
      · exact absurd h (hm logic)
      · exact h

/-- A target is rejected if there is none of its name; the failure tells whether there is one
of the other kind. -/
lemma target_error :
    target catalog r = .error x ↔
      catalog.findTarget? r.target.domain r.target.name r.target.kind = none ∧
        x = r.refusal (.noTarget r.target.kind r.target.name r.target.domain
          (catalog.findTarget? r.target.domain r.target.name r.target.kind.other).isSome) := by
  unfold target
  dsimp only
  cases catalog.findTarget? r.target.domain r.target.name r.target.kind with
  | none =>
    constructor
    · intro h; cases h; exact ⟨rfl, rfl⟩
    · rintro ⟨_, rfl⟩; rfl
  | some e =>
    constructor
    · intro h; cases h
    · rintro ⟨h, _⟩; cases h

/-- A rule is refused for what is wrong with it. -/
lemma checkRule_error : checkRule catalog registry r = .error x ↔ ∃ f, r.Faulty catalog registry f ∧
    x = r.refusal f := by
  unfold checkRule
  rw [Outcome.bind_error, target_error]
  constructor
  · rintro (⟨ht, rfl⟩ | ⟨e, ht, h⟩)
    · exact ⟨_, .target ht, rfl⟩
    · have ht := target_ok.1 ht
      obtain h | ⟨_, hq, h⟩ := Outcome.bind_error.1 h
      · obtain ⟨f, hf, rfl⟩ := requirements_error.1 h
        exact ⟨f, .requirement ht hf, rfl⟩
      · have hq := requirements_ok.1 hq
        obtain ⟨⟨logic, hm⟩, rfl⟩ | ⟨f, hf, rfl⟩ :=
          mainCondition_error.1 (Outcome.bind_result_error.1 h)
        · exact ⟨_, .empty ht hq hm, rfl⟩
        · exact ⟨f, .condition ht hq hf, rfl⟩
  · rintro ⟨f, hf, rfl⟩
    cases hf with
    | target ht => exact .inl ⟨ht, rfl⟩
    | requirement ht hf =>
      exact .inr ⟨_, target_ok.2 ht,
        Outcome.bind_error.2 (.inl (requirements_error.2 ⟨f, hf, rfl⟩))⟩
    | @empty e _ ht hq hm =>
      have h := (mainCondition_error (e := e)).2 (.inl ⟨⟨_, hm⟩, rfl⟩)
      exact .inr ⟨_, target_ok.2 ht,
        Outcome.bind_error.2 (.inr ⟨(), requirements_ok.2 hq, Outcome.bind_result_error.2 h⟩)⟩
    | condition ht hq hf =>
      have h := mainCondition_error.2 (.inr ⟨f, hf, rfl⟩)
      exact .inr ⟨_, target_ok.2 ht,
        Outcome.bind_error.2 (.inr ⟨(), requirements_ok.2 hq, Outcome.bind_result_error.2 h⟩)⟩

end Check

/-- A rule has a fault exactly if it is not well formed. -/
theorem Rule.exists_faulty_iff {catalog : Catalog} {registry : Registry} {r : Rule} :
    (∃ f, r.Faulty catalog registry f) ↔ ¬ ∃ e, r.WellFormed catalog registry e := by
  -- The check of the rule either fails or does not.
  constructor
  · rintro ⟨f, hf⟩ ⟨e, he⟩
    have failed := Check.checkRule_error.2 ⟨f, hf, rfl⟩
    have passed := Check.checkRule_ok.2 ⟨e, he, rfl⟩
    cases failed.symm.trans passed
  · intro h
    cases hr : Check.checkRule catalog registry r with
    | error x =>
      obtain ⟨f, hf, _⟩ := Check.checkRule_error.1 hr
      exact ⟨f, hf⟩
    | ok ws =>
      obtain ⟨e, he, _⟩ := Check.checkRule_ok.1 hr
      exact absurd ⟨e, he⟩ h

/-! ## The check of a book -/

namespace Check

variable {catalog : Catalog} {registry : Registry} {x : Failure}

/-- Exactly the rules that are all well formed pass, with the warnings about them. -/
lemma checkRules_ok {rs : List Rule} :
    ∀ {report}, checkRules catalog registry rs = .ok report ↔
      (∀ r ∈ rs, ∃ e, r.WellFormed catalog registry e) ∧
      report = ⟨rs.length, rs.flatMap (·.warnings catalog)⟩ := by
  induction rs with
  | nil =>
    intro report
    constructor
    · intro h; cases h; exact ⟨List.forall_mem_nil _, rfl⟩
    · rintro ⟨_, rfl⟩; rfl
  | cons r rs ih =>
    intro report
    have warned : ∀ {e}, r.WellFormed catalog registry e →
        (Lint.findings r e).map (⟨r.name, ·⟩) = r.warnings catalog := by
      intro e he
      rw [Rule.warnings, he.target]
    rw [checkRules, Outcome.bind_ok, List.forall_mem_cons]
    constructor
    · rintro ⟨ws, hr, h⟩
      obtain ⟨e, he, rfl⟩ := checkRule_ok.1 hr
      obtain ⟨rest, hrs, h⟩ := Outcome.bind_ok.1 h
      obtain ⟨all, rfl⟩ := ih.1 hrs
      cases h
      exact ⟨⟨⟨e, he⟩, all⟩, by rw [warned he]; rfl⟩
    · rintro ⟨⟨⟨e, he⟩, all⟩, rfl⟩
      refine ⟨_, checkRule_ok.2 ⟨e, he, rfl⟩, ?_⟩
      refine Outcome.bind_ok.2 ⟨_, ih.2 ⟨all, rfl⟩, ?_⟩
      rw [warned he]
      rfl

/-- Rules are refused for the first of them that is faulty. -/
lemma checkRules_error {rs : List Rule} :
    checkRules catalog registry rs = .error x ↔
      FirstFault (fun r => ∃ e, r.WellFormed catalog registry e)
        (fun r x => ∃ f, r.Faulty catalog registry f ∧ x = r.refusal f) rs x := by
  induction rs with
  | nil =>
    constructor
    · intro h; cases h
    · intro h; cases h
  | cons r rs ih =>
    rw [checkRules, Outcome.bind_error, checkRule_error]
    constructor
    · rintro (h | ⟨ws, hr, h⟩)
      · exact .here h
      · obtain ⟨e, he, _⟩ := checkRule_ok.1 hr
        exact .later ⟨e, he⟩ (ih.1 (Outcome.bind_result_error.1 h))
    · intro h
      cases h with
      | here h => exact .inl h
      | later hr h =>
        obtain ⟨e, he⟩ := hr
        exact .inr ⟨_, checkRule_ok.2 ⟨e, he, rfl⟩, Outcome.bind_result_error.2 (ih.2 h)⟩

/-- A rule with a new name keeps the names of the rules different. -/
lemma nodup_concat {seen : List Rule} {r : Rule} (nd : (seen.map (·.name)).Nodup)
    (fresh : ∀ s ∈ seen, s.name ≠ r.name) : ((seen ++ [r]).map (·.name)).Nodup := by
  rw [List.map_append, List.nodup_append]
  refine ⟨nd, List.nodup_singleton _, ?_⟩
  intro a ha b hb
  obtain ⟨s, hm, rfl⟩ := List.mem_map.1 ha
  cases List.mem_singleton.1 hb
  exact fresh s hm

/-- Rules pass if they have names of their own and not those of rules seen before. -/
lemma uniqueNames_ok {rs : List Rule} :
    ∀ {seen : List Rule}, (seen.map (·.name)).Nodup →
      (uniqueNames seen rs = .ok () ↔ ((seen ++ rs).map (·.name)).Nodup) := by
  induction rs with
  | nil =>
    intro seen nd
    rw [List.append_nil]
    exact ⟨fun _ => nd, fun _ => rfl⟩
  | cons r rs ih =>
    intro seen nd
    rw [uniqueNames]
    cases hs : seen.find? fun s => s.name == r.name with
    | some first =>
      have hm := List.mem_of_find?_eq_some hs
      have hn : first.name = r.name := by simpa using List.find?_some hs
      constructor
      · intro h; cases h
      · intro nd'
        rw [List.map_append, List.nodup_append] at nd'
        exact absurd hn (nd'.2.2 _ (List.mem_map_of_mem hm) _ (.head _))
    | none =>
      have fresh : ∀ s ∈ seen, s.name ≠ r.name := by simpa using List.find?_eq_none.1 hs
      have nd' := nodup_concat nd fresh
      dsimp only
      rw [ih nd', List.append_assoc, List.singleton_append]

/-- Rules are refused for the first of them that has the name of a rule before it or seen before. -/
lemma uniqueNames_error {rs : List Rule} :
    ∀ {seen : List Rule}, (seen.map (·.name)).Nodup →
      (uniqueNames seen rs = .error x ↔ ∃ before r after first, rs = before ++ r :: after ∧
        ((seen ++ before).map (·.name)).Nodup ∧ first ∈ seen ++ before ∧ first.name = r.name ∧
        x = r.refusal (.duplicateName r.name (declaredAt first))) := by
  induction rs with
  | nil =>
    intro seen _
    constructor
    · intro h; cases h
    · rintro ⟨before, r, after, first, h, _⟩
      cases before <;> cases h
  | cons r rs ih =>
    intro seen nd
    rw [uniqueNames]
    cases hs : seen.find? fun s => s.name == r.name with
    | some first =>
      have hm := List.mem_of_find?_eq_some hs
      have hn : first.name = r.name := by simpa using List.find?_some hs
      constructor
      · intro h
        cases h
        exact ⟨[], r, rs, first, rfl, by rwa [List.append_nil], by rwa [List.append_nil], hn, rfl⟩
      · rintro ⟨before, r', after, first', h, nd', hm', hn', rfl⟩
        cases before with
        | nil =>
          cases h
          rw [List.append_nil] at hm'
          -- Among the rules seen before only one has the name.
          cases List.inj_on_of_nodup_map nd hm hm' (hn.trans hn'.symm)
          rfl
        | cons b before =>
          cases h
          rw [List.map_append, List.nodup_append] at nd'
          exact absurd hn (nd'.2.2 _ (List.mem_map_of_mem hm) _ (.head _))
    | none =>
      have fresh : ∀ s ∈ seen, s.name ≠ r.name := by simpa using List.find?_eq_none.1 hs
      have nd' := nodup_concat nd fresh
      dsimp only
      rw [ih nd']
      constructor
      · rintro ⟨before, r', after, first, rfl, h⟩
        rw [List.append_assoc, List.singleton_append] at h
        exact ⟨r :: before, r', after, first, rfl, h⟩
      · rintro ⟨before, r', after, first, h, nd', hm, hn, hx⟩
        cases before with
        | nil =>
          cases h
          rw [List.append_nil] at hm
          exact absurd hn (fresh first hm)
        | cons b before =>
          cases h
          refine ⟨before, r', after, first, rfl, ?_⟩
          rw [List.append_assoc, List.singleton_append]
          exact ⟨nd', hm, hn, hx⟩

end Check

/-- The check accepts exactly the well-formed books, with a report on all of their rules and the
warnings about each. A book that is rejected is rejected for its first rule that has the name of an
earlier one, or else for what is wrong with its first rule that is not well formed. -/
theorem Book.check_decides (book : Book) (catalog : Catalog) :
    (∀ report, book.check catalog = .ok report ↔
      book.WellFormed catalog ∧
      report = ⟨book.rules.length, book.rules.flatMap (·.warnings catalog)⟩) ∧
    ∀ x, book.check catalog = .error x ↔ book.Rejected catalog x := by
  have none : (([] : List Rule).map (·.name)).Nodup := List.nodup_nil
  have names : Check.uniqueNames [] book.rules = .ok () ↔ (book.rules.map (·.name)).Nodup :=
    Check.uniqueNames_ok none
  refine ⟨fun report => ?_, fun x => ?_⟩
  · rw [check, Outcome.andThen_ok, names, Check.checkRules_ok, ← and_assoc]
    exact and_congr_left fun _ => ⟨fun h => ⟨h.1, h.2⟩, fun h => ⟨h.names, h.rules⟩⟩
  · rw [check, Outcome.bind_error, Check.uniqueNames_error none, Check.checkRules_error]
    constructor
    · rintro (⟨before, r, after, first, hs, nd, hm, hn, rfl⟩ | ⟨_, hu, h⟩)
      · exact .repeated hs nd hm hn
      · obtain ⟨before, r, after, hs, wf, f, hf, rfl⟩ := h.split
        exact .faulty (names.1 hu) hs wf (Rule.exists_faulty_iff.1 ⟨f, hf⟩) hf
    · intro h
      cases h with
      | repeated hs nd hm hn => exact .inl ⟨_, _, _, _, hs, nd, hm, hn, rfl⟩
      | faulty nd hs wf _ hf =>
        refine .inr ⟨(), names.2 nd, ?_⟩
        rw [hs]
        exact .append wf (.here ⟨_, hf, rfl⟩)

/-- Of a rule in which everything is wrong, the target is reported. -/
example :
    let r : Rule := { name := "Stocked", target := { name := "items", domain := "default" }
                      requirements := [⟨"user", []⟩], condition := .compound .all []
                      positive := "OK", negative := "NO" }
    ({ rules := [r] } : Book).check {} =
      .error (r.refusal (.noTarget .model "items" "default" false)) := by rfl

end Rulebook
