import Rulebook.Proofs.Bound.Literal
import Rulebook.Proofs.Catalog.Compile
import Rulebook.Proofs.Eval.Run

/-!
# Rules read directly

What a rule of a book means, without binding it and without an order of evaluation: a condition is a
relation between a value and the literal as it stands in the book (`Condition.HoldsFor`), a
requirement and a main condition are conjunctions and disjunctions of conditions.
`RuleSet.evaluate_reads` shows that the verdict of a bound rule says exactly this: that literals are
converted beforehand, that bindings are shared, and that an evaluation stops early cannot be seen.
-/

namespace Rulebook
open Number Text

/-- A condition holds for a value of a field of a type. Texts compare by their code points. A
decimal that is no number belongs to no field. -/
def Condition.HoldsFor (c : Condition) (t : ScalarType) (v : Value) : Prop :=
  match t with
  | .string => ∃ ps u, v.points? = some ps ∧ c.literal = .text u ∧
      c.operator.holds (some (compare ps (u.toList.map Char.toNat))) = true
  | .bool => ∃ a b, v = .bool a ∧ c.literal = .bool b ∧ c.operator.holds (some (compare a b)) = true
  | .date | .datetime => False
  | t => ∃ x y, v.numberIn? t = some x ∧ (t = .decimal → x.isNaN = false) ∧ c.numberIn? t = some y ∧
      c.operator.holds (x.compare? y) = true

/-- A condition holds for the value that is found under its field. -/
def Condition.HoldsIn (typeOf : String → Option ScalarType) (find : String → Outcome (Option Value))
    (c : Condition) : Prop :=
  ∃ t v, typeOf c.field = some t ∧ find c.field = .ok (some v) ∧ c.HoldsFor t v

/-- A requirement is met by a context: the category is there and all conditions
hold for its object. -/
def Requirement.MetBy (registry : Registry) (context : List (Value × Value)) (q : Requirement) :
    Prop :=
  ∃ object, Value.lookup? q.category context = some object ∧
    ∀ c ∈ q.conditions, c.HoldsIn (registry.fieldType? q.category) (Access.context object)

/-- A main condition holds. -/
def MainCondition.HoldsIn (typeOf : String → Option ScalarType)
    (find : String → Outcome (Option Value)) :
    MainCondition → Prop
  | .single c => c.HoldsIn typeOf find
  | .compound .all cs => ∀ c ∈ cs, c.HoldsIn typeOf find
  | .compound .any cs => ∃ c ∈ cs, c.HoldsIn typeOf find

/-- A context meets all requirements of a rule. -/
def Rule.Permits (r : Rule) (registry : Registry) (context : List (Value × Value)) : Prop :=
  ∀ q ∈ r.requirements, q.MetBy registry context

/-- The main condition of a rule holds for the entries of an entity. -/
def Rule.Decides (r : Rule) (e : Entity) (entity : List (Value × Value)) : Prop :=
  r.condition.HoldsIn e.fieldType? fun name => .ok (Value.lookup? name entity)

/-- A context gives entries: it is a mapping of them, or vacant and gives none. -/
inductive Value.Gives : Value → List (Value × Value) → Prop
  | mapping {entries} : Gives (.mapping entries) entries
  | vacant {v} : v.isVacant = true → Gives v []

/-- A verdict says what a rule means. -/
structure Verdict.Reads (v : Verdict) (r : Rule) (registry : Registry) (e : Entity)
    (entity context : List (Value × Value)) : Prop where
  rule : v.rule = r.name
  blocking : v.blocking = r.blocking
  gatePassed : v.gatePassed = true ↔ r.Permits registry context
  satisfied : v.satisfied = true ↔ r.Permits registry context ∧ r.Decides e entity
  status : v.status = if v.satisfied then r.positive else r.negative

/-- The context of an evaluation is a mapping of the entries that the given one gives. -/
lemma Eval.contextOf_eq_mapping {context : Value} {entries : List (Value × Value)} :
    contextOf context = .mapping entries ↔ context.Gives entries := by
  unfold contextOf
  constructor
  · intro h
    split at h
    · rename_i vacant
      cases h
      exact .vacant vacant
    · cases h
      exact .mapping
  · intro h
    cases h with
    | vacant vacant => rw [if_pos vacant]
    | mapping =>
      split
      · rename_i vacant
        rw [List.isEmpty_iff.1 vacant]
      · rfl

/-! ## Conditions -/

namespace Clause.Binds

variable {b : Clause} {c : Condition} {t : ScalarType}

/-- A clause on numbers holds for a value exactly if its condition does. -/
lemma field_number_iff (hb : b.Binds c (some t)) (ha : c.Admissible t)
    (ht : t.isNumeric = true) {v : Value} :
    Compare.field (some v) b.operator b.literal.toValue b.type = .ok true ↔
      ∃ x y, v.numberIn? t = some x ∧ (t = .decimal → x.isNaN = false) ∧ c.numberIn? t = some y ∧
        c.operator.holds (x.compare? y) = true := by
  obtain ⟨_, ho, _, hT, hl⟩ := hb
  cases hT
  obtain ⟨y, hy, same⟩ := Condition.compare?_comparand ha ht hl
  rw [ho, Compare.field_number (Condition.suits_of_comparand ha hl) ht]
  constructor
  · rintro ⟨x, hx, hn, h⟩
    rw [same] at h
    exact ⟨x, y, hx, hn, hy, h⟩
  · rintro ⟨x, z, hx, hn, hz, h⟩
    cases hy.symm.trans hz
    rw [← same] at h
    exact ⟨x, hx, hn, h⟩

/-- A clause holds for a value exactly if its condition does. -/
lemma field_iff (hb : b.Binds c (some t)) (ha : c.Admissible t) {v : Value} :
    Compare.field (some v) b.operator b.literal.toValue b.type = .ok true ↔ c.HoldsFor t v := by
  cases t with
  | string =>
    obtain ⟨_, ho, _, hT, hl⟩ := hb
    rw [← Option.some.inj hT] at hl ⊢
    obtain ⟨u, hu, hc⟩ := Condition.comparand_string ha.fits
    rw [← Except.ok.inj (hc.symm.trans hl), ho, Comparand.toValue,
      Compare.field_string, Option.bind_some]
    unfold Condition.HoldsFor
    cases v.points? <;> simp [hu]
  | bool =>
    obtain ⟨_, ho, _, hT, hl⟩ := hb
    rw [← Option.some.inj hT] at hl ⊢
    obtain ⟨u, hu, hc⟩ := Condition.comparand_bool ha.fits
    rw [← Except.ok.inj (hc.symm.trans hl), ho, Comparand.toValue, Compare.field_bool]
    unfold Condition.HoldsFor
    cases v <;> simp [hu]
  | decimal | int32 | int64 | float64 => exact field_number_iff hb ha rfl
  | date | datetime => cases ha.comparable

/-- A clause holds for what is found under its field exactly if its condition does. -/
lemma answer_iff {typeOf : String → Option ScalarType} {find : String → Outcome (Option Value)}
    (hb : b.Binds c (typeOf c.field)) (ha : ∃ t, typeOf c.field = some t ∧ c.Admissible t) :
    Eval.answer find b = .ok true ↔ c.HoldsIn typeOf find := by
  obtain ⟨t, ht, ha⟩ := ha
  unfold Eval.answer Condition.HoldsIn
  rw [ht] at hb ⊢
  rw [hb.field]
  simp only [Outcome.bind_ok, Option.some.injEq, exists_and_left, exists_eq_left']
  constructor
  · rintro ⟨found, hf, h⟩
    cases found with
    | none => cases h
    | some v => exact ⟨v, hf, (hb.field_iff ha).1 h⟩
  · rintro ⟨v, hf, h⟩
    exact ⟨some v, hf, (hb.field_iff ha).2 h⟩

end Clause.Binds

namespace Clause.AllBind

variable {typeOf : String → Option ScalarType} {find : String → Outcome (Option Value)}
  {cs : List Condition} {bs : List Clause}

/-- Clauses all hold exactly if their conditions do. -/
lemma forall_iff (hb : Clause.AllBind typeOf cs bs) (ha : Condition.AllAdmissible typeOf cs) :
    (∀ b ∈ bs, Eval.answer find b = .ok true) ↔ ∀ c ∈ cs, c.HoldsIn typeOf find := by
  induction hb with
  | nil => simp
  | cons h _ ih =>
    rw [Condition.AllAdmissible, List.forall_mem_cons] at ha
    rw [List.forall_mem_cons, List.forall_mem_cons, h.answer_iff ha.1, ih ha.2]

/-- Some clause holds exactly if some condition does. -/
lemma exists_iff (hb : Clause.AllBind typeOf cs bs) (ha : Condition.AllAdmissible typeOf cs) :
    (∃ b ∈ bs, Eval.answer find b = .ok true) ↔ ∃ c ∈ cs, c.HoldsIn typeOf find := by
  induction hb with
  | nil => simp
  | cons h _ ih =>
    rw [Condition.AllAdmissible, List.forall_mem_cons] at ha
    rw [List.exists_mem_cons_iff, List.exists_mem_cons_iff, h.answer_iff ha.1, ih ha.2]

end Clause.AllBind

/-! ## Requirements and main conditions -/

/-- A gate lets a context pass exactly if the context meets the requirement. -/
lemma Gate.Binds.passes_iff {registry : Registry} {g : Gate} {q : Requirement}
    {context : List (Value × Value)} (hg : g.Binds registry q) (hq : q.WellFormed registry) :
    g.Passes (.mapping context) ↔ q.MetBy registry context := by
  unfold Gate.Passes Requirement.MetBy Eval.holder
  rw [hg.category]
  simp only [Except.ok.injEq, hg.clauses.forall_iff hq.conditions]

/-- A decision is positive exactly if the main condition holds. -/
lemma Decision.Binds.holds_iff {typeOf : String → Option ScalarType}
    {find : String → Outcome (Option Value)} {d : Decision} {m : MainCondition}
    (hd : d.Binds typeOf m) (ha : Condition.AllAdmissible typeOf m.conditions) :
    d.Holds find ↔ m.HoldsIn typeOf find := by
  cases hd with
  | single hb => exact hb.answer_iff (ha _ (.head _))
  | @compound logic bs cs hb =>
    cases logic with
    | all => exact hb.forall_iff ha
    | any => exact hb.exists_iff ha

/-- Only the fields that have a type matter to a main condition. -/
lemma MainCondition.holdsIn_congr {typeOf : String → Option ScalarType}
    {find find' : String → Outcome (Option Value)} {m : MainCondition}
    (h : ∀ name t, typeOf name = some t → find name = find' name) :
    m.HoldsIn typeOf find ↔ m.HoldsIn typeOf find' := by
  have key : ∀ c : Condition, c.HoldsIn typeOf find ↔ c.HoldsIn typeOf find' := by
    intro c
    unfold Condition.HoldsIn
    constructor
    · rintro ⟨t, v, ht, hf, hv⟩
      exact ⟨t, v, ht, h _ t ht ▸ hf, hv⟩
    · rintro ⟨t, v, ht, hf, hv⟩
      exact ⟨t, v, ht, h _ t ht ▸ hf, hv⟩
  cases m with
  | single c => exact key c
  | compound logic cs =>
    cases logic with
    | all => simp only [HoldsIn, key]
    | any => simp only [HoldsIn, key]

/-- The fields of an entity that have a type are the declared ones. -/
lemma Entity.mem_fieldNames {e : Entity} {name : String} {t : ScalarType}
    (h : e.fieldType? name = some t) :
    name ∈ e.fieldNames := by
  obtain ⟨f, hf, _⟩ := Option.map_eq_some_iff.1 h
  obtain ⟨hm, rfl⟩ := Entity.field?_some hf
  exact List.mem_map_of_mem hm

/-! ## Rules -/

namespace BoundRule.Under

variable {catalog : Catalog} {registry : Registry} {b : BoundRule} {r : Rule} {e : Entity}
  {context : Value} {entity entries : List (Value × Value)}

/-- The gates of a rule are passed exactly if its requirements are met. -/
lemma permits_iff (hb : b.Under registry (Binding.ofEntity e) r)
    (hr : r.WellFormed catalog registry e) (hc : Eval.contextOf context = .mapping entries) :
    b.Permits context ↔ r.Permits registry entries := by
  unfold BoundRule.Permits Rule.Permits
  rw [hc]
  have wf := hr.requirements
  have hg := hb.gates
  generalize b.gates = gs at hg
  generalize r.requirements = qs at hg wf
  induction hg with
  | nil => simp
  | cons h _ ih =>
    rw [List.forall_mem_cons] at wf
    rw [List.forall_mem_cons, List.forall_mem_cons]
    exact and_congr (h.passes_iff wf.1) (ih wf.2)

/-- The decision of a rule is positive exactly if its main condition holds. -/
lemma decides_iff (nd : e.fieldNames.Nodup) (hb : b.Under registry (Binding.ofEntity e) r)
    (hr : r.WellFormed catalog registry e) :
    b.decision.Holds (b.access (.mapping entity)) ↔ r.Decides e entity := by
  have hd := hb.decision_binds nd
  rw [hd.holds_iff hr.conditions]
  refine MainCondition.holdsIn_congr fun name t ht => ?_
  have declared : e.fieldNames.contains name = true := by simpa using Entity.mem_fieldNames ht
  rw [BoundRule.access, hb.binding_eq, Binding.fieldNames_ofEntity nd,
    Access.declared, if_pos declared]
  rfl

/-- The verdict of a rule says what the rule means. -/
lemma reads (nd : e.fieldNames.Nodup) (hb : b.Under registry (Binding.ofEntity e) r)
    (hr : r.WellFormed catalog registry e) (hc : Eval.contextOf context = .mapping entries)
    {v : Verdict} (h : b.evaluate (.mapping entity) context = .ok v) :
    v.Reads r registry e entity entries := by
  obtain ⟨hn, hbl, hp, hs, hst⟩ := BoundRule.evaluate_ok h
  rw [hb.permits_iff hr hc] at hp hs
  rw [hb.decides_iff nd hr] at hs
  rw [hb.name] at hn
  rw [hb.blocking] at hbl
  rw [hb.positive, hb.negative] at hst
  exact ⟨hn, hbl, hp, hs, hst⟩

end BoundRule.Under

/-- The verdicts of the bound rules of a checked book say what its rules mean, for every entity and
every context that is a mapping or vacant, and a rule has a verdict whenever each of its
comparisons, taken alone, has an answer. -/
theorem RuleSet.evaluate_reads {settings : CompileSettings} {schemas : List Sql.Schema}
    {catalog : Catalog} {book : Book} {report : Report} {set : RuleSet}
    (hc : compileSchemas settings schemas = .ok catalog)
    (hv : book.check catalog = .ok report) (hb : book.bind catalog = .ok set) :
    List.Forall₂ (fun r b => ∃ e, r.subject? catalog = some e ∧
      ∀ entity context entries, context.Gives entries →
        (∀ v, b.evaluate (.mapping entity) context = .ok v →
          v.Reads r book.registry e entity entries) ∧
        (b.Answered (.mapping entity) context → ∃ v, b.evaluate (.mapping entity) context = .ok v))
      book.rules set.rules := by
  refine (Book.bind_wellFormed (compileSchemas_sound hc) hv hb).imp ?_
  rintro r b ⟨e, he, nd, wf, hu⟩
  refine ⟨e, he, fun entity context entries hctx => ⟨?_, ?_⟩⟩
  · intro v h
    exact hu.reads nd wf (Eval.contextOf_eq_mapping.2 hctx) h
  · intro ha
    exact ha.evaluate

/-! ## A stock -/

namespace Stock

/-- Compiling without a previous version. -/
def settings : CompileSettings := { defaultDomain := "default" }

/-- A table of items with a quantity and a price. -/
def schema : Sql.Schema where
  tables := [{
    name := "items"
    domain := none
    columns := [{ name := "qty", nativeType := "INT", type := .int32 },
      { name := "price", nativeType := "DECIMAL", type := .decimal }]
    source := none
    line := 1 }]

/-- The entity that the table makes. -/
def catalog : Catalog where
  domains := [{
    name := "default"
    models := [{
      kind := .model
      name := "Item"
      domain := "default"
      sourceName := "items"
      resource := "items"
      fields := [{ name := "qty", type := .int32, ordinal := 1 },
        { name := "price", type := .decimal, ordinal := 2 }] }] }]

/-- A context with the role of a user. -/
def registry : Registry := { categories := [{ name := "user", fields := [⟨"role", .string⟩] }] }

/-- For clerks, items are stocked if there are more than five of them or if they
cost at least two. -/
def rule : Rule where
  name := "Stocked"
  target := { name := "items", domain := "default" }
  requirements := [⟨"user", [{ field := "role", operator := .eq, literal := .text "clerk" }]⟩]
  condition := .compound .any [{ field := "qty", operator := .gt, literal := .int 5 },
    { field := "price", operator := .ge, literal := .int 2 }]
  positive := "OK"
  negative := "NO"

/-- The rule and the registry. -/
def book : Book := { registry, rules := [rule] }

/-- The entries of a context with a clerk. -/
def clerk : List (Value × Value) := [(.text "user", .mapping [(.text "role", .text "clerk")])]

/-- The entries of seven items. -/
def seven : List (Value × Value) := [(.text "qty", .int 7)]

/-- Seven items are stocked for a clerk, and for nobody without a role: the verdicts say
what the rule means. -/
theorem verdicts_read :
    ∃ report set b e v w, compileSchemas settings [schema] = .ok catalog ∧
    book.check catalog = .ok report ∧
      book.bind catalog = .ok set ∧ set.rules = [b] ∧ rule.subject? catalog = some e ∧
      (Value.Gives (.mapping clerk) clerk ∧ b.evaluate (.mapping seven) (.mapping clerk) = .ok v ∧
        v.status = "OK" ∧ v.gatePassed = true ∧ v.satisfied = true ∧
        v.Reads rule registry e seven clerk) ∧
      (Value.Gives .null [] ∧ b.evaluate (.mapping seven) .null = .ok w ∧
        w.status = "NO" ∧ w.gatePassed = false ∧ w.satisfied = false ∧
        w.Reads rule registry e seven []) := by
  have hc : compileSchemas settings [schema] = .ok catalog := by rfl
  obtain ⟨report, hv⟩ : ∃ report, book.check catalog = .ok report := ⟨_, rfl⟩
  obtain ⟨set, b, v, w, hb, rules, hv₁, status₁, gate₁, satisfied₁, hv₂, status₂,
    gate₂, satisfied₂⟩ :
      ∃ set b v w, book.bind catalog = .ok set ∧ set.rules = [b] ∧
        b.evaluate (.mapping seven) (.mapping clerk) = .ok v ∧ v.status = "OK" ∧
        v.gatePassed = true ∧
        v.satisfied = true ∧ b.evaluate (.mapping seven) .null = .ok w ∧ w.status = "NO" ∧
        w.gatePassed = false ∧ w.satisfied = false :=
    ⟨_, _, _, _, rfl, rfl, rfl, rfl, rfl, rfl, rfl, rfl, rfl, rfl⟩
  have reads := RuleSet.evaluate_reads hc hv hb
  rw [rules] at reads
  obtain ⟨⟨e, he, reads⟩, -⟩ := List.forall₂_cons.1 reads
  have given : Value.Gives (.mapping clerk) clerk := .mapping
  have absent : Value.Gives .null [] := .vacant rfl
  exact ⟨report, set, b, e, v, w, hc, hv, hb, rules, he,
    ⟨given, hv₁, status₁, gate₁, satisfied₁, (reads seven _ clerk given).1 v hv₁⟩,
    absent, hv₂, status₂, gate₂, satisfied₂, (reads seven _ [] absent).1 w hv₂⟩

end Stock
end Rulebook
