import Rulebook.Bound.RuleSet
import Rulebook.Proofs.Catalog.Sound
import Rulebook.Proofs.Check.WellFormed

/-!
# Bound rules and the rules they stand for

`BoundRule.Binds` relates a bound rule to a rule of the book, part by part and without any order:
every condition stands under the type of its field, with its literal brought into the form it is
compared in. Binding a book to a sound catalog succeeds exactly when its rules have such
counterparts, and the targets of the rule set are the bindings of its rules in the order of first
use (`Book.bind_ok`): that bindings are shared between rules cannot be seen.
-/

namespace Rulebook

/-- The comparand that the literal of a condition becomes under a type. -/
def Condition.comparand (c : Condition) (t : ScalarType) : Outcome Comparand :=
  comparisonLiteral c.literal.toValue t c.literalText >>= Comparand.ofValue

/-- A clause is a condition under the type of its field. -/
structure Clause.Binds (b : Clause) (c : Condition) (type : Option ScalarType) : Prop where
  field : b.field = c.field
  operator : b.operator = c.operator
  text : b.text = c.describe
  type : type = some b.type
  literal : c.comparand b.type = .ok b.literal

/-- Clauses are conditions under the types of their fields. -/
def Clause.AllBind (typeOf : String → Option ScalarType) (cs : List Condition) (bs : List Clause) :
    Prop :=
  List.Forall₂ (fun c b => b.Binds c (typeOf c.field)) cs bs

/-- A gate is a requirement. -/
structure Gate.Binds (registry : Registry) (g : Gate) (q : Requirement) : Prop where
  category : g.category = q.category
  clauses : Clause.AllBind (registry.fieldType? q.category) q.conditions g.clauses

/-- A decision is a main condition. -/
inductive Decision.Binds (typeOf : String → Option ScalarType) :
    Decision → MainCondition → Prop where
  | single {b c} : b.Binds c (typeOf c.field) → Decision.Binds typeOf (.single b) (.single c)
  | compound {logic bs cs} :
    Clause.AllBind typeOf cs bs → Decision.Binds typeOf (.compound logic bs) (.compound logic cs)

/-- A bound rule is a rule, under a given binding. -/
structure BoundRule.Under (registry : Registry) (binding : Binding) (b : BoundRule) (r : Rule) :
    Prop where
  name : b.name = r.name
  binding_eq : b.binding = binding
  blocking : b.blocking = r.blocking
  gates : List.Forall₂ (fun q g => g.Binds registry q) r.requirements b.gates
  decision : b.decision.Binds (binding.fieldTypes.lookup ·) r.condition
  positive : b.positive = r.positive
  negative : b.negative = r.negative
  definition : b.definition = r

/-- The entity that a rule is about. -/
def Rule.subject? (r : Rule) (catalog : Catalog) : Option Entity :=
  catalog.findTarget? r.target.domain r.target.name r.target.kind

/-- A bound rule is a rule, under the binding of the entity that the rule is about. -/
def BoundRule.Binds (catalog : Catalog) (registry : Registry) (b : BoundRule) (r : Rule) : Prop :=
  ∃ e, r.subject? catalog = some e ∧ b.Under registry (Binding.ofEntity e) r

/-! ## Single rules -/

namespace Bind

variable {registry : Registry} {r : Rule}

/-- A condition on a field with a type waits for its literal only. -/
lemma clause_some {c : Condition} {t : ScalarType} {category : Option String} :
    clause r c (some t) category = c.comparand t >>= fun literal =>
      .ok { field := c.field, operator := c.operator, literal, type := t, text := c.describe } := by
  simp only [clause, Condition.comparand, bind_assoc]

/-- A condition is bound when its field has a type under which its literal can be compared. -/
lemma clause_ok {c : Condition} {type : Option ScalarType} {category : Option String} {b : Clause} :
    clause r c type category = .ok b ↔ b.Binds c type := by
  cases type with
  | none =>
    constructor
    · intro h; cases h
    · rintro ⟨_, _, _, h, _⟩; cases h
  | some t =>
    rw [clause_some, Outcome.bind_ok]
    constructor
    · rintro ⟨literal, hl, h⟩
      cases h
      exact ⟨rfl, rfl, rfl, rfl, hl⟩
    · rintro ⟨hf, ho, ht, hT, hl⟩
      cases hT
      refine ⟨b.literal, hl, ?_⟩
      rw [← hf, ← ho, ← ht]

/-- A requirement is bound when all of its conditions are. -/
lemma gate_ok {q : Requirement} {g : Gate} : gate registry r q = .ok g ↔ g.Binds registry q := by
  unfold gate
  rw [Outcome.bind_ok]
  simp only [Outcome.mapM_ok, clause_ok]
  constructor
  · rintro ⟨clauses, hc, h⟩
    cases h
    exact ⟨rfl, hc⟩
  · rintro ⟨hq, hc⟩
    refine ⟨g.clauses, hc, ?_⟩
    rw [← hq]

/-- A main condition is bound when all of its conditions are. -/
lemma decision_ok {binding : Binding} {m : MainCondition} {d : Decision} :
    decision r binding m = .ok d ↔ d.Binds (binding.fieldTypes.lookup ·) m := by
  cases m with
  | single c =>
    unfold decision
    rw [Outcome.map_ok]
    simp only [clause_ok]
    constructor
    · rintro ⟨b, hb, rfl⟩; exact .single hb
    · intro h
      cases h with
      | single hb => exact ⟨_, hb, rfl⟩
  | compound logic cs =>
    unfold decision
    rw [Outcome.map_ok]
    simp only [Outcome.mapM_ok, clause_ok]
    constructor
    · rintro ⟨bs, hbs, rfl⟩; exact .compound hbs
    · intro h
      cases h with
      | compound hbs => exact ⟨_, hbs, rfl⟩

/-- A rule is bound when its requirements and its main condition are. -/
lemma rule_ok {binding : Binding} {b : BoundRule} :
    rule registry r binding = .ok b ↔ b.Under registry binding r := by
  unfold rule
  rw [Outcome.bind_ok]
  constructor
  · rintro ⟨gates, hg, h⟩
    obtain ⟨d, hd, h⟩ := Outcome.bind_ok.1 h
    cases h
    have hg : List.Forall₂ (fun q g => g.Binds registry q) r.requirements gates := by
      simpa only [Outcome.mapM_ok, gate_ok] using hg
    exact ⟨rfl, rfl, rfl, hg, decision_ok.1 hd, rfl, rfl, rfl⟩
  · rintro ⟨hn, hb, hbl, hg, hd, hp, hneg, hdef⟩
    refine ⟨b.gates, ?_, Outcome.bind_ok.2 ⟨b.decision, decision_ok.2 hd, ?_⟩⟩
    · simpa only [Outcome.mapM_ok, gate_ok] using hg
    · rw [← hn, ← hb, ← hbl, ← hp, ← hneg]
      congr
      exact hdef.symm

end Bind

/-! ## Bindings -/

namespace Binding

variable {e e' : Entity}

/-- The type of a new field goes last. -/
lemma setType_of_not_mem {f : String} {t : ScalarType} {ts : List (String × ScalarType)}
    (h : f ∉ ts.map (·.1)) : setType f t ts = ts ++ [(f, t)] := by
  induction ts with
  | nil => rfl
  | cons p ts ih =>
    obtain ⟨g, u⟩ := p
    rw [List.map_cons, List.mem_cons, not_or] at h
    unfold setType
    rw [if_neg (Ne.symm h.1), ih h.2, List.cons_append]

/-- Fields of new and distinct names go last, in their order. -/
lemma foldl_setType {fs : List Field} :
    ∀ {acc : List (String × ScalarType)}, (acc.map (·.1) ++ fs.map (·.name)).Nodup →
      fs.foldl (fun acc f => setType f.name f.type acc) acc = acc ++ fs.map fun f =>
      (f.name, f.type) := by
  induction fs with
  | nil => intro acc _; simp
  | cons f fs ih =>
    intro acc nd
    have hf : f.name ∉ acc.map (·.1) := by
      intro hm
      exact (List.nodup_append.1 nd).2.2 _ hm _ (.head _) rfl
    rw [List.foldl_cons, setType_of_not_mem hf, ih]
    · simp
    · simpa using nd

/-- Fields of distinct names keep their order and their types. -/
lemma fieldTypes_ofEntity (nd : e.fieldNames.Nodup) :
    (ofEntity e).fieldTypes = e.fields.map fun f => (f.name, f.type) := by
  show e.fields.foldl (fun acc f => setType f.name f.type acc) [] = _
  rw [foldl_setType, List.nil_append]
  exact nd

/-- Fields of distinct names have the types that the entity gives them. -/
lemma lookup_ofEntity (nd : e.fieldNames.Nodup) :
    ((ofEntity e).fieldTypes.lookup ·) = e.fieldType? := by
  funext name
  rw [fieldTypes_ofEntity nd]
  unfold Entity.fieldType? Entity.field?
  induction e.fields with
  | nil => rfl
  | cons f fs ih =>
    rw [List.map_cons, List.lookup_cons, List.find?_cons]
    by_cases h : f.name = name
    · subst h; simp
    · have h₁ : (f.name == name) = false := by simpa using h
      have h₂ : (name == f.name) = false := by simpa using Ne.symm h
      rw [h₁, h₂]
      exact ih

/-- A binding shows the fields of its entity. -/
lemma fieldNames_ofEntity (nd : e.fieldNames.Nodup) : (ofEntity e).fieldNames = e.fieldNames := by
  unfold fieldNames
  rw [fieldTypes_ofEntity nd, List.map_map]
  rfl

end Binding

/-- What decides a bound rule stands under the types of the fields of the entity. -/
lemma BoundRule.Under.decision_binds {registry : Registry} {b : BoundRule} {r : Rule} {e : Entity}
    (nd : e.fieldNames.Nodup) (h : b.Under registry (Binding.ofEntity e) r) :
    b.decision.Binds e.fieldType? r.condition := by
  rw [← Binding.lookup_ofEntity nd]
  exact h.decision

/-! ## Targets -/

namespace Targets

variable {catalog : Catalog} {ts : Targets} {e : Entity}

/-- Targets that are bindings of entities of a catalog. -/
def From (catalog : Catalog) (ts : Targets) : Prop :=
  ∀ b ∈ ts, ∃ e ∈ catalog.entities, b = Binding.ofEntity e

/-- The targets after a binding is used: a new one goes last. -/
def use (ts : Targets) (b : Binding) : Targets := if b ∈ ts then ts else ts ++ [b]

/-- Using a binding of an entity of the catalog adds nothing else. -/
lemma From.use (hts : ts.From catalog) (he : e ∈ catalog.entities) :
    (ts.use (Binding.ofEntity e)).From catalog := by
  unfold Targets.use
  split
  · exact hts
  · intro b hb
    obtain hb | hb := List.mem_append.1 hb
    · exact hts b hb
    · cases List.mem_singleton.1 hb
      exact ⟨e, he, rfl⟩

/-- What is found under the domain, the kind and the name of an entity is the
binding of that entity. -/
lemma From.get?_some (hts : ts.From catalog) (hc : catalog.Sound)
    (he : e ∈ catalog.entities) {b : Binding} (h : ts.get? e.domain e.kind e.name = some b) :
    b = Binding.ofEntity e ∧ b ∈ ts := by
  have hb := List.mem_of_find?_eq_some h
  obtain ⟨e', he', rfl⟩ := hts b hb
  have hk := List.find?_some h
  simp only [Bool.and_eq_true, beq_iff_eq] at hk
  obtain ⟨⟨hd, hk⟩, hn⟩ := hk
  cases hc.unique he' he hd hk hn
  exact ⟨rfl, hb⟩

/-- If nothing is found under them, the entity is not bound yet. -/
lemma not_mem_of_get?_none (h : ts.get? e.domain e.kind e.name = none) :
    Binding.ofEntity e ∉ ts := by
  intro hb
  have := List.find?_eq_none.1 h _ hb
  simp [Binding.ofEntity] at this

/-- Using bindings one after the other keeps their first uses, in order. -/
lemma foldl_use (bs : List Binding) :
    ∀ ts : Targets, bs.foldl use ts = ts ++ (bs.filter fun b => !ts.contains b).eraseDups := by
  induction bs with
  | nil => intro ts; simp
  | cons b bs ih =>
    intro ts
    rw [List.foldl_cons, ih]
    unfold use
    by_cases hb : b ∈ ts
    · rw [if_pos hb, List.filter_cons_of_neg (by simpa using hb)]
    -- What is new after this use is what was new before and is not this binding.
    · have hf : (bs.filter fun x => !(ts ++ [b]).contains x) =
          (bs.filter fun x => !ts.contains x).filter fun x => !x == b := by
        rw [List.filter_filter]
        refine List.filter_congr fun x _ => ?_
        simp [Bool.and_comm, Bool.beq_eq_decide_eq]
      rw [if_neg hb, List.filter_cons_of_pos (by simpa using hb), List.eraseDups_cons, hf,
        List.append_assoc, List.singleton_append]

end Targets

namespace Bind

variable {catalog : Catalog} {registry : Registry}

/-- The target of a rule is bound to the entity that the catalog has for it. -/
lemma target_ok (hc : catalog.Sound) {ts ts' : Targets} (hts : ts.From catalog)
    {r : Rule} {b : Binding} :
    target catalog ts r = .ok (b, ts') ↔
      ∃ e, catalog.findTarget? r.target.domain r.target.name r.target.kind = some e ∧
        b = Binding.ofEntity e ∧ ts' = ts.use b := by
  unfold target
  dsimp only
  cases hf : catalog.findTarget? r.target.domain r.target.name r.target.kind with
  | none =>
    constructor
    · intro h; cases h
    · rintro ⟨e, h, _⟩; cases h
  | some e =>
    have he := (hc.of_findTarget? hf).1
    dsimp only
    cases hg : ts.get? e.domain e.kind e.name with
    | none =>
      have hn := Targets.not_mem_of_get?_none hg
      constructor
      · intro h
        cases h
        exact ⟨e, rfl, rfl, (if_neg hn).symm⟩
      · rintro ⟨_, h, rfl, rfl⟩
        cases h
        rw [Targets.use, if_neg hn]
    | some b' =>
      obtain ⟨rfl, hb⟩ := hts.get?_some hc he hg
      constructor
      · intro h
        cases h
        exact ⟨e, rfl, rfl, (if_pos hb).symm⟩
      · rintro ⟨_, h, rfl, rfl⟩
        cases h
        rw [Targets.use, if_pos hb]

/-- Rules are bound when each of them is, and leave the targets that their bindings make. -/
lemma rules_ok (hc : catalog.Sound) {rs : List Rule} :
    ∀ {ts : Targets} {bs : List BoundRule} {ts' : Targets}, ts.From catalog →
      (rules catalog registry ts rs = .ok (bs, ts') ↔
        List.Forall₂ (fun r b => b.Binds catalog registry r) rs bs ∧
          ts' = (bs.map (·.binding)).foldl Targets.use ts) := by
  induction rs with
  | nil =>
    intro ts bs ts' _
    constructor
    · intro h
      cases h
      exact ⟨.nil, rfl⟩
    · rintro ⟨h, rfl⟩
      cases h
      rfl
  | cons r rs ih =>
    intro ts bs ts' hts
    unfold rules
    rw [Outcome.bind_ok]
    constructor
    · rintro ⟨⟨b, us⟩, ht, h⟩
      obtain ⟨e, hf, rfl, rfl⟩ := (target_ok hc hts).1 ht
      obtain ⟨bound, hr, h⟩ := Outcome.bind_ok.1 h
      obtain ⟨⟨more, vs⟩, hm, h⟩ := Outcome.bind_ok.1 h
      cases h
      have hu := rule_ok.1 hr
      obtain ⟨hb, rfl⟩ := (ih (hts.use (hc.of_findTarget? hf).1)).1 hm
      refine ⟨.cons ⟨e, hf, hu⟩ hb, ?_⟩
      rw [List.map_cons, List.foldl_cons, hu.binding_eq]
    · rintro ⟨h, rfl⟩
      cases h with
      | cons hr hb =>
        rename_i bound more
        obtain ⟨e, hf, hu⟩ := hr
        refine ⟨(Binding.ofEntity e, _), (target_ok hc hts).2 ⟨e, hf, rfl, rfl⟩, ?_⟩
        refine Outcome.bind_ok.2 ⟨bound, rule_ok.2 hu, ?_⟩
        refine Outcome.bind_ok.2 ⟨(more, _), (ih (hts.use (hc.of_findTarget? hf).1)).2 ⟨hb, rfl⟩,
          ?_⟩
        rw [List.map_cons, List.foldl_cons, hu.binding_eq]

end Bind

/-- A book is bound to a sound catalog when each of its rules is bound to the entity that the
catalog has for it; the targets are the bindings in the order of first use. -/
theorem Book.bind_ok {book : Book} {catalog : Catalog} {set : RuleSet} (hc : catalog.Sound) :
    book.bind catalog = .ok set ↔
      List.Forall₂ (fun r b => b.Binds catalog book.registry r) book.rules set.rules ∧
        set.targets = (set.rules.map (·.binding)).eraseDups ∧ set.catalog = catalog ∧
        set.book = book := by
  have none : Targets.From catalog [] := by intro b hb; cases hb
  unfold Book.bind
  rw [Outcome.bind_ok]
  constructor
  · rintro ⟨⟨rules, targets⟩, h, hs⟩
    cases hs
    obtain ⟨hr, rfl⟩ := (Bind.rules_ok hc none).1 h
    refine ⟨hr, ?_, rfl, rfl⟩
    rw [Targets.foldl_use]
    simp
  · rintro ⟨hr, ht, hcat, hbook⟩
    refine ⟨(set.rules, set.targets), (Bind.rules_ok hc none).2 ⟨hr, ?_⟩, ?_⟩
    · rw [ht, Targets.foldl_use]
      simp
    · cases hcat
      cases hbook
      rfl

/-- The bound rules of a checked book are its rules, each under the binding of the entity that it is
about and that admits it. -/
lemma Book.bind_wellFormed {book : Book} {catalog : Catalog} {report : Report} {set : RuleSet}
    (hc : catalog.Sound) (hv : book.check catalog = .ok report) (hb : book.bind catalog = .ok set) :
    List.Forall₂ (fun r b => ∃ e, r.subject? catalog = some e ∧ e.fieldNames.Nodup ∧
      r.WellFormed catalog book.registry e ∧ b.Under book.registry (Binding.ofEntity e) r)
      book.rules set.rules := by
  obtain ⟨len, pairs⟩ := List.forall₂_iff_zip.1 ((Book.bind_ok hc).1 hb).1
  refine List.forall₂_iff_zip.2 ⟨len, fun {r b} h => ?_⟩
  obtain ⟨e, he, hu⟩ := pairs h
  obtain ⟨e', wf⟩ := Book.check_wellFormed hv r (List.of_mem_zip h).1
  -- The check and the binding look the target up in the same way.
  cases he.symm.trans wf.target
  exact ⟨e, he, hc.fields_nodup (hc.of_findTarget? he).1, wf, hu⟩

end Rulebook
