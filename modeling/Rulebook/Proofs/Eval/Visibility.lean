import Rulebook.Proofs.Eval.Reading

/-!
# What a rule sees

Of an entity a rule sees the declared fields that its decision names, and of the context the
categories of its gates, in these only the fields that the gates name, each under its own name and
under its name with underscores. Two evaluations of a rule that see the same come to the same
verdict with the same trace, or fail in the same way (`BoundRule.evaluate_eq_of_alike`): whatever
else an entity or a context holds has no influence.
-/

namespace Rulebook

/-- Two entities have the same in every declared field that a rule's decision names. -/
def BoundRule.EntitiesAlike (r : BoundRule) (entity entity' : List (Value × Value)) : Prop :=
  ∀ c ∈ r.decision.clauses, c.field ∈ r.binding.fieldNames →
    Value.lookup? c.field entity = Value.lookup? c.field entity'

/-- Two contexts have the same for a gate under its category: nothing in both, one object, or two
mappings that have the same under every name that the clauses of the gate are looked up by. -/
inductive Gate.ObjectsAlike (g : Gate) : Option Value → Option Value → Prop where
  | same {object} :
    ObjectsAlike g object object
  | mappings {es es'} :
    (∀ c ∈ g.clauses, Value.lookup? c.field es = Value.lookup? c.field es') →
    (∀ c ∈ g.clauses,
      Value.lookup? (Access.underscored c.field) es =
      Value.lookup? (Access.underscored c.field) es') →
    ObjectsAlike g (some (.mapping es)) (some (.mapping es'))

/-- Two contexts have the same for all gates of a rule. -/
def BoundRule.ContextsAlike (r : BoundRule) (context context' : List (Value × Value)) : Prop :=
  ∀ g ∈ r.gates, g.ObjectsAlike (Value.lookup? g.category context)
    (Value.lookup? g.category context')

/-! ## Access -/

namespace Access

/-- A mapping is looked up by name. -/
lemma named_mapping (es : List (Value × Value)) (name : String) :
    named (.mapping es) name = .ok (Value.lookup? name es) := rfl

/-- In a mapping a name is found as it is written, or else with underscores. -/
lemma context_mapping (es : List (Value × Value)) (name : String) :
    context (.mapping es) name =
    .ok ((Value.lookup? name es).or (Value.lookup? (underscored name) es)) := by
  unfold context
  rw [named_mapping, named_mapping, Outcome.ok_bind]
  cases h : Value.lookup? name es with
  | some v => rfl
  | none =>
    by_cases hn : underscored name = name
    · dsimp only
      rw [if_pos hn, hn, h, Option.none_or]
    · dsimp only
      rw [if_neg hn, Option.none_or]

/-- Fields that are not declared are not found, whatever an entity holds. -/
lemma declared_congr {fields : List String} {es es' : List (Value × Value)} {name : String}
    (h : name ∈ fields → Value.lookup? name es = Value.lookup? name es') :
    declared fields (.mapping es) name = declared fields (.mapping es') name := by
  unfold declared
  by_cases hf : name ∈ fields
  · show (if fields.contains name then Value.lookup? name es else none) =
      if fields.contains name then Value.lookup? name es' else none
    rw [h hf]
  · have hc : ¬ fields.contains name = true := by simpa using hf
    rw [if_neg hc, if_neg hc]

end Access

/-! ## Runs -/

namespace Eval

variable {stop : Bool} {phase : Phase} {access access' : String → Outcome (Option Value)}

/-- A context that is a mapping stands for itself, also an empty one. -/
lemma contextOf_mapping (es : List (Value × Value)) : contextOf (.mapping es) = .mapping es :=
  contextOf_eq_mapping.2 .mapping

/-- A category is looked up in a mapping by its name. -/
lemma holder_mapping (es : List (Value × Value)) (category : String) :
    holder (.mapping es) category = .ok (Value.lookup? category es) := rfl

/-- A run over clauses depends on their own fields only. -/
lemma checkUntil_congr {cs : List Clause} (h : ∀ c ∈ cs, access c.field = access' c.field) :
    checkUntil stop phase access cs = checkUntil stop phase access' cs := by
  induction cs with
  | nil => rfl
  | cons c cs ih =>
    obtain ⟨hc, h⟩ := List.forall_mem_cons.1 h
    rw [checkUntil_cons, checkUntil_cons, hc, ih h]

/-- A decision depends on the fields of its clauses only. -/
lemma decide_congr {d : Decision} (h : ∀ c ∈ d.clauses, access c.field = access' c.field) :
    decide access d = decide access' d := by
  cases d with
  | single c => rw [decide, decide, h c (.head _)]
  | compound logic cs =>
    cases logic with
    | all =>
      have same : checkUntil false .decision access cs = checkUntil false .decision access' cs :=
        checkUntil_congr h
      rw [decide, decide, same]
    | any => exact checkUntil_congr h

/-- A run over gates depends on what the gates see of the context. -/
lemma gates_congr {gs : List Gate} {context context' : List (Value × Value)}
    (h : ∀ g ∈ gs, g.ObjectsAlike (Value.lookup? g.category context)
      (Value.lookup? g.category context')) :
    gates (.mapping context) gs = gates (.mapping context') gs := by
  induction gs with
  | nil => rfl
  | cons g gs ih =>
    obtain ⟨hg, h⟩ := List.forall_mem_cons.1 h
    rw [gates, gates, ih h, holder_mapping, holder_mapping, Outcome.ok_bind, Outcome.ok_bind]
    generalize Value.lookup? g.category context = object at hg
    generalize Value.lookup? g.category context' = object' at hg
    cases hg with
    | same => rfl
    | @mappings es es' written spelled =>
      have seen : ∀ c ∈ g.clauses,
          Access.context (.mapping es) c.field = Access.context (.mapping es') c.field := by
        intro c hc
        rw [Access.context_mapping, Access.context_mapping, written c hc, spelled c hc]
      dsimp only
      rw [checkUntil_congr seen]

end Eval

/-- A rule sees only what it names: entities and contexts that are alike for it lead to the same
verdict and the same trace, or to the same failure. -/
theorem BoundRule.evaluate_eq_of_alike {r : BoundRule}
    {entity entity' context context' : List (Value × Value)}
    (he : r.EntitiesAlike entity entity') (hc : r.ContextsAlike context context') :
    r.evaluate (.mapping entity) (.mapping context) = r.evaluate (.mapping entity')
    (.mapping context') := by
  have seen : ∀ c ∈ r.decision.clauses,
      r.access (.mapping entity) c.field = r.access (.mapping entity') c.field :=
    fun c h => congrArg Except.ok (Access.declared_congr (he c h))
  have decided : Eval.decide (r.access (.mapping entity)) r.decision =
      Eval.decide (r.access (.mapping entity')) r.decision := Eval.decide_congr seen
  unfold evaluate
  rw [Eval.contextOf_mapping, Eval.contextOf_mapping, Eval.gates_congr hc]
  show (Eval.gates (.mapping context') r.gates >>= fun p =>
      if p.1 then Eval.decide (r.access (.mapping entity)) r.decision >>= _ else _) = _
  rw [decided]
  rfl

/-- For a clerk, ten items are stocked whatever else is known of them and of the clerk: the colour
is no column, the discount no field, and the shop no category that the rule asks for. -/
theorem Stock.evaluate_colour :
    ∃ set r, book.bind catalog = .ok set ∧ set.rule? "Stocked" = some r ∧
      r.evaluate (.mapping [(.text "qty", .int 10), (.text "colour", .text "red")])
        (.mapping [(.text "shop", .text "main"),
          (.text "user", .mapping [(.text "role", .text "clerk"), (.text "discount", .int 3)])]) =
      r.evaluate (.mapping [(.text "qty", .int 10)])
        (.mapping [(.text "user", .mapping [(.text "role", .text "clerk")])]) := by
  refine ⟨_, _, rfl, rfl, BoundRule.evaluate_eq_of_alike ?entities ?contexts⟩
  case entities =>
    exact List.forall_mem_cons.2 ⟨fun _ => rfl,
    List.forall_mem_singleton.2 fun _ => rfl⟩
  case contexts =>
    refine List.forall_mem_singleton.2 (.mappings ?written ?spelled)
    case written => exact List.forall_mem_singleton.2 rfl
    case spelled => exact List.forall_mem_singleton.2 rfl

end Rulebook
