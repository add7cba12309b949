import Rulebook.Eval.Verdict
import Rulebook.Proofs.Outcome

/-!
# Runs over clauses and gates

Evaluating a rule is a run over its gates and then over the clauses of its decision. Which
comparisons a run makes depends on the answers before: `BoundRule.Reaches` says it without following
the run. The evaluation fails exactly if a clause that is reached has no answer
(`BoundRule.evaluate_error`), and otherwise its flags say what all clauses together say, whether
they were looked at or not (`BoundRule.evaluate_ok`).
-/

namespace Rulebook

namespace Eval

/-- The answer of a clause: its field is looked up and compared. -/
def answer (access : String → Outcome (Option Value)) (c : Clause) : Outcome Bool := do
  let actual ← access c.field
  Compare.field actual c.operator c.literal.toValue c.type

/-- A run over a list comes to an item if it goes on after all items before. -/
inductive Reached {α : Type} (goesOn : α → Prop) : List α → α → Prop
  | head {a as} : Reached goesOn (a :: as) a
  | tail {b as a} : goesOn b → Reached goesOn as a → Reached goesOn (b :: as) a

/-- A run over clauses that stops at a given answer goes on after a clause with the other answer. -/
def Reaches (stop : Bool) (access : String → Outcome (Option Value)) :
    List Clause → Clause → Prop :=
  Reached fun b => answer access b = .ok (!stop)

end Eval

/-- A gate lets a context pass if the context has the category and every clause
holds for its object. -/
def Gate.Passes (context : Value) (g : Gate) : Prop :=
  ∃ object, Eval.holder context g.category = .ok (some object) ∧
    ∀ c ∈ g.clauses, Eval.answer (Access.context object) c = .ok true

/-- A run over gates goes on after a gate that lets the context pass. -/
def Gate.Reached (context : Value) : List Gate → Gate → Prop :=
  Eval.Reached fun f => f.Passes context

/-- A gate has no answer: the context cannot be asked for the category, or a clause that is
reached has no answer. -/
def Gate.Unanswered (context : Value) (g : Gate) : Prop :=
  (∃ e, Eval.holder context g.category = .error e) ∨
    ∃ object, Eval.holder context g.category = .ok (some object) ∧
      ∃ c, Eval.Reaches false (Access.context object) g.clauses c ∧
        ∃ e, Eval.answer (Access.context object) c = .error e

/-- A decision is positive. -/
def Decision.Holds (access : String → Outcome (Option Value)) : Decision → Prop
  | .single c => Eval.answer access c = .ok true
  | .compound .all cs => ∀ c ∈ cs, Eval.answer access c = .ok true
  | .compound .any cs => ∃ c ∈ cs, Eval.answer access c = .ok true

/-- A decision reaches a clause. -/
def Decision.Reaches (access : String → Outcome (Option Value)) (c : Clause) : Decision → Prop
  | .single d => c = d
  | .compound .all cs => Eval.Reaches false access cs c
  | .compound .any cs => Eval.Reaches true access cs c

namespace Eval

variable {stop : Bool} {phase : Phase} {access : String → Outcome (Option Value)} {context : Value}

/-- The items that a run comes to are among those there are. -/
lemma Reached.mem {α : Type} {goesOn : α → Prop} {as : List α} {a : α} (h : Reached goesOn as a) :
    a ∈ as := by
  induction h with
  | head => exact .head _
  | tail _ _ ih => exact .tail _ ih

/-- A run always comes to the first item, and to another one if it goes on after the first. -/
lemma reached_cons {α : Type} {goesOn : α → Prop} {a b : α} {as : List α} :
    Reached goesOn (b :: as) a ↔ a = b ∨ goesOn b ∧ Reached goesOn as a := by
  constructor
  · intro h
    cases h with
    | head => exact .inl rfl
    | tail hb h => exact .inr ⟨hb, h⟩
  · rintro (rfl | ⟨hb, h⟩)
    · exact .head
    · exact .tail hb h

/-- Making a comparison gives its answer. -/
lemma map_result (phase : Phase) (access : String → Outcome (Option Value)) (c : Clause) :
    Step.result <$> (access c.field >>= fun actual => check phase actual c) = answer access c := by
  unfold answer
  cases access c.field with
  | error e => rfl
  | ok actual =>
    show Step.result <$> check phase actual c =
      Compare.field actual c.operator c.literal.toValue c.type
    unfold check
    cases Compare.field actual c.operator c.literal.toValue c.type <;> rfl

/-- A run makes its first comparison before anything else. -/
lemma checkUntil_cons (c : Clause) (cs : List Clause) :
    checkUntil stop phase access (c :: cs) =
      (access c.field >>= fun actual => check phase actual c) >>= fun step =>
        if step.result = stop then .ok (true, [step])
        else checkUntil stop phase access cs >>= fun r => .ok (r.1, step :: r.2) := by
  rw [checkUntil, bind_assoc]

/-- A run that ends tells whether some clause has the answer at which it stops; otherwise all
have the other one. -/
lemma checkUntil_ok {cs : List Clause} :
    ∀ {stopped steps}, checkUntil stop phase access cs = .ok (stopped, steps) →
      (stopped = true ∧ ∃ c ∈ cs, answer access c = .ok stop) ∨
        (stopped = false ∧ ∀ c ∈ cs, answer access c = .ok (!stop)) := by
  induction cs with
  | nil =>
    intro stopped steps h
    cases h
    exact .inr ⟨rfl, List.forall_mem_nil _⟩
  | cons c cs ih =>
    intro stopped steps h
    rw [checkUntil_cons, Outcome.bind_ok] at h
    -- The first answer stops the run; otherwise the induction hypothesis speaks of the
    -- run over the rest.
    obtain ⟨step, hs, h⟩ := h
    have ha : answer access c = .ok step.result := by
      rw [← map_result phase, hs]
      rfl
    split at h
    · rename_i hr
      cases h
      exact .inl ⟨rfl, c, .head _, by rw [ha, hr]⟩
    · rename_i hr
      have hr : step.result = !stop := Bool.eq_not.2 hr
      obtain ⟨⟨stopped', more⟩, hm, h⟩ := Outcome.bind_ok.1 h
      cases h
      obtain ⟨e, d, hd, ho⟩ | ⟨e, hall⟩ := ih hm
      · exact .inl ⟨e, d, .tail _ hd, ho⟩
      · refine .inr ⟨e, fun d hd => ?_⟩
        cases hd with
        | head => rw [ha, hr]
        | tail _ hd => exact hall d hd

/-- A run fails if a clause that it reaches has no answer. -/
lemma checkUntil_error {cs : List Clause} :
    (∃ e, checkUntil stop phase access cs = .error e) ↔
      ∃ c, Reaches stop access cs c ∧ ∃ e, answer access c = .error e := by
  induction cs with
  | nil =>
    constructor
    · rintro ⟨e, h⟩; cases h
    · rintro ⟨c, h, _⟩; cases h
  | cons c cs ih =>
    rw [checkUntil_cons]
    have ha := map_result phase access c
    cases hs : access c.field >>= fun actual => check phase actual c with
    | error e =>
      rw [hs] at ha
      exact ⟨fun _ => ⟨c, .head, e, ha.symm⟩, fun _ => ⟨e, rfl⟩⟩
    | ok step =>
      rw [hs] at ha
      have ha : answer access c = .ok step.result := ha.symm
      rw [Outcome.ok_bind]
      simp only [Reaches, reached_cons, ha, Except.ok.injEq]
      by_cases hr : step.result = stop
      · rw [if_pos hr]
        constructor
        · rintro ⟨e, h⟩; cases h
        · rintro ⟨d, rfl | ⟨h, _⟩, e, he⟩
          · rw [ha] at he; cases he
          · rw [hr] at h; exact ((Bool.eq_not_self stop).1 h).elim
      · rw [if_neg hr]
        have hr : step.result = !stop := Bool.eq_not.2 hr
        constructor
        · rintro ⟨e, h⟩
          obtain h | ⟨r, _, h⟩ := Outcome.bind_error.1 h
          · obtain ⟨d, hd, he⟩ := ih.1 ⟨e, h⟩
            exact ⟨d, .inr ⟨hr, hd⟩, he⟩
          · cases h
        · rintro ⟨d, rfl | ⟨_, hd⟩, he⟩
          · rw [ha] at he
            obtain ⟨e, he⟩ := he
            cases he
          · obtain ⟨e, h⟩ := ih.2 ⟨d, hd, he⟩
            exact ⟨e, Outcome.bind_error.2 (.inl h)⟩

/-- A run up to the first clause that does not hold tells whether all hold. -/
lemma checkUntil_false {cs : List Clause} {failed : Bool} {steps : List Step}
    (h : checkUntil false phase access cs = .ok (failed, steps)) :
    failed = false ↔ ∀ c ∈ cs, answer access c = .ok true := by
  obtain ⟨rfl, c, hc, ha⟩ | ⟨rfl, hall⟩ := checkUntil_ok h
  · constructor
    · intro h; cases h
    · intro hall
      have := hall c hc
      rw [ha] at this
      cases this
  · exact ⟨fun _ => hall, fun _ => rfl⟩

/-- A run up to the first clause that holds tells whether one holds. -/
lemma checkUntil_true {cs : List Clause} {found : Bool} {steps : List Step}
    (h : checkUntil true phase access cs = .ok (found, steps)) :
    found = true ↔ ∃ c ∈ cs, answer access c = .ok true := by
  obtain ⟨rfl, hc⟩ | ⟨rfl, hall⟩ := checkUntil_ok h
  · exact ⟨fun _ => hc, fun _ => rfl⟩
  · constructor
    · intro h; cases h
    · rintro ⟨c, hc, ha⟩
      have := hall c hc
      rw [ha] at this
      cases this

/-! ## Gates and decisions -/

/-- Gates are passed if each of them is. -/
lemma gates_ok {gs : List Gate} :
    ∀ {passed steps}, gates context gs = .ok (passed, steps) →
      (passed = true ↔ ∀ g ∈ gs, g.Passes context) := by
  induction gs with
  | nil =>
    intro passed steps h
    cases h
    exact ⟨fun _ => List.forall_mem_nil _, fun _ => rfl⟩
  | cons g gs ih =>
    intro passed steps h
    rw [List.forall_mem_cons]
    unfold gates at h
    obtain ⟨o, ho, h⟩ := Outcome.bind_ok.1 h
    cases o with
    | none =>
      cases h
      constructor
      · intro h; cases h
      · rintro ⟨⟨object, h, _⟩, _⟩
        rw [ho] at h
        cases h
    | some object =>
      have passes : g.Passes context ↔
          ∀ c ∈ g.clauses, answer (Access.context object) c = .ok true := by
        unfold Gate.Passes
        rw [ho]
        simp
      obtain ⟨⟨failed, some⟩, hf, h⟩ := Outcome.bind_ok.1 h
      have hc := checkUntil_false hf
      cases failed with
      | true =>
        cases h
        constructor
        · intro h; cases h
        · rintro ⟨hg, _⟩; cases hc.2 (passes.1 hg)
      | false =>
        obtain ⟨⟨passed', more⟩, hm, h⟩ := Outcome.bind_ok.1 h
        cases h
        rw [ih hm, passes]
        exact ⟨fun h => ⟨hc.1 rfl, h⟩, fun h => h.2⟩

/-- Gates fail if a gate that is reached has no answer. -/
lemma gates_error {gs : List Gate} :
    (∃ e, gates context gs = .error e) ↔ ∃ g, Gate.Reached context gs g ∧ g.Unanswered context := by
  induction gs with
  | nil =>
    constructor
    · rintro ⟨e, h⟩; cases h
    · rintro ⟨g, h, _⟩; cases h
  | cons g gs ih =>
    rw [gates]
    cases ho : holder context g.category with
    | error e => exact ⟨fun _ => ⟨g, .head, .inl ⟨e, ho⟩⟩, fun _ => ⟨e, rfl⟩⟩
    | ok o =>
      rw [Outcome.ok_bind]
      cases o with
      | none =>
        constructor
        · rintro ⟨e, h⟩; cases h
        · rintro ⟨f, hf, hu⟩
          obtain rfl | ⟨⟨object, h, _⟩, _⟩ := reached_cons.1 hf
          · obtain ⟨e, h⟩ | ⟨object, h, _⟩ := hu
            · rw [ho] at h; cases h
            · rw [ho] at h; cases h
          · rw [ho] at h; cases h
      | some object =>
        -- A gate whose category is there is unanswered exactly if the run over its clauses fails.
        have unanswered : g.Unanswered context ↔
            ∃ e, checkUntil false (.gate g.category) (Access.context object) g.clauses =
              .error e := by
          unfold Gate.Unanswered
          rw [checkUntil_error, ho]
          simp
        dsimp only
        cases hc : checkUntil false (.gate g.category) (Access.context object) g.clauses with
        | error e => exact ⟨fun _ => ⟨g, .head, unanswered.2 ⟨e, hc⟩⟩, fun _ => ⟨e, rfl⟩⟩
        | ok r =>
          obtain ⟨failed, steps⟩ := r
          -- The gate is answered, so a fault can only lie behind it, where the run comes if the
          -- gate is passed.
          have answered : ¬ g.Unanswered context := by
            rw [unanswered, hc]
            rintro ⟨e, h⟩; cases h
          have passes : g.Passes context ↔ failed = false := by
            rw [checkUntil_false hc]
            unfold Gate.Passes
            rw [ho]
            simp
          rw [Outcome.ok_bind]
          simp only [Gate.Reached, reached_cons, passes]
          cases failed with
          | true =>
            constructor
            · rintro ⟨e, h⟩; cases h
            · rintro ⟨f, rfl | ⟨h, _⟩, hu⟩
              · exact absurd hu answered
              · cases h
          | false =>
            rw [if_neg Bool.false_ne_true]
            simp only [Outcome.bind_result_error, ih, true_and]
            constructor
            · rintro ⟨f, hf, hu⟩
              exact ⟨f, .inr hf, hu⟩
            · rintro ⟨f, rfl | hf, hu⟩
              · exact absurd hu answered
              · exact ⟨f, hf, hu⟩

/-- A decision tells whether it is positive. -/
lemma decide_ok {d : Decision} {satisfied : Bool} {steps : List Step}
    (h : decide access d = .ok (satisfied, steps)) : satisfied = true ↔ d.Holds access := by
  cases d with
  | single c =>
    rw [decide, ← bind_assoc] at h
    obtain ⟨step, hs, h⟩ := Outcome.bind_ok.1 h
    cases h
    have ha : answer access c = .ok step.result := by
      rw [← map_result .decision, hs]
      rfl
    rw [Decision.Holds, ha, Except.ok.injEq]
  | compound logic cs =>
    cases logic with
    | all =>
      obtain ⟨⟨failed, some⟩, hf, h⟩ := Outcome.bind_ok.1 h
      cases h
      rw [Decision.Holds, ← checkUntil_false hf, Bool.not_eq_true']
    | any => exact checkUntil_true h

/-- A decision fails if a clause that it reaches has no answer. -/
lemma decide_error {d : Decision} :
    (∃ e, decide access d = .error e) ↔
    ∃ c, d.Reaches access c ∧ ∃ e, answer access c = .error e := by
  cases d with
  | single c =>
    rw [decide, ← bind_assoc]
    simp only [Decision.Reaches, exists_eq_left, Outcome.bind_result_error]
    rw [← map_result .decision]
    simp only [Outcome.map_error]
  | compound logic cs =>
    cases logic with
    | all =>
      simp only [decide, Outcome.bind_result_error]
      exact checkUntil_error
    | any => exact checkUntil_error

end Eval

/-! ## Rules -/

/-- How the fields of an entity are looked up for a rule. -/
def BoundRule.access (r : BoundRule) (entity : Value) (name : String) : Outcome (Option Value) :=
  .ok (Access.declared r.binding.fieldNames entity name)

/-- All gates of a rule let a context pass. -/
def BoundRule.Permits (r : BoundRule) (context : Value) : Prop :=
  ∀ g ∈ r.gates, g.Passes (Eval.contextOf context)

/-- The clauses of a decision. -/
def Decision.clauses : Decision → List Clause
  | .single c => [c]
  | .compound _ cs => cs

/-- Every clause of a rule has an answer, those included that an evaluation passes over. -/
structure BoundRule.Answered (r : BoundRule) (entity context : Value) : Prop where
  holders : ∀ g ∈ r.gates, ∃ object, Eval.holder (Eval.contextOf context) g.category = .ok object
  gates : ∀ g ∈ r.gates, ∀ object, Eval.holder (Eval.contextOf context) g.category =
    .ok (some object) → ∀ c ∈ g.clauses, ∃ a, Eval.answer (Access.context object) c = .ok a
  decision : ∀ c ∈ r.decision.clauses, ∃ a, Eval.answer (r.access entity) c = .ok a

/-- What a verdict says of a rule. -/
structure Verdict.Of (v : Verdict) (r : BoundRule) (entity context : Value) : Prop where
  rule : v.rule = r.name
  blocking : v.blocking = r.blocking
  gatePassed : v.gatePassed = true ↔ r.Permits context
  satisfied : v.satisfied = true ↔ r.Permits context ∧ r.decision.Holds (r.access entity)
  status : v.status = if v.satisfied then r.positive else r.negative

/-- The clauses that a decision reaches are its own. -/
lemma Decision.mem_clauses {access : String → Outcome (Option Value)} {d : Decision} {c : Clause}
    (h : d.Reaches access c) : c ∈ d.clauses := by
  cases d with
  | single d =>
    rw [Decision.Reaches] at h
    subst h
    exact .head _
  | compound logic cs =>
    cases logic with
    | all | any => exact Eval.Reached.mem h

namespace BoundRule

variable {r : BoundRule} {entity context : Value}

/-- The flags and the status of a verdict say what all clauses together say. -/
theorem evaluate_ok {v : Verdict} (h : r.evaluate entity context = .ok v) :
    v.Of r entity context := by
  obtain ⟨⟨passed, steps⟩, hg, h⟩ := Outcome.bind_ok.1 h
  have hp := Eval.gates_ok hg
  cases passed with
  | true =>
    obtain ⟨⟨satisfied, more⟩, hd, h⟩ := Outcome.bind_ok.1 h
    cases h
    exact ⟨rfl, rfl, hp, (Eval.decide_ok hd).trans ⟨fun h => ⟨hp.1 rfl, h⟩, fun h => h.2⟩, rfl⟩
  | false =>
    cases h
    refine ⟨rfl, rfl, hp, ?_, rfl⟩
    constructor
    · intro h; cases h
    · rintro ⟨h, _⟩; cases hp.2 h

/-- An evaluation fails if a gate that is reached has no answer, or if all gates are passed and a
clause that the decision reaches has none. -/
theorem evaluate_error :
    (∃ e, r.evaluate entity context = .error e) ↔
      (∃ g, Gate.Reached (Eval.contextOf context) r.gates g ∧
        g.Unanswered (Eval.contextOf context)) ∨
        r.Permits context ∧ ∃ c, r.decision.Reaches (r.access entity) c ∧
          ∃ e, Eval.answer (r.access entity) c = .error e := by
  rw [← Eval.gates_error, ← Eval.decide_error]
  unfold evaluate
  cases hg : Eval.gates (Eval.contextOf context) r.gates with
  | error e => exact ⟨fun _ => .inl ⟨e, rfl⟩, fun _ => ⟨e, rfl⟩⟩
  | ok p =>
    obtain ⟨passed, steps⟩ := p
    have hp : passed = true ↔ r.Permits context := Eval.gates_ok hg
    rw [Outcome.ok_bind, ← hp]
    cases passed with
    | true =>
      dsimp only
      rw [if_pos rfl]
      show (∃ e, (Eval.decide (r.access entity) r.decision >>= _) = Except.error e) ↔ _
      cases Eval.decide (r.access entity) r.decision with
      | error e => exact ⟨fun _ => .inr ⟨rfl, e, rfl⟩, fun _ => ⟨e, rfl⟩⟩
      | ok q =>
        constructor
        · rintro ⟨e, h⟩; cases h
        · rintro (⟨e, h⟩ | ⟨_, e, h⟩)
          · cases h
          · cases h
    | false =>
      constructor
      · rintro ⟨e, h⟩; cases h
      · rintro (⟨e, h⟩ | ⟨h, _⟩)
        · cases h
        · cases h

/-- If every clause has an answer, the rule has a verdict. -/
theorem Answered.evaluate (h : r.Answered entity context) :
    ∃ v, r.evaluate entity context = .ok v := by
  refine Outcome.exists_ok fun e he => ?_
  obtain ⟨g, hg, hu⟩ | ⟨_, c, hc, e, ha⟩ := evaluate_error.1 ⟨e, he⟩
  · obtain ⟨e, hh⟩ | ⟨object, ho, c, hc, e, ha⟩ := hu
    · obtain ⟨object, ho⟩ := h.holders g hg.mem
      rw [hh] at ho
      cases ho
    · obtain ⟨a, hok⟩ := h.gates g hg.mem object ho c hc.mem
      rw [ha] at hok
      cases hok
  · obtain ⟨a, hok⟩ := h.decision c (Decision.mem_clauses hc)
    rw [ha] at hok
    cases hok

end BoundRule
end Rulebook
