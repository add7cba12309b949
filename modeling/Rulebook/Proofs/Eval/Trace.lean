import Rulebook.Eval.Record
import Rulebook.Proofs.Eval.Reading

/-!
# What a record shows

An evaluation has questions to settle, in their order: for each gate whether the context has its
category and then how its clauses come out, and at last how the clauses of the decision come out.
It settles them up to the first one that decides (`decidingPrefix`), and its record shows exactly
the comparisons among those (`BoundRule.evaluateRecorded_shows`). Whether a record is kept
changes nothing else.
-/

namespace Rulebook

/-- The items up to and with the first one that decides; all of them if none does. -/
def decidingPrefix {α : Type} (decides : α → Bool) : List α → List α
  | [] => []
  | a :: as => if decides a then [a] else a :: decidingPrefix decides as

/-- What an evaluation has to settle: whether the context has a category, or a comparison. -/
inductive Question where
  | category (name : String)
  | comparison (phase : Phase) (clause : Clause)

/-- The comparison that a question asks for. -/
def Question.comparison? : Question → Option (Phase × Clause)
  | .category _ => none
  | .comparison phase c => some (phase, c)

/-- The questions of a gate: its category, then its clauses. -/
def Gate.questions (g : Gate) : List Question :=
  .category g.category :: g.clauses.map (.comparison (.gate g.category))

/-- The questions of a rule: those of its gates, then the clauses of its decision. -/
def BoundRule.questions (r : BoundRule) : List Question :=
  r.gates.flatMap Gate.questions ++ r.decision.clauses.map (.comparison .decision)

namespace Eval

/-- The context has a category. -/
def hasCategory (context : Value) (category : String) : Bool :=
  match holder context category with
  | .ok (some _) => true
  | _ => false

/-- A clause has a given answer. -/
def answers (access : String → Outcome (Option Value)) (b : Bool) (c : Clause) : Bool :=
  match answer access c with
  | .ok a => a == b
  | .error _ => false

/-- How fields are looked up among what the context holds for a category. -/
def gateAccess (context : Value) (category name : String) : Outcome (Option Value) := do
  match ← holder context category with
  | some object => Access.context object name
  | none => .ok none

end Eval

namespace BoundRule

/-- How fields are looked up in a phase of the evaluation. -/
def lookup (r : BoundRule) (entity context : Value) : Phase → String → Outcome (Option Value)
  | .gate category => Eval.gateAccess (Eval.contextOf context) category
  | .decision => r.access entity

/-- A question decides: a category is missing, a clause of a gate or of a conjunction is false, or a
clause of a disjunction is true. -/
def decides (r : BoundRule) (entity context : Value) : Question → Bool
  | .category category => !Eval.hasCategory (Eval.contextOf context) category
  | .comparison (.gate category) c =>
    Eval.answers (r.lookup entity context (.gate category)) false c
  | .comparison .decision c =>
    match r.decision with
    | .single _ => false
    | .compound .all _ => Eval.answers (r.lookup entity context .decision) false c
    | .compound .any _ => Eval.answers (r.lookup entity context .decision) true c

/-- Whether a rule is satisfied, from the comparisons of a record and the categories
that the context has. -/
def satisfiedBy (r : BoundRule) (has : String → Bool) (steps : List Step) : Bool :=
  r.gates.all (fun g => has g.category) && steps.all (fun s => s.phase == .decision || s.result) &&
    match r.decision with
    | .single _ | .compound .all _ => steps.all (·.result)
    | .compound .any _ => steps.any fun s => s.phase == .decision && s.result

end BoundRule

/-- What was compared in a step, and in which phase. -/
def Step.comparison (s : Step) : Phase × Clause := (s.phase, s.clause)

/-- A step holds what was found under the field of its clause, and how the
comparison with it came out. -/
structure Step.Made (s : Step) (access : String → Outcome (Option Value)) : Prop where
  found : access s.clause.field = .ok s.actual
  compared : Compare.field s.actual s.clause.operator s.clause.literal.toValue s.clause.type =
    .ok s.result

/-- What the steps of a record show of the evaluation of a rule. -/
structure RecordedVerdict.Shows (v : RecordedVerdict) (steps : List Step) (r : BoundRule)
    (entity context : Value) :
    Prop where
  /-- The steps are the comparisons of the questions up to the first one that decides. -/
  comparisons : steps.map (·.comparison) =
    (decidingPrefix (r.decides entity context) r.questions).filterMap (·.comparison?)
  made : ∀ s ∈ steps, s.Made (r.lookup entity context s.phase)
  gated : v.gatePassed = false → ∀ s ∈ steps, s.phase ≠ .decision
  satisfied : v.satisfied = r.satisfiedBy (Eval.hasCategory (Eval.contextOf context)) steps

/-! ## Deciding prefixes -/

section DecidingPrefix
variable {α β : Type} {p : α → Bool}

/-- A prefix that does not decide is followed by the deciding prefix of the rest. -/
lemma decidingPrefix_append (as bs : List α) :
    decidingPrefix p (as ++ bs) = if as.any p then decidingPrefix p as
    else as ++ decidingPrefix p bs := by
  induction as with
  | nil => rfl
  | cons a as ih =>
    rw [List.cons_append, decidingPrefix, decidingPrefix, List.any_cons, ih]
    cases p a with
    | true => rfl
    | false =>
      rw [Bool.false_or, if_neg Bool.false_ne_true, if_neg Bool.false_ne_true]
      split <;> rfl

/-- The prefix up to the first decision is taken alike before and after a map. -/
lemma decidingPrefix_map (f : β → α) (bs : List β) :
    decidingPrefix p (bs.map f) = (decidingPrefix (p ∘ f) bs).map f := by
  induction bs with
  | nil => rfl
  | cons b bs ih =>
    rw [List.map_cons, decidingPrefix, decidingPrefix, ih]
    show (if p (f b) then _ else _) = List.map f (if p (f b) then _ else _)
    split <;> rfl

/-- Where nothing decides, the prefix is the whole. -/
lemma decidingPrefix_eq_self {as : List α} (h : as.any p = false) : decidingPrefix p as = as := by
  have whole := decidingPrefix_append (p := p) as []
  rwa [h, if_neg Bool.false_ne_true, List.append_nil, decidingPrefix, List.append_nil] at whole

end DecidingPrefix

namespace Eval

variable {stop : Bool} {phase : Phase} {access : String → Outcome (Option Value)} {context : Value}

/-! ## Keeping a record -/

/-- A run that keeps a record comes to the same result, and writes its steps at the
end of the record. -/
def writing (record : Record) (p : Bool × List Step) : Bool × Record := (p.1, record.write p.2)

/-- Nothing written leaves a record as it is. -/
lemma write_nil (record : Record) : record.write [] = record := by
  cases record with
  | none => rfl
  | some steps => exact congrArg some (List.append_nil steps)

/-- Steps are written one after the other. -/
lemma write_append (record : Record) (steps more : List Step) :
    record.write (steps ++ more) = (record.write steps).write more := by
  cases record with
  | none => rfl
  | some before => exact congrArg some (List.append_assoc before steps more).symm

/-- A recorded comparison answers as one without a record, and writes its step. -/
lemma checkRecorded_eq (actual : Option Value) (c : Clause) (record : Record) :
    checkRecorded phase actual c record =
      (fun s => (s.result, record.write [s])) <$> check phase actual c := by
  unfold checkRecorded check
  cases Compare.field actual c.operator c.literal.toValue c.type <;> rfl

/-- Recorded comparisons answer as those without a record, and write their steps. -/
lemma checkUntilRecorded_eq (cs : List Clause) (record : Record) :
    checkUntilRecorded stop phase access cs record =
    writing record <$> checkUntil stop phase access cs := by
  induction cs generalizing record with
  | nil => exact congrArg (fun r => Except.ok (false, r)) (write_nil record).symm
  | cons c cs ih =>
    rw [checkUntilRecorded, checkUntil]
    cases access c.field with
    | error e => rfl
    | ok actual =>
      rw [Outcome.ok_bind, Outcome.ok_bind, checkRecorded_eq]
      cases check phase actual c with
      | error e => rfl
      | ok step =>
        show (if step.result = stop then _ else checkUntilRecorded _ _ _ cs (record.write [step])) =
          writing record <$> (if step.result = stop then _ else _)
        rw [ih]
        split
        · rfl
        · cases checkUntil stop phase access cs with
          | error e => rfl
          | ok p =>
            exact congrArg (fun r => Except.ok (p.1, r)) (write_append record [step] p.2).symm

/-- Recorded gates answer as those without a record, and write their steps. -/
lemma gatesRecorded_eq (gs : List Gate) (record : Record) :
    gatesRecorded context gs record = writing record <$> gates context gs := by
  induction gs generalizing record with
  | nil => exact congrArg (fun r => Except.ok (true, r)) (write_nil record).symm
  | cons g gs ih =>
    rw [gatesRecorded, gates]
    cases holder context g.category with
    | error e => rfl
    | ok found =>
      rw [Outcome.ok_bind, Outcome.ok_bind]
      cases found with
      | none => exact congrArg (fun r => Except.ok (false, r)) (write_nil record).symm
      | some object =>
        dsimp only
        rw [checkUntilRecorded_eq]
        cases checkUntil false (.gate g.category) (Access.context object) g.clauses with
        | error e => rfl
        | ok p =>
          obtain ⟨failed, steps⟩ := p
          cases failed with
          | true => rfl
          | false =>
            show gatesRecorded context gs (record.write steps) =
              writing record <$> (gates context gs >>= _)
            rw [ih]
            cases gates context gs with
            | error e => rfl
            | ok q =>
              exact congrArg (fun r => Except.ok (q.1, r)) (write_append record steps q.2).symm

/-- A recorded decision answers as one without a record, and writes its steps. -/
lemma decideRecorded_eq (d : Decision) (record : Record) :
    decideRecorded access record d = writing record <$> decide access d := by
  cases d with
  | single c =>
    rw [decideRecorded, decide]
    cases access c.field with
    | error e => rfl
    | ok actual =>
      rw [Outcome.ok_bind, Outcome.ok_bind, checkRecorded_eq]
      cases check .decision actual c <;> rfl
  | compound logic cs =>
    cases logic with
    | all =>
      rw [decideRecorded, decide, checkUntilRecorded_eq]
      cases checkUntil false .decision access cs <;> rfl
    | any => exact checkUntilRecorded_eq cs record

end Eval

/-- The verdict, with its steps as a record if one is kept. -/
def Verdict.recorded (kept : Bool) (v : Verdict) : RecordedVerdict where
  rule := v.rule
  status := v.status
  blocking := v.blocking
  satisfied := v.satisfied
  gatePassed := v.gatePassed
  trace := if kept then some v.trace else none

/-- An evaluation comes to the same verdict whether or not it keeps a record. -/
lemma BoundRule.evaluateRecorded_eq (r : BoundRule) (kept : Bool) (entity context : Value) :
    r.evaluateRecorded kept entity context = Verdict.recorded kept <$>
    r.evaluate entity context := by
  have begun (steps : List Step) : (Record.begin kept).write steps = if kept then
      some steps else none := by
    cases kept <;> rfl
  rw [evaluateRecorded, evaluate, Eval.gatesRecorded_eq]
  cases Eval.gates (Eval.contextOf context) r.gates with
  | error e => rfl
  | ok p =>
    obtain ⟨passed, steps⟩ := p
    cases passed with
    | false => exact congrArg (fun t => Except.ok (RecordedVerdict.mk _ _ _ _ _ t)) (begun steps)
    | true =>
      show (Eval.decideRecorded _ ((Record.begin kept).write steps) r.decision >>= _) =
        Verdict.recorded kept <$> (Eval.decide _ r.decision >>= _)
      rw [Eval.decideRecorded_eq]
      cases Eval.decide _ r.decision with
      | error e => rfl
      | ok q =>
        have written := (Eval.write_append (.begin kept) steps q.2).symm.trans
          (begun (steps ++ q.2))
        exact congrArg (fun t => Except.ok (RecordedVerdict.mk _ _ _ _ _ t)) written

namespace Eval

variable {stop : Bool} {phase : Phase} {access : String → Outcome (Option Value)}

/-! ## The steps of a run -/

/-- What the steps of a run over clauses show. -/
structure StepsOf (stop : Bool) (phase : Phase) (access : String → Outcome (Option Value))
    (cs : List Clause) (steps : List Step) : Prop where
  comparisons : steps.map (·.comparison) =
    (decidingPrefix (answers access stop) cs).map (Prod.mk phase)
  made : ∀ s ∈ steps, s.phase = phase ∧ s.Made access
  results : steps.any (·.result == stop) = cs.any (answers access stop)

/-- A step answers its clause. -/
lemma made_of_check {c : Clause} {actual : Option Value} {step : Step}
    (found : access c.field = .ok actual) (h : check phase actual c = .ok step) :
    step.comparison = (phase, c) ∧ step.Made access ∧ answer access c = .ok step.result := by
  obtain ⟨result, compared, h⟩ := Outcome.bind_ok.1 h
  cases h
  exact ⟨rfl, ⟨found, compared⟩, by rw [answer, found]; exact compared⟩

/-- A run over clauses stops after the first one with the given answer, and tells
whether there is one. -/
lemma checkUntil_shows {cs : List Clause} :
    ∀ {stopped steps}, checkUntil stop phase access cs = .ok (stopped, steps) →
      stopped = cs.any (answers access stop) ∧ StepsOf stop phase access cs steps := by
  induction cs with
  | nil =>
    intro stopped steps h
    cases h
    exact ⟨rfl, rfl, List.forall_mem_nil _, rfl⟩
  | cons c cs ih =>
    intro stopped steps h
    obtain ⟨actual, found, h⟩ := Outcome.bind_ok.1 h
    obtain ⟨step, hs, h⟩ := Outcome.bind_ok.1 h
    obtain ⟨key, made, ha⟩ := made_of_check found hs
    have here : answers access stop c = (step.result == stop) := by rw [answers, ha]
    have phase_eq : step.phase = phase := congrArg Prod.fst key
    by_cases hr : step.result = stop
    · rw [if_pos hr] at h
      cases h
      have decided : answers access stop c = true := by rw [here, hr, beq_self_eq_true]
      refine ⟨by rw [List.any_cons, decided, Bool.true_or], ?_, ?_, ?_⟩
      · rw [decidingPrefix, if_pos decided]
        exact congrArg (· :: []) key
      · exact List.forall_mem_singleton.2 ⟨phase_eq, made⟩
      · rw [List.any_cons, List.any_cons, decided, ← here, decided]
        rfl
    · rw [if_neg hr] at h
      obtain ⟨⟨stopped', more⟩, hm, h⟩ := Outcome.bind_ok.1 h
      cases h
      have undecided : answers access stop c = false := by rw [here]; exact beq_eq_false_iff_ne.2 hr
      obtain ⟨rfl, rest⟩ := ih hm
      refine ⟨by rw [List.any_cons, undecided, Bool.false_or], ?_, ?_, ?_⟩
      · rw [decidingPrefix, undecided, List.map_cons, key, rest.comparisons]
        rfl
      · exact List.forall_mem_cons.2 ⟨⟨phase_eq, made⟩, rest.made⟩
      · rw [List.any_cons, List.any_cons, rest.results, here]

end Eval

namespace BoundRule

variable {r : BoundRule} {entity context : Value}

/-- The clauses of a gate whose category is there decide where they are false. -/
lemma decides_gate (category : String) :
    r.decides entity context ∘ Question.comparison (.gate category) =
      Eval.answers (Eval.gateAccess (Eval.contextOf context) category) false := rfl

/-- Where a context has a category, its gates look into what it has there. -/
lemma gateAccess_eq {context object : Value} {category : String}
    (h : Eval.holder context category = .ok (some object)) :
    Eval.gateAccess context category = Access.context object := by
  funext name
  rw [Eval.gateAccess, h]
  rfl

/-- What the steps of a run over gates show. -/
structure GateSteps (r : BoundRule) (entity context : Value) (gs : List Gate) (passed : Bool)
    (steps : List Step) :
    Prop where
  undecided : passed = !(gs.flatMap Gate.questions).any (r.decides entity context)
  comparisons : steps.map (·.comparison) =
    (decidingPrefix (r.decides entity context) (gs.flatMap Gate.questions)).filterMap
      (·.comparison?)
  made : ∀ s ∈ steps, s.phase ≠ .decision ∧ s.Made (r.lookup entity context s.phase)
  satisfied : passed = (gs.all (fun g => Eval.hasCategory (Eval.contextOf context) g.category) &&
    steps.all (·.result))

/-- Of the questions made from clauses, all are comparisons. -/
lemma comparison?_map (phase : Phase) (cs : List Clause) :
    (cs.map (Question.comparison phase)).filterMap (·.comparison?) = cs.map (Prod.mk phase) := by
  rw [List.filterMap_map]
  exact congrFun List.filterMap_eq_map cs

namespace GateSteps

variable {gs gs' : List Gate} {steps more : List Step}

/-- After gates that refuse no others are asked. -/
lemma refused (h : r.GateSteps entity context gs false steps) (gs' : List Gate) :
    r.GateSteps entity context (gs ++ gs') false steps := by
  have decided : (gs.flatMap Gate.questions).any (r.decides entity context) = true := by
    simpa using h.undecided
  constructor
  case undecided => rw [List.flatMap_append, List.any_append, decided]; rfl
  case comparisons => rw [List.flatMap_append, decidingPrefix_append, if_pos decided, h.comparisons]
  case made => exact h.made
  case satisfied =>
    rw [List.all_append, Bool.and_assoc, Bool.and_left_comm,
    ← h.satisfied, Bool.and_false]

/-- After gates that let pass the others are asked. -/
lemma append {passed : Bool} (h : r.GateSteps entity context gs true steps)
    (rest : r.GateSteps entity context gs' passed more) :
    r.GateSteps entity context (gs ++ gs') passed (steps ++ more) := by
  have undecided : (gs.flatMap Gate.questions).any (r.decides entity context) = false := by
    simpa using h.undecided
  obtain ⟨there, true_steps⟩ := Bool.and_eq_true_iff.1 h.satisfied.symm
  constructor
  case undecided =>
    rw [List.flatMap_append, List.any_append, undecided,
    Bool.false_or, rest.undecided]
  case comparisons =>
    rw [List.flatMap_append, decidingPrefix_append, undecided, if_neg Bool.false_ne_true,
      List.filterMap_append, List.map_append, h.comparisons, rest.comparisons,
      decidingPrefix_eq_self undecided]
  case made => exact List.forall_mem_append.2 ⟨h.made, rest.made⟩
  case satisfied =>
    rw [List.all_append, there, Bool.true_and, List.all_append, true_steps,
      Bool.true_and, rest.satisfied]

/-- A gate whose category is missing refuses before any comparison. -/
lemma missing {g : Gate} (h : Eval.holder (Eval.contextOf context) g.category = .ok none) :
    r.GateSteps entity context [g] false [] := by
  have missing : Eval.hasCategory (Eval.contextOf context) g.category = false := by
    rw [Eval.hasCategory, h]
  have decides : r.decides entity context (.category g.category) = true := by
    rw [BoundRule.decides, missing, Bool.not_false]
  constructor
  case undecided => rw [List.flatMap_singleton, Gate.questions, List.any_cons, decides]; rfl
  case comparisons => rw [List.flatMap_singleton, Gate.questions, decidingPrefix, decides]; rfl
  case made => exact List.forall_mem_nil _
  case satisfied => rw [List.all_cons, missing]; rfl

/-- A gate whose category is there refuses if one of its clauses is false. -/
lemma asked {g : Gate} {object : Value} {failed : Bool}
    (h : Eval.holder (Eval.contextOf context) g.category = .ok (some object))
    (hc : Eval.checkUntil false (.gate g.category)
      (Access.context object) g.clauses = .ok (failed, steps)) :
    r.GateSteps entity context [g] (!failed) steps := by
  rw [← gateAccess_eq h] at hc
  obtain ⟨hfailed, shown⟩ := Eval.checkUntil_shows hc
  have there : Eval.hasCategory (Eval.contextOf context) g.category = true := by
    rw [Eval.hasCategory, h]
  have undecided : r.decides entity context (.category g.category) = false := by
    rw [BoundRule.decides, there, Bool.not_true]
  constructor
  case undecided =>
    rw [List.flatMap_singleton, Gate.questions, List.any_cons, undecided, Bool.false_or,
      List.any_map, decides_gate, hfailed]
  case comparisons =>
    rw [List.flatMap_singleton, Gate.questions, decidingPrefix, undecided,
      decidingPrefix_map, decides_gate, if_neg Bool.false_ne_true, List.filterMap_cons,
      Question.comparison?, comparison?_map, shown.comparisons]
  case made =>
    intro s hs
    obtain ⟨phase, made⟩ := shown.made s hs
    rw [phase]
    exact ⟨nofun, made⟩
  case satisfied =>
    rw [List.all_cons, there, List.all_nil, Bool.and_true, Bool.true_and, hfailed, ← shown.results,
      List.not_any_eq_all_not]
    simp

end GateSteps

/-- A run over gates stops where a category is missing or a clause is false. -/
lemma gates_show {gs : List Gate} :
    ∀ {passed steps}, Eval.gates (Eval.contextOf context) gs = .ok (passed, steps) →
      r.GateSteps entity context gs passed steps := by
  -- Each gate adds its steps to those before it; the first one that refuses ends the run.
  induction gs with
  | nil =>
    intro passed steps h
    cases h
    exact ⟨rfl, rfl, List.forall_mem_nil _, rfl⟩
  | cons g gs ih =>
    intro passed steps h
    obtain ⟨found, hf, h⟩ := Outcome.bind_ok.1 h
    cases found with
    | none =>
      cases h
      exact (GateSteps.missing hf).refused gs
    | some object =>
      obtain ⟨⟨failed, steps⟩, hc, h⟩ := Outcome.bind_ok.1 h
      have here : r.GateSteps entity context [g] (!failed) steps := .asked hf hc
      cases failed with
      | true =>
        cases h
        exact here.refused gs
      | false =>
        obtain ⟨⟨passed', more⟩, hm, h⟩ := Outcome.bind_ok.1 h
        cases h
        exact here.append (ih hm)

/-- What the steps of a decision show. -/
structure DecisionSteps (r : BoundRule) (entity context : Value) (satisfied : Bool)
    (steps : List Step) : Prop where
  comparisons : steps.map (·.comparison) =
    (decidingPrefix (r.decides entity context)
      (r.decision.clauses.map (.comparison .decision))).filterMap (·.comparison?)
  made : ∀ s ∈ steps, s.phase = .decision ∧ s.Made (r.access entity)
  satisfied : satisfied =
    match r.decision with
    | .single _ | .compound .all _ => steps.all (·.result)
    | .compound .any _ => steps.any (·.result)

/-- The clauses of a decision are asked up to the first one that settles it. -/
lemma asked_decision {p : Clause → Bool}
    (hp : r.decides entity context ∘ .comparison .decision = p) :
    (decidingPrefix (r.decides entity context)
      (r.decision.clauses.map (.comparison .decision))).filterMap (·.comparison?) =
    (decidingPrefix p r.decision.clauses).map (Prod.mk .decision) := by
  rw [decidingPrefix_map, hp, comparison?_map]

/-- A decision stops after the clause that settles it; a single clause has nothing after it. -/
lemma decide_shows {satisfied : Bool} {steps : List Step}
    (h : Eval.decide (r.access entity) r.decision = .ok (satisfied, steps)) :
    r.DecisionSteps entity context satisfied steps := by
  cases hd : r.decision with
  | single c =>
    rw [hd] at h
    obtain ⟨actual, found, h⟩ := Outcome.bind_ok.1 h
    obtain ⟨step, hs, h⟩ := Outcome.bind_ok.1 h
    cases h
    obtain ⟨key, made, -⟩ := Eval.made_of_check found hs
    have never : r.decides entity context ∘ .comparison .decision = fun _ => false := by
      funext c
      simp [BoundRule.decides, hd]
    constructor
    case comparisons =>
      rw [asked_decision never, hd, List.map_singleton, key]
      rfl
    case made => exact List.forall_mem_singleton.2 ⟨congrArg Prod.fst key, made⟩
    case satisfied => simp [hd]
  | compound logic cs =>
    cases logic with
    | all =>
      rw [hd] at h
      obtain ⟨⟨failed, steps'⟩, hc, h⟩ := Outcome.bind_ok.1 h
      cases h
      obtain ⟨rfl, shown⟩ := Eval.checkUntil_shows hc
      have false_decides : r.decides entity context ∘ .comparison .decision =
          Eval.answers (r.access entity) false := by
        funext c
        simp [BoundRule.decides, hd, lookup]
      constructor
      case comparisons =>
        rw [asked_decision false_decides, hd]
        exact shown.comparisons
      case made => exact shown.made
      case satisfied =>
        rw [← shown.results, hd, List.not_any_eq_all_not]
        simp
    | any =>
      rw [hd] at h
      obtain ⟨rfl, shown⟩ := Eval.checkUntil_shows h
      have true_decides : r.decides entity context ∘ .comparison .decision =
          Eval.answers (r.access entity) true := by
        funext c
        simp [BoundRule.decides, hd, lookup]
      constructor
      case comparisons =>
        rw [asked_decision true_decides, hd]
        exact shown.comparisons
      case made => exact shown.made
      case satisfied =>
        rw [← shown.results, hd]
        simp

/-- A rule is not satisfied if a gate refuses: its category is missing, or one of its
comparisons is false. -/
lemma satisfiedBy_refused {steps : List Step}
    (gates : r.GateSteps entity context r.gates false steps) :
    r.satisfiedBy (Eval.hasCategory (Eval.contextOf context)) steps = false := by
  have refused : (r.gates.all (fun g => Eval.hasCategory (Eval.contextOf context) g.category) &&
      steps.all fun s => s.phase == .decision || s.result) = false := by
    rw [gates.satisfied]
    congr 1
    rw [Bool.eq_iff_iff, List.all_eq_true, List.all_eq_true]
    exact forall₂_congr fun s hs => by simp [(gates.made s hs).1]
  rw [satisfiedBy, refused, Bool.false_and]

/-- Behind gates that let pass, a rule is satisfied if its decision is. -/
lemma satisfiedBy_passed {satisfied : Bool} {steps more : List Step}
    (gates : r.GateSteps entity context r.gates true steps)
    (decision : r.DecisionSteps entity context satisfied more) :
    r.satisfiedBy (Eval.hasCategory (Eval.contextOf context)) (steps ++ more) = satisfied := by
  have passed := Bool.and_eq_true_iff.1 gates.satisfied.symm
  have gate_steps : steps.all (fun s => s.phase == .decision || s.result) = true :=
    List.all_eq_true.2 fun s hs => by simp [List.all_eq_true.1 passed.2 s hs]
  have decision_steps : more.all (fun s => s.phase == .decision || s.result) = true :=
    List.all_eq_true.2 fun s hs => by simp [(decision.made s hs).1]
  have no_decision : steps.any (fun s => s.phase == .decision && s.result) = false :=
    List.any_eq_false.2 fun s hs => by simp [(gates.made s hs).1]
  have counted : more.any (fun s => s.phase == .decision && s.result) = more.any (·.result) := by
    rw [Bool.eq_iff_iff, List.any_eq_true, List.any_eq_true]
    exact exists_congr fun s => and_congr_right fun hs => by simp [(decision.made s hs).1]
  rw [satisfiedBy, passed.1, List.all_append, gate_steps, decision_steps, List.all_append,
    List.any_append, passed.2, no_decision, counted]
  simpa using decision.satisfied.symm

/-- The trace of a verdict shows how it came about. -/
lemma evaluate_shows {v : Verdict} (h : r.evaluate entity context = .ok v) (kept : Bool) :
    (v.recorded kept).Shows v.trace r entity context := by
  obtain ⟨⟨passed, steps⟩, hg, h⟩ := Outcome.bind_ok.1 h
  have gates : r.GateSteps entity context r.gates passed steps := gates_show hg
  cases passed with
  | false =>
    cases h
    have decided : (r.gates.flatMap Gate.questions).any (r.decides entity context) = true := by
      simpa using gates.undecided
    constructor
    case comparisons =>
      rw [questions, decidingPrefix_append, if_pos decided]
      exact gates.comparisons
    case made => exact fun s hs => (gates.made s hs).2
    case gated => exact fun _ s hs => (gates.made s hs).1
    case satisfied => exact (satisfiedBy_refused gates).symm
  | true =>
    obtain ⟨⟨satisfied, more⟩, hd, h⟩ := Outcome.bind_ok.1 h
    cases h
    have decision : r.DecisionSteps entity context satisfied more := decide_shows hd
    have undecided : (r.gates.flatMap Gate.questions).any (r.decides entity context) = false := by
      simpa using gates.undecided
    constructor
    case comparisons =>
      show (steps ++ more).map (·.comparison) = _
      rw [questions, decidingPrefix_append, undecided, if_neg Bool.false_ne_true,
        List.filterMap_append, List.map_append, gates.comparisons, decision.comparisons,
        decidingPrefix_eq_self undecided]
    case made =>
      refine List.forall_mem_append.2 ⟨fun s hs => (gates.made s hs).2, fun s hs => ?_⟩
      rw [(decision.made s hs).1]
      exact (decision.made s hs).2
    case gated => nofun
    case satisfied => exact (satisfiedBy_passed gates decision).symm

end BoundRule

/-- A record shows exactly the comparisons up to the one that decides: those of the gates in their
order, up to a false one or to a category that is missing, and if all gates are passed those of the
decision, up to the one that settles it. Each step holds what was found under the field of its
clause and how it compared; whether the rule is satisfied can be told from the steps and the
categories of the context. Without a record the verdict is the same. -/
theorem BoundRule.evaluateRecorded_shows {r : BoundRule} {kept : Bool} {entity context : Value}
    {v : RecordedVerdict} (h : r.evaluateRecorded kept entity context = .ok v) :
    ∃ steps, v.Shows steps r entity context ∧
      ∀ kept', r.evaluateRecorded kept' entity context =
        .ok { v with trace := if kept' then some steps else none } := by
  rw [evaluateRecorded_eq] at h
  obtain ⟨w, hw, rfl⟩ := Outcome.map_ok.1 h
  refine ⟨w.trace, BoundRule.evaluate_shows hw kept, fun kept' => ?_⟩
  rw [evaluateRecorded_eq, hw]
  rfl

/-- For a clerk, seven items are stocked: the role and the quantity settle it, and the
price is not looked at. -/
theorem Stock.seven_shown :
    ∃ set r v, book.bind catalog = .ok set ∧ set.rule? "Stocked" = some r ∧
      r.evaluateRecorded true (.mapping [(.text "qty", .int 7), (.text "price", .int 1)])
        (.mapping [(.text "user", .mapping [(.text "role", .text "clerk")])]) = .ok v ∧
      v.trace.map (·.map fun s => (s.phase.name, s.clause.field, s.result)) =
        some [("metadata", "role", true), ("condition", "qty", true)] ∧
      ∃ steps, v.Shows steps r (.mapping [(.text "qty", .int 7), (.text "price", .int 1)])
          (.mapping [(.text "user", .mapping [(.text "role", .text "clerk")])]) ∧
        ∀ kept', r.evaluateRecorded kept'
          (.mapping [(.text "qty", .int 7), (.text "price", .int 1)])
          (.mapping [(.text "user", .mapping [(.text "role", .text "clerk")])]) =
          .ok { v with trace := if kept' then some steps else none } :=
  ⟨_, _, _, rfl, rfl, rfl, rfl,
    BoundRule.evaluateRecorded_shows (show BoundRule.evaluateRecorded _ true _ _ = .ok _ from rfl)⟩

end Rulebook
