import Mathlib
import Rulebook.Proofs.Bound.Partition
import Rulebook.Proofs.Service.Context
import Rulebook.Proofs.Service.Path
import Rulebook.Proofs.Service.Told

/-!
# What is answered about a target

An evaluation of a target goes through the names that its rules are bound under, the rules
themselves and their verdicts. `Server.answer_target` says what comes of it: nothing is found
exactly if no rule is bound to the name, the entity is refused exactly if a blocking rule is not
satisfied, and the answer tells of each rule of the target, in their order, what comes of the rule
on its own. What an answer tells is what a client reads in its data (`Told`, `TargetTold`).
-/

namespace Rulebook

open Text

/-- An evaluation comes to a comparison that has no answer for the value of its field. -/
inductive BoundRule.Raises (r : BoundRule) (entity context : Value) : Prop where
  | gate {g object c v e} :
    Gate.Reached (Eval.contextOf context) r.gates g →
    Eval.holder (Eval.contextOf context) g.category = .ok (some object) →
    Eval.Reaches false (Access.context object) g.clauses c →
    Access.context object c.field = .ok v →
    Compare.field v c.operator c.literal.toValue c.type = .error e →
    Raises r entity context
  | decision {c e} :
    r.Permits context →
    r.decision.Reaches (r.access entity) c →
    Compare.field (Access.declared r.binding.fieldNames entity c.field) c.operator
      c.literal.toValue c.type = .error e →
    Raises r entity context

/-- A rule is satisfied: its gates let the context pass, and its decision is positive. -/
def BoundRule.Satisfied (r : BoundRule) (entity context : Value) : Prop :=
  r.Permits context ∧ r.decision.Holds (r.access entity)

/-- What is told about a rule is what comes of the rule on its own, for an entity in a context. -/
structure Told.Fits (t : Told) (r : BoundRule) (entity context : Value) : Prop where
  rule : t.rule = r.name
  blocking : t.blocking = r.blocking
  gatePassed : t.gatePassed = true ↔ r.Permits context
  satisfied : t.satisfied = true ↔ r.Satisfied entity context
  status : t.status = if t.satisfied then r.positive else r.negative
  alone : ∃ v, r.evaluate entity context = .ok v ∧ v.rule = t.rule ∧ v.status = t.status ∧
    v.blocking = t.blocking ∧ v.satisfied = t.satisfied ∧ v.gatePassed = t.gatePassed

/-- A server with a rule set in force is asked about a target, with a body that can be read
and headers that fit. -/
structure Server.Asked (s : Server) (request : Request) (set : RuleSet) (domain kind name : String)
    (body : EvaluationBody) (context : Value) : Prop where
  current : s.holder.current = some set
  method : request.method = "POST"
  route : Route.ofPath? s.whole request.path = some (.evaluateTarget domain kind name)
  sent : request.evaluationBody s.untyped = .ok body
  merged : Server.contextOf set request body = .ok context

/-- A request about a target is answered by its rules: it is refused exactly if one of them
is blocking and not satisfied. The answer tells about each rule of the target once, in
their order, what comes of the rule on its own, and this is what the same request about the
rule alone is told. -/
structure Server.Judged (s : Server) (request : Request) (set : RuleSet) (domain : String)
    (kind : TargetKind) (name : String) (b : Binding) (body : EvaluationBody) (context : Value) :
    Prop where
  refused : (s.answer request).2.status = 422 ↔
    ∃ r ∈ set.rules, r.binding = b ∧ r.blocking = true ∧ ¬ r.Satisfied body.entity context
  otherwise : (s.answer request).2.status ≠ 422 → (s.answer request).2.status = 200
  told : ∃ told, (s.answer request).2.targetTold? = some told ∧
    told.domain = domain ∧ told.kind = kind.name ∧ told.target = name ∧
    (told.refused = true ↔ (s.answer request).2.status = 422) ∧
    List.Forall₂ (fun r t => t.Fits r body.entity context ∧
      ∀ path, Route.ofPath? s.whole path = some (.evaluateRule r.name) →
        (s.answer { request with path }).2.told? = some t)
      (set.rules.filter (·.binding = b)) told.outcomes

/-! ## Targets -/

namespace Targets

variable {ts : Targets} {domain name : String} {kind : TargetKind} {b : Binding}

/-- A name is resolved to nothing if no target goes by it. -/
lemma resolve?_none : ts.resolve? domain name kind = none ↔
    ∀ b ∈ ts, ¬ b.GoesBy domain kind name := by
  constructor
  · intro h b hb goes
    obtain ⟨h, h'⟩ := Option.or_eq_none_iff.1 h
    have hn := List.find?_eq_none.1 h b hb
    have hs := List.find?_eq_none.1 h' b hb
    simp only [Bool.and_eq_true, beq_iff_eq] at hn hs
    obtain ⟨hd, hk, e | e⟩ := goes
    · exact hn ⟨⟨hd, hk⟩, e⟩
    · exact hs ⟨⟨hd, hk⟩, e⟩
  · intro h
    cases hr : ts.resolve? domain name kind with
    | none => rfl
    | some b => exact absurd (resolve?_some hr).2 (h b (resolve?_some hr).1)

end Targets

namespace RuleSet

variable {set : RuleSet} {domain name : String} {kind : TargetKind} {b : Binding}

/-- A name is resolved to nothing if no rule is bound to what goes by it. -/
lemma resolve?_none (h : set.targets.Serve [] set.rules) :
    set.targets.resolve? domain name kind = none ↔
    ∀ r ∈ set.rules, ¬ r.binding.GoesBy domain kind name := by
  rw [Targets.resolve?_none]
  constructor
  · intro none r hr
    exact none _ (h.bound r hr)
  · intro none b hb
    obtain hb | ⟨r, hr, rfl⟩ := h.used b hb
    · cases hb
    · exact none r hr

end RuleSet

/-! ## Evaluations -/

namespace BoundRule

variable {r : BoundRule} {entity context : Value}

/-- In a mapping of mappings nothing but a comparison can fail. -/
lemma evaluate_error_iff (hc : context.Nested) :
    (∃ e, r.evaluate entity context = .error e) ↔ r.Raises entity context := by
  rw [evaluate_error]
  obtain ⟨inner⟩ := id hc
  constructor
  · rintro (⟨g, hg, ⟨e, hh⟩ | ⟨object, ho, c, hcl, e, ha⟩⟩ | ⟨hp, c, hcl, e, ha⟩)
    · rw [Eval.contextOf_mapping] at hh
      cases hh
    · obtain ⟨fs, rfl⟩ : ∃ fs, object = .mapping fs := by
        rw [Eval.contextOf_mapping] at ho
        exact hc.of_lookup? (Except.ok.inj ho)
      unfold Eval.answer at ha
      rw [Access.context_mapping, Outcome.ok_bind] at ha
      exact .gate hg ho hcl (Access.context_mapping fs c.field) ha
    · exact .decision hp hcl ha
  · intro h
    cases h with
    | gate hg ho hcl hv ha =>
      exact .inl ⟨_, hg, .inr ⟨_, ho, _, hcl, _, Outcome.bind_error.2 (.inr ⟨_, hv, ha⟩)⟩⟩
    | decision hp hcl ha => exact .inr ⟨hp, _, hcl, _, ha⟩

/-- A rule that has a verdict comes to no comparison without an answer. -/
lemma not_raises {v : Verdict} (hc : context.Nested) (h : r.evaluate entity context = .ok v) :
    ¬ r.Raises entity context := by
  intro raises
  obtain ⟨e, he⟩ := (evaluate_error_iff hc).2 raises
  cases h.symm.trans he

/-- A verdict is a rejection if the rule is blocking and not satisfied. -/
lemma rejected_iff {v : Verdict} (h : r.evaluate entity context = .ok v) :
    v.rejected = true ↔ r.blocking = true ∧ ¬ r.Satisfied entity context := by
  obtain ⟨_, blocking, _, satisfied, _⟩ := evaluate_ok h
  unfold Verdict.rejected Satisfied
  rw [Bool.and_eq_true, blocking, Bool.not_eq_true', ← satisfied, Bool.not_eq_true]

/-- Among the verdicts of rules is a rejection if one of the rules is blocking and not satisfied. -/
lemma any_rejected {rs : List BoundRule} {vs : List Verdict}
    (h : List.Forall₂ (fun r v => r.evaluate entity context = .ok v) rs vs) :
    vs.any Verdict.rejected = true ↔ ∃ r ∈ rs, r.blocking = true ∧
    ¬ r.Satisfied entity context := by
  induction h with
  | nil => simp
  | cons h _ ih => rw [List.any_cons, Bool.or_eq_true, List.exists_mem_cons_iff, rejected_iff h, ih]

end BoundRule

namespace Told

variable {r : BoundRule} {entity context : Value} {v : Verdict}

/-- The verdict of a rule tells what comes of the rule. -/
lemma fits_ofVerdict (h : r.evaluate entity context = .ok v) :
    (ofVerdict v).Fits r entity context := by
  obtain ⟨rule, blocking, gatePassed, satisfied, status⟩ := BoundRule.evaluate_ok h
  exact ⟨rule, blocking, gatePassed, satisfied, status, v, h, rfl, rfl, rfl, rfl, rfl⟩

/-- Only one thing fits a rule that has a verdict. -/
lemma Fits.eq_ofVerdict {t : Told} (fits : t.Fits r entity context)
    (h : r.evaluate entity context = .ok v) :
    t = ofVerdict v := by
  obtain ⟨v', hv', rule, status, blocking, satisfied, gatePassed⟩ := fits.alone
  cases h.symm.trans hv'
  exact Told.ext rule.symm status.symm blocking.symm satisfied.symm gatePassed.symm

end Told

/-- If no evaluation comes to a comparison without an answer, all rules about a
target have verdicts. -/
lemma RuleSet.evaluateTarget_ok {set : RuleSet} {domain name : String} {kind : TargetKind}
    {entity context : Value} (hc : context.Nested)
    (h : ∀ r ∈ set.forTarget domain name kind, ¬ r.Raises entity context) :
    ∃ vs, set.evaluateTarget domain name kind entity context = .ok vs := by
  refine Outcome.exists_ok fun e he => ?_
  obtain ⟨r, hr, he⟩ := Outcome.mapM_error he
  exact h r hr ((BoundRule.evaluate_error_iff hc).1 ⟨e, he⟩)

/-- The rules about a target come to no comparison without an answer if all of
them have verdicts. -/
lemma RuleSet.not_raises {set : RuleSet} {domain name : String} {kind : TargetKind} {b : Binding}
    {entity context : Value} {vs : List Verdict} (serve : set.targets.Serve [] set.rules)
    (hb : set.targets.resolve? domain name kind = some b) (hc : context.Nested)
    (verdicts : List.Forall₂ (fun r v => r.evaluate entity context = .ok v)
      (set.rules.filter (·.binding = b)) vs) :
    ∀ r ∈ set.forTarget domain name kind, ¬ r.Raises entity context := by
  rw [RuleSet.forTarget_eq serve hb]
  intro r hr
  obtain ⟨v, _, hv⟩ := exists_of_forall₂ verdicts.flip hr
  exact BoundRule.not_raises hc hv

/-! ## Answers -/

namespace Server

variable {s : Server} {request : Request} {set : RuleSet} {domain kind name : String}
  {body : EvaluationBody} {context : Value}

/-- The context of a request is a mapping of mappings. -/
lemma contextOf_nested (h : contextOf set request body = .ok context) : context.Nested := by
  obtain ⟨headed, hh, h⟩ := Outcome.bind_ok.1 h
  cases h
  exact Header.merge_nested (Header.context_nested hh) _

/-- A request with the method of its route is answered on this route. -/
lemma answer_of_route (s : Server) (request : Request) {route : Route}
    (hr : Route.ofPath? s.whole request.path = some route)
    (hm : request.method = route.method) : s.answer request = s.answerRoute request route := by
  unfold answer
  rw [hr]
  dsimp only
  rw [hm, if_pos (beq_self_eq_true _)]

/-- A body that can be read is answered. -/
lemma withBodyDo_eq (s : Server) (request : Request)
    (h : request.evaluationBody s.untyped = .ok body)
    (answer : EvaluationBody → Server × Response) : s.withBodyDo request answer = answer body := by
  unfold withBodyDo
  rw [h]

/-- A rule set in force is asked. -/
lemma withRulesDo_eq (h : s.holder.current = some set)
    {answer : Server → RuleSet → Outcome Response} {response : Response}
    (ok : answer s set = .ok response) : s.withRulesDo answer = (s, response) := by
  unfold withRulesDo withRules
  rw [h]
  dsimp only
  rw [ok]

namespace Asked

variable (h : s.Asked request set domain kind name body context)
include h

/-- A request about a target is answered by the kind that it names. -/
lemma answer_eq :
    s.answer request =
      match TargetKind.ofName? kind with
      | none => (s, Response.refusal 404 (.text s!"Unknown target kind: {kind}"))
      | some k => s.withRulesDo fun _ rules => evaluateTarget rules domain k name request body := by
  rw [answer_of_route s request h.route h.method]
  exact withBodyDo_eq s request h.sent _

/-- The same request about a single rule is answered with the verdict of the rule. -/
lemma answer_rule {path : String} {r : BoundRule} {v : Verdict} (hr : set.rule? r.name = some r)
    (hv : r.evaluate body.entity context = .ok v)
    (route : Route.ofPath? s.whole path = some (.evaluateRule r.name)) :
    (s.answer { request with path }).2 = .data 200 (Response.verdict v body.includeTrace) := by
  have ok : evaluateRule set r.name { request with path } body =
      .ok (.data 200 (Response.verdict v body.includeTrace)) := by
    unfold evaluateRule
    rw [hr]
    exact Outcome.bind_ok.2 ⟨context, h.merged, Outcome.bind_ok.2 ⟨v, hv, rfl⟩⟩
  rw [answer_of_route s { request with path } route h.method]
  dsimp only [answerRoute]
  rw [withBodyDo_eq s { request with path } h.sent, withRulesDo_eq h.current ok]

/-- Nothing is found if the kind is unknown or the name is resolved to nothing. -/
lemma answer_missing (none : ∀ k, TargetKind.ofName? kind = some k →
      set.targets.resolve? domain name k = none) :
    (s.answer request).2.status = 404 := by
  rw [h.answer_eq]
  cases hk : TargetKind.ofName? kind with
  | none => rfl
  | some k =>
    have ok : evaluateTarget set domain k name request body =
        .ok (Response.refusal 404 (.text s!"No rules for {k.name} {domain}/{name}")) := by
      unfold evaluateTarget
      rw [none k hk]
    dsimp only
    rw [withRulesDo_eq h.current ok]
    rfl

/-- The answer for a target whose rules have verdicts. -/
lemma answer_verdicts {k : TargetKind} {b : Binding} {vs : List Verdict}
    (hk : TargetKind.ofName? kind = some k) (hb : set.targets.resolve? domain name k = some b)
    (hv : set.evaluateTarget domain name k body.entity context = .ok vs) :
    (s.answer request).2.status = (if vs.any Verdict.rejected then 422 else 200) ∧
      (s.answer request).2.targetTold? =
        some ⟨domain, k.name, name, vs.map Told.ofVerdict, vs.any Verdict.rejected⟩ := by
  generalize hr : vs.any Verdict.rejected = rejected
  let payload := Value.record [("domain", .text domain), ("kind", .text k.name),
    ("target", .text name), ("outcomes", .list (vs.map (Response.verdict · body.includeTrace))),
    ("has_blocking_failures", .bool rejected)]
  have ok : evaluateTarget set domain k name request body =
      .ok (if rejected then Response.refusal 422 payload else .data 200 payload) := by
    unfold evaluateTarget
    rw [hb]
    refine Outcome.bind_ok.2 ⟨context, h.merged, Outcome.bind_ok.2 ⟨vs, hv, ?_⟩⟩
    rw [hr]
  have told : TargetTold.read? payload =
      some ⟨domain, k.name, name, vs.map Told.ofVerdict, rejected⟩ :=
    TargetTold.read?_answer ..
  rw [h.answer_eq, hk]
  dsimp only
  rw [withRulesDo_eq h.current ok]
  cases rejected with
  | true => exact ⟨rfl, told⟩
  | false => exact ⟨rfl, told⟩

end Asked

/-- The rules of a resolved target judge a request about it. -/
lemma Asked.judged (asked : s.Asked request set domain kind name body context)
    (unique : set.names.Nodup) (serve : set.targets.Serve [] set.rules) {k : TargetKind}
    {b : Binding} (hk : TargetKind.ofName? kind = some k)
    (hb : set.targets.resolve? domain name k = some b)
    (quiet : ∀ r ∈ set.forTarget domain name k, ¬ r.Raises body.entity context) :
    s.Judged request set domain k name b body context := by
  obtain ⟨vs, hv⟩ := RuleSet.evaluateTarget_ok (contextOf_nested asked.merged) quiet
  obtain ⟨status, told⟩ := asked.answer_verdicts hk hb hv
  have verdicts := Outcome.mapM_ok.1 hv
  rw [RuleSet.forTarget_eq serve hb] at verdicts
  have rejected := BoundRule.any_rejected verdicts
  simp only [List.mem_filter, decide_eq_true_eq, and_assoc] at rejected
  have refused : vs.any Verdict.rejected = true ↔ (s.answer request).2.status = 422 := by
    rw [status]
    cases vs.any Verdict.rejected with
    | true => exact ⟨fun _ => rfl, fun _ => rfl⟩
    | false => exact ⟨fun h => absurd h (by decide), fun h => absurd h (by decide)⟩
  refine ⟨?refused, ?otherwise, _, told, rfl, rfl, rfl, refused, ?outcomes⟩
  case refused => rw [← rejected, refused]
  case otherwise =>
    rw [status]
    cases vs.any Verdict.rejected with
    | true => exact fun h => absurd rfl h
    | false => exact fun _ => rfl
  case outcomes =>
    rw [List.forall₂_map_right_iff]
    refine List.forall₂_iff_zip.2 ⟨verdicts.length_eq, fun {r v} hz => ?_⟩
    have hv := List.forall₂_zip verdicts hz
    have hr := (List.mem_filter.1 (List.of_mem_zip hz).1).1
    refine ⟨Told.fits_ofVerdict hv, fun path route => ?_⟩
    rw [asked.answer_rule (RuleSet.rule?_of_mem unique hr) hv route]
    exact Told.read?_verdict _

namespace Judged

variable {k : TargetKind} {b : Binding} {vs : List Verdict}
  (judged : s.Judged request set domain k name b body context)
  (verdicts : List.Forall₂ (fun r v => r.evaluate body.entity context = .ok v)
    (set.rules.filter (·.binding = b)) vs)
include judged verdicts

/-- The status of an answer is told by the verdicts of the rules. -/
lemma status_eq : (s.answer request).2.status = if vs.any Verdict.rejected then 422 else 200 := by
  have rejected := BoundRule.any_rejected verdicts
  simp only [List.mem_filter, decide_eq_true_eq, and_assoc] at rejected
  rw [← judged.refused] at rejected
  split
  · exact rejected.1 ‹_›
  · exact judged.otherwise (mt rejected.2 ‹_›)

/-- What an answer tells is told by the verdicts of the rules. -/
lemma outcomes_eq :
    (s.answer request).2.targetTold?.map (·.outcomes) = some (vs.map Told.ofVerdict) := by
  obtain ⟨told, read, -, -, -, -, outcomes⟩ := judged.told
  rw [read, Option.map_some, Option.some.injEq]
  generalize told.outcomes = ts at outcomes
  generalize set.rules.filter (·.binding = b) = rs at outcomes verdicts
  induction outcomes generalizing vs with
  | nil =>
    cases verdicts
    rfl
  | cons fits _ ih =>
    cases verdicts with
    | cons verdict verdicts => rw [List.map_cons, fits.1.eq_ofVerdict verdict, ih verdicts]

end Judged

end Server

namespace Shop

/-- Items have a price of at least two; those that have not are refused. -/
def priced : Rule where
  name := "Priced"
  target := { name := "items", domain := "default" }
  blocking := true
  condition := .single { field := "price", operator := .ge, literal := .int 2 }
  positive := "OK"
  negative := "FREE"

/-- Two rules about items. -/
def book : Book := { registry := Stock.registry, rules := [Stock.rule, priced] }

/-- A request about a target of the domain, with JSON text. -/
def request (target : String) (headers : List (String × String)) (body : String) : Request where
  method := "POST"
  path := Route.path ["targets", "default", "model", target, "evaluate"]
  headers := ("Content-Type", "application/json") :: headers
  body := body.toList

/-- Seven items without a price, as JSON text. -/
def unpricedText : String := "\x7b\"entity\": \x7b\"qty\": 7\x7d\x7d"

/-- Seven items with a price, as JSON text. -/
def pricedText : String := "\x7b\"entity\": \x7b\"qty\": 7, \"price\": 3\x7d\x7d"

/-- What is asked about seven items without a price. -/
def unpriced : EvaluationBody := ⟨.record [("qty", .int 7)], .record [], false⟩

/-- What is asked about seven items with a price. -/
def withPrice : EvaluationBody := ⟨.record [("qty", .int 7), ("price", .int 3)], .record [], false⟩

/-- A clerk asks about seven of something without a price. -/
def clerkRequest (target : String) : Request :=
  request target [("X-User-Role", "clerk")] unpricedText

/-- Someone asks about seven items with a price. -/
def guestRequest : Request := request "items" [] pricedText

/-- The context of someone without a role. -/
def guest : Value := .record []

/-- The context of a clerk. -/
def clerk : Value := .record [("user", .record [("role", .text "clerk")])]

/-- A server with a rule set in force. -/
def server (set : RuleSet) : Server :=
  { files := {}, holder := { current := some set, generation := 1 } }

/-- The server is asked about a target with a plain name. -/
lemma asked {set : RuleSet} {target text : String} {headers : List (String × String)}
    {body : EvaluationBody} {context : Value} (plain : Route.Plain target) (ne : target ≠ "")
    (sent : (request target headers text).evaluationBody true = .ok body)
    (merged : Server.contextOf set (request target headers text) body = .ok context) :
    (server set).Asked (request target headers text) set "default" "model" target body context where
  current := rfl
  method := rfl
  route := by
    have domain : Route.Plain "default" := by rfl
    have kind : Route.Plain "model" := by rfl
    exact Route.ofPath?_evaluateTarget domain kind plain (by decide) (by decide) ne
  sent := sent
  merged := merged

end Shop
end Rulebook
