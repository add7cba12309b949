import Rulebook.Bound.RuleSet
import Rulebook.Eval.Access
import Rulebook.Eval.Compare

/-!
# Verdicts

Evaluating a rule of a rule set. The gates come first, in their order; a category that the context
lacks or a clause that fails ends the evaluation with the negative status. Then the decision is
made, looking at no more clauses than it takes. A trace records every comparison that was made.
-/

namespace Rulebook

/-- What a comparison was made for. -/
inductive Phase where
  | gate (category : String)
  | decision
  deriving DecidableEq

/-- The name of a phase. -/
def Phase.name : Phase → String
  | .gate _ => "metadata"
  | .decision => "condition"

/-- The category of a phase. -/
def Phase.category? : Phase → Option String
  | .gate c => some c
  | .decision => none

/-- A comparison that was made. -/
structure Step where
  phase : Phase
  clause : Clause
  /-- The value of the field, if it was found. -/
  actual : Option Value
  result : Bool

/-- The outcome of one rule. -/
structure Verdict where
  rule : String
  status : String
  blocking : Bool
  satisfied : Bool
  gatePassed : Bool
  trace : List Step

/-- A blocking rule that is not satisfied. -/
def Verdict.rejected (v : Verdict) : Bool := v.blocking && !v.satisfied

namespace Eval

/-- The context, in which whatever is vacant stands for none. -/
def contextOf (v : Value) : Value := if v.isVacant then .mapping [] else v

/-- A text occurs in another one, told by their code points. -/
def occurs (part : List Nat) : List Nat → Bool
  | [] => part.isEmpty
  | n :: rest => part.isPrefixOf (n :: rest) || occurs part rest

/-- The object of a category, if the context has it. -/
def holder (context : Value) (category : String) : Outcome (Option Value) :=
  match context with
  | .mapping es => .ok (Value.lookup? category es)
  | .list items =>
    if items.any fun v => v.text? == some category then .error .wrongType else .ok none
  | v =>
    match v.points? with
    | some ps => if occurs (category.toList.map Char.toNat) ps then .error .wrongType else .ok none
    | none => .error .wrongType

/-- Makes one comparison. -/
def check (phase : Phase) (actual : Option Value) (c : Clause) : Outcome Step := do
  let result ← Compare.field actual c.operator c.literal.toValue c.type
  .ok ⟨phase, c, actual, result⟩

/-- Makes comparisons until one has a given result; tells whether one had it. -/
def checkUntil (stop : Bool) (phase : Phase) (access : String → Outcome (Option Value)) :
    List Clause → Outcome (Bool × List Step)
  | [] => .ok (false, [])
  | c :: cs => do
    let step ← check phase (← access c.field) c
    if step.result = stop then .ok (true, [step])
    else do
      let (stopped, steps) ← checkUntil stop phase access cs
      .ok (stopped, step :: steps)

/-- Passes gates until one fails; tells whether all were passed. -/
def gates (context : Value) : List Gate → Outcome (Bool × List Step)
  | [] => .ok (true, [])
  | g :: gs => do
    match ← holder context g.category with
    | none => .ok (false, [])
    | some object => do
      let (failed, steps) ← checkUntil false (.gate g.category) (Access.context object) g.clauses
      if failed then .ok (false, steps)
      else do
        let (passed, more) ← gates context gs
        .ok (passed, steps ++ more)

/-- Makes a decision about an entity. -/
def decide (access : String → Outcome (Option Value)) : Decision → Outcome (Bool × List Step)
  | .single c => do
    let step ← check .decision (← access c.field) c
    .ok (step.result, [step])
  | .compound .all cs => do
    let (failed, steps) ← checkUntil false .decision access cs
    .ok (!failed, steps)
  | .compound .any cs => checkUntil true .decision access cs

end Eval

/-- Evaluates a rule for an entity in a context. -/
def BoundRule.evaluate (r : BoundRule) (entity context : Value) : Outcome Verdict := do
  let (passed, steps) ← Eval.gates (Eval.contextOf context) r.gates
  if passed then do
    let (satisfied, more) ←
      Eval.decide (fun name => .ok (Access.declared r.binding.fieldNames entity name)) r.decision
    .ok { rule := r.name, status := if satisfied then r.positive else r.negative
          blocking := r.blocking, satisfied, gatePassed := true, trace := steps ++ more }
  else
    .ok { rule := r.name, status := r.negative, blocking := r.blocking, satisfied := false
          gatePassed := false, trace := steps }

/-- Evaluates all rules about a target, in the order of the book. -/
def RuleSet.evaluateTarget (s : RuleSet) (domain name : String) (kind : TargetKind)
    (entity context : Value) :
    Outcome (List Verdict) :=
  (s.forTarget domain name kind).mapM fun r => r.evaluate entity context

/-- The status of each rule name, the last verdict of a name counting, in the order
of first occurrence. -/
def statuses (vs : List Verdict) : List (String × String) :=
  ((vs.map (·.rule)).eraseDups).filterMap fun n =>
    (vs.reverse.find? fun v => v.rule == n).map fun v => (n, v.status)

end Rulebook
