import Mathlib.Tactic.Ext
import Mathlib.Tactic.Lemma
import Rulebook.Service.Server

/-!
# What a client reads in an answer

An answer about a rule is data in which a client finds its name, its status and how the status came
about (`Told`); an answer about a target has a list of them (`TargetTold`), and a refusal has the
same data for its detail. What is read is told by the verdicts that the answer was made from
(`Told.read?_verdict`, `TargetTold.read?_answer`).
-/

namespace Rulebook

/-- The truth value that a value is. -/
def Value.bool? : Value → Option Bool
  | .bool b => some b
  | _ => none

/-- What a client is told about a rule. -/
@[ext] structure Told where
  rule : String
  status : String
  blocking : Bool
  satisfied : Bool
  gatePassed : Bool
  deriving DecidableEq

/-- Reads what is told about a rule. -/
def Told.read? : Value → Option Told
  | .mapping es => do
    let rule ← (Value.lookup? "rule_name" es).bind Value.text?
    let status ← (Value.lookup? "status" es).bind Value.text?
    let blocking ← (Value.lookup? "blocking" es).bind Value.bool?
    let satisfied ← (Value.lookup? "satisfied" es).bind Value.bool?
    let gatePassed ← (Value.lookup? "gate_passed" es).bind Value.bool?
    some { rule, status, blocking, satisfied, gatePassed }
  | _ => none

/-- What a client is told about a target. -/
structure TargetTold where
  domain : String
  kind : String
  target : String
  outcomes : List Told
  refused : Bool
  deriving DecidableEq

/-- Reads what is told about a target. -/
def TargetTold.read? : Value → Option TargetTold
  | .mapping es => do
    let domain ← (Value.lookup? "domain" es).bind Value.text?
    let kind ← (Value.lookup? "kind" es).bind Value.text?
    let target ← (Value.lookup? "target" es).bind Value.text?
    let outcomes ← match Value.lookup? "outcomes" es with
      | some (.list items) => items.mapM Told.read?
      | _ => none
    let refused ← (Value.lookup? "has_blocking_failures" es).bind Value.bool?
    some { domain, kind, target, outcomes, refused }
  | _ => none

namespace Response

/-- The status of an answer. -/
def status : Response → Nat
  | .data n _ => n
  | .invalid _ => 422
  | .text n _ => n
  | .redirect _ => 307

/-- What an answer tells about a rule. -/
def told? : Response → Option Told
  | .data 200 v => Told.read? v
  | _ => none

/-- What an answer tells about a target; a refusal has it for its detail. -/
def targetTold? : Response → Option TargetTold
  | .data 200 v => TargetTold.read? v
  | .data 422 (.mapping es) => (Value.lookup? "detail" es).bind TargetTold.read?
  | _ => none

end Response

/-! ## Verdicts -/

namespace Told

/-- What is told about the rule of a verdict. -/
def ofVerdict (v : Verdict) : Told := ⟨v.rule, v.status, v.blocking, v.satisfied, v.gatePassed⟩

/-- A client reads in the data of a verdict what is told about its rule. -/
lemma read?_verdict (includeTrace : Bool) :
    read? (Response.verdict v includeTrace) = some (ofVerdict v) := rfl

/-- A client reads in a list of verdicts what is told about each of their rules. -/
lemma mapM_read? (includeTrace : Bool) (vs : List Verdict) :
    (vs.map (Response.verdict · includeTrace)).mapM read? = some (vs.map ofVerdict) := by
  induction vs with
  | nil => rfl
  | cons v vs ih =>
    rw [List.map_cons, List.mapM_cons, ih, read?_verdict]
    rfl

end Told

/-- What a client is told about a target is what the verdicts of its rules say. -/
lemma TargetTold.read?_answer (domain kind target : String) (includeTrace refused : Bool)
    (vs : List Verdict) :
    read? (.record [("domain", .text domain), ("kind", .text kind), ("target", .text target),
      ("outcomes", .list (vs.map (Response.verdict · includeTrace))),
      ("has_blocking_failures", .bool refused)]) =
        some ⟨domain, kind, target, vs.map Told.ofVerdict, refused⟩ := by
  show (do
    let outcomes ← (vs.map (Response.verdict · includeTrace)).mapM Told.read?
    some (TargetTold.mk domain kind target outcomes refused) : Option TargetTold) = _
  rw [Told.mapM_read?]
  rfl

end Rulebook
