import Rulebook.Eval.Verdict

/-!
# Recorded evaluations

An evaluation keeps a record of its comparisons only if it is asked to. The record is handed on from
one comparison to the next, and each is written at its end; where no record is kept, the comparisons
are made all the same.
-/

namespace Rulebook

/-- The comparisons made so far, if a record of them is kept. -/
abbrev Record := Option (List Step)

namespace Record

/-- The record with which an evaluation begins. -/
def begin (kept : Bool) : Record := if kept then some [] else none

/-- Writes comparisons at the end of a record. -/
def write (record : Record) (steps : List Step) : Record := record.map (· ++ steps)

end Record

/-- The outcome of one rule, with the record if one was kept. -/
structure RecordedVerdict where
  rule : String
  status : String
  blocking : Bool
  satisfied : Bool
  gatePassed : Bool
  trace : Record

namespace Eval

/-- Makes one comparison and writes it down. -/
def checkRecorded (phase : Phase) (actual : Option Value) (c : Clause) (record : Record) :
    Outcome (Bool × Record) := do
  let result ← Compare.field actual c.operator c.literal.toValue c.type
  .ok (result, record.write [⟨phase, c, actual, result⟩])

/-- Makes comparisons until one has a given result; tells whether one had it. -/
def checkUntilRecorded (stop : Bool) (phase : Phase) (access : String → Outcome (Option Value)) :
    List Clause → Record → Outcome (Bool × Record)
  | [], record => .ok (false, record)
  | c :: cs, record => do
    let (result, record) ← checkRecorded phase (← access c.field) c record
    if result = stop then .ok (true, record) else checkUntilRecorded stop phase access cs record

/-- Passes gates until one fails; tells whether all were passed. -/
def gatesRecorded (context : Value) : List Gate → Record → Outcome (Bool × Record)
  | [], record => .ok (true, record)
  | g :: gs, record => do
    match ← holder context g.category with
    | none => .ok (false, record)
    | some object => do
      let (failed, record) ←
        checkUntilRecorded false (.gate g.category) (Access.context object) g.clauses record
      if failed then .ok (false, record) else gatesRecorded context gs record

/-- Makes a decision about an entity. -/
def decideRecorded (access : String → Outcome (Option Value)) (record : Record) :
    Decision → Outcome (Bool × Record)
  | .single c => do checkRecorded .decision (← access c.field) c record
  | .compound .all cs => do
    let (failed, record) ← checkUntilRecorded false .decision access cs record
    .ok (!failed, record)
  | .compound .any cs => checkUntilRecorded true .decision access cs record

end Eval

/-- Evaluates a rule for an entity in a context, with or without a record of the comparisons. -/
def BoundRule.evaluateRecorded (r : BoundRule) (kept : Bool) (entity context : Value) :
    Outcome RecordedVerdict := do
  let (passed, record) ← Eval.gatesRecorded (Eval.contextOf context) r.gates (.begin kept)
  if passed then do
    let (satisfied, record) ←
      Eval.decideRecorded (fun name => .ok (Access.declared r.binding.fieldNames entity name))
        record r.decision
    .ok { rule := r.name, status := if satisfied then r.positive else r.negative
          blocking := r.blocking, satisfied, gatePassed := true, trace := record }
  else
    .ok { rule := r.name, status := r.negative, blocking := r.blocking, satisfied := false
          gatePassed := false, trace := record }

end Rulebook
