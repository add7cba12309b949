import Rulebook.Build.Holder
import Rulebook.Eval.Verdict
import Rulebook.Service.Header
import Rulebook.Service.Request

/-!
# The server

Rules can be listed, shown and evaluated by requests. The rule set in force answers them; if there
is none, it is first built from the project, with the settings that were loaded first. Whatever
fails beyond that is an internal error that says nothing more.
-/

namespace Rulebook

open Number

/-- What a request is answered with. -/
inductive Response where
  | data (status : Nat) (body : Value)
  /-- The body of the request was refused, with the places at fault. -/
  | invalid (places : List (List String))
  | text (status : Nat) (text : String)
  /-- The request is to be sent again to another address, given without scheme and host. -/
  | redirect (address : String)

/-- The state of a server. -/
structure Server where
  files : Files
  holder : Holder := {}
  /-- The settings of the project, once they were loaded; later changes of the file do not count. -/
  settings : Option Settings := none
  /-- The server is a whole application and not only the rules' part of one. -/
  whole : Bool := false
  /-- A body without a type is read as JSON, and not refused. -/
  untyped : Bool := true

namespace Response

open Value

/-- A refusal with its reason. -/
def refusal (status : Nat) (detail : Value) : Response := .data status (record [("detail", detail)])

/-- The answer to a request that fails inside. -/
def internalError : Response := .text 500 "Internal Server Error"

/-- A number or nothing. -/
def optionalNat : Option Nat → Value
  | some n => .int n
  | none => .null

/-- A text or nothing. -/
def optionalText : Option String → Value
  | some s => .text s
  | none => .null

/-- A diagnostic as data. -/
def diagnostic (d : Diagnostic) : Value :=
  record [("kind", .text d.cause.kind.label), ("message", .text d.cause.message),
    ("source", optionalText d.place.source), ("line", optionalNat d.place.line),
    ("column", optionalNat d.place.column), ("rule", optionalText d.rule)]

/-- A comparison of a trace as data. -/
def step (s : Step) : Value :=
  record [("phase", .text s.phase.name), ("description", .text s.clause.text),
    ("category", optionalText s.phase.category?), ("field", .text s.clause.field),
    ("found", .bool s.actual.isSome), ("result", .bool s.result)]

/-- A verdict as data, with its trace if it was asked for. -/
def verdict (v : Verdict) (includeTrace : Bool) : Value :=
  record [("rule_name", .text v.rule), ("status", .text v.status), ("blocking", .bool v.blocking),
    ("satisfied", .bool v.satisfied), ("gate_passed", .bool v.gatePassed),
    ("trace", if includeTrace then .list (v.trace.map step) else .null)]

/-- A rule as the list of rules shows it. -/
def ruleInfo (r : BoundRule) : Value :=
  record [("name", .text r.name), ("domain", .text r.binding.domain),
    ("target", .text r.definition.target.name),
    ("kind", .text r.binding.kind.name), ("blocking", .bool r.blocking),
    ("description", optionalText r.definition.description)]

/-- A rule in full. -/
def ruleDetail (r : BoundRule) : Value :=
  record [("name", .text r.name), ("definition", r.definition.toData),
    ("field_types", record (r.binding.fieldTypes.map fun (f, t) => (f, .text t.name)))]

/-- A literal that can be sent: a double must be finite. -/
def canSend (r : BoundRule) : Bool :=
  (r.definition.condition.conditions ++
    r.definition.requirements.flatMap (·.conditions)).all fun c =>
    match c.literal with
    | .float x => x.isFinite
    | _ => true

/-- The answer to a failure. -/
def ofFailure : Failure → Response
  | .refused status message => refusal status (.text message)
  | .diagnostic d => refusal 503 (diagnostic d)
  | _ => internalError

end Response

namespace Server

open Response

/-- The rule set in force, which is built from the project if there was none. The settings stay
loaded even if the build fails. -/
def withRules (s : Server) : Server × Outcome RuleSet :=
  match s.holder.current with
  | some rules => (s, .ok rules)
  | none =>
    match s.files.knownSettings s.settings with
    | .error e => (s, .error e)
    | .ok settings =>
      let s := { s with settings := some settings }
      match s.files.buildConfigured settings "." with
      | .error e => (s, .error e)
      | .ok build => ({ s with holder := s.holder.publish build.ruleSet }, .ok build.ruleSet)

/-- The context of an evaluation: that of the headers with that of the body merged in. -/
def contextOf (rules : RuleSet) (request : Request) (body : EvaluationBody) : Outcome Value := do
  let headers ← Header.context rules.book.registry request.headers
  .ok (Header.merge headers body.context)

/-- Refuses a rule that does not exist. -/
def noRule (name : String) : Response := refusal 404 (.text s!"Rule not found: {name}")

/-- The list of rules. -/
def listRules (s : Server) (rules : RuleSet) : Response :=
  .data 200 (Value.record [("rules", .list (rules.rules.map ruleInfo)),
    ("total", .int rules.rules.length), ("generation", .int s.holder.generation)])

/-- A single rule. -/
def showRule (rules : RuleSet) (name : String) : Response :=
  match rules.rule? name with
  | none => noRule name
  | some r => if canSend r then .data 200 (ruleDetail r) else internalError

/-- Evaluates a rule. -/
def evaluateRule (rules : RuleSet) (name : String) (request : Request) (body : EvaluationBody) :
    Outcome Response :=
  match rules.rule? name with
  | none => .ok (noRule name)
  | some r => do
    let context ← contextOf rules request body
    let v ← r.evaluate body.entity context
    .ok (.data 200 (verdict v body.includeTrace))

/-- Evaluates the rules about a target; a blocking rule that is not satisfied is
a reason to refuse. -/
def evaluateTarget (rules : RuleSet) (domain : String) (kind : TargetKind) (name : String)
    (request : Request) (body : EvaluationBody) : Outcome Response :=
  match rules.targets.resolve? domain name kind with
  | none => .ok (refusal 404 (.text s!"No rules for {kind.name} {domain}/{name}"))
  | some _ => do
    let context ← contextOf rules request body
    let vs ← rules.evaluateTarget domain name kind body.entity context
    let rejected := vs.any Verdict.rejected
    let payload := Value.record [("domain", .text domain), ("kind", .text kind.name),
      ("target", .text name), ("outcomes", .list (vs.map (verdict · body.includeTrace))),
      ("has_blocking_failures", .bool rejected)]
    .ok (if rejected then refusal 422 payload else .data 200 payload)

/-- Answers with the rule set in force. -/
def withRulesDo (s : Server) (answer : Server → RuleSet → Outcome Response) : Server × Response :=
  match s.withRules with
  | (s, .error e) => (s, ofFailure e)
  | (s, .ok rules) =>
    match answer s rules with
    | .ok r => (s, r)
    | .error (.diagnostic _) => (s, internalError)
    | .error e => (s, ofFailure e)

/-- Answers with the body of the request. -/
def withBodyDo (s : Server) (request : Request) (answer : EvaluationBody → Server × Response) :
    Server × Response :=
  match request.evaluationBody s.untyped with
  | .ok body => answer body
  | .error (.invalid places) => (s, .invalid places)
  | .error .unsendable => (s, internalError)
  | .error .unreadable => (s, refusal 400 (.text "There was an error parsing the body"))

/-- Answers a request on a route. -/
def answerRoute (s : Server) (request : Request) : Route → Server × Response
  | .health => (s, .data 200 (Value.record [("status", .text "ok")]))
  | .rules => s.withRulesDo fun s rules => .ok (s.listRules rules)
  | .rule name => s.withRulesDo fun _ rules => .ok (showRule rules name)
  | .evaluateRule name =>
    s.withBodyDo request fun body => s.withRulesDo fun _ rules =>
    evaluateRule rules name request body
  | .evaluateTarget domain kind name =>
    s.withBodyDo request fun body =>
      match TargetKind.ofName? kind with
      | none => (s, refusal 404 (.text s!"Unknown target kind: {kind}"))
      | some k => s.withRulesDo fun _ rules => evaluateTarget rules domain k name request body

/-- Answers a request. -/
def answer (s : Server) (request : Request) : Server × Response :=
  match Route.ofPath? s.whole request.path with
  | none =>
    match Route.redirect? s.whole request.path with
    | some address => (s, .redirect address)
    | none => (s, refusal 404 (.text "Not Found"))
  | some route =>
    if request.method == route.method then s.answerRoute request route
    else (s, refusal 405 (.text "Method Not Allowed"))

/-- The server of a whole application, with the rule set of the project at a path if it can be
built. A project that is wrong leaves the server without one. -/
def start (files : Files) (base : String) : Outcome Server := do
  let settings ← Settings.load files
  let server : Server := { files, settings := some settings, whole := true }
  match files.buildConfigured settings base with
  | .ok b => .ok { server with holder := server.holder.publish b.ruleSet }
  | .error (.diagnostic _) => .ok server
  | .error e => .error e

end Server
end Rulebook
