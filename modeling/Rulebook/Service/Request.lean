import Rulebook.Data
import Rulebook.Json
import Rulebook.Text.Utf8

/-!
# Requests

A request has a method, a path, headers and a body. The body of an evaluation is JSON text: it holds
an entity, a context and a flag for the trace, all of which may be left out.
-/

namespace Rulebook

open Text

/-- A request; its body is a text in UTF-8. -/
structure Request where
  method : String
  path : String
  headers : List (String × String) := []
  body : List Char := []

/-! ## The type of a body -/

/-- A type of content is JSON: a type of applications that is JSON itself or builds on it. What
follows a semicolon does not count. -/
def isJsonType (type : List Char) : Bool :=
  match splitOn (· == '/') (lower (trim (cutAt ';' type).1)) with
  | [main, sub] =>
    main == "application".toList && (sub == "json".toList || endsWith "+json".toList sub)
  | _ => false

namespace Request

/-- The type of the body that the headers tell; of several the first counts, and an empty
one tells nothing. -/
def contentType? (r : Request) : Option String :=
  ((r.headers.find? fun (n, _) => lower n.toList == "content-type".toList).map (·.2)).filter
    (· != "")

/-- The body is to be read as JSON: its type is JSON, or it has none and bodies
without a type are read. -/
def isJson (r : Request) (untyped : Bool) : Bool :=
  match r.contentType? with
  | none => untyped
  | some type => isJsonType type.toList

end Request

/-! ## Bodies -/

namespace Value

mutual

/-- A value can be sent in an answer: its doubles are finite and its texts not broken. -/
def isSendable : Value → Bool
  | .float x => x.isFinite
  | .broken _ => false
  | .list items => itemsSendable items
  | .mapping entries => entriesSendable entries
  | _ => true

/-- All items of a list can be sent. -/
def itemsSendable : List Value → Bool
  | [] => true
  | v :: vs => v.isSendable && itemsSendable vs

/-- All keys and values of a mapping can be sent. -/
def entriesSendable : List (Value × Value) → Bool
  | [] => true
  | (k, v) :: rest => k.isSendable && v.isSendable && entriesSendable rest

end

end Value

/-- What an evaluation is asked for. -/
structure EvaluationBody where
  entity : Value
  context : Value
  includeTrace : Bool

/-- Why a body is refused. -/
inductive BodyFault where
  /-- Parts that do not fit, each by the keys that lead to it. -/
  | invalid (places : List (List String))
  /-- Parts that do not fit and cannot be sent back. -/
  | unsendable
  /-- Something in it could not be read, though its form is right. -/
  | unreadable
  deriving DecidableEq

/-- A part of a body that does not fit: the keys that lead to it, and what a refusal shows of it. -/
structure Misfit where
  place : List String
  shown : List Value

namespace EvaluationBody

/-- Where the body itself is wrong. -/
def whole : List String := ["body"]

/-- The misfits of an entity, which is a mapping. -/
def entityMisfits : Option Value → List Misfit
  | none | some (.mapping _) => []
  | some v => [⟨["body", "entity"], [v]⟩]

/-- The misfits of a context, which is a mapping of mappings. -/
def contextMisfits : Option Value → List Misfit
  | none => []
  | some (.mapping es) =>
    es.filterMap fun (k, v) =>
      match v with
      | .mapping _ => none
      | _ => some ⟨["body", "context", k.shown], [k, v]⟩
  | some v => [⟨["body", "context"], [v]⟩]

/-- The misfits of a flag, which has one of its usual spellings. -/
def traceMisfits : Option Value → List Misfit
  | none => []
  | some v => if (Data.boolean? v).isSome then [] else [⟨["body", "include_trace"], [v]⟩]

/-- The refusal of a body for its misfits, which shows them. -/
def refuse (misfits : List Misfit) : BodyFault :=
  if misfits.all fun m => m.shown.all Value.isSendable then .invalid (misfits.map (·.place))
    else .unsendable

/-- A text without the byte order mark that may begin it. -/
def withoutMark : List Char → List Char
  | c :: rest => if c.toNat = 0xFEFF then rest else c :: rest
  | [] => []

/-- Reads a body that is JSON. -/
def read (body : List Char) : Except BodyFault EvaluationBody :=
  if body.isEmpty then .error (.invalid [whole])
  else match Json.read (withoutMark body) with
    | .error .malformed => .error (.invalid [whole])
    | .error (.numeral _) => .error .unreadable
    | .ok (.mapping es) =>
      let entity := Value.lookup? "entity" es
      let context := Value.lookup? "context" es
      let trace := Value.lookup? "include_trace" es
      match entityMisfits entity ++ contextMisfits context ++ traceMisfits trace with
      | [] =>
        .ok { entity := entity.getD (.mapping []), context := context.getD (.mapping [])
              includeTrace := (trace.bind Data.boolean?).getD false }
      | misfits => .error (refuse misfits)
    | .ok v => .error (refuse [⟨whole, [v]⟩])

end EvaluationBody

/-- Reads the body of a request. A body that is not JSON is a text, and no text is what an
evaluation asks for. -/
def Request.evaluationBody (r : Request) (untyped : Bool) : Except BodyFault EvaluationBody :=
  if r.isJson untyped then EvaluationBody.read r.body else .error (.invalid [EvaluationBody.whole])

/-! ## Routes -/

/-- What a path leads to. -/
inductive Route where
  | rules
  | rule (name : String)
  | evaluateRule (name : String)
  | evaluateTarget (domain kind name : String)
  | health
  deriving DecidableEq

namespace Route

/-- The method that a route answers. -/
def method : Route → String
  | .rules | .rule _ | .health => "GET"
  | .evaluateRule _ | .evaluateTarget .. => "POST"

/-- The last part of a path is a word; a line feed after it does not count. -/
def endsPath (word part : String) : Bool := part == word || part == word ++ "\n"

/-- The route of the parts of a path; the health route exists only in a whole application. -/
def ofParts? (whole : Bool) : List String → Option Route
  | [last] =>
    if endsPath "rules" last then some .rules
    else if whole && endsPath "health" last then some .health
    else none
  | ["rules", name] => if name == "" then none else some (.rule name)
  | ["rules", name, last] =>
    if name != "" && endsPath "evaluate" last then some (.evaluateRule name) else none
  | ["targets", domain, kind, name, last] =>
    if domain != "" && kind != "" && name != "" && endsPath "evaluate" last then
      some (.evaluateTarget domain kind name)
    else none
  | _ => none

/-- A path with its escaped bytes read and without what follows it. -/
def decodePath (path : String) : List Char :=
  decodeBytes (unescape (path.toList.takeWhile fun c => c != '?' && c != '#'))
where
  /-- The bytes of a path. -/
  unescape : List Char → List UInt8
    | '%' :: a :: b :: rest =>
      match Json.hexValue? a, Json.hexValue? b with
      | some hi, some lo => UInt8.ofNat (hi * 16 + lo) :: unescape rest
      | _, _ => '%'.toUInt8 :: unescape (a :: b :: rest)
    | c :: rest => bytesOf c ++ unescape rest
    | [] => []

/-- The parts of a path between its slashes. -/
def parts : List Char → List String
  | '/' :: rest => (splitOn (· == '/') rest).map String.ofList
  | _ => []

/-- The route of a path. -/
def ofPath? (whole : Bool) (path : String) : Option Route :=
  ofParts? whole (parts (decodePath path))

/-! ## Redirections -/

/-- What follows a path after a question mark. -/
def query (path : String) : List Char := (cutAt '?' (cutAt '#' path.toList).1).2

/-- The characters besides letters and digits that an address shows as they are. -/
def addressMarks : List Char := ":/%#?=@[]!$&'()*+,;_.-~".toList

/-- A text as it stands in an address: all other characters are escaped, byte by byte. -/
def address (s : List Char) : String :=
  String.ofList (s.flatMap fun c =>
    if c.isAlphanum || addressMarks.contains c then [c]
    else (bytesOf c).flatMap fun b => '%' :: (hexDigits 2 b.toNat).map Char.toUpper)

/-- Where a path with slashes at its end is redirected: to the path without them, if
it leads somewhere. -/
def redirect? (whole : Bool) (path : String) : Option String :=
  let s := decodePath path
  let bare := (s.reverse.dropWhile (· == '/')).reverse
  if s.getLast? == some '/' && (ofParts? whole (parts bare)).isSome then
    some (address (bare ++ if (query path).isEmpty then [] else '?' :: query path))
  else none

end Route
end Rulebook
