import Rulebook.Bound.Comparand
import Rulebook.Number.Integer
import Rulebook.Rule.Registry
import Rulebook.Text.Word

/-!
# Context from headers

A field of the context can be sent as a header whose name joins the names of its category and the
field, both in small letters with hyphens. The value is read by the type of the field.
-/

namespace Rulebook.Header

open Number Text

/-- A name in small letters with a hyphen before every capital but the first character and for every
underscore. -/
def hyphenated (name : String) : List Char :=
  let spread := match name.toList with
    | [] => []
    | c :: rest => c :: rest.flatMap fun x => if isAsciiUpper x then ['-', x] else [x]
  lower (spread.map fun c => if c == '_' then '-' else c)

/-- The name of the header for a field. -/
def nameOf (category field : String) : String :=
  String.ofList ("x-".toList ++ hyphenated category ++ '-' :: hyphenated field)

/-- Reads the text of a header by the type of its field; a text that does not
fit gives the reason. -/
def readValue (raw : String) (type : ScalarType) : Except String Value :=
  let s := trim raw.toList
  match type with
  | .bool =>
    let small := String.ofList (lower s)
    if small == "true" || small == "false" then .ok (.bool (small == "true"))
    else .error s!"expected true or false, got '{raw}'"
  | .int32 | .int64 => (readInteger s).mapError NumeralFault.message |>.map .int
  | .float64 => (Double.read s).mapError NumeralFault.message |>.map .float
  | .decimal =>
    match Decimal.read? s with
    | some d => .ok (.decimal d)
    | none => .error s!"expected a decimal, got '{raw}'"
  | .string | .date | .datetime => .ok (.text raw)

/-- The headers of a request with their names in small letters, the last of a name first. -/
def byName (headers : List (String × String)) : List (String × String) :=
  headers.reverse.map fun (n, v) => (String.ofList (lower n.toList), v)

/-- The fields of a category for which there are headers. -/
def fieldsOf (headers : List (String × String)) (category : String) :
    List ContextField → Outcome (List (Value × Value))
  | [] => .ok []
  | f :: fs => do
    let name := nameOf category f.name
    let here ← match headers.lookup name with
      | none => .ok []
      | some raw =>
        match readValue raw f.type with
        | .ok v => .ok [(.text f.name, v)]
        | .error reason => .error (.refused 400 s!"Header {name}: {reason}")
    let more ← fieldsOf headers category fs
    .ok (here ++ more)

/-- The categories for which there are headers. -/
def categoriesOf (headers : List (String × String)) :
    List Category → Outcome (List (String × List (Value × Value)))
  | [] => .ok []
  | c :: cs => do
    let here ← if c.enabled then fieldsOf headers c.name c.fields else .ok []
    let more ← categoriesOf headers cs
    .ok (if here.isEmpty then more else (c.name, here) :: more)

/-- The context that headers make. -/
def context (registry : Registry) (headers : List (String × String)) : Outcome Value := do
  let categories ← categoriesOf (byName headers) registry.categories
  .ok (.mapping (categories.map fun (n, es) => (.text n, Value.ofEntries es)))

/-- Adds the entries of a mapping to those of another one, replacing those of the same key. -/
def addEntries (base : List (Value × Value)) : Value → List (Value × Value)
  | .mapping es => es.foldl (fun acc (k, v) => Value.insertEntry k v acc) base
  | _ => base

/-- A context with the categories of another one merged in, field by field. -/
def merge (base added : Value) : Value :=
  match base, added with
  | .mapping bs, .mapping as =>
    .mapping (as.foldl (fun acc (k, v) =>
      let old := match acc.find? fun (k', _) => k'.sameKey k with
        | some (_, .mapping es) => es
        | _ => []
      Value.insertEntry k (.mapping (addEntries old v)) acc) bs)
  | base, _ => base

end Rulebook.Header
