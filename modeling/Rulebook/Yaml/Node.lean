import Rulebook.Yaml.Token

/-!
# Nodes

The tree of scalars, sequences and mappings that tokens spell out. An item or entry that is left
empty is a plain scalar without text.
-/

namespace Rulebook.Yaml

/-- A part of a document. -/
inductive Node where
  | scalar (plain : Bool) (text : List Char)
  | sequence (items : List Node)
  | mapping (entries : List (Node × Node))

namespace Node

/-- What stands where nothing is written. -/
def empty : Node := .scalar true []

/-- The next token is one of some. -/
def nextIn (ts choices : List Token) : Bool := ts.head?.any choices.contains

mutual

/-- Reads a node. Inside brackets no block collections may stand; as the value of a key, items may
follow without a collection being opened. The first argument bounds the depth of the recursion. -/
def parse : Nat → (block items : Bool) → List Token → Except DocumentFault (Node × List Token)
  | 0, _, _, _ => .error .shape
  | fuel + 1, block, items, ts =>
    match ts with
    | .scalar plain text :: ts => .ok (.scalar plain text, ts)
    | .sequenceStart :: ts => do
      let (ns, ts) ← parseFlowItems fuel true ts
      .ok (.sequence ns, ts)
    | .mappingStart :: ts => do
      let (es, ts) ← parseFlowEntries fuel true ts
      .ok (.mapping es, ts)
    | .blockSequenceStart :: ts =>
      if block then do
        let (ns, ts) ← parseItems fuel ts
        match ts with
        | .blockEnd :: ts => .ok (.sequence ns, ts)
        | _ => .error .shape
      else .error .shape
    | .blockMappingStart :: ts =>
      if block then do
        let (es, ts) ← parseEntries fuel ts
        .ok (.mapping es, ts)
      else .error .shape
    | .item :: _ =>
      if items then do
        let (ns, ts) ← parseItems fuel ts
        .ok (.sequence ns, ts)
      else .error .shape
    | _ => .error .shape

/-- Reads a node unless one of some tokens comes next, which leave it out. -/
def parseUnless : Nat → (block items : Bool) → List Token → List Token →
    Except DocumentFault (Node × List Token)
  | 0, _, _, _, _ => .error .shape
  | fuel + 1, block, items, stops, ts =>
    if nextIn ts stops then .ok (empty, ts) else parse fuel block items ts

/-- Reads items of a block sequence. -/
def parseItems : Nat → List Token → Except DocumentFault (List Node × List Token)
  | 0, _ => .error .shape
  | fuel + 1, ts =>
    match ts with
    | .item :: ts => do
      let (n, ts) ← parseUnless fuel true false [.item, .key, .value, .blockEnd] ts
      let (ns, ts) ← parseItems fuel ts
      .ok (n :: ns, ts)
    | _ => .ok ([], ts)

/-- Reads entries of a block mapping up to its end. -/
def parseEntries : Nat → List Token → Except DocumentFault (List (Node × Node) × List Token)
  | 0, _ => .error .shape
  | fuel + 1, ts =>
    match ts with
    | .blockEnd :: ts => .ok ([], ts)
    | .key :: ts => do
      let (k, ts) ← parseUnless fuel true true [.key, .value, .blockEnd] ts
      parseValue fuel k ts
    | .value :: _ => .error .shape
    | _ => .error .shape

/-- Reads the value of a key, and the entries after it. -/
def parseValue : Nat → Node → List Token → Except DocumentFault (List (Node × Node) × List Token)
  | 0, _, _ => .error .shape
  | fuel + 1, k, ts => do
    let (v, ts) ← match ts with
      | .value :: ts => parseUnless fuel true true [.key, .value, .blockEnd] ts
      | _ => .ok (empty, ts)
    let (es, ts) ← parseEntries fuel ts
    .ok ((k, v) :: es, ts)

/-- Reads items between brackets; an item may be a single entry of a mapping. -/
def parseFlowItems : Nat → (first : Bool) → List Token →
    Except DocumentFault (List Node × List Token)
  | 0, _, _ => .error .shape
  | fuel + 1, first, ts => do
    if nextIn ts [.sequenceEnd] then return ([], ts.drop 1)
    let ts ← match first, ts with
      | true, ts => .ok ts
      | false, .comma :: ts => .ok ts
      | false, _ => .error .shape
    match ts with
    | .sequenceEnd :: ts => .ok ([], ts)
    | .key :: ts => do
      let (k, ts) ← parseUnless fuel false false [.value, .comma, .sequenceEnd] ts
      let (v, ts) ← match ts with
        | .value :: ts => parseUnless fuel false false [.comma, .sequenceEnd] ts
        | _ => .ok (empty, ts)
      let (ns, ts) ← parseFlowItems fuel false ts
      .ok (.mapping [(k, v)] :: ns, ts)
    | _ => do
      let (n, ts) ← parse fuel false false ts
      let (ns, ts) ← parseFlowItems fuel false ts
      .ok (n :: ns, ts)

/-- Reads entries between braces; an entry may be a key alone. -/
def parseFlowEntries : Nat → (first : Bool) → List Token →
    Except DocumentFault (List (Node × Node) × List Token)
  | 0, _, _ => .error .shape
  | fuel + 1, first, ts => do
    if nextIn ts [.mappingEnd] then return ([], ts.drop 1)
    let ts ← match first, ts with
      | true, ts => .ok ts
      | false, .comma :: ts => .ok ts
      | false, _ => .error .shape
    match ts with
    | .mappingEnd :: ts => .ok ([], ts)
    | .key :: ts => do
      let (k, ts) ← parseUnless fuel false false [.value, .comma, .mappingEnd] ts
      let (v, ts) ← match ts with
        | .value :: ts => parseUnless fuel false false [.comma, .mappingEnd] ts
        | _ => .ok (empty, ts)
      let (es, ts) ← parseFlowEntries fuel false ts
      .ok ((k, v) :: es, ts)
    | _ => do
      let (k, ts) ← parse fuel false false ts
      let (es, ts) ← parseFlowEntries fuel false ts
      .ok ((k, empty) :: es, ts)

end

/-- The end of a document, after which another one must not begin. -/
def endOfDocument (ts : List Token) : Except DocumentFault Unit :=
  match ts.dropWhile (· == .documentEnd) with
  | [] => .ok ()
  | .documentStart :: _ => .error .documents
  | _ => .error .shape

/-- The single document that tokens spell out; an empty text has none. -/
def ofTokens (ts : List Token) : Except DocumentFault (Option Node) := do
  let depth := 4 * ts.length + 4
  match ts with
  | [] => .ok none
  | .documentStart :: ts =>
    if ts.isEmpty || nextIn ts [.documentStart, .documentEnd] then do
      endOfDocument ts
      .ok (some empty)
    else do
      let (n, ts) ← parse depth true false ts
      endOfDocument ts
      .ok (some n)
  | ts => do
    let (n, ts) ← parse depth true false ts
    endOfDocument ts
    .ok (some n)

end Node
end Rulebook.Yaml
