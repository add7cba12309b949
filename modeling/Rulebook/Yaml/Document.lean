import Rulebook.Yaml.Node
import Rulebook.Yaml.Plain

/-!
# Documents

The value of a YAML text. Mappings keep the order of their keys; of two entries with one key the
later one counts, and entries merged into a mapping come before its own. Collections cannot be keys.

If several parts of a document stand for no value, the part nearest the root is reported,
of those the first.
-/

namespace Rulebook.Yaml

open Text

/-- A character that a document may hold. -/
def isAllowed (c : Char) : Bool :=
  let n := c.toNat
  n == 9 || n == 10 || n == 13 || (32 ≤ n && n ≤ 126) || n == 0x85 ||
    (0xA0 ≤ n && n ≤ 0xFFFD) || 0x10000 ≤ n

/-- A value, or the failure nearest the root with its depth. -/
def Built (α : Type) : Type := Except (Nat × Failure) α

namespace Built

variable {α β γ : Type}

/-- A value. -/
def ok (a : α) : Built α := Except.ok a

/-- A failure at a depth. -/
def fail (depth : Nat) (f : Failure) : Built α := Except.error (depth, f)

/-- Combines two parts; of two failures the one nearer to the root counts. -/
def both (f : α → β → γ) : Built α → Built β → Built γ
  | .ok a, .ok b => .ok (f a b)
  | .error e, .ok _ => .error e
  | .ok _, .error e => .error e
  | .error e, .error e' => .error (if e'.1 < e.1 then e' else e)

/-- Changes a value. -/
def map (f : α → β) : Built α → Built β
  | .ok a => .ok (f a)
  | .error e => .error e

end Built

/-- The entries of a mapping: those merged into it and its own. -/
structure BuiltEntries where
  merged : Built (List (Value × Value)) := .ok []
  own : Built (List (Value × Value)) := .ok []

/-- All entries of a mapping. -/
def BuiltEntries.all (es : BuiltEntries) : Built (List (Value × Value)) :=
  Built.both (· ++ ·) es.merged es.own

namespace Node

/-- A key under which entries are merged. -/
def isMerge : Node → Bool
  | .scalar true text => PlainKind.of text == .merge
  | _ => false

/-- The depth of a part of a collection at a given depth. -/
def depthBelow (depth : Nat) : Node → Nat
  | .scalar .. => depth
  | _ => depth + 1

/-- The value of a scalar that is a key; there, the key of the default value is a text. -/
def keyText? : Node → Option String
  | .scalar false text => some (String.ofList text)
  | .scalar true text => if PlainKind.of text == .value then some (String.ofList text) else none
  | _ => none

mutual

/-- The value of a node at a depth. -/
def build (depth : Nat) : Node → Built Value
  | .scalar false text => .ok (.text (String.ofList text))
  | .scalar true text =>
    match readPlain text with
    | .ok v => .ok v
    | .error e => .fail depth e
  | .sequence items => (buildItems depth items).map .list
  | .mapping entries => (buildEntries depth entries).all.map Value.ofEntries

/-- The values of the items of a sequence. -/
def buildItems (depth : Nat) : List Node → Built (List Value)
  | [] => .ok []
  | n :: ns => Built.both (· :: ·) (build (depthBelow depth n) n) (buildItems depth ns)

/-- The values of the entries of a mapping. -/
def buildEntries (depth : Nat) : List (Node × Node) → BuiltEntries
  | [] => {}
  | (k, v) :: rest =>
    let more := buildEntries depth rest
    if isMerge k then { more with merged := Built.both (· ++ ·) (mergedFrom depth v) more.merged }
    else
      let key : Built Value :=
        match k, keyText? k with
        | _, some s => .ok (.text s)
        | .scalar .., none => build depth k
        | _, none => .fail depth (.unreadableDocument .content)
      let entry := Built.both Prod.mk key (build (depthBelow depth v) v)
      { more with own := Built.both (· :: ·) entry more.own }

/-- The entries that a mapping or a sequence of mappings merges into another mapping. -/
def mergedFrom (depth : Nat) : Node → Built (List (Value × Value))
  | .mapping entries => (buildEntries depth entries).all
  | .sequence items => mergedItems depth items
  | .scalar .. => .fail depth (.unreadableDocument .content)

/-- The entries of the mappings of a sequence, those of the last one first. -/
def mergedItems (depth : Nat) : List Node → Built (List (Value × Value))
  | [] => .ok []
  | .mapping entries :: ns =>
    Built.both (fun here later => later ++ here) (buildEntries depth entries).all
      (mergedItems depth ns)
  | _ :: _ => .fail depth (.unreadableDocument .content)

end

end Node

/-- Reads the value of a text. -/
def read (s : List Char) : Outcome Value :=
  if !s.all isAllowed then .error (.unreadableDocument .character)
  else
    match (tokensOf s).bind Node.ofTokens with
    | .error fault => .error (.unreadableDocument fault)
    | .ok none => .ok .null
    | .ok (some n) =>
      match n.build 0 with
      | .ok v => .ok v
      | .error (_, e) => .error e

end Rulebook.Yaml
