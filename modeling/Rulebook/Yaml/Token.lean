import Rulebook.Yaml.Scalar

/-!
# Tokens

A YAML text as a list of tokens. Columns are turned into tokens that open and close block
collections. A scalar or a bracket may turn out to be a key only when the colon after it is
read; the tokens that say so are then put in front of it, unless the colon stands on
another line or far away.
-/

namespace Rulebook.Yaml

/-- A token. -/
inductive Token where
  | scalar (plain : Bool) (text : List Char)
  | blockSequenceStart
  | blockMappingStart
  | blockEnd
  | sequenceStart
  | sequenceEnd
  | mappingStart
  | mappingEnd
  /-- The hyphen before an item. -/
  | item
  /-- The comma between items and entries. -/
  | comma
  | key
  | value
  | documentStart
  | documentEnd
  deriving DecidableEq

/-- Something that is a key if a colon follows it. -/
structure PossibleKey where
  /-- The number of tokens before it. -/
  before : Nat
  /-- Nothing but a key can stand there. -/
  required : Bool
  line : Nat
  column : Nat
  index : Nat

/-- The state of the scan. -/
structure Scan where
  cursor : Cursor
  /-- The tokens so far, the last one first. -/
  tokens : List Token := []
  /-- The possible keys of the open brackets and braces, the innermost first, and last
  that of the block. -/
  keys : List (Option PossibleKey) := [none]
  /-- The column of the innermost block collection. -/
  indent : Int := -1
  /-- The columns of the block collections around it. -/
  outer : List Int := []
  /-- A key may begin here. -/
  keyAllowed : Bool := true

namespace Scan

/-- The scan is inside brackets or braces. -/
def inFlow (s : Scan) : Bool := 1 < s.keys.length

/-- Adds a token. -/
def emit (s : Scan) (t : Token) : Scan := { s with tokens := t :: s.tokens }

/-- Puts a token in front of all but the first `before` tokens. -/
def insertAfter (s : Scan) (before : Nat) (t : Token) : Scan :=
  let later := s.tokens.length - before
  { s with tokens := s.tokens.take later ++ t :: s.tokens.drop later }

/-- Passes the blanks, comments and line ends before a token; the first argument bounds
the number of lines. -/
def skipGap : Nat → Scan → Scan
  | 0, s => s
  | fuel + 1, s =>
    let c := s.cursor.skipAll (· == ' ')
    let c := if c.head? == some '#' then c.skipAll fun x => !isBreak x else c
    match c.lineEnd? with
    | some (_, after) => skipGap fuel
        { s with cursor := after, keyAllowed := s.keyAllowed || !s.inFlow }
    | none => { s with cursor := c }

/-- A possible key is one no longer: its line has ended, or it is too long. -/
def isStale (s : Scan) (k : PossibleKey) : Bool :=
  k.line != s.cursor.line || 1024 < s.cursor.index - k.index

/-- Gives up possible keys that are stale; a required one must not be. -/
def dropStale (s : Scan) : Except DocumentFault Scan :=
  if s.keys.any fun k? => k?.any fun k => s.isStale k && k.required then .error .token
  else .ok { s with keys := s.keys.map fun k? => k?.filter fun k => !s.isStale k }

/-- Closes the block collections that begin to the right of a column. -/
def unwind (s : Scan) (column : Int) : Scan :=
  if s.inFlow then s
  else
    let columns := s.indent :: s.outer
    let closed := columns.takeWhile (column < ·)
    let remaining := columns.drop closed.length
    { s with
      tokens := List.replicate closed.length .blockEnd ++ s.tokens
      indent := remaining.headD (-1)
      outer := remaining.drop 1 }

/-- Opens a block collection at a column to the right of the innermost one; tells whether it did. -/
def openAt (s : Scan) (column : Nat) : Scan × Bool :=
  if s.indent < column then ({ s with indent := column, outer := s.indent :: s.outer }, true)
  else (s, false)

/-- Gives up the possible key of the innermost bracket or block; a required one must not be. -/
def dropKey (s : Scan) : Except DocumentFault Scan :=
  match s.keys with
  | some k :: rest => if k.required then .error .token else .ok { s with keys := none :: rest }
  | _ => .ok s

/-- What comes next may be a key. -/
def saveKey (s : Scan) : Except DocumentFault Scan :=
  if s.keyAllowed then do
    let s ← s.dropKey
    let c := s.cursor
    let key : PossibleKey :=
      ⟨s.tokens.length, !s.inFlow && s.indent == c.column, c.line, c.column, c.index⟩
    .ok { s with keys := some key :: s.keys.drop 1 }
  else .ok s

/-- Passes characters. -/
def pass (s : Scan) (n : Nat) : Scan := { s with cursor := s.cursor.skip n }

/-- A token that separates documents. -/
def separator (s : Scan) (t : Token) : Except DocumentFault Scan := do
  let s ← (s.unwind (-1)).dropKey
  .ok (({ s with keyAllowed := false }.pass 3).emit t)

/-- An opening bracket or brace. -/
def opening (s : Scan) (t : Token) : Except DocumentFault Scan := do
  let s ← s.saveKey
  .ok (({ s with keys := none :: s.keys, keyAllowed := true }.pass 1).emit t)

/-- A closing bracket or brace. -/
def closing (s : Scan) (t : Token) : Except DocumentFault Scan := do
  let s ← s.dropKey
  if s.inFlow then .ok (({ s with keys := s.keys.drop 1, keyAllowed := false }.pass 1).emit t)
  else .error .shape

/-- A comma. -/
def comma (s : Scan) : Except DocumentFault Scan := do
  let s ← s.dropKey
  .ok (({ s with keyAllowed := true }.pass 1).emit .comma)

/-- Opens a block collection where a hyphen, a question mark or a colon stands. -/
def openHere (s : Scan) (t : Token) : Except DocumentFault Scan :=
  if s.inFlow then .ok s
  else if !s.keyAllowed then .error .token
  else
    let (s, opened) := s.openAt s.cursor.column
    .ok (if opened then s.emit t else s)

/-- A hyphen. -/
def item (s : Scan) : Except DocumentFault Scan := do
  let s ← s.openHere .blockSequenceStart
  let s ← { s with keyAllowed := true }.dropKey
  .ok ((s.pass 1).emit .item)

/-- A question mark. -/
def explicitKey (s : Scan) : Except DocumentFault Scan := do
  let s ← s.openHere .blockMappingStart
  let s ← { s with keyAllowed := !s.inFlow }.dropKey
  .ok ((s.pass 1).emit .key)

/-- A colon, after a possible key or on its own. -/
def value (s : Scan) : Except DocumentFault Scan :=
  match s.keys with
  | some k :: rest =>
    let s := ({ s with keys := none :: rest, keyAllowed := false }).insertAfter k.before .key
    let s :=
      if s.inFlow then s
      else
        let (s, opened) := s.openAt k.column
        if opened then s.insertAfter k.before .blockMappingStart else s
    .ok ((s.pass 1).emit .value)
  | _ => do
    let s ← s.openHere .blockMappingStart
    .ok (({ s with keyAllowed := !s.inFlow }.pass 1).emit .value)

/-- A quoted scalar; the first argument bounds the number of its parts. -/
def quoted (fuel : Nat) (s : Scan) (quote : Char) : Except DocumentFault Scan := do
  let s ← s.saveKey
  let (text, c) ← scanQuoted quote fuel [] s.cursor.next
  .ok ({ s with keyAllowed := false, cursor := c }.emit (.scalar false text))

/-- A plain scalar; the first argument bounds the number of its words. -/
def plain (fuel : Nat) (s : Scan) : Except DocumentFault Scan := do
  let s ← s.saveKey
  let r := scanPlain s.inFlow (s.indent + 1) fuel ⟨[], s.cursor, false⟩ []
  .ok ({ s with keyAllowed := r.atLineStart, cursor := r.cursor }.emit (.scalar true r.text))

/-- A character that begins no plain scalar, or only in front of certain others. -/
def isMark (c : Char) : Bool :=
  isGap c || isFlowMark c ||
    ['-', '?', ':', '#', '&', '*', '!', '|', '>', '\'', '"', '%', '@', Char.ofNat 96].contains c

/-- A plain scalar begins here. -/
def plainAhead (s : Scan) : Bool :=
  match s.cursor.rest with
  | [] => false
  | c :: rest => !isMark c ||
      (!gapAhead rest && (c == '-' || (!s.inFlow && (c == '?' || c == ':'))))

/-- Reads the token that begins with a character, given with what follows it; the first argument
bounds the number of its parts. -/
def token (fuel : Nat) (s : Scan) (c : Char) (rest : List Char) : Except DocumentFault Scan :=
  if s.cursor.column = 0 && separatorAhead (c :: rest) then
    s.separator (if c == '-' then .documentStart else .documentEnd)
  else if c == '[' then s.opening .sequenceStart
  else if c == '\x7b' then s.opening .mappingStart
  else if c == ']' then s.closing .sequenceEnd
  else if c == '\x7d' then s.closing .mappingEnd
  else if c == ',' then s.comma
  else if c == '-' && gapAhead rest then s.item
  else if c == '?' && (s.inFlow || gapAhead rest) then s.explicitKey
  else if c == ':' && (s.inFlow || gapAhead rest) then s.value
  else if c == '\'' || c == '"' then s.quoted fuel c
  else if s.plainAhead then s.plain fuel
  else .error .token

/-- The end of the text closes all block collections. -/
def finish (s : Scan) : Except DocumentFault (List Token) := do
  let s ← (s.unwind (-1)).dropKey
  .ok s.tokens.reverse

/-- Reads tokens up to the end of the text; the first argument bounds the number
of characters left. -/
def run : Nat → Scan → Except DocumentFault (List Token)
  | 0, _ => .error .token
  | fuel + 1, s => do
    let s ← (s.skipGap (fuel + 1)).dropStale
    let s := s.unwind s.cursor.column
    match s.cursor.rest with
    | [] => s.finish
    | c :: rest => run fuel (← s.token (fuel + 1) c rest)

end Scan

/-- The tokens of a text. -/
def tokensOf (s : List Char) : Except DocumentFault (List Token) :=
  let start : Cursor := { rest := s }
  let start := if s.head?.any fun c => c.toNat == 0xFEFF then start.next else start
  Scan.run (s.length + 1) { cursor := start }

end Rulebook.Yaml
