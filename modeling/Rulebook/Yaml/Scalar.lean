import Rulebook.Json
import Rulebook.Yaml.Cursor

/-!
# Scalars

Reading plain and quoted scalars. A line end inside a scalar counts as a blank, further ones as
themselves, and blanks around line ends do not count.
-/

namespace Rulebook.Yaml

open Text

/-! ## Plain scalars -/

/-- A character that has a meaning of its own inside brackets and braces. -/
def isFlowMark (c : Char) : Bool := [',', '[', ']', '\x7b', '\x7d'].contains c

/-- The characters of a plain scalar up to the next blank or the mark that ends it. -/
def plainWord (inFlow : Bool) : List Char → List Char
  | [] => []
  | c :: rest =>
    if isGap c || (c == ':' && (gapAhead rest || (inFlow && rest.head?.any isFlowMark))) ||
        (inFlow && (isFlowMark c || c == '?')) then []
    else c :: plainWord inFlow rest

/-- Blanks and line ends that precede the next line of a scalar, and the line ends among them; stops
at a separator of documents, which `none` tells. The first argument bounds the number of steps. -/
def breaksAhead (isSpace : Char → Bool) : Nat → Cursor → List Char → Option (List Char) × Cursor
  | 0, c, acc => (some acc, c)
  | fuel + 1, c, acc =>
    let c := c.skipAll isSpace
    match c.lineEnd? with
    | none => (some acc, c)
    | some (x, after) =>
      if separatorAhead after.rest then (none, after)
        else breaksAhead isSpace fuel after (acc ++ [x])

/-- What a line end and further ones after it stand for inside a scalar. -/
def folded (first : Char) (others : List Char) : List Char :=
  if first != '\n' then first :: others
  else if others.isEmpty then [' ']
  else others

/-- The blanks that follow a word of a plain scalar, as far as they belong to it, and whether a line
ended; the first argument bounds the number of lines. -/
def plainSpaces (fuel : Nat) (c : Cursor) : List Char × Cursor × Bool :=
  let blanks := c.rest.takeWhile (· == ' ')
  let c := c.skip blanks.length
  match c.lineEnd? with
  | none => (blanks, c, false)
  | some (x, after) =>
    if separatorAhead after.rest then ([], after, true)
    else match breaksAhead (· == ' ') fuel after [] with
      | (some others, c) => (folded x others, c, true)
      | (none, c) => ([], c, true)

/-- A scalar that was read: its characters, what follows, and whether a key may stand there. -/
structure Scanned where
  text : List Char
  cursor : Cursor
  atLineStart : Bool := false

/-- Reads a plain scalar, the later lines of which lie at or beyond a column; the first argument
bounds the number of words. -/
def scanPlain (inFlow : Bool) (indent : Int) : Nat → Scanned → List Char → Scanned
  | 0, s, _ => s
  | fuel + 1, s, blanks =>
    if s.cursor.head? == some '#' then s
    else
      let word := plainWord inFlow s.cursor.rest
      if word.isEmpty then s
      else
        let (more, cursor, ended) := plainSpaces (fuel + 1) (s.cursor.skip word.length)
        let s : Scanned := ⟨s.text ++ blanks ++ word, cursor, ended⟩
        if more.isEmpty || cursor.head? == some '#' ||
          (!inFlow && (cursor.column : Int) < indent) then s
        else scanPlain inFlow indent fuel s more

/-! ## Quoted scalars -/

/-- The characters that a backslash and a single character stand for. -/
def escapes : List (Char × Nat) := [
  ('0', 0), ('a', 7), ('b', 8), ('t', 9), ('\t', 9), ('n', 10), ('v', 11), ('f', 12),
  ('r', 13), ('e', 27), (' ', 32), ('"', 34), ('\\', 92), ('/', 47), ('N', 0x85), ('_', 0xA0),
  ('L', 0x2028), ('P', 0x2029)]

/-- The number of digits to base sixteen that follow a backslash and a letter. -/
def escapeWidth? : Char → Option Nat
  | 'x' => some 2
  | 'u' => some 4
  | 'U' => some 8
  | _ => none

/-- The character of a code point given to base sixteen; what is no character is refused. -/
def codePoint? (ds : List Char) : Option Char := do
  let n ← ds.foldlM (fun acc d => (Json.hexValue? d).map (acc * 16 + ·)) 0
  if n.isValidChar then some (Char.ofNat n) else none

/-- Reads the rest of a quoted scalar after its opening quote; the first argument bounds
the number of steps. -/
def scanQuoted (quote : Char) : Nat → List Char → Cursor → Except DocumentFault (List Char × Cursor)
  | 0, _, _ => .error .token
  | fuel + 1, acc, c =>
    match c.rest with
    | [] => .error .token
    | x :: rest =>
      if x == quote then
        if quote == '\'' && rest.head? == some '\'' then
          scanQuoted quote fuel (acc ++ ['\'']) (c.skip 2)
        else .ok (acc, c.next)
      else if x == '\\' && quote == '"' then
        match rest with
        | [] => .error .token
        | e :: digits =>
          match escapes.lookup e, escapeWidth? e with
          | some n, _ => scanQuoted quote fuel (acc ++ [Char.ofNat n]) (c.skip 2)
          | none, some width =>
            match if digits.length < width then none else codePoint? (digits.take width) with
            | some ch => scanQuoted quote fuel (acc ++ [ch]) (c.skip (2 + width))
            | none => .error .token
          | none, none =>
            match c.next.lineEnd? with
            | none => .error .token
            | some (_, after) =>
              if separatorAhead after.rest then .error .token
              else match breaksAhead (fun c => c == ' ' || c == '\t') (fuel + 1) after [] with
                | (some others, c) => scanQuoted quote fuel (acc ++ others) c
                | (none, _) => .error .token
      else if isGap x then
        let blanks := c.rest.takeWhile fun c => c == ' ' || c == '\t'
        let c := c.skip blanks.length
        match c.lineEnd? with
        | none => if c.rest.isEmpty then .error .token else scanQuoted quote fuel (acc ++ blanks) c
        | some (ch, after) =>
          if separatorAhead after.rest then .error .token
          else match breaksAhead (fun c => c == ' ' || c == '\t') (fuel + 1) after [] with
            | (some others, c) => scanQuoted quote fuel (acc ++ folded ch others) c
            | (none, _) => .error .token
      else
        let word := c.rest.takeWhile fun c => !(isGap c || c == '\'' || c == '"' || c == '\\')
        if word.isEmpty then scanQuoted quote fuel (acc ++ [x]) c.next
        else scanQuoted quote fuel (acc ++ word) (c.skip word.length)

end Rulebook.Yaml
