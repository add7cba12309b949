import Rulebook.Yaml.Cursor
import Rulebook.Yaml.Plain

/-!
# Layout

The text of a value as a YAML document in block style, in ASCII. A text is written plain if it
reads back as itself, between single quotes if it has only printable ASCII characters and line
feeds, and otherwise between double quotes. Texts that run past column 80 are continued on further
lines, but keys are not.
-/

namespace Rulebook.Yaml

open Number Text

/-- The column past which a text is continued on the next line. -/
def lineWidth : Nat := 80

/-- A line feed and blanks up to a column. -/
def newLine (column : Nat) : List Char := '\n' :: List.replicate column ' '

/-! ## Styles -/

/-- How a text is written. -/
inductive Style where
  | plain
  | single
  | double
  deriving DecidableEq

/-- A character of printable ASCII, or a line feed. -/
def isSimple (c : Char) : Bool := c == '\n' || (' ' ≤ c && c ≤ '~')

/-- A colon before a gap or a number sign after one, which end a plain scalar. -/
def hasMark (afterGap : Bool) : List Char → Bool
  | [] => false
  | c :: rest =>
    (c == ':' && gapAhead rest) || (c == '#' && afterGap) || hasMark (c == ' ' || c == '\n') rest

/-- The start of a text keeps it from being plain. -/
def badStart (s : List Char) : Bool :=
  startsWith "---".toList s || startsWith "...".toList s ||
    match s with
    | [] => true
    | c :: rest =>
      ['#', ',', '[', ']', '\x7b', '\x7d', '&', '*', '!', '|', '>', '\'', '"', '%', '@',
        Char.ofNat 96].contains c || ((c == '?' || c == '-') && gapAhead rest)

/-- A blank or a line feed. -/
def isEdge (c : Char) : Bool := c == ' ' || c == '\n'

/-- A line feed beside a blank. -/
def hasBlankAtBreak : List Char → Bool
  | a :: b :: rest =>
    (a == ' ' && b == '\n') || (a == '\n' && b == ' ') || hasBlankAtBreak (b :: rest)
  | _ => false

/-- The style of a text that is a value or, if so marked, a key on one line with its value. -/
def Style.of (isKey : Bool) (s : List Char) : Style :=
  if s.isEmpty then .single
  else if !s.all isSimple || hasBlankAtBreak s then .double
  else if s.contains '\n' then (if isKey then .double else .single)
  else if PlainKind.of s == .text && !badStart s && !hasMark true s && !s.head?.any isEdge &&
      !s.getLast?.any isEdge then .plain
  else .single

/-! ## Writing texts

The functions below take the column at which the next character is written, and the column at which
continuation lines begin, or `none` if the text must stay on its line. -/

/-- The length of the run of a character at the start of a text. -/
def runLength (c : Char) (s : List Char) : Nat := (s.takeWhile (· == c)).length

/-- A text with its words continued on further lines; the first argument bounds
the number of words. -/
def wrapPlain (indent : Option Nat) : Nat → Nat → List Char → List Char
  | 0, _, s => s
  | fuel + 1, column, s =>
    let word := s.takeWhile (· != ' ')
    let rest := s.dropWhile (· != ' ')
    let column := column + word.length
    let blanks := runLength ' ' rest
    let after := rest.drop blanks
    word ++
      if rest.isEmpty then []
      else match indent with
        | some i =>
          if blanks = 1 && lineWidth < column then newLine i ++ wrapPlain indent fuel i after
          else List.replicate blanks ' ' ++ wrapPlain indent fuel (column + blanks) after
        | none => List.replicate blanks ' ' ++ wrapPlain indent fuel (column + blanks) after

/-- A text between single quotes, quotes in it doubled, after its opening quote; the first argument
bounds the number of parts, and `started` tells that something was written before. -/
def wrapSingle (indent : Option Nat) : Nat → (started : Bool) → Nat → List Char → List Char
  | 0, _, _, s => s
  | fuel + 1, started, column, s =>
    match s with
    | [] => ['\'']
    | '\'' :: rest => '\'' :: '\'' :: wrapSingle indent fuel true (column + 2) rest
    | '\n' :: _ =>
      let breaks := runLength '\n' s
      let i := indent.getD 0
      List.replicate breaks '\n' ++ newLine i ++ wrapSingle indent fuel true i (s.drop breaks)
    | ' ' :: _ =>
      let blanks := runLength ' ' s
      let after := s.drop blanks
      let keep := List.replicate blanks ' ' ++ wrapSingle indent fuel true (column + blanks) after
      match indent with
      | some i =>
        if blanks = 1 && lineWidth < column && started && !after.isEmpty then
          newLine i ++ wrapSingle indent fuel true i after
        else keep
      | none => keep
    | _ =>
      let word := s.takeWhile fun c => !isEdge c && c != '\''
      word ++ wrapSingle indent fuel true (column + word.length) (s.drop word.length)

/-- The escapes of one letter. -/
def letterEscapes : List (Nat × Char) := [
  (0, '0'), (7, 'a'), (8, 'b'), (9, 't'), (10, 'n'), (11, 'v'), (12, 'f'), (13, 'r'),
  (27, 'e'), (34, '"'), (92, '\\'), (0x85, 'N'), (0xA0, '_'), (0x2028, 'L'), (0x2029, 'P')]

/-- A number to base sixteen with capital letters. -/
def capitalHex (width n : Nat) : List Char := upper (hexDigits width n)

/-- What stands for a character that cannot be written as itself between double quotes. -/
def escapeOf? (c : Char) : Option (List Char) :=
  match letterEscapes.lookup c.toNat with
  | some l => some ['\\', l]
  | none =>
    if ' ' ≤ c && c ≤ '~' then none
    else if c.toNat < 0x100 then some ('\\' :: 'x' :: capitalHex 2 c.toNat)
    else if c.toNat < 0x10000 then some ('\\' :: 'u' :: capitalHex 4 c.toNat)
    else some ('\\' :: 'U' :: capitalHex 8 c.toNat)

/-- A blank at the start of a continuation line is escaped. -/
def blankMark (s : List Char) : List Char := if s.head? == some ' ' then ['\\'] else []

/-- A text between double quotes after its opening quote. `pending` counts the characters since the
last escape or line end; `first` tells that none was read. -/
def wrapDouble (indent : Option Nat) :
    (first : Bool) → (column pending : Nat) → List Char → List Char
  | _, _, _, [] => ['"']
  | first, column, pending, c :: rest =>
    let inside := !first && !rest.isEmpty
    match escapeOf? c, indent with
    | some e, some i =>
      let column := column + pending + e.length
      if inside && lineWidth + 1 < column then
        e ++ '\\' :: newLine i ++ blankMark rest ++
          wrapDouble indent false (i + (blankMark rest).length) 0 rest
      else e ++ wrapDouble indent false column 0 rest
    | some e, none => e ++ wrapDouble indent false (column + pending + e.length) 0 rest
    | none, some i =>
      if inside && (c == ' ' || pending = 0) && lineWidth < column + pending then
        '\\' :: newLine i ++ blankMark (c :: rest) ++
          c :: wrapDouble indent false (i + (blankMark (c :: rest)).length) 1 rest
      else c :: wrapDouble indent false column (pending + 1) rest
    | none, none => c :: wrapDouble indent false column (pending + 1) rest

/-- A text as a scalar that begins at a column. -/
def textScalar (isKey : Bool) (indent : Option Nat) (column : Nat) (s : List Char) : List Char :=
  match Style.of isKey s with
  | .plain => wrapPlain indent (s.length + 1) column s
  | .single => '\'' :: wrapSingle indent (2 * s.length + 1) false (column + 1) s
  | .double => '"' :: wrapDouble indent true (column + 1) 0 s

/-! ## Writing values -/

/-- The text of a double, always with a point. -/
def doubleScalar : Double → List Char
  | .nan => ".nan".toList
  | .infinite negative => (if negative then ['-'] else []) ++ ".inf".toList
  | x =>
    let s := x.toText
    if s.contains '.' then s
    else s.takeWhile (· != 'e') ++ (if s.contains 'e' then ".0".toList else []) ++
      s.dropWhile (· != 'e')

/-- A value without parts, and an empty collection. -/
def scalarText (isKey : Bool) (indent : Option Nat) (column : Nat) : Value → List Char
  | .text s => textScalar isKey indent column s.toList
  | .null => "null".toList
  | .bool b => (if b then "true" else "false").toList
  | .int n => (toString n).toList
  | .float x => doubleScalar x
  | .list [] => "[]".toList
  | .mapping [] => "\x7b\x7d".toList
  | v => v.shown.toList

/-- A key is written on one line with its value: it is neither empty nor long
and has no line feed. -/
def isShortKey : Value → Bool
  | .text s => s != "" && !s.toList.any isBreakInText && s.length < 123
  | .list [] | .mapping [] => true
  | .list _ | .mapping _ => false
  | _ => true
where
  /-- A character that ends a line of a text. -/
  isBreakInText (c : Char) : Bool :=
    c == '\n' || c.toNat == 0x85 || c.toNat == 0x2028 || c.toNat == 0x2029

mutual

/-- A value after an indicator that stands at a column. -/
def afterMark (column : Nat) : Value → List Char
  | .list items =>
    ' ' :: if items.isEmpty then scalarText false none 0 (.list [])
    else itemsText (column + 2) items
  | .mapping entries =>
    ' ' :: if entries.isEmpty then scalarText false none 0 (.mapping [])
    else entriesText (column + 2) entries
  | v => ' ' :: scalarText false (some (column + 2)) (column + 2) v

/-- The items of a sequence at a column, beginning with the first indicator. -/
def itemsText (column : Nat) : List Value → List Char
  | [] => []
  | v :: vs =>
    '-' :: afterMark column v ++ if vs.isEmpty then [] else newLine column ++ itemsText column vs

/-- The entries of a mapping at a column, beginning with the first key. -/
def entriesText (column : Nat) : List (Value × Value) → List Char
  | [] => []
  | (k, v) :: rest =>
    (if isShortKey k then
      let key := scalarText true none column k
      key ++ ':' :: afterKey column (column + key.length + 2) v
    else '?' :: afterMark column k ++ newLine column ++ ':' :: afterMark column v) ++
    if rest.isEmpty then [] else newLine column ++ entriesText column rest

/-- A value after its key and the colon; the key stands at the first column, a
scalar at the second. -/
def afterKey (column start : Nat) : Value → List Char
  | .list items =>
    if items.isEmpty then ' ' :: scalarText false none 0 (.list []) else newLine column ++
      itemsText column items
  | .mapping entries =>
    if entries.isEmpty then ' ' :: scalarText false none 0 (.mapping [])
    else newLine (column + 2) ++ entriesText (column + 2) entries
  | v => ' ' :: scalarText false (some (column + 2)) start v

end

/-- The text of a value as a document. -/
def write (v : Value) : String :=
  String.ofList <| (match v with
    | .mapping (e :: es) => entriesText 0 (e :: es)
    | .list (v :: vs) => itemsText 0 (v :: vs)
    | v => scalarText false (some 2) 0 v) ++ ['\n']

end Rulebook.Yaml
