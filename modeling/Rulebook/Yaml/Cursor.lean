import Rulebook.Diagnostic.Document
import Rulebook.Text.Blank

/-!
# Cursors

A place in a YAML text: what is still to be read, and the line, column and offset reached.
-/

namespace Rulebook.Yaml

/-- A character that ends a line. -/
def isBreak (c : Char) : Bool :=
  c == '\n' || c == '\r' || c.toNat == 0x85 || c.toNat == 0x2028 || c.toNat == 0x2029

/-- A blank or a line end, after which a token may begin. -/
def isGap (c : Char) : Bool := c == ' ' || c == '\t' || isBreak c

/-- What follows separates tokens: the end of the text, a blank or a line end. -/
def gapAhead : List Char → Bool
  | [] => true
  | c :: _ => isGap c

/-- Three hyphens or three points on their own, which separate documents where they begin a line. -/
def separatorAhead : List Char → Bool
  | '-' :: '-' :: '-' :: rest => gapAhead rest
  | '.' :: '.' :: '.' :: rest => gapAhead rest
  | _ => false

/-- A place in a text. -/
structure Cursor where
  rest : List Char
  line : Nat := 0
  column : Nat := 0
  index : Nat := 0

namespace Cursor

/-- The next character. -/
def head? (c : Cursor) : Option Char := c.rest.head?

/-- Passes one character; a byte order mark has no width. -/
def next (c : Cursor) : Cursor :=
  match c.rest with
  | [] => c
  | x :: rest =>
    if isBreak x && !(x == '\r' && rest.head? == some '\n') then ⟨rest, c.line + 1, 0, c.index + 1⟩
    else ⟨rest, c.line, if x.toNat == 0xFEFF then c.column else c.column + 1, c.index + 1⟩

/-- Passes a number of characters. -/
def skip (c : Cursor) : Nat → Cursor
  | 0 => c
  | n + 1 => c.next.skip n

/-- Passes characters of a kind. -/
def skipAll (c : Cursor) (ok : Char → Bool) : Cursor := c.skip (c.rest.takeWhile ok).length

/-- Passes a line end, if there is one; all but the two separators of Unicode
count as a line feed. -/
def lineEnd? (c : Cursor) : Option (Char × Cursor) :=
  match c.rest with
  | '\r' :: '\n' :: _ => some ('\n', c.skip 2)
  | x :: _ =>
    if isBreak x then some (if x.toNat < 0x2028 then '\n' else x, c.next) else none
  | [] => none

end Cursor
end Rulebook.Yaml
