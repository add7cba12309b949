import Rulebook.Text.Blank

/-!
# Scanning SQL text

Comments are blanked out in place, so that offsets and line feeds stay where they are. The top level
of a text is what stands outside quotes and parentheses: `mask` blanks out all else, and separators
are looked for in the masked text.
-/

namespace Rulebook.Sql

/-- The third kind of quote, besides the single and the double one. -/
def backtick : Char := Char.ofNat 96

/-- A character that opens quoted text and also closes it. -/
def isQuote (c : Char) : Bool := c == '\'' || c == '"' || c == backtick

/-! ## Comments -/

/-- Where the scan for comments stands. -/
inductive CommentState where
  | code
  | quoted (quote : Char)
  | line
  | block
  deriving DecidableEq

/-- Blanks out the comments of a text, read from a given state. -/
def blankCommentsFrom : CommentState → List Char → List Char
  | _, [] => []
  | .quoted q, c :: rest => c :: blankCommentsFrom (if c = q then .code else .quoted q) rest
  | .line, c :: rest =>
    if c = '\n' then c :: blankCommentsFrom .code rest else ' ' :: blankCommentsFrom .line rest
  | .block, '*' :: '/' :: rest => ' ' :: ' ' :: blankCommentsFrom .code rest
  | .block, c :: rest => (if c = '\n' then c else ' ') :: blankCommentsFrom .block rest
  | .code, '-' :: '-' :: rest => ' ' :: ' ' :: blankCommentsFrom .line rest
  | .code, '/' :: '*' :: rest => ' ' :: ' ' :: blankCommentsFrom .block rest
  | .code, c :: rest => c :: blankCommentsFrom (if isQuote c then .quoted c else .code) rest

/-- Blanks out comments: from two hyphens to the end of the line, and between
slash-star and star-slash. -/
def blankComments (s : List Char) : List Char := blankCommentsFrom .code s

/-! ## The top level -/

/-- The character that closes what a given character opens as quoted text. -/
def closingQuote? (c : Char) : Option Char :=
  if isQuote c then some c else if c = '[' then some ']' else none

/-- A character that is kept at the top level and blanked out below it. -/
def shownAt (depth : Int) (c : Char) : Char := if 0 < depth then ' ' else c

/-- Masks a text, read at a depth of parentheses and inside quoted text if its
closing quote is given. -/
def maskFrom : Int → Option Char → List Char → List Char
  | _, _, [] => []
  | depth, some q, c :: rest =>
    if c = q then shownAt depth c :: maskFrom depth none rest
      else ' ' :: maskFrom depth (some q) rest
  | depth, none, c :: rest =>
    match closingQuote? c with
    | some q => shownAt depth c :: maskFrom depth (some q) rest
    | none =>
      if c = '(' then shownAt depth c :: maskFrom (depth + 1) none rest
      else if c = ')' then shownAt (depth - 1) c :: maskFrom (depth - 1) none rest
      else shownAt depth c :: maskFrom depth none rest

/-- Blanks out what stands inside quotes or parentheses; the outermost of those
marks themselves stay. -/
def mask (s : List Char) : List Char := maskFrom 0 none s

/-- A part of a text and the offset of its first character. -/
structure Piece where
  text : List Char
  offset : Nat
  deriving DecidableEq

/-- Cuts a text, paired with its mask, wherever the mask shows a separator. -/
def cut (isSep : Char → Bool) (pos : Nat) : List (Char × Char) → List Piece
  | [] => [⟨[], pos⟩]
  | (c, m) :: rest =>
    if isSep m then ⟨[], pos⟩ :: cut isSep (pos + 1) rest
    else match cut isSep (pos + 1) rest with
      | [] => [⟨[c], pos⟩]
      | p :: ps => ⟨c :: p.text, pos⟩ :: ps

/-- The pieces between the separators at the top level of a text. -/
def splitTopLevel (isSep : Char → Bool) (s : List Char) : List Piece := cut isSep 0 (s.zip (mask s))

/-- The offset, counted from `pos`, of the parenthesis that closes `depth` open ones; brackets
do not quote here. -/
def closingParenFrom (pos : Nat) (depth : Int) (quote : Option Char) : List Char → Option Nat
  | [] => none
  | c :: rest =>
    match quote with
    | some q => closingParenFrom (pos + 1) depth (if c = q then none else some q) rest
    | none =>
      if isQuote c then closingParenFrom (pos + 1) depth (some c) rest
      else if c = '(' then closingParenFrom (pos + 1) (depth + 1) none rest
      else if c = ')' then
        if depth - 1 = 0 then some pos else closingParenFrom (pos + 1) (depth - 1) none rest
      else closingParenFrom (pos + 1) depth none rest

/-- The offset of the parenthesis that closes the one at the start of a text. -/
def closingParen? (s : List Char) : Option Nat := closingParenFrom 0 0 none s

end Rulebook.Sql
