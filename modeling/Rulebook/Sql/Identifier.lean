import Rulebook.Sql.Scan
import Rulebook.Text.Case
import Rulebook.Text.Pattern

/-!
# Identifiers

An identifier is quoted with backticks, double quotes or brackets, or begins with a letter of ASCII
or an underscore and goes on with word characters and dollar signs. A qualified name joins
identifiers with points; only the last of them counts.
-/

namespace Rulebook.Sql

open Text

/-- A character that may begin an identifier. Where case is folded, the variants of ASCII letters
beyond ASCII may too. -/
def beginsIdentifier (folded : Bool) (c : Char) : Bool :=
  c == '_' || (if folded then Pattern.isLetterUpToCase c else isAsciiLetter c)

/-- A character that may continue an identifier. -/
def continuesIdentifier (c : Char) : Bool := isWord c || c == '$'

/-- Text between two marks that holds no closing mark, marks included. -/
def enclosed (opening closing : Char) : Pattern (List Char) := do
  let o ← Pattern.char opening
  let cs ← Pattern.run1 (· != closing)
  let c ← Pattern.char closing
  pure (o :: cs ++ [c])

/-- An identifier as it is written. -/
def identifier (folded : Bool) : Pattern (List Char) := Pattern.anyOf [
  enclosed backtick backtick,
  enclosed '"' '"',
  enclosed '[' ']',
  do
    let c ← Pattern.one (beginsIdentifier folded)
    let cs ← Pattern.most continuesIdentifier
    pure (c :: cs)]

/-- A point with blanks around it. -/
def point : Pattern (List Char) := do
  let before ← Pattern.blanks
  let p ← Pattern.char '.'
  let after ← Pattern.blanks
  pure (before ++ p :: after)

/-- A qualified name as it is written. -/
def qualifiedName (folded : Bool) : Pattern (List Char) := do
  let first ← identifier folded
  let more ← Pattern.many do
    let p ← point
    let i ← identifier folded
    pure (p ++ i)
  pure (first ++ more.flatten)

/-- Drops the quotes around an identifier. -/
def dropQuotes (s : List Char) : List Char :=
  match s.head?, s.getLast? with
  | some a, some b =>
    if 2 ≤ s.length && ((a == backtick && b == backtick) || (a == '"' && b == '"') ||
      (a == '[' && b == ']')) then
      (s.drop 1).dropLast
    else s
  | _, _ => s

/-- The bare name that a possibly qualified and quoted name stands for. -/
def unquote (s : List Char) : List Char :=
  let trimmed := trim s
  match (Pattern.findAll (identifier false) .anywhere trimmed).getLast? with
  | some found => dropQuotes found.value
  | none => dropQuotes trimmed

/-- Two names are equal up to case. -/
def sameName (a b : String) : Bool := lower a.toList == lower b.toList

end Rulebook.Sql
