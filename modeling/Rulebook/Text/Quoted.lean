import Rulebook.Text.Printable

/-!
# Quoted text

A text between quotes with its unprintable characters escaped. Single quotes are preferred; a text
that holds a single quote and no double one is put between double quotes.
-/

namespace Rulebook.Text

/-- A digit of a number written to base sixteen. -/
def hexDigit (n : Nat) : Char :=
  if n % 16 < 10 then Char.ofNat (48 + n % 16) else Char.ofNat (87 + n % 16)

/-- The lowest `width` digits of a number to base sixteen. -/
def hexDigits : Nat → Nat → List Char
  | 0, _ => []
  | width + 1, n => hexDigits width (n / 16) ++ [hexDigit n]

/-- The quote that a text is put between. -/
def chooseQuote (s : List Char) : Char :=
  if s.contains '\'' && !s.contains '"' then '"' else '\''

/-- One character of a quoted text. -/
def escapeChar (quote : Char) (c : Char) : List Char :=
  if c == quote || c == '\\' then ['\\', c]
  else if c == '\t' then ['\\', 't']
  else if c == '\n' then ['\\', 'n']
  else if c == '\r' then ['\\', 'r']
  else if isPrintable c then [c]
  else if c.toNat < 0x100 then '\\' :: 'x' :: hexDigits 2 c.toNat
  else if c.toNat < 0x10000 then '\\' :: 'u' :: hexDigits 4 c.toNat
  else '\\' :: 'U' :: hexDigits 8 c.toNat

/-- A text between quotes. -/
def quoted (s : List Char) : List Char :=
  let quote := chooseQuote s
  quote :: s.flatMap (escapeChar quote) ++ [quote]

/-- A text between quotes, of which only the code points are known; those that are no
character are escaped. -/
def quotedPoints (ps : List Nat) : List Char :=
  let quote := chooseQuote (ps.map Char.ofNat)
  let escape (n : Nat) : List Char :=
    if n.isValidChar then escapeChar quote (Char.ofNat n) else '\\' :: 'u' :: hexDigits 4 n
  quote :: ps.flatMap escape ++ [quote]

end Rulebook.Text
