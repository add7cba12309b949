/-!
# Lines and columns

Where a character offset lies in a text: lines end at line feeds and are counted from one, as are
columns. An offset past the end of the text counts on in the last line.
-/

namespace Rulebook.Text

/-- The number of the line that holds an offset. -/
def lineAt (s : List Char) (offset : Nat) : Nat := (s.take offset).count '\n' + 1

/-- How many characters follow the last line feed. -/
def sinceLineFeed (s : List Char) : Nat := (s.reverse.takeWhile (· != '\n')).length

/-- The column of an offset in its line. -/
def columnAt (s : List Char) (offset : Nat) : Nat :=
  sinceLineFeed (s.take offset) + (offset - s.length) + 1

end Rulebook.Text
