/-!
# Blanks, words and lines

Trimming, splitting at runs of blanks, and splitting into lines. A text is a list of characters;
every function here keeps the characters it does not drop in their order.
-/

namespace Rulebook.Text

/-- A character that separates words and is trimmed off the ends of a text. -/
def isBlank (c : Char) : Bool :=
  let n := c.toNat
  (9 ≤ n && n ≤ 13) || (28 ≤ n && n ≤ 32) || n == 0x85 || n == 0xA0 || n == 0x1680 ||
    (0x2000 ≤ n && n ≤ 0x200A) || n == 0x2028 || n == 0x2029 || n == 0x202F || n == 0x205F ||
    n == 0x3000

/-- A character that ends a line. -/
def isLineEnd (c : Char) : Bool :=
  let n := c.toNat
  (10 ≤ n && n ≤ 13) || (28 ≤ n && n ≤ 30) || n == 0x85 || n == 0x2028 || n == 0x2029

/-- Drops the blanks at the start. -/
def trimStart (s : List Char) : List Char := s.dropWhile isBlank

/-- Drops the blanks at the end. -/
def trimEnd (s : List Char) : List Char := (s.reverse.dropWhile isBlank).reverse

/-- Drops the blanks at both ends. -/
def trim (s : List Char) : List Char := trimEnd (trimStart s)

/-- Pieces between single separators; a text has one piece more than separators. -/
def splitOn (isSep : Char → Bool) : List Char → List (List Char)
  | [] => [[]]
  | c :: rest =>
    if isSep c then [] :: splitOn isSep rest
    else match splitOn isSep rest with
      | [] => [[c]]
      | piece :: pieces => (c :: piece) :: pieces

/-- The non-empty pieces between runs of separators. -/
def splitRuns (isSep : Char → Bool) (s : List Char) : List (List Char) :=
  (splitOn isSep s).filter fun piece => !piece.isEmpty

/-- The words of a text. -/
def words (s : List Char) : List (List Char) := splitRuns isBlank s

/-- The lines of a text without their ends; a carriage return and the line feed
after it are one end. -/
def lines : List Char → List (List Char)
  | [] => []
  | '\r' :: '\n' :: rest => [] :: lines rest
  | c :: rest =>
    if isLineEnd c then [] :: lines rest
    else match lines rest with
      | [] => [[c]]
      | line :: more => (c :: line) :: more

/-- Every line end of a file, in whichever of the three usual forms, becomes a line feed. -/
def unifyLineEnds : List Char → List Char
  | [] => []
  | '\r' :: '\n' :: rest => '\n' :: unifyLineEnds rest
  | '\r' :: rest => '\n' :: unifyLineEnds rest
  | c :: rest => c :: unifyLineEnds rest

/-- A text that starts with another one, and what follows it there. -/
def dropStart? : List Char → List Char → Option (List Char)
  | [], s => some s
  | _ :: _, [] => none
  | p :: ps, c :: cs => if p = c then dropStart? ps cs else none

/-- The first text is a start of the second. -/
def startsWith (start s : List Char) : Bool := (dropStart? start s).isSome

/-- The first text is an end of the second. -/
def endsWith (tail s : List Char) : Bool := startsWith tail.reverse s.reverse

/-- Drops a character for as long as it stands at either end. -/
def trimChar (x : Char) (s : List Char) : List Char :=
  ((s.dropWhile (· == x)).reverse.dropWhile (· == x)).reverse

/-- Splits at the first occurrence of a separator, which is dropped; without one the
second part is empty. -/
def cutAt (sep : Char) (s : List Char) : List Char × List Char :=
  (s.takeWhile (· != sep), (s.dropWhile (· != sep)).drop 1)

/-- Puts a separator between the texts. -/
def joinWith (sep : List Char) (parts : List (List Char)) : List Char := sep.intercalate parts

end Rulebook.Text
