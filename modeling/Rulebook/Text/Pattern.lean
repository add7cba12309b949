import Rulebook.Text.Blank
import Rulebook.Text.Word

/-!
# Ordered patterns

A pattern reads the start of a text and lists every way in which it can match there, the
preferred way first, each with the text that follows. Sequencing tries the ways of the first part
in their order, so the first way of a whole pattern is the one that prefers longer (or shorter)
parts from left to right.

Keywords match letters of either case; the dotted and dotless `i`, the long `s` and the Kelvin sign
count as case variants of `i`, `s` and `k`.
-/

namespace Rulebook.Text

/-- The ways to match the start of a text, preferred way first, each with what follows. -/
def Pattern (α : Type) : Type := List Char → List (α × List Char)

namespace Pattern

variable {α β : Type}

instance : Monad Pattern where
  pure a := fun s => [(a, s)]
  bind p f := fun s => (p s).flatMap fun (a, rest) => f a rest

/-- The ways of the first pattern, then those of the second. -/
def either (p q : Pattern α) : Pattern α := fun s => p s ++ q s

/-- The ways of each pattern of a list in turn. -/
def anyOf (ps : List (Pattern α)) : Pattern α := fun s => ps.flatMap fun p => p s

/-- The pattern if it matches, otherwise nothing. -/
def optional (p : Pattern α) : Pattern (Option α) := either (some <$> p) (pure none)

/-- One character of a kind. -/
def one (ok : Char → Bool) : Pattern Char
  | [] => []
  | c :: rest => if ok c then [(c, rest)] else []

/-- As many characters of a kind as possible. -/
def most (ok : Char → Bool) : Pattern (List Char)
  | [] => [([], [])]
  | c :: rest =>
    if ok c then (most ok rest).map (fun (cs, r) => (c :: cs, r)) ++ [([], c :: rest)]
    else [([], c :: rest)]

/-- All characters of a kind that follow; none is given back to what comes after. -/
def run (ok : Char → Bool) : Pattern (List Char) := fun s => [(s.takeWhile ok, s.dropWhile ok)]

/-- All characters of a kind that follow, of which there is at least one. -/
def run1 (ok : Char → Bool) : Pattern (List Char) := do
  let c ← one ok
  let cs ← run ok
  pure (c :: cs)

/-- Repeats a pattern as often as possible, at most `fuel` times and only while it
consumes something. -/
def manyUpTo (p : Pattern α) : Nat → Pattern (List α)
  | 0 => fun s => [([], s)]
  | fuel + 1 => fun s =>
    ((p s).flatMap fun (a, rest) =>
      if rest.length < s.length then (manyUpTo p fuel rest).map fun (as, r) =>
        (a :: as, r) else []) ++
    [([], s)]

/-- Repeats a pattern as often as possible. -/
def many (p : Pattern α) : Pattern (List α) := fun s => manyUpTo p s.length s

/-- A given character. -/
def char (c : Char) : Pattern Char := one (· == c)

/-- A given text. -/
def exactly (w : List Char) : Pattern Unit := fun s =>
  match dropStart? w s with
  | some rest => [((), rest)]
  | none => []

/-- Two characters are one letter up to case; the first is a small letter of ASCII or no letter. -/
def sameLetter (l c : Char) : Bool :=
  c == l ||
  ('a' ≤ l && l ≤ 'z' &&
    (c.toNat + 32 == l.toNat ||
      (l == 'i' && (c.toNat == 0x130 || c.toNat == 0x131)) ||
      (l == 's' && c.toNat == 0x17F) ||
      (l == 'k' && c.toNat == 0x212A)))

/-- A letter of ASCII, or one that counts as a case variant of such a letter. -/
def isLetterUpToCase (c : Char) : Bool :=
  isAsciiLetter c || c.toNat == 0x130 || c.toNat == 0x131 || c.toNat == 0x17F || c.toNat == 0x212A

/-- A keyword given in small letters, in any case. -/
def keyword : List Char → Pattern Unit
  | [] => pure ()
  | l :: ls => do
    let _ ← one (sameLetter l)
    keyword ls

/-- A keyword given as a string of small letters. -/
def kw (w : String) : Pattern Unit := keyword w.toList

/-- All blanks that follow. -/
def blanks : Pattern (List Char) := run isBlank

/-- All blanks that follow, of which there is at least one. -/
def gap : Pattern (List Char) := run1 isBlank

/-- After a word character: no word character follows. -/
def wordEnd : Pattern Unit := fun s =>
  match s with
  | [] => [((), s)]
  | c :: _ => if isWord c then [] else [((), s)]

/-- The end of the text, or the line feed that ends it. -/
def atEnd : Pattern Unit := fun s => if s == [] || s == ['\n'] then [((), s)] else []

/-- The text that a pattern matches. -/
def taken (p : Pattern α) : Pattern (List Char) := fun s =>
  (p s).map fun (_, rest) => (s.take (s.length - rest.length), rest)

/-- All that is left. -/
def everything : Pattern (List Char) := fun s => [(s, [])]

/-- All that is left, and at least one character. -/
def remainder : Pattern (List Char) := fun s => if s.isEmpty then [] else [(s, [])]

/-- The preferred way to match the start of a text. -/
def first? (p : Pattern α) (s : List Char) : Option (α × List Char) := (p s).head?

/-- The pattern matches the start of the text. -/
def matchesStart (p : Pattern α) (s : List Char) : Bool := (p.first? s).isSome

/-- What a pattern found, and the offsets of its first character and of the first one after it. -/
structure Found (α : Type) where
  value : α
  start : Nat
  stop : Nat

/-- Where a search may begin a match: anywhere, or only where no word character stands before. -/
inductive Begin where
  | anywhere
  | wordStart

/-- A match may begin after the given character. -/
def Begin.allows : Begin → Option Char → Bool
  | .anywhere, _ => true
  | .wordStart, none => true
  | .wordStart, some c => !isWord c

/-- The leftmost match in `s`, which starts at offset `pos` and is preceded by `before`. -/
def searchFrom (p : Pattern α) (b : Begin) :
    Option Char → Nat → List Char → Option (Found α × List Char)
  | before, pos, s =>
    match (if b.allows before then p.first? s else none) with
    | some (a, rest) => some (⟨a, pos, pos + (s.length - rest.length)⟩, rest)
    | none =>
      match s with
      | [] => none
      | c :: cs => searchFrom p b (some c) (pos + 1) cs
termination_by _ _ s => s.length

/-- The leftmost match. -/
def search? (p : Pattern α) (b : Begin) (s : List Char) : Option (Found α) :=
  (searchFrom p b none 0 s).map (·.1)

/-- The matches from left to right, each searched for after the end of the one before. -/
def findAllFrom (p : Pattern α) (b : Begin) : Nat → Option Char → Nat → List Char → List (Found α)
  | 0, _, _, _ => []
  | fuel + 1, before, pos, s =>
    match searchFrom p b before pos s with
    | none => []
    | some (f, rest) =>
      if f.stop = f.start then
        match rest with
        | [] => [f]
        | c :: cs => f :: findAllFrom p b fuel (some c) (f.stop + 1) cs
      else
        let last := (s.drop (f.stop - pos - 1)).head?
        f :: findAllFrom p b fuel last f.stop rest

/-- As few characters as possible before a match of the pattern, and that match. -/
def before (p : Pattern α) : Pattern (List Char × α) := fun s =>
  match searchFrom p .anywhere none 0 s with
  | some (f, rest) => [((s.take f.start, f.value), rest)]
  | none => []

/-- All matches from left to right that do not overlap. -/
def findAll (p : Pattern α) (b : Begin) (s : List Char) : List (Found α) :=
  findAllFrom p b (s.length + 1) none 0 s

end Pattern
end Rulebook.Text
