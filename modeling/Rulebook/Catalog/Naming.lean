import Rulebook.Text.Blank
import Rulebook.Text.Case

/-!
# Names of entities

Tables are named in the plural and in parts, models in the singular and in one word: `order_items`
becomes `OrderItem`. Resources keep their plural and join their parts with hyphens.
-/

namespace Rulebook.Naming

open Text

/-- The singular of a word, by its ending. -/
def singular (word : List Char) : List Char :=
  let small := lower word
  let ends (w : String) : Bool := endsWith w.toList small
  if ends "ies" && 3 < word.length then word.take (word.length - 3) ++ ['y']
  else if ends "sses" || ends "xes" || ends "ches" || ends "shes" || ends "uses" then
    word.take (word.length - 2)
  else if ends "s" && !ends "ss" then word.take (word.length - 1)
  else word

/-- A character that separates the parts of a name. -/
def separatesParts (c : Char) : Bool := c == '_' || c == '-' || isBlank c

/-- The parts of a name. -/
def parts (name : List Char) : List (List Char) := splitRuns separatesParts name

/-- A word with its first letter a capital. -/
def capitalized : List Char → List Char
  | [] => []
  | c :: rest => upperChar c ++ rest

/-- The parts of a name in one word, each with a capital. -/
def oneWord (name : List Char) : List Char := (parts name).flatMap capitalized

/-- Changes the last item of a list. -/
def mapLast (f : List Char → List Char) : List (List Char) → List (List Char)
  | [] => []
  | [p] => [f p]
  | p :: ps => p :: mapLast f ps

/-- The name of the model made from a table. -/
def modelName (table : String) : String :=
  match parts table.toList with
  | [] => table
  | ps => String.ofList (oneWord (joinWith ['_'] (mapLast singular ps)))

/-- The name of the entity made from a view. -/
def viewName (view : String) : String := String.ofList (oneWord view.toList)

/-- Replaces every run of separators by one hyphen; `inRun` tells that a run has begun. -/
def hyphenate (inRun : Bool) : List Char → List Char
  | [] => []
  | c :: rest =>
    if c == '_' || isBlank c then
      (if inRun then hyphenate true rest else '-' :: hyphenate true rest)
    else c :: hyphenate false rest

/-- The resource of a table or a view. -/
def resourceName (name : String) : String := String.ofList (lower (hyphenate false name.toList))

end Rulebook.Naming
