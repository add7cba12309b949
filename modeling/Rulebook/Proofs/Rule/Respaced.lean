import Mathlib.Logic.Relation
import Rulebook.Proofs.Rule.Renumbered
import Rulebook.Proofs.Rule.Sections
import Rulebook.Proofs.Text.Lines

/-!
# Blank lines, comments and indentation

Blank lines and comments can be put between any two lines of a document, and blanks around any line,
or taken away (`Respaced`). This changes the numbers of lines, but not what the lines say
(`Respaced.spoken_eq`), and reading goes by what the lines say. So the document is read as before,
in whatever state reading comes to the place: as the same rules, or with the same failure
(`Feature.read_respaced`).
-/

namespace Rulebook
open Text

/-! ## Spacing -/

/-- A blank line, or a comment. -/
def FeatureLine.Silent (line : List Char) : Prop := ∀ c ∈ (trim line).head?, c = '#'

instance (line : List Char) : Decidable (FeatureLine.Silent line) :=
  Option.decidableForallMem (trim line).head?

/-- A text of whole lines: nothing follows the end of the last one. -/
def Text.Ended (s : List Char) : Prop := ∀ c ∈ s.getLast?, isLineEnd c = true

instance (s : List Char) : Decidable (Ended s) := Option.decidableForallMem s.getLast?

/-- A text that does not go on with the line before it. -/
def Text.Breaks (s : List Char) : Prop := ∀ c ∈ s.head?, isLineEnd c = true

instance (s : List Char) : Decidable (Breaks s) := Option.decidableForallMem s.head?

open FeatureLine (Silent)

/-- One text is another one with a blank line or a comment put in front of a line or after all of
them, or with other blanks around a line. -/
inductive Respaced : List Char → List Char → Prop where
  | insert {before line ending after} :
    Ended before →
    OneLine line →
    Silent line →
    ending ≠ [] →
    (∀ c ∈ ending, isLineEnd c = true) →
    Respaced (before ++ after) (before ++ (line ++ (ending ++ after)))
  | indent {before line line' after} :
    Ended before →
    OneLine line →
    OneLine line' →
    trim line = trim line' →
    Breaks after →
    Respaced (before ++ (line ++ after)) (before ++ (line' ++ after))

/-! ## What lines say -/

namespace FeatureLine

/-- What a line is, unless it says nothing. -/
def said? (raw : List Char) : Option FeatureLine :=
  if FeatureLine.of raw = .nothing then none else some (FeatureLine.of raw)

/-- What the lines of a text say. -/
def spoken (text : List Char) : List FeatureLine := (lines text).filterMap said?

/-- A line that is nothing says nothing. -/
lemma said?_nothing {raw : List Char} (h : FeatureLine.of raw = .nothing) : said? raw = none :=
  if_pos h

/-- Any other line says what it is. -/
lemma said?_other {raw : List Char} (h : FeatureLine.of raw ≠ .nothing) :
    said? raw = some (FeatureLine.of raw) :=
  if_neg h

/-- An empty line says nothing. -/
lemma said?_nil : said? [] = none := rfl

/-- A blank line or a comment says nothing. -/
lemma said?_of_silent {line : List Char} (h : Silent line) : said? line = none := by
  refine said?_nothing ?_
  unfold FeatureLine.of
  cases hl : trim line with
  | nil => rfl
  | cons c rest =>
    obtain rfl : c = '#' := h c (by rw [hl]; rfl)
    rfl

/-- The end of a line says nothing, also where it is a half of an end. -/
lemma spoken_end {c : Char} (h : isLineEnd c = true) (s : List Char) :
    spoken (c :: s) = spoken s := by
  by_cases whole : c = '\r' → ∀ t, s ≠ '\n' :: t
  · rw [spoken, lines_end h whole, List.filterMap_cons_none said?_nil, spoken]
  · push Not at whole
    obtain ⟨rfl, t, rfl⟩ := whole
    rw [spoken, lines, spoken, lines_end (c := '\n') rfl (fun other => absurd other (by decide))]

/-- The ends of lines say nothing. -/
lemma spoken_ends {ending : List Char} (h : ∀ c ∈ ending, isLineEnd c = true) (s : List Char) :
    spoken (ending ++ s) = spoken s := by
  induction ending with
  | nil => rfl
  | cons c ending ih =>
    obtain ⟨hc, h⟩ := List.forall_mem_cons.1 h
    exact (spoken_end hc _).trans (ih h)

/-- What the first line says comes before what the others say. -/
lemma spoken_line {line : List Char} (one : OneLine line) {s : List Char} (hs : Breaks s) :
    spoken (line ++ s) = (said? line).toList ++ spoken s := by
  by_cases ne : line = []
  · subst ne
    rfl
  · have others : (lines s).tail.filterMap said? = spoken s := by
      cases s with
      | nil => rfl
      | cons c s =>
        rw [spoken, lines_of_isLineEnd (hs c rfl), List.filterMap_cons_none said?_nil]
        rfl
    rw [spoken, lines_append one ne hs, List.filterMap_cons, others]
    cases said? line <;> rfl

/-- What the lines of a text say comes before what the lines say that follow it. -/
lemma spoken_append {s : List Char} (h : Ended s) (t : List Char) :
    spoken (s ++ t) = spoken s ++ spoken t := by
  induction length : s.length using Nat.strong_induction_on generalizing s with
  | h n ih =>
    have whole := List.takeWhile_append_dropWhile (p := (!isLineEnd ·)) (l := s)
    have one : OneLine (s.takeWhile (!isLineEnd ·)) :=
      fun c hc => by simpa using List.mem_takeWhile_imp hc
    generalize s.takeWhile (!isLineEnd ·) = line at whole one
    cases rest : s.dropWhile (!isLineEnd ·) with
    | nil =>
      -- Without an end of a line there is no line in whole lines.
      rw [rest, List.append_nil] at whole
      subst whole
      obtain rfl : line = [] := by
        cases last : line.getLast? with
        | none => exact List.getLast?_eq_none_iff.1 last
        | some c =>
          have no_end := one c (List.mem_of_getLast? last)
          rw [h c last] at no_end
          cases no_end
      rfl
    | cons c r =>
      have ends : isLineEnd c = true := by
        have stop := List.head?_dropWhile_not (!isLineEnd ·) s
        rw [rest] at stop
        simpa using stop
      rw [rest] at whole
      subst whole
      have ended : Ended r := by
        intro d hd
        refine h d ?_
        rw [List.getLast?_append_cons, List.getLast?_cons, hd]
        rfl
      have shorter : r.length < n := by
        rw [← length, List.length_append, List.length_cons]
        omega
      have breaks (s : List Char) : Breaks (c :: s) := by
        rintro _ ⟨⟩
        exact ends
      rw [List.append_assoc, List.cons_append, spoken_line one (breaks _),
        spoken_line one (breaks _), spoken_end ends,
        spoken_end ends, ih _ shorter ended rfl, List.append_assoc]

end FeatureLine

open FeatureLine (spoken said? spoken_append spoken_line spoken_ends)

/-- Spacing does not change what the lines say. -/
lemma Respaced.spoken_eq {text text' : List Char} (h : Respaced text text') :
    spoken text = spoken text' := by
  cases h with
  | @insert before line ending after ended one silent ne ends =>
    have breaks : Breaks (ending ++ after) := by
      obtain ⟨c, ending, rfl⟩ := List.exists_cons_of_ne_nil ne
      rintro _ ⟨⟩
      exact ends c (.head _)
    rw [spoken_append ended, spoken_append ended, spoken_line one breaks,
      FeatureLine.said?_of_silent silent, spoken_ends ends]
    rfl
  | @indent before line line' after ended one one' same breaks =>
    have say : said? line = said? line' := by
      unfold FeatureLine.said?
      rw [FeatureLine.of_congr same]
    rw [spoken_append ended, spoken_append ended, spoken_line one breaks,
      spoken_line one' breaks, say]

namespace Respaced

/-- Lines make a text of whole lines. -/
lemma ended_unlines (ls : List (List Char)) : Ended (unlines ls) := by
  cases ls using List.reverseRecOn with
  | nil => nofun
  | append_singleton ls l =>
    have last : unlines (ls ++ [l]) = (unlines ls ++ l) ++ ['\n'] := by simp [unlines]
    rw [last, Ended, List.getLast?_concat]
    rintro _ ⟨⟩
    rfl

variable (above below : List (List Char)) {line line' : List Char}

/-- A blank line or a comment can be put between any two lines. -/
lemma between (one : OneLine line) (silent : Silent line) :
    Respaced (unlines (above ++ below)) (unlines (above ++ line :: below)) := by
  have spaced : Respaced (unlines above ++ unlines below) (unlines above ++
      (line ++ (['\n'] ++ unlines below))) :=
    .insert (ended_unlines above) one silent (List.cons_ne_nil _ _)
      (List.forall_mem_singleton.2 rfl)
  simpa [unlines] using spaced

/-- The blanks around any line can be changed. -/
lemma around (one : OneLine line) (one' : OneLine line') (same : trim line = trim line') :
    Respaced (unlines (above ++ line :: below)) (unlines (above ++ line' :: below)) := by
  have breaks : Breaks ('\n' :: unlines below) := by
    rintro _ ⟨⟩
    rfl
  have spaced := indent (ended_unlines above) one one' same breaks
  simpa [unlines] using spaced

end Respaced

/-! ## Reading -/

namespace Feature

/-- Lines that say nothing are passed over. -/
lemma foldlM_said (st : Setting) (n : ℕ) (ls : List (List Char)) : ∀ r,
    (ls.map FeatureLine.of).foldlM (readLine st n) r =
    (ls.filterMap said?).foldlM (readLine st n) r := by
  induction ls with
  | nil => intro r; rfl
  | cons l ls ih =>
    intro r
    rw [List.map_cons, List.foldlM_cons]
    by_cases silent : FeatureLine.of l = .nothing
    · rw [List.filterMap_cons_none (FeatureLine.said?_nothing silent), silent]
      exact ih r
    · rw [List.filterMap_cons_some (FeatureLine.said?_other silent), List.foldlM_cons]
      exact bind_congr fun r => ih r

/-- Blank lines, comments and indentation are neutral. However often blank lines and comments are
put into a document or taken out of it, and the blanks around its lines are changed, the document is
read as before but for the numbers of lines: as the same rules, or with the same failure. -/
theorem read_respaced {text text' : List Char} (h : Relation.EqvGen Respaced text text')
    (source : Option String) (default : String) :
    level (read text source default) = level (read text' source default) := by
  have same : spoken text = spoken text' := by
    induction h with
    | rel _ _ h => exact h.spoken_eq
    | refl => rfl
    | symm _ _ _ ih => exact ih.symm
    | trans _ _ _ _ _ ih ih' => exact ih.trans ih'
  rw [level_read, level_read, foldlM_said, foldlM_said]
  exact congrArg (fun ls => ls.foldlM (readLine ⟨source, default⟩ 1) {} >>= close ⟨source, default⟩)
    same

end Feature
namespace Waiting

/-- A document without any space. -/
def lines : List (List Char) := List.map String.toList [
  "Feature: Orders",
  "@target:orders @rule:Large",
  "Scenario: Large orders wait",
  "When any condition is met:",
  "| field | operator | value |",
  "| price | > | 99.50 |",
  "Then status is \"WAIT\"",
  "But otherwise status is \"SEND\""]

/-- The document with a comment before the feature, a blank line between the tags and their
scenario, and in the table a comment and a row that is indented. -/
def spaced : List (List Char) := List.map String.toList [
  "# The rules of the shop",
  "Feature: Orders",
  "@target:orders @rule:Large",
  "  ",
  "Scenario: Large orders wait",
  "When any condition is met:",
  "| field | operator | value |",
  "  # with taxes",
  "    | price | > | 99.50 |  ",
  "Then status is \"WAIT\"",
  "But otherwise status is \"SEND\""]

/-- What the document is read as, with the line of its scenario. -/
def feature (line : ℕ) : Feature where
  name := "Orders"
  rules := [
    { name := "Large"
      target := { name := "orders", domain := "default" }
      condition := .compound .any [
        { field := "price", operator := .gt, literal := .float (.ofScientific false 9950 (-2)),
          literalText := some "99.50" }]
      positive := "WAIT"
      negative := "SEND"
      description := some "Large orders wait"
      line := some line }]

/-- With spaces, the document is read as before but for the number of a line. -/
theorem spaced_read : Relation.EqvGen Respaced (unlines lines) (unlines spaced) ∧
    Feature.read (unlines lines) none "default" = .ok (feature 3) ∧
    Feature.level (.ok (feature 3)) =
    Feature.level (Feature.read (unlines spaced) none "default") := by
  have read : Feature.read (unlines lines) none "default" = .ok (feature 3) := by decide +kernel
  have top := Respaced.between [] lines (show OneLine "# The rules of the shop".toList by
    decide) (by decide)
  have gap := Respaced.between (spaced.take 3) (lines.drop 2) (show OneLine "  ".toList by
    decide) (by decide)
  have note := Respaced.between (spaced.take 7) (lines.drop 5)
    (show OneLine "  # with taxes".toList by decide)
    (by decide)
  have row := Respaced.around (spaced.take 8) (lines.drop 6)
    (show OneLine "| price | > | 99.50 |".toList by decide)
    (show OneLine "    | price | > | 99.50 |  ".toList by decide) (by decide)
  have all : Relation.EqvGen Respaced (unlines lines) (unlines spaced) :=
    .trans _ _ _ (.rel _ _ top)
      (.trans _ _ _ (.rel _ _ gap) (.trans _ _ _ (.rel _ _ note) (.rel _ _ row)))
  exact ⟨all, read, read ▸ Feature.read_respaced all none "default"⟩

end Waiting
end Rulebook
