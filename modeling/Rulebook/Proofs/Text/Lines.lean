import Mathlib.Data.List.TakeWhile
import Rulebook.Proofs.Text.Blank

/-!
# Replacing a line

Another line can be put in the place of a line of a text (`replaceLine`), whatever the lines of the
text end with. If it holds no end of a line itself, it is the line there, and the other lines are as
they were (`lines_replaceLine`).
-/

namespace Rulebook.Text

/-- Puts another line in the place of one, the first line being that of number
zero; its end is kept. -/
def replaceLine (new : List Char) : ℕ → List Char → List Char
  | _, [] => []
  | 0, s => new ++ s.dropWhile (!isLineEnd ·)
  | k + 1, '\r' :: '\n' :: rest => '\r' :: '\n' :: replaceLine new k rest
  | k + 1, c :: rest => c :: replaceLine new (if isLineEnd c then k else k + 1) rest

/-- What begins with the end of a line begins with an empty line. -/
lemma lines_of_isLineEnd {c : Char} (h : isLineEnd c = true) (s : List Char) :
    lines (c :: s) = [] :: (lines (c :: s)).tail := by
  rw [lines.eq_def]
  split
  · rename_i eq; cases eq
  · rfl
  · rename_i eq
    cases eq
    simp [h]

/-- The end of a line ends one, if it is not the first half of an end. -/
lemma lines_end {c : Char} (h : isLineEnd c = true) {s : List Char}
    (whole : c = '\r' → ∀ t, s ≠ '\n' :: t) :
    lines (c :: s) = [] :: lines s := by
  rw [lines.eq_def]
  split
  · rename_i eq; cases eq
  · rename_i eq
    cases eq
    exact absurd rfl (whole rfl _)
  · rename_i eq
    cases eq
    simp [h]

/-- A character that does not end a line begins the first one. -/
lemma lines_of_not_isLineEnd {c : Char} (h : isLineEnd c = false) (s : List Char) :
    lines (c :: s) = match lines s with
      | [] => [[c]]
      | line :: more => (c :: line) :: more := by
  rw [lines.eq_def]
  split
  · rename_i eq; cases eq
  · rename_i eq
    cases eq
    cases h
  · rename_i eq
    cases eq
    simp only [h]
    cases lines s <;> rfl

/-- There is a line in every text that is not empty. -/
lemma exists_lines (c : Char) (s : List Char) : ∃ l more, lines (c :: s) = l :: more := by
  cases hc : isLineEnd c with
  | true => exact ⟨[], _, lines_of_isLineEnd hc s⟩
  | false =>
    rw [lines_of_not_isLineEnd hc]
    cases lines s with
    | nil => exact ⟨_, _, rfl⟩
    | cons l more => exact ⟨_, _, rfl⟩

/-- A line goes up to the first end of a line. -/
lemma lines_append {l s : List Char} (hl : OneLine l) (ne : l ≠ [])
    (hs : ∀ c ∈ s.head?, isLineEnd c = true) :
    lines (l ++ s) = l :: (lines s).tail := by
  induction l with
  | nil => exact absurd rfl ne
  | cons c l ih =>
    obtain ⟨hc, hl⟩ := oneLine_cons.1 hl
    rw [List.cons_append, lines_of_not_isLineEnd hc]
    cases l with
    | nil =>
      cases s with
      | nil => rfl
      | cons e s =>
        rw [List.nil_append, lines_of_isLineEnd (hs e rfl)]
        rfl
    | cons d l => rw [ih hl (List.cons_ne_nil d l)]

/-- Putting another first line leaves the other lines. -/
lemma lines_first {new : List Char} (one : OneLine new) (ne : new ≠ []) (s : List Char) :
    lines (new ++ s.dropWhile (!isLineEnd ·)) = new :: (lines s).tail := by
  have stop : ∀ c ∈ (s.dropWhile (!isLineEnd ·)).head?, isLineEnd c = true := by
    intro c hc
    have stop := List.head?_dropWhile_not (!isLineEnd ·) s
    rw [Option.mem_def.1 hc] at stop
    simpa using stop
  rw [lines_append one ne stop]
  congr 1
  cases hfirst : s.takeWhile (!isLineEnd ·) with
  | nil =>
    have whole := List.takeWhile_append_dropWhile (p := (!isLineEnd ·)) (l := s)
    rw [hfirst, List.nil_append] at whole
    rw [whole]
  | cons c l =>
    have first : OneLine (c :: l) := by
      intro d hd
      rw [← hfirst] at hd
      simpa using List.mem_takeWhile_imp hd
    have whole := List.takeWhile_append_dropWhile (p := (!isLineEnd ·)) (l := s)
    rw [hfirst] at whole
    conv_rhs => rw [← whole, lines_append first (List.cons_ne_nil c l) stop]
    rfl

/-- No line feed comes to stand in front. -/
lemma replaceLine_feed {new : List Char} (one : OneLine new) (ne : new ≠ [])
    {k : ℕ} {s t : List Char} (h : replaceLine new k s = '\n' :: t) : ∃ t', s = '\n' :: t' := by
  revert h
  fun_cases replaceLine new k s with
  | case1 => nofun
  | case2 hs =>
    obtain ⟨c, new, rfl⟩ := List.exists_cons_of_ne_nil ne
    intro h
    cases h
    cases (oneLine_cons.1 one).1
  | case3 k rest => nofun
  | case4 k c rest other =>
    intro h
    cases h
    exact ⟨rest, rfl⟩

/-- The line that is put in the place of another one is the line there. -/
lemma lines_replaceLine {new : List Char} (one : OneLine new) (ne : new ≠ [])
    (k : ℕ) (s : List Char) :
    lines (replaceLine new k s) = (lines s).set k new := by
  fun_induction replaceLine new k s with
  | case1 => rfl
  | case2 s hs =>
    obtain ⟨c, s, rfl⟩ := List.exists_cons_of_ne_nil hs
    obtain ⟨l, more, hl⟩ := exists_lines c s
    rw [lines_first one ne, hl]
    rfl
  | case3 k rest ih =>
    rw [lines, ih]
    rfl
  | case4 k c rest other ih =>
    cases hc : isLineEnd c with
    | true =>
      rw [hc] at ih
      have before : c = '\r' → ∀ t, rest ≠ '\n' :: t := fun first t feed => other t first feed
      have after : c = '\r' → ∀ t, replaceLine new k rest ≠ '\n' :: t := by
        intro first t feed
        obtain ⟨t, feed⟩ := replaceLine_feed one ne feed
        exact before first t feed
      rw [lines_end hc before]
      show lines (c :: replaceLine new k rest) = _
      rw [lines_end hc after]
      exact congrArg ([] :: ·) ih
    | false =>
      rw [hc] at ih
      rw [lines_of_not_isLineEnd hc, lines_of_not_isLineEnd hc, ih]
      cases lines rest <;> rfl

/-- No line holds the end of a line. -/
lemma oneLine_of_mem_lines {l s : List Char} (h : l ∈ lines s) : OneLine l := by
  fun_induction lines s generalizing l with
  | case1 => cases h
  | case2 rest ih =>
    obtain rfl | h := List.mem_cons.1 h
    · exact oneLine_nil
    · exact ih h
  | case3 c rest other hc ih =>
    obtain rfl | h := List.mem_cons.1 h
    · exact oneLine_nil
    · exact ih h
  | case4 c rest other hc none ih =>
    cases List.mem_singleton.1 h
    exact oneLine_cons.2 ⟨by simpa using hc, oneLine_nil⟩
  | case5 c rest other hc line more eq ih =>
    rw [eq, List.forall_mem_cons] at ih
    obtain rfl | h := List.mem_cons.1 h
    · exact oneLine_cons.2 ⟨by simpa using hc, ih.1⟩
    · exact ih.2 _ h

end Rulebook.Text
