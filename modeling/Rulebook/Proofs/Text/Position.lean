import Mathlib.Data.List.Infix
import Rulebook.Text.Position

/-!
# Lines and columns tell offsets apart

Between two offsets of one line no line feed stands, so that the columns are as far apart as the
offsets are (`columnAt_append`). An offset is therefore known by its line and column
(`offset_unique`).
-/

namespace Rulebook.Text

variable {s t : List Char}

/-- Within a line, the column goes on. -/
lemma sinceLineFeed_inLine (h : '\n' ∉ t) :
    sinceLineFeed (s ++ t) = sinceLineFeed s + t.length := by
  have inLine : ∀ c ∈ t.reverse, (c != '\n') = true := by
    intro c hc
    rw [bne_iff_ne]
    rintro rfl
    exact h (List.mem_reverse.1 hc)
  rw [sinceLineFeed, List.reverse_append, List.takeWhile_append_of_pos inLine, List.length_append,
    List.length_reverse, Nat.add_comm, sinceLineFeed]

/-- Further on in the same line an offset has the greater column, by as much. -/
lemma columnAt_add {i k : Nat} (h : '\n' ∉ (s.drop i).take k) :
    columnAt s (i + k) = columnAt s i + k := by
  have length : ((s.drop i).take k).length = min k (s.length - i) := by
    rw [List.length_take, List.length_drop]
  rw [columnAt, List.take_add, sinceLineFeed_inLine h, length, columnAt]
  omega

/-- Lines and columns are counted by line feeds, whatever the other characters are. -/
lemma position_of_lineFeeds {i : Nat}
    (taken : (s.take i).map (· == '\n') = (t.take i).map (· == '\n'))
    (length : s.length = t.length) : lineAt s i = lineAt t i ∧ columnAt s i = columnAt t i := by
  have feeds (r : List Char) : r.count '\n' = (r.map (· == '\n')).count true := by
    rw [List.count, List.count, List.countP_map]
    congr 1
    funext c
    simp
  have since (r : List Char) :
      sinceLineFeed r = ((r.map (· == '\n')).reverse.takeWhile (!·)).length := by
    rw [sinceLineFeed, ← List.map_reverse, List.takeWhile_map, List.length_map]
    rfl
  rw [lineAt, lineAt, columnAt, columnAt, feeds, feeds, since, since, taken, length]
  exact ⟨rfl, rfl⟩

/-- One line and column belong to one offset. -/
lemma offset_unique {i j : Nat} (line : lineAt s i = lineAt s j)
    (column : columnAt s i = columnAt s j) : i = j := by
  wlog h : i ≤ j generalizing i j
  · exact (this line.symm column.symm (by omega)).symm
  · obtain ⟨k, rfl⟩ := Nat.exists_eq_add_of_le h
    have inLine : '\n' ∉ (s.drop i).take k := by
      rw [lineAt, lineAt, List.take_add, List.count_append] at line
      exact List.count_eq_zero.1 (by omega)
    rw [columnAt_add inLine] at column
    omega

end Rulebook.Text
