import Rulebook.Proofs.Rule.Phrases

/-!
# What the lines of a document are

Every line of a laid out document is one line (`Document.oneLine`), and is what it was laid out
as: tags (`of_tags`), a heading (`of_feature`, `of_scenario`), a step (`of_step`) or a row of a
table (`of_barred`).
-/

namespace Rulebook.Layout
open Text Pattern Number

/-! ## One line each -/

/-- A solid text is one line. -/
lemma oneLine_of_solid {s : List Char} (h : Solid s) : OneLine s := oneLine_of_not_isBlank h.2

/-- A constant is written in one line. -/
lemma Constant.oneLine (c : Constant) : OneLine c.written := by
  cases c with
  | text s h => exact oneLine_cons.2 ⟨rfl, oneLine_append.2 ⟨h, by decide⟩⟩
  | bool b => cases b <;> decide
  | int s h => exact oneLine_of_not_isBlank (not_isBlank_of_isIntegerShape h)
  | decimal s h => exact oneLine_of_not_isBlank (Decimal.not_isBlank_of_isFloatShape h)

/-- A line stays one when it is indented. -/
lemma oneLine_indent (n : Nat) {line : List Char} (h : OneLine line) : OneLine (indent n line) := by
  refine oneLine_append.2 ⟨fun c hc => ?_, h⟩
  cases List.eq_of_mem_replicate hc
  rfl

/-- Texts with a space between them are in one line. -/
lemma oneLine_spaced {s t : List Char} (hs : OneLine s) (ht : OneLine t) :
    OneLine (s ++ ' ' :: t) :=
  oneLine_append.2 ⟨hs, oneLine_cons.2 ⟨rfl, ht⟩⟩

/-- Cells in one line each make a row in one line. -/
lemma oneLine_barred {cells : List (List Char)} (h : ∀ cell ∈ cells, OneLine cell) :
    OneLine (barred cells) := by
  refine oneLine_cons.2 ⟨rfl, fun c hc => ?_⟩
  obtain ⟨cell, hcell, hc⟩ := List.mem_flatMap.1 hc
  exact oneLine_cons.2 ⟨rfl, oneLine_append.2 ⟨h cell hcell, by decide⟩⟩ c hc

/-- Words in one line each make one line. -/
lemma oneLine_joinWith {ws : List (List Char)} (h : ∀ w ∈ ws, OneLine w) :
    OneLine (joinWith [' '] ws) := by
  induction ws with
  | nil => exact oneLine_nil
  | cons w ws ih =>
    obtain ⟨hw, hws⟩ := List.forall_mem_cons.1 h
    cases ws with
    | nil => simpa [joinWith] using hw
    | cons v ws =>
      rw [joinWith_cons_cons]
      exact oneLine_spaced hw (ih hws)

/-- Every cell of a row is one line. -/
lemma Row.oneLine (r : Row) : ∀ cell ∈ r.cells, OneLine cell := by
  simpa [cells] using ⟨r.field.oneLine, r.spelling.plain.oneLine, r.constant.oneLine⟩

/-- The lines of a table are one line each. -/
lemma oneLine_tableLines (rows : List Row) : ∀ l ∈ tableLines rows, OneLine l := by
  intro l hl
  obtain ⟨cells, hc, rfl⟩ := List.mem_map.1 hl
  refine oneLine_indent 6 (oneLine_barred ?_)
  obtain rfl | hc := List.mem_cons.1 hc
  · decide
  · obtain ⟨r, -, rfl⟩ := List.mem_map.1 hc
    exact r.oneLine

/-- A step is one line if its word and its body are. -/
lemma oneLine_stepLine {word : String} (hw : OneLine word.toList) {body : List Char}
    (h : OneLine body) :
    OneLine (stepLine word body) :=
  oneLine_indent 4 (oneLine_spaced hw h)

/-- The lines of a requirement are one line each. -/
lemma Group.oneLine {word : String} (hw : OneLine word.toList) (g : Group) :
    ∀ l ∈ g.lines word, OneLine l := by
  have body : OneLine g.body :=
    oneLine_spaced (oneLine_of_solid (Category.solid g.category))
      (oneLine_spaced (by decide) (by decide))
  exact List.forall_mem_cons.2 ⟨oneLine_stepLine hw body, oneLine_tableLines g.rows⟩

/-- The lines of all requirements are one line each. -/
lemma oneLine_groupLines (gs : List Group) : ∀ l ∈ groupLines gs, OneLine l := by
  cases gs with
  | nil => nofun
  | cons g gs =>
    refine List.forall_mem_append.2 ⟨g.oneLine (by decide), fun l hl => ?_⟩
    obtain ⟨h, -, hl⟩ := List.mem_flatMap.1 hl
    exact h.oneLine (by decide) l hl

/-- The lines of a main condition are one line each. -/
lemma Main.oneLine (m : Main) : ∀ l ∈ m.lines, OneLine l := by
  refine List.forall_mem_cons.2 ⟨oneLine_stepLine (by decide) ?_, ?_⟩
  · cases m with
    | single field spelling constant =>
      exact oneLine_spaced (oneLine_of_solid (FieldName.solid field))
        (oneLine_spaced spelling.plain.oneLine constant.oneLine)
    | table logic rows ne => cases logic <;> exact oneLine_spaced (by decide) (by decide)
  · cases m with
    | single => nofun
    | table logic rows ne => exact oneLine_tableLines rows

/-- The body of the step for a status is one line. -/
lemma Status.oneLine_body (s : Status) : OneLine s.body :=
  oneLine_spaced (by decide)
    (oneLine_spaced (by decide) (oneLine_cons.2 ⟨rfl, oneLine_append.2 ⟨s.oneLine, by decide⟩⟩))

/-- A word behind a key is a word. -/
lemma Word.keyed (w : Word) {key : List Char} (h : Solid key) : Solid (key ++ w.text) :=
  ⟨by simp [h.1], List.forall_mem_append.2 ⟨h.2, w.solid.2⟩⟩

/-- Tags are words. -/
lemma Scenario.solid_tags (s : Scenario) : ∀ tag ∈ s.tags, Solid tag := by
  have closed : Solid "target:".toList ∧ Solid "rule:".toList ∧ Solid "domain:".toList ∧
      Solid "blocking".toList ∧ Solid "view".toList := by decide
  obtain ⟨target, rule, domain, blocking, view⟩ := closed
  simp only [tags, List.forall_mem_append, List.forall_mem_cons]
  refine ⟨⟨⟨⟨s.target.keyed target, s.name.keyed rule, nofun⟩, fun tag h => ?_⟩, fun tag h => ?_⟩,
    fun tag h => ?_⟩
  · obtain ⟨w, -, rfl⟩ := Option.map_eq_some_iff.1 (Option.mem_toList.1 h)
    exact w.keyed domain
  · split at h
    · cases List.mem_singleton.1 h
      exact blocking
    · cases h
  · split at h
    · cases h
    · cases List.mem_singleton.1 h
      exact view

/-- The lines of a scenario are one line each. -/
lemma Scenario.oneLine (s : Scenario) : ∀ l ∈ s.lines, OneLine l := by
  have tags : ∀ w ∈ s.tags.map ('@' :: ·), OneLine w := by
    intro w hw
    obtain ⟨tag, htag, rfl⟩ := List.mem_map.1 hw
    exact oneLine_cons.2 ⟨rfl, oneLine_of_solid (s.solid_tags tag htag)⟩
  simp only [lines, List.forall_mem_cons, List.forall_mem_append]
  exact ⟨oneLine_nil, oneLine_indent 2 (oneLine_joinWith tags),
    oneLine_indent 2 (oneLine_spaced (by decide) s.title.oneLine),
    ⟨oneLine_groupLines s.groups, s.main.oneLine⟩,
    oneLine_stepLine (by decide) s.positive.oneLine_body,
    oneLine_stepLine (by decide) (oneLine_spaced (by decide) s.negative.oneLine_body), nofun⟩

/-- A document is laid out in lines. -/
lemma Document.oneLine (d : Document) : ∀ l ∈ d.lines, OneLine l := by
  refine List.forall_mem_append.2 ⟨List.forall_mem_append.2 ⟨fun l hl => ?_, ?_⟩, fun l hl => ?_⟩
  · obtain ⟨w, -, rfl⟩ := Option.map_eq_some_iff.1 (Option.mem_toList.1 hl)
    exact oneLine_cons.2 ⟨rfl, oneLine_append.2 ⟨by decide, oneLine_of_solid w.solid⟩⟩
  · exact List.forall_mem_singleton.2 (oneLine_spaced (by decide) d.name.oneLine)
  · obtain ⟨s, -, hl⟩ := List.mem_flatMap.1 hl
    exact s.oneLine l hl

/-! ## Headings, tags and steps -/

/-- Indenting a line changes nothing of what is left when it is trimmed. -/
lemma trim_indent (n : Nat) (line : List Char) : trim (indent n line) = trim line := by
  induction n with
  | zero => rfl
  | succ n ih => rw [indent, List.replicate_succ, List.cons_append, trim_cons rfl, ← indent, ih]

/-- What a line is does not depend on how far it is indented. -/
lemma of_indent (n : Nat) (line : List Char) :
    FeatureLine.of (indent n line) = FeatureLine.of line := by
  unfold FeatureLine.of
  rw [trim_indent]

/-- A line is not unsupported if it begins with something else. -/
lemma supported {w : List Char}
    (h : ∀ start ∈ FeatureLine.unsupportedStarts, (start.zip w).any (fun x => x.1 != x.2) = true)
    (r : List Char) :
    (FeatureLine.unsupportedStarts.any fun start => startsWith start (w ++ r)) = false := by
  rw [List.any_eq_false]
  intro start hs
  rw [startsWith, dropStart?_eq_none (h start hs)]
  decide

/-- The characters that tell a line that is a comment, a row or tags. -/
def isMark (c : Char) : Bool := c == '#' || c == '|' || c == '@'

/-- What a line without such a mark is depends on its first word. -/
lemma of_word {line w r : List Char} (trimmed : trim line = w ++ r)
    (mark : w.head?.all (!isMark ·) = true) (ne : w ≠ [])
    (other : ∀ start ∈ FeatureLine.unsupportedStarts,
      (start.zip w).any (fun x => x.1 != x.2) = true) :
    FeatureLine.of line = match dropStart? "Feature:".toList (w ++ r),
    dropStart? "Scenario:".toList (w ++ r),
        FeatureLine.step? (w ++ r) with
      | some title, _, _ => .feature (trim title)
      | none, some title, _ => .scenario (trim title)
      | none, none, some (word, body) => .step word body
      | none, none, none => .other (w ++ r) := by
  obtain ⟨c, w, rfl⟩ := List.exists_cons_of_ne_nil ne
  have hc : (c ≠ '#' ∧ c ≠ '|') ∧ c ≠ '@' := by simpa [isMark] using mark
  have h := supported other r
  rw [List.cons_append] at trimmed h ⊢
  unfold FeatureLine.of
  simp only [trimmed]
  split
  · rename_i h; cases h
  · rename_i h; cases h; exact absurd rfl hc.1.1
  · rename_i h; cases h; exact absurd rfl hc.1.2
  · rename_i h'
    cases h'
    exact (if_neg (by rw [h]; decide)).trans (if_neg (by simpa using hc.2))

/-- The heading of a feature is read. -/
lemma of_feature (t : Title) :
    FeatureLine.of ("Feature:".toList ++ ' ' :: t.text) = .feature t.text := by
  have trimmed := trim_joined (by decide) t.trimmed (a := "Feature:".toList)
    (by decide) t.ne_nil ' '
  rw [of_word trimmed (by decide) (by decide) (by decide), dropStart?_append]
  exact congrArg FeatureLine.feature ((trim_cons rfl _).trans t.trimmed)

/-- The heading of a scenario is read. -/
lemma of_scenario (t : Title) :
    FeatureLine.of ("Scenario:".toList ++ ' ' :: t.text) = .scenario t.text := by
  have trimmed := trim_joined (by decide) t.trimmed (a := "Scenario:".toList)
    (by decide) t.ne_nil ' '
  rw [of_word trimmed (by decide) (by decide) (by decide), dropStart?_append,
    dropStart?_eq_none (by decide)]
  exact congrArg FeatureLine.scenario ((trim_cons rfl _).trans t.trimmed)

/-- A line that begins with the word of a step is this step. -/
lemma step?_word {p : String × StepWord} (listed : p ∈ StepWord.spellings) (body : List Char) :
    FeatureLine.step? (p.1.toList ++ ' ' :: body) = some (p.2, trim body) := by
  simp only [StepWord.spellings, List.mem_cons, List.not_mem_nil, or_false] at listed
  obtain rfl | rfl | rfl | rfl | rfl := listed <;> rfl

/-- A step is read. -/
lemma of_step {p : String × StepWord} (listed : p ∈ StepWord.spellings) {body : List Char}
    (trimmed : trim body = body) (ne : body ≠ []) :
    FeatureLine.of (stepLine p.1 body) = .step p.2 body := by
  have all : ∀ p ∈ StepWord.spellings,
      (trim p.1.toList = p.1.toList ∧ p.1.toList.head?.all (!isMark ·) = true ∧
      p.1.toList ≠ []) ∧
      ∀ start ∈ "Feature:".toList :: "Scenario:".toList :: FeatureLine.unsupportedStarts,
        (start.zip p.1.toList).any (fun x => x.1 != x.2) = true := by decide +kernel
  obtain ⟨⟨word, mark, ne_word⟩, others⟩ := all p listed
  obtain ⟨feature, others⟩ := List.forall_mem_cons.1 others
  obtain ⟨scenario, other⟩ := List.forall_mem_cons.1 others
  rw [stepLine, of_indent, of_word (trim_joined word trimmed ne_word ne ' ') mark ne_word other,
    dropStart?_eq_none feature, dropStart?_eq_none scenario, step?_word listed, trimmed]

/-- Tags are read. -/
lemma of_tags {tags : List (List Char)} (ne : tags ≠ []) (h : ∀ tag ∈ tags, Solid tag) :
    FeatureLine.of (joinWith [' '] (tags.map ('@' :: ·))) = .tags (tags.map ('@' :: ·)) := by
  have solid : ∀ w ∈ tags.map ('@' :: ·), Solid w := by
    intro w hw
    obtain ⟨tag, htag, rfl⟩ := List.mem_map.1 hw
    exact ⟨List.cons_ne_nil _ _, List.forall_mem_cons.2 ⟨rfl, (h tag htag).2⟩⟩
  have trimmed := trim_joinWith solid ' '
  have apart := words_joinWith solid
  have first : ∃ r, joinWith [' '] (tags.map ('@' :: ·)) = '@' :: r := by
    match tags with
    | [] => exact absurd rfl ne
    | [tag] => exact ⟨tag, by simp [joinWith]⟩
    | tag :: t :: ts => exact ⟨_, joinWith_cons_cons _ _ _ _⟩
  obtain ⟨r, hr⟩ := first
  rw [hr] at trimmed apart ⊢
  have h : (FeatureLine.unsupportedStarts.any fun start => startsWith start ('@' :: r)) = false :=
    supported (w := ['@']) (by decide) r
  rw [← apart]
  unfold FeatureLine.of
  simp only [trimmed]
  split
  · rename_i h; cases h
  · rename_i h; cases h
  · rename_i h; cases h
  · rename_i h'
    cases h'
    exact (if_neg (by rw [h]; decide)).trans (if_pos rfl)

/-! ## Rows -/

/-- A cell with the spaces around it. -/
def padded (cell : List Char) : List Char := ' ' :: (cell ++ [' '])

/-- Padding a cell changes nothing of what is left when it is trimmed. -/
lemma trim_padded (cell : List Char) : trim (padded cell) = trim cell := by
  rw [padded, trim_cons rfl, trim_concat rfl]

/-- Bars stand around the cells and between them. -/
lemma barred_eq {cells : List (List Char)} (ne : cells ≠ []) :
    barred cells = '|' :: (joinWith ['|'] (cells.map padded) ++ ['|']) := by
  rw [barred]
  congr 1
  induction cells with
  | nil => exact absurd rfl ne
  | cons cell cells ih =>
    cases cells with
    | nil => simp [joinWith, padded]
    | cons next cells =>
      rw [List.flatMap_cons, ih (List.cons_ne_nil next cells), List.map_cons,
        List.map_cons, List.map_cons, joinWith_cons_cons]
      simp [padded]

/-- Cells that are joined begin and end with spaces. -/
lemma ends_of_joined {cells : List (List Char)} (ne : cells ≠ []) :
    (joinWith ['|'] (cells.map padded)).head? = some ' ' ∧
    (joinWith ['|'] (cells.map padded)).getLast? = some ' ' := by
  induction cells with
  | nil => exact absurd rfl ne
  | cons cell cells ih =>
    cases cells with
    | nil =>
      rw [List.map_singleton, joinWith, List.intercalate_singleton]
      exact ⟨rfl, by rw [padded, ← List.cons_append, List.getLast?_concat]⟩
    | cons next cells =>
      obtain ⟨first, last⟩ := ih (List.cons_ne_nil next cells)
      rw [List.map_cons, List.map_cons, joinWith_cons_cons, ← List.map_cons]
      refine ⟨rfl, ?_⟩
      rw [List.getLast?_append_cons, List.getLast?_cons, last]
      rfl

/-- Cells between bars are read, without the blanks around them. -/
lemma of_barred_trim {cells : List (List Char)} (ne : cells ≠ []) (h : ∀ cell ∈ cells, '|' ∉ cell) :
    FeatureLine.of (barred cells) = .row (cells.map trim) := by
  obtain ⟨first, last⟩ := ends_of_joined ne
  have space : ∀ c ∈ some ' ', c ≠ '|' := by
    rintro _ ⟨⟩
    decide
  have no_bar : ∀ p ∈ cells.map padded, ∀ c ∈ p, (c == '|') = false := by
    intro p hp c hc
    obtain ⟨cell, hcell, rfl⟩ := List.mem_map.1 hp
    have cases : c = ' ' ∨ c ∈ cell := by simpa [padded, or_comm, or_assoc] using hc
    obtain rfl | hc := cases
    · rfl
    · simpa using fun hbar : c = '|' => h cell hcell (hbar ▸ hc)
  have read : FeatureLine.cells (barred cells) = cells.map trim := by
    rw [FeatureLine.cells, barred_eq ne, trimChar_between (by rwa [first]) (by rwa [last]),
      splitOn_joinWith (by rfl) (by simpa using ne) no_bar, List.map_map]
    exact List.map_congr_left fun cell _ => trim_padded cell
  have trimmed : trim (barred cells) = barred cells := by
    rw [barred_eq ne]
    exact trim_eq_self_iff.2 ⟨by rintro _ ⟨⟩; rfl, by
      rw [← List.cons_append, List.getLast?_concat]; rintro _ ⟨⟩; rfl⟩
  unfold FeatureLine.of
  rw [trimmed]
  simp only [barred] at read ⊢
  rw [read]

/-- A row is read as its cells. -/
lemma of_barred {cells : List (List Char)} (ne : cells ≠ [])
    (h : ∀ cell ∈ cells, trim cell = cell ∧ '|' ∉ cell) :
    FeatureLine.of (barred cells) = .row cells := by
  have kept : cells.map trim = cells :=
    (List.map_congr_left fun cell hc => (h cell hc).1).trans (List.map_id cells)
  rw [of_barred_trim ne fun cell hc => (h cell hc).2, kept]

/-- The cells of a row are kept as they are. -/
lemma Row.cells_kept (r : Row) : ∀ cell ∈ r.cells, trim cell = cell ∧ '|' ∉ cell := by
  simpa [cells] using ⟨⟨r.field.trimmed, r.noBar.1⟩,
    ⟨r.spelling.plain.trimmed, r.spelling.plain.noBar⟩, r.constant.trim_written, r.noBar.2⟩

/-- A row of a table is what it was laid out as. -/
lemma Row.of_cells (r : Row) : FeatureLine.of (barred r.cells) = .row r.cells :=
  of_barred (List.cons_ne_nil _ _) r.cells_kept

/-! ## Bodies without blanks around them -/

/-- The body of a requirement has no blanks around it. -/
lemma Group.trim_body (g : Group) : trim g.body = g.body :=
  trim_joined (trim_of_not_isBlank (Category.solid g.category).2) (by decide)
    (List.cons_ne_nil _ _) (by decide) ' '

/-- The body of a requirement is not empty. -/
lemma Group.body_ne_nil (g : Group) : g.body ≠ [] := List.cons_ne_nil _ _

/-- The body of a main condition has no blanks around it. -/
lemma Main.trim_body (m : Main) : trim m.body = m.body := by
  cases m with
  | single field spelling constant =>
    exact trim_joined (trim_of_not_isBlank (FieldName.solid field).2)
      (trim_joined spelling.plain.trimmed constant.trim_written spelling.plain.ne_nil
        constant.begins.1 ' ')
      (List.cons_ne_nil _ _)
      (by simp) ' '
  | table logic rows ne => cases logic <;> dsimp only [body] <;> decide

/-- The body of a main condition is not empty. -/
lemma Main.body_ne_nil (m : Main) : m.body ≠ [] := by
  cases m with
  | single => exact List.cons_ne_nil _ _
  | table logic rows ne => cases logic <;> dsimp only [body] <;> decide

/-- The body of the step for a status has no blanks around it. -/
lemma Status.trim_body (s : Status) : trim s.body = s.body :=
  have quoted := (Constant.text s.text s.oneLine).trim_written
  trim_joined (by decide) (trim_joined (by decide) quoted (by decide) (List.cons_ne_nil _ _) ' ')
    (by decide)
    (by simp) ' '

/-- The body of the step for a status is not empty. -/
lemma Status.body_ne_nil (s : Status) : s.body ≠ [] := by simp [Status.body]

end Rulebook.Layout
