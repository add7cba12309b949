import Rulebook.Proofs.Rule.Described

/-!
# Conditions in rows

A condition means the same in a step and in a row of a table (`Feature.readLines_row`): where a
step with a condition in one line is accepted, the row with the field, the operator and the
constant of the step as its cells is accepted under the names of the columns, and adds the
condition of the step to the table.
-/

namespace Rulebook
open Text Text.Pattern

/-! ## Parts and cells -/

deriving instance DecidableEq for StepBody.ConditionText

/-- The row with the parts of a condition as its cells. -/
def StepBody.ConditionText.row (p : StepBody.ConditionText) : List Char :=
  Layout.barred [p.field, p.operator, p.value]

/-- A row with the names of the columns, in letters of either case. -/
def FeatureLine.IsHeader (l : FeatureLine) : Prop :=
  ∃ cells, l = .row cells ∧ cells.map lower = ["field".toList, "operator".toList, "value".toList]

/-- Blanks around the parts of a condition do not change what it says. -/
lemma Condition.Says.trim {c : Condition} {p : StepBody.ConditionText} (h : c.Says p) :
    c.Says ⟨Text.trim p.field, Text.trim p.operator, Text.trim p.value⟩ := by
  obtain ⟨field, operator, literal, text⟩ := h
  refine ⟨?_, ?_, ?_, ?_⟩
  · rw [field, trim_trim]
  · rw [← operator, Operator.parse?, Operator.parse?, trim_trim]
  · rw [← literal, Literal.read, Literal.read, trim_trim]
  · rw [text]
    cases c.literal <;> simp only [Literal.spelling?, trim_trim]

/-- No bar stands in the name of a field. -/
lemma Layout.FieldName.no_bar (n : Layout.FieldName) : '|' ∉ n.text := by
  refine List.not_mem_cons_of_ne_of_not_mem ?_ fun inside => ?_
  · intro first
    have word := isWord_of_begins n.begins
    rw [← first] at word
    revert word
    decide
  · have word := n.goes_on '|' inside
    revert word
    decide

namespace StepBody

variable {body rest : List Char} {p : StepBody.ConditionText}

/-- The row of a condition is in one line if the step is. -/
lemma oneLine_row (h : StepBody.condition.first? body = some (p, rest)) (one : OneLine body) :
    OneLine p.row := by
  obtain ⟨-, -, ⟨gap, gap', rfl⟩, -⟩ := condition_parts h
  obtain ⟨one, value⟩ := oneLine_append.1 one
  obtain ⟨one, -⟩ := oneLine_append.1 one
  obtain ⟨one, operator⟩ := oneLine_append.1 one
  obtain ⟨field, -⟩ := oneLine_append.1 one
  refine Layout.oneLine_barred ?_
  simpa using ⟨field, operator, value⟩

/-- The row of a condition is read as a row of its parts, unless there is a bar in its constant. -/
lemma of_row (h : StepBody.condition.first? body = some (p, rest)) (no_bar : '|' ∉ p.value) :
    FeatureLine.of p.row = .row [trim p.field, trim p.operator, trim p.value] := by
  obtain ⟨⟨field, named⟩, operator, -, -⟩ := condition_parts h
  refine Layout.of_barred_trim (List.cons_ne_nil _ _) ?_
  simpa using ⟨named ▸ field.no_bar, operator, no_bar⟩

/-- A condition has a field. -/
lemma trim_field_ne_nil (h : StepBody.condition.first? body = some (p, rest)) :
    trim p.field ≠ [] := by
  obtain ⟨⟨field, named⟩, -⟩ := condition_parts h
  rw [named, trim_of_not_isBlank (Layout.FieldName.solid field).2]
  exact List.cons_ne_nil _ _

end StepBody

namespace Feature

variable {st : Setting} {m n : ℕ} {q r r' : Reading} {t : OpenTable} {line body : List Char}

/-! ## Rows of tables -/

/-- Where a table is open, the names of its columns are accepted first. -/
lemma readLine_header (open_ : q.table = some t) (first : t.headed = false) {l : FeatureLine}
    (h : l.IsHeader) :
    readLine st m q l = .ok { q with table := some { t with headed := true } } := by
  obtain ⟨cells, rfl, names⟩ := h
  simp only [readLine, open_, addRow, first, names]
  rfl

/-- Below the names of the columns, cells that say a condition add it to the table. -/
lemma readLine_cells (open_ : q.table = some t) (headed : t.headed = true)
    {field operator value : List Char} (ne : field ≠ []) {c : Condition}
    (told : c.Says ⟨field, operator, value⟩) :
    readLine st m q (.row [field, operator, value]) =
      .ok { q with table := some { t with rows := t.rows ++ [c] } } := by
  have named : field.isEmpty = false := by simpa using ne
  simp only [readLine, open_, addRow, headed, named, readCondition_ok.2 told]
  rfl

/-- A step that is accepted, and opens no table, sets the condition that its body says. -/
lemma readLine_single (accepted : readLine st n r (.step .when body) = .ok r')
    (single : r'.table = none) :
    ∃ p c s, StepBody.condition.first? body = some (p, []) ∧ c.Says p ∧ r'.scenario = some s ∧
      s.condition = some (.single c) := by
  obtain ⟨closed, -, accepted⟩ := Outcome.bind_ok.1 accepted
  unfold readHeading at accepted
  dsimp only at accepted
  split at accepted
  · cases accepted
  · obtain ⟨⟨s, table⟩, step, accepted⟩ := Outcome.bind_ok.1 accepted
    cases accepted
    cases single
    obtain ⟨⟨s₁, kind⟩, hk, step⟩ := Outcome.bind_ok.1 step
    cases hk
    cases conditionStep_ok step with
    | @single p rest c _ first _ told =>
      obtain ⟨-, -, -, rfl⟩ := StepBody.condition_parts first
      exact ⟨p, c, _, first, told, rfl, rfl⟩

/-- Where no table is open, a step that tells a condition in one line sets it, if
there is none yet. -/
lemma readLine_condition {s : Scenario} {c : Condition} (held : r.scenario = some s)
    (closed : r.table = none) (new : s.condition = none)
    (tells : MainCondition.ToldBy body (.single c)) :
    readLine st n r (.step .when body) =
      .ok { r with
        scenario := some { s with condition := some (.single c), last := some .when } } := by
  have read : readStep st n s .when body =
      .ok ({ s with condition := some (.single c), last := some .when }, none) := by
    have early : s.condition.isSome = false := by rw [new, Option.isSome_none]
    refine (conditionStep_told tells n { s with last := some .when }).trans ?_
    rw [if_neg (by simp [early])]
  refine Outcome.bind_ok.2 ⟨r, by rw [closeTable, closed], ?_⟩
  simp only [readHeading, held, read, Outcome.ok_bind, closed]

/-- A condition means the same in a step and in a row of a table. Where a step is accepted as a
condition in one line, take its field, its operator and its constant as it comes apart into them. If
there is no bar in the constant, the row with these cells is in one line if the step is, and any
open table accepts it below the names of the columns, in letters of either case: what it adds to the
table is the very condition of the step. -/
theorem readLines_row (step : FeatureLine.of line = .step .when body)
    (accepted : readLine st n r (FeatureLine.of line) = .ok r') (single : r'.table = none) :
    ∃ p c s, StepBody.condition.first? body = some (p, []) ∧ r'.scenario = some s ∧
      s.condition = some (.single c) ∧
      ('|' ∉ p.value → (OneLine line → OneLine p.row) ∧
        ∀ (st' : Setting) (m : ℕ) (q : Reading) (t : OpenTable), q.table = some t →
          (t.headed = true → readLine st' m q (FeatureLine.of p.row) =
            .ok { q with table := some { t with rows := t.rows ++ [c] } }) ∧
          (t.headed = false → ∀ header, (FeatureLine.of header).IsHeader →
            readLines st' m q [FeatureLine.of header, FeatureLine.of p.row] =
              .ok { q with table := some { t with headed := true, rows := t.rows ++ [c] } })) := by
  rw [step] at accepted
  obtain ⟨p, c, s, first, told, held, condition⟩ := readLine_single accepted single
  refine ⟨p, c, s, first, held, condition, fun no_bar => ⟨fun one => ?_, fun st' m q t open_ => ?_⟩⟩
  · exact StepBody.oneLine_row first fun x hx => one x (FeatureLine.body_subset step hx)
  · have row {m : ℕ} {q : Reading} {t : OpenTable} (open_ : q.table = some t)
        (headed : t.headed = true) :
        readLine st' m q (FeatureLine.of p.row) =
        .ok { q with table := some { t with rows := t.rows ++ [c] } } := by
      rw [StepBody.of_row first no_bar]
      exact readLine_cells open_ headed (StepBody.trim_field_ne_nil first) told.trim
    refine ⟨row open_, fun unheaded header names => ?_⟩
    refine Outcome.bind_ok.2 ⟨_, readLine_header open_ unheaded names, ?_⟩
    exact Outcome.bind_ok.2 ⟨_, row rfl rfl, rfl⟩

end Feature

namespace Pricing
open Feature

/-- A step with a phrase in letters of either case, and blanks that do not count. -/
def step : List Char := "    When price  IS at Least  12.50 ".toList

/-- What follows its word. -/
def body : List Char := "price  IS at Least  12.50".toList

/-- The row with the same parts. -/
def row : List Char := "| price | IS at Least | 12.50 |".toList

/-- The names of the columns. -/
def header : List Char := "  | Field | OPERATOR | value |".toList

/-- The condition that both say. -/
def condition : Condition where
  field := "price"
  operator := .ge
  literal := .float (.ofScientific false 1250 (-2))
  literalText := some "12.50"

/-- A scenario that has been told nothing. -/
def untold : Feature.Scenario where
  title := []
  tags := []
  line := 1

/-- A table without names of columns. -/
def table : OpenTable where
  heading := .compound .all
  line := 2

/-- The scenario after the step. -/
def told : Feature.Scenario :=
  { untold with condition := some (.single condition), last := some .when }

/-- The step is accepted, and under the names of the columns the row adds its
condition to a table. -/
theorem step_row :
    readLine ⟨none, "default"⟩ 2 { scenario := some untold } (FeatureLine.of step) =
    .ok { scenario := some told } ∧ OneLine row ∧
    readLines ⟨none, "default"⟩ 3 { scenario := some untold, table := some table }
        [FeatureLine.of header, FeatureLine.of row] =
      .ok { scenario := some untold
            table := some { table with headed := true, rows := [condition] } } := by
  have line : FeatureLine.of step = .step .when body := by decide +kernel
  have apart : StepBody.condition.first? body =
      some (⟨"price".toList, "IS at Least".toList, "12.50".toList⟩, []) := by decide +kernel
  have tells : MainCondition.ToldBy body (.single condition) :=
    .single (by decide +kernel) apart ⟨by decide +kernel, by decide +kernel, by decide +kernel, rfl⟩
  have accepted : readLine ⟨none, "default"⟩ 2 { scenario := some untold } (FeatureLine.of step) =
      .ok { scenario := some told } := by
    rw [line]
    exact readLine_condition rfl rfl rfl tells
  obtain ⟨p, c, s, first, held, set_, rows⟩ := readLines_row line accepted rfl
  cases first.symm.trans apart
  cases held
  cases set_
  obtain ⟨one, rows⟩ := rows (by decide)
  obtain ⟨-, below⟩ := rows ⟨none, "default"⟩ 3 { scenario := some untold, table := some table }
    table rfl
  have names : FeatureLine.of header =
      .row ["Field".toList, "OPERATOR".toList, "value".toList] := by decide +kernel
  exact ⟨accepted, one (by decide), below rfl header ⟨_, names, by decide +kernel⟩⟩

end Pricing
end Rulebook
