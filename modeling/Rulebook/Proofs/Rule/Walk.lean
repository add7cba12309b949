import Rulebook.Proofs.Outcome
import Rulebook.Proofs.Rule.Lines

/-!
# Walking over laid out lines

The reader walks over the lines of a document with its state. `Passes` tells what it has read before
and after a part of a laid out document, with the table closed that may still be open; parts that
follow one another are passed one after the other (`Passes.append`). Each part of a scenario adds
what it says, and so does a whole scenario (`Scenario.passes`), which makes its rule
(`Scenario.finish_read`).
-/

namespace Rulebook.Layout
open Text
open Feature (Reading Setting OpenTable closeTable readLines readHeading readStep finishScenario)

variable {st : Setting} {n : Nat} {r r' r'' : Reading} {s s' : Feature.Scenario}

/-! ## Passing lines -/

/-- Lines are read one after the other. -/
lemma readLines_append {ls ls' : List FeatureLine} :
    readLines st n r (ls ++ ls') =
    (do let r ← readLines st n r ls; readLines st (n + ls.length) r ls') := by
  induction ls generalizing n r with
  | nil => rfl
  | cons l ls ih =>
    rw [List.cons_append, readLines, readLines, bind_assoc]
    refine bind_congr fun r => ?_
    rw [ih, List.length_cons, Nat.add_right_comm, Nat.add_assoc]

/-- The lines lead from one state to another. A table that is open before them is closed in the
first state, and one that is open after them in the second. -/
def Passes (st : Setting) (n : Nat) (r : Reading) (ls : List (List Char)) (r' : Reading) : Prop :=
  ∀ r₀, closeTable st r₀ = .ok r → ∃ r₁, readLines st n r₀ (ls.map FeatureLine.of) = .ok r₁ ∧
  closeTable st r₁ = .ok r'

/-- No lines lead from a state to itself. -/
lemma Passes.nil : Passes st n r [] r := fun r₀ h => ⟨r₀, rfl, h⟩

/-- Lines lead on from where those before them lead to. -/
lemma Passes.append {ls ls' : List (List Char)} (h : Passes st n r ls r')
    (h' : Passes st (n + ls.length) r' ls' r'') :
    Passes st n r (ls ++ ls') r'' := by
  intro r₀ h₀
  obtain ⟨r₁, h₁, hr₁⟩ := h r₀ h₀
  obtain ⟨r₂, h₂, hr₂⟩ := h' r₁ hr₁
  refine ⟨r₂, ?_, hr₂⟩
  rw [List.map_append, readLines_append, h₁, List.length_map]
  exact h₂

/-- Where no table is open, none is closed. -/
lemma closeTable_of_none (h : r.table = none) : closeTable st r = .ok r := by
  rw [closeTable, h]

/-- A line without a name says nothing. -/
lemma Passes.blank : Passes st n r [[]] r := fun r₀ h => ⟨r₀, rfl, h⟩

/-- A line is neither blank nor a row. -/
def isHeading : FeatureLine → Bool
  | .nothing | .row _ => false
  | _ => true

/-- Such a line closes the table before it is read. -/
lemma readLine_of_isHeading {l : FeatureLine} (heading : isHeading l = true) :
    Feature.readLine st n r l = (do let r ← closeTable st r; readHeading st n r l) := by
  cases l with
  | nothing | row cells => cases heading
  | _ => rfl

/-- Such a line is passed if it opens no table. -/
lemma Passes.line {line : List Char} {l : FeatureLine} (hl : FeatureLine.of line = l)
    (heading : isHeading l = true) (read : readHeading st n r l = .ok r')
    (closed : r'.table = none) : Passes st n r [line] r' := by
  intro r₀ h
  refine ⟨r', ?_, closeTable_of_none closed⟩
  rw [List.map_singleton, hl, readLines, readLine_of_isHeading heading, h, Outcome.ok_bind, read]
  rfl

/-! ## Tables -/

/-- The state within a scenario, in which a table may be open. -/
def within (r : Reading) (s : Feature.Scenario) (table : Option OpenTable) : Reading :=
  { r with scenario := some s, table }

/-- A table is read as its cells. -/
lemma of_tableLines (rows : List Row) :
    (tableLines rows).map FeatureLine.of = (tableCells rows).map .row := by
  have header : ∀ cell ∈ ["field".toList, "operator".toList, "value".toList],
      trim cell = cell ∧ '|' ∉ cell := by
    decide
  rw [tableLines, List.map_map]
  refine List.map_congr_left fun cells hc => ?_
  rw [Function.comp_apply, of_indent]
  obtain rfl | hc := List.mem_cons.1 hc
  · exact of_barred (List.cons_ne_nil _ _) header
  · obtain ⟨row, -, rfl⟩ := List.mem_map.1 hc
    exact row.of_cells

/-- A row adds its condition. -/
lemma addRow_row {t : OpenTable} (headed : t.headed = true) (row : Row)
    (short : row.constant.Short) :
    Feature.addRow st n t row.cells = .ok { t with rows := t.rows ++ [row.condition] } := by
  have ne : row.field.text.isEmpty = false := by simpa using row.field.ne_nil
  unfold Feature.addRow Row.cells
  rw [headed]
  dsimp only [Bool.not_true]
  rw [if_neg (by decide), ne, if_neg (by decide),
    (readCondition_ok row.field.trimmed).2 ⟨short, rfl⟩]
  rfl

/-- The rows of a table add their conditions one after the other. -/
lemma readLines_rows {rows : List Row} {t : OpenTable} (headed : t.headed = true)
    (short : ∀ row ∈ rows, row.constant.Short) :
    readLines st n (within r s (some t)) (rows.map fun row => .row row.cells) =
      .ok (within r s (some { t with rows := t.rows ++ rows.map Row.condition })) := by
  induction rows generalizing n t with
  | nil =>
    rw [List.map_nil, List.map_nil, List.append_nil]
    rfl
  | cons row rows ih =>
    obtain ⟨first, others⟩ := List.forall_mem_cons.1 short
    have line : Feature.readLine st n (within r s (some t)) (.row row.cells) =
        .ok (within r s (some { t with rows := t.rows ++ [row.condition] })) := by
      rw [Feature.readLine]
      dsimp only [within]
      rw [addRow_row headed row first]
      rfl
    rw [List.map_cons, readLines, line, Outcome.ok_bind]
    refine (ih (t := { t with rows := t.rows ++ [row.condition] }) headed others).trans ?_
    simp

/-! ## Steps -/

variable {p : String × StepWord} {body : List Char}

/-- A step that opens no table. -/
lemma Passes.step (listed : p ∈ StepWord.spellings) (trimmed : trim body = body) (ne : body ≠ [])
    (read : readStep st n s p.2 body = .ok (s', none)) :
    Passes st n (within r s none) [stepLine p.1 body] (within r s' none) := by
  refine Passes.line (of_step listed trimmed ne) rfl ?_ rfl
  simp only [readHeading, within, read]
  rfl

/-- A step that opens a table, and the table. -/
lemma Passes.table (listed : p ∈ StepWord.spellings) (trimmed : trim body = body) (ne : body ≠ [])
    {heading : Feature.Heading}
    (read : readStep st n s p.2 body = .ok (s', some { heading, line := n })) {rows : List Row}
    (ne_rows : rows ≠ []) (short : ∀ row ∈ rows, row.constant.Short) :
    Passes st n (within r s none) (stepLine p.1 body :: tableLines rows)
      (within r (s'.addTable { heading, line := n, headed := true, rows := rows.map Row.condition })
        none) := by
  intro r₀ h₀
  have opened : Feature.readLine st n r₀ (.step p.2 body) =
      .ok (within r s' (some { heading, line := n })) := by
    rw [readLine_of_isHeading rfl, h₀, Outcome.ok_bind]
    simp only [readHeading, within, read]
    rfl
  have header : Feature.readLine st (n + 1) (within r s' (some { heading, line := n }))
      (.row ["field".toList, "operator".toList, "value".toList]) =
        .ok (within r s' (some { heading, line := n, headed := true })) := rfl
  have filled : readLines st (n + 2) (within r s' (some { heading, line := n, headed := true }))
      (rows.map fun row => .row row.cells) =
        .ok (within r s'
          (some { heading, line := n, headed := true, rows := rows.map Row.condition })) :=
    readLines_rows rfl short
  -- The table stays open after its last row; the line after it closes it.
  refine ⟨within r s' (some { heading, line := n, headed := true, rows := rows.map Row.condition }),
    ?_, ?_⟩
  · rw [List.map_cons, of_step listed trimmed ne, of_tableLines, readLines, opened,
      Outcome.ok_bind, tableCells, List.map_cons, readLines, header, Outcome.ok_bind, List.map_map]
    exact filled
  · have some : (rows.map Row.condition).isEmpty = false := by simpa using ne_rows
    simp only [closeTable, within, some]
    rfl

/-! ## Requirements -/

/-- The scenario with further requirements. -/
def requiring (s : Feature.Scenario) (gs : List Group) : Feature.Scenario :=
  { s with requirements := s.requirements ++ gs.map Group.requirement }

/-- The categories that a scenario has requirements on. -/
def categories (s : Feature.Scenario) : List String := s.requirements.map (·.category)

/-- Further requirements add their categories. -/
lemma categories_requiring (gs : List Group) :
    categories (requiring s gs) = categories s ++ gs.map fun g =>
    String.ofList g.category.text := by
  simp only [categories, requiring, List.map_append, List.map_map]
  rfl

/-- A requirement on a new category adds its conditions. -/
lemma Group.passes (g : Group) (listed : p ∈ StepWord.spellings)
    (kind : Feature.stepKind st n s p.2 = .ok (s', .given)) (early : s'.condition = none)
    (fresh : String.ofList g.category.text ∉ categories s')
    (short : ∀ row ∈ g.rows, row.constant.Short) :
    Passes st n (within r s none) (g.lines p.1) (within r (requiring s' [g]) none) := by
  have new : (s'.requirements.any fun q => q.category == String.ofList g.category.text) =
      false := by
    rw [List.any_eq_false]
    intro q hq same
    exact fresh (List.mem_map.2 ⟨q, hq, eq_of_beq same⟩)
  have read : readStep st n s p.2 g.body =
      .ok (s', some { heading := .requirement (String.ofList g.category.text), line := n }) := by
    rw [readStep, kind, Outcome.ok_bind]
    dsimp only [Feature.readBody]
    rw [Feature.requirementStep, requirement_body]
    dsimp only
    rw [early, new]
    rfl
  exact Passes.table listed g.trim_body g.body_ne_nil read g.ne_nil short

/-- Further requirements follow on one that is given. -/
lemma passes_and {gs : List Group} (last : s.last = some .given) (early : s.condition = none)
    (distinct : (categories (requiring s gs)).Nodup)
    (short : ∀ g ∈ gs, ∀ row ∈ g.rows, row.constant.Short) :
    Passes st n (within r s none) (gs.flatMap (Group.lines "And"))
    (within r (requiring s gs) none) := by
  induction gs generalizing n s with
  | nil =>
    rw [requiring, List.map_nil, List.append_nil]
    exact Passes.nil
  | cons g gs ih =>
    obtain ⟨first, others⟩ := List.forall_mem_cons.1 short
    have both : requiring (requiring s [g]) gs = requiring s (g :: gs) := by simp [requiring]
    have fresh : String.ofList g.category.text ∉ categories s := by
      intro old
      rw [categories_requiring, List.nodup_append] at distinct
      exact distinct.2.2 _ old _ (.head _) rfl
    have kind : Feature.stepKind st n s .also = .ok (s, .given) := by
      simp only [Feature.stepKind, last]
    have one := g.passes (r := r) (p := ("And", .also)) (by decide) kind early fresh first
    rw [← both] at distinct ⊢
    exact one.append (ih last early distinct others)

/-- The requirements of a scenario are read in their order. -/
lemma passes_groups {gs : List Group} (start : s.requirements = []) (early : s.condition = none)
    (distinct : (gs.map fun g => g.category.text).Nodup)
    (short : ∀ g ∈ gs, ∀ row ∈ g.rows, row.constant.Short) :
    ∃ last, Passes st n (within r s none) (groupLines gs)
    (within r { requiring s gs with last } none) := by
  cases gs with
  | nil =>
    refine ⟨s.last, ?_⟩
    rw [requiring, List.map_nil, List.append_nil]
    exact Passes.nil
  | cons g gs =>
    obtain ⟨first, others⟩ := List.forall_mem_cons.1 short
    -- The first requirement is the step that the others go on from.
    let given : Feature.Scenario := { s with last := some .given }
    have none_yet : categories given = [] := by simp [categories, given, start]
    have both : requiring (requiring given [g]) gs =
        { requiring s (g :: gs) with last := some .given } := by
      simp [requiring, given]
    have distinct : (categories (requiring (requiring given [g]) gs)).Nodup := by
      rw [categories_requiring, categories_requiring, none_yet]
      have strings : (((g :: gs).map fun g => g.category.text).map String.ofList).Nodup :=
        List.Pairwise.map String.ofList (fun a b ne same => ne (String.ofList_injective same))
          distinct
      rwa [List.map_map] at strings
    refine ⟨some .given, ?_⟩
    rw [← both]
    have fresh : String.ofList g.category.text ∉ categories given := by
      rw [none_yet]
      exact List.not_mem_nil
    have one : Passes st n (within r s none) (g.lines "Given")
        (within r (requiring given [g]) none) :=
      g.passes (p := ("Given", .given)) (by decide) rfl early fresh first
    exact one.append (passes_and rfl early distinct others)

/-! ## Conditions and statuses -/

/-- The main condition is read. -/
lemma Main.passes (m : Main) (first : s.condition = none) (short : ∀ c ∈ m.constants, c.Short) :
    Passes st n (within r s none) m.lines
      (within r { s with condition := some m.condition, last := some .when } none) := by
  have kind : Feature.stepKind st n s .when = .ok ({ s with last := some .when }, .when) := rfl
  cases m with
  | single field spelling constant =>
    have said : Feature.readCondition st n field.text spelling.text.toList constant.written =
        .ok (Layout.condition field.text spelling constant) :=
      (readCondition_ok (trim_of_not_isBlank (FieldName.solid field).2)).2
        ⟨short constant (.head _), rfl⟩
    have read : readStep st n s .when (single field spelling constant).body =
        .ok ({ s with
          condition := some (single field spelling constant).condition, last := some .when },
          none) := by
      rw [readStep, kind, Outcome.ok_bind]
      simp only [Feature.readBody, Feature.conditionStep, first, compound_eq_none,
        condition_body, said]
      rfl
    exact Passes.step (p := ("When", .when)) (by decide) (Main.trim_body _)
      (Main.body_ne_nil _) read
  | table logic rows ne =>
    have rows_short : ∀ row ∈ rows, row.constant.Short :=
      fun row h => short _ (List.mem_map_of_mem h)
    have read : readStep st n s .when (table logic rows ne).body =
        .ok ({ s with last := some .when }, some { heading := .compound logic, line := n }) := by
      rw [readStep, kind, Outcome.ok_bind]
      simp only [Feature.readBody, Feature.conditionStep, first, compound_body]
      rfl
    exact Passes.table (p := ("When", .when)) (by decide) (Main.trim_body _) (Main.body_ne_nil _)
      read ne rows_short

/-- The positive status is read. -/
lemma passes_then (status : Status) (first : s.positive = none) :
    Passes st n (within r s none) [stepLine "Then" status.body]
      (within r { s with positive := some (String.ofList status.text), last := some .outcome }
        none) := by
  refine Passes.step (p := ("Then", .outcome)) (by decide) status.trim_body status.body_ne_nil ?_
  have kind : Feature.stepKind st n s .outcome = .ok ({ s with last := some .outcome }, .outcome) :=
    rfl
  rw [readStep, kind, Outcome.ok_bind]
  simp only [Feature.readBody, Feature.positiveStep, first, status_body]
  rfl

/-- The negative status is read. -/
lemma passes_but (status : Status) (first : s.negative = none) :
    Passes st n (within r s none) [stepLine "But" ("otherwise".toList ++ ' ' :: status.body)]
      (within r { s with negative := some (String.ofList status.text) } none) := by
  have trimmed := trim_joined (a := "otherwise".toList) (by decide) status.trim_body (by decide)
    status.body_ne_nil ' '
  refine Passes.step (p := ("But", .but)) (by decide) trimmed (by simp) ?_
  have kind : Feature.stepKind st n s .but = .ok (s, .but) := by
    cases h : s.last <;> simp [Feature.stepKind]
  rw [readStep, kind, Outcome.ok_bind]
  simp only [Feature.readBody, Feature.negativeStep, first, otherwise_body]
  rfl

/-! ## Tags -/

/-- Tags are read with the number of their line. -/
lemma readTags_of_solid {tags : List (List Char)} (h : ∀ tag ∈ tags, Solid tag) :
    Feature.readTags st n (tags.map ('@' :: ·)) = .ok (tags.map fun tag => (tag, n)) := by
  induction tags with
  | nil => rfl
  | cons tag tags ih =>
    obtain ⟨first, others⟩ := List.forall_mem_cons.1 h
    obtain ⟨c, cs, rfl⟩ := List.exists_cons_of_ne_nil first.1
    rw [List.map_cons, Feature.readTags, ih others]
    rfl

/-- The value of a tag is the word behind its colon. -/
lemma tagValue_word (st : Setting) (n : Nat) {start key : List Char} (colon : start = key ++ [':'])
    (hk : ':' ∉ key) (w : Word) : (Feature.tagParts (start ++ w.text)).1 = key ∧
      Feature.tagValue st (start ++ w.text, n) = .ok w.string := by
  have cut : Feature.tagParts (start ++ w.text) = (key, w.text) := by
    have others : ∀ c ∈ key, (c != ':') = true := by
      intro c hc
      simpa using fun h : c = ':' => hk (h ▸ hc)
    rw [Feature.tagParts, colon, List.append_assoc, cutAt, List.takeWhile_append_of_pos others,
      List.dropWhile_append_of_pos others]
    simp
  have some : (trim w.text).isEmpty = false := by
    rw [trim_of_not_isBlank w.solid.2]
    simpa using w.solid.1
  rw [Feature.tagValue, cut]
  dsimp only
  rw [some, trim_of_not_isBlank w.solid.2]
  exact ⟨rfl, rfl⟩

section ScenarioTags
variable {t : Feature.ScenarioTags} {rest : List Feature.Tag}

/-- The tag of a target is read if there was none before. -/
lemma read_target (w : Word) (h : t.target = none) :
    Feature.readScenarioTags st t (("target:".toList ++ w.text, n) :: rest) =
      Feature.readScenarioTags st { t with target := some w.string } rest := by
  obtain ⟨key, value⟩ :=
    tagValue_word st n (by decide : "target:".toList = "target".toList ++ [':']) (by decide) w
  rw [Feature.readScenarioTags]
  simp only [key, value, String.ofList_toList, h]
  rfl

/-- The tag of a rule's name is read if there was none before. -/
lemma read_rule (w : Word) (h : t.name = none) :
    Feature.readScenarioTags st t (("rule:".toList ++ w.text, n) :: rest) =
      Feature.readScenarioTags st { t with name := some w.string } rest := by
  obtain ⟨key, value⟩ :=
    tagValue_word st n (by decide : "rule:".toList = "rule".toList ++ [':']) (by decide) w
  rw [Feature.readScenarioTags]
  simp only [key, value, String.ofList_toList, h]
  rfl

/-- The tag of a domain is read if there was none before. -/
lemma read_domain (w : Word) (h : t.domain = none) :
    Feature.readScenarioTags st t (("domain:".toList ++ w.text, n) :: rest) =
      Feature.readScenarioTags st { t with domain := some w.string } rest := by
  obtain ⟨key, value⟩ :=
    tagValue_word st n (by decide : "domain:".toList = "domain".toList ++ [':']) (by decide) w
  rw [Feature.readScenarioTags]
  simp only [key, value, String.ofList_toList, h]
  rfl

end ScenarioTags

/-- The tags of a scenario say what they were laid out for. -/
lemma Scenario.read_tags (s : Scenario) :
    Feature.readScenarioTags st {} (s.tags.map fun tag => (tag, n)) =
      .ok { name := some s.name.string, target := some s.target.string
            domain := s.domain.map Word.string, blocking := s.blocking, kind := s.kind } := by
  simp only [tags, List.map_append, List.map_cons, List.cons_append, List.nil_append]
  rw [read_target s.target rfl, read_rule s.name rfl]
  cases s.domain with
  | none => cases s.blocking <;> cases s.kind <;> rfl
  | some w =>
    rw [Option.map_some, Option.toList_some, List.map_singleton,
      List.singleton_append, List.cons_append, read_domain w rfl]
    cases s.blocking <;> cases s.kind <;> rfl

/-! ## Scenarios -/

/-- What has been read of a scenario after its last line, its title at the given line. -/
def Scenario.read (s : Scenario) (line : Nat) : Feature.Scenario where
  title := s.title.text
  tags := s.tags.map fun tag => (tag, line - 1)
  line := line
  requirements := s.groups.map Group.requirement
  condition := some s.main.condition
  positive := some (String.ofList s.positive.text)
  negative := some (String.ofList s.negative.text)
  last := some .outcome

/-- A scenario that has been read makes its rule. -/
lemma Scenario.finish_read (s : Scenario) (domain : Option String) (line : Nat) :
    Feature.finish st domain (s.read line) =
    .ok (s.rule st.source (domain.getD st.defaultDomain) line) := by
  have titled : s.title.text.isEmpty = false := by simpa using s.title.ne_nil
  rw [Feature.finish, read, s.read_tags, Outcome.ok_bind]
  dsimp only
  rw [titled]
  cases hd : s.domain <;> simp [rule, hd]

/-- Finishing a scenario adds its rule only, whatever tags wait. -/
lemma finishScenario_eq {r₁ : Reading} (h : finishScenario st r = .ok r₁) :
    r₁ = { r with rules := r₁.rules, scenario := none } ∧
      ∀ pending, finishScenario st { r with pending } = .ok { r₁ with pending } := by
  obtain ⟨begun, name, domain, rules, waiting, scenario, table⟩ := r
  cases scenario with
  | none =>
    cases h
    exact ⟨rfl, fun _ => rfl⟩
  | some s =>
    obtain ⟨rule, finished, h⟩ := Outcome.bind_ok.1 h
    cases h
    exact ⟨rfl, fun _ => Outcome.bind_ok.2 ⟨rule, finished, rfl⟩⟩

/-- The heading of a scenario finishes the scenario before it and takes the tags that wait. -/
lemma readHeading_scenario {r₁ : Reading} {title : List Char} (waiting : List Feature.Tag)
    (begun : r.begun = true) (pending : r.pending = []) (table : r.table = none)
    (before : finishScenario st r = .ok r₁) :
    readHeading st n { r with pending := waiting } (.scenario title) =
      .ok (within r₁ { title, tags := waiting, line := n } none) := by
  obtain ⟨same, finished⟩ := finishScenario_eq before
  have kept : r₁.pending = [] ∧ r₁.table = none := by
    rw [same]
    exact ⟨pending, table⟩
  rw [readHeading, if_neg (by simp [begun]), finished waiting, Outcome.ok_bind, within,
    ← kept.1, ← kept.2]

/-- The steps of a scenario are read after its heading. -/
lemma Scenario.passes_steps (s : Scenario) (line : Nat) (short : ∀ c ∈ s.constants, c.Short) :
    Passes st n
      (within r { title := s.title.text, tags := s.tags.map fun tag => (tag, line - 1), line } none)
      (groupLines s.groups ++ s.main.lines ++
        [stepLine "Then" s.positive.body,
          stepLine "But" ("otherwise".toList ++ ' ' :: s.negative.body)])
      (within r (s.read line) none) := by
  obtain ⟨short_groups, short_main⟩ := List.forall_mem_append.1 short
  have short_rows : ∀ g ∈ s.groups, ∀ row ∈ g.rows, row.constant.Short := fun g hg row hrow =>
    short_groups _ (List.mem_flatMap.2 ⟨g, hg, List.mem_map_of_mem hrow⟩)
  let heading : Feature.Scenario :=
    { title := s.title.text, tags := s.tags.map fun tag => (tag, line - 1), line }
  obtain ⟨last, required⟩ : ∃ last, Passes st n (within r heading none) (groupLines s.groups)
      (within r { requiring heading s.groups with last } none) :=
        passes_groups rfl rfl s.distinct short_rows
  have conditioned := required.append (s.main.passes rfl short_main)
  exact conditioned.append ((passes_then s.positive rfl).append (passes_but s.negative rfl))

/-- The lines of a scenario finish the scenario before it. -/
lemma Scenario.passes (s : Scenario) (begun : r.begun = true) (pending : r.pending = [])
    (table : r.table = none) {r₁ : Reading} (before : finishScenario st r = .ok r₁)
    (short : ∀ c ∈ s.constants, c.Short) :
    Passes st n r s.lines (within r₁ (s.read (n + 2)) none) := by
  let waiting : List Feature.Tag := s.tags.map fun tag => (tag, n + 1)
  have tagged : Passes st (n + 1) r [indent 2 (joinWith [' '] (s.tags.map ('@' :: ·)))]
      { r with pending := waiting } := by
    refine Passes.line ((of_indent 2 _).trans (of_tags (List.cons_ne_nil _ _) s.solid_tags)) rfl ?_
      table
    rw [readHeading, readTags_of_solid s.solid_tags, Outcome.ok_bind, pending]
    rfl
  have titled := Passes.line (n := n + 2) ((of_indent 2 _).trans (of_scenario s.title)) rfl
    (readHeading_scenario waiting begun pending table before) rfl
  exact Passes.blank.append (tagged.append (titled.append (s.passes_steps (n + 2) short)))

end Rulebook.Layout
