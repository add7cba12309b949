import Mathlib.Data.List.Nodup
import Rulebook.Proofs.Outcome
import Rulebook.Rule.Feature

/-!
# Sections of a document

Every heading of a scenario begins a section: the lines up to the next heading. A rule is told by
the lines of its section (`Rule.ToldBy`). While a document is read, the scenario at hand holds what
the lines since its heading have told, together with the table that is still open (`Scenario.Told`):
each line keeps this true (`Reading.Told.readLine`), and a document that is read has one rule for
every section, in their order (`Feature.read_sections`).
-/

namespace Rulebook
open Text

/-! ## What lines tell -/

/-- How a literal with a point was written. -/
def Literal.spelling? (value : List Char) : Literal → Option String
  | .float _ => some (String.ofList (trim value))
  | _ => none

/-- A condition is read from its written parts. -/
structure Condition.Says (c : Condition) (p : StepBody.ConditionText) : Prop where
  field : c.field = String.ofList (trim p.field)
  operator : Operator.parse? p.operator = some c.operator
  literal : Literal.read p.value = .ok c.literal
  literalText : c.literalText = c.literal.spelling? p.value

/-- All conditions of a rule. -/
def Rule.conditions (r : Rule) : List Condition :=
  r.requirements.flatMap (·.conditions) ++ r.condition.conditions

namespace FeatureLine

/-- What a line is does not depend on blanks around it. -/
lemma of_congr {a b : List Char} (h : trim a = trim b) : FeatureLine.of a = FeatureLine.of b := by
  unfold FeatureLine.of
  rw [h]

/-- A line is the heading of a scenario. -/
def isScenario : FeatureLine → Bool
  | .scenario _ => true
  | _ => false

/-- The body of a step that begins with a word. -/
def body? (word : StepWord) : FeatureLine → Option (List Char)
  | .step w body => if w = word then some body else none
  | _ => none

/-- The parts of the condition that a line holds: a row of a table does, and a main
condition in one line. -/
def condition? : FeatureLine → Option StepBody.ConditionText
  | .row [field, operator, value] => some ⟨field, operator, value⟩
  | .step .when body =>
    if (StepBody.compound.first? body).isSome then none
      else (StepBody.condition.first? body).map (·.1)
  | _ => none

/-- The bodies of the steps that begin with a word. -/
def bodies (word : StepWord) (block : List FeatureLine) : List (List Char) :=
  block.filterMap (·.body? word)

/-- The lines up to the next heading of a scenario. -/
def block (ls : List FeatureLine) : List FeatureLine := ls.takeWhile (!·.isScenario)

/-- The headings of scenarios, by the number of the line, with the lines that belong to them. -/
def sections : ℕ → List FeatureLine → List (ℕ × List FeatureLine)
  | _, [] => []
  | n, l :: ls => if l.isScenario then (n, block ls) :: sections (n + 1) ls else sections (n + 1) ls

end FeatureLine

open FeatureLine (bodies block sections)

/-- A condition stands in one of the lines. -/
def Condition.StandsIn (lines : List FeatureLine) (c : Condition) : Prop :=
  ∃ l ∈ lines, ∃ p, l.condition? = some p ∧ c.Says p

/-- A condition that stands in some lines stands in more of them. -/
lemma Condition.StandsIn.mono {c : Condition} {lines lines' : List FeatureLine}
    (h : c.StandsIn lines) (sub : lines ⊆ lines') : c.StandsIn lines' := by
  obtain ⟨l, hl, p, hp, hc⟩ := h
  exact ⟨l, sub hl, p, hp, hc⟩

/-- The body of a step tells a main condition: all of it, or how the rows that
follow are combined. -/
inductive MainCondition.ToldBy (body : List Char) : MainCondition → Prop where
  | single {c p rest} :
    StepBody.compound.first? body = none →
    StepBody.condition.first? body = some (p, rest) →
    c.Says p →
    ToldBy body (.single c)
  | compound {logic rest cs} :
    StepBody.compound.first? body = some (logic, rest) →
    ToldBy body (.compound logic cs)

/-- What the rows are is not told with their combination. -/
lemma MainCondition.ToldBy.rows {body : List Char} {logic : Logic} {cs : List Condition}
    (h : ToldBy body (.compound logic cs)) (cs' : List Condition) :
    ToldBy body (.compound logic cs') := by
  cases h with
  | compound first => exact .compound first

/-- The body of a step tells the positive status. -/
def PositiveIn (body : List Char) (status : String) : Prop :=
  ∃ rest, StepBody.status.first? body = some (status.toList, rest)

/-- The body of a step tells the negative status. -/
def NegativeIn (body : List Char) (status : String) : Prop :=
  ∃ rest, StepBody.otherwise.first? body = some (status.toList, rest)

/-- A rule is told by lines: by exactly one step each its main condition and its two statuses, and
in lines of their own its conditions. Its requirements are on distinct categories, and nothing that
groups conditions is empty. -/
structure Rule.ToldBy (r : Rule) (lines : List FeatureLine) : Prop where
  main : ∃ body, bodies .when lines = [body] ∧ r.condition.ToldBy body
  positive : ∃ body, bodies .outcome lines = [body] ∧ PositiveIn body r.positive
  negative : ∃ body, bodies .but lines = [body] ∧ NegativeIn body r.negative
  conditions : ∀ c ∈ r.conditions, c.StandsIn lines
  categories : (r.requirements.map (·.category)).Nodup
  groups : ∀ q ∈ r.requirements, q.conditions ≠ []
  clauses : ∀ logic, r.condition ≠ .compound logic []

namespace Feature

variable {st : Setting} {n : ℕ}

/-! ## Steps -/

/-- A condition is read exactly from what says it. -/
lemma readCondition_ok {field operator value : List Char} {c : Condition} :
    readCondition st n field operator value = .ok c ↔ c.Says ⟨field, operator, value⟩ := by
  unfold readCondition
  constructor
  · intro h
    split at h
    · cases h
    · rename_i op ho
      split at h
      · cases h
      · rename_i literal hl
        cases h
        exact ⟨rfl, ho, hl, by cases literal <;> rfl⟩
  · rintro ⟨hf, ho, hl, ht⟩
    obtain ⟨field', op, literal, written⟩ := c
    dsimp only at hf ho hl ht
    subst hf ht
    rw [ho, hl]
    cases literal <;> rfl

/-- What a step of a kind does to a scenario that has no open table. -/
inductive Scenario.Turns (s : Scenario) (n : ℕ) (body : List Char) :
    StepWord → Scenario → Option OpenTable → Prop where
  | requirement {category rest} :
    StepBody.requirement.first? body = some (category, rest) →
    s.condition = none →
    String.ofList category ∉ s.requirements.map (·.category) →
    Turns s n body .given s (some { heading := .requirement (String.ofList category), line := n })
  | compound {logic rest} :
    StepBody.compound.first? body = some (logic, rest) →
    s.condition = none →
    Turns s n body .when s (some { heading := .compound logic, line := n })
  | single {p rest c} :
    StepBody.compound.first? body = none →
    StepBody.condition.first? body = some (p, rest) →
    s.condition = none →
    c.Says p →
    Turns s n body .when { s with condition := some (.single c) } none
  | positive {status} :
    PositiveIn body status →
    s.positive = none →
    Turns s n body .outcome { s with positive := some status } none
  | negative {status} :
    NegativeIn body status →
    s.negative = none →
    Turns s n body .but { s with negative := some status } none

variable {s s' : Scenario} {body : List Char} {word kind : StepWord} {table : Option OpenTable}

/-- A requirement that is accepted opens its table. -/
lemma requirementStep_ok {t : OpenTable} (h : requirementStep st n s body = .ok t) :
    s.Turns n body .given s (some t) := by
  unfold requirementStep at h
  split at h
  · cases h
  · rename_i category rest first
    dsimp only at h
    split at h
    · cases h
    · rename_i early
      split at h
      · cases h
      · rename_i fresh
        cases h
        refine .requirement first (by simpa using early) fun old => ?_
        obtain ⟨q, hq, same⟩ := List.mem_map.1 old
        exact fresh (List.any_eq_true.2 ⟨q, hq, beq_iff_eq.2 same⟩)

/-- A condition step that is accepted gives the scenario its condition or opens a table for it. -/
lemma conditionStep_ok (h : conditionStep st n s body = .ok (s', table)) :
    s.Turns n body .when s' table := by
  unfold conditionStep at h
  split at h
  · cases h
  · rename_i early
    have early : s.condition = none := by simpa using early
    split at h
    · rename_i logic rest first
      cases h
      exact .compound first early
    · rename_i p rest other first
      obtain ⟨c, hc, h⟩ := Outcome.bind_ok.1 h
      cases h
      exact .single other first early (readCondition_ok.1 hc)
    · cases h

/-- A positive status that is accepted is the scenario's. -/
lemma positiveStep_ok (h : positiveStep st n s body = .ok s') :
    s.Turns n body .outcome s' none := by
  unfold positiveStep at h
  split at h
  · cases h
  · rename_i status rest first
    split at h
    · cases h
    · rename_i new
      cases h
      exact .positive ⟨rest, by rw [first, String.toList_ofList]⟩ (by simpa using new)

/-- A negative status that is accepted is the scenario's. -/
lemma negativeStep_ok (h : negativeStep st n s body = .ok s') : s.Turns n body .but s' none := by
  unfold negativeStep at h
  split at h
  · cases h
  · rename_i status rest first
    split at h
    · cases h
    · rename_i new
      cases h
      exact .negative ⟨rest, by rw [first, String.toList_ofList]⟩ (by simpa using new)

/-- A step does what its kind does. -/
lemma readBody_ok (h : readBody st n s body kind = .ok (s', table)) (hk : kind ≠ .also) :
    s.Turns n body kind s' table := by
  cases kind with
  | given =>
    obtain ⟨t, ht, h⟩ := Outcome.map_ok.1 h
    cases h
    exact requirementStep_ok ht
  | when => exact conditionStep_ok h
  | outcome =>
    obtain ⟨s₁, hp, h⟩ := Outcome.map_ok.1 h
    cases h
    exact positiveStep_ok hp
  | also => exact absurd rfl hk
  | but =>
    obtain ⟨s₁, hn, h⟩ := Outcome.map_ok.1 h
    cases h
    exact negativeStep_ok hn

/-- A step is read into the scenario at hand. -/
lemma Scenario.Turns.line (h : s.Turns n body kind s' table) : s'.line = s.line := by
  cases h <;> rfl

/-- The kind of a step is that of its word, which the scenario remembers, or that
of the step before. -/
lemma stepKind_ok (h : stepKind st n s word = .ok (s', kind)) :
    (word = .also ∧ s.last = some kind ∧ s' = s) ∨ (word = .but ∧ kind = .but ∧ s' = s) ∨
      (word ≠ .also ∧ word ≠ .but ∧ kind = word ∧ s' = { s with last := some word }) := by
  cases word with
  | also =>
    unfold stepKind at h
    cases hl : s.last with
    | none => rw [hl] at h; cases h
    | some last =>
      rw [hl] at h
      cases h
      exact .inl ⟨rfl, rfl, rfl⟩
  | but =>
    cases h
    exact .inr (.inl ⟨rfl, rfl, rfl⟩)
  | given | when | outcome =>
    cases h
    exact .inr (.inr ⟨nofun, nofun, rfl, rfl⟩)

/-! ## The scenario at hand -/

/-- The scenario with what the open table holds so far. -/
def Scenario.whole (s : Scenario) : Option OpenTable → Scenario
  | none => s
  | some t => s.addTable t

/-- A scenario and the table that is open hold what the lines since the heading of the scenario have
told. A kind of step that `And` could go on with is remembered only if steps of that kind may still
follow, or if there was one. -/
structure Scenario.Told (lines : List FeatureLine) (s : Scenario) (table : Option OpenTable) :
    Prop where
  main : List.Forall₂ (fun body m => MainCondition.ToldBy body m) (bodies .when lines)
    (s.whole table).condition.toList
  positive : List.Forall₂ PositiveIn (bodies .outcome lines) s.positive.toList
  negative : List.Forall₂ NegativeIn (bodies .but lines) s.negative.toList
  required : ∀ q ∈ (s.whole table).requirements, ∀ c ∈ q.conditions, c.StandsIn lines
  decided : ∀ m, (s.whole table).condition = some m → ∀ c ∈ m.conditions, c.StandsIn lines
  categories : ((s.whole table).requirements.map (·.category)).Nodup
  groups : ∀ q ∈ s.requirements, q.conditions ≠ []
  clauses : ∀ logic, s.condition ≠ some (.compound logic [])
  early : table.isSome → s.condition = none
  last : ∀ kind, s.last = some kind → kind = .given ∨
    (kind = .when ∧ (s.whole table).condition.isSome) ∨ (kind = .outcome ∧ s.positive.isSome)

/-- One thing is told by one body. -/
lemma told_some {α : Type} {R : List Char → α → Prop} {bodies : List (List Char)} {a : α} :
    List.Forall₂ R bodies (some a).toList ↔ ∃ body, bodies = [body] ∧ R body a := by
  rw [Option.toList_some, List.forall₂_cons_right_iff]
  simp only [List.forall₂_nil_right_iff]
  constructor
  · rintro ⟨body, _, h, rfl, rfl⟩
    exact ⟨body, rfl, h⟩
  · rintro ⟨body, rfl, h⟩
    exact ⟨body, [], h, rfl, rfl⟩

/-- The first thing that is told. -/
lemma told_first {α : Type} {R : List Char → α → Prop} {bodies : List (List Char)}
    {before : Option α} {body : List Char} {a : α} (h : List.Forall₂ R bodies before.toList)
    (first : before = none) (told : R body a) :
    List.Forall₂ R (bodies ++ [body]) (some a).toList := by
  subst first
  rw [List.forall₂_nil_right_iff.1 h, List.nil_append]
  exact told_some.2 ⟨body, rfl, told⟩

/-- A line without a body under the word adds none. -/
lemma bodies_other {word : StepWord} {lines : List FeatureLine} {l : FeatureLine}
    (h : l.body? word = none) :
    bodies word (lines ++ [l]) = bodies word lines := by
  simp [bodies, h]

/-- A step adds its body under its word. -/
lemma bodies_step (word : StepWord) (lines : List FeatureLine) (body : List Char) :
    bodies word (lines ++ [.step word body]) = bodies word lines ++ [body] := by
  simp [bodies, FeatureLine.body?]

namespace Scenario

variable {lines lines' : List FeatureLine} {t : OpenTable}

/-- A scenario without any lines has been told nothing. -/
lemma Told.start (title : List Char) (tags : List Tag) (line : ℕ) :
    Told [] { title, tags, line } none where
  main := .nil
  positive := .nil
  negative := .nil
  required := List.forall_mem_nil _
  decided := nofun
  categories := List.nodup_nil
  groups := List.forall_mem_nil _
  clauses := nofun
  early := nofun
  last := nofun

/-- Lines that add no step but `Given` and `And` keep what has been told. -/
lemma Told.mono (h : s.Told lines table) (sub : lines ⊆ lines')
    (same : ∀ word ∈ [StepWord.when, .outcome, .but], bodies word lines' = bodies word lines) :
    s.Told lines' table := by
  refine ⟨?_, ?_, ?_, fun q hq c hc => ?_, fun m hm c hc => ?_, h.categories, h.groups,
    h.clauses, h.early, h.last⟩
  · rw [same .when (by decide)]
    exact h.main
  · rw [same .outcome (by decide)]
    exact h.positive
  · rw [same .but (by decide)]
    exact h.negative
  · exact (h.required q hq c hc).mono sub
  · exact (h.decided m hm c hc).mono sub

/-- A line that is no step tells nothing but a condition. -/
lemma Told.line (h : s.Told lines table) {l : FeatureLine}
    (other : ∀ word ∈ [StepWord.when, .outcome, .but], l.body? word = none) :
    s.Told (lines ++ [l]) table := by
  refine h.mono (List.subset_append_left _ _) fun word hw => ?_
  exact bodies_other (other word hw)

/-- The row with the names of the columns changes no condition, and any other row adds its own. -/
lemma addRow_ok {cells : List (List Char)} {t' : OpenTable} (h : addRow st n t cells = .ok t') :
    t' = { t with headed := true } ∨
      ∃ c p, (FeatureLine.row cells).condition? = some p ∧ c.Says p ∧
      t' = { t with rows := t.rows ++ [c] } := by
  unfold addRow at h
  split at h
  · split at h
    · cases h
      exact .inl rfl
    · cases h
  · split at h
    · split at h
      · cases h
      · obtain ⟨c, hc, h⟩ := Outcome.bind_ok.1 h
        cases h
        exact .inr ⟨c, _, rfl, readCondition_ok.1 hc, rfl⟩
    · cases h

/-- A row adds its condition. -/
lemma Told.row (h : s.Told lines (some t)) {cells : List (List Char)} {t' : OpenTable}
    (added : addRow st n t cells = .ok t') : s.Told (lines ++ [.row cells]) (some t') := by
  have h := h.line (l := .row cells) fun _ _ => rfl
  obtain ⟨heading, line, headed, rows⟩ := t
  obtain rfl | ⟨c, p, hp, hc, rfl⟩ := addRow_ok added
  · cases heading <;> exact { h with }
  · have new : c.StandsIn (lines ++ [.row cells]) :=
      ⟨_, List.mem_append_right _ (.head _), p, hp, hc⟩
    cases heading with
    | requirement category =>
      obtain ⟨before, open_⟩ := List.forall_mem_append.1 h.required
      refine { h with required := ?_, categories := ?_ }
      · refine List.forall_mem_append.2 ⟨before, List.forall_mem_singleton.2 ?_⟩
        exact List.forall_mem_append.2 ⟨List.forall_mem_singleton.1 open_,
          List.forall_mem_singleton.2 new⟩
      · simpa [whole, addTable] using h.categories
    | compound logic =>
      refine { h with main := ?_, decided := fun m hm => ?_ }
      · obtain ⟨body, one, told⟩ := told_some.1 h.main
        exact told_some.2 ⟨body, one, told.rows _⟩
      · cases hm
        exact List.forall_mem_append.2 ⟨h.decided _ rfl, List.forall_mem_singleton.2 new⟩

/-- Closing a table with rows makes it a part of the scenario. -/
lemma Told.close (h : s.Told lines (some t)) (rows : t.rows ≠ []) :
    (s.addTable t).Told lines none := by
  obtain ⟨heading, line, headed, conditions⟩ := t
  cases heading with
  | requirement category =>
    refine { h with groups := ?_, clauses := h.clauses, early := nofun }
    exact List.forall_mem_append.2 ⟨h.groups, List.forall_mem_singleton.2 rows⟩
  | compound logic =>
    refine { h with clauses := fun other none => ?_, early := nofun }
    cases none
    exact rows rfl

variable {body : List Char} {word : StepWord}

/-- A requirement tells its category. -/
lemma Told.requirement (h : s.Told lines none) (hw : word = .given ∨ word = .also)
    (turns : Turns { s with last := some .given } n body .given s' table) :
    s'.Told (lines ++ [.step word body]) table := by
  have other : ∀ v ∈ [StepWord.when, .outcome, .but], word ≠ v := by
    obtain rfl | rfl := hw <;> decide
  have h := h.line (l := .step word body) fun v hv => if_neg (other v hv)
  cases turns with
  | @requirement category _ _ early fresh =>
    refine { h with
      required := ?_, categories := ?_, early := fun _ => early, last := fun kind hk => ?_ }
    · exact List.forall_mem_append.2 ⟨h.required,
        List.forall_mem_singleton.2 (List.forall_mem_nil _)⟩
    · simp only [whole, addTable, List.map_append, List.map_singleton]
      exact List.nodup_append_comm.1 (List.nodup_cons.2 ⟨fresh, h.categories⟩)
    · cases hk
      exact .inl rfl

/-- A step tells the main condition. -/
lemma Told.decision (h : s.Told lines none)
    (turns : Turns { s with last := some .when } n body .when s' table) :
    s'.Told (lines ++ [.step .when body]) table := by
  have positive := h.positive
  have negative := h.negative
  rw [← bodies_other (l := .step .when body) (by rfl)] at positive negative
  have required : ∀ q ∈ s.requirements, ∀ c ∈ q.conditions,
      c.StandsIn (lines ++ [.step .when body]) :=
    fun q hq c hc => (h.required q hq c hc).mono (List.subset_append_left _ _)
  cases turns with
  | compound first early =>
    refine ⟨?_, positive, negative, required, fun m hm c hc => ?_, h.categories, h.groups,
      h.clauses, fun _ => early, fun kind hk => ?_⟩
    · rw [bodies_step]
      exact told_first h.main early (.compound first)
    · cases hm
      cases hc
    · cases hk
      exact .inr (.inl ⟨rfl, rfl⟩)
  | @single p _ c other first early hc =>
    have stands : c.StandsIn (lines ++ [.step .when body]) := by
      refine ⟨.step .when body, List.mem_append_right _ (.head _), p, ?_, hc⟩
      rw [FeatureLine.condition?, other, first]
      rfl
    refine ⟨?_, positive, negative, required, fun m hm d hd => ?_, h.categories,
      h.groups, nofun, nofun, fun kind hk => ?_⟩
    · rw [bodies_step]
      exact told_first h.main early (.single other first hc)
    · cases hm
      cases List.mem_singleton.1 hd
      exact stands
    · cases hk
      exact .inr (.inl ⟨rfl, rfl⟩)

/-- A step tells the positive status. -/
lemma Told.outcome (h : s.Told lines none)
    (turns : Turns { s with last := some .outcome } n body .outcome s' table) :
    s'.Told (lines ++ [.step .outcome body]) table := by
  have sub : lines ⊆ lines ++ [.step .outcome body] := List.subset_append_left _ _
  have main := h.main
  have negative := h.negative
  rw [← bodies_other (l := .step .outcome body) (by rfl)] at main negative
  cases turns with
  | positive first new =>
    refine ⟨main, ?_, negative, fun q hq c hc => (h.required q hq c hc).mono sub,
      fun m hm c hc => (h.decided m hm c hc).mono sub, h.categories, h.groups, h.clauses, nofun,
        fun kind hk => ?_⟩
    · rw [bodies_step]
      exact told_first h.positive new first
    · cases hk
      exact .inr (.inr ⟨rfl, rfl⟩)

/-- A step tells the negative status. -/
lemma Told.otherwise (h : s.Told lines none) (turns : Turns s n body .but s' table) :
    s'.Told (lines ++ [.step .but body]) table := by
  have sub : lines ⊆ lines ++ [.step .but body] := List.subset_append_left _ _
  have main := h.main
  have positive := h.positive
  rw [← bodies_other (l := .step .but body) (by rfl)] at main positive
  cases turns with
  | negative first new =>
    refine ⟨main, positive, ?_, fun q hq c hc => (h.required q hq c hc).mono sub,
      fun m hm c hc => (h.decided m hm c hc).mono sub, h.categories, h.groups,
        h.clauses, nofun, h.last⟩
    rw [bodies_step]
    exact told_first h.negative new first

/-- A step that is read tells what its kind does. -/
lemma Told.step (h : s.Told lines none) (read : readStep st n s word body = .ok (s', table)) :
    s'.Told (lines ++ [.step word body]) table ∧ s'.line = s.line := by
  obtain ⟨⟨s₁, kind⟩, hk, body_read⟩ := Outcome.bind_ok.1 read
  obtain ⟨rfl, last, rfl⟩ | ⟨rfl, rfl, rfl⟩ | ⟨not_also, not_but, rfl, rfl⟩ := stepKind_ok hk
  · -- `And` goes on with requirements only, since a scenario has one main condition and one
    -- positive status.
    obtain rfl | ⟨rfl, told⟩ | ⟨rfl, told⟩ := h.last kind last
    · have turns : s₁.Turns n body .given s' table := readBody_ok body_read nofun
      refine ⟨h.requirement (.inr rfl) (n := n) ?_, turns.line⟩
      rw [← last]
      exact turns
    · cases readBody_ok body_read nofun with
      | compound _ early | single _ _ early => rw [whole, early] at told; cases told
    · cases readBody_ok body_read nofun with
      | positive _ new => rw [new] at told; cases told
  · have turns := readBody_ok body_read nofun
    exact ⟨h.otherwise turns, turns.line⟩
  · have turns := readBody_ok body_read not_also
    refine ⟨?_, turns.line⟩
    cases kind with
    | given => exact h.requirement (.inl rfl) turns
    | when => exact h.decision turns
    | outcome => exact h.outcome turns
    | also => exact absurd rfl not_also
    | but => exact absurd rfl not_but

/-- A rule that a scenario makes, in a document that may name a domain. -/
structure Makes (st : Setting) (domain : Option String) (s : Scenario) (r : Rule) : Prop where
  finished : finish st domain s = .ok r
  condition : s.condition = some r.condition
  positive : s.positive = some r.positive
  negative : s.negative = some r.negative
  requirements : s.requirements = r.requirements
  line : r.line = some s.line

/-- A scenario that is finished makes a rule. -/
lemma finish_ok {domain : Option String} {r : Rule} (h : finish st domain s = .ok r) :
    Makes st domain s r := by
  have finished := h
  obtain ⟨tags, _, h⟩ := Outcome.bind_ok.1 h
  split at h
  · cases h
  · split at h
    · cases h
    · cases h
    · cases h
    · cases h
    · rename_i condition positive negative _ hc hp hn
      cases h
      exact ⟨finished, hc, hp, hn, rfl, rfl⟩

/-- What a scenario has been told is what its rule is told. -/
lemma Told.rule (h : s.Told lines none) {domain : Option String} {r : Rule}
    (made : Makes st domain s r) :
    r.ToldBy lines := by
  obtain ⟨-, condition, positive, negative, requirements, -⟩ := made
  have main := h.main
  rw [whole, condition, told_some] at main
  have hp := h.positive
  rw [positive, told_some] at hp
  have hn := h.negative
  rw [negative, told_some] at hn
  refine ⟨main, hp, hn, fun c hc => ?_, requirements ▸ h.categories, requirements ▸ h.groups,
    fun logic empty => ?_⟩
  · obtain hc | hc := List.mem_append.1 hc
    · obtain ⟨q, hq, hc⟩ := List.mem_flatMap.1 hc
      exact h.required q (by rwa [whole, requirements]) c hc
    · exact h.decided r.condition condition c hc
  · exact h.clauses logic (by rw [condition, empty])

end Scenario

/-! ## Reading lines -/

/-- The rules that have been read are those of the sections before, and the scenario at hand and the
open table hold what the lines of its section have told. -/
structure Reading.Told (lines : List FeatureLine) (r : Reading) : Prop where
  domain : r.domain ≠ some ""
  scenario : ∀ s, r.scenario = some s → s.Told lines r.table

/-- A rule is made by a scenario that has been told its section. -/
def FromSection (st : Setting) (part : ℕ × List FeatureLine) (r : Rule) : Prop :=
  ∃ domain s, domain ≠ some "" ∧ s.line = part.1 ∧ s.Told part.2 none ∧ Scenario.Makes st domain s r

/-- The value of a tag is not empty. -/
lemma tagValue_ok {tag : Tag} {v : String} (h : tagValue st tag = .ok v) : v ≠ "" := by
  unfold tagValue at h
  dsimp only at h
  split at h
  · cases h
  · rename_i full
    cases h
    intro empty
    rw [String.ofList_eq_empty_iff] at empty
    exact full (by rw [empty]; rfl)

/-- A domain that a document names is not empty. -/
lemma featureDomain_ok {tags : List Tag} :
    ∀ {domain domain' : Option String}, domain ≠ some "" →
    featureDomain st domain tags = .ok domain' →
      domain' ≠ some "" := by
  induction tags with
  | nil =>
    intro domain domain' full h
    cases h
    exact full
  | cons tag tags ih =>
    intro domain domain' full h
    unfold featureDomain at h
    split at h
    · obtain ⟨d, hd, h⟩ := Outcome.bind_ok.1 h
      exact ih (fun empty => tagValue_ok hd (Option.some.inj empty)) h
    · exact ih full h

namespace Reading

variable {r r' : Reading} {lines : List FeatureLine}

/-- At first no scenario is at hand. -/
lemma Told.start : Told [] {} where
  domain named := by cases named
  scenario s held := by cases held

/-- Where the scenario at hand began. -/
def begin? (r : Reading) : Option ℕ := r.scenario.map (·.line)

/-- Closing the table adds no rule, and leaves what has been told. -/
lemma Told.closeTable (h : r.Told lines) (closed : closeTable st r = .ok r') :
    r'.Told lines ∧ r'.table = none ∧ r'.rules = r.rules ∧ r'.begin? = r.begin? := by
  unfold Feature.closeTable at closed
  cases ht : r.table with
  | none =>
    rw [ht] at closed
    cases closed
    exact ⟨h, ht, rfl, rfl⟩
  | some t =>
    rw [ht] at closed
    dsimp only at closed
    split at closed
    · cases closed
    · rename_i rows
      cases closed
      refine ⟨⟨h.domain, fun s' hs' => ?_⟩, rfl, rfl, ?_⟩
      · obtain ⟨s, hs, rfl⟩ := Option.map_eq_some_iff.1 hs'
        have told := h.scenario s hs
        rw [ht] at told
        exact told.close (by simpa using rows)
      · obtain ⟨heading, _, _, _⟩ := t
        cases heading <;> simp [begin?, Scenario.addTable, Function.comp_def]

/-- A line that is neither a row nor the heading of a scenario adds to what the scenario at
hand has been told. -/
lemma Told.readHeading (h : r.Told lines) (closed : r.table = none) {l : FeatureLine}
    (other : l.isScenario = false) (read : readHeading st n r l = .ok r') :
    r'.Told (lines ++ [l]) ∧ r'.rules = r.rules ∧ r'.begin? = r.begin? := by
  cases l with
  | nothing | row =>
    cases read
    exact ⟨⟨h.domain, fun s hs => (h.scenario s hs).line fun _ _ => rfl⟩, rfl, rfl⟩
  | unsupported => cases read
  | tags =>
    obtain ⟨tags, _, read⟩ := Outcome.bind_ok.1 read
    cases read
    exact ⟨⟨h.domain, fun s hs => (h.scenario s hs).line fun _ _ => rfl⟩, rfl, rfl⟩
  | feature =>
    rw [Feature.readHeading] at read
    split at read
    · cases read
    · obtain ⟨domain, hd, read⟩ := Outcome.bind_ok.1 read
      cases read
      exact ⟨⟨featureDomain_ok h.domain hd, fun s hs => (h.scenario s hs).line fun _ _ => rfl⟩, rfl,
        rfl⟩
  | scenario => cases other
  | step word body =>
    rw [Feature.readHeading] at read
    cases hs : r.scenario with
    | none => rw [hs] at read; cases read
    | some s =>
      rw [hs] at read
      obtain ⟨⟨s', table⟩, step, read⟩ := Outcome.bind_ok.1 read
      cases read
      have told := h.scenario s hs
      rw [closed] at told
      obtain ⟨told, line⟩ := told.step step
      refine ⟨⟨h.domain, fun s hs => ?_⟩, rfl, ?_⟩
      · cases hs
        exact told
      · simp [begin?, hs, line]
  | other =>
    rw [Feature.readHeading] at read
    split at read
    · cases read
    · split at read
      · cases read
      · cases read
        exact ⟨⟨h.domain, fun s hs => (h.scenario s hs).line fun _ _ => rfl⟩, rfl, rfl⟩

/-- So does any line that is not the heading of a scenario. -/
lemma Told.readLine (h : r.Told lines) {l : FeatureLine} (other : l.isScenario = false)
    (read : readLine st n r l = .ok r') :
    r'.Told (lines ++ [l]) ∧ r'.rules = r.rules ∧ r'.begin? = r.begin? := by
  unfold Feature.readLine at read
  split at read
  · cases read
    exact ⟨⟨h.domain, fun s hs => (h.scenario s hs).line fun _ _ => rfl⟩, rfl, rfl⟩
  · cases ht : r.table with
    | none => rw [ht] at read; cases read
    | some t =>
      rw [ht] at read
      obtain ⟨t', added, read⟩ := Outcome.bind_ok.1 read
      cases read
      refine ⟨⟨h.domain, fun s hs => ?_⟩, rfl, rfl⟩
      have told := h.scenario s hs
      rw [ht] at told
      exact told.row added
  · obtain ⟨r₁, hc, read⟩ := Outcome.bind_ok.1 read
    obtain ⟨told, closed, rules, begin⟩ := h.closeTable hc
    obtain ⟨told, rules', begin'⟩ := told.readHeading closed other read
    exact ⟨told, rules'.trans rules, begin'.trans begin⟩

/-- The rule of the scenario at hand is made from its section. -/
lemma Told.finishScenario (h : r.Told lines) (closed : r.table = none)
    (finished : finishScenario st r = .ok r') :
    ∃ more, r'.rules = r.rules ++ more ∧ r'.table = none ∧ r'.domain = r.domain ∧
      List.Forall₂ (FromSection st) (r.begin?.map fun n => (n, lines)).toList more := by
  unfold Feature.finishScenario at finished
  cases hs : r.scenario with
  | none =>
    rw [hs] at finished
    cases finished
    refine ⟨[], (List.append_nil _).symm, closed, rfl, ?_⟩
    rw [begin?, hs]
    exact .nil
  | some s =>
    rw [hs] at finished
    obtain ⟨rule, made, finished⟩ := Outcome.bind_ok.1 finished
    cases finished
    have told := h.scenario s hs
    rw [closed] at told
    refine ⟨[rule], rfl, closed, rfl, ?_⟩
    rw [begin?, hs]
    exact .cons ⟨r.domain, s, h.domain, rfl, told, Scenario.finish_ok made⟩ .nil

/-- The heading of a scenario ends the section of the scenario at hand, and begins one. -/
lemma Told.readScenario (h : r.Told lines) {title : List Char}
    (read : Feature.readLine st n r (.scenario title) = .ok r') :
    r'.Told [] ∧ r'.begin? = some n ∧ ∃ more, r'.rules = r.rules ++ more ∧
      List.Forall₂ (FromSection st) (r.begin?.map fun n => (n, lines)).toList more := by
  obtain ⟨r₁, hc, read⟩ := Outcome.bind_ok.1 read
  obtain ⟨told, closed, rules, begin⟩ := h.closeTable hc
  rw [Feature.readHeading] at read
  split at read
  · cases read
  · obtain ⟨r₂, hf, read⟩ := Outcome.bind_ok.1 read
    obtain ⟨more, rules', closed', domain, made⟩ := told.finishScenario closed hf
    cases read
    refine ⟨⟨domain ▸ told.domain, fun s hs => ?_⟩, rfl, more, ?_, begin ▸ made⟩
    · cases hs
      rw [closed']
      exact .start title r₂.pending n
    · rw [← rules]
      exact rules'

/-- The end of the document ends the section of the scenario at hand. -/
lemma Told.closes (h : r.Told lines) {f : Feature} (ends : close st r = .ok f) :
    ∃ more, f.rules = r.rules ++ more ∧
      List.Forall₂ (FromSection st) (r.begin?.map fun n => (n, lines)).toList more := by
  obtain ⟨r₁, hc, ends⟩ := Outcome.bind_ok.1 ends
  obtain ⟨told, closed, rules, begin⟩ := h.closeTable hc
  split at ends
  · cases ends
  · obtain ⟨r₂, hf, ends⟩ := Outcome.bind_ok.1 ends
    obtain ⟨more, rules', -, -, made⟩ := told.finishScenario closed hf
    split at ends
    · cases ends
      exact ⟨more, rules ▸ rules', begin ▸ made⟩
    · cases ends

/-- Reading on makes a rule for the section at hand and for each one that follows. -/
lemma Told.readLines {ls : List FeatureLine} :
    ∀ {n : ℕ} {r : Reading} {lines : List FeatureLine} {f : Feature}, r.Told lines →
      (readLines st n r ls >>= Feature.close st) = .ok f → ∃ more, f.rules = r.rules ++ more ∧
        List.Forall₂ (FromSection st)
        ((r.begin?.map fun n => (n, lines ++ block ls)).toList ++ sections n ls)
          more := by
  induction ls with
  | nil =>
    intro n r lines f h read
    rw [Feature.readLines, Outcome.ok_bind] at read
    rw [sections, List.append_nil, block, List.takeWhile_nil, List.append_nil]
    exact h.closes read
  | cons l ls ih =>
    intro n r lines f h read
    rw [Feature.readLines, bind_assoc] at read
    obtain ⟨r₁, hl, rest⟩ := Outcome.bind_ok.1 read
    cases hs : l.isScenario with
    | false =>
      obtain ⟨told, rules, begin⟩ := h.readLine hs hl
      have on : lines ++ block (l :: ls) = (lines ++ [l]) ++ block ls := by simp [block, hs]
      rw [sections, if_neg (by simp [hs]), on, ← begin, ← rules]
      exact ih told rest
    | true =>
      obtain ⟨title, rfl⟩ : ∃ title, l = .scenario title := by
        cases l with
        | scenario title => exact ⟨title, rfl⟩
        | _ => cases hs
      obtain ⟨told, begin, before, rules, made⟩ := h.readScenario hl
      obtain ⟨after, rules', made'⟩ := ih told rest
      rw [begin] at made'
      have ends : lines ++ block (.scenario title :: ls) = lines := by
        simp [block, FeatureLine.isScenario]
      rw [sections, if_pos hs, ends]
      exact ⟨before ++ after, by rw [rules', rules, List.append_assoc], List.rel_append made made'⟩

end Reading

/-- A document that is read has one rule for every section, in their order, made by a scenario that
has been told the lines of the section. -/
theorem read_sections {text : List Char} {source : Option String} {default : String} {f : Feature}
    (h : read text source default = .ok f) :
    List.Forall₂ (FromSection ⟨source, default⟩)
    (sections 1 ((lines text).map FeatureLine.of)) f.rules := by
  obtain ⟨more, rules, made⟩ := Reading.Told.start.readLines h
  rw [rules]
  exact made

end Feature
end Rulebook
