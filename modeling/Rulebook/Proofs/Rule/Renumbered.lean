import Rulebook.Proofs.Outcome
import Rulebook.Rule.Feature

/-!
# Numbers of lines

The number of a line is never looked at while a document is read. It is only handed on: to tags,
tables and scenarios, from there to rules, and to failures. So where the lines have other numbers,
every step of reading does the same with these numbers (`Feature.readLine_renumber`). If all lines
have one number, reading is a fold over what the lines are (`Feature.readLines_level`).
-/

namespace Rulebook
open Text

/-! ## Other numbers -/

section
variable (ρ : ℕ → ℕ)

/-- The failure, its line numbered anew; what is wrong, and with which rule, stays. -/
def Failure.renumber : Failure → Failure
  | .diagnostic d => .diagnostic { d with place := { d.place with line := d.place.line.map ρ } }
  | e => e

/-- The rule, its line numbered anew. -/
def Rule.renumber (r : Rule) : Rule := { r with line := r.line.map ρ }

/-- The feature with rules that are numbered anew. -/
def Feature.renumber (f : Feature) : Feature := { f with rules := f.rules.map (Rule.renumber ρ) }

namespace Feature

/-- The tag, its line numbered anew. -/
def renumberTag (tag : Tag) : Tag := (tag.1, ρ tag.2)

/-- The table, its line numbered anew. -/
def OpenTable.renumber (t : OpenTable) : OpenTable := { t with line := ρ t.line }

/-- The scenario, its own line and those of its tags numbered anew. -/
def Scenario.renumber (s : Scenario) : Scenario :=
  { s with tags := s.tags.map (renumberTag ρ), line := ρ s.line }

/-- The state of reading, all lines numbered anew. -/
def Reading.renumber (r : Reading) : Reading :=
  { r with
    rules := r.rules.map (Rule.renumber ρ)
    pending := r.pending.map (renumberTag ρ)
    scenario := r.scenario.map (Scenario.renumber ρ)
    table := r.table.map (OpenTable.renumber ρ) }

end Feature
end

namespace Feature

variable {ρ : ℕ → ℕ} {st : Setting} {n : ℕ} {α β : Type}

/-- A line is refused for the same reason under any number. -/
lemma refuse_renumber (g : α → β) (fault : FeatureFault) (rule : Option String) :
    (refuse st (ρ n) fault rule : Outcome β) =
    (refuse st n fault rule : Outcome α).translate (Failure.renumber ρ) g :=
  rfl

/-! ## Conditions and tables -/

/-- A condition is read alike under any number. -/
lemma readCondition_renumber (field operator value : List Char) :
    readCondition st (ρ n) field operator value =
    (readCondition st n field operator value).translate (Failure.renumber ρ) id := by
  unfold readCondition
  split
  · rfl
  · split <;> rfl

/-- A row is added alike under any number. -/
lemma addRow_renumber (t : OpenTable) (cells : List (List Char)) :
    addRow st (ρ n) (t.renumber ρ) cells =
    (addRow st n t cells).translate (Failure.renumber ρ) (OpenTable.renumber ρ) := by
  refine Outcome.ite_translate (Outcome.ite_translate rfl rfl) ?_
  split
  · exact Outcome.ite_translate rfl
      (Outcome.bind_translate (readCondition_renumber _ _ _) fun c _ => rfl)
  · rfl

/-- A table is added alike where the lines have other numbers. -/
lemma Scenario.addTable_renumber (s : Scenario) (t : OpenTable) :
    (s.renumber ρ).addTable (t.renumber ρ) = (s.addTable t).renumber ρ := by
  obtain ⟨heading, _, _, _⟩ := t
  cases heading <;> rfl

/-- A table is closed alike where the lines have other numbers. -/
lemma closeTable_renumber (r : Reading) : closeTable st (r.renumber ρ) =
    (closeTable st r).translate (Failure.renumber ρ) (Reading.renumber ρ) := by
  obtain ⟨begun, name, domain, rules, pending, scenario, table⟩ := r
  cases table with
  | none => rfl
  | some t =>
    refine Outcome.ite_translate rfl ?_
    cases scenario with
    | none => rfl
    | some s =>
      rw [Outcome.translate_ok]
      simp [Reading.renumber, Scenario.addTable_renumber]

/-! ## Tags -/

/-- The value of a tag does not depend on the number of its line. -/
lemma tagValue_renumber (tag : Tag) : tagValue st (renumberTag ρ tag) =
    (tagValue st tag).translate (Failure.renumber ρ) id :=
  Outcome.ite_translate rfl rfl

/-- Tags are read alike under any number. -/
lemma readTags_renumber (words : List (List Char)) : readTags st (ρ n) words =
    (readTags st n words).translate (Failure.renumber ρ) (List.map (renumberTag ρ)) := by
  induction words with
  | nil => rfl
  | cons word words ih =>
    unfold readTags
    split
    · exact Outcome.bind_translate ih fun tags _ => rfl
    · rfl

/-- The domain of a feature does not depend on the numbers of its tags. -/
lemma featureDomain_renumber (tags : List Tag) :
    ∀ domain, featureDomain st domain (tags.map (renumberTag ρ)) =
    (featureDomain st domain tags).translate (Failure.renumber ρ) id := by
  induction tags with
  | nil => intro domain; rfl
  | cons tag tags ih =>
    intro domain
    exact Outcome.ite_translate (Outcome.bind_translate (tagValue_renumber tag) fun d _ => ih _)
      (ih domain)

/-- What the tags of a scenario say does not depend on the numbers of their lines. -/
lemma readScenarioTags_renumber (tags : List Tag) :
    ∀ t, readScenarioTags st t (tags.map (renumberTag ρ)) =
    (readScenarioTags st t tags).translate (Failure.renumber ρ) id := by
  induction tags with
  | nil => intro t; rfl
  | cons tag tags ih =>
    intro t
    have value (set : String → ScenarioTags) : set <$> tagValue st (renumberTag ρ tag) =
        (set <$> tagValue st tag).translate (Failure.renumber ρ) id :=
      Outcome.map_translate (tagValue_renumber tag) fun _ => rfl
    rw [List.map_cons, readScenarioTags, readScenarioTags]
    dsimp only [renumberTag] at value ⊢
    split
    · exact Outcome.bind_translate (Outcome.ite_translate rfl (value _)) fun t _ => ih t
    · exact Outcome.bind_translate (Outcome.ite_translate rfl (value _)) fun t _ => ih t
    · exact Outcome.bind_translate (Outcome.ite_translate rfl (value _)) fun t _ => ih t
    all_goals exact ih _

/-! ## Scenarios -/

variable (s : Scenario) (body : List Char)

/-- A scenario makes its rule alike where the lines have other numbers. -/
lemma finish_renumber (domain : Option String) : finish st domain (s.renumber ρ) =
    (finish st domain s).translate (Failure.renumber ρ) (Rule.renumber ρ) := by
  refine Outcome.bind_translate (readScenarioTags_renumber s.tags {}) fun tags _ => ?_
  dsimp only [id, Scenario.renumber]
  split
  · rfl
  · split <;> rfl

/-- The scenario at hand is finished alike where the lines have other numbers. -/
lemma finishScenario_renumber (r : Reading) : finishScenario st (r.renumber ρ) =
    (finishScenario st r).translate (Failure.renumber ρ) (Reading.renumber ρ) := by
  obtain ⟨begun, name, domain, rules, pending, scenario, table⟩ := r
  cases scenario with
  | none => rfl
  | some s =>
    refine Outcome.bind_translate (finish_renumber s domain) fun rule _ => ?_
    simp [Reading.renumber]

/-- A requirement is read alike under any number. -/
lemma requirementStep_renumber : requirementStep st (ρ n) (s.renumber ρ) body =
    (requirementStep st n s body).translate (Failure.renumber ρ) (OpenTable.renumber ρ) := by
  unfold requirementStep
  split
  · rfl
  · exact Outcome.ite_translate rfl (Outcome.ite_translate rfl rfl)

/-- What a step makes, its lines numbered anew. -/
def renumberStep (ρ : ℕ → ℕ) (p : Scenario × Option OpenTable) : Scenario × Option OpenTable :=
  (p.1.renumber ρ, p.2.map (OpenTable.renumber ρ))

/-- A condition step is read alike under any number. -/
lemma conditionStep_renumber : conditionStep st (ρ n) (s.renumber ρ) body =
    (conditionStep st n s body).translate (Failure.renumber ρ) (renumberStep ρ) := by
  refine Outcome.ite_translate rfl ?_
  split
  · rfl
  · exact Outcome.bind_translate (readCondition_renumber _ _ _) fun c _ => rfl
  · rfl

/-- The step for the positive status is read alike under any number. -/
lemma positiveStep_renumber : positiveStep st (ρ n) (s.renumber ρ) body =
    (positiveStep st n s body).translate (Failure.renumber ρ) (Scenario.renumber ρ) := by
  unfold positiveStep
  split
  · rfl
  · exact Outcome.ite_translate rfl rfl

/-- The step for the negative status is read alike under any number. -/
lemma negativeStep_renumber : negativeStep st (ρ n) (s.renumber ρ) body =
    (negativeStep st n s body).translate (Failure.renumber ρ) (Scenario.renumber ρ) := by
  unfold negativeStep
  split
  · rfl
  · exact Outcome.ite_translate rfl rfl

/-- The body of a step is read alike under any number. -/
lemma readBody_renumber (kind : StepWord) : readBody st (ρ n) (s.renumber ρ) body kind =
    (readBody st n s body kind).translate (Failure.renumber ρ) (renumberStep ρ) := by
  cases kind with
  | given => exact Outcome.map_translate (requirementStep_renumber s body) fun _ => rfl
  | when => exact conditionStep_renumber s body
  | outcome => exact Outcome.map_translate (positiveStep_renumber s body) fun _ => rfl
  | also | but => exact Outcome.map_translate (negativeStep_renumber s body) fun _ => rfl

/-- A step is read alike under any number. -/
lemma readStep_renumber (word : StepWord) : readStep st (ρ n) (s.renumber ρ) word body =
    (readStep st n s word body).translate (Failure.renumber ρ) (renumberStep ρ) := by
  have kind : stepKind st (ρ n) (s.renumber ρ) word =
      (stepKind st n s word).translate (Failure.renumber ρ) fun p => (p.1.renumber ρ, p.2) := by
    unfold stepKind
    dsimp only [Scenario.renumber]
    split <;> rfl
  exact Outcome.bind_translate kind fun p _ => readBody_renumber p.1 body p.2

/-! ## Lines -/

/-- A line that is no row is read alike under any number. -/
lemma readHeading_renumber (r : Reading) (l : FeatureLine) : readHeading st (ρ n) (r.renumber ρ) l =
    (readHeading st n r l).translate (Failure.renumber ρ) (Reading.renumber ρ) := by
  cases l with
  | nothing | row | unsupported => rfl
  | tags words =>
    refine Outcome.bind_translate (readTags_renumber words) fun tags _ => ?_
    simp [Reading.renumber]
  | feature title =>
    refine Outcome.ite_translate rfl ?_
    exact Outcome.bind_translate (featureDomain_renumber r.pending r.domain) fun domain _ => rfl
  | scenario title =>
    refine Outcome.ite_translate rfl ?_
    exact Outcome.bind_translate (finishScenario_renumber r) fun r _ => rfl
  | step word body =>
    obtain ⟨begun, name, domain, rules, pending, scenario, table⟩ := r
    cases scenario with
    | none => rfl
    | some s => exact Outcome.bind_translate (readStep_renumber s body word) fun p _ => rfl
  | other text =>
    obtain ⟨begun, name, domain, rules, pending, scenario, table⟩ := r
    cases scenario with
    | none => exact Outcome.ite_translate rfl rfl
    | some s => rfl

/-- A line is read in the same way where lines have other numbers. -/
lemma readLine_renumber (r : Reading) (l : FeatureLine) : readLine st (ρ n) (r.renumber ρ) l =
    (readLine st n r l).translate (Failure.renumber ρ) (Reading.renumber ρ) := by
  unfold readLine
  split
  · rfl
  · obtain ⟨begun, name, domain, rules, pending, scenario, table⟩ := r
    cases table with
    | none => rfl
    | some t => exact Outcome.bind_translate (addRow_renumber t _) fun t _ => rfl
  · exact Outcome.bind_translate (closeTable_renumber r) fun r _ => readHeading_renumber r _

/-- So is the end of a document, if the first line keeps its number: a document without a
feature is refused there. -/
lemma close_renumber (first : ρ 1 = 1) (r : Reading) : close st (r.renumber ρ) =
    (close st r).translate (Failure.renumber ρ) (Feature.renumber ρ) := by
  refine Outcome.bind_translate (closeTable_renumber r) fun r _ => ?_
  have last : (r.renumber ρ).pending.getLast? = r.pending.getLast?.map (renumberTag ρ) :=
    List.getLast?_map
  rw [last]
  cases r.pending.getLast? with
  | some tag => rfl
  | none =>
    refine Outcome.bind_translate (finishScenario_renumber r) fun r _ =>
      Outcome.ite_translate rfl ?_
    rw [← refuse_renumber, first]

/-- Reading does not depend on how lines are numbered: if all of them have one number, it
is a fold over them. -/
lemma readLines_level (k : ℕ) (ls : List FeatureLine) :
    ∀ n r, ls.foldlM (readLine st k) (r.renumber fun _ => k) =
    (readLines st n r ls).translate (Failure.renumber fun _ => k)
    (Reading.renumber fun _ => k) := by
  induction ls with
  | nil => intro n r; rfl
  | cons l ls ih =>
    intro n r
    rw [List.foldlM_cons]
    exact Outcome.bind_translate (@readLine_renumber (fun _ => k) st n r l) fun r _ => ih (n + 1) r

/-- What is read, all lines numbered as the first. -/
def level (x : Outcome Feature) : Outcome Feature :=
  x.translate (Failure.renumber fun _ => 1) (Feature.renumber fun _ => 1)

/-- A document is read line by line, whatever the numbers of its lines. -/
lemma level_read (text : List Char) (source : Option String) (default : String) :
    level (read text source default) =
      ((lines text).map FeatureLine.of).foldlM (readLine ⟨source, default⟩ 1)
      {} >>= close ⟨source, default⟩ :=
  (Outcome.bind_translate (readLines_level 1 _ 1 {}) fun r _ => close_renumber rfl r).symm

end Feature
end Rulebook
