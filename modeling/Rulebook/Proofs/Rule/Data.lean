import Rulebook.Proofs.Data
import Rulebook.Proofs.Rule.Written
import Rulebook.Rule.Book

/-!
# Books as data lose only the places of rules

A book that is written as data is read back with all of its rules and its registry
(`Book.Described.ofData_toData`); only where the rules stand in their documents is not written. What
tells apart the two forms of a main condition is the key of the logic, which no condition on its own
has; a description that is empty is not written either, but no rule that is read from a document has
such a description (`Book.described_of_read`).
-/

namespace Rulebook
open Value

/-- The rule without its place. -/
def Rule.unplaced (r : Rule) : Rule := { r with source := none, line := none }

/-- The book with rules that have no place. -/
def Book.unplaced (b : Book) : Book := { b with rules := b.rules.map Rule.unplaced }

/-- The rules have no empty description. -/
def Book.Described (b : Book) : Prop := ∀ r ∈ b.rules, r.description ≠ some ""

/-! ## Names and literals -/

/-- The symbol of an operator is read back. -/
@[simp] lemma Operator.ofData_symbol (o : Operator) : Operator.ofData (.text o.symbol) = .ok o := by
  cases o <;> rfl

/-- The name of a logic is read back. -/
@[simp] lemma Logic.member_name (l : Logic) : Data.member ofName? (.text l.name) = .ok l := by
  cases l <;> rfl

/-- The name of a kind is read back. -/
@[simp] lemma TargetKind.member_name (k : TargetKind) :
    Data.member ofName? (.text k.name) = .ok k := by
  cases k <;> rfl

/-- A literal is read back in its shape. -/
@[simp] lemma Literal.ofValue?_toValue (l : Literal) : ofValue? l.toValue = some l := by
  cases l <;> rfl

/-! ## Conditions -/

/-- A condition is read back, with the text of its literal if it has one. -/
lemma Condition.ofData_toData (c : Condition) : Condition.ofData c.toData = .ok c := by
  obtain ⟨field, operator, literal, written⟩ := c
  cases written with
  | none => simp [Condition.ofData, Condition.toData, Outcome.ok_bind]
  | some text => simp [Condition.ofData, Condition.toData, Outcome.ok_bind]

/-- Conditions are read back. -/
lemma mapM_condition (cs : List Condition) :
    (cs.map Condition.toData).mapM Condition.ofData = .ok cs :=
  Data.mapM_back fun c _ => c.ofData_toData

/-- A main condition is read back in its form. -/
lemma MainCondition.ofData_toData (m : MainCondition) : MainCondition.ofData m.toData = .ok m := by
  cases m with
  | single c =>
    -- None of the keys of a condition is that of the logic.
    have simple : MainCondition.ofData c.toData = .single <$> Condition.ofData c.toData := by
      obtain ⟨field, operator, literal, written⟩ := c
      cases written <;> rfl
    show MainCondition.ofData c.toData = _
    rw [simple, c.ofData_toData]
    rfl
  | compound logic cs =>
    show (do
      let clauses ← (← Data.items (some (.list (cs.map Condition.toData)))).mapM Condition.ofData
      let logic ← Data.member Logic.ofName? (.text logic.name)
      Except.ok (MainCondition.compound logic clauses)) = _
    rw [Data.items_list, Outcome.ok_bind, mapM_condition, Outcome.ok_bind,
      Logic.member_name, Outcome.ok_bind]

/-- A requirement is read back. -/
lemma Requirement.ofData_toData (q : Requirement) : Requirement.ofData q.toData = .ok q := by
  have conditions := mapM_condition q.conditions
  simp [Requirement.ofData, Requirement.toData, conditions, Outcome.ok_bind]

/-! ## Rules -/

/-- A target is read back. -/
lemma Target.ofData_toData (t : Target) : Target.ofData t.toData = .ok t := by
  simp [Target.ofData, Target.toData, Data.required, Outcome.ok_bind]

/-- A status is read back. -/
lemma statusOfData_statusData (status : String) :
    statusOfData (statusData status) = .ok status := by
  simp [statusOfData, statusData, Data.required, Outcome.ok_bind]

/-- A rule is read back without its place. -/
lemma Rule.ofData_toData {r : Rule} (hd : r.description ≠ some "") :
    Rule.ofData r.toData = .ok r.unplaced := by
  have requirements : (r.requirements.map Requirement.toData).mapM Requirement.ofData =
      .ok r.requirements :=
    Data.mapM_back fun q _ => q.ofData_toData
  obtain ⟨name, target, blocking, qs, condition, positive, negative, description, source, line⟩ := r
  cases description with
  | none =>
    simp [Rule.ofData, Rule.toData, Rule.unplaced, MainCondition.ofData_toData,
      Target.ofData_toData, statusOfData_statusData, requirements, Outcome.ok_bind]
  | some d =>
    have written : d ≠ "" := fun h => hd (congrArg some h)
    simp [Rule.ofData, Rule.toData, Rule.unplaced, MainCondition.ofData_toData,
      Target.ofData_toData, statusOfData_statusData, requirements, written, Outcome.ok_bind]

/-! ## Registries and books -/

/-- A field of a category is read back. -/
lemma ContextField.ofData_record (f : ContextField) :
    ContextField.ofData (record [("name", .text f.name), ("type", .text f.type.name)]) = .ok f := by
  simp [ContextField.ofData, Data.required, Outcome.ok_bind]

/-- A category is read back under its name. -/
lemma Category.ofData_toData (c : Category) : Category.ofData (.text c.name) c.toData = .ok c := by
  have fields : (c.fields.map fun f =>
      record [("name", .text f.name), ("type", .text f.type.name)]).mapM
      ContextField.ofData = .ok c.fields :=
    Data.mapM_back fun f _ => f.ofData_record
  simp [Category.ofData, Category.toData, fields, Outcome.ok_bind]

/-- A registry is read back. -/
lemma Registry.ofData_toData (r : Registry) : Registry.ofData (some r.toData) = .ok r := by
  have entries : Data.entries (some r.toData) =
      .ok (r.categories.map fun c => (Value.text c.name, c.toData)) := by
    simp [Registry.toData, Function.comp_def]
  have categories : (r.categories.map fun c => (Value.text c.name, c.toData)).mapM
      (Function.uncurry Category.ofData) = .ok r.categories :=
    Data.mapM_back fun c _ => c.ofData_toData
  rw [Registry.ofData, entries, Outcome.ok_bind]
  exact Outcome.bind_ok.2 ⟨r.categories, categories, rfl⟩

/-- A book is read back, its rules without their places. -/
theorem Book.Described.ofData_toData {b : Book} (h : b.Described) :
    Book.ofData b.toData = .ok b.unplaced := by
  have rules : (b.rules.map Rule.toData).mapM Rule.ofData = .ok (b.rules.map Rule.unplaced) :=
    Data.mapM_written fun r hr => Rule.ofData_toData (h r hr)
  simp [Book.ofData, Book.toData, Book.unplaced, Registry.ofData_toData, rules, Outcome.ok_bind]

/-- A book is written without the places of its rules. -/
lemma Book.toData_unplaced (b : Book) : b.unplaced.toData = b.toData := by
  have rules : (b.rules.map Rule.unplaced).map Rule.toData = b.rules.map Rule.toData := List.map_map
  unfold Book.toData
  rw [← rules]
  rfl

/-- The rules that are read from documents have no empty description. -/
lemma Book.described_of_read {b : Book}
    (read : ∀ r ∈ b.rules, ∃ text source domain f, Feature.read text source domain = .ok f ∧
      r ∈ f.rules) :
    b.Described := by
  intro r hr
  obtain ⟨text, source, default, f, hf, hm⟩ := read r hr
  obtain ⟨domain, s, hs⟩ := Feature.read_finished hf r hm
  exact Feature.description_of_finish hs

end Rulebook
