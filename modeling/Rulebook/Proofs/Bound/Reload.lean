import Rulebook.Proofs.Bound.Correspondence
import Rulebook.Proofs.Catalog.Data
import Rulebook.Proofs.Rule.Data

/-!
# Binding what is read back from data

Binding looks at no place of a rule: places only tell where a rule is that cannot be bound. So a
book and a catalog that are read back from their data are bound as they were before
(`Book.bind_reload`): to the same rules, but for the places in their definitions, or with the same
failure, but for its place.
-/

namespace Rulebook

/-- The failure without the place of its source; what is wrong, and with which rule, stays. -/
def Failure.unplaced : Failure → Failure
  | .diagnostic d => .diagnostic { d with place := {} }
  | e => e

/-- The bound rule, its definition without a place. -/
def BoundRule.unplaced (b : BoundRule) : BoundRule := { b with definition := b.definition.unplaced }

/-- The rule set of the book without places. -/
def RuleSet.unplaced (s : RuleSet) : RuleSet :=
  { s with rules := s.rules.map BoundRule.unplaced, book := s.book.unplaced }

/-! ## Literals -/

/-- A text that is no decimal is refused without a place. -/
lemma unplaced_of_decimalOfText {s : List Char} {e : Failure} (h : decimalOfText s = .error e) :
    e.unplaced = e := by
  unfold decimalOfText at h
  split at h
  · cases h
  · cases h
    rfl

/-- A numeral is refused without a place. -/
lemma unplaced_of_numeral {α : Type} {x : Except Number.NumeralFault α} {e : Failure}
    (h : x.mapError Failure.numeral = .error e) : e.unplaced = e := by
  cases x with
  | ok a => cases h
  | error fault =>
    cases h
    rfl

/-- A literal that is no decimal is refused without a place. -/
lemma Literal.unplaced_of_decimalOf {l : Literal} {e : Failure}
    (h : decimalOf l.toValue = .error e) :
    e.unplaced = e := by
  cases l with
  | text s => exact unplaced_of_decimalOfText h
  | bool | int | float => cases h

/-- A literal that is no double is refused without a place. -/
lemma Literal.unplaced_of_doubleOf {l : Literal} {e : Failure} (h : doubleOf l.toValue = .error e) :
    e.unplaced = e := by
  cases l with
  | float x => cases h
  | bool | int | text => exact unplaced_of_numeral h

/-- A value that is no comparand is refused without a place. -/
lemma Comparand.unplaced_of_ofValue {v : Value} {e : Failure} (h : ofValue v = .error e) :
    e.unplaced = e := by
  unfold ofValue at h
  split at h
  · cases h
  · cases h
  · cases h
  · split at h <;> cases h
  · cases h
  · split at h
    · cases h
    · cases h
      rfl
  · cases h
    rfl

/-- A literal that gets no form to be compared in is refused without a place. -/
lemma Condition.unplaced_of_comparand {c : Condition} {t : ScalarType} {e : Failure}
    (h : c.comparand t = .error e) : e.unplaced = e := by
  obtain h | ⟨v, _, h⟩ := Outcome.bind_error.1 h
  · cases t with
    | decimal =>
      cases hw : c.literalText with
      | some s =>
        rw [hw] at h
        exact unplaced_of_decimalOfText (Outcome.map_error.1 h)
      | none =>
        rw [hw] at h
        exact Literal.unplaced_of_decimalOf (Outcome.map_error.1 h)
    | int32 | int64 | float64 => exact Literal.unplaced_of_doubleOf (Outcome.map_error.1 h)
    | string | bool | date | datetime => cases h
  · exact Comparand.unplaced_of_ofValue h

/-! ## Rules -/

namespace Bind

variable {catalog : Catalog} {registry : Registry} {r : Rule}

/-- A condition is bound as before when its rule has no place. -/
lemma clause_unplaced (c : Condition) (type : Option ScalarType) (category : Option String) :
    clause r.unplaced c type category =
    (clause r c type category).translate Failure.unplaced id := by
  cases type with
  | none => rfl
  | some t =>
    -- Only a literal can fail here, and it does so without a place.
    have same : clause r.unplaced c (some t) category = clause r c (some t) category := by
      rw [clause_some, clause_some]
    rw [same, Outcome.translate_id]
    intro e h
    rw [clause_some] at h
    exact c.unplaced_of_comparand (Outcome.bind_result_error.1 h)

/-- Conditions are bound as before. -/
lemma clauses_unplaced (cs : List Condition) (typeOf : Condition → Option ScalarType)
    (category : Option String) :
    cs.mapM (fun c => clause r.unplaced c (typeOf c) category) =
      (cs.mapM fun c => clause r c (typeOf c) category).translate Failure.unplaced id := by
  rw [Outcome.mapM_translate fun c _ => clause_unplaced c (typeOf c) category, List.map_id_fun]

/-- A requirement is bound as before. -/
lemma gate_unplaced (q : Requirement) :
    gate registry r.unplaced q = (gate registry r q).translate Failure.unplaced id := by
  unfold gate
  exact Outcome.bind_translate (clauses_unplaced _ _ _) fun clauses _ => rfl

/-- A main condition is bound as before. -/
lemma decision_unplaced (binding : Binding) (m : MainCondition) :
    decision r.unplaced binding m = (decision r binding m).translate Failure.unplaced id := by
  cases m with
  | single c => exact Outcome.bind_translate (clause_unplaced _ _ _) fun b _ => rfl
  | compound logic cs => exact Outcome.bind_translate (clauses_unplaced _ _ _) fun bs _ => rfl

/-- A target is found or missed as before. -/
lemma target_unplaced (ts : Targets) :
    target catalog ts r.unplaced = (target catalog ts r).translate Failure.unplaced id := by
  unfold target
  dsimp only [Rule.unplaced]
  split
  · rfl
  · split <;> rfl

/-- A rule is bound as before. -/
lemma rule_unplaced (binding : Binding) :
    rule registry r.unplaced binding =
      (rule registry r binding).translate Failure.unplaced BoundRule.unplaced := by
  have gates : r.requirements.mapM (gate registry r.unplaced) =
      (r.requirements.mapM (gate registry r)).translate Failure.unplaced id := by
    rw [Outcome.mapM_translate fun q _ => gate_unplaced q, List.map_id_fun]
  unfold rule
  refine Outcome.bind_translate gates fun gs _ => ?_
  exact Outcome.bind_translate (decision_unplaced binding r.condition) fun d _ => rfl

/-- Rules are bound as before, to the same targets. -/
lemma rules_unplaced (rs : List Rule) :
    ∀ ts, rules catalog registry ts (rs.map Rule.unplaced) =
      (rules catalog registry ts rs).translate Failure.unplaced fun p =>
      (p.1.map BoundRule.unplaced, p.2) := by
  induction rs with
  | nil => intro ts; rfl
  | cons r rs ih =>
    intro ts
    rw [List.map_cons]
    unfold rules
    refine Outcome.bind_translate (target_unplaced ts) fun found _ => ?_
    refine Outcome.bind_translate (rule_unplaced found.1) fun bound _ => ?_
    exact Outcome.bind_translate (ih found.2) fun more _ => rfl

end Bind

/-- A book without places is bound as before. -/
lemma Book.bind_unplaced (b : Book) (catalog : Catalog) :
    b.unplaced.bind catalog = (b.bind catalog).translate Failure.unplaced RuleSet.unplaced := by
  unfold Book.bind
  exact Outcome.bind_translate (Bind.rules_unplaced b.rules []) fun p _ => rfl

/-- A book that is read from documents is read back from its data, but for the places of its rules,
and has the same data again. What is read back is bound to what is read back of a catalog as the
book is bound to the catalog: to rules that differ in the places of their definitions only, or with
a failure that differs in its place only. -/
theorem Book.bind_reload {book : Book} {catalog : Catalog}
    (read : ∀ r ∈ book.rules, ∃ text source domain f, Feature.read text source domain = .ok f ∧
      r ∈ f.rules)
    (placed : catalog.Placed) :
    Book.ofData book.toData = .ok book.unplaced ∧ book.unplaced.toData = book.toData ∧
      (do let b ← Book.ofData book.toData; let c ← Catalog.ofData catalog.toData; b.bind c) =
        (book.bind catalog).translate Failure.unplaced RuleSet.unplaced := by
  have back := (Book.described_of_read read).ofData_toData
  refine ⟨back, book.toData_unplaced, ?_⟩
  rw [back, Outcome.ok_bind, placed.ofData_toData, Outcome.ok_bind]
  exact book.bind_unplaced catalog

namespace Orders

/-- A document with one rule: a clerk may hold lines that are dear or the first of their order. -/
def text : List Char :=
  ["@domain:sales", "Feature: Orders", "@target:order_lines @rule:HeldLine @blocking",
    "Scenario: Lines on hold", "Given roles context requires:", "| field | operator | value |",
    "| level | >= | 4 |", "When any condition is met:", "| field | operator | value |",
    "| price | > | 1000.10 |", "| line_no | == | 1 |", "Then status is \"HELD\"",
    "But otherwise status is \"FREE\""].flatMap fun l =>
      l.toList ++ ['\n']

/-- The rule of the document. -/
def rule : Rule where
  name := "HeldLine"
  target := { name := "order_lines", domain := "sales" }
  blocking := true
  requirements := [
    { category := "roles"
      conditions := [{ field := "level", operator := .ge, literal := .int 4 }] }]
  condition := .compound .any [
    { field := "price", operator := .gt, literal := .float (.ofScientific false 100010 (-2))
      literalText := some "1000.10" },
    { field := "line_no", operator := .eq, literal := .int 1 }]
  positive := "HELD"
  negative := "FREE"
  description := some "Lines on hold"
  line := some 4

/-- The book of the rule, with the category that the rule requires. -/
def book : Book where
  registry := {
    categories := [{ name := "roles", fields := [{ name := "level", type := .int32 }] }] }
  rules := [rule]

/-- What decides the rule once it is bound, with the price to the last digit. -/
def decision : Decision := .compound .any [
  { field := "price", operator := .gt, literal := .decimal (.finite false 100010 (-2))
    type := .decimal, text := "price > 1000.10" },
  { field := "line_no", operator := .eq, literal := .float (.ofScientific false 1 0), type := .int32
    text := "line_no == 1" }]

/-- The document is read as its rule. -/
lemma read : Feature.read text none "default" =
    .ok { name := "Orders", domain := some "sales", rules := [rule] } := by
  decide +kernel

/-- The rule of the document binds to this decision. -/
lemma decided : (fun set => set.rules.map (·.decision)) <$> book.bind catalog = .ok [decision] := by
  decide +kernel

/-- The rule on order lines is bound after a reload as it was before. -/
theorem book_reload :
    Feature.read text none "default" =
    .ok { name := "Orders", domain := some "sales", rules := [rule] } ∧
      catalog.Placed ∧ Book.ofData book.toData = .ok book.unplaced ∧
      book.unplaced.toData = book.toData ∧ ∃ set, book.bind catalog = .ok set ∧
        (do let b ← Book.ofData book.toData; let c ← Catalog.ofData catalog.toData; b.bind c) =
        .ok set.unplaced ∧ set.unplaced.rules.map (·.decision) = [decision] := by
  have placed : catalog.Placed := compileSchemas_placed compiled
  have written : ∀ r ∈ book.rules, ∃ text source domain f,
      Feature.read text source domain = .ok f ∧ r ∈ f.rules :=
    fun r hr => ⟨_, _, _, _, read, hr⟩
  obtain ⟨back, again, bound⟩ := Book.bind_reload written placed
  obtain ⟨set, hs, hd⟩ := Outcome.map_ok.1 decided
  refine ⟨read, placed, back, again, set, hs, ?_, ?_⟩
  · rw [bound, hs, Outcome.translate_ok]
  · rw [← hd]
    simp [RuleSet.unplaced, BoundRule.unplaced]

end Orders
end Rulebook
