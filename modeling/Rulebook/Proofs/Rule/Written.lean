import Rulebook.Proofs.Rule.Sections

/-!
# Conditions as they were written

What a literal is read as is settled by the shape of its text (`Literal.ReadAs`). Every condition of
a rule that was read from a document has the literal that its text denotes, and keeps the text of a
literal with a point (`Condition.Written`, `Feature.read_written`): it stands in the section that
its rule was read from.
-/

namespace Rulebook
open Text

/-- A condition holds the literal that some text denotes, and its text if it has a point. -/
def Condition.Written (c : Condition) : Prop :=
  ∃ value, Literal.read value = .ok c.literal ∧ c.literalText = c.literal.spelling? value

/-- The conditions of a rule are as they were written. -/
structure Rule.Written (r : Rule) : Prop where
  requirements : ∀ q ∈ r.requirements, ∀ c ∈ q.conditions, c.Written
  condition : ∀ c ∈ r.condition.conditions, c.Written

namespace Literal

/-- What a text without blanks around it is read as, by its shape. -/
inductive ReadAs (s : List Char) : Literal → Prop where
  | text {inner} : unquoted? s = some inner → ReadAs s (.text (String.ofList inner))
  | bool {b : Bool} : s = (if b then "true" else "false").toList → ReadAs s (.bool b)
  | int {n} : isIntegerShape s = true → Number.readInteger s = .ok n → ReadAs s (.int n)
  | float {x} : isFloatShape s = true → Number.Double.read s = .ok x → ReadAs s (.float x)

variable {value : List Char} {l : Literal} {x : Number.Double}

/-- A literal that is read is read as it was written, up to the blanks around it. -/
lemma readAs_of_read (h : read value = .ok l) : ReadAs (trim value) l := by
  unfold read at h
  dsimp only at h
  split at h
  · rename_i inner quoted
    cases h
    exact .text quoted
  · split at h
    · rename_i same
      cases h
      exact .bool (b := true) (beq_iff_eq.1 same)
    · split at h
      · rename_i same
        cases h
        exact .bool (b := false) (beq_iff_eq.1 same)
      · split at h
        · rename_i shape
          cases hr : Number.readInteger (trim value) with
          | error e => rw [hr] at h; cases h
          | ok n => rw [hr] at h; cases h; exact .int shape hr
        · split at h
          · rename_i shape
            cases hr : Number.Double.read (trim value) with
            | error e => rw [hr] at h; cases h
            | ok y => rw [hr] at h; cases h; exact .float shape hr
          · cases h

/-- Only texts with a point denote doubles, and the one that they are read as. -/
lemma read_float (h : read value = .ok (.float x)) :
    isFloatShape (trim value) = true ∧ Number.Double.read (trim value) = .ok x := by
  cases readAs_of_read h with
  | float shape number => exact ⟨shape, number⟩

/-- What stands between quotes is a part of the text. -/
lemma subset_of_unquoted? {s inner : List Char} (h : unquoted? s = some inner) : inner ⊆ s := by
  unfold unquoted? at h
  split at h
  · split at h
    · cases h
      exact List.subset_cons_of_subset _ (List.dropLast_subset _)
    · cases h
  · cases h

end Literal

namespace Condition.Written

variable {c : Condition}

/-- The text of a double is a literal with a point. -/
lemma float (h : c.Written) {x : Number.Double} (hc : c.literal = .float x) :
    ∃ s, c.literalText = some s ∧ Literal.isFloatShape s.toList = true := by
  obtain ⟨value, hr, ht⟩ := h
  rw [hc] at hr ht
  refine ⟨_, ht, ?_⟩
  rw [String.toList_ofList]
  exact (Literal.read_float hr).1

/-- An integer has no text. -/
lemma int (h : c.Written) {n : Int} (hc : c.literal = .int n) : c.literalText = none := by
  obtain ⟨value, _, ht⟩ := h
  rw [ht, hc]
  rfl

end Condition.Written

/-- A condition that stands in a line is as it was written there. -/
lemma Condition.StandsIn.written {c : Condition} {lines : List FeatureLine} (h : c.StandsIn lines) :
    c.Written := by
  obtain ⟨l, _, p, _, hc⟩ := h
  exact ⟨p.value, hc.literal, hc.literalText⟩

/-- The conditions that lines have told are as they were written. -/
lemma Rule.ToldBy.written {r : Rule} {lines : List FeatureLine} (h : r.ToldBy lines) :
    r.Written where
  requirements q hq c hc :=
    (h.conditions c (List.mem_append_left _ (List.mem_flatMap.2 ⟨q, hq, hc⟩))).written
  condition c hc := (h.conditions c (List.mem_append_right _ hc)).written

namespace Feature

variable {text : List Char} {source : Option String} {default : String} {f : Feature}

/-- The rules of a document have the conditions that are written in it. -/
theorem read_written (h : read text source default = .ok f) : ∀ rule ∈ f.rules, rule.Written := by
  intro rule hr
  obtain ⟨part, _, _, s, _, _, told, made⟩ := exists_of_forall₂ (read_sections h) hr
  exact (told.rule made).written

/-- Every rule of a document is that of a finished scenario. -/
theorem read_finished (h : read text source default = .ok f) :
    ∀ rule ∈ f.rules, ∃ domain s, finish ⟨source, default⟩ domain s = .ok rule := by
  intro rule hr
  obtain ⟨part, _, domain, s, _, _, _, made⟩ := exists_of_forall₂ (read_sections h) hr
  exact ⟨domain, s, made.finished⟩

/-- A description that is given to a rule is not empty. -/
lemma description_of_finish {st : Setting} {domain : Option String} {s : Scenario} {rule : Rule}
    (h : finish st domain s = .ok rule) : rule.description ≠ some "" := by
  obtain ⟨tags, _, h⟩ := Outcome.bind_ok.1 h
  split at h
  · cases h
  · split at h
    · cases h
    · cases h
    · cases h
    · cases h
    · cases h
      intro none
      cases ht : s.title with
      | nil => simp [ht] at none
      | cons c cs => simp [ht, String.ext_iff] at none

end Feature
end Rulebook
