import Rulebook.Proofs.Service.Context
import Rulebook.Service.Request

/-!
# Bodies of requests

What is read from the text of a body. A mapping that is read has texts as keys and no name twice,
since a later entry replaces an earlier one (`Json.read_tidy`). Therefore the context of a body is a
context, and its entity a mapping (`EvaluationBody.read_isContext`).
-/

namespace Rulebook

/-- A value that is no mapping, or a mapping under texts of values that are so in turn. -/
inductive Value.Tidy : Value → Prop where
  | other {v} :
    (∀ es, v ≠ .mapping es) →
    Tidy v
  | mapping {es} :
    Value.Keyed es →
    (∀ e ∈ es, Tidy e.2) →
    Tidy (.mapping es)

namespace Value

variable {es : List (Value × Value)}

/-- Every key of a tidy mapping is a text of its own, and its values are tidy. -/
lemma Tidy.entries (h : (Value.mapping es).Tidy) : Keyed es ∧ ∀ e ∈ es, e.2.Tidy := by
  cases h with
  | other h => exact absurd rfl (h es)
  | mapping keyed values => exact ⟨keyed, values⟩

/-- The text with given code points is whole or broken. -/
lemma ofPoints_cases (ps : List Nat) : (∃ s, ofPoints ps = .text s) ∨ ofPoints ps = .broken ps := by
  unfold ofPoints
  split
  · exact .inl ⟨_, rfl⟩
  · exact .inr rfl

/-- Setting the entry of a text leaves no text twice. -/
lemma Keyed.insertEntry (h : Keyed es) (k : String) (v : Value) :
    Keyed (insertEntry (.text k) v es) := by
  induction h with
  | nil => exact .cons rfl .nil
  | @broken ps w es h ih => exact .broken ih
  | @cons k' w es fresh h ih =>
    rw [Value.insertEntry]
    split
    · exact .cons fresh h
    · rename_i other
      refine .cons ?_ ih
      rw [lookup?_insertEntry, if_neg, fresh]
      rintro rfl
      exact other (sameKey_text.2 rfl)

/-- Setting the entry of a broken text leaves no text twice. -/
lemma Keyed.insertEntry_broken (h : Keyed es) (ps : List Nat) (v : Value) :
    Keyed (Value.insertEntry (.broken ps) v es) := by
  induction h with
  | nil => exact .broken .nil
  | @cons k w es fresh h ih => exact .cons ((lookup?_insertEntry_broken ps k).trans fresh) ih
  | @broken qs w es h ih =>
    rw [Value.insertEntry]
    split
    · exact .broken h
    · exact .broken ih

/-- Tidy entries that are set one by one leave a mapping tidy. -/
lemma tidy_foldl (h : ∀ e ∈ es, (∃ ps, e.1 = ofPoints ps) ∧ e.2.Tidy) {acc : List (Value × Value)}
    (keyed : Keyed acc) (tidy : ∀ e ∈ acc, e.2.Tidy) :
    (mapping (es.foldl (fun acc e => insertEntry e.1 e.2 acc) acc)).Tidy := by
  induction es generalizing acc with
  | nil => exact .mapping keyed tidy
  | cons e es ih =>
    obtain ⟨⟨⟨ps, hk⟩, hv⟩, more⟩ := List.forall_mem_cons.1 h
    obtain ⟨k, v⟩ := e
    subst hk
    have set : Keyed (Value.insertEntry (ofPoints ps) v acc) := by
      obtain ⟨s, hs⟩ | broken := ofPoints_cases ps
      · rw [hs]
        exact keyed.insertEntry s v
      · rw [broken]
        exact keyed.insertEntry_broken ps v
    refine ih more set fun e he => ?_
    obtain rfl | he := mem_insertEntry he
    · exact hv
    · exact tidy e he

/-- Entries under texts make a tidy mapping if their values are tidy. -/
lemma tidy_ofEntries (h : ∀ e ∈ es, (∃ ps, e.1 = ofPoints ps) ∧ e.2.Tidy) : (ofEntries es).Tidy :=
  tidy_foldl h .nil (List.forall_mem_nil _)

/-- A text is no mapping. -/
lemma tidy_ofPoints (ps : List Nat) : (ofPoints ps).Tidy := by
  refine .other fun es e => ?_
  obtain ⟨s, hs⟩ | broken := ofPoints_cases ps
  · cases hs.symm.trans e
  · cases broken.symm.trans e

end Value

namespace Json

variable {α β : Type}

/-- A step that is followed by another succeeds if both together do. -/
lemma bind_ok {x : Except Fault α} {f : α → Except Fault β} {b : β} (h : x >>= f = .ok b) :
    ∃ a, x = .ok a ∧ f a = .ok b := by
  cases x with
  | error e => cases h
  | ok a => exact ⟨a, rfl, h⟩

/-- A number is no mapping, whatever follows its sign. -/
lemma readNumber_tidy {negative : Bool} {s rest : List Char} {v : Value}
    (h : readNumber negative s = .ok (v, rest)) : v.Tidy := by
  refine .other fun es e => ?_
  subst e
  unfold readNumber at h
  dsimp only at h
  repeat' split at h
  all_goals cases h

/-- What is read is tidy, and so are the entries of a mapping that is being read. -/
lemma readValue_tidy (fuel : Nat) :
    (∀ s v rest, readValue fuel s = .ok (v, rest) → v.Tidy) ∧
      ∀ s es rest, readEntries fuel s = .ok (es, rest) → ∀ e ∈ es, (∃ ps, e.1 = .ofPoints ps) ∧
      e.2.Tidy := by
  induction fuel with
  | zero =>
    constructor
    · intro s v rest h; cases h
    · intro s es rest h; cases h
  | succ fuel ih =>
    obtain ⟨value, entries⟩ := ih
    constructor
    · intro s v rest h
      rw [readValue] at h
      split at h
      · obtain ⟨⟨ps, rest⟩, -, h⟩ := bind_ok h
        cases h
        exact Value.tidy_ofPoints ps
      · split at h
        · cases h
          exact .other nofun
        · obtain ⟨⟨items, rest⟩, -, h⟩ := bind_ok h
          cases h
          exact .other nofun
      · split at h
        · cases h
          exact .mapping .nil (List.forall_mem_nil _)
        · obtain ⟨⟨es, rest⟩, read, h⟩ := bind_ok h
          cases h
          exact Value.tidy_ofEntries (entries _ _ _ read)
      · cases h
        exact .other nofun
      · cases h
        exact .other nofun
      · cases h
        exact .other nofun
      · cases h
        exact .other nofun
      · split at h
        · cases h
          exact .other nofun
        · exact readNumber_tidy h
      · split at h
        · cases h
          exact .other nofun
        · exact readNumber_tidy h
    · intro s es rest h
      rw [readEntries] at h
      split at h
      · obtain ⟨⟨key, afterKey⟩, -, h⟩ := bind_ok h
        dsimp only at h
        split at h
        · obtain ⟨⟨v, afterValue⟩, read, h⟩ := bind_ok h
          dsimp only at h
          have first : ∀ ps, (∃ qs, (Value.ofPoints ps, v).1 = .ofPoints qs) ∧
              (Value.ofPoints ps, v).2.Tidy :=
            fun ps => ⟨⟨ps, rfl⟩, value _ _ _ read⟩
          split at h
          · obtain ⟨⟨more, afterMore⟩, readMore, h⟩ := bind_ok h
            cases h
            exact List.forall_mem_cons.2 ⟨first _, entries _ _ _ readMore⟩
          · cases h
            exact List.forall_mem_singleton.2 (first _)
          · cases h
        · cases h
      · cases h

/-- A mapping that is read has texts as keys, none of them twice, and so have those within it. -/
lemma read_tidy {s : List Char} {v : Value} (h : read s = .ok v) : v.Tidy := by
  obtain ⟨⟨w, rest⟩, found, h⟩ := bind_ok h
  dsimp only at h
  split at h
  · cases h
    exact (readValue_tidy _).1 _ _ _ found
  · cases h

end Json

namespace EvaluationBody

/-- A tidy value without misfits as a context is a context. -/
lemma isContext_of_misfits {v : Value} (tidy : v.Tidy) (h : contextMisfits (some v) = []) :
    v.IsContext := by
  cases tidy with
  | other other =>
    unfold contextMisfits at h
    split at h
    · contradiction
    · rename_i es e
      exact absurd (Option.some.inj e) (other es)
    · cases h
  | mapping keyed values =>
    refine .mapping keyed fun (k, v) he => ?_
    have fits := List.filterMap_eq_nil_iff.1 h _ he
    dsimp only at fits
    split at fits
    · exact ⟨_, rfl, (values _ he).entries.1⟩
    · cases fits

/-- The context of a body is one, also if the body leaves it out. -/
theorem read_isContext {s : List Char} {body : EvaluationBody} (h : read s = .ok body) :
    body.context.IsContext := by
  unfold read at h
  split at h
  · cases h
  split at h
  · cases h
  · cases h
  · rename_i es found
    dsimp only at h
    split at h
    · rename_i fits
      cases h
      have fits := (List.append_eq_nil_iff.1 (List.append_eq_nil_iff.1 fits).1).2
      cases hv : Value.lookup? "context" es with
      | none => exact .mapping .nil (List.forall_mem_nil _)
      | some v =>
        obtain ⟨e, he, rfl⟩ := Access.mem_of_lookup? hv
        exact isContext_of_misfits ((Json.read_tidy found).entries.2 e he) (hv ▸ fits)
    · cases h
  · cases h

end EvaluationBody

/-- The context that a request brings in its body is a context. -/
lemma Request.evaluationBody_isContext {r : Request} {untyped : Bool} {body : EvaluationBody}
    (h : r.evaluationBody untyped = .ok body) : body.context.IsContext := by
  unfold evaluationBody at h
  split at h
  · exact EvaluationBody.read_isContext h
  · cases h

end Rulebook
