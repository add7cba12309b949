import Mathlib.Tactic.Lemma
import Rulebook.Data
import Rulebook.Proofs.Outcome

/-!
# Reading back what was written

Writing makes records, lists and scalars; each reader of a typed part gives back what was written
for it. The lemmas here are the rules by which the reading of a record computes: what stands under a
key (`Value.lookup?_append`), and what a list of written items is read as (`Data.mapM_written`).
-/

namespace Rulebook

namespace Value

/-- Nothing has no entries. -/
@[simp] lemma lookup?_nil (key : String) : lookup? key [] = none := rfl

/-- Under a key stands the first entry that has it. -/
@[simp] lemma lookup?_text_cons (key k : String) (v : Value) (es : List (Value × Value)) :
    lookup? key ((.text k, v) :: es) = if k = key then some v else lookup? key es := rfl

/-- What is not among the first entries is looked for among the others. -/
@[simp] lemma lookup?_append (key : String) (es es' : List (Value × Value)) :
    lookup? key (es ++ es') = (lookup? key es).or (lookup? key es') := by
  induction es with
  | nil => rfl
  | cons e es ih =>
    obtain ⟨k, v⟩ := e
    rw [List.cons_append]
    cases k with
    | text k =>
      rw [lookup?_text_cons, lookup?_text_cons, ih]
      split <;> rfl
    | _ => exact ih

end Value

namespace Data

variable {α β : Type}

/-- A text is read as itself. -/
@[simp] lemma text_text (s : String) : text (.text s) = .ok s := rfl

/-- A text that is there is read as itself. -/
@[simp] lemma optionalText_text (s : String) : optionalText (some (.text s)) = .ok (some s) := rfl

/-- A text may be missing. -/
@[simp] lemma optionalText_none : optionalText none = .ok none := rfl

/-- A truth value is read as itself. -/
@[simp] lemma boolean_bool (default b : Bool) : boolean default (some (.bool b)) = .ok b := rfl

/-- An integer is read as itself. -/
@[simp] lemma integer_int (n : Int) : integer (.int n) = .ok n := rfl

/-- An integer is read back, and so is its absence. -/
@[simp] lemma optionalInteger_map_int (n : Option Int) : optionalInteger (n.map .int) = .ok n := by
  cases n <;> rfl

/-- A missing list has no items. -/
@[simp] lemma items_none : items none = .ok [] := rfl

/-- The items of a list, also of an empty one. -/
@[simp] lemma items_list (vs : List Value) : items (some (.list vs)) = .ok vs := by
  cases vs <;> rfl

/-- The entries of a record are keyed by texts. -/
@[simp] lemma entries_record (es : List (String × Value)) :
    entries (some (.record es)) = .ok (es.map fun (k, v) => (.text k, v)) := rfl

/-- An entry of a record is looked up by its text. -/
@[simp] lemma get_record (es : List (String × Value)) (key : String) :
    get (.record es) key = .ok (Value.lookup? key (es.map fun (k, v) => (.text k, v))) := rfl

/-- An entry of a record is found if it is there. -/
@[simp] lemma index_record (es : List (String × Value)) (key : String) :
    index (.record es) key =
      match Value.lookup? key (es.map fun (k, v) => (.text k, v)) with
      | some v => .ok v
      | none => .error (.missingKey key) := rfl

/-- The keys of a record are texts. -/
@[simp] lemma arguments_record (es : List (String × Value)) :
    arguments (.record es) = .ok (es.map fun (k, v) => (.text k, v)) := by
  simp [arguments, Value.record, Value.points?]

/-- A list of written items is read item by item. -/
lemma mapM_written {read : β → Outcome α} {write : α → β} {f : α → α} {xs : List α}
    (h : ∀ x ∈ xs, read (write x) = .ok (f x)) : (xs.map write).mapM read = .ok (xs.map f) := by
  rw [Outcome.mapM_ok, List.forall₂_map_left_iff, List.forall₂_map_right_iff]
  exact List.forall₂_same.2 h

/-- A list of written items is read back if each of its items is. -/
lemma mapM_back {read : β → Outcome α} {write : α → β} {xs : List α}
    (h : ∀ x ∈ xs, read (write x) = .ok x) :
    (xs.map write).mapM read = .ok xs := by
  have := mapM_written (f := id) h
  rwa [List.map_id] at this

end Data

/-- The name of a scalar type is read back. -/
@[simp] lemma ScalarType.member_name (t : ScalarType) :
    Data.member ofName? (.text t.name) = .ok t := by
  cases t <;> rfl

end Rulebook
