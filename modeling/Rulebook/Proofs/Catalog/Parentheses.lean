import Mathlib.Order.Lattice
import Rulebook.Proofs.Catalog.Typing

/-!
# Parentheses and types

A pair of parentheses around a part of an expression makes one operand of a row of operands.
`typeOf_parens` says when the type changes by that: a division of whole numbers counts for the
whole row that it stands in, and so is lost in a row with a decimal operand, but is kept
within parentheses.
-/

namespace Rulebook
namespace ScalarType

/-- The place of a type in the widening order; types that are no numbers come first, too. -/
def width (t : ScalarType) : Nat := t.width?.getD 0

/-- There are four widths. -/
lemma width_le (t : ScalarType) : t.width ≤ 3 := by cases t <;> decide

/-- A numeric type goes by its width. -/
lemma eq_of_width {a b : ScalarType} (ha : a.isNumeric = true) (hb : b.isNumeric = true)
    (h : a.width = b.width) :
    a = b := by
  cases a <;> cases ha <;> cases b <;> cases hb <;> first | rfl | cases h

/-- The wider one of two types has the larger width. -/
lemma width_wider (a b : ScalarType) : (a.wider b).width = max a.width b.width := by
  unfold wider
  split
  · exact (Nat.max_eq_right (Nat.le_of_lt ‹_›)).symm
  · exact (Nat.max_eq_left (Nat.le_of_not_lt ‹_›)).symm

/-- The wider one of two numeric types is numeric. -/
lemma isNumeric_wider {a b : ScalarType} (ha : a.isNumeric = true) (hb : b.isNumeric = true) :
    (a.wider b).isNumeric = true := by
  unfold wider
  split
  · exact hb
  · exact ha

/-- The narrow types are those of whole numbers. -/
lemma width_le_one {t : ScalarType} (ht : t.isNumeric = true) :
    t.width ≤ 1 ↔ t = .int32 ∨ t = .int64 := by
  cases t <;> cases ht <;> decide

end ScalarType

namespace Expression
open Sql Text

/-! ## Widths of rows -/

/-- All types of a row are numbers. -/
def Numeric (rs : List Resolved) : Prop := ∀ r ∈ rs, r.type.isNumeric = true

/-- The width of the widest type of a row. -/
def width : List Resolved → Nat
  | [] => 0
  | r :: rs => max r.type.width (width rs)

/-- The width of two rows is the larger one of theirs. -/
lemma width_append (a b : List Resolved) : width (a ++ b) = max (width a) (width b) := by
  induction a with
  | nil => exact (Nat.zero_max _).symm
  | cons r a ih => rw [List.cons_append, width, width, ih, Nat.max_assoc]

/-- A row is not wider than a bound if none of its types is. -/
lemma width_le_iff {rs : List Resolved} {n : Nat} : width rs ≤ n ↔ ∀ r ∈ rs, r.type.width ≤ n := by
  induction rs with
  | nil => simp [width]
  | cons r rs ih => rw [width, Nat.max_le, ih, List.forall_mem_cons]

/-- The widest type of a row. -/
lemma foldl_wider {t : ScalarType} (ht : t.isNumeric = true) {rs : List Resolved} (h : Numeric rs) :
    (rs.foldl (fun t r => t.wider r.type) t).isNumeric = true ∧
      (rs.foldl (fun t r => t.wider r.type) t).width = max t.width (width rs) := by
  induction rs generalizing t with
  | nil => exact ⟨ht, (Nat.max_zero _).symm⟩
  | cons r rs ih =>
    obtain ⟨hr, h⟩ := List.forall_mem_cons.1 h
    obtain ⟨numeric, widest⟩ := ih (t.isNumeric_wider ht hr) h
    exact ⟨numeric, by rw [List.foldl_cons, widest, ScalarType.width_wider, width, Nat.max_assoc]⟩

/-- A row has operands, and a single one is not divided. -/
structure Row (divides : Bool) (rs : List Resolved) : Prop where
  ne_nil : rs ≠ []
  single : rs.length = 1 → divides = false

variable {d d' : Bool} {rs rs' ts : List Resolved}

/-- A single operand is a row that is not divided. -/
lemma Row.one (r : Resolved) : Row false [r] := ⟨List.cons_ne_nil _ _, fun _ => rfl⟩

/-- Several operands are a row. -/
lemma Row.several (h : 2 ≤ rs.length) (divides : Bool) : Row divides rs := by
  refine ⟨?_, fun one => ?_⟩
  · rintro rfl
    cases h
  · rw [one] at h
    cases h with | step h => cases h

/-- Numbers make a number, which is as wide as the widest of them unless a division leaves
the whole numbers. -/
lemma Row.combined (h : Row d rs) (numeric : Numeric rs) : (combined d rs).type.isNumeric = true ∧
    (combined d rs).type.width = if d = true ∧ width rs ≤ 1 then 3 else width rs := by
  match rs, h with
  | [], h => exact absurd rfl h.ne_nil
  | [r], h =>
    rw [h.single rfl]
    exact ⟨numeric r (.head _), by simp [Expression.combined, width]⟩
  | r :: x :: rest, _ =>
    obtain ⟨hr, others⟩ := List.forall_mem_cons.1 numeric
    obtain ⟨number, widest⟩ := foldl_wider hr others
    have widest : _ = width (r :: x :: rest) := widest
    have whole := ScalarType.width_le_one number
    rw [widest] at whole
    simp only [Expression.combined, arithmeticType, Bool.and_eq_true, Bool.or_eq_true,
      beq_iff_eq, ← whole]
    by_cases divided : d = true ∧ width (r :: x :: rest) ≤ 1
    · rw [if_pos divided, if_pos divided]
      exact ⟨rfl, rfl⟩
    · rw [if_neg divided, if_neg divided]
      exact ⟨number, widest⟩

/-- What a row makes may be missing if one of its operands may be. -/
lemma Row.nullable (h : Row d rs) : (Expression.combined d rs).nullable = rs.any (·.nullable) := by
  match rs, h with
  | [], h => exact absurd rfl h.ne_nil
  | [r], _ => exact (Bool.or_false _).symm
  | _ :: _ :: _, _ => rfl

variable {scope : Scope} {item : Projection}

/-- The types of an expression make a row. -/
lemma Tree.Types.row {e : Tree} (h : e.Types scope item rs) : Row e.divides rs := by
  induction h with
  | binary _ _ _ hl hr =>
    have := List.length_pos_of_ne_nil hl.ne_nil
    have := List.length_pos_of_ne_nil hr.ne_nil
    refine .several ?_ _
    rw [List.length_append]
    omega
  | _ => exact .one _

/-! ## Contexts -/

/-- An expression with a place for a part of it. -/
inductive Context where
  | here
  | aggregate (call : Call) (argument : Context) (after : Blanks)
  | parens (before : Blanks) (inner : Context) (after : Blanks)
  | left (left : Context) (before : Blanks) (operator : Operator) (after : Blanks) (right : Tree)
  | right (left : Tree) (before : Blanks) (operator : Operator) (after : Blanks) (right : Context)

namespace Context

/-- The expression with its part. -/
def fill (e : Tree) : Context → Tree
  | here => e
  | aggregate c C after => .aggregate c (C.fill e) after
  | parens before C after => .parens before (C.fill e) after
  | left C before op after r => .binary (C.fill e) before op after r
  | right l before op after C => .binary l before op after (C.fill e)

/-- The type of the part counts for the whole: only aggregates that keep the type of their
argument stand around it. -/
def Keeps : Context → Prop
  | here => True
  | aggregate c C _ => capitals c.function.text ∉ ["COUNT", "SUM", "AVG"] ∧ C.Keeps
  | parens _ C _ => C.Keeps
  | left C _ _ _ _ => C.Keeps
  | right _ _ _ _ C => C.Keeps

end Context

variable (scope item) in
/-- All columns of an expression are numbers. -/
def Tree.IsNumeric : Tree → Prop
  | column q n =>
    ∃ r, resolveColumn scope item (q.map (·.name.text))
      (String.ofList (unquote n.text)) = .ok r ∧ r.type.isNumeric = true
  | aggregate _ e _ => e.IsNumeric
  | parens _ e _ => e.IsNumeric
  | binary l _ _ _ r => l.IsNumeric ∧ r.IsNumeric
  | _ => True

variable (scope item) in
/-- Outside its parentheses, an expression divides, and its operands are whole numbers. -/
def Tree.DividesWhole (e : Tree) : Prop := e.divides = true ∧
  ∀ t ∈ e.operands, ∃ r, typeOf scope item t.text = .ok r ∧ (r.type = .int32 ∨ r.type = .int64)

/-- An aggregate over a number is a number. -/
lemma Call.isNumeric_type (c : Call) {r : Resolved} (h : r.type.isNumeric = true) :
    (c.type r).type.isNumeric = true := by
  unfold Call.type aggregateType
  split
  · rfl
  · split
    · rfl
    · split
      · rfl
      · exact h

/-- An expression over numeric columns has a type, and is a number. -/
lemma Tree.IsNumeric.types {e : Tree} (h : e.IsNumeric scope item) :
    ∃ rs, e.Types scope item rs ∧ Numeric rs := by
  have one {r : Resolved} (hr : r.type.isNumeric = true) : Numeric [r] :=
    List.forall_mem_cons.2 ⟨hr, List.forall_mem_nil _⟩
  induction e with
  | column q n =>
    obtain ⟨r, found, numeric⟩ := h
    exact ⟨_, .column found, one numeric⟩
  | whole => exact ⟨_, .whole, one rfl⟩
  | point => exact ⟨_, .point, one rfl⟩
  | all => exact ⟨_, .all, one rfl⟩
  | aggregate c e after ih =>
    obtain ⟨rs, types, numeric⟩ := ih h
    exact ⟨_, .aggregate types, one (c.isNumeric_type (types.row.combined numeric).1)⟩
  | parens before e after ih =>
    obtain ⟨rs, types, numeric⟩ := ih h
    exact ⟨_, .parens types, one (types.row.combined numeric).1⟩
  | binary l before op after r hl hr =>
    obtain ⟨ls, types, numeric⟩ := hl h.1
    obtain ⟨rs, types', numeric'⟩ := hr h.2
    have numerics : Numeric (ls ++ rs) := List.forall_mem_append.2 ⟨numeric, numeric'⟩
    exact ⟨_, .binary types types' numerics, numerics⟩

/-- Whether an expression divides whole numbers is seen at its row. -/
lemma Tree.Types.dividesWhole_iff {e : Tree} (h : e.Types scope item rs) (numeric : Numeric rs) :
    e.DividesWhole scope item ↔ e.divides = true ∧ width rs ≤ 1 := by
  have isOperand : ∀ t ∈ e.operands, t.IsOperand :=
    List.forall_mem_cons.2 ⟨e.isOperand_first, List.forall_mem_map.2 e.isOperand_others⟩
  have typed : List.Forall₂ (fun t r => typeOf scope item t.text = .ok r) e.operands rs := by
    refine (List.forall₂_iff_get.2 ?_)
    obtain ⟨length, each⟩ := List.forall₂_iff_get.1 (Tree.types_iff.1 h).1
    refine ⟨length, fun i h₁ h₂ => ?_⟩
    exact (typeOf_text _ _).2
      ((Tree.hasType_of_isOperand (isOperand _ (List.get_mem _ _))).2 (each i h₁ h₂))
  refine and_congr_right fun _ => ?_
  rw [width_le_iff]
  clear h isOperand
  generalize e.operands = l at typed
  induction typed with
  | nil => simp
  | @cons t r l rs ht _ ih =>
    obtain ⟨hr, numeric⟩ := List.forall_mem_cons.1 numeric
    rw [List.forall_mem_cons, List.forall_mem_cons, ih numeric, ScalarType.width_le_one hr, ht]
    refine and_congr_left fun _ => ⟨?_, fun whole => ⟨r, rfl, whole⟩⟩
    rintro ⟨_, ⟨⟩, whole⟩
    exact whole

/-! ## Rows with and without parentheses -/

/-- Rows of the same width that leave the whole numbers alike. -/
def Alike (d : Bool) (rs : List Resolved) (d' : Bool) (rs' : List Resolved) : Prop :=
  (d' = d ∧ rs' = rs) ∨ (Numeric rs ∧ Numeric rs' ∧ width rs' = width rs ∧ (d' = d ∨ 1 < width rs))

/-- The second row has a float where the first one divides whole numbers. -/
structure Widened (d : Bool) (rs rs' : List Resolved) : Prop where
  numeric : Numeric rs ∧ Numeric rs'
  width_eq : width rs' = 3
  divides : width rs ≤ 1 → d = true

/-- How the row of an expression changes by a pair of parentheses around a part; `widens` says that
these keep a division of whole numbers together. -/
structure Change (widens : Prop) (d : Bool) (rs : List Resolved) (d' : Bool) (rs' : List Resolved) :
    Prop where
  row : Row d rs
  row' : Row d' rs'
  nullable : rs'.any (·.nullable) = rs.any (·.nullable)
  widened : widens → Widened d rs rs'
  alike : ¬ widens → Alike d rs d' rs'

namespace Change

variable {widens : Prop}

/-- A change of a row leaves it numeric, or leaves it not. -/
lemma numeric_iff (h : Change widens d rs d' rs') : Numeric rs' ↔ Numeric rs := by
  by_cases w : widens
  · exact iff_of_true (h.widened w).numeric.2 (h.widened w).numeric.1
  · obtain ⟨-, same⟩ | ⟨numeric, numeric', -⟩ := h.alike w
    · rw [same]
    · exact iff_of_true numeric' numeric

/-- Parentheses make an operand of a row. -/
lemma parens (row : Row d rs) (numeric : rs.length = 1 ∨ Numeric rs)
    (hw : widens ↔ Numeric rs ∧ d = true ∧ width rs ≤ 1) :
    Change widens d rs false [combined d rs] := by
  refine ⟨row, .one _, ?_, fun w => ?_, ?_⟩
  · rw [List.any_cons, List.any_nil, Bool.or_false, row.nullable]
  · obtain ⟨numeric, hd, narrow⟩ := hw.1 w
    obtain ⟨number, wide⟩ := row.combined numeric
    rw [if_pos ⟨hd, narrow⟩] at wide
    exact ⟨⟨numeric, List.forall_mem_singleton.2 number⟩, by rw [width, width, wide]; rfl,
      fun _ => hd⟩
  · intro w
    obtain single | numeric := numeric
    · obtain ⟨r, rfl⟩ := List.length_eq_one_iff.1 single
      exact .inl ⟨(row.single rfl).symm, rfl⟩
    · obtain ⟨number, same⟩ := row.combined numeric
      have kept : ¬ (d = true ∧ width rs ≤ 1) := fun h => w (hw.2 ⟨numeric, h⟩)
      rw [if_neg kept] at same
      refine .inr ⟨numeric, List.forall_mem_singleton.2 number, by
        rw [width, width, same, Nat.max_zero], ?_⟩
      cases d with
      | false => exact .inl rfl
      | true => exact .inr (Nat.lt_of_not_le fun narrow => kept ⟨rfl, narrow⟩)

/-- More operands around a row. -/
lemma around (h : Change widens d rs d' rs') {u v : List Resolved} (more : u ++ v ≠ [])
    (numeric : Numeric (u ++ (rs ++ v))) (b : Bool) :
    Change widens (d || b) (u ++ (rs ++ v)) (d' || b) (u ++ (rs' ++ v)) := by
  obtain ⟨before, inner, after⟩ : Numeric u ∧ Numeric rs ∧ Numeric v := by
    simpa only [Numeric, List.forall_mem_append] using numeric
  -- With operands around it the row has at least two, so that a division counts.
  have numeric' : Numeric (u ++ (rs' ++ v)) := by
    simp only [Numeric, List.forall_mem_append]
    exact ⟨before, h.numeric_iff.2 inner, after⟩
  have length := List.length_pos_of_ne_nil more
  rw [List.length_append] at length
  have several (us : List Resolved) (ne : us ≠ []) : 2 ≤ (u ++ (us ++ v)).length := by
    have := List.length_pos_of_ne_nil ne
    simp only [List.length_append]
    omega
  refine ⟨.several (several rs h.row.ne_nil) _, .several (several rs' h.row'.ne_nil) _, ?_,
    fun w => ?_, fun w => ?_⟩
  · simp only [List.any_append, h.nullable]
  · obtain ⟨-, wide, divides⟩ := h.widened w
    have most (us : List Resolved) : width us ≤ 3 := width_le_iff.2 fun r _ => r.type.width_le
    have := most u
    have := most v
    refine ⟨⟨numeric, numeric'⟩, by simp only [width_append]; omega, fun narrow => ?_⟩
    simp only [width_append, Nat.max_le] at narrow
    rw [divides narrow.2.1, Bool.true_or]
  · obtain ⟨hd, same⟩ | ⟨-, -, same, hd⟩ := h.alike w
    · exact .inl ⟨by rw [hd], by rw [same]⟩
    · refine .inr ⟨numeric, numeric', by simp only [width_append, same], ?_⟩
      refine hd.imp (fun hd => by rw [hd]) fun wide => ?_
      simp only [width_append]
      omega

/-- What a row makes is a float instead of another wide number, or the same. -/
lemma type (h : Change widens d rs d' rs') :
    (widens → (combined d rs).type.isNumeric = true ∧ 1 < (combined d rs).type.width ∧
      (combined d' rs').type = .float64) ∧
    (¬ widens → (combined d' rs').type = (combined d rs).type) := by
  refine ⟨fun w => ?_, fun w => ?_⟩
  · obtain ⟨⟨numeric, numeric'⟩, wide, divides⟩ := h.widened w
    obtain ⟨number, width_eq⟩ := h.row.combined numeric
    obtain ⟨number', width_eq'⟩ := h.row'.combined numeric'
    refine ⟨number, ?_, ScalarType.eq_of_width number' rfl ?_⟩
    · rw [width_eq]
      split
      · decide
      · rename_i other
        exact Nat.lt_of_not_le fun narrow => other ⟨divides narrow, narrow⟩
    · rw [width_eq', wide]
      exact ite_self _
  · obtain ⟨hd, same⟩ | ⟨numeric, numeric', same, hd⟩ := h.alike w
    · rw [hd, same]
    · obtain ⟨number, width_eq⟩ := h.row.combined numeric
      obtain ⟨number', width_eq'⟩ := h.row'.combined numeric'
      refine ScalarType.eq_of_width number' number ?_
      rw [width_eq, width_eq', same]
      obtain hd | wide := hd
      · rw [hd]
      · rw [if_neg fun h => absurd h.2 (Nat.not_le_of_lt wide), if_neg fun h =>
          absurd h.2 (Nat.not_le_of_lt wide)]

/-- The change of a row is kept by what makes one operand of it and keeps the type. -/
lemma single (h : Change widens d rs d' rs') {f : Resolved → Resolved}
    (type_eq : ∀ r, (f r).type = r.type) (nullable_eq : ∀ r r', r'.nullable = r.nullable →
      (f r').nullable = (f r).nullable) :
    Change widens false [f (combined d rs)] false [f (combined d' rs')] := by
  obtain ⟨wider, same⟩ := h.type
  refine ⟨.one _, .one _, ?_, fun w => ?_, fun w => ?_⟩
  · simp only [List.any_cons, List.any_nil, Bool.or_false]
    exact nullable_eq _ _ (by rw [h.row.nullable, h.row'.nullable, h.nullable])
  · obtain ⟨number, wide, float⟩ := wider w
    refine ⟨⟨List.forall_mem_singleton.2 ?_, List.forall_mem_singleton.2 ?_⟩, ?_, fun narrow => ?_⟩
    · rw [type_eq]
      exact number
    · rw [type_eq, float]
      rfl
    · rw [width, width, type_eq, float]
      rfl
    · rw [width, width, type_eq, Nat.max_zero] at narrow
      omega
  · obtain ⟨hd, eq⟩ | ⟨numeric, numeric', -⟩ := h.alike w
    · exact .inl ⟨rfl, by rw [hd, eq]⟩
    · refine .inr ⟨List.forall_mem_singleton.2 ?_, List.forall_mem_singleton.2 ?_, ?_, .inl rfl⟩
      · rw [type_eq]
        exact (h.row.combined numeric).1
      · rw [type_eq]
        exact (h.row'.combined numeric').1
      · rw [width, width, width, width, type_eq, type_eq, same w]

/-- An aggregate keeps the change of its argument, or has one type for all arguments. -/
lemma call {divides keeps : Prop} (h : Change (divides ∧ keeps) d rs d' rs') (c : Call) :
    Change (divides ∧ capitals c.function.text ∉ ["COUNT", "SUM", "AVG"] ∧ keeps)
      false [c.type (combined d rs)] false [c.type (combined d' rs')] := by
  by_cases known : capitals c.function.text ∈ ["COUNT", "SUM", "AVG"]
  · have same : c.type (combined d' rs') = c.type (combined d rs) := by
      obtain count | sum | avg : capitals c.function.text = "COUNT" ∨
        capitals c.function.text = "SUM" ∨
          capitals c.function.text = "AVG" := by simpa using known
      all_goals simp only [Call.type, aggregateType, *]; rfl
    rw [same]
    exact ⟨.one _, .one _, rfl, fun w => absurd known w.2.1, fun _ => .inl ⟨rfl, rfl⟩⟩
  · have eq (r : Resolved) : c.type r = ⟨r.type, true, none, r.precision, r.scale, none⟩ := by
      simp only [List.mem_cons, List.not_mem_nil, or_false, not_or] at known
      simp [Call.type, aggregateType, known]
    have w : divides ∧ capitals c.function.text ∉ ["COUNT", "SUM", "AVG"] ∧ keeps ↔
        divides ∧ keeps := by
      rw [and_iff_right known]
    rw [w]
    exact h.single (fun r => by rw [eq]) fun r r' _ => by rw [eq, eq]

end Change

/-! ## Expressions with and without parentheses -/

section Parentheses

variable {e : Tree} {before after : Blanks}

variable (scope item) in
/-- How an expression changes by parentheses around its part. -/
def Context.Changes (C : Context) (e : Tree) (before after : Blanks) (rs rs' : List Resolved) :
    Prop :=
  Change (e.DividesWhole scope item ∧ C.Keeps) (C.fill e).divides rs
    (C.fill (.parens before e after)).divides rs'

/-- Parentheses around a whole expression change its row. -/
lemma Tree.Types.change (h : e.Types scope item rs) :
    Context.here.Changes scope item e before after rs [combined e.divides rs] := by
  have operands : e.IsOperand ∨ Numeric rs := or_iff_not_imp_left.2 (Tree.types_iff.1 h).2
  refine .parens h.row (operands.imp_left fun he => ?_) ?_
  · obtain ⟨r, rfl⟩ := h.single he
    rfl
  · rw [and_iff_left (show Context.here.Keeps from trivial)]
    obtain he | numeric := operands
    · have no := Tree.not_divides_of_isOperand he
      exact iff_of_false (fun w => by cases no.symm.trans w.1) fun w => by cases no.symm.trans w.2.1
    · exact (h.dividesWhole_iff numeric).trans (and_iff_right numeric).symm

namespace Context.Changes

variable {C : Context}

/-- An aggregate takes over the change of its argument. -/
lemma aggregate (h : C.Changes scope item e before after rs rs') (c : Call) (close : Blanks) :
    (Context.aggregate c C close).Changes scope item e before after
      [c.type (combined (C.fill e).divides rs)]
    [c.type (combined (C.fill (.parens before e after)).divides rs')] := h.call c

/-- Parentheses around an expression keep the change of its part. -/
lemma parens (h : C.Changes scope item e before after rs rs') (b a : Blanks) :
    (Context.parens b C a).Changes scope item e before after [combined (C.fill e).divides rs]
      [combined (C.fill (.parens before e after)).divides rs'] :=
  h.single (f := id) (fun _ => rfl) fun _ _ same => same

/-- Operands on the right keep the change. -/
lemma left (h : C.Changes scope item e before after rs rs') {r : Tree}
    (types : r.Types scope item ts) (numeric : Numeric (rs ++ ts)) (b : Blanks)
    (op : Operator) (a : Blanks) :
    (Context.left C b op a r).Changes scope item e before after (rs ++ ts) (rs' ++ ts) := by
  have change := h.around (u := []) types.row.ne_nil numeric (op == .over || r.divides)
  simp only [List.nil_append, ← Bool.or_assoc] at change
  exact change

/-- Operands on the left keep the change. -/
lemma right (h : C.Changes scope item e before after rs rs') {l : Tree}
    (types : l.Types scope item ts) (numeric : Numeric (ts ++ rs)) (b : Blanks)
    (op : Operator) (a : Blanks) :
    (Context.right l b op a C).Changes scope item e before after (ts ++ rs) (ts ++ rs') := by
  have change := h.around (u := ts) (v := []) (by simpa using types.row.ne_nil)
    (by simpa using numeric)
    (l.divides || op == .over)
  rw [Bool.or_comm, Bool.or_comm (C.fill _).divides] at change
  simp only [List.append_nil] at change
  exact change

end Context.Changes
namespace Context

variable (scope item) in
/-- Each row of an expression has its row of the expression with parentheses, and
the other way round. -/
lemma types (C : Context) (e : Tree) (before after : Blanks) :
    (∀ rs, (C.fill e).Types scope item rs →
      ∃ rs', (C.fill (.parens before e after)).Types scope item rs' ∧
      C.Changes scope item e before after rs rs') ∧
    ∀ rs', (C.fill (.parens before e after)).Types scope item rs' →
      ∃ rs, (C.fill e).Types scope item rs ∧ C.Changes scope item e before after rs rs' := by
  -- Induction on the way from the whole expression to its part; a row changes in one operand only.
  induction C with
  | here =>
    refine ⟨fun rs h => ⟨_, .parens h, h.change⟩, fun rs' h => ?_⟩
    cases h with
    | parens h => exact ⟨_, h, h.change⟩
  | aggregate c C close ih =>
    refine ⟨fun rs h => ?_, fun rs' h => ?_⟩
    · cases h with
      | aggregate h =>
        obtain ⟨rs', h', change⟩ := ih.1 _ h
        exact ⟨_, .aggregate h', change.aggregate c close⟩
    · cases h with
      | aggregate h' =>
        obtain ⟨rs, h, change⟩ := ih.2 _ h'
        exact ⟨_, .aggregate h, change.aggregate c close⟩
  | parens b C a ih =>
    refine ⟨fun rs h => ?_, fun rs' h => ?_⟩
    · cases h with
      | parens h =>
        obtain ⟨rs', h', change⟩ := ih.1 _ h
        exact ⟨_, .parens h', change.parens b a⟩
    · cases h with
      | parens h' =>
        obtain ⟨rs, h, change⟩ := ih.2 _ h'
        exact ⟨_, .parens h, change.parens b a⟩
  | left C b op a r ih =>
    refine ⟨fun rs h => ?_, fun rs' h => ?_⟩
    · cases h with
      | binary h other numeric =>
        obtain ⟨rs', h', change⟩ := ih.1 _ h
        obtain ⟨inner, outer⟩ := List.forall_mem_append.1 numeric
        have numeric' := List.forall_mem_append.2 ⟨change.numeric_iff.2 inner, outer⟩
        exact ⟨_, .binary h' other numeric', change.left other numeric b op a⟩
    · cases h with
      | binary h' other numeric' =>
        obtain ⟨rs, h, change⟩ := ih.2 _ h'
        obtain ⟨inner, outer⟩ := List.forall_mem_append.1 numeric'
        have numeric := List.forall_mem_append.2 ⟨change.numeric_iff.1 inner, outer⟩
        exact ⟨_, .binary h other numeric, change.left other numeric b op a⟩
  | right l b op a C ih =>
    refine ⟨fun rs h => ?_, fun rs' h => ?_⟩
    · cases h with
      | binary other h numeric =>
        obtain ⟨rs', h', change⟩ := ih.1 _ h
        obtain ⟨outer, inner⟩ := List.forall_mem_append.1 numeric
        have numeric' := List.forall_mem_append.2 ⟨outer, change.numeric_iff.2 inner⟩
        exact ⟨_, .binary other h' numeric', change.right other numeric b op a⟩
    · cases h with
      | binary other h' numeric' =>
        obtain ⟨rs, h, change⟩ := ih.2 _ h'
        obtain ⟨outer, inner⟩ := List.forall_mem_append.1 numeric'
        have numeric := List.forall_mem_append.2 ⟨outer, change.numeric_iff.1 inner⟩
        exact ⟨_, .binary other h numeric, change.right other numeric b op a⟩

end Context
end Parentheses

/-- Parentheses around a part of an expression, whether they are redundant or regroup it, change
neither whether it has a type nor whether it may be null. They change the type of a decimal to a
float if the part divides whole numbers and counts for the type of the whole, and no type otherwise;
over numeric columns there is a type. -/
theorem typeOf_parens (scope : Scope) (item : Projection) (C : Context) (e : Tree)
    (before after : Blanks) :
    ((C.fill e).IsNumeric scope item →
      ∃ r, typeOf scope item (C.fill e).text = .ok r ∧ r.type.isNumeric = true) ∧
    ((∃ r, typeOf scope item (C.fill (.parens before e after)).text = .ok r) →
      ∃ r, typeOf scope item (C.fill e).text = .ok r) ∧
    ∀ r, typeOf scope item (C.fill e).text = .ok r →
      ∃ r', typeOf scope item (C.fill (.parens before e after)).text = .ok r' ∧
      r'.nullable = r.nullable ∧
        (e.DividesWhole scope item ∧ C.Keeps ∧ r.type = .decimal → r'.type = .float64) ∧
        (¬ (e.DividesWhole scope item ∧ C.Keeps ∧ r.type = .decimal) → r'.type = r.type) := by
  obtain ⟨forward, backward⟩ := C.types scope item e before after
  refine ⟨fun numeric => ?_, fun ⟨r', typed'⟩ => ?_, fun r typed => ?_⟩
  · obtain ⟨rs, types, numbers⟩ := numeric.types
    exact ⟨_, (typeOf_text _ _).2 ⟨rs, types, rfl⟩, (types.row.combined numbers).1⟩
  · obtain ⟨rs', types', rfl⟩ := (typeOf_text _ _).1 typed'
    obtain ⟨rs, types, -⟩ := backward rs' types'
    exact ⟨_, (typeOf_text _ _).2 ⟨rs, types, rfl⟩⟩
  · obtain ⟨rs, types, rfl⟩ := (typeOf_text _ _).1 typed
    obtain ⟨rs', types', change⟩ := forward rs types
    obtain ⟨widened, same⟩ := change.type
    refine ⟨_, (typeOf_text _ _).2 ⟨rs', types', rfl⟩, ?_, fun w => (widened ⟨w.1, w.2.1⟩).2.2,
      fun no => ?_⟩
    · rw [change.row.nullable, change.row'.nullable, change.nullable]
    · by_cases w : e.DividesWhole scope item ∧ C.Keeps
      · -- A wide number that is no decimal is a float already.
        obtain ⟨number, wide, float⟩ := widened w
        have notDecimal := fun decimal => no ⟨w.1, w.2, decimal⟩
        rw [float]
        revert number wide notDecimal
        cases (combined (C.fill e).divides rs).type
          <;> simp [ScalarType.width, ScalarType.width?, ScalarType.isNumeric]
      · exact same w

namespace Ratio

/-- The dividend. -/
def wholeA : Field := { name := "a", type := .int32, ordinal := 1 }

/-- The divisor. -/
def wholeB : Field := { name := "b", type := .int32, ordinal := 2 }

/-- The decimal summand. -/
def decimalD : Field := { name := "d", type := .decimal, ordinal := 3 }

/-- A relation of two whole numbers and a decimal one. -/
def relation : Entity where
  kind := .model
  name := "Sale"
  domain := "default"
  sourceName := "sales"
  resource := "sales"
  fields := [wholeA, wholeB, decimalD]

/-- A view of that relation. -/
def view : View where
  name := "ratios"
  domain := none
  projections := []
  sources := [⟨"sales", none⟩]
  columnNames := none
  filters := []
  source := none
  text := []
  offset := 0
  line := 1

/-- The scope of the view. -/
def sales : Scope := ⟨view, [("sales", relation)]⟩

/-- The item of the view. -/
def selected : Projection := { expression := "a / b + d", givenName := some "x", offset := 0 }

/-- A letter as a column. -/
def column (c : Char) (h : beginsIdentifier false c = true)
    (other : capitals [c] ≠ "TRUE" ∧ capitals [c] ≠ "FALSE") :
    Tree :=
  .column none ⟨[c], .letter h, other, fun h => by cases h with | cons _ h => cases h⟩

/-- One blank. -/
def blank : Blanks := ⟨[' '], List.forall_mem_singleton.2 rfl⟩

/-- The quotient of the whole numbers. -/
def quotient : Tree :=
  .binary (column 'a' (by decide) (by decide)) blank .over blank
    (column 'b' (by decide) (by decide))

/-- The place of the quotient in a sum. -/
def sum : Context := .left .here blank .plus blank (column 'd' (by decide) (by decide))

/-- A column that is found types the letter it is written as. -/
lemma types_column {c : Char} {h : beginsIdentifier false c = true}
    {other : capitals [c] ≠ "TRUE" ∧ capitals [c] ≠ "FALSE"} {f : Field}
    (found : resolveColumn sales selected none (String.ofList [c]) = .ok (.ofField relation f)) :
    (column c h other).Types sales selected [.ofField relation f] :=
  .column (by rw [unquote_word h (List.forall_mem_nil _)]; exact found)

/-- The quotient is of two whole numbers. -/
lemma types_quotient : quotient.Types sales selected [.ofField relation wholeA,
      .ofField relation wholeB] :=
  .binary (types_column rfl) (types_column rfl) (by decide)

/-- The sum has numeric columns only. -/
lemma isNumeric_sum : (sum.fill quotient).IsNumeric sales selected := by
  have column {c : Char} {h : beginsIdentifier false c = true}
      {other : capitals [c] ≠ "TRUE" ∧ capitals [c] ≠ "FALSE"} {f : Field}
      (found : resolveColumn sales selected none (String.ofList [c]) = .ok (.ofField relation f))
      (numeric : f.type.isNumeric = true) : (column c h other).IsNumeric sales selected :=
    ⟨_, by rw [unquote_word h (List.forall_mem_nil _)]; exact found, numeric⟩
  exact ⟨⟨column (f := wholeA) rfl rfl, column (f := wholeB) rfl rfl⟩,
    column (f := decimalD) rfl rfl⟩

/-- Without parentheses, the sum is a decimal. -/
lemma typeOf_sum :
    typeOf sales selected (sum.fill quotient).text = .ok ⟨.decimal, true, none, none, none, none⟩ :=
  (typeOf_text _ _).2 ⟨_, .binary types_quotient (types_column (f := decimalD) rfl) (by decide),
    rfl⟩

/-- `a / b + d` has numeric columns only, and is a decimal; `(a / b) + d` is a float. -/
theorem quotient_typeOf_parens :
    (sum.fill quotient).IsNumeric sales selected ∧ quotient.DividesWhole sales selected ∧
      (sum.fill quotient).text = "a / b + d".toList ∧
      typeOf sales selected (sum.fill quotient).text =
      .ok ⟨.decimal, true, none, none, none, none⟩ ∧
      ∃ r, typeOf sales selected (sum.fill (.parens .none quotient .none)).text = .ok r ∧
      r.nullable = true ∧
        r.type = .float64 := by
  have divides : quotient.DividesWhole sales selected :=
    (types_quotient.dividesWhole_iff (by unfold Numeric; decide)).2 ⟨rfl, by decide⟩
  obtain ⟨-, -, change⟩ := typeOf_parens sales selected sum quotient .none .none
  obtain ⟨r', typed', nullable, float, -⟩ := change _ typeOf_sum
  exact ⟨isNumeric_sum, divides, rfl, typeOf_sum, r', typed', nullable,
    float ⟨divides, trivial, rfl⟩⟩

/-- Parentheses that are redundant in the query language may change a type: those
of `(a / b) + d` do. -/
theorem redundant_parens_change_type :
    ¬ ∀ (scope : Scope) (item : Projection) (C : Context) (e : Tree) (before after : Blanks)
    (r r' : Resolved),
      (C.fill e).IsNumeric scope item → typeOf scope item (C.fill e).text = .ok r →
      typeOf scope item (C.fill (.parens before e after)).text = .ok r' → r'.type = r.type ∧
      r'.nullable = r.nullable := by
  intro h
  have typed : typeOf sales selected (sum.fill (.parens .none quotient .none)).text =
      .ok ⟨.float64, true, none, none, none, none⟩ :=
    (typeOf_text _ _).2 ⟨_,
      .binary (.parens types_quotient) (types_column (f := decimalD) rfl) (by decide), rfl⟩
  cases (h sales selected sum quotient .none .none _ _ isNumeric_sum typeOf_sum typed).1

end Ratio
end Expression
end Rulebook
