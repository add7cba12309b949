import Rulebook.Proofs.Eval.Comparison
import Rulebook.Proofs.Eval.Run
import Rulebook.Proofs.Number.Rational

/-!
# Clauses that agree or are opposites

Literals that are one number, or the same, cannot be told apart by comparing
(`Compare.field_congr`), so that clauses on one field that differ in nothing else have the same
answer. Equality and inequality never hold together, and of a value that the type admits one of the
two holds. What follows for a run over clauses with two such among them: conjunctions that cannot
hold (`Eval.together_all_of_not_both`), disjunctions that cannot fail
(`Eval.together_any_of_holds`), and clauses that can be dropped (`Eval.together_eraseIdx`).
-/

namespace Rulebook
open Number Text

/-- Two literals are the same, or the same number. -/
inductive Comparand.Agrees : Comparand → Comparand → Prop
  | same {l} : Agrees l l
  | number {l l'} : l.number.compare? l'.number = some .eq → Agrees l l'

/-- One operator is equality, the other one inequality. -/
def Operator.Opposed (op op' : Operator) : Prop := op = .eq ∧ op' = .ne ∨ op = .ne ∧ op' = .eq

/-- A value can be compared with the literals of a type. An exact number has to be one. -/
def Value.ComparableIn (t : ScalarType) (v : Value) : Prop :=
  match t with
  | .string => ∃ ps, v.points? = some ps
  | .bool => ∃ b, v = .bool b
  | .date | .datetime => False
  | t => ∃ x, v.numberIn? t = some x ∧ (t = .decimal → x.isNaN = false)

/-- Two clauses make the same comparisons of one field, each with its own operator. -/
structure Clause.Alike (c d : Clause) : Prop where
  field : c.field = d.field
  compare : ∀ actual op,
    Compare.field actual op c.literal.toValue c.type =
    Compare.field actual op d.literal.toValue d.type

/-! ## Comparisons -/

namespace Compare

variable {actual : Option Value} {op op' : Operator} {l l' : Comparand} {t : ScalarType}

/-- What compares equal to something is a number. -/
lemma ne_nan_of_compare? {d : Decimal}
    (h : l.number.compare? d = some .eq ∨ d.compare? l.number = some .eq) :
    l ≠ .float .nan := by
  rintro rfl
  obtain h | h := h
  · cases h
  · cases d <;> cases h

/-- Exact literals that are one number compare alike with every value. -/
lemma field_decimal_congr {v : Value} (hs : l.Suits .decimal) (hs' : l'.Suits .decimal)
    (h : l.number.compare? l'.number = some .eq) :
    field (some v) op l.toValue .decimal = field (some v) op l'.toValue .decimal := by
  rw [field_decimal, field_decimal]
  cases v.numberIn? .decimal with
  | none => rfl
  | some d =>
    dsimp only
    cases hd : d.isNaN with
    | true => rfl
    | false =>
      have number : l ≠ .float .nan := ne_nan_of_compare? (.inl h)
      have number' : l' ≠ .float .nan := ne_nan_of_compare? (.inr h)
      rw [holds_decimal hs hd, holds_decimal hs' hd, if_neg (mt And.left number),
        if_neg (mt And.left number'), Decimal.compare?_congr h]

/-- Literals that agree compare alike with everything. -/
theorem field_congr (hs : l.Suits t) (hs' : l'.Suits t) (h : l.Agrees l') :
    field actual op l.toValue t = field actual op l'.toValue t := by
  cases h with
  | same => rfl
  | number h =>
    cases actual with
    | none => rfl
    | some v =>
      cases hs with
      | text | bool => cases h
      | finite => exact field_decimal_congr .finite hs' h
      | infinite => exact field_decimal_congr .infinite hs' h
      | nan => exact field_decimal_congr .nan hs' h
      | @binary x _ hb =>
        obtain ⟨y, rfl⟩ := float_of_suits hs' hb
        have alike (d : Decimal) : d.compare? x.toDecimal = d.compare? y.toDecimal :=
          Decimal.compare?_congr h d
        rw [Comparand.toValue, Comparand.toValue, field_binary hb, field_binary hb]
        simp only [alike]

/-- What compares true with a literal can be compared with it. -/
lemma comparableIn_of_field {v : Value} (hs : l.Suits t)
    (h : field (some v) op l.toValue t = .ok true) :
    v.ComparableIn t := by
  have number (ht : t.isNumeric = true) : ∃ x, v.numberIn? t = some x ∧
      (t = .decimal → x.isNaN = false) := by
    obtain ⟨x, hx, hn, -⟩ := (field_number hs ht).1 h
    exact ⟨x, hx, hn⟩
  cases hs with
  | text =>
    rw [Comparand.toValue, field_string, Except.ok.injEq, Option.bind_some] at h
    cases points : v.points? with
    | some ps => exact ⟨ps, points⟩
    | none =>
      rw [points] at h
      cases h
  | bool =>
    rw [Comparand.toValue, field_bool, Except.ok.injEq] at h
    cases v with
    | bool a => exact ⟨a, rfl⟩
    | _ => cases h
  | finite | infinite | nan => exact number rfl
  | binary hb =>
    cases t with
    | int32 | int64 | float64 => exact number rfl
    | _ => cases hb

/-- All operators are asked of one order between a value that can be compared and the literal. -/
lemma exists_order {v : Value} (hs : l.Suits t) (hv : v.ComparableIn t) :
    ∃ o, ∀ op, field (some v) op l.toValue t = .ok true ↔ op.holds o = true := by
  have number (ht : t.isNumeric = true) (hv : ∃ x, v.numberIn? t = some x ∧
      (t = .decimal → x.isNaN = false)) :
      ∃ o, ∀ op, field (some v) op l.toValue t = .ok true ↔ op.holds o = true := by
    obtain ⟨x, hx, hn⟩ := hv
    refine ⟨x.compare? l.number, fun op => ?_⟩
    rw [field_number hs ht]
    constructor
    · rintro ⟨x', hx', -, h⟩
      cases hx.symm.trans hx'
      exact h
    · intro h
      exact ⟨x, hx, hn, h⟩
  cases t with
  | string =>
    obtain ⟨ps, hps⟩ := hv
    cases hs with
    | @text u =>
      refine ⟨some (compare ps (u.toList.map Char.toNat)), fun op => ?_⟩
      rw [Comparand.toValue, field_string, Except.ok.injEq, Option.bind_some, hps]
    | binary hb => cases hb
  | bool =>
    obtain ⟨a, rfl⟩ := hv
    cases hs with
    | @bool b =>
      exact ⟨some (compare a b), fun op => by rw [Comparand.toValue, field_bool, Except.ok.injEq]⟩
    | binary hb => cases hb
  | date | datetime => cases hv
  | decimal | int32 | int64 | float64 => exact number rfl hv

/-- Of two opposed operators exactly one holds of an order, or of none. -/
lemma holds_opposed (opposed : op.Opposed op') (o : Option Ordering) :
    op'.holds o = !op.holds o := by
  obtain ⟨rfl, rfl⟩ | ⟨rfl, rfl⟩ := opposed
  · rfl
  · exact (Bool.not_not _).symm

/-- Nothing is both equal and unequal to a literal. -/
lemma not_both (hs : l.Suits t) (opposed : op.Opposed op')
    (holds : field actual op l.toValue t = .ok true) :
    field actual op' l.toValue t ≠ .ok true := by
  cases actual with
  | none => cases holds
  | some v =>
    obtain ⟨o, iff⟩ := exists_order hs (comparableIn_of_field hs holds)
    rw [iff] at holds
    rw [Ne, iff, holds_opposed opposed, holds]
    exact Bool.false_ne_true

/-- A value that the type admits is equal or unequal to a literal. -/
lemma one_holds {v : Value} (hs : l.Suits t) (opposed : op.Opposed op') (hv : v.ComparableIn t) :
    field (some v) op l.toValue t = .ok true ∨ field (some v) op' l.toValue t = .ok true := by
  obtain ⟨o, iff⟩ := exists_order hs hv
  rw [iff, iff, holds_opposed opposed]
  cases op.holds o with
  | true => exact .inl rfl
  | false => exact .inr rfl

end Compare

/-! ## Clauses -/

namespace Clause.Alike

variable {access : String → Outcome (Option Value)} {c d : Clause}

/-- The answer of a clause is the same when it is asked of the other one with its operator. -/
lemma answer_eq (h : c.Alike d) :
    Eval.answer access c =
      access d.field >>= fun actual =>
      Compare.field actual c.operator d.literal.toValue d.type := by
  rw [Eval.answer, h.field]
  simp only [h.compare]

/-- Clauses with one operator have one answer. -/
lemma answer_congr (h : c.Alike d) (same : c.operator = d.operator) :
    Eval.answer access c = Eval.answer access d := by
  rw [h.answer_eq, same, Eval.answer]

/-- Clauses with opposed operators do not both hold. -/
lemma not_both (h : c.Alike d) (hs : d.literal.Suits d.type)
    (opposed : c.operator.Opposed d.operator) (holds : Eval.answer access c = .ok true) :
    Eval.answer access d ≠ .ok true := by
  intro holds'
  rw [h.answer_eq, Outcome.bind_ok] at holds
  rw [Eval.answer, Outcome.bind_ok] at holds'
  obtain ⟨actual, found, holds⟩ := holds
  obtain ⟨actual', found', holds'⟩ := holds'
  cases found.symm.trans found'
  exact Compare.not_both hs opposed holds holds'

/-- Of clauses with opposed operators one holds, if the field has a value that its type admits. -/
lemma one_holds (h : c.Alike d) (hs : d.literal.Suits d.type)
    (opposed : c.operator.Opposed d.operator) {v : Value} (found : access d.field = .ok (some v))
    (hv : v.ComparableIn d.type) :
    Eval.answer access c = .ok true ∨ Eval.answer access d = .ok true := by
  rw [h.answer_eq, Eval.answer, found, Outcome.ok_bind, Outcome.ok_bind]
  exact Compare.one_holds hs opposed hv

end Clause.Alike

/-! ## Runs -/

namespace Eval

variable {stop : Bool} {phase : Phase} {access : String → Outcome (Option Value)}
  {cs : List Clause} {c d : Clause}

/-- Whether a run stops: some clause has the answer at which it does. -/
def stopped (stop : Bool) (access : String → Outcome (Option Value)) : List Clause → Outcome Bool
  | [] => .ok false
  | c :: cs => do
    let a ← answer access c
    if a = stop then .ok true else stopped stop access cs

/-- A run comes to a clause that has no answer. -/
def Stuck (stop : Bool) (access : String → Outcome (Option Value)) (cs : List Clause) : Prop :=
  ∃ c, Reaches stop access cs c ∧ ∃ e, answer access c = .error e

/-- Apart from the comparisons that it lists, a run only tells whether it stopped. -/
lemma map_checkUntil (phase : Phase) :
    (·.1) <$> checkUntil stop phase access cs = stopped stop access cs := by
  induction cs with
  | nil => rfl
  | cons c cs ih =>
    rw [checkUntil_cons, stopped, ← map_result phase access c, ← ih]
    cases access c.field >>= fun actual => check phase actual c with
    | error e => rfl
    | ok step =>
      have result : Step.result <$> (Except.ok step : Outcome Step) = .ok step.result := rfl
      rw [result, Outcome.ok_bind, Outcome.ok_bind]
      split
      · rfl
      · cases checkUntil stop phase access cs <;> rfl

/-- A clause that does not stop a run can be dropped. -/
lemma stopped_eraseIdx_of_answer {j : ℕ} (hj : cs[j]? = some d)
    (hd : answer access d = .ok (!stop)) :
    stopped stop access (cs.eraseIdx j) = stopped stop access cs := by
  induction cs generalizing j with
  | nil => rfl
  | cons c cs ih =>
    cases j with
    | zero =>
      cases hj
      rw [List.eraseIdx_cons_zero, stopped, hd, Outcome.ok_bind, if_neg (Bool.not_ne_self stop)]
    | succ j =>
      rw [List.eraseIdx_cons_succ, stopped, stopped, ih hj]

/-- A clause with the answer of an earlier one can be dropped. -/
theorem stopped_eraseIdx {i j : ℕ} (before : i < j) (hi : cs[i]? = some c) (hj : cs[j]? = some d)
    (same : answer access c = answer access d) :
    stopped stop access (cs.eraseIdx j) = stopped stop access cs := by
  induction cs generalizing i j with
  | nil => rfl
  | cons b cs ih =>
    obtain ⟨j, rfl⟩ := Nat.exists_eq_add_one_of_ne_zero (Nat.ne_zero_of_lt before)
    rw [List.eraseIdx_cons_succ, stopped, stopped]
    cases i with
    | zero =>
      cases hi
      -- Behind the earlier clause the run only goes on if that one does not stop it; then neither
      -- does the later one.
      cases ha : answer access c with
      | error e => rfl
      | ok a =>
        rw [Outcome.ok_bind, Outcome.ok_bind]
        split
        · rfl
        · rename_i go
          have passed : answer access d = .ok (!stop) := by rw [← same, ha, Bool.eq_not.2 go]
          exact stopped_eraseIdx_of_answer hj passed
    | succ i => rw [ih (Nat.lt_of_succ_lt_succ before) hi hj]

/-- Whether clauses hold together: all of them, or one. -/
def together (access : String → Outcome (Option Value)) (cs : List Clause) : Logic → Outcome Bool
  | .all => (!·) <$> stopped false access cs
  | .any => stopped true access cs

/-- Clauses of which two do not both hold do not hold together, unless the run
over them is stuck. -/
theorem together_all_of_not_both (hc : c ∈ cs) (hd : d ∈ cs)
    (not_both : answer access c = .ok true → answer access d ≠ .ok true) :
    together access cs .all = .ok false ∨ Stuck false access cs := by
  rw [together, ← map_checkUntil .decision]
  cases h : checkUntil false .decision access cs with
  | error e => exact .inr (checkUntil_error.1 ⟨e, h⟩)
  | ok r =>
    obtain ⟨failed, steps⟩ := r
    cases failed with
    | true => exact .inl rfl
    | false =>
      have all := (checkUntil_false h).1 rfl
      exact absurd (all d hd) (not_both (all c hc))

/-- Where one clause is enough, a clause that holds is, unless the run is stuck. -/
theorem together_any_of_holds (hc : c ∈ cs) (holds : answer access c = .ok true) :
    together access cs .any = .ok true ∨ Stuck true access cs := by
  rw [together, ← map_checkUntil .decision]
  cases h : checkUntil true .decision access cs with
  | error e => exact .inr (checkUntil_error.1 ⟨e, h⟩)
  | ok r =>
    obtain ⟨found, steps⟩ := r
    have stops : found = true := (checkUntil_true h).2 ⟨c, hc, holds⟩
    exact .inl (congrArg Except.ok stops)

/-- Whether clauses hold together does not change when one with the answer of an
earlier one is dropped. -/
theorem together_eraseIdx {logic : Logic} {i j : ℕ} (before : i < j) (hi : cs[i]? = some c)
    (hj : cs[j]? = some d) (same : answer access c = answer access d) :
    together access (cs.eraseIdx j) logic = together access cs logic := by
  cases logic <;> simp only [together, stopped_eraseIdx before hi hj same]

end Eval

/-! ## Decisions and gates -/

/-- Whether a decision is positive. -/
def Decision.outcome (access : String → Outcome (Option Value)) (d : Decision) : Outcome Bool :=
  (·.1) <$> Eval.decide access d

/-- Whether the clauses of a gate hold for an object that is accessed. -/
def Gate.outcome (access : String → Outcome (Option Value)) (g : Gate) : Outcome Bool :=
  (!·.1) <$> Eval.checkUntil false (.gate g.category) access g.clauses

/-- A compound decision is positive if its clauses hold together. -/
lemma Decision.outcome_compound {access : String → Outcome (Option Value)} {logic : Logic}
    {cs : List Clause} :
    (compound logic cs).outcome access = Eval.together access cs logic := by
  cases logic with
  | any => exact Eval.map_checkUntil .decision
  | all =>
    rw [Eval.together, ← Eval.map_checkUntil .decision, outcome, Eval.decide]
    cases Eval.checkUntil false .decision access cs <;> rfl

/-- The clauses of a gate hold if they all do. -/
lemma Gate.outcome_eq {access : String → Outcome (Option Value)} {g : Gate} :
    g.outcome access = Eval.together access g.clauses .all := by
  rw [Eval.together, ← Eval.map_checkUntil (.gate g.category), outcome]
  cases Eval.checkUntil false (.gate g.category) access g.clauses <;> rfl

end Rulebook
