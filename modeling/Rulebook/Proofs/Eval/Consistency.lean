import Rulebook.Proofs.Eval.Comparison
import Rulebook.Rule.Literal

/-!
# The operators as one order

A value stands to a finite literal of a type that has an order in one of three ways
(`Compare.field_oneOrder`): it is not compared, and satisfies no operator; it has a place in the
order, and the six operators agree about it (`OneOrder`); or it is a double that is no number, and
satisfies inequality alone. The last case does not arise among exact decimals.
-/

namespace Rulebook
open Number Text

/-- Answers to the six operators that come from one order: one of three relations holds, the
other operators follow. -/
structure OneOrder (answer : Operator → Bool) : Prop where
  one : answer .lt = true ∧ answer .eq = false ∧ answer .gt = false ∨
    answer .lt = false ∧ answer .eq = true ∧ answer .gt = false ∨
    answer .lt = false ∧ answer .eq = false ∧ answer .gt = true
  ne : answer .ne = !answer .eq
  ge : answer .ge = (answer .gt || answer .eq)
  le : answer .le = (answer .lt || answer .eq)

/-- A literal is a text or a boolean, or a number that is finite. -/
def Comparand.IsFinite : Comparand → Prop
  | .text _ | .broken _ | .bool _ => True
  | .decimal d => ∃ n c e, d = .finite n c e
  | .float x => ∃ n m e, x = .finite n m e

/-- A value has a place in the order of a type: as a text, or as a number. -/
def Value.OrderedIn (t : ScalarType) (v : Value) : Prop :=
  (t = .string ∧ ∃ ps, v.points? = some ps) ∨ ∃ x, v.numberIn? t = some x ∧ x.isNaN = false

/-- What a value is in a field of a type is no number, in whatever form it is given. -/
def Value.NotNumberIn (t : ScalarType) (v : Value) : Prop :=
  ∃ x, v.numberIn? t = some x ∧ x.isNaN = true

namespace Compare

/-! ## Standings -/

/-- What the operators answer of a value that is not compared, or that is and has an order to
the literal, or none. -/
def answers (standing : Option (Option Ordering)) (op : Operator) : Bool :=
  standing.elim false op.holds

/-- The answers follow one order if the value has a place beside the literal. -/
lemma oneOrder_iff {standing : Option (Option Ordering)} :
    OneOrder (answers standing) ↔ ∃ o, standing = some (some o) := by
  constructor
  · intro h
    match standing with
    | none => exact absurd h.one (by decide)
    | some none => exact absurd h.one (by decide)
    | some (some o) => exact ⟨o, rfl⟩
  · rintro ⟨o, rfl⟩
    cases o <;> exact ⟨by decide, rfl, rfl, rfl⟩

/-- Only inequality holds if the value has no place beside the literal. -/
lemma only_ne_iff {standing : Option (Option Ordering)} :
    (∀ op, answers standing op = (op == .ne)) ↔ standing = some none := by
  constructor
  · intro h
    match standing with
    | none => cases h .ne
    | some none => rfl
    | some (some .eq) => cases h .ne
    | some (some .lt) => cases h .lt
    | some (some .gt) => cases h .gt
  · rintro rfl op
    cases op <;> rfl

/-- Nothing holds if the value does not stand at all. -/
lemma all_false_iff {standing : Option (Option Ordering)} :
    (∀ op, answers standing op = false) ↔ standing = none := by
  constructor
  · intro h
    match standing with
    | none => rfl
    | some none => cases h .ne
    | some (some .eq) => cases h .eq
    | some (some .lt) => cases h .lt
    | some (some .gt) => cases h .gt
  · rintro rfl op
    rfl

/-- Numbers have an order. -/
lemma exists_compare? {d d' : Decimal} (h : d.isNaN = false) (h' : d'.isNaN = false) :
    ∃ o, d.compare? d' = some o := by
  cases d with
  | nan => cases h
  | infinite => cases d' with
    | nan => cases h'
    | _ => exact ⟨_, rfl⟩
  | finite => cases d' with
    | nan => cases h'
    | infinite => exact ⟨_, rfl⟩
    | finite =>
      unfold Decimal.compare?
      dsimp only
      split
      · split
        · exact ⟨_, rfl⟩
        · split <;> exact ⟨_, rfl⟩
      · exact ⟨_, rfl⟩

/-- All operators are asked of one standing of a value to a literal. -/
structure Stands (actual : Option Value) (literal : Comparand) (t : ScalarType)
    (standing : Option (Option Ordering)) :
    Prop where
  asked : ∀ op, field actual op literal.toValue t = .ok (answers standing op)
  ordered : (∃ o, standing = some (some o)) ↔ ∃ v, actual = some v ∧ v.OrderedIn t
  unordered : standing = some none ↔ t.isBinary = true ∧ ∃ v, actual = some v ∧ v.NotNumberIn t

variable {actual : Option Value} {v : Value} {literal : Comparand} {t : ScalarType}

/-- What is not compared satisfies nothing. -/
lemma Stands.nothing (asked : ∀ op, Compare.field actual op literal.toValue t = .ok false)
    (ordered : ∀ v, actual = some v → ¬ v.OrderedIn t)
    (unordered : t.isBinary = true → ∀ v, actual = some v → ¬ v.NotNumberIn t) :
    Stands actual literal t none where
  asked := asked
  ordered := by
    constructor
    · rintro ⟨o, h⟩
      cases h
    · rintro ⟨v, hv, place⟩
      exact absurd place (ordered v hv)
  unordered := by
    constructor
    · intro h
      cases h
    · rintro ⟨binary, v, hv, nan⟩
      exact absurd nan (unordered binary v hv)

/-- A number is compared with the number of the literal. -/
lemma Stands.number {x : Decimal} (hx : v.numberIn? t = some x)
    (real : literal.number.isNaN = false) (binary : x.isNaN = true → t.isBinary = true)
    (asked : ∀ op,
      Compare.field (some v) op literal.toValue t = .ok (op.holds (x.compare? literal.number))) :
    Stands (some v) literal t (some (x.compare? literal.number)) where
  asked := asked
  ordered := by
    constructor
    · rintro ⟨o, h⟩
      refine ⟨v, rfl, .inr ⟨x, hx, ?_⟩⟩
      cases x with
      | nan => cases h
      | _ => rfl
    · rintro ⟨w, hw, place⟩
      cases hw
      obtain ⟨rfl, -⟩ | ⟨x', hx', number⟩ := place
      · cases v <;> cases hx
      · cases hx.symm.trans hx'
        obtain ⟨o, ho⟩ := exists_compare? number real
        exact ⟨o, congrArg some ho⟩
  unordered := by
    constructor
    · intro h
      have nan : x.isNaN = true := by
        by_contra number
        obtain ⟨o, ho⟩ := exists_compare? (Bool.eq_false_iff.2 number) real
        rw [ho] at h
        cases h
      exact ⟨binary nan, v, rfl, x, hx, nan⟩
    · rintro ⟨-, w, hw, x', hx', nan⟩
      cases hw
      cases hx.symm.trans hx'
      cases x with
      | nan => rfl
      | _ => cases nan

/-- A text stands in the order of texts to a literal that is one, and nothing else
is compared with it. -/
lemma stands_string (u : String) : ∃ standing, Stands actual (.text u) .string standing := by
  have asked (op : Operator) := @field_string actual op u
  cases points : actual.bind Value.points? with
  | none =>
    rw [points] at asked
    refine ⟨none, .nothing asked (fun v hv => ?_) nofun⟩
    rintro (⟨-, ps, hps⟩ | ⟨x, hx, -⟩)
    · rw [hv, Option.bind_some, hps] at points
      cases points
    · cases v <;> cases hx
  | some ps =>
    rw [points] at asked
    obtain ⟨v, rfl, hps⟩ := Option.bind_eq_some_iff.1 points
    refine ⟨some (some (compare ps (u.toList.map Char.toNat))), asked, ?_, ?_⟩
    · exact ⟨fun _ => ⟨v, rfl, .inl ⟨rfl, ps, hps⟩⟩, fun _ => ⟨_, rfl⟩⟩
    · constructor
      · intro h
        cases h
      · rintro ⟨binary, -⟩
        cases binary

/-- Every value, or none, stands in some way beside a decimal. -/
lemma stands_decimal (n : Bool) (c : Nat) (e : Int) :
    ∃ standing, Stands actual (.decimal (.finite n c e)) .decimal standing := by
  cases actual with
  | none => exact ⟨none, .nothing (fun op => rfl) nofun nofun⟩
  | some v =>
    have asked (op : Operator) := @field_decimal v op (.decimal (.finite n c e))
    cases hx : v.numberIn? .decimal with
    | none =>
      refine ⟨none, .nothing (fun op => ?_) (fun w hw => ?_) nofun⟩
      · rw [asked, hx]
      · cases hw
        rintro (⟨h, -⟩ | ⟨x, hx', -⟩)
        · cases h
        · cases hx.symm.trans hx'
    | some x =>
      cases nan : x.isNaN with
      | true =>
        refine ⟨none, .nothing (fun op => ?_) (fun w hw => ?_) nofun⟩
        · rw [asked, hx]
          exact if_pos nan
        · cases hw
          rintro (⟨h, -⟩ | ⟨x', hx', number⟩)
          · cases h
          · cases hx.symm.trans hx'
            rw [nan] at number
            cases number
      | false =>
        refine ⟨_, .number hx rfl (fun h => ?_) fun op => ?_⟩
        · rw [nan] at h
          cases h
        · rw [asked, hx]
          dsimp only
          rw [nan, if_neg Bool.false_ne_true, holds_decimal .finite nan,
            if_neg (by rintro ⟨h, -⟩; cases h)]

/-- Beside a double, a value stands in some way or is a fault to all operators. -/
lemma stands_binary (binary : t.isBinary = true) (n : Bool) (m : Nat) (e : Int) :
    (∃ fault, ∀ op, field actual op (.float (.finite n m e)) t = .error fault) ∨
      ∃ standing, Stands actual (.float (.finite n m e)) t standing := by
  cases actual with
  | none => exact .inr ⟨none, .nothing (fun op => rfl) nofun nofun⟩
  | some v =>
    have asked (op : Operator) := @field_binary v op (.finite n m e) t binary
    have text : t ≠ .string := by
      rintro rfl
      cases binary
    have number := numberIn?_binary (v := v) binary
    have real : (Double.finite n m e).toDecimal.isNaN = false := by
      unfold Double.toDecimal
      dsimp only
      split <;> rfl
    cases v with
    | int | float | decimal =>
      cases hx : doubleOf _ with
      | error fault =>
        refine .inl ⟨fault, fun op => ?_⟩
        rw [asked, hx]
        rfl
      | ok x =>
        rw [hx] at number
        refine .inr ⟨_, .number number real (fun _ => binary) fun op => ?_⟩
        rw [Comparand.toValue, asked, hx]
        rfl
    | _ =>
      refine .inr ⟨none, .nothing asked (fun w hw => ?_) fun _ w hw => ?_⟩
      · cases hw
        rintro (⟨h, -⟩ | ⟨x, hx, -⟩)
        · exact text h
        · cases number.symm.trans hx
      · cases hw
        rintro ⟨x, hx, -⟩
        cases number.symm.trans hx

/-! ## Compiled literals -/

/-- A finite literal that comes out as a decimal is a finite decimal. -/
lemma exists_finite_decimal {x : Outcome Decimal} (h : Value.decimal <$> x = .ok literal.toValue)
    (finite : literal.IsFinite) : ∃ n c e, literal = .decimal (.finite n c e) := by
  obtain ⟨d, -, hd⟩ := Outcome.map_ok.1 h
  cases literal with
  | decimal d' =>
    obtain ⟨n, c, e, rfl⟩ := finite
    exact ⟨n, c, e, rfl⟩
  | _ => cases hd

/-- A finite literal that comes out as a double is a finite double. -/
lemma exists_finite_double {x : Outcome Double} (h : Value.float <$> x = .ok literal.toValue)
    (finite : literal.IsFinite) : ∃ n m e, literal = .float (.finite n m e) := by
  obtain ⟨y, -, hy⟩ := Outcome.map_ok.1 h
  cases literal with
  | float y' =>
    obtain ⟨n, m, e, rfl⟩ := finite
    exact ⟨n, m, e, rfl⟩
  | _ => cases hy

/-- A finite literal that a type with an order admits, in the form it is compared in. -/
lemma finite_cases {l : Literal} {written : Option String} (orderable : t.isOrderable = true)
    (fits : l.fits t = true)
    (compiled : comparisonLiteral l.toValue t written = .ok literal.toValue)
    (finite : literal.IsFinite) :
    (t = .string ∧ ∃ u, literal = .text u) ∨
    (t = .decimal ∧ ∃ n c e, literal = .decimal (.finite n c e)) ∨
      (t.isBinary = true ∧ ∃ n m e, literal = .float (.finite n m e)) := by
  cases t with
  | bool | date | datetime => cases orderable
  | string =>
    left
    have same : l.toValue = literal.toValue := Except.ok.inj compiled
    cases l with
    | text s =>
      cases literal with
      | text u => exact ⟨rfl, u, rfl⟩
      | _ => cases same
    | _ => cases fits
  | decimal =>
    right
    left
    cases written with
    | some s => exact ⟨rfl, exists_finite_decimal compiled finite⟩
    | none => exact ⟨rfl, exists_finite_decimal compiled finite⟩
  | int32 | int64 | float64 => exact .inr (.inr ⟨rfl, exists_finite_double compiled finite⟩)

/-- With a finite literal that the type of a field admits, either no operator has an answer, as
the value cannot become a double, or all have: they are those of one order exactly if the value
has a place in the order of the type; they are "unequal" alone exactly if the field is one of
doubles and the value is no number there; else no operator holds, and so it is of all that is no
number in a decimal field. -/
theorem field_oneOrder {l : Literal} {written : Option String} (orderable : t.isOrderable = true)
    (fits : l.fits t = true)
    (compiled : comparisonLiteral l.toValue t written = .ok literal.toValue)
    (finite : literal.IsFinite) (actual : Option Value) :
    (t.isBinary = true ∧ ∃ fault, ∀ op, field actual op literal.toValue t = .error fault) ∨
    ∃ answer : Operator → Bool, (∀ op, field actual op literal.toValue t = .ok (answer op)) ∧
      (OneOrder answer ↔ ∃ v, actual = some v ∧ v.OrderedIn t) ∧
      ((∀ op, answer op = (op == .ne)) ↔ t.isBinary = true ∧ ∃ v, actual = some v ∧
        v.NotNumberIn t) ∧
      ((∀ op, answer op = false) ↔ ¬ OneOrder answer ∧ ¬ ∀ op, answer op = (op == .ne)) := by
  have stands : (t.isBinary = true ∧ ∃ fault, ∀ op,
      field actual op literal.toValue t = .error fault) ∨
      ∃ standing, Stands actual literal t standing := by
    obtain ⟨rfl, u, rfl⟩ | ⟨rfl, n, c, e, rfl⟩ | ⟨binary, n, m, e, rfl⟩ :=
      finite_cases orderable fits compiled finite
    · exact .inr (stands_string u)
    · exact .inr (stands_decimal n c e)
    · exact (stands_binary binary n m e).imp_left fun fault => ⟨binary, fault⟩
  -- The three forms of a standing are the three ways in which the operators answer.
  obtain fault | ⟨standing, asked, ordered, unordered⟩ := stands
  · exact .inl fault
  · refine .inr ⟨answers standing, asked, oneOrder_iff.trans ordered, only_ne_iff.trans unordered,
      ?_⟩
    rw [all_false_iff, oneOrder_iff, only_ne_iff]
    match standing with
    | none => simp
    | some none => simp
    | some (some o) => simp

end Compare

namespace Seven

/-- The literal seven. -/
def seven : Double := .finite false 7881299347898368 (-50)

/-- In a field of doubles the operators agree about eight and seven. -/
theorem eight_oneOrder :
    ScalarType.isOrderable .float64 = true ∧ Literal.fits (.float seven) .float64 = true ∧
    comparisonLiteral (.float seven) .float64 none = .ok (Comparand.float seven).toValue ∧
    (Comparand.float seven).IsFinite ∧
    ∃ answer, (∀ op, Compare.field (some (.int 8)) op (.float seven) .float64 = .ok (answer op)) ∧
    OneOrder answer := by
  have finite : (Comparand.float seven).IsFinite := ⟨false, 7881299347898368, -50, rfl⟩
  have fits : Literal.fits (.float seven) .float64 = true := rfl
  have compiled : comparisonLiteral (.float seven) .float64 none =
      .ok (Comparand.float seven).toValue := rfl
  refine ⟨rfl, fits, compiled, finite, ?_⟩
  obtain ⟨-, fault, no⟩ | ⟨answer, asked, ordered, -⟩ :=
    Compare.field_oneOrder rfl fits compiled finite (some (.int 8))
  · cases (no .eq).symm.trans (show _ = .ok false by decide +kernel)
  · exact ⟨answer, asked, ordered.2 ⟨.int 8, rfl, .inr ⟨_, rfl, rfl⟩⟩⟩

/-- What is no number is unequal to seven, and nothing else. -/
theorem nan_unequal : Literal.fits (.float seven) .float64 = true ∧
    comparisonLiteral (.float seven) .float64 none = .ok (Comparand.float seven).toValue ∧
    (Comparand.float seven).IsFinite ∧
    ∃ answer, (∀ op, Compare.field (some (.float .nan)) op (.float seven) .float64 =
      .ok (answer op)) ∧ ¬ (∀ op, answer op = false) ∧ ¬ OneOrder answer := by
  refine ⟨rfl, rfl, ⟨false, 7881299347898368, -50, rfl⟩, fun op => op == .ne, fun op => ?_,
    fun h => ?_, fun h => ?_⟩
  · cases op <;> rfl
  · cases h .ne
  · exact absurd h.one (by decide)

end Seven
end Rulebook
