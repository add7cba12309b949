import Rulebook.Proofs.Bound.Completeness
import Rulebook.Proofs.Eval.Faults

/-!
# Comparisons within one kind

What a value becomes in a field and what a literal becomes under the type of the field are of one
kind, which the type names (`Compare.coerce_kind`, `Clause.Binds.placed`). So no clause of a checked
book ever compares things of different kinds, and a comparison that refuses to do so has the same
answers (`RuleSet.clauses_placed`).
-/

namespace Rulebook
open Number Text

/-- The kinds of things that are compared with each other. -/
inductive Comparand.Kind where
  | text
  | bool
  | float
  | decimal
  deriving DecidableEq

/-- The kind of a comparand. -/
def Comparand.kind : Comparand → Kind
  | .text _ | .broken _ => .text
  | .bool _ => .bool
  | .float _ => .float
  | .decimal _ => .decimal

/-- The kind in which the values of a type are compared. -/
def ScalarType.kind? : ScalarType → Option Comparand.Kind
  | .string => some .text
  | .bool => some .bool
  | .decimal => some .decimal
  | .int32 | .int64 | .float64 => some .float
  | .date | .datetime => none

/-- Values of a binary type are compared as doubles. -/
lemma ScalarType.kind?_of_isBinary {t : ScalarType} (ht : t.isBinary = true) :
    t.kind? = some .float := by
  cases t with
  | int32 | int64 | float64 => rfl
  | _ => cases ht

namespace Compare

/-- Compares two things of one kind; others are not compared at all. -/
def holdsWithin (op : Operator) (a b : Comparand) : Outcome Bool :=
  if a.kind = b.kind then holds op a b.toValue else .error .wrongType

/-- Compares a looked-up value with a literal of its kind under the type of the field. -/
def fieldWithin (actual : Option Value) (op : Operator) (literal : Comparand) (type : ScalarType) :
    Outcome Bool :=
  match actual with
  | none | some .null => .ok false
  | some v => do
    match ← coerce v type with
    | none => .ok false
    | some (.decimal d) => if d.isNaN then .ok false else holdsWithin op (.decimal d) literal
    | some c => holdsWithin op c literal

/-- What a value becomes in a field is of the kind of the field's type. -/
lemma coerce_kind {v : Value} {t : ScalarType} {x : Comparand} (h : coerce v t = .ok (some x)) :
    t.kind? = some x.kind := by
  cases t with
  | string =>
    cases v with
    | text | broken =>
      cases h
      rfl
    | _ => cases h
  | bool =>
    cases v with
    | bool b =>
      cases h
      rfl
    | _ => cases h
  | decimal =>
    cases v with
    | text s =>
      obtain ⟨d, -, rfl⟩ := Option.map_eq_some_iff.1 (Except.ok.inj h)
      rfl
    | int | float | decimal =>
      cases h
      rfl
    | _ => cases h
  | int32 | int64 | float64 =>
    cases v with
    | int | float | decimal =>
      obtain ⟨y, -, same⟩ := Outcome.map_ok.1 h
      cases same
      rfl
    | _ => cases h
  | date | datetime => cases h

/-- With a literal of the kind of the type, nothing of another kind comes up. -/
theorem field_within {literal : Comparand} {t : ScalarType} (kind : t.kind? = some literal.kind)
    (actual : Option Value) (op : Operator) :
    fieldWithin actual op literal t = field actual op literal.toValue t := by
  have within {x : Comparand} (hx : t.kind? = some x.kind) :
      holdsWithin op x literal = holds op x literal.toValue :=
    if_pos (Option.some.inj (hx.symm.trans kind))
  cases actual with
  | none => rfl
  | some v =>
    have same : ∀ found, coerce v t = .ok found →
        (match found with
          | none => .ok false
          | some (.decimal d) => if d.isNaN then .ok false else holdsWithin op (.decimal d) literal
          | some c => holdsWithin op c literal : Outcome Bool) =
        match found with
          | none => .ok false
          | some (.decimal d) =>
            if d.isNaN then .ok false else holds op (.decimal d) literal.toValue
          | some c => holds op c literal.toValue := by
      intro found hx
      cases found with
      | none => rfl
      | some x =>
        have within := within (coerce_kind hx)
        cases x with
        | decimal d =>
          dsimp only
          rw [within]
        | _ => exact within
    cases v with
    | null => rfl
    | _ => exact Outcome.bind_congr same

end Compare

/-! ## Clauses -/

/-- A clause has a type that takes its operator, and a literal of the kind of the type. -/
structure Clause.Placed (c : Clause) : Prop where
  comparable : c.type.isComparable = true
  ordered : c.operator.isOrdering = true → c.type.isOrderable = true
  kind : c.type.kind? = some c.literal.kind

/-- A literal as it was written stays a decimal in a decimal field. -/
lemma Condition.decimal_comparand {c : Condition} {cp : Comparand} (ha : c.Admissible .decimal)
    (hw : c.Written) (h : c.comparand .decimal = .ok cp) : ∃ d, cp = .decimal d := by
  rw [comparand_decimal ha.fits] at h
  obtain ⟨n, hl⟩ | ⟨x, hl⟩ := literal_of_numeric ha.fits rfl
  · have hn : c.numberIn? .decimal = some (.ofInt n) := by
      unfold numberIn?
      rw [hw.int hl, hl]
      rfl
    rw [hn] at h
    cases h
    exact ⟨_, rfl⟩
  · obtain ⟨s, hs, shape⟩ := hw.float hl
    have hn : c.numberIn? .decimal = Decimal.read? s.toList := by
      unfold numberIn?
      rw [hs]
    rw [hn, Decimal.read?_of_isFloatShape shape] at h
    split at h
    · rename_i d hd
      split at hd
      · cases hd
        cases h
        exact ⟨_, rfl⟩
      · cases hd
    · cases h

/-- A literal is of the kind of the type that admits it. -/
lemma Condition.comparand_kind {c : Condition} {t : ScalarType} {cp : Comparand}
    (ha : c.Admissible t) (hw : c.Written) (h : c.comparand t = .ok cp) :
    t.kind? = some cp.kind := by
  obtain rfl | rfl | rfl | binary := numeric_cases ha.comparable
  · obtain ⟨s, -, text⟩ := comparand_string ha.fits
    cases text.symm.trans h
    rfl
  · obtain ⟨b, -, bool⟩ := comparand_bool ha.fits
    cases bool.symm.trans h
    rfl
  · obtain ⟨d, rfl⟩ := decimal_comparand ha hw h
    rfl
  · rw [comparand_binary binary] at h
    obtain ⟨x, -, rfl⟩ := Outcome.map_ok.1 h
    exact ScalarType.kind?_of_isBinary binary

/-- An admissible condition that was read from a document binds to a clause that is placed. -/
lemma Clause.Binds.placed {b : Clause} {c : Condition} {t : ScalarType} (hb : b.Binds c (some t))
    (ha : c.Admissible t) (hw : c.Written) : b.Placed := by
  have type : t = b.type := Option.some.inj hb.type
  subst type
  exact ⟨ha.comparable, fun ordering => ha.ordered (hb.operator ▸ ordering),
    Condition.comparand_kind ha hw hb.literal⟩

/-- Admissible conditions that were read from documents bind to clauses that are placed. -/
lemma Clause.AllBind.placed {typeOf : String → Option ScalarType} {cs : List Condition}
    {bs : List Clause} (hb : Clause.AllBind typeOf cs bs) (ha : Condition.AllAdmissible typeOf cs)
    (hw : ∀ c ∈ cs, c.Written) :
    ∀ b ∈ bs, b.Placed := by
  intro b hm
  obtain ⟨c, hc, binds⟩ := exists_of_forall₂ hb hm
  obtain ⟨t, ht, admissible⟩ := ha c hc
  rw [ht] at binds
  exact binds.placed admissible (hw c hc)

/-! ## Rules -/

namespace BoundRule

/-- A clause stands in a rule: in one of its gates or in its decision. -/
def Has (b : BoundRule) (c : Clause) : Prop :=
  (∃ g ∈ b.gates, c ∈ g.clauses) ∨ c ∈ b.decision.clauses

/-- A rule that is well formed and was read from a document binds to clauses that are placed. -/
lemma Under.placed {catalog : Catalog} {registry : Registry} {b : BoundRule} {r : Rule} {e : Entity}
    (nd : e.fieldNames.Nodup) (hb : b.Under registry (Binding.ofEntity e) r)
    (hr : r.WellFormed catalog registry e) (hw : r.Written) {c : Clause} (hc : b.Has c) :
    c.Placed := by
  obtain ⟨g, hg, hc⟩ | hc := hc
  · obtain ⟨q, hq, binds⟩ := exists_of_forall₂ hb.gates hg
    exact binds.clauses.placed (hr.requirements q hq).conditions (hw.requirements q hq) c hc
  · have binds := hb.decision_binds nd
    have admissible := hr.conditions
    have written := hw.condition
    generalize b.decision = d at binds hc
    generalize r.condition = m at binds admissible written
    cases binds with
    | single binds => exact Clause.AllBind.placed (.cons binds .nil) admissible written c hc
    | compound binds => exact binds.placed admissible written c hc

end BoundRule

/-- Every clause of every rule of a checked book, read from documents and bound, compares within one
kind: its type is one that conditions may use, booleans take no ordering operator, and what a value
becomes in the field is of the kind of the literal, which is the kind that the type names. So a
comparison that refuses to compare things of different kinds has the same answer for every value. -/
theorem RuleSet.clauses_placed {settings : CompileSettings} {schemas : List Sql.Schema}
    {catalog : Catalog} {book : Book} {report : Report} {set : RuleSet}
    (hc : compileSchemas settings schemas = .ok catalog)
    (read : ∀ r ∈ book.rules, ∃ text source domain f, Feature.read text source domain = .ok f ∧
      r ∈ f.rules)
    (hv : book.check catalog = .ok report) (hs : book.bind catalog = .ok set) {b : BoundRule}
    (hb : b ∈ set.rules) {c : Clause} (h : b.Has c) :
    c.type ≠ .date ∧ c.type ≠ .datetime ∧ (c.type = .bool → c.operator = .eq ∨ c.operator = .ne) ∧
      c.type.kind? = some c.literal.kind ∧
      (∀ v x, Compare.coerce v c.type = .ok (some x) → x.kind = c.literal.kind) ∧
      ∀ actual, Compare.field actual c.operator c.literal.toValue c.type =
        Compare.fieldWithin actual c.operator c.literal c.type := by
  obtain ⟨r, hr, e, -, nd, wf, under⟩ :=
    exists_of_forall₂ (Book.bind_wellFormed (compileSchemas_sound hc) hv hs) hb
  obtain ⟨_, _, _, f, hf, hrf⟩ := read r hr
  have placed := under.placed nd wf (Feature.read_written hf r hrf) h
  refine ⟨fun date => ?_, fun datetime => ?_, fun bool => ?_, placed.kind, fun v x hx =>
    ?_, fun actual => ?_⟩
  · have comparable := placed.comparable
    rw [date] at comparable
    cases comparable
  · have comparable := placed.comparable
    rw [datetime] at comparable
    cases comparable
  · have ordered := placed.ordered
    rw [bool] at ordered
    cases op : c.operator with
    | eq => exact .inl rfl
    | ne => exact .inr rfl
    | gt | lt | ge | le =>
      rw [op] at ordered
      cases ordered rfl
  · exact Option.some.inj ((Compare.coerce_kind hx).symm.trans placed.kind)
  · exact (Compare.field_within placed.kind actual c.operator).symm

namespace Clerks

/-- A document with a rule on a role, a quantity and a price. -/
def text : List Char :=
  ("Feature: Stock\n@target:items @rule:Stocked\nScenario:\nGiven user context requires:\n" ++
    "| field | operator | value |\n| role | == | \"clerk\" |\nWhen any condition is met:\n" ++
    "| field | operator | value |\n| qty | > | 5 |\n| price | >= | 2 |\n" ++
    "Then status is \"OK\"\nBut otherwise status is \"NO\"").toList

/-- The rule of the document. -/
def rule : Rule := { Stock.rule with line := some 3 }

/-- The book of the rule. -/
def book : Book := { registry := Stock.registry, rules := [rule] }

/-- A price is compared as a decimal, whatever it is given as. -/
theorem price_placed :
    ∃ report set b c, compileSchemas Stock.settings [Stock.schema] = .ok Stock.catalog ∧
      (∀ r ∈ book.rules, ∃ text source domain f, Feature.read text source domain = .ok f ∧
        r ∈ f.rules) ∧
      book.check Stock.catalog = .ok report ∧ book.bind Stock.catalog = .ok set ∧
      b ∈ set.rules ∧ b.Has c ∧ c.field = "price" ∧ c.literal.kind = .decimal ∧
      ∀ v x, Compare.coerce v c.type = .ok (some x) → x.kind = c.literal.kind := by
  have hc : compileSchemas Stock.settings [Stock.schema] = .ok Stock.catalog := by rfl
  have hf : Feature.read text none "default" = .ok { name := "Stock", rules := [rule] } := by
    decide +kernel
  have read : ∀ r ∈ book.rules, ∃ text source domain f,
      Feature.read text source domain = .ok f ∧ r ∈ f.rules :=
    fun r hr => ⟨_, _, _, _, hf, hr⟩
  obtain ⟨report, hv⟩ : ∃ report, book.check Stock.catalog = .ok report := ⟨_, rfl⟩
  obtain ⟨set, b, c, hs, hb, h, price, decimal⟩ : ∃ set b c,
    book.bind Stock.catalog = .ok set ∧ b ∈ set.rules ∧
      b.Has c ∧ c.field = "price" ∧ c.literal.kind = .decimal :=
    ⟨_, _, _, rfl, .head _, .inr (.tail _ (.head _)), rfl, rfl⟩
  obtain ⟨-, -, -, -, kinds, -⟩ := RuleSet.clauses_placed hc read hv hs hb h
  exact ⟨report, set, b, c, hc, read, hv, hs, hb, h, price, decimal, kinds⟩

end Clerks
end Rulebook
