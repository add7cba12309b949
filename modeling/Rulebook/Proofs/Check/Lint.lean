import Rulebook.Proofs.Eval.Agreement
import Rulebook.Proofs.Eval.Reading
import Rulebook.Proofs.Number.Reading
import Rulebook.Proofs.Rule.Written

/-!
# What lint says about clauses

Two clauses of a group that lint finds to be opposites, or one a repetition of the other, are so
when the rule is bound (`Book.lint_right`): of a conjunction with opposites the bound clauses never
hold together, of a disjunction they always do if the field has a value that its type admits, and a
repetition can be dropped.

Lint compares literals as doubles, a decimal field exactly. What it says of a decimal field is only
right of literals that are one number (`Lint.Exact`); two numerals with one nearest double are told
apart by the bound rule (`Discount.opposites_hold`).
-/

namespace Rulebook
open Number Text

namespace Lint

/-- Lint reports two clauses of a group, an earlier and a later one. -/
def Reports (group : String) (logic : Logic) (cs : List Condition) (i j : ℕ) (f : Finding) : Prop :=
  i < j ∧ ∃ a b, cs[i]? = some a ∧ cs[j]? = some b ∧ pair group logic a b = some f

/-- Where two clauses are on a decimal field, their literals are one number. -/
def Exact (typeOf : String → Option ScalarType) (cs : List Condition) (i j : ℕ) : Prop :=
  ∀ a b, cs[i]? = some a → cs[j]? = some b → typeOf a.field = some .decimal →
    ∀ x y, a.numberIn? .decimal = some x → b.numberIn? .decimal = some y → x.compare? y = some .eq

/-- What lint reports about the clauses of a group is right of the bound clauses; `outcome` tells
whether such clauses hold together. -/
structure Right (typeOf : String → Option ScalarType) (group : String) (logic : Logic)
    (cs : List Condition) (outcome : (String → Outcome (Option Value)) → List Clause → Outcome Bool)
    (bs : List Clause) : Prop where
  /-- The findings are those about two clauses. -/
  reports : ∀ f, f ∈ clauses group logic cs ↔ ∃ i j, Reports group logic cs i j f
  /-- Opposites in a conjunction: it is false. -/
  never : logic = .all → ∀ i j f, Reports group logic cs i j f → Exact typeOf cs i j →
    f.code = "complementary-clauses" → ∀ access, outcome access bs = .ok false ∨
    Eval.Stuck false access bs
  /-- Opposites in a disjunction: it is true, if the field has a value that can be compared. -/
  always : logic = .any → ∀ i j f, Reports group logic cs i j f → Exact typeOf cs i j →
    f.code = "complementary-clauses" → ∀ access t v, typeOf f.element = some t →
      access f.element = .ok (some v) → v.ComparableIn t → outcome access bs = .ok true ∨
      Eval.Stuck true access bs
  /-- A repetition: nothing changes without the later clause. -/
  again : ∀ i j f, Reports group logic cs i j f → Exact typeOf cs i j →
    f.code = "duplicate-clause" → ∀ access, outcome access (bs.eraseIdx j) = outcome access bs

/-- A finding is about the clauses of a group of a rule. -/
inductive FoundIn (r : Rule) (f : Finding) : Prop
  | condition {logic cs} :
      r.condition = .compound logic cs → f ∈ clauses "condition" logic cs → FoundIn r f
  | requirement {q} : q ∈ r.requirements →
    f ∈ clauses s!"{q.category} requirement" .all q.conditions → FoundIn r f

/-- What lint reports about the clauses of a rule is right of the bound rule. -/
structure RightOf (registry : Registry) (e : Entity) (r : Rule) (b : BoundRule) : Prop where
  findings : ∀ f ∈ findings r e, f.code = "complementary-clauses" ∨ f.code = "duplicate-clause" →
    FoundIn r f
  condition : ∀ logic cs, r.condition = .compound logic cs → ∃ bs, b.decision = .compound logic bs ∧
    Right e.fieldType? "condition" logic cs (fun access bs =>
      (Decision.compound logic bs).outcome access) bs
  requirements : List.Forall₂
    (fun q g => g.category = q.category ∧
      Right (registry.fieldType? q.category) s!"{q.category} requirement" .all q.conditions
        (fun access bs => Gate.outcome access ⟨q.category, bs⟩) g.clauses)
    r.requirements b.gates

/-! ## Findings -/

variable {group : String} {logic : Logic} {cs : List Condition} {a b : Condition} {f : Finding}

/-- What is found about two clauses, and when. -/
lemma pair_some (h : pair group logic a b = some f) :
    comparesSame a b = true ∧
      ((f = .complementary group logic a.describe b.describe a.field ∧
        a.operator.Opposed b.operator) ∨
        (f = .repeated group a.describe a.field ∧ a.operator = b.operator)) := by
  unfold pair at h
  split at h
  · cases h
  · rename_i same
    refine ⟨by simpa using same, ?_⟩
    split at h
    · rename_i opposite
      cases h
      exact .inl ⟨rfl, by simpa [Operator.Opposed] using opposite⟩
    · split at h
      · rename_i repetition
        cases h
        exact .inr ⟨rfl, by simpa using repetition⟩
      · cases h

/-- The findings about a group are those about an earlier and a later one of its clauses. -/
lemma mem_clauses : f ∈ clauses group logic cs ↔ ∃ i j, Reports group logic cs i j f := by
  induction cs with
  | nil =>
    constructor
    · intro h; cases h
    · rintro ⟨i, j, -, a, b, ha, -⟩; cases ha
  | cons c cs ih =>
    rw [clauses, List.mem_append, List.mem_filterMap, ih]
    constructor
    · rintro (⟨b, hb, hp⟩ | ⟨i, j, before, a, b, ha, hb, hp⟩)
      · obtain ⟨j, hj⟩ := List.mem_iff_getElem?.1 hb
        exact ⟨0, j + 1, Nat.succ_pos j, c, b, rfl, hj, hp⟩
      · exact ⟨i + 1, j + 1, Nat.succ_lt_succ before, a, b, ha, hb, hp⟩
    · rintro ⟨i, j, before, a, b, ha, hb, hp⟩
      obtain ⟨j, rfl⟩ := Nat.exists_eq_add_one_of_ne_zero (Nat.ne_zero_of_lt before)
      cases i with
      | zero =>
        cases ha
        exact .inl ⟨b, List.mem_of_getElem? hb, hp⟩
      | succ i => exact .inr ⟨i, j, Nat.lt_of_succ_lt_succ before, a, b, ha, hb, hp⟩

/-- Opposites and repetitions are found in the groups of a rule only. -/
lemma foundIn_of_mem {r : Rule} {e : Entity} (h : f ∈ findings r e)
    (code : f.code = "complementary-clauses" ∨ f.code = "duplicate-clause") : FoundIn r f := by
  rw [findings, List.mem_append, List.mem_append, List.mem_append] at h
  obtain ((h | h) | h) | h := h
  · obtain ⟨c, -, hf⟩ := List.mem_filterMap.1 h
    split at hf
    · split at hf
      · cases hf
        simp [Finding.code] at code
      · cases hf
    · cases hf
  · split at h
    · rename_i hc
      exact .condition hc h
    · cases h
  · obtain ⟨q, hq, hf⟩ := List.mem_flatMap.1 h
    exact .requirement hq hf
  · rw [names, List.mem_append, List.mem_append, List.mem_map] at h
    obtain (h | ⟨s, -, rfl⟩) | h := h
    · split at h
      · cases h
      · cases List.mem_singleton.1 h
        simp [Finding.code] at code
    · simp [Finding.code] at code
    · split at h
      · cases List.mem_singleton.1 h
        simp [Finding.code] at code
      · cases h

end Lint

/-! ## Literals -/

/-- What is read as a double is nearest to a numeral. -/
lemma Literal.placed_of_read {value : List Char} {x : Double} (h : read value = .ok (.float x)) :
    x.Placed := by
  obtain ⟨shape, number⟩ := read_float h
  rw [Double.read_of_isFloatShape shape] at number
  cases number
  exact Double.ofScientific_placed _ _ _

namespace Condition

variable {a b : Condition} {t : ScalarType} {l l' : Comparand}

/-- A decimal that is a number stays the number that it is. -/
lemma number_ofValue {d : Decimal} (hd : d.isNaN = false)
    (h : Comparand.ofValue (.decimal d) = .ok l) :
    l.number = d := by
  cases d with
  | nan => cases hd
  | finite | infinite => cases h; rfl

/-- Literals that are the same to lint agree when they are bound, those of decimal fields if
they are one number. -/
lemma comparand_agrees (ha : a.Admissible t) (hb : b.Admissible t) (wa : a.Written) (wb : b.Written)
    (same : a.literal.same b.literal = true)
    (exactly : t = .decimal → ∀ x y, a.numberIn? .decimal = some x → b.numberIn? .decimal = some y →
      x.compare? y = some .eq)
    (hl : a.comparand t = .ok l) (hl' : b.comparand t = .ok l') : l.Agrees l' := by
  obtain rfl | rfl | rfl | ht := numeric_cases ha.comparable
  · obtain ⟨s, hs, hc⟩ := comparand_string ha.fits
    obtain ⟨s', hs', hc'⟩ := comparand_string hb.fits
    rw [hs, hs'] at same
    obtain rfl : s = s' := beq_iff_eq.1 same
    cases hc.symm.trans hl
    cases hc'.symm.trans hl'
    exact .same
  · obtain ⟨s, hs, hc⟩ := comparand_bool ha.fits
    obtain ⟨s', hs', hc'⟩ := comparand_bool hb.fits
    rw [hs, hs'] at same
    obtain rfl : s = s' := beq_iff_eq.1 same
    cases hc.symm.trans hl
    cases hc'.symm.trans hl'
    exact .same
  · rw [comparand_decimal ha.fits] at hl
    rw [comparand_decimal hb.fits] at hl'
    cases hx : a.numberIn? .decimal with
    | none => rw [hx] at hl; cases hl
    | some x =>
      cases hy : b.numberIn? .decimal with
      | none => rw [hy] at hl'; cases hl'
      | some y =>
        rw [hx] at hl
        rw [hy] at hl'
        have eq := exactly rfl x y hx hy
        have number : x.isNaN = false := by cases x <;> first | rfl | cases eq
        have number' : y.isNaN = false := by cases y <;> first | rfl | (cases x <;> cases eq)
        refine .number ?_
        rw [number_ofValue number hl, number_ofValue number' hl', eq]
  · rw [comparand_binary ht] at hl hl'
    obtain ⟨x, hx, rfl⟩ := Outcome.map_ok.1 hl
    obtain ⟨y, hy, rfl⟩ := Outcome.map_ok.1 hl'
    have numeric := ScalarType.isNumeric_of_isBinary ht
    obtain ⟨n, hn⟩ | ⟨x', hx'⟩ := literal_of_numeric ha.fits numeric
    · obtain ⟨m, hm⟩ | ⟨y', hy'⟩ := literal_of_numeric hb.fits numeric
      · rw [hn, hm] at same
        obtain rfl : n = m := beq_iff_eq.1 same
        rw [hn] at hx
        rw [hm] at hy
        cases hx.symm.trans hy
        exact .same
      · rw [hn, hy'] at same
        cases same
    · obtain ⟨m, hm⟩ | ⟨y', hy'⟩ := literal_of_numeric hb.fits numeric
      · rw [hx', hm] at same
        cases same
      · obtain ⟨_, ra, -⟩ := wa
        obtain ⟨_, rb, -⟩ := wb
        rw [hx'] at hx same ra
        rw [hy'] at hy same rb
        cases hx
        cases hy
        refine .number ?_
        exact (Double.compare?_toDecimal (Literal.placed_of_read ra)
          (Literal.placed_of_read rb)).trans
          (beq_iff_eq.1 same)

end Condition

/-! ## Clauses -/

section Clauses

variable {typeOf : String → Option ScalarType} {group : String} {logic : Logic}
  {cs : List Condition} {bs : List Clause}

/-- Conditions that lint compares as the same are bound to clauses that make
the same comparisons. -/
lemma Clause.Binds.alike {a b : Condition} {u w : Clause} (hu : u.Binds a (typeOf a.field))
    (hw : w.Binds b (typeOf b.field)) (ha : ∃ t, typeOf a.field = some t ∧ a.Admissible t)
    (hb : ∃ t, typeOf b.field = some t ∧ b.Admissible t) (wa : a.Written) (wb : b.Written)
    (same : Lint.comparesSame a b = true)
    (exactly : typeOf a.field = some .decimal → ∀ x y, a.numberIn? .decimal = some x →
      b.numberIn? .decimal = some y → x.compare? y = some .eq) :
    u.Alike w ∧ w.literal.Suits w.type := by
  obtain ⟨field, literal⟩ := Bool.and_eq_true_iff.1 same
  have field : a.field = b.field := beq_iff_eq.1 field
  obtain ⟨t, ht, ha⟩ := ha
  obtain ⟨t', ht', hb⟩ := hb
  rw [← field, ht] at ht'
  cases ht'
  rw [ht] at hu
  rw [← field, ht] at hw
  have type : t = u.type := Option.some.inj hu.type
  have type' : t = w.type := Option.some.inj hw.type
  have hl : a.comparand t = .ok u.literal := type ▸ hu.literal
  have hl' : b.comparand t = .ok w.literal := type' ▸ hw.literal
  have suits := Condition.suits_of_comparand ha hl
  have suits' := Condition.suits_of_comparand hb hl'
  have agrees := Condition.comparand_agrees ha hb wa wb literal (fun h =>
    exactly (ht.trans (congrArg some h))) hl hl'
  refine ⟨⟨by rw [hu.field, hw.field, field], fun actual op => ?_⟩, type' ▸ suits'⟩
  rw [← type, ← type']
  exact Compare.field_congr suits suits' agrees

/-- Where lint reports two conditions, the bound clauses make the same comparisons, with opposed
operators or with one operator. -/
lemma Lint.Reports.bound {i j : ℕ} {f : Finding} (h : Reports group logic cs i j f)
    (exactly : Exact typeOf cs i j) (hb : Clause.AllBind typeOf cs bs)
    (ha : Condition.AllAdmissible typeOf cs) (hw : ∀ c ∈ cs, c.Written) :
    ∃ u w, bs[i]? = some u ∧ bs[j]? = some w ∧ u.Alike w ∧ w.literal.Suits w.type ∧
      w.field = f.element ∧ typeOf f.element = some w.type ∧
      (f.code = "complementary-clauses" → u.operator.Opposed w.operator) ∧
      (f.code = "duplicate-clause" → u.operator = w.operator) := by
  obtain ⟨-, a, b, hi, hj, found⟩ := h
  obtain ⟨u, hu, bu⟩ := getElem?_of_forall₂ hb hi
  obtain ⟨w, hw', bw⟩ := getElem?_of_forall₂ hb hj
  have ma := List.mem_of_getElem? hi
  have mb := List.mem_of_getElem? hj
  obtain ⟨same, kind⟩ := pair_some found
  obtain ⟨alike, suits⟩ :=
    bu.alike bw (ha a ma) (ha b mb) (hw a ma) (hw b mb) same (exactly a b hi hj)
  have element : w.field = f.element := by
    obtain ⟨rfl, -⟩ | ⟨rfl, -⟩ := kind
    · exact alike.field.symm.trans bu.field
    · exact alike.field.symm.trans bu.field
  refine ⟨u, w, hu, hw', alike, suits, element, ?_, ?_⟩
  · rw [← element, bw.field]
    exact bw.type
  · rw [bu.operator, bw.operator]
    obtain ⟨rfl, opposed⟩ | ⟨rfl, equal⟩ := kind
    · exact ⟨fun _ => opposed, fun other => absurd other (by simp [Finding.code])⟩
    · exact ⟨fun other => absurd other (by simp [Finding.code]), fun _ => equal⟩

/-- What lint reports about conditions is right of the clauses that they are bound to. -/
lemma Lint.right_of_binds {outcome : (String → Outcome (Option Value)) → List Clause → Outcome Bool}
    (hb : Clause.AllBind typeOf cs bs) (ha : Condition.AllAdmissible typeOf cs)
    (hw : ∀ c ∈ cs, c.Written)
    (ho : ∀ access bs, outcome access bs = Eval.together access bs logic) :
    Right typeOf group logic cs outcome bs := by
  refine ⟨fun f => mem_clauses, ?_, ?_, ?_⟩
  · rintro rfl i j f h exactly code access
    obtain ⟨u, w, hu, hw, alike, suits, -, -, opposed, -⟩ := h.bound exactly hb ha hw
    rw [ho]
    exact Eval.together_all_of_not_both (List.mem_of_getElem? hu) (List.mem_of_getElem? hw)
      (alike.not_both suits (opposed code))
  · rintro rfl i j f h exactly code access t v type found comparable
    obtain ⟨u, w, hu, hw, alike, suits, element, type', opposed, -⟩ := h.bound exactly hb ha hw
    cases type.symm.trans type'
    rw [← element] at found
    rw [ho]
    obtain holds | holds := alike.one_holds suits (opposed code) found comparable
    · exact Eval.together_any_of_holds (List.mem_of_getElem? hu) holds
    · exact Eval.together_any_of_holds (List.mem_of_getElem? hw) holds
  · intro i j f h exactly code access
    obtain ⟨u, w, hu, hw, alike, -, -, -, -, equal⟩ := h.bound exactly hb ha hw
    rw [ho, ho]
    exact Eval.together_eraseIdx h.1 hu hw (alike.answer_congr (equal code))

end Clauses

/-! ## Books -/

/-- What lint reports about the clauses of a rule is right of the bound rule. -/
lemma BoundRule.Under.rightOf {catalog : Catalog} {registry : Registry} {b : BoundRule}
    {r : Rule} {e : Entity} (nd : e.fieldNames.Nodup) (hb : b.Under registry (Binding.ofEntity e) r)
    (hr : r.WellFormed catalog registry e) (hw : r.Written) : Lint.RightOf registry e r b := by
  refine ⟨fun f => Lint.foundIn_of_mem, ?_, ?_⟩
  · intro logic cs hc
    have decision := hb.decision_binds nd
    have admissible := hr.conditions
    have written := hw.condition
    rw [hc] at decision admissible written
    generalize b.decision = d at decision
    cases decision with
    | compound binds =>
      exact ⟨_, rfl, Lint.right_of_binds binds admissible written fun _ _ =>
        Decision.outcome_compound⟩
  · obtain ⟨len, pairs⟩ := List.forall₂_iff_zip.1 hb.gates
    refine List.forall₂_iff_zip.2 ⟨len, fun {q g} h => ?_⟩
    have mem := (List.of_mem_zip h).1
    have binds := pairs h
    exact ⟨binds.category, Lint.right_of_binds binds.clauses (hr.requirements q mem).conditions
      (hw.requirements q mem) fun _ _ => Gate.outcome_eq⟩

/-- What lint reports about the clauses of the rules of a checked book is right of the bound rules,
if it compares literals as exactly as their fields do. -/
theorem Book.lint_right {settings : CompileSettings} {schemas : List Sql.Schema}
    {catalog : Catalog} {book : Book} {report : Report} {set : RuleSet}
    (hc : compileSchemas settings schemas = .ok catalog)
    (read : ∀ r ∈ book.rules, ∃ text source domain f, Feature.read text source domain = .ok f ∧
      r ∈ f.rules)
    (hv : book.check catalog = .ok report) (hs : book.bind catalog = .ok set) :
    List.Forall₂ (fun r b => ∃ e, r.subject? catalog = some e ∧ Lint.RightOf book.registry e r b)
      book.rules set.rules := by
  obtain ⟨len, pairs⟩ :=
    List.forall₂_iff_zip.1 (Book.bind_wellFormed (compileSchemas_sound hc) hv hs)
  refine List.forall₂_iff_zip.2 ⟨len, fun {r b} h => ?_⟩
  obtain ⟨e, he, nd, wf, hu⟩ := pairs h
  obtain ⟨_, _, _, f, hf, hrf⟩ := read r (List.of_mem_zip h).1
  exact ⟨e, he, hu.rightOf nd wf (Feature.read_written hf r hrf)⟩

/-! ## Discounts -/

namespace Discount

/-- The double nearest to a tenth. -/
def tenth : Double := .finite false 7205759403792794 (-56)

/-- A document with one rule: the price is a tenth, and is not the number that is written. -/
def text (other : String) : List Char :=
  ("Feature: Discounts\n@target:items @rule:Reduced\nScenario:\nWhen all conditions are met:\n" ++
    "| field | operator | value |\n| price | == | 0.10 |\n| price | != | " ++ other ++ " |\n" ++
    "Then status is \"OK\"\nBut otherwise status is \"NO\"").toList

/-- The rule of the document, if a tenth is the double nearest to that number. -/
def rule (other : String) : Rule where
  name := "Reduced"
  target := { name := "items", domain := "default" }
  condition := .compound .all
    [{ field := "price", operator := .eq, literal := .float tenth, literalText := some "0.10" },
      { field := "price", operator := .ne, literal := .float tenth, literalText := some other }]
  positive := "OK"
  negative := "NO"
  line := some 3

/-- The book of the rule. -/
def book (other : String) : Book := { rules := [rule other] }

/-- The finding about the two clauses. -/
def finding (other : String) : Finding :=
  .complementary "condition" .all "price == 0.10" ("price != " ++ other) "price"

/-- Lint rightly reports that a price cannot be `0.10` and other than `0.1`. -/
theorem opposites_never :
    ∃ report set, compileSchemas Stock.settings [Stock.schema] = .ok Stock.catalog ∧
      (∀ r ∈ (book "0.1").rules, ∃ text source domain f, Feature.read text source domain = .ok f ∧
        r ∈ f.rules) ∧
      (book "0.1").check Stock.catalog = .ok report ∧ (book "0.1").bind Stock.catalog = .ok set ∧
      (⟨"Reduced", finding "0.1"⟩ : Warning) ∈ report.warnings ∧
      ∀ b ∈ set.rules, ∃ bs, b.decision = .compound .all bs ∧
        ∀ access, b.decision.outcome access = .ok false ∨ Eval.Stuck false access bs := by
  have hc : compileSchemas Stock.settings [Stock.schema] = .ok Stock.catalog := by rfl
  have hf : Feature.read (text "0.1") none "default" =
      .ok { name := "Discounts", rules := [rule "0.1"] } := by
    decide +kernel
  have read : ∀ r ∈ (book "0.1").rules,
      ∃ text source domain f, Feature.read text source domain = .ok f ∧ r ∈ f.rules :=
    fun r hr => ⟨_, _, _, _, hf, hr⟩
  have hv : (book "0.1").check Stock.catalog =
      .ok { rulesChecked := 1, warnings := [⟨"Reduced", finding "0.1"⟩] } := by
    decide +kernel
  obtain ⟨set, hs⟩ : ∃ set, (book "0.1").bind Stock.catalog = .ok set := ⟨_, rfl⟩
  refine ⟨_, set, hc, read, hv, hs, .head _, fun b hb => ?_⟩
  obtain ⟨r, hr, e, he, right⟩ := exists_of_forall₂ (Book.lint_right hc read hv hs) hb
  cases List.mem_singleton.1 hr
  obtain ⟨bs, decision, right⟩ := right.condition .all _ rfl
  have reports : Lint.Reports "condition" .all (rule "0.1").condition.conditions 0 1
      (finding "0.1") :=
    ⟨Nat.one_pos, _, _, rfl, rfl, by decide +kernel⟩
  have exactly : Lint.Exact e.fieldType? (rule "0.1").condition.conditions 0 1 := by
    rintro a b ⟨⟩ ⟨⟩ - x y hx hy
    have hx' : Decimal.read? "0.10".toList = some x := hx
    have hy' : Decimal.read? "0.1".toList = some y := hy
    have same : (Decimal.read? "0.10".toList).bind (fun x =>
        (Decimal.read? "0.1".toList).bind x.compare?) = some .eq := by
      decide +kernel
    rwa [hx', hy'] at same
  refine ⟨bs, decision, fun access => ?_⟩
  rw [decision]
  exact right.never rfl 0 1 _ reports exactly rfl access

/-- Not all opposites that are reported in a conjunction keep it from being true: a price of `0.1`
is `0.10`, and is not `0.10000000000000000001`, although both have the same nearest double. -/
theorem opposites_hold :
    ¬ ∀ {settings : CompileSettings} {schemas : List Sql.Schema} {catalog : Catalog}
    {book : Book} {report : Report}
        {set : RuleSet}, compileSchemas settings schemas = .ok catalog →
      (∀ r ∈ book.rules, ∃ text source domain f, Feature.read text source domain = .ok f ∧
        r ∈ f.rules) →
      book.check catalog = .ok report → book.bind catalog = .ok set →
      ∀ b ∈ set.rules, ∀ cs i j f, b.definition.condition = .compound .all cs →
        Lint.Reports "condition" .all cs i j f → f.code = "complementary-clauses" →
        ∀ entity, b.decision.outcome (b.access entity) ≠ .ok true := by
  intro h
  have hc : compileSchemas Stock.settings [Stock.schema] = .ok Stock.catalog := by rfl
  have hf : Feature.read (text "0.10000000000000000001") none "default" =
      .ok { name := "Discounts", rules := [rule "0.10000000000000000001"] } := by
    decide +kernel
  obtain ⟨report, hv⟩ : ∃ report,
    (book "0.10000000000000000001").check Stock.catalog = .ok report := ⟨_, rfl⟩
  obtain ⟨set, b, hs, hb, definition, outcome⟩ :
    ∃ set b, (book "0.10000000000000000001").bind Stock.catalog = .ok set ∧
      b ∈ set.rules ∧ b.definition = rule "0.10000000000000000001" ∧
      b.decision.outcome (b.access (.mapping [(.text "price", .decimal (.finite false 1 (-1)))])) =
      .ok true :=
    ⟨_, _, rfl, .head _, rfl, by decide +kernel⟩
  have reports : Lint.Reports "condition" .all (rule "0.10000000000000000001").condition.conditions
      0 1
      (finding "0.10000000000000000001") :=
    ⟨Nat.one_pos, _, _, rfl, rfl, by decide +kernel⟩
  exact h hc (fun r hr => ⟨_, _, _, _, hf, hr⟩) hv hs b hb _ 0 1 _ (by rw [definition]; rfl)
    reports rfl _ outcome

end Discount
end Rulebook
