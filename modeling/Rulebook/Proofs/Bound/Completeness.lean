import Rulebook.Proofs.Bound.Literal
import Rulebook.Proofs.Catalog.Compile
import Rulebook.Proofs.Number.Numeral
import Rulebook.Proofs.Rule.Written
import Rulebook.Rule.Registry.Document

/-!
# Checked books can be bound

A book that is read from documents and passes the check can be bound, except for literals that lie
beyond the numbers of their field's type, about which the check asks nothing
(`Book.bind_iff_inRange`): an integer without a nearest double in a field of doubles, and a numeral
with a point that no decimal represents. What is bound has the types that were checked.
-/

namespace Rulebook
open Number Text

/-- The literal of a condition is among the numbers that fields of a type compare with. -/
structure Condition.InRange (c : Condition) (t : ScalarType) : Prop where
  double : ∀ n, c.literal = .int n → t.isBinary = true → n.natAbs < Double.overflowBound
  decimal : ∀ s, c.literalText = some s → t = .decimal →
    Decimal.inRange (digitsValue (digitsOf s.toList)) (-(places s.toList : Int)) = true

/-- The literals of conditions are in the ranges of their fields. -/
def Condition.AllInRange (typeOf : String → Option ScalarType) (cs : List Condition) : Prop :=
  ∀ c ∈ cs, ∀ t, typeOf c.field = some t → c.InRange t

/-- The literals of a rule are in the ranges of their fields. -/
structure Rule.InRange (registry : Registry) (e : Entity) (r : Rule) : Prop where
  requirements : ∀ q ∈ r.requirements,
    Condition.AllInRange (registry.fieldType? q.category) q.conditions
  condition : Condition.AllInRange e.fieldType? r.condition.conditions

/-- The failures that stand for a literal out of range: no double is near it, or no decimal is the
number of its text. -/
def Failure.OutOfRange (e : Failure) : Prop := e = .numeral .overflow ∨ e = .notDecimal

/-- A bound rule has the name of a rule and its conditions, each under the type that the registry or
the entity gives its field. -/
structure BoundRule.Typed (registry : Registry) (e : Entity) (b : BoundRule) (r : Rule) : Prop where
  name : b.name = r.name
  gates : List.Forall₂ (fun q g => g.Binds registry q) r.requirements b.gates
  decision : b.decision.Binds e.fieldType? r.condition

/-! ## Literals -/

namespace Condition

variable {c : Condition} {t : ScalarType}

/-- The literal of a field of texts or booleans is in range. -/
lemma inRange_of_not_numeric (ht : t.isNumeric = false) : c.InRange t := by
  refine ⟨fun _ _ hb => ?_, fun _ _ hd => ?_⟩
  · rw [ScalarType.isNumeric_of_isBinary hb] at ht
    cases ht
  · rw [hd] at ht
    cases ht

/-- A literal of a decimal field gets its form exactly if it is in range. -/
lemma decimal_cases (ha : c.Admissible .decimal) (hw : c.Written) :
    c.InRange .decimal ∧ (∃ cp, c.comparand .decimal = .ok cp) ∨
      ¬ c.InRange .decimal ∧ c.comparand .decimal = .error .notDecimal := by
  rw [comparand_decimal ha.fits]
  obtain ⟨n, hl⟩ | ⟨x, hl⟩ := literal_of_numeric ha.fits rfl
  · have unwritten := hw.int hl
    have hn : c.numberIn? .decimal = some (.ofInt n) := by
      unfold numberIn?
      rw [unwritten, hl]
      rfl
    -- A whole number is exact as a decimal, whatever its size.
    rw [hn]
    refine .inl ⟨⟨fun _ _ h => ?_, fun s hs => ?_⟩, _, rfl⟩
    · cases h
    · rw [unwritten] at hs
      cases hs
  · obtain ⟨s, hs, shape⟩ := hw.float hl
    have hn : c.numberIn? .decimal = Decimal.read? s.toList := by
      unfold numberIn?
      rw [hs]
    rw [hn, Decimal.read?_of_isFloatShape shape]
    by_cases hr :
        Decimal.inRange (digitsValue (digitsOf s.toList)) (-(places s.toList : Int)) = true
    · rw [if_pos hr]
      refine .inl ⟨⟨fun _ _ h => ?_, fun s' hs' _ => ?_⟩, _, rfl⟩
      · cases h
      · cases hs.symm.trans hs'
        exact hr
    · rw [if_neg hr]
      exact .inr ⟨fun h => hr (h.decimal s hs rfl), rfl⟩

/-- A literal of a field of doubles gets its form exactly if it is in range. -/
lemma binary_cases (ha : c.Admissible t) (ht : t.isBinary = true) :
    c.InRange t ∧ (∃ cp, c.comparand t = .ok cp) ∨
      ¬ c.InRange t ∧ c.comparand t = .error (.numeral .overflow) := by
  have hd : t ≠ .decimal := by rintro rfl; cases ht
  rw [comparand_binary ht]
  obtain ⟨n, hl⟩ | ⟨x, hl⟩ := literal_of_numeric ha.fits (ScalarType.isNumeric_of_isBinary ht)
  · rw [hl]
    simp only [Literal.toValue, doubleOf, Double.ofInt]
    -- The nearest double is missing exactly from the bound on.
    have range := Double.ofInt?_eq_none (n := n)
    cases hx : Double.ofInt? n with
    | none =>
      have beyond := range.1 hx
      exact .inr ⟨fun h => absurd beyond (Nat.not_le.2 (h.double n hl ht)), rfl⟩
    | some x =>
      have below : n.natAbs < Double.overflowBound := by
        rw [← Nat.not_le, ← range, hx]
        intro h
        cases h
      refine .inl ⟨⟨fun m hm _ => ?_, fun _ _ h => absurd h hd⟩, _, rfl⟩
      cases hl.symm.trans hm
      exact below
  · rw [hl]
    refine .inl ⟨⟨fun m hm => ?_, fun _ _ h => absurd h hd⟩, _, rfl⟩
    cases hl.symm.trans hm

/-- A literal gets the form it is compared in, or it is out of range. -/
lemma comparand_cases (ha : c.Admissible t) (hw : c.Written) :
    c.InRange t ∧ (∃ cp, c.comparand t = .ok cp) ∨
      ¬ c.InRange t ∧ ∃ err, c.comparand t = .error err ∧ err.OutOfRange := by
  obtain rfl | rfl | rfl | ht := numeric_cases ha.comparable
  · obtain ⟨s, _, hc⟩ := comparand_string ha.fits
    exact .inl ⟨inRange_of_not_numeric rfl, _, hc⟩
  · obtain ⟨b, _, hc⟩ := comparand_bool ha.fits
    exact .inl ⟨inRange_of_not_numeric rfl, _, hc⟩
  · obtain h | ⟨hn, h⟩ := decimal_cases ha hw
    · exact .inl h
    · exact .inr ⟨hn, _, h, .inr rfl⟩
  · obtain h | ⟨hn, h⟩ := binary_cases ha ht
    · exact .inl h
    · exact .inr ⟨hn, _, h, .inl rfl⟩

/-- The literals that get the form they are compared in are those in range. -/
lemma exists_comparand_iff (ha : c.Admissible t) (hw : c.Written) :
    (∃ cp, c.comparand t = .ok cp) ↔ c.InRange t := by
  obtain ⟨h, hc⟩ | ⟨hn, err, he, _⟩ := comparand_cases ha hw
  · exact ⟨fun _ => h, fun _ => hc⟩
  · rw [he]
    constructor
    · rintro ⟨_, h⟩; cases h
    · intro h; exact absurd h hn

/-- A literal that gets no form is out of range. -/
lemma comparand_error {err : Failure} (ha : c.Admissible t) (hw : c.Written)
    (h : c.comparand t = .error err) :
    err.OutOfRange := by
  obtain ⟨_, _, hc⟩ | ⟨_, err', he, hk⟩ := comparand_cases ha hw
  · cases hc.symm.trans h
  · cases he.symm.trans h
    exact hk

end Condition

/-! ## Lists of conditions -/

section Lists

variable {typeOf : String → Option ScalarType} {cs : List Condition}

/-- Related items for each item of a list make a related list. -/
lemma exists_forall₂_iff {α β : Type} {R : α → β → Prop} {l : List α} :
    (∃ m, List.Forall₂ R l m) ↔ ∀ a ∈ l, ∃ b, R a b := by
  induction l with
  | nil => exact ⟨fun _ => List.forall_mem_nil _, fun _ => ⟨[], .nil⟩⟩
  | cons a l ih =>
    rw [List.forall_mem_cons, ← ih]
    constructor
    · rintro ⟨_, h⟩
      cases h with
      | cons ha hl => exact ⟨⟨_, ha⟩, _, hl⟩
    · rintro ⟨⟨b, hb⟩, m, hm⟩
      exact ⟨b :: m, .cons hb hm⟩

/-- A condition has a clause exactly if its literal is in range. -/
lemma Clause.exists_binds_iff {c : Condition} {t : ScalarType} (ha : c.Admissible t)
    (hw : c.Written) :
    (∃ b : Clause, b.Binds c (some t)) ↔ c.InRange t := by
  rw [← Condition.exists_comparand_iff ha hw]
  constructor
  · rintro ⟨b, h⟩
    cases h.type
    exact ⟨_, h.literal⟩
  · rintro ⟨literal, h⟩
    exact ⟨{ field := c.field, operator := c.operator, literal, type := t, text := c.describe },
      rfl, rfl, rfl, rfl, h⟩

/-- Conditions have clauses exactly if their literals are in range. -/
lemma Clause.exists_allBind_iff (ha : Condition.AllAdmissible typeOf cs)
    (hw : ∀ c ∈ cs, c.Written) :
    (∃ bs, Clause.AllBind typeOf cs bs) ↔ Condition.AllInRange typeOf cs := by
  unfold Clause.AllBind Condition.AllInRange
  rw [exists_forall₂_iff]
  refine forall₂_congr fun c hc => ?_
  obtain ⟨t, ht, hat⟩ := ha c hc
  rw [ht, Clause.exists_binds_iff hat (hw c hc)]
  constructor
  · rintro h _ ⟨⟩; exact h
  · intro h; exact h t rfl

/-- A main condition has a decision exactly if its literals are in range. -/
lemma Decision.exists_binds_iff {m : MainCondition}
    (ha : Condition.AllAdmissible typeOf m.conditions) (hw : ∀ c ∈ m.conditions, c.Written) :
    (∃ d, Decision.Binds typeOf d m) ↔ Condition.AllInRange typeOf m.conditions := by
  rw [← Clause.exists_allBind_iff ha hw]
  cases m with
  | single c =>
    constructor
    · rintro ⟨_, h⟩
      cases h with
      | single h => exact ⟨_, .cons h .nil⟩
    · rintro ⟨_, h⟩
      cases h with
      | cons h _ => exact ⟨_, .single h⟩
  | compound logic cs =>
    constructor
    · rintro ⟨_, h⟩
      cases h with
      | compound h => exact ⟨_, h⟩
    · rintro ⟨_, h⟩
      exact ⟨_, .compound h⟩

end Lists

/-! ## Rules -/

section Rules

variable {catalog : Catalog} {registry : Registry} {r : Rule} {e : Entity}

/-- A requirement has a gate exactly if its literals are in range. -/
lemma Gate.exists_binds_iff {q : Requirement} (hq : q.WellFormed registry)
    (hw : ∀ c ∈ q.conditions, c.Written) :
    (∃ g : Gate, g.Binds registry q) ↔
      Condition.AllInRange (registry.fieldType? q.category) q.conditions := by
  rw [← Clause.exists_allBind_iff hq.conditions hw]
  constructor
  · rintro ⟨g, h⟩
    exact ⟨_, h.clauses⟩
  · rintro ⟨clauses, h⟩
    exact ⟨⟨q.category, clauses⟩, rfl, h⟩

/-- A well-formed rule can be bound exactly if its literals are in range. -/
lemma BoundRule.exists_under_iff (nd : e.fieldNames.Nodup) (hr : r.WellFormed catalog registry e)
    (hw : r.Written) :
    (∃ b : BoundRule, b.Under registry (Binding.ofEntity e) r) ↔ r.InRange registry e := by
  have gates : (∃ gs, List.Forall₂ (fun q g => Gate.Binds registry g q) r.requirements gs) ↔
      ∀ q ∈ r.requirements, Condition.AllInRange (registry.fieldType? q.category) q.conditions := by
    rw [exists_forall₂_iff]
    exact forall₂_congr fun q hq =>
      Gate.exists_binds_iff (hr.requirements q hq) (hw.requirements q hq)
  have decision := Decision.exists_binds_iff hr.conditions hw.condition
  constructor
  · rintro ⟨b, hb⟩
    exact ⟨gates.1 ⟨_, hb.gates⟩, decision.1 ⟨_, hb.decision_binds nd⟩⟩
  · rintro ⟨hq, hm⟩
    obtain ⟨gs, hg⟩ := gates.2 hq
    obtain ⟨d, hd⟩ := decision.2 hm
    rw [← Binding.lookup_ofEntity nd] at hd
    exact ⟨{ name := r.name, binding := Binding.ofEntity e, blocking := r.blocking, gates := gs
             decision := d, positive := r.positive, negative := r.negative, definition := r },
      rfl, rfl, rfl, hg, hd, rfl, rfl, rfl⟩

/-- A bound rule has the types that were checked. -/
lemma BoundRule.Under.typed {b : BoundRule} (nd : e.fieldNames.Nodup)
    (hb : b.Under registry (Binding.ofEntity e) r) : b.Typed registry e r :=
  ⟨hb.name, hb.gates, hb.decision_binds nd⟩

end Rules

/-! ## Failures -/

namespace Bind

variable {catalog : Catalog} {registry : Registry} {r : Rule} {e : Entity} {err : Failure}

/-- The only failure of an admissible condition is a literal out of range. -/
lemma clause_error {c : Condition} {t : ScalarType} {category : Option String} (ha : c.Admissible t)
    (hw : c.Written) (h : clause r c (some t) category = .error err) : err.OutOfRange := by
  rw [clause_some] at h
  exact Condition.comparand_error ha hw (Outcome.bind_result_error.1 h)

/-- The only failure of admissible conditions is a literal out of range. -/
lemma clauses_error {typeOf : String → Option ScalarType} {cs : List Condition}
    {category : Option String} (ha : Condition.AllAdmissible typeOf cs) (hw : ∀ c ∈ cs, c.Written)
    (h : cs.mapM (fun c => clause r c (typeOf c.field) category) = .error err) :
    err.OutOfRange := by
  obtain ⟨c, hc, he⟩ := Outcome.mapM_error h
  obtain ⟨t, ht, hat⟩ := ha c hc
  rw [ht] at he
  exact clause_error hat (hw c hc) he

/-- The only failure of a well-formed requirement is a literal out of range. -/
lemma gate_error {q : Requirement} (hq : q.WellFormed registry) (hw : ∀ c ∈ q.conditions, c.Written)
    (h : gate registry r q = .error err) : err.OutOfRange :=
  clauses_error hq.conditions hw (Outcome.bind_result_error.1 h)

/-- The only failure of a main condition with admissible conditions is a literal out of range. -/
lemma decision_error {binding : Binding} {m : MainCondition}
    (ha : Condition.AllAdmissible (binding.fieldTypes.lookup ·) m.conditions)
    (hw : ∀ c ∈ m.conditions, c.Written) (h : decision r binding m = .error err) :
    err.OutOfRange := by
  cases m with
  | single c =>
    have he := Outcome.map_error.1 h
    obtain ⟨t, ht, hat⟩ : ∃ t, binding.fieldTypes.lookup c.field = some t ∧ c.Admissible t :=
      ha c (.head _)
    rw [ht] at he
    exact clause_error hat (hw c (.head _)) he
  | compound logic cs => exact clauses_error ha hw (Outcome.map_error.1 h)

/-- The only failure of a well-formed rule is a literal out of range. -/
lemma rule_error (nd : e.fieldNames.Nodup) (hr : r.WellFormed catalog registry e) (hw : r.Written)
    (h : rule registry r (Binding.ofEntity e) = .error err) : err.OutOfRange := by
  have ha := hr.conditions
  rw [← Binding.lookup_ofEntity nd] at ha
  obtain h | ⟨gates, _, h⟩ := Outcome.bind_error.1 h
  · obtain ⟨q, hq, he⟩ := Outcome.mapM_error h
    exact gate_error (hr.requirements q hq) (hw.requirements q hq) he
  · exact decision_error ha hw.condition (Outcome.bind_result_error.1 h)

/-- The only failure of well-formed rules is a literal out of range. -/
lemma rules_error (sound : catalog.Sound) {rs : List Rule} :
    ∀ {ts : Targets}, ts.From catalog → (∀ r ∈ rs, ∃ e, r.WellFormed catalog registry e) →
      (∀ r ∈ rs, r.Written) → rules catalog registry ts rs = .error err → err.OutOfRange := by
  induction rs with
  | nil => intro ts _ _ _ h; cases h
  | cons r rs ih =>
    intro ts hts wf hw h
    rw [List.forall_mem_cons] at wf hw
    obtain ⟨e, hr⟩ := wf.1
    have he := (sound.of_findTarget? hr.target).1
    have ht := (target_ok sound hts).2 ⟨e, hr.target, rfl, rfl⟩
    unfold rules at h
    rw [ht, Outcome.ok_bind] at h
    obtain h | ⟨bound, _, h⟩ := Outcome.bind_error.1 h
    · exact rule_error (sound.fields_nodup he) hr hw.1 h
    · exact ih (hts.use he) wf.2 hw.2 (Outcome.bind_result_error.1 h)

end Bind

/-- A book that passes the check can be bound exactly if the literals of its rules are in range. The
bound rules are then the rules of the book, one by one and with the types that were checked; and if
it cannot be bound, the failure is that of a literal out of range. -/
theorem Book.bind_iff_inRange {settings : CompileSettings} {schemas : List Sql.Schema}
    {catalog : Catalog} {book : Book} {report : Report}
    (hc : compileSchemas settings schemas = .ok catalog)
    (read : ∀ r ∈ book.rules, ∃ text source domain f, Feature.read text source domain = .ok f ∧
      r ∈ f.rules)
    (hv : book.check catalog = .ok report) :
    ((∃ set, book.bind catalog = .ok set) ↔
        ∀ r ∈ book.rules, ∀ e, r.subject? catalog = some e → r.InRange book.registry e) ∧
      (∀ set, book.bind catalog = .ok set →
        List.Forall₂ (fun r b => ∃ e, r.subject? catalog = some e ∧ b.Typed book.registry e r)
          book.rules set.rules) ∧
      ∀ err, book.bind catalog = .error err → err.OutOfRange := by
  have sound := compileSchemas_sound hc
  have wf := Book.check_wellFormed hv
  have written : ∀ r ∈ book.rules, r.Written := by
    intro r hr
    obtain ⟨_, _, _, f, hf, hrf⟩ := read r hr
    exact Feature.read_written hf r hrf
  refine ⟨?_, ?_, ?_⟩
  · have bound : (∃ set, book.bind catalog = .ok set) ↔
        ∀ r ∈ book.rules, ∃ b : BoundRule, b.Binds catalog book.registry r := by
      rw [← exists_forall₂_iff]
      constructor
      · rintro ⟨set, hs⟩
        exact ⟨_, ((Book.bind_ok sound).1 hs).1⟩
      · rintro ⟨bs, hbs⟩
        exact ⟨{ rules := bs, targets := (bs.map (·.binding)).eraseDups, catalog, book },
          (Book.bind_ok sound).2 ⟨hbs, rfl, rfl, rfl⟩⟩
    -- Rules are bound one by one, whatever bindings they share.
    rw [bound]
    refine forall₂_congr fun r hr => ?_
    obtain ⟨e, hwf⟩ := wf r hr
    have subject : r.subject? catalog = some e := hwf.target
    have nd := sound.fields_nodup (sound.of_findTarget? subject).1
    have iff := BoundRule.exists_under_iff nd hwf (written r hr)
    constructor
    · rintro ⟨b, e', he', hb⟩ e'' he''
      cases subject.symm.trans he'
      cases subject.symm.trans he''
      exact iff.1 ⟨b, hb⟩
    · intro h
      obtain ⟨b, hb⟩ := iff.2 (h e subject)
      exact ⟨b, e, subject, hb⟩
  · intro set hs
    refine (Book.bind_wellFormed sound hv hs).imp ?_
    rintro r b ⟨e, he, nd, _, hb⟩
    exact ⟨e, he, hb.typed nd⟩
  · intro err h
    have none : Targets.From catalog [] := by intro b hb; cases hb
    exact Bind.rules_error sound none wf written (Outcome.bind_result_error.1 h)

/-! ## Thresholds -/

namespace Threshold

/-- Compiling without a previous version. -/
def settings : CompileSettings := { defaultDomain := "default" }

/-- A table of items with a quantity. -/
def schema : Sql.Schema where
  tables := [{
    name := "items"
    domain := none
    columns := [{ name := "qty", nativeType := "INT", type := .int32 }]
    source := none
    line := 1 }]

/-- The entity that the table makes. -/
def catalog : Catalog where
  domains := [{
    name := "default"
    models := [{
      kind := .model
      name := "Item"
      domain := "default"
      sourceName := "items"
      resource := "items"
      fields := [{ name := "qty", type := .int32, ordinal := 1 }] }] }]

/-- A document with one rule: there have to be more items than a number says. -/
def text (number : List Char) : List Char :=
  "Feature: Stock\n@target:items @rule:Stocked\nScenario:\nWhen qty > ".toList ++ number ++
    "\nThen status is \"OK\"\nBut otherwise status is \"NO\"".toList

/-- The rule of the document. -/
def rule (threshold : Nat) : Rule where
  name := "Stocked"
  target := { name := "items", domain := "default" }
  condition := .single { field := "qty", operator := .gt, literal := .int threshold }
  positive := "OK"
  negative := "NO"
  line := some 3

/-- The book of the rule. -/
def book (threshold : Nat) : Book := { rules := [rule threshold] }

/-- The document with a small number is read, and its book passes the check and is bound. -/
theorem seven_bind_iff :
    ∃ report, compileSchemas settings [schema] = .ok catalog ∧
      (∀ r ∈ (book 7).rules, ∃ text source domain f, Feature.read text source domain = .ok f ∧
        r ∈ f.rules) ∧
      (book 7).check catalog = .ok report ∧
      ((∃ set, (book 7).bind catalog = .ok set) ↔
          ∀ r ∈ (book 7).rules, ∀ e, r.subject? catalog = some e → r.InRange (book 7).registry e) ∧
        (∀ set, (book 7).bind catalog = .ok set →
          List.Forall₂ (fun r b => ∃ e, r.subject? catalog = some e ∧ b.Typed (book 7).registry e r)
            (book 7).rules set.rules) ∧
        ∀ err, (book 7).bind catalog = .error err → err.OutOfRange := by
  have hc : compileSchemas settings [schema] = .ok catalog := by rfl
  have hf : Feature.read (text ['7']) none "default" =
      .ok { name := "Stock", rules := [rule 7] } := by
    decide +kernel
  have read : ∀ r ∈ (book 7).rules,
      ∃ text source domain f, Feature.read text source domain = .ok f ∧ r ∈ f.rules :=
    fun r hr => ⟨_, _, _, _, hf, hr⟩
  obtain ⟨report, hv⟩ : ∃ report, (book 7).check catalog = .ok report := ⟨_, rfl⟩
  exact ⟨report, hc, read, hv, Book.bind_iff_inRange hc read hv⟩

/-- Not every book that is read from documents and passes the check can be bound: `1` and 309 zeros
are read as a number and fit the type of the field, but no double is near that number. -/
theorem beyond_unbound :
    ¬ ∀ {settings : CompileSettings} {schemas : List Sql.Schema} {catalog : Catalog} {book : Book}
        {report : Report}, compileSchemas settings schemas = .ok catalog →
      (∃ text source, Registry.read text source = .ok book.registry) →
      (∀ r ∈ book.rules, ∃ text source domain f, Feature.read text source domain = .ok f ∧
        r ∈ f.rules) →
      book.check catalog = .ok report → ∃ set, book.bind catalog = .ok set := by
  intro h
  have hc : compileSchemas settings [schema] = .ok catalog := by rfl
  have hr : Registry.read [] none = .ok (book (Nat.pow 10 309)).registry := by decide +kernel
  have hf : Feature.read (text ('1' :: List.replicate 309 '0')) none "default" =
      .ok { name := "Stock", rules := [rule (Nat.pow 10 309)] } := by
    decide +kernel
  have hv : (book (Nat.pow 10 309)).check catalog = .ok { rulesChecked := 1 } := by decide +kernel
  have hb : (book (Nat.pow 10 309)).bind catalog = .error (.numeral .overflow) := by decide +kernel
  obtain ⟨set, hs⟩ := h hc ⟨_, _, hr⟩ (fun r hr => ⟨_, _, _, _, hf, hr⟩) hv
  rw [hb] at hs
  cases hs

end Threshold
end Rulebook
