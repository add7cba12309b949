import Rulebook.Proofs.Eval.Reading

/-!
# When an evaluation fails

On data, looking a field up never fails (`Access.context_ok`), so that an evaluation can only fail
for want of an answer to a comparison. `RuleSet.evaluate_ok_iff` says exactly when it does: when it
comes to a comparison that is faulty, before which nothing decided. Whole numbers beyond the doubles
and signaling decimals are such cases (`Stock.fails`).
-/

namespace Rulebook
open Number Text

/-- A value that is data: not an object that is asked for its attributes and methods. -/
def Value.IsData (v : Value) : Prop := ∀ attributes methods, v ≠ .object attributes methods

/-- A clause has no answer for a value. -/
def Clause.Faulty (c : Clause) (v : Value) : Prop := Comparand.Faulty c.operator c.literal c.type v

/-- An evaluation comes to a clause that has no answer: behind the gates that are passed, and behind
the clauses that do not decide. -/
inductive BoundRule.MeetsFault (r : BoundRule) (entity context : List (Value × Value)) : Prop
  | gate {g object c v} : Gate.Reached (.mapping context) r.gates g →
      Value.lookup? g.category context = some object →
      Eval.Reaches false (Access.context object) g.clauses c →
      Access.context object c.field = .ok (some v) → c.Faulty v → MeetsFault r entity context
  | decision {c v} : (∀ g ∈ r.gates, g.Passes (.mapping context)) →
      r.decision.Reaches (r.access (.mapping entity)) c →
      Access.declared r.binding.fieldNames (.mapping entity) c.field = some v → c.Faulty v →
      MeetsFault r entity context

/-! ## Access -/

namespace Access

variable {v : Value}

/-- A name of data is looked up without fail. -/
lemma named_ok (h : v.IsData) (name : String) : ∃ found, named v name = .ok found := by
  cases v with
  | object attributes methods => exact absurd rfl (h attributes methods)
  | mapping es => exact ⟨_, rfl⟩
  | _ => exact ⟨none, rfl⟩

/-- A name of the context is looked up in data without fail. -/
lemma context_ok (h : v.IsData) (name : String) : ∃ found, context v name = .ok found := by
  obtain ⟨found, hf⟩ := named_ok h name
  unfold context
  rw [hf, Outcome.ok_bind]
  cases found with
  | some w => exact ⟨some w, rfl⟩
  | none =>
    dsimp only
    split
    · exact ⟨none, rfl⟩
    · exact named_ok h _

/-- What is looked up in a mapping is one of its values. -/
lemma mem_of_lookup? {key : String} {es : List (Value × Value)}
    (h : Value.lookup? key es = some v) :
    ∃ p ∈ es, p.2 = v := by
  induction es with
  | nil => cases h
  | cons p es ih =>
    have tail : Value.lookup? key es = some v → ∃ q ∈ p :: es, q.2 = v := by
      intro h
      obtain ⟨q, hq, e⟩ := ih h
      exact ⟨q, .tail _ hq, e⟩
    obtain ⟨k, w⟩ := p
    cases k with
    | text k =>
      rw [Value.lookup?] at h
      split at h
      · cases h
        exact ⟨_, .head _, rfl⟩
      · exact tail h
    | _ => exact tail h

end Access

/-! ## Clauses -/

/-- Where a field is found, a clause has no answer exactly if it is faulty. -/
lemma Clause.answer_error (find : String → Outcome (Option Value)) {c : Clause}
    (hs : c.literal.Suits c.type) (hf : ∃ found, find c.field = .ok found) :
    (∃ e, Eval.answer find c = .error e) ↔ ∃ v, find c.field = .ok (some v) ∧ c.Faulty v := by
  obtain ⟨found, hf⟩ := hf
  unfold Eval.answer
  rw [hf, Outcome.ok_bind, Compare.field_error hs]
  simp only [Except.ok.injEq]
  rfl

/-- The literals of clauses suit their types. -/
lemma Clause.AllBind.suits {typeOf : String → Option ScalarType} {cs : List Condition}
    {bs : List Clause} (hb : Clause.AllBind typeOf cs bs) (ha : Condition.AllAdmissible typeOf cs) :
    ∀ b ∈ bs, b.literal.Suits b.type := by
  intro b hm
  obtain ⟨c, hcm, h⟩ := exists_of_forall₂ hb hm
  obtain ⟨t, ht, had⟩ := ha c hcm
  rw [ht] at h
  cases h.type
  exact Condition.suits_of_comparand had h.literal

/-! ## Rules -/

namespace BoundRule.Under

variable {catalog : Catalog} {registry : Registry} {b : BoundRule} {r : Rule} {e : Entity}

/-- The literals of the gates of a rule suit their types. -/
lemma gates_suit (hb : b.Under registry (Binding.ofEntity e) r)
    (hr : r.WellFormed catalog registry e) :
    ∀ g ∈ b.gates, ∀ c ∈ g.clauses, c.literal.Suits c.type := by
  intro g hg
  obtain ⟨q, hq, h⟩ := exists_of_forall₂ hb.gates hg
  exact h.clauses.suits (hr.requirements q hq).conditions

/-- The literals of the decision of a rule suit their types. -/
lemma decision_suits (nd : e.fieldNames.Nodup) (hb : b.Under registry (Binding.ofEntity e) r)
    (hr : r.WellFormed catalog registry e) : ∀ c ∈ b.decision.clauses, c.literal.Suits c.type := by
  have hd := hb.decision_binds nd
  have ha := hr.conditions
  generalize b.decision = d at hd
  generalize r.condition = m at hd ha
  cases hd with
  | single h => exact Clause.AllBind.suits (.cons h .nil) ha
  | compound h => exact h.suits ha

/-- The evaluation of a rule on data fails exactly if it meets a fault. -/
lemma evaluate_error_iff (nd : e.fieldNames.Nodup) (hb : b.Under registry (Binding.ofEntity e) r)
    (hr : r.WellFormed catalog registry e) {context : Value} {entity entries : List (Value × Value)}
    (hc : Eval.contextOf context = .mapping entries) (data : ∀ p ∈ entries, p.2.IsData) :
    (∃ err, b.evaluate (.mapping entity) context = .error err) ↔ b.MeetsFault entity entries := by
  have found : ∀ category object, Value.lookup? category entries = some object →
      ∀ name, ∃ found, Access.context object name = .ok found := by
    intro category object ho
    obtain ⟨p, hp, rfl⟩ := Access.mem_of_lookup? ho
    exact Access.context_ok (data p hp)
  have permits : b.Permits context ↔ ∀ g ∈ b.gates, g.Passes (.mapping entries) := by
    unfold BoundRule.Permits
    rw [hc]
  -- On data neither the category nor the field of a clause is in the way; only faults of
  -- comparisons remain.
  rw [BoundRule.evaluate_error, permits, hc]
  constructor
  · rintro (⟨g, hg, ⟨err, h⟩ | ⟨object, ho, c, hcl, ha⟩⟩ | ⟨hp, c, hcl, ha⟩)
    · cases h
    · have ho : Value.lookup? g.category entries = some object := Except.ok.inj ho
      have suits := hb.gates_suit hr g hg.mem c hcl.mem
      obtain ⟨v, hv, hf⟩ := (Clause.answer_error _ suits (found _ _ ho _)).1 ha
      exact .gate hg ho hcl hv hf
    · have suits := hb.decision_suits nd hr c (Decision.mem_clauses hcl)
      obtain ⟨v, hv, hf⟩ := (Clause.answer_error _ suits ⟨_, rfl⟩).1 ha
      exact .decision hp hcl (Except.ok.inj hv) hf
  · intro h
    cases h with
    | gate hg ho hcl hv hf =>
      have suits := hb.gates_suit hr _ hg.mem _ hcl.mem
      have ha := (Clause.answer_error _ suits (found _ _ ho _)).2 ⟨_, hv, hf⟩
      exact .inl ⟨_, hg, .inr ⟨_, congrArg Except.ok ho, _, hcl, ha⟩⟩
    | decision hp hcl hv hf =>
      have suits := hb.decision_suits nd hr _ (Decision.mem_clauses hcl)
      have ha := (Clause.answer_error (b.access (.mapping entity)) suits ⟨_, rfl⟩).2
        ⟨_, congrArg Except.ok hv, hf⟩
      exact .inr ⟨hp, _, hcl, ha⟩

end BoundRule.Under

/-- For an entity and a context of data, a rule of a checked book has a verdict exactly if its
evaluation meets no fault. -/
theorem RuleSet.evaluate_ok_iff {settings : CompileSettings} {schemas : List Sql.Schema}
    {catalog : Catalog} {book : Book} {report : Report} {set : RuleSet}
    {b : BoundRule} {context : Value} {entity entries : List (Value × Value)}
    (hc : compileSchemas settings schemas = .ok catalog)
    (hv : book.check catalog = .ok report) (hs : book.bind catalog = .ok set) (hb : b ∈ set.rules)
    (hctx : Eval.contextOf context = .mapping entries) (data : ∀ p ∈ entries, p.2.IsData) :
    (∃ v, b.evaluate (.mapping entity) context = .ok v) ↔ ¬ b.MeetsFault entity entries := by
  have bound := Book.bind_wellFormed (compileSchemas_sound hc) hv hs
  obtain ⟨r, _, e, _, nd, wf, hu⟩ := exists_of_forall₂ bound hb
  rw [← hu.evaluate_error_iff nd wf hctx data]
  cases b.evaluate (.mapping entity) context with
  | error err => simp
  | ok v => simp

namespace Stock

/-- The context with a clerk is data. -/
lemma clerk_isData : ∀ p ∈ clerk, p.2.IsData := by
  intro p hp
  cases List.mem_singleton.1 hp
  intro attributes methods h
  cases h

/-- An item of which there are seven has a verdict, unless the evaluation meets a fault. -/
theorem seven_ok_iff :
    ∃ report set b, compileSchemas settings [schema] = .ok catalog ∧
    book.check catalog = .ok report ∧
      book.bind catalog = .ok set ∧ b ∈ set.rules ∧
      Eval.contextOf (.mapping clerk) = .mapping clerk ∧ (∀ p ∈ clerk, p.2.IsData) ∧
      ((∃ v, b.evaluate (.mapping [(.text "qty", .int 7)]) (.mapping clerk) = .ok v) ↔
        ¬ b.MeetsFault [(.text "qty", .int 7)] clerk) := by
  have hc : compileSchemas settings [schema] = .ok catalog := by rfl
  obtain ⟨report, hv⟩ : ∃ report, book.check catalog = .ok report := ⟨_, rfl⟩
  obtain ⟨set, b, hs, hb⟩ : ∃ set b, book.bind catalog = .ok set ∧ b ∈ set.rules :=
    ⟨_, _, rfl, .head _⟩
  have hctx : Eval.contextOf (.mapping clerk) = .mapping clerk := rfl
  exact ⟨report, set, b, hc, hv, hs, hb, hctx, clerk_isData,
    RuleSet.evaluate_ok_iff hc hv hs hb hctx clerk_isData⟩

/-- Not every evaluation on data has a verdict: a signaling decimal in a field of
integers has none. -/
theorem fails :
    ¬ ∀ {settings : CompileSettings} {schemas : List Sql.Schema} {catalog : Catalog} {book : Book}
        {report : Report} {set : RuleSet}, compileSchemas settings schemas = .ok catalog →
      book.check catalog = .ok report → book.bind catalog = .ok set →
      ∀ b ∈ set.rules, ∀ (entity entries : List (Value × Value)) (context : Value),
        Eval.contextOf context = .mapping entries → (∀ p ∈ entries, p.2.IsData) →
        ∃ v, b.evaluate (.mapping entity) context = .ok v := by
  intro h
  have hc : compileSchemas settings [schema] = .ok catalog := by rfl
  obtain ⟨report, hv⟩ : ∃ report, book.check catalog = .ok report := ⟨_, rfl⟩
  obtain ⟨set, b, hs, hb, he⟩ : ∃ set b, book.bind catalog = .ok set ∧ b ∈ set.rules ∧
      b.evaluate (.mapping [(.text "qty", .decimal (.nan false true 0))]) (.mapping clerk) =
        .error (.numeral .signalingNaN) := ⟨_, _, rfl, .head _, rfl⟩
  obtain ⟨v, hok⟩ := h hc hv hs b hb [(.text "qty", .decimal (.nan false true 0))] clerk
    (.mapping clerk) rfl
    clerk_isData
  rw [he] at hok
  cases hok

end Stock
end Rulebook
