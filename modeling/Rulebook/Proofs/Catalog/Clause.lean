import Rulebook.Catalog.Compile
import Rulebook.Proofs.Catalog.Operand

/-!
# References in the text of a clause

A condition or a list of columns refers to columns by identifiers, perhaps behind the name of a
relation and a point; what stands between single quotes refers to nothing (`Reads`). A text without
single quotes can be read to its end (`exists_reads`). The scan for references, which first drops
the quoted parts, finds those that are read and no others (`Reads.scan_eq`).
-/

namespace Rulebook.Scope
open Sql Text Pattern Expression

variable {s t rest : List Char}

/-! ## Literals -/

/-- What stands in a literal between its quotes: quotes are written twice. -/
inductive IsLiteralBody : List Char → Prop
  | nil : IsLiteralBody []
  | other {c body} : c ≠ '\'' → IsLiteralBody body → IsLiteralBody (c :: body)
  | quote {body} : IsLiteralBody body → IsLiteralBody ('\'' :: '\'' :: body)

/-- A character that is no quote belongs to the literal. -/
lemma textRest_other {c : Char} (h : c ≠ '\'') : textRest (c :: s) = textRest s := by
  rw [textRest.eq_3 _ _ (by rintro _ rfl; exact absurd rfl h), if_neg h]

/-- A literal ends at the first quote that is not written twice. -/
lemma first?_textRest {body : List Char} (h : IsLiteralBody body) (hr : rest.head? ≠ some '\'') :
    textRest.first? (body ++ '\'' :: rest) = some ((), rest) := by
  induction h with
  | nil =>
    rw [List.nil_append, first?, textRest.eq_3 _ _ (by rintro r - rfl; exact hr rfl), if_pos rfl]
    rfl
  | other hc _ ih => rw [List.cons_append, first?, textRest_other hc, ← first?, ih]
  | quote _ ih =>
    rw [List.cons_append, List.cons_append, first?, textRest, List.head?_append, ← first?, ih]
    rfl

/-- Where no quote follows, no literal ends. -/
lemma textRest_eq_nil (h : '\'' ∉ s) : textRest s = [] := by
  induction s with
  | nil => rfl
  | cons c s ih =>
    rw [textRest_other fun eq => h (eq ▸ .head _)]
    exact ih fun hm => h (.tail _ hm)

/-- The rest of a literal takes at least its closing quote. -/
lemma length_of_mem_textRest {m : Unit × List Char} (h : m ∈ textRest s) :
    m.2.length < s.length := by
  fun_induction textRest s with
  | case1 => cases h
  | case2 rest ih =>
    obtain h | h := List.mem_append.1 h
    · exact (ih h).trans (Nat.lt_add_of_pos_right (Nat.zero_lt_two))
    · cases List.mem_singleton.1 h
      simp
  | case3 => cases List.mem_singleton.1 h; simp
  | case4 c rest _ _ ih => exact (ih h).trans (by simp)

/-- A text without its literals. -/
def blanked (s : List Char) : List Char := withoutText (s.length + 1) s

/-- The bound does not matter as long as it is above the length. -/
lemma withoutText_fuel {fuel fuel' : Nat} (h : s.length < fuel) (h' : s.length < fuel') :
    withoutText fuel s = withoutText fuel' s := by
  -- Each step takes at least one character, so that any bound above the length will do.
  induction fuel generalizing fuel' s with
  | zero => exact absurd h (Nat.not_lt_zero _)
  | succ fuel ih =>
    obtain ⟨fuel', rfl⟩ : ∃ n, fuel' = n + 1 := ⟨fuel' - 1, by omega⟩
    cases s with
    | nil => rfl
    | cons c s =>
      rw [List.length_cons] at h h'
      rw [withoutText, withoutText]
      cases found : textLiteral.first? (c :: s) with
      | none => exact congrArg (c :: ·) (ih (by omega) (by omega))
      | some m =>
        obtain ⟨⟨_, r⟩, hc, hm⟩ := mem_bind.1 (mem_of_first? found)
        obtain ⟨-, eq⟩ := mem_char.1 hc
        obtain ⟨-, rfl⟩ := List.cons.inj eq
        have shorter : m.2.length < s.length := length_of_mem_textRest hm
        dsimp only
        exact congrArg (' ' :: ·) (ih (by omega) (by omega))

/-- A literal is dropped for a blank. -/
lemma blanked_literal {body : List Char} (h : IsLiteralBody body) (hr : rest.head? ≠ some '\'') :
    blanked ('\'' :: (body ++ '\'' :: rest)) = ' ' :: blanked rest := by
  have found : textLiteral.first? ('\'' :: (body ++ '\'' :: rest)) = some ((), rest) :=
    first?_bind (first?_char '\'') (first?_textRest h hr)
  rw [blanked, withoutText, found]
  dsimp only
  rw [blanked, withoutText_fuel _ (Nat.lt_succ_self _)]
  simp only [List.length_cons, List.length_append]
  omega

/-- What begins no literal stays. -/
lemma blanked_cons {c : Char} (h : c = '\'' → '\'' ∉ rest) :
    blanked (c :: rest) = c :: blanked rest := by
  have none : textLiteral.first? (c :: rest) = none := by
    refine first?_eq_none.2 (eq_nil_of_forall fun m hm => ?_)
    obtain ⟨⟨_, r⟩, hc, hm⟩ := mem_bind.1 hm
    obtain ⟨rfl, eq⟩ := mem_char.1 hc
    obtain ⟨rfl, rfl⟩ := List.cons.inj eq
    rw [textRest_eq_nil (h rfl)] at hm
    cases hm
  rw [blanked, withoutText, none]
  rfl

/-- A text without quotes stays. -/
lemma blanked_append (h : '\'' ∉ s) : blanked (s ++ rest) = s ++ blanked rest := by
  induction s with
  | nil => rfl
  | cons c s ih =>
    rw [List.cons_append, blanked_cons fun eq => absurd (eq ▸ .head _) h,
      ih fun hm => h (.tail _ hm)]
    rfl

/-! ## References -/

/-- An identifier as it is written, in which no single quote stands. -/
structure Label where
  text : List Char
  written : IsIdentifier text
  noQuote : '\'' ∉ text

/-- A column as it is referred to: its name, perhaps behind the name of a relation and a point. -/
structure Reference where
  qualifier : Option (Label × Blanks × Blanks)
  name : Label

namespace Reference

/-- A reference as it is written. -/
def text : Reference → List Char
  | ⟨none, n⟩ => n.text
  | ⟨some (q, before, after), n⟩ => q.text ++ (before.text ++ '.' :: (after.text ++ n.text))

/-- A reference is not empty. -/
lemma text_ne_nil (r : Reference) : r.text ≠ [] := by
  obtain ⟨_ | ⟨q, before, after⟩, n⟩ := r
  · exact n.written.ne_nil
  · exact List.append_ne_nil_of_left_ne_nil q.written.ne_nil _

/-- A reference ends before a text: its name is not continued there, and without a qualifier
it is none itself. -/
structure Ends (r : Reference) (rest : List Char) : Prop where
  closes : Closes r.name.text rest
  alone : r.qualifier = none → ∀ before after : Blanks, ∀ t u,
    rest = before.text ++ '.' :: (after.text ++ (t ++ u)) → ¬ IsIdentifier t

/-- A reference with a qualifier ends where its name is not continued. -/
lemma ends_qualified {q : Label × Blanks × Blanks} {n : Label} (h : Closes n.text rest) :
    Ends ⟨some q, n⟩ rest :=
  ⟨h, fun bare => by cases bare⟩

end Reference

/-- A text is read up to its rest and makes references on the way, outside of its literals. -/
inductive Reads : List Char → List Reference → List Char → Prop
  | stop {left} : Reads left [] left
  | literal {body rest refs left} : IsLiteralBody body → rest.head? ≠ some '\'' →
      Reads rest refs left → Reads ('\'' :: (body ++ '\'' :: rest)) refs left
  | reference {r rest refs left} : r.Ends (blanked rest) → Reads rest refs left →
      Reads (r.text ++ rest) (r :: refs) left
  | other {c rest refs left} : (c = '\'' → '\'' ∉ rest) →
      (∀ t u, c :: blanked rest = t ++ u → ¬ IsIdentifier t) →
      Reads rest refs left → Reads (c :: rest) refs left

/-- A text without quotes has nothing to drop. -/
lemma blanked_eq_self (h : '\'' ∉ s) : blanked s = s := by
  have whole : blanked (s ++ []) = s ++ blanked [] := blanked_append h
  rwa [List.append_nil, show blanked [] = [] from rfl, List.append_nil] at whole

/-- Where an identifier begins, a reference can be read. -/
lemma exists_reference {u : List Char} (ht : IsIdentifier t) (noQuote : '\'' ∉ t ++ u) :
    ∃ (r : Reference) (rest : List Char), t ++ u = r.text ++ rest ∧ r.Ends rest := by
  obtain ⟨t', u', eq, ht', closes⟩ := ht.exists_closes u
  rw [eq] at noQuote ⊢
  obtain ⟨noQuote₁, rest⟩ := not_or.1 (List.mem_append.not.1 noQuote)
  -- The identifier is a qualifier if a point and another one stand behind it, and else a bare name.
  by_cases point : ∃ (before after : Blanks) (n v : List Char),
      u' = before.text ++ '.' :: (after.text ++ (n ++ v)) ∧ IsIdentifier n
  · obtain ⟨before, after, n, v, rfl, hn⟩ := point
    obtain ⟨n', v', eq, hn', closes⟩ := hn.exists_closes v
    rw [eq] at rest ⊢
    simp only [List.mem_append, List.mem_cons, not_or] at rest
    obtain ⟨-, -, -, noQuote₂, -⟩ := rest
    exact ⟨⟨some (⟨t', ht', noQuote₁⟩, before, after), ⟨n', hn', noQuote₂⟩⟩, v', by
      simp [Reference.text], Reference.ends_qualified closes⟩
  · exact ⟨⟨none, ⟨t', ht', noQuote₁⟩⟩, u', rfl, closes,
      fun _ before after n v eq hn => point ⟨before, after, n, v, eq, hn⟩⟩

/-- A text without single quotes can be read to its end. -/
lemma exists_reads (h : '\'' ∉ s) : ∃ refs, Reads s refs [] := by
  -- Induction on the length: a reference is as long as it is.
  induction hn : s.length using Nat.strong_induction_on generalizing s with
  | h n ih =>
    subst hn
    by_cases begins : ∃ t u, s = t ++ u ∧ IsIdentifier t
    · obtain ⟨t, u, rfl, ht⟩ := begins
      obtain ⟨r, rest, eq, ends⟩ := exists_reference ht h
      rw [eq] at h ih ⊢
      obtain ⟨-, noQuote⟩ := not_or.1 (List.mem_append.not.1 h)
      have shorter : rest.length < (r.text ++ rest).length := by
        have := List.length_pos_of_ne_nil r.text_ne_nil
        rw [List.length_append]
        omega
      obtain ⟨refs, reads⟩ := ih _ shorter noQuote rfl
      exact ⟨r :: refs, .reference (by rwa [blanked_eq_self noQuote]) reads⟩
    · cases s with
      | nil => exact ⟨[], .stop⟩
      | cons c s =>
        have noQuote : '\'' ∉ s := fun hm => h (.tail _ hm)
        obtain ⟨refs, reads⟩ := ih _ (Nat.lt_succ_self _) noQuote rfl
        refine ⟨refs, .other (fun _ => noQuote) (fun t u eq ht => begins ⟨t, u, ?_, ht⟩) reads⟩
        rwa [blanked_eq_self noQuote] at eq

/-! ## Scanning -/

instance : Forward (qualified (identifier false)) := by
  unfold qualified
  infer_instance

/-- A reference takes at least one character. -/
lemma strict_qualified : (qualified (identifier false)).Strict := by
  intro s m h
  obtain ⟨⟨q, r⟩, hq, h⟩ := mem_bind.1 h
  obtain ⟨⟨n, r'⟩, hn, h⟩ := mem_bind.1 h
  cases mem_pure.1 h
  exact (strict_identifier r _ hn).trans_le (Forward.suffix hq).length_le

/-- No reference begins where no identifier does. -/
lemma qualified_eq_nil (h : ∀ t u, s = t ++ u → ¬ IsIdentifier t) :
    qualified (identifier false) s = [] := by
  have none : identifier false s = [] := eq_nil_of_forall fun m hm =>
    h _ _ (of_mem_identifier hm).2 (of_mem_identifier hm).1
  refine eq_nil_of_forall fun m hm => ?_
  obtain ⟨⟨q, r⟩, hq, hm⟩ := mem_bind.1 hm
  obtain ⟨n, hn, -⟩ | eq := mem_optional.1 hq
  · obtain ⟨i, hi, -⟩ := mem_bind.1 hn
    rw [none] at hi
    cases hi
  · cases eq
    obtain ⟨i, hi, -⟩ := mem_bind.1 hm
    rw [none] at hi
    cases hi

/-- The references that the scan of a text finds. -/
def scan (s : List Char) : List (Option (List Char) × List Char) :=
  values (qualified (identifier false)) (blanked s)

/-- Nothing is found in an empty text. -/
lemma scan_nil : scan [] = [] := values_nil strict_qualified

namespace Reference

/-- What a reference is found as. -/
def found (r : Reference) : Option (List Char) × List Char :=
  (r.qualifier.map (·.1.text), r.name.text)

/-- No quote stands in a reference. -/
lemma noQuote (r : Reference) : '\'' ∉ r.text := by
  obtain ⟨_ | ⟨q, before, after⟩, n⟩ := r
  · exact n.noQuote
  · have blank (b : Blanks) : '\'' ∉ b.text := fun h => by cases b.blank _ h
    simp only [text, List.mem_append, List.mem_cons, not_or]
    exact ⟨q.noQuote, blank before, by decide, blank after, n.noQuote⟩

/-- Where a reference ends, it is what is found first. -/
lemma first?_eq {r : Reference} (h : r.Ends rest) :
    first? (qualified (identifier false)) (r.text ++ rest) = some (r.found, rest) := by
  obtain ⟨_ | ⟨q, before, after⟩, n⟩ := r
  · refine first?_qualified_bare n.written h.closes fun m hm => eq_nil_of_forall fun i hi => ?_
    obtain ⟨⟨b, u⟩, hb, hm⟩ := mem_bind.1 hm
    obtain ⟨⟨_, v⟩, hp, hm⟩ := mem_bind.1 hm
    obtain ⟨⟨a, w⟩, ha, hm⟩ := mem_bind.1 hm
    cases mem_pure.1 hm
    obtain ⟨rfl, blank, -⟩ := of_mem_run hb
    obtain ⟨-, rfl⟩ := mem_char.1 hp
    obtain ⟨rfl, blank', -⟩ := of_mem_run ha
    obtain ⟨written, rfl⟩ := of_mem_identifier hi
    exact h.alone rfl ⟨b, blank⟩ ⟨a, blank'⟩ i.1 i.2 rfl written
  · have read := first?_qualified q.written n.written before.blank after.blank h.closes
    have text : q.text ++ (before.text ++ '.' :: (after.text ++ (n.text ++ rest))) =
        text ⟨some (q, before, after), n⟩ ++ rest := by simp [text]
    rwa [text] at read

end Reference

/-- The scan of a text finds the references that are read, and goes on in what is left. -/
lemma Reads.scan_eq {refs : List Reference} {left : List Char} (h : Reads s refs left) :
    scan s = refs.map Reference.found ++ scan left := by
  induction h with
  | stop => rfl
  | @literal body rest _ _ inner next _ ih =>
    have none : ∀ t u, ' ' :: blanked rest = t ++ u → ¬ IsIdentifier t := by
      intro t u eq ht
      refine ht.head_ne (x := ' ') (c := ' ') ?_ (by decide) rfl rfl
      have head := congrArg List.head? eq
      rw [List.head?_append_of_ne_nil _ ht.ne_nil] at head
      exact head.symm
    rw [scan, blanked_literal inner next, values_miss strict_qualified (qualified_eq_nil none)]
    exact ih
  | reference ends _ ih =>
    rw [scan, blanked_append (Reference.noQuote _),
      values_hit strict_qualified (Reference.first?_eq ends), List.map_cons, List.cons_append]
    exact congrArg _ ih
  | other noLiteral none _ ih =>
    rw [scan, blanked_cons noLiteral, values_miss strict_qualified (qualified_eq_nil none)]
    exact ih

end Rulebook.Scope
