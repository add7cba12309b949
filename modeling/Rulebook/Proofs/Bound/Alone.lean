import Rulebook.Proofs.Bound.Correspondence
import Rulebook.Proofs.Catalog.Compile

/-!
# Rules are bound one by one

The rules of a book share the targets that are made while they are bound. In a sound catalog nothing
of that can be seen: binding a book is a traversal of its rules (`Book.bind_eq`) in which every rule
is bound as if it were the only one. So a book fails with the first of its rules that fails alone,
and when its rules are put into another order, the bound rules follow (`Book.bind_alone`).
-/

namespace Rulebook

/-- A book with a single rule. -/
def Book.alone (b : Book) (r : Rule) : Book := { b with rules := [r] }

/-- A book with the rules that stand at the given places, in the order of the places. -/
def Book.arranged (b : Book) (places : List ℕ) : Book :=
  { b with rules := places.filterMap (b.rules[·]?) }

namespace Bind

variable {catalog : Catalog} {registry : Registry}

/-- Binds a rule to its target, with no targets of other rules. -/
def alone (catalog : Catalog) (registry : Registry) (r : Rule) : Outcome BoundRule := do
  let (b, _) ← target catalog [] r
  rule registry r b

/-- The target of a rule is bound in the same way whatever entities of the catalog
are bound already. -/
lemma target_eq (hc : catalog.Sound) {ts : Targets} (hts : ts.From catalog) (r : Rule) :
    target catalog ts r = (fun p => (p.1, ts.use p.1)) <$> target catalog [] r := by
  unfold target
  dsimp only
  cases hf : catalog.findTarget? r.target.domain r.target.name r.target.kind with
  | none => rfl
  | some e =>
    have he := (hc.of_findTarget? hf).1
    dsimp only
    cases hg : ts.get? e.domain e.kind e.name with
    | none =>
      have used : ts.use (Binding.ofEntity e) = ts ++ [Binding.ofEntity e] :=
        if_neg (Targets.not_mem_of_get?_none hg)
      exact congrArg (fun us => Except.ok (Binding.ofEntity e, us)) used.symm
    | some b =>
      obtain ⟨rfl, hb⟩ := hts.get?_some hc he hg
      have used : ts.use (Binding.ofEntity e) = ts := if_pos hb
      exact congrArg (fun us => Except.ok (Binding.ofEntity e, us)) used.symm

/-- Rules are bound one by one; the targets that are left are those that their bindings make. -/
lemma rules_eq (hc : catalog.Sound) {rs : List Rule} :
    ∀ {ts : Targets}, ts.From catalog → rules catalog registry ts rs =
      (fun bs => (bs, (bs.map (·.binding)).foldl Targets.use ts)) <$>
      rs.mapM (alone catalog registry) := by
  have none : Targets.From catalog [] := by intro b hb; cases hb
  induction rs with
  | nil => intro ts _; rfl
  | cons r rs ih =>
    intro ts hts
    rw [rules, target_eq hc hts, List.mapM_cons, alone]
    cases ht : target catalog [] r with
    | error e => rfl
    | ok p =>
      obtain ⟨b, us⟩ := p
      obtain ⟨e, hf, rfl, -⟩ := (target_ok hc none).1 ht
      have more := ih (hts.use (hc.of_findTarget? hf).1)
      show (rule registry r (Binding.ofEntity e) >>= fun bound =>
          rules catalog registry (ts.use (Binding.ofEntity e)) rs >>= fun more =>
          .ok (bound :: more.1, more.2)) =
        (fun bs => (bs, (bs.map (·.binding)).foldl Targets.use ts)) <$>
        (rule registry r (Binding.ofEntity e) >>=
          fun bound => rs.mapM (alone catalog registry) >>= fun more => .ok (bound :: more))
      rw [more]
      cases hr : rule registry r (Binding.ofEntity e) with
      | error f => rfl
      | ok bound =>
        have eq : bound.binding = Binding.ofEntity e := (rule_ok.1 hr).binding_eq
        rw [← eq]
        cases rs.mapM (alone catalog registry) <;> rfl

end Bind

namespace Book

variable {settings : CompileSettings} {schemas : List Sql.Schema}
  {catalog : Catalog} {set : RuleSet}

/-- Binding a book to a sound catalog binds its rules one by one. -/
theorem bind_eq (hc : catalog.Sound) (book : Book) :
    book.bind catalog =
    (fun bs => { rules := bs, targets := (bs.map (·.binding)).eraseDups, catalog, book }) <$>
      book.rules.mapM (Bind.alone catalog book.registry) := by
  have none : Targets.From catalog [] := by intro b hb; cases hb
  unfold bind
  rw [Bind.rules_eq hc none]
  cases book.rules.mapM (Bind.alone catalog book.registry) with
  | error e => rfl
  | ok bs =>
    show Except.ok _ = Except.ok _
    rw [Targets.foldl_use]
    simp

/-- The bound rules of a book are its rules, each bound alone. -/
lemma bind_rules (hc : catalog.Sound) {book : Book} (h : book.bind catalog = .ok set) :
    book.rules.mapM (Bind.alone catalog book.registry) = .ok set.rules := by
  rw [bind_eq hc] at h
  obtain ⟨bs, hbs, rfl⟩ := Outcome.map_ok.1 h
  exact hbs

/-- A book is bound when all of its rules are. -/
lemma exists_bind (hc : catalog.Sound) {book : Book} :
    (∃ set, book.bind catalog = .ok set) ↔
    ∀ r ∈ book.rules, ∃ b, Bind.alone catalog book.registry r = .ok b := by
  rw [← Outcome.exists_mapM_ok, bind_eq hc]
  constructor
  · rintro ⟨set, h⟩
    obtain ⟨bs, hbs, -⟩ := Outcome.map_ok.1 h
    exact ⟨bs, hbs⟩
  · rintro ⟨bs, hbs⟩
    exact ⟨_, Outcome.map_ok.2 ⟨bs, hbs, rfl⟩⟩

/-- A book with a single rule is bound by binding the rule. -/
lemma bind_single (hc : catalog.Sound) (book : Book) (r : Rule) :
    (book.alone r).bind catalog =
    (fun b => { rules := [b], targets := [b.binding], catalog, book := book.alone r }) <$>
      Bind.alone catalog book.registry r := by
  rw [bind_eq hc]
  show _ <$> [r].mapM (Bind.alone catalog book.registry) = _
  rw [List.mapM_cons, List.mapM_nil]
  cases Bind.alone catalog book.registry r with
  | error e => rfl
  | ok b => simp [List.eraseDups_cons]

/-- A rule is bound alone in a book of its own. -/
lemma exists_bind_single (hc : catalog.Sound) (book : Book) (r : Rule) :
    (∃ set, (book.alone r).bind catalog = .ok set) ↔
    ∃ b, Bind.alone catalog book.registry r = .ok b := by
  rw [exists_bind hc]
  exact List.forall_mem_singleton

/-- Rules are bound independently of each other. A book is bound exactly if every one of its rules
is when it stands alone; every bound rule is then the one that its rule alone gives, and if the
rules are put into another order, by their places, so are the bound rules, even where some are left
out or repeated. A book that is not bound fails as the first of its rules does that fails alone. -/
theorem bind_alone (h : compileSchemas settings schemas = .ok catalog) (book : Book) :
    ((∃ set, book.bind catalog = .ok set) ↔
      ∀ r ∈ book.rules, ∃ one, (book.alone r).bind catalog = .ok one) ∧
    (∀ set, book.bind catalog = .ok set →
      List.Forall₂ (fun r b => ∃ one, (book.alone r).bind catalog = .ok one ∧
        one.rules = [b]) book.rules set.rules) ∧
    (∀ e, book.bind catalog = .error e ↔ ∃ before r after, book.rules = before ++ r :: after ∧
      (∀ q ∈ before, ∃ one, (book.alone q).bind catalog = .ok one) ∧
      (book.alone r).bind catalog = .error e) ∧
    ∀ set, book.bind catalog = .ok set → ∀ places : List ℕ,
      ∃ moved, (book.arranged places).bind catalog = .ok moved ∧
      moved.rules = places.filterMap (set.rules[·]?) := by
  have hc := compileSchemas_sound h
  simp only [exists_bind_single hc]
  refine ⟨exists_bind hc, fun set hs => ?_, fun e => ?_, fun set hs places => ?_⟩
  · refine (Outcome.mapM_ok.1 (bind_rules hc hs)).imp fun r b hb => ?_
    rw [bind_single hc, hb]
    exact ⟨_, rfl, rfl⟩
  · simp only [bind_eq hc book, bind_single hc, Outcome.map_error, Outcome.mapM_error_iff]
  · have arranged := Outcome.mapM_arranged (bind_rules hc hs) places
    exact ⟨_, (bind_eq hc _).trans (Outcome.map_ok.2 ⟨_, arranged, rfl⟩), rfl⟩

end Book

namespace Shared

/-- Compiling without a previous version. -/
def settings : CompileSettings := { defaultDomain := "shop" }

/-- A table with one whole number. -/
def table (name field : String) : Sql.Table where
  name := name
  domain := none
  columns := [{ name := field, nativeType := "INT", type := .int32 }]
  source := none
  line := 1

/-- Items have a quantity, and users an age. -/
def schema : Sql.Schema := { tables := [table "items" "qty", table "users" "age"] }

/-- The model that a table with one whole number makes. -/
def model (name source field : String) : Entity where
  kind := .model
  name := name
  domain := "shop"
  sourceName := source
  resource := source
  fields := [{ name := field, type := .int32, ordinal := 1 }]

/-- What the two tables make. -/
def catalog : Catalog where
  domains := [
    { name := "shop", models := [model "Item" "items" "qty", model "User" "users" "age"] }]

/-- A rule that asks a number of a target to exceed a limit. -/
def rule (name target field : String) (limit : Int) : Rule where
  name := name
  target := { name := target, domain := "shop" }
  condition := .single { field, operator := .gt, literal := .int limit }
  positive := "OK"
  negative := "NO"

/-- Two rules about items, under different names of their target, with one about
users between them. -/
def book : Book where
  rules := [rule "Stocked" "items" "qty" 0, rule "Adult" "User" "age" 17,
    rule "Plenty" "Item" "qty" 9]

/-- The rules are bound as each of them is alone, and in any order, though two of them
share their target. -/
theorem book_alone :
    compileSchemas settings [schema] = .ok catalog ∧ ∃ set, book.bind catalog = .ok set ∧
      set.targets.length = 2 ∧
      List.Forall₂ (fun r b => ∃ one, (book.alone r).bind catalog = .ok one ∧
        one.rules = [b]) book.rules set.rules ∧
      ∃ moved, (book.arranged [2, 0, 1]).bind catalog = .ok moved ∧
        moved.rules = [2, 0, 1].filterMap (set.rules[·]?) := by
  have hc : compileSchemas settings [schema] = .ok catalog := by rfl
  obtain ⟨-, each, -, ordered⟩ := Book.bind_alone hc book
  obtain ⟨set, hs, two⟩ : ∃ set, book.bind catalog = .ok set ∧ set.targets.length = 2 :=
    ⟨_, rfl, rfl⟩
  exact ⟨hc, set, hs, two, each set hs, ordered set hs [2, 0, 1]⟩

end Shared
end Rulebook
