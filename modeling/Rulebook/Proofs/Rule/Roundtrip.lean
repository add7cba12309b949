import Rulebook.Proofs.Rule.Walk

/-!
# Documents are read as what they say

The text of a laid out document is read as the feature that it is meant to declare
(`Document.read_text`), unless an integer has too many digits, and is not read at all otherwise
(`Document.read_iff`).
-/

namespace Rulebook.Layout
open Text Number
open Feature (Reading Setting readLines readLine readHeading finishScenario)

variable {st : Setting} {n : Nat} {r r' : Reading}

/-! ## Documents -/

/-- The scenarios of a document are read in their order; what has been read then
makes their rules. -/
lemma passes_scenarios {ss : List Scenario} (begun : r.begun = true) (pending : r.pending = [])
    (table : r.table = none) {r₁ : Reading} (before : finishScenario st r = .ok r₁)
    (short : ∀ s ∈ ss, ∀ c ∈ s.constants, c.Short) :
    ∃ r', Passes st n r (ss.flatMap Scenario.lines) r' ∧ r'.pending = [] ∧
      finishScenario st r' = .ok { r₁ with
        rules := r₁.rules ++ rulesFrom st.source (r.domain.getD st.defaultDomain) n ss } := by
  -- The last scenario is still open when its lines have been read, so the induction is on what
  -- finishing it gives.
  induction ss generalizing n r r₁ with
  | nil =>
    refine ⟨r, Passes.nil, pending, ?_⟩
    rw [before, rulesFrom, List.append_nil]
  | cons s ss ih =>
    obtain ⟨first, others⟩ := List.forall_mem_cons.1 short
    obtain ⟨same, -⟩ := finishScenario_eq before
    have one := s.passes (n := n) begun pending table before first
    have finished : finishScenario st (within r₁ (s.read (n + 2)) none) =
        .ok { r₁ with
          rules := r₁.rules ++ [s.rule st.source (r.domain.getD st.defaultDomain) (n + 2)] } := by
      simp only [finishScenario, within, s.finish_read, Outcome.ok_bind]
      rw [same]
      simp only [table]
    obtain ⟨r', more, waiting, last⟩ :=
      ih (r := within r₁ (s.read (n + 2)) none) (n := n + s.lines.length)
      (by rw [same]; exact begun) (by rw [same]; exact pending) rfl finished others
    have domain : (within r₁ (s.read (n + 2)) none).domain = r.domain := by
      rw [same]
      rfl
    refine ⟨r', one.append more, waiting, last.trans ?_⟩
    rw [domain, rulesFrom, List.append_assoc, List.singleton_append]

/-- The heading of the feature takes the domain from its tag. -/
lemma featureDomain_word (w : Word) :
    Feature.featureDomain st none [("domain:".toList ++ w.text, n)] = .ok (some w.string) := by
  obtain ⟨key, value⟩ :=
    tagValue_word st n (by decide : "domain:".toList = "domain".toList ++ [':']) (by decide) w
  rw [Feature.featureDomain, key, if_pos (by decide), value]
  rfl

/-- The lines before the scenarios tell the domain and the name of the feature. -/
lemma Document.passes_head (d : Document) :
    Passes st 1 {} d.head
      { begun := true, name := String.ofList d.name.text, domain := d.domain.map Word.string } := by
  rw [head]
  cases d.domain with
  | none => exact Passes.line (of_feature d.name) rfl rfl rfl
  | some w =>
    have solid : ∀ tag ∈ ["domain:".toList ++ w.text], Solid tag :=
      List.forall_mem_singleton.2 (w.keyed (by decide))
    have line := of_tags (List.cons_ne_nil _ _) solid
    rw [List.map_singleton, joinWith, List.intercalate_singleton] at line
    have tagged : Passes st 1 {} ['@' :: ("domain:".toList ++ w.text)]
        { pending := [("domain:".toList ++ w.text, 1)] } := by
      refine Passes.line line rfl ?_ rfl
      rw [readHeading]
      exact Outcome.bind_ok.2 ⟨_, readTags_of_solid solid, rfl⟩
    have named : readHeading st 2 { pending := [("domain:".toList ++ w.text, 1)] }
        (.feature d.name.text) =
        .ok { begun := true, name := String.ofList d.name.text, domain := some w.string } := by
      rw [readHeading, if_neg Bool.false_ne_true, featureDomain_word]
      rfl
    exact tagged.append (Passes.line (of_feature d.name) rfl named rfl)

/-- A document without too long integers is read as what it says: the rules come back in their
order, with all that they say and with their lines. -/
theorem Document.read_text (d : Document) (short : d.Short) (source : Option String)
    (default : String) :
    Feature.read d.text source default = .ok (d.feature source default) := by
  let begun : Reading :=
    { begun := true, name := String.ofList d.name.text, domain := d.domain.map Word.string }
  have started : finishScenario ⟨source, default⟩ begun = .ok begun := rfl
  obtain ⟨r', passed, waiting, finished⟩ :=
    passes_scenarios (n := 1 + d.head.length) rfl rfl rfl started short
  obtain ⟨r₁, read, closed⟩ := (d.passes_head.append passed) {} rfl
  rw [Feature.read, text, lines_unlines d.oneLine]
  refine Outcome.bind_ok.2 ⟨r₁, read, ?_⟩
  rw [Feature.close, closed, Outcome.ok_bind, waiting]
  dsimp only [List.getLast?_nil]
  rw [finished, Nat.add_comm]
  rfl

/-! ## What is read is not too long -/

/-- Where lines are read, each of them is read in some state. -/
lemma exists_readLine {ls : List FeatureLine} (h : readLines st n r ls = .ok r') :
    ∀ l ∈ ls, ∃ n r r', readLine st n r l = .ok r' := by
  induction ls generalizing n r with
  | nil => nofun
  | cons l ls ih =>
    obtain ⟨r₁, first, others⟩ := Outcome.bind_ok.1 h
    exact List.forall_mem_cons.2 ⟨⟨n, r, r₁, first⟩, ih others⟩

/-- A row that is read has no too long constant; it is not taken for the names of the columns. -/
lemma Row.short_of_readLine (row : Row) (h : readLine st n r (.row row.cells) = .ok r') :
    row.constant.Short := by
  rw [readLine] at h
  cases ht : r.table with
  | none =>
    rw [ht] at h
    cases h
  | some t =>
    rw [ht] at h
    obtain ⟨t', added, -⟩ := Outcome.bind_ok.1 h
    unfold Feature.addRow Row.cells at added
    split at added
    · split at added
      · -- The second of the names of columns would have to be the spelling of an operator.
        rename_i header
        have same := eq_of_beq header
        simp only [List.map_cons, List.cons.injEq] at same
        exact absurd same.2.1 row.spelling.plain.noColumn
      · cases added
    · dsimp only at added
      split at added
      · cases added
      · obtain ⟨c, read, -⟩ := Outcome.bind_ok.1 added
        exact ((readCondition_ok row.field.trimmed).1 read).1

/-- A condition in one line that is read has no too long constant. -/
lemma short_of_readLine {field : FieldName} {spelling : Spelling} {constant : Constant}
    (h : readLine st n r (.step .when (Main.single field spelling constant).body) = .ok r') :
    constant.Short := by
  rw [readLine_of_isHeading rfl] at h
  obtain ⟨r₁, -, h⟩ := Outcome.bind_ok.1 h
  rw [readHeading] at h
  cases hs : r₁.scenario with
  | none =>
    rw [hs] at h
    cases h
  | some s =>
    rw [hs] at h
    obtain ⟨p, step, -⟩ := Outcome.bind_ok.1 h
    obtain ⟨⟨s', kind⟩, said, body⟩ := Outcome.bind_ok.1 step
    cases said
    dsimp only [Feature.readBody] at body
    unfold Feature.conditionStep at body
    split at body
    · cases body
    · rw [compound_eq_none, condition_body] at body
      obtain ⟨c, read, -⟩ := Outcome.bind_ok.1 body
      exact ((readCondition_ok (trim_of_not_isBlank (FieldName.solid field).2)).1 read).1

/-- The tables of requirements stand in their lines. -/
lemma mem_groupLines {gs : List Group} {g : Group} (hg : g ∈ gs) {l : List Char}
    (hl : l ∈ tableLines g.rows) :
    l ∈ groupLines gs := by
  cases gs with
  | nil => cases hg
  | cons first gs =>
    cases hg with
    | head => exact List.mem_append_left _ (.tail _ hl)
    | tail _ hg => exact List.mem_append_right _ (List.mem_flatMap.2 ⟨g, hg, .tail _ hl⟩)

/-- A document that is read has no too long integers. -/
lemma Document.short_of_read {d : Document} {source : Option String}
    {default : String} {f : Feature} (h : Feature.read d.text source default = .ok f) :
    d.Short := by
  rw [Feature.read, text, lines_unlines d.oneLine] at h
  obtain ⟨r', read, -⟩ := Outcome.bind_ok.1 h
  have passed : ∀ l ∈ d.lines, ∃ n r r',
      readLine ⟨source, default⟩ n r (FeatureLine.of l) = .ok r' := fun l hl =>
    exists_readLine read _ (List.mem_map_of_mem hl)
  have table {rows : List Row} (inside : ∀ l ∈ tableLines rows, l ∈ d.lines) :
      ∀ row ∈ rows, row.constant.Short := by
    intro row hrow
    obtain ⟨n, r, r', line⟩ :=
      passed _ (inside _ (List.mem_map_of_mem (.tail _ (List.mem_map_of_mem hrow))))
    rw [of_indent, row.of_cells] at line
    exact row.short_of_readLine line
  intro s hs
  have inside : ∀ l ∈ groupLines s.groups ++ s.main.lines, l ∈ d.lines := by
    intro l hl
    refine List.mem_append_right _ (List.mem_flatMap.2 ⟨s, hs, ?_⟩)
    exact .tail _ (.tail _ (.tail _ (List.mem_append_left _ hl)))
  refine List.forall_mem_append.2 ⟨fun c hc => ?_, ?_⟩
  · obtain ⟨g, hg, hc⟩ := List.mem_flatMap.1 hc
    obtain ⟨row, hrow, rfl⟩ := List.mem_map.1 hc
    exact table (fun l hl => inside l (List.mem_append_left _ (mem_groupLines hg hl))) row hrow
  · cases hm : s.main with
    | single field spelling constant =>
      have said : stepLine "When" s.main.body ∈ d.lines :=
        inside _ (List.mem_append_right _ (.head _))
      obtain ⟨n, r, r', line⟩ := passed _ said
      rw [of_step (p := ("When", .when)) (by decide) s.main.trim_body s.main.body_ne_nil,
        hm] at line
      exact List.forall_mem_singleton.2 (short_of_readLine line)
    | table logic rows ne =>
      have rows_inside : ∀ l ∈ tableLines rows, l ∈ d.lines := by
        intro l hl
        refine inside l (List.mem_append_right _ ?_)
        rw [hm]
        exact .tail _ hl
      intro c hc
      obtain ⟨row, hrow, rfl⟩ := List.mem_map.1 hc
      exact table rows_inside row hrow

/-- The text of a document is read exactly if no integer in it has more digits than are read. It is
then read as what it says: the rules come back in their order, with their names, targets, domains,
flags, titles, requirements, conditions and statuses, each with the line of its title. -/
theorem Document.read_iff (d : Document) (source : Option String) (default : String) (f : Feature) :
    Feature.read d.text source default = .ok f ↔ d.Short ∧ f = d.feature source default := by
  constructor
  · intro h
    have short := Document.short_of_read h
    refine ⟨short, ?_⟩
    rw [d.read_text short source default] at h
    exact (Except.ok.inj h).symm
  · rintro ⟨short, rfl⟩
    exact d.read_text short source default

namespace Auth

/-- Who may log in: active users above a level, and dear accounts or those of a partner. -/
def document : Document where
  domain := some ⟨"auth".toList, by decide⟩
  name := ⟨"Auth rules".toList, by decide, by decide, by decide⟩
  scenarios := [
    { name := ⟨"UserActivationCheck".toList, by decide⟩
      target := ⟨"users".toList, by decide⟩
      domain := none
      blocking := true
      kind := .model
      title := ⟨"Users must be active".toList, by decide, by decide, by decide⟩
      groups := [
        { category := ⟨'r', "oles".toList, by decide, List.all_eq_true.1 (by decide)⟩
          rows := [⟨⟨"roleLevel".toList, by decide, by decide, by decide⟩, ⟨">=", .ge, by decide⟩,
            .ofInt 4, by decide⟩]
          ne_nil := List.cons_ne_nil _ _ }]
      distinct := by decide
      main := .single ⟨'i', "s_active".toList, by decide, List.all_eq_true.1 (by decide)⟩ ⟨"equals",
        .eq, by decide⟩ (.bool true)
      positive := ⟨"ACCOUNT_ACTIVE".toList, by decide, by decide⟩
      negative := ⟨"ACCOUNT_INACTIVE".toList, by decide, by decide⟩ },
    { name := ⟨"DearAccount".toList, by decide⟩
      target := ⟨"overview".toList, by decide⟩
      domain := some ⟨"billing".toList, by decide⟩
      blocking := false
      kind := .view
      title := ⟨"Dear accounts, or partners".toList, by decide, by decide, by decide⟩
      groups := []
      distinct := by decide
      main := .table .any
        [⟨⟨"total".toList, by decide, by decide, by decide⟩, ⟨"is greater than", .gt, by decide⟩,
            .decimal "1000.10".toList (by decide), by decide⟩,
          ⟨⟨"partner of".toList, by decide, by decide, by decide⟩, ⟨"!=", .ne, by decide⟩,
            .text [] (by decide), by decide⟩]
        (List.cons_ne_nil _ _)
      positive := ⟨"DEAR".toList, by decide, by decide⟩
      negative := ⟨[], by decide, by decide⟩ }]

/-- The document as it is laid out. -/
def lines : List String := [
  "@domain:auth",
  "Feature: Auth rules",
  "",
  "  @target:users @rule:UserActivationCheck @blocking",
  "  Scenario: Users must be active",
  "    Given roles context requires:",
  "      | field | operator | value |",
  "      | roleLevel | >= | 4 |",
  "    When is_active equals true",
  "    Then status is \"ACCOUNT_ACTIVE\"",
  "    But otherwise status is \"ACCOUNT_INACTIVE\"",
  "",
  "  @target:overview @rule:DearAccount @domain:billing @view",
  "  Scenario: Dear accounts, or partners",
  "    When any condition is met:",
  "      | field | operator | value |",
  "      | total | is greater than | 1000.10 |",
  "      | partner of | != | \"\" |",
  "    Then status is \"DEAR\"",
  "    But otherwise status is \"\""]

/-- What the document declares. -/
def feature : Feature where
  name := "Auth rules"
  domain := some "auth"
  rules := [
    { name := "UserActivationCheck"
      target := { name := "users", domain := "auth" }
      blocking := true
      requirements := [
        { category := "roles"
          conditions := [{ field := "roleLevel", operator := .ge, literal := .int 4 }] }]
      condition := .single { field := "is_active", operator := .eq, literal := .bool true }
      positive := "ACCOUNT_ACTIVE"
      negative := "ACCOUNT_INACTIVE"
      description := some "Users must be active"
      line := some 5 },
    { name := "DearAccount"
      target := { kind := .view, name := "overview", domain := "billing" }
      condition := .compound .any [
        { field := "total", operator := .gt, literal := .float (.ofScientific false 100010 (-2))
          literalText := some "1000.10" },
        { field := "partner of", operator := .ne, literal := .text "" }]
      positive := "DEAR"
      negative := ""
      description := some "Dear accounts, or partners"
      line := some 14 }]

/-- The document is laid out as it should be and read as what it says. -/
theorem document_read : document.lines = lines.map String.toList ∧
    Feature.read (unlines (lines.map String.toList)) none "default" = .ok feature := by
  have laid : document.lines = lines.map String.toList := by decide +kernel
  refine ⟨laid, ?_⟩
  rw [← laid]
  exact (Document.read_iff document none "default" feature).2 ⟨by decide +kernel, by decide +kernel⟩

end Auth

/-- An integer that is not too long lies in the range of the numerals that are read. -/
lemma Constant.natAbs_lt_of_short {n : Int} (h : (ofInt n).Short) : n.natAbs < 10 ^ maxDigits := by
  obtain ⟨shape, value⟩ := numeral_spec n
  have read := readInteger_of_isIntegerShape shape
  rw [if_neg (Nat.not_lt.2 h), value] at read
  exact natAbs_lt_of_readInteger read

namespace TooLong

/-- A document with the least natural number that is not read. -/
def document : Document where
  domain := some ⟨"test".toList, by decide⟩
  name := ⟨"F".toList, by decide, by decide, by decide⟩
  scenarios := [
    { name := ⟨"R".toList, by decide⟩
      target := ⟨"items".toList, by decide⟩
      domain := none
      blocking := false
      kind := .model
      title := ⟨"s".toList, by decide, by decide, by decide⟩
      groups := []
      distinct := by decide
      main := .single ⟨'q', "ty".toList, by decide, List.all_eq_true.1 (by decide)⟩ ⟨">", .gt, by
        decide⟩ (.ofInt (10 ^ maxDigits : Nat))
      positive := ⟨"OK".toList, by decide, by decide⟩
      negative := ⟨"NO".toList, by decide, by decide⟩ }]

/-- The document is not read, although it is laid out as it should be. -/
theorem unread : ¬∃ f, Feature.read document.text (some "f.feature") "default" = .ok f := by
  rintro ⟨f, read⟩
  have short := Document.short_of_read read _ (.head _) _ (.head _)
  have small := Constant.natAbs_lt_of_short short
  rw [Int.natAbs_natCast] at small
  exact Nat.lt_irrefl _ small

end TooLong
end Rulebook.Layout
