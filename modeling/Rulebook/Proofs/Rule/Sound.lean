import Rulebook.Build.Project
import Rulebook.Proofs.Check.Faults
import Rulebook.Proofs.Rule.Lines
import Rulebook.Proofs.Rule.Written

/-!
# Documents that are read are sound

Nothing is missing in a rule that was read from a document (`Rule.Sound`), and there is one for
every line that begins a scenario, with the number of that line (`Feature.read_sound`). In
particular, no such rule is rejected for a table without rows.
-/

namespace Rulebook
open Text Text.Pattern Number
open FeatureLine (sections)

/-- A condition with a double keeps the text of it, trimmed, from which the double is read; no other
condition keeps a text. -/
def Condition.Spelled (lines : List FeatureLine) (c : Condition) : Prop :=
  match c.literal with
  | .float x => ∃ l ∈ lines, ∃ p, l.condition? = some p ∧ c.Says p ∧
      c.literalText = some (String.ofList (trim p.value)) ∧ Double.read (trim p.value) = .ok x
  | .bool _ | .int _ | .text _ => c.literalText = none

/-- A rule that was read from some document. -/
def Rule.IsRead (r : Rule) : Prop :=
  ∃ text source default f, Feature.read text source default = .ok f ∧ r ∈ f.rules

/-- A rule that has everything that a rule must have, and has it from the lines of a section. -/
structure Rule.Sound (r : Rule) (default : String) (part : ℕ × List FeatureLine) : Prop where
  line : r.line = some part.1
  name : r.name ≠ ""
  target : r.target.name ≠ ""
  domain : default ≠ "" → r.target.domain ≠ ""
  told : r.ToldBy part.2
  spelled : ∀ c ∈ r.conditions, c.Spelled part.2

/-! ## Headings -/

/-- What is the heading of a scenario can be seen at its beginning. -/
lemma FeatureLine.isScenario_of (raw : List Char) :
    (FeatureLine.of raw).isScenario = startsWith "Scenario:".toList (trim raw) := by
  cases hd : dropStart? "Scenario:".toList (trim raw) with
  | some r =>
    rw [Layout.of_word (suffix_of_dropStart? hd) (by decide) (by decide) (by decide),
      dropStart?_eq_none (by decide), dropStart?_append, startsWith, hd]
    rfl
  | none =>
    rw [startsWith, hd]
    unfold FeatureLine.of
    dsimp only
    split
    · rfl
    · rfl
    · rfl
    · rename_i line _ _ _
      rw [hd]
      split
      · rfl
      · split
        · rfl
        · split <;> first | rfl | contradiction

/-- The sections of a document have the numbers of the lines that begin scenarios. -/
lemma FeatureLine.sections_numbers (ls : List (List Char)) :
    ∀ n, (sections n (ls.map FeatureLine.of)).map (·.1) =
      ((ls.zipIdx n).filter fun l => startsWith "Scenario:".toList (trim l.1)).map (·.2) := by
  induction ls with
  | nil => intro n; rfl
  | cons l ls ih =>
    intro n
    rw [List.map_cons, sections, isScenario_of, List.zipIdx_cons, List.filter_cons]
    split <;> simp [ih]

/-! ## Tags -/

namespace Feature

variable {st : Setting}

/-- What tags say of a scenario is not empty. -/
structure ScenarioTags.Filled (t : ScenarioTags) : Prop where
  name : t.name ≠ some ""
  target : t.target ≠ some ""
  domain : t.domain ≠ some ""

/-- Tags do not leave a text empty that was not. -/
lemma readScenarioTags_filled {tags : List Tag} :
    ∀ {t t' : ScenarioTags}, t.Filled → readScenarioTags st t tags = .ok t' → t'.Filled := by
  induction tags with
  | nil =>
    intro t t' filled h
    cases h
    exact filled
  | cons tag tags ih =>
    intro t t' filled h
    have value {old : Option String} {set : String → ScenarioTags} {key : String}
        (h : ((if old.isSome then refuse st tag.2 (.tagTwice key) else set <$> tagValue st tag) >>=
          fun t => readScenarioTags st t tags) = .ok t') :
        ∃ v, some v ≠ some "" ∧ readScenarioTags st (set v) tags = .ok t' := by
      obtain ⟨t₁, first, h⟩ := Outcome.bind_ok.1 h
      split at first
      · cases first
      · obtain ⟨v, hv, rfl⟩ := Outcome.map_ok.1 first
        exact ⟨v, fun empty => tagValue_ok hv (Option.some.inj empty), h⟩
    unfold readScenarioTags at h
    dsimp only at h
    split at h
    · obtain ⟨v, full, h⟩ := value h
      exact ih (t := { t with name := some v }) ⟨full, filled.target, filled.domain⟩ h
    · obtain ⟨v, full, h⟩ := value h
      exact ih (t := { t with target := some v }) ⟨filled.name, full, filled.domain⟩ h
    · obtain ⟨v, full, h⟩ := value h
      exact ih (t := { t with domain := some v }) ⟨filled.name, filled.target, full⟩ h
    · exact ih (t := { t with blocking := true }) ⟨filled.name, filled.target, filled.domain⟩ h
    · exact ih (t := { t with kind := .view }) ⟨filled.name, filled.target, filled.domain⟩ h
    · exact ih filled h

/-- A rule has a name, and so have its target and, unless the domain of all others
has none, its domain. -/
lemma finish_named {domain : Option String} {s : Scenario} {r : Rule} (hd : domain ≠ some "")
    (h : finish st domain s = .ok r) :
    r.name ≠ "" ∧ r.target.name ≠ "" ∧ (st.defaultDomain ≠ "" → r.target.domain ≠ "") := by
  obtain ⟨tags, ht, h⟩ := Outcome.bind_ok.1 h
  have start : ScenarioTags.Filled {} := ⟨nofun, nofun, nofun⟩
  obtain ⟨name_full, target_full, domain_full⟩ := readScenarioTags_filled start ht
  split at h
  · cases h
  · rename_i name hn
    split at h
    · cases h
    · cases h
    · cases h
    · cases h
    · rename_i target _ _ _ htarget _ _ _
      cases h
      refine ⟨fun empty => name_full (empty ▸ hn), fun empty => target_full (empty ▸ htarget),
        fun full => ?_⟩
      dsimp only
      cases hown : tags.domain with
      | some own => exact fun empty => domain_full (empty ▸ hown)
      | none =>
        cases domain with
        | some named => exact fun empty => hd (congrArg some empty)
        | none => exact full

end Feature

/-! ## Groups without conditions -/

/-- A condition is not faulty for being missing itself. -/
lemma Condition.FirstFaulty.kind {scope : FieldScope}
    (missing : ∀ name, (scope.missing name).kind ≠ .malformed)
    {cs : List Condition} {fault : RuleFault} (h : FirstFaulty scope cs fault) :
    fault.kind ≠ .malformed := by
  obtain ⟨before, c, after, -, -, h⟩ := h.split
  cases h with
  | missing => exact missing c.field
  | misfit _ h => cases h <;> nofun

/-- A rule with a condition in every group is not rejected for an empty one. -/
lemma Rule.Faulty.kind {catalog : Catalog} {registry : Registry} {r : Rule} {fault : RuleFault}
    (h : r.Faulty catalog registry fault) (groups : ∀ q ∈ r.requirements, q.conditions ≠ [])
    (clauses : ∀ logic, r.condition ≠ .compound logic []) : fault.kind ≠ .malformed := by
  cases h with
  | target => nofun
  | requirement _ h =>
    obtain ⟨before, q, after, whole, -, h⟩ := h.split
    cases h with
    | unknown | disabled => nofun
    | empty _ _ none => exact absurd none (groups q (by simp [whole]))
    | @condition category _ _ _ h =>
      refine h.kind fun name => ?_
      show (RuleFault.noCategoryField category.name name).kind ≠ .malformed
      nofun
  | empty _ _ none => exact absurd none (clauses _)
  | @condition e _ _ _ h =>
    refine h.kind fun name => ?_
    show (Check.missingField e name).kind ≠ .malformed
    unfold Check.missingField
    split <;> nofun

/-- A book that is rejected for a group without conditions has a rule with such a group. -/
lemma Book.kind_of_check {book : Book} {catalog : Catalog} {r : Rule} {fault : RuleFault}
    (groups : ∀ r ∈ book.rules, ∀ q ∈ r.requirements, q.conditions ≠ [])
    (clauses : ∀ r ∈ book.rules, ∀ logic, r.condition ≠ .compound logic [])
    (h : book.check catalog = .error (r.refusal fault)) : fault.kind ≠ .malformed := by
  have same {r r' : Rule} {fault fault' : RuleFault} (h : r.refusal fault = r'.refusal fault') :
      fault = fault' := by
    simp only [Rule.refusal, Failure.diagnostic.injEq, Diagnostic.mk.injEq, Cause.rule.injEq] at h
    exact h.1
  have none : (([] : List Rule).map (·.name)).Nodup := List.nodup_nil
  rw [check, Outcome.bind_error, Check.uniqueNames_error none, Check.checkRules_error] at h
  obtain ⟨_, _, _, _, _, _, _, _, repeated⟩ | ⟨_, _, h⟩ := h
  · rw [same repeated]
    intro equal
    cases equal
  · obtain ⟨before, r', after, whole, -, fault', hf, refused⟩ := h.split
    have hr : r' ∈ book.rules := whole ▸ List.mem_append_right _ (.head _)
    rw [same refused]
    exact hf.kind (groups r' hr) (clauses r' hr)

/-! ## Rules -/

/-- A condition in a line keeps its text if it has to. -/
lemma Condition.StandsIn.spelled {c : Condition} {lines : List FeatureLine} (h : c.StandsIn lines) :
    c.Spelled lines := by
  obtain ⟨l, hl, p, hp, hc⟩ := h
  have text := hc.literalText
  have read := hc.literal
  unfold Spelled
  split
  · rename_i x hx
    rw [hx] at text read
    exact ⟨l, hl, p, hp, hc, text, (Literal.read_float read).2⟩
  all_goals
    rename_i hx
    rw [hx] at text
    exact text

/-- The rule of a section is sound. -/
lemma Feature.FromSection.sound {source : Option String} {default : String}
    {part : ℕ × List FeatureLine} {r : Rule} (h : FromSection ⟨source, default⟩ part r) :
    r.Sound default part := by
  obtain ⟨domain, s, hd, line, told, made⟩ := h
  obtain ⟨name, target, own⟩ := finish_named hd made.finished
  have told := told.rule made
  exact ⟨line ▸ made.line, name, target, own, told, fun c hc => (told.conditions c hc).spelled⟩

/-- Every rule that was read is told by some lines. -/
lemma Rule.IsRead.told {r : Rule} (h : r.IsRead) : ∃ lines, r.ToldBy lines := by
  obtain ⟨text, source, default, f, hf, hr⟩ := h
  obtain ⟨part, -, hr⟩ := exists_of_forall₂ (Feature.read_sections hf) hr
  exact ⟨part.2, hr.sound.told⟩

/-- A document that is read is sound. It has a rule for every line that begins a scenario, in their
order and with the number of the line. Each has a name, a target and a domain, provided that the
domain of rules that name none has a name; its main condition and its statuses are told by one step
each in its section; no group of conditions is empty, and no two requirements are on one category;
and exactly the conditions with a double keep a text, the one that it was read from. So no check of
rules that were read, from however many documents, ends with a group that is empty. -/
theorem Feature.read_sound {text : List Char} {source : Option String}
    {default : String} {f : Feature} (h : Feature.read text source default = .ok f) :
    f.rules.map (·.line) =
      ((lines text).zipIdx 1 |>.filter fun l => startsWith "Scenario:".toList (trim l.1)).map
        (some ·.2) ∧
    List.Forall₂ (fun part r => r.Sound default part)
    (sections 1 ((lines text).map FeatureLine.of)) f.rules ∧ (∀ r ∈ f.rules, r.IsRead) ∧
    ∀ (book : Book) (catalog : Catalog) (r : Rule) (fault : RuleFault),
    (∀ r ∈ book.rules, r.IsRead) →
      book.check catalog = .error (r.refusal fault) →
        fault ≠ .emptyCompound ∧ ∀ category, fault ≠ .emptyGroup category := by
  have sound := (read_sections h).imp fun part r => FromSection.sound
  refine ⟨?_, sound, fun r hr => ⟨text, source, default, f, h, hr⟩,
    fun book catalog r fault isRead rejected => ?_⟩
  · have numbers : f.rules.map (·.line) =
        ((sections 1 ((lines text).map FeatureLine.of)).map (·.1)).map some := by
      rw [List.map_map, ← List.forall₂_eq_eq_eq, List.forall₂_map_left_iff,
        List.forall₂_map_right_iff]
      exact sound.flip.imp fun r part hr => hr.line
    rw [numbers, FeatureLine.sections_numbers, List.map_map]
    rfl
  · have kind := Book.kind_of_check (fun r hr => (isRead r hr).told.choose_spec.groups)
      (fun r hr => (isRead r hr).told.choose_spec.clauses) rejected
    refine ⟨?_, fun category => ?_⟩
    · rintro rfl
      exact kind rfl
    · rintro rfl
      exact kind rfl

namespace Shipment

/-- A document with a rule that names no domain, with tables and with decimals. -/
def text : List Char := joinWith ['\n'] <| List.map String.toList [
  "Feature: Shipping",
  "",
  "  @target:parcels @rule:SmallParcel",
  "  Scenario: Small parcels are shipped",
  "    Given roles context requires:",
  "      | field | operator | value |",
  "      | level | >= | 4 |",
  "    When all conditions are met:",
  "      | field | operator | value |",
  "      | weight | is less than | 2.50 |",
  "      | items | <= | 12 |",
  "    Then status is \"SHIP\"",
  "    But otherwise status is \"WAIT\""]

/-- The rule, where rules that name no domain have the given one. -/
def rule (default : String) : Rule where
  name := "SmallParcel"
  target := { name := "parcels", domain := default }
  requirements := [⟨"roles", [{ field := "level", operator := .ge, literal := .int 4 }]⟩]
  condition := .compound .all [
    { field := "weight", operator := .lt, literal := .float (.ofScientific false 250 (-2)),
      literalText := some "2.50" },
    { field := "items", operator := .le, literal := .int 12 }]
  positive := "SHIP"
  negative := "WAIT"
  description := some "Small parcels are shipped"
  source := some "shipping.feature"
  line := some 4

/-- What the document is read as. -/
def feature (default : String) : Feature where
  source := some "shipping.feature"
  name := "Shipping"
  rules := [rule default]

/-- The rule has the number of the only line that begins a scenario, and all that a rule must have.
It is rejected where there is no such target, and not for its tables. -/
theorem text_sound :
    Feature.read text (some "shipping.feature") "default" = .ok (feature "default") ∧
    ((lines text).zipIdx 1 |>.filter fun l => startsWith "Scenario:".toList (trim l.1)).map
      (some ·.2) = [some 4] ∧
    (∃ part, (rule "default").Sound "default" (4, part) ∧ (rule "default").target.domain ≠ "") ∧
    ∃ fault, ({ rules := [rule "default"] } : Book).check {} =
    .error ((rule "default").refusal fault) ∧
      fault ≠ .emptyCompound ∧ ∀ category, fault ≠ .emptyGroup category := by
  have read : Feature.read text (some "shipping.feature") "default" = .ok (feature "default") := by
    decide +kernel
  obtain ⟨numbers, sound, isRead, groups⟩ := Feature.read_sound read
  obtain ⟨⟨n, part⟩, -, whole⟩ := exists_of_forall₂ sound (.head _)
  obtain rfl : n = 4 := (Option.some.inj whole.line).symm
  have rejected : ({ rules := [rule "default"] } : Book).check {} =
      .error ((rule "default").refusal (.noTarget .model "parcels" "default" false)) := by
      decide +kernel
  exact ⟨read, numbers.symm, ⟨part, whole, whole.domain (by decide)⟩, _, rejected,
    groups _ _ _ _ isRead rejected⟩

/-- A document with files that set the domain of rules that name none to an empty name. -/
def files (document : String) : Files :=
  ({} : Files).put ".env" "RULEGATE_DEFAULT_DOMAIN=\n" |>.put "shipping.feature" document

/-- With an empty name in the settings, a rule that names no domain has none. -/
theorem domain_unset : ¬ ∀ (files : Files) (settings : Settings) (path : String) (f : Feature),
    Settings.load files = .ok settings → files.feature settings.defaultDomain path = .ok f →
      ∀ r ∈ f.rules, r.target.domain ≠ "" := by
  intro h
  have unset : Settings.load (files (String.ofList text)) =
      .ok { defaultDomain := "" } := by decide +kernel
  have found (document : String) :
      (files document).at? (FilePath.resolve "shipping.feature") = some document := rfl
  have read : (files (String.ofList text)).feature "" "shipping.feature" = .ok (feature "") := by
    rw [Files.feature, Files.read, found]
    dsimp only
    rw [String.toList_ofList]
    decide +kernel
  exact h (files (String.ofList text)) _ _ _ unset read (rule "") (.head _) rfl

end Shipment
end Rulebook
