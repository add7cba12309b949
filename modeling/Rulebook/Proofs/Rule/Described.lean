import Rulebook.Proofs.Rule.Roundtrip
import Rulebook.Proofs.Rule.Sound
import Rulebook.Proofs.Text.Lines
import Rulebook.Proofs.Text.Ways

/-!
# Conditions that are described

The description of a condition that was read from one line is itself such a line: it tells the same
condition (`MainCondition.ToldBy.describe`). So when a step with a condition is replaced by the
description of the condition, its document is read as before (`Feature.read_described`).
-/

namespace Rulebook
open Text Text.Pattern Number
open FeatureLine (bodies block sections)

/-! ## Descriptions -/

namespace Layout

/-- The numeral of an integer in the range of those that are read is not too long. -/
lemma Constant.short_of_natAbs_lt {n : ℤ} (h : n.natAbs < 10 ^ maxDigits) :
    (Constant.ofInt n).Short := by
  have digits := digitsOf_decimalDigits n.natAbs |>.2.1
  have length : (digitsOf (decimalDigits n.natAbs)).length = (decimalDigits n.natAbs).length := by
    rw [digitsOf_digits digits, List.length_map, List.length_map]
  have sign : digitsOf (numeral n) = digitsOf (decimalDigits n.natAbs) := by
    unfold numeral
    split <;> rfl
  show (digitsOf (numeral n)).length ≤ maxDigits
  rw [sign, length, decimalDigits_eq]
  exact (Nat.length_toDigits_le_iff (by decide) (by decide)).2 h

end Layout

/-- The constant with which a condition is described. -/
lemma Condition.Says.constant {c : Condition} {p : StepBody.ConditionText} (h : c.Says p)
    (one : OneLine p.value) :
    ∃ k : Layout.Constant, k.Short ∧ k.literal = c.literal ∧ k.kept = c.literalText ∧
      k.written = (c.literalText.getD c.literal.shown).toList := by
  obtain ⟨field, op, literal, written⟩ := c
  obtain ⟨-, -, read, text⟩ := h
  dsimp only at read text ⊢
  subst text
  cases Literal.readAs_of_read read with
  | text quoted =>
    have inside := fun x hx => one x (mem_of_mem_trim (Literal.subset_of_unquoted? quoted hx))
    refine ⟨.text _ inside, trivial, rfl, rfl, ?_⟩
    simp [Literal.spelling?, Literal.shown, Layout.Constant.written]
  | @bool b _ => exact ⟨.bool b, trivial, rfl, rfl, by cases b <;> rfl⟩
  | @int n _ number =>
    refine ⟨.ofInt n, Layout.Constant.short_of_natAbs_lt (natAbs_lt_of_readInteger number), ?_, rfl,
      ?_⟩
    · exact congrArg Literal.int (numeral_spec n).2
    · exact (toList_toString n).symm
  | float shape number =>
    rw [Double.read_of_isFloatShape shape] at number
    cases number
    refine ⟨.decimal (trim p.value) shape, trivial, rfl, rfl, ?_⟩
    simp [Literal.spelling?, Layout.Constant.written]

/-- An operator that is read is the first part of the text, and there is no bar in it. -/
lemma StepBody.of_mem_operatorText {s : List Char} {m : List Char × List Char}
    (h : m ∈ StepBody.operatorText s) :
    s = m.1 ++ m.2 ∧ '|' ∉ m.1 := by
  have no_bar : (∀ p ∈ Operator.phrases, p.1.toList.all (!sameLetter · '|') = true) ∧
      ∀ w ∈ Layout.symbols, '|' ∉ w.toList := by decide +kernel
  obtain ⟨p, hp, h⟩ := mem_anyOf.1 h
  obtain hp | hp := List.mem_append.1 hp
  · obtain ⟨phrase, listed, rfl⟩ := List.mem_map.1 hp
    obtain ⟨whole, a, ha⟩ := of_mem_taken h
    obtain ⟨t, split, variant⟩ := of_mem_keyword ha
    have same : t = m.1 := List.append_cancel_right (split.symm.trans whole)
    exact ⟨whole, same ▸ variant.not_mem (by simpa using no_bar.1 phrase listed)⟩
  · obtain ⟨symbol, listed, rfl⟩ := List.mem_map.1 hp
    obtain ⟨whole, a, ha⟩ := of_mem_taken h
    have same : symbol.toList = m.1 := List.append_cancel_right ((mem_exactly ha).symm.trans whole)
    exact ⟨whole, same ▸ no_bar.2 symbol listed⟩

/-- A condition in one line is its field, its operator and its constant, with
blanks between them. -/
lemma StepBody.condition_parts {body rest : List Char} {p : StepBody.ConditionText}
    (h : StepBody.condition.first? body = some (p, rest)) :
    (∃ field : Layout.FieldName, p.field = field.text) ∧ '|' ∉ p.operator ∧
      (∃ gap gap' : List Char, body = p.field ++ gap ++ p.operator ++ gap' ++ p.value) ∧
      rest = [] := by
  have h := mem_of_first? h
  unfold StepBody.condition at h
  obtain ⟨⟨first, t₁⟩, h₁, h⟩ := mem_bind.1 h
  obtain ⟨⟨more, t₂⟩, h₂, h⟩ := mem_bind.1 h
  obtain ⟨⟨gap, t₃⟩, h₃, h⟩ := mem_bind.1 h
  obtain ⟨⟨op, t₄⟩, h₄, h⟩ := mem_bind.1 h
  obtain ⟨⟨gap', t₅⟩, h₅, h⟩ := mem_bind.1 h
  obtain ⟨⟨value, t₆⟩, h₆, h⟩ := mem_bind.1 h
  cases mem_pure.1 h
  obtain ⟨rfl, begins⟩ := mem_one.1 h₁
  obtain ⟨rfl, goes_on, -⟩ := of_mem_run h₂
  obtain ⟨rfl, -⟩ := of_mem_run1 h₃
  obtain ⟨rfl, no_bar⟩ := of_mem_operatorText h₄
  obtain ⟨rfl, -⟩ := of_mem_run1 h₅
  have all_left : value = t₅ ∧ t₆ = [] := by
    unfold remainder at h₆
    split at h₆
    · cases h₆
    · cases List.mem_singleton.1 h₆
      exact ⟨rfl, rfl⟩
  obtain ⟨rfl, rfl⟩ := all_left
  exact ⟨⟨⟨first, more, begins, goes_on⟩, rfl⟩, no_bar, ⟨gap, gap', by simp⟩, rfl⟩

/-- The description of a condition that is told in one line tells the condition. -/
lemma MainCondition.ToldBy.describe {body : List Char} {c : Condition} (h : ToldBy body (.single c))
    (one : OneLine body) :
    ToldBy c.describe.toList (.single c) ∧ trim c.describe.toList = c.describe.toList ∧
    c.describe.toList ≠ [] ∧
      OneLine c.describe.toList := by
  cases h with
  | single _ first hc =>
    obtain ⟨⟨field, named⟩, -, ⟨gap, gap', whole⟩, -⟩ := StepBody.condition_parts first
    obtain ⟨k, short, literal, kept, written⟩ := hc.constant (oneLine_append.1 (whole ▸ one)).2
    let spelling : Layout.Spelling :=
      ⟨c.operator.symbol, c.operator, by cases c.operator <;> decide⟩
    have solid := trim_of_not_isBlank (Layout.FieldName.solid field).2
    have name : c.field = String.ofList field.text := by rw [hc.field, named, solid]
    have same : Layout.condition field.text spelling k = c := by
      rw [Layout.condition, ← name, literal, kept]
    have laid : c.describe.toList = (Layout.Main.single field spelling k).body := by
      have parts : c.describe = c.field ++ " " ++ c.operator.symbol ++ " " ++
          c.literalText.getD c.literal.shown := rfl
      simp [parts, Layout.Main.body, name, written, spelling]
    have line := (Layout.Main.single field spelling k).oneLine _ (.head _)
    rw [laid]
    refine ⟨?_, Layout.Main.trim_body _, Layout.Main.body_ne_nil _, ?_⟩
    · have reads (st : Feature.Setting) :
          Feature.readCondition st 0 field.text spelling.text.toList k.written = .ok c :=
        (Layout.readCondition_ok solid).2 ⟨short, same⟩
      refine .single (Layout.compound_eq_none field spelling k)
        (Layout.condition_body field spelling k) ?_
      exact Feature.readCondition_ok.1 (reads ⟨none, ""⟩)
    · exact (oneLine_cons.1 (oneLine_append.1 (oneLine_append.1 line).2).2).2

/-! ## Reading the description -/

namespace FeatureLine

/-- The body of a step stands in its line. -/
lemma body_subset {raw body : List Char} {word : StepWord}
    (h : FeatureLine.of raw = .step word body) : body ⊆ raw := by
  have step : step? (trim raw) = some (word, body) := by
    unfold FeatureLine.of at h
    dsimp only at h
    split at h
    · cases h
    · cases h
    · cases h
    · rename_i line _ _ _
      split at h
      · cases h
      · split at h
        · cases h
        · split at h
          · cases h
          · cases h
          · rename_i hs
            cases h
            exact hs
          · cases h
  obtain ⟨⟨spelling, w⟩, -, step⟩ := List.exists_of_findSome?_eq_some step
  dsimp only at step
  split at step
  · rename_i c rest start
    split at step
    · cases step
      intro x hx
      have whole := suffix_of_dropStart? start
      exact mem_of_mem_trim (whole ▸ List.mem_append_right _ (.tail _ (mem_of_mem_trim hx)))
    · cases step
  · cases step

/-- A section follows a heading, and goes on up to the next one. -/
lemma exists_heading {part : ℕ × List FeatureLine} {ls : List FeatureLine} :
    ∀ {n : ℕ}, part ∈ sections n ls →
    ∃ before title after, ls = before ++ .scenario title :: after ∧
    part = (n + before.length, block after) := by
  induction ls with
  | nil => intro n h; cases h
  | cons l ls ih =>
    intro n h
    have later (h : part ∈ sections (n + 1) ls) : ∃ before title after,
        l :: ls = before ++ .scenario title :: after ∧ part = (n + before.length, block after) := by
      obtain ⟨before, title, after, rfl, rfl⟩ := ih h
      exact ⟨l :: before, title, after, rfl, by
        rw [List.length_cons, Nat.add_right_comm, Nat.add_assoc]⟩
    rw [sections] at h
    split at h
    · rename_i heading
      obtain rfl | h := List.mem_cons.1 h
      · cases l with
        | scenario title => exact ⟨[], title, ls, rfl, rfl⟩
        | _ => cases heading
      · exact later h
    · exact later h

/-- A step of a section, found by its word. -/
lemma exists_step {word : StepWord} {body : List Char} {ls : List FeatureLine}
    (h : body ∈ bodies word ls) :
    ∃ before after, ls = before ++ .step word body :: after := by
  obtain ⟨l, hl, hb⟩ := List.mem_filterMap.1 h
  obtain ⟨before, after, rfl⟩ := List.append_of_mem hl
  cases l with
  | step w b =>
    rw [body?] at hb
    split at hb
    · rename_i same
      cases hb
      exact ⟨before, after, same ▸ rfl⟩
    · cases hb
  | _ => cases hb

end FeatureLine

namespace Feature

variable {st : Setting} {c : Condition} {body body' : List Char}

/-- A step that tells a condition in one line sets the condition, if there is none yet. -/
lemma conditionStep_told (h : MainCondition.ToldBy body (.single c)) (n : ℕ) (s : Scenario) :
    conditionStep st n s body = if s.condition.isSome then refuse st n .secondCondition
      else .ok ({ s with condition := some (.single c) }, none) := by
  cases h with
  | single other first hc =>
    unfold conditionStep
    rw [other, first]
    dsimp only
    rw [readCondition_ok.2 hc]
    rfl

/-- Steps that tell the same condition are read in the same way. -/
lemma readLine_told (h : MainCondition.ToldBy body (.single c))
    (h' : MainCondition.ToldBy body' (.single c)) (n : ℕ)
    (r : Reading) : readLine st n r (.step .when body) = readLine st n r (.step .when body') := by
  refine bind_congr fun r => ?_
  cases hs : r.scenario with
  | none => simp only [readHeading, hs]
  | some s =>
    have same (s : Scenario) : readStep st n s .when body = readStep st n s .when body' := by
      show conditionStep st n { s with last := some .when } body =
        conditionStep st n { s with last := some .when } body'
      rw [conditionStep_told h, conditionStep_told h']
    simp only [readHeading, hs, same]

/-- A line can be replaced by another one that is read in the same way. -/
lemma readLines_congr {l l' : FeatureLine} (same : ∀ n r, readLine st n r l = readLine st n r l')
    (after before : List FeatureLine) :
    ∀ n r, readLines st n r (before ++ l :: after) = readLines st n r (before ++ l' :: after) := by
  induction before with
  | nil =>
    intro n r
    rw [List.nil_append, List.nil_append, readLines, readLines, same]
  | cons b before ih =>
    intro n r
    exact bind_congr fun r => ih (n + 1) r

/-- `When` and a description make a step that tells the condition, whatever
blanks stand around it. -/
lemma of_described {lead trail : List Char} (blank_lead : ∀ x ∈ lead, isBlank x = true)
    (blank_trail : ∀ x ∈ trail, isBlank x = true) (trimmed : trim body = body) (ne : body ≠ []) :
    FeatureLine.of (lead ++ ("When ".toList ++ body ++ trail)) = .step .when body := by
  have laid : trim (Layout.stepLine "When" body) = "When ".toList ++ body := by
    rw [Layout.stepLine, Layout.trim_indent]
    exact trim_joined (by decide) trimmed (by decide) ne ' '
  have bare : trim ("When ".toList ++ body) = "When ".toList ++ body := by
    rw [← laid, trim_trim]
  rw [FeatureLine.of_congr ((trim_between blank_lead blank_trail bare).trans laid.symm)]
  exact Layout.of_step (p := ("When", .when)) (by decide) trimmed ne

/-- A step can be replaced by another one that tells the same condition. -/
lemma read_replaceLine {text : List Char} {head below : List (List Char)} {line new : List Char}
    (place : lines text = head ++ line :: below) (hline : FeatureLine.of line = .step .when body)
    (tells : MainCondition.ToldBy body (.single c)) (hnew : FeatureLine.of new = .step .when body')
    (tells' : MainCondition.ToldBy body' (.single c)) (one : OneLine new) (ne : new ≠ [])
    (source : Option String) (default : String) :
    read (replaceLine new head.length text) source default = read text source default := by
  have replaced : lines (replaceLine new head.length text) = head ++ new :: below := by
    rw [lines_replaceLine one ne, place, List.set_append_right _ _ (Nat.le_refl _), Nat.sub_self,
      List.set_cons_zero]
  rw [read, read, replaced, place, List.map_append, List.map_append, List.map_cons,
    List.map_cons, hline, hnew, readLines_congr (readLine_told tells' tells)]

/-- A rule with a condition in one line has the step with it after its heading and before the next
one; there is no other step for a main condition there. -/
lemma exists_decision {text : List Char} {source : Option String} {default : String} {f : Feature}
    (h : read text source default = .ok f) {r : Rule} (hr : r ∈ f.rules)
    (hc : r.condition = .single c) :
    ∃ n head line below body, r.line = some n ∧
      bodies .when (block (((lines text).drop n).map FeatureLine.of)) = [body] ∧
      lines text = head ++ line :: below ∧ n ≤ head.length ∧
      (∀ l ∈ head.drop n, (FeatureLine.of l).isScenario = false) ∧
      FeatureLine.of line = .step .when body ∧ MainCondition.ToldBy body (.single c) := by
  obtain ⟨part, hpart, domain, s, -, begins, told, made⟩ := exists_of_forall₂ (read_sections h) hr
  obtain ⟨body, only, tells⟩ := (told.rule made).main
  rw [hc] at tells
  obtain ⟨before, title, after, whole, rfl⟩ := FeatureLine.exists_heading hpart
  dsimp only at only
  obtain ⟨start, rest, split⟩ := FeatureLine.exists_step (only ▸ List.mem_singleton_self body)
  have inside : ∀ l ∈ block after, l.isScenario = false :=
    fun l hl => by simpa using List.mem_takeWhile_imp hl
  have onward : after = start ++ .step .when body :: (rest ++ after.dropWhile (!·.isScenario)) := by
    rw [← List.cons_append, ← List.append_assoc, ← split, block, List.takeWhile_append_dropWhile]
  -- Line by line, the text has the heading, what stands between, the step and what follows it.
  obtain ⟨above, tail, hl, rfl, htail⟩ := List.map_eq_append_iff.1 whole
  obtain ⟨heading, following, rfl, -, rfl⟩ := List.map_eq_cons_iff.1 htail
  obtain ⟨between, tail, rfl, rfl, htail⟩ := List.map_eq_append_iff.1 onward
  obtain ⟨line, below, rfl, hline, -⟩ := List.map_eq_cons_iff.1 htail
  have parts : lines text = (above ++ [heading]) ++ (between ++ line :: below) := by simp [hl]
  have number : (above ++ [heading]).length = 1 + (above.map FeatureLine.of).length := by
    simp [Nat.add_comm]
  refine ⟨_, above ++ [heading] ++ between, line, below, body, begins ▸ made.line, ?_, ?_, ?_,
    fun l hl => ?_, hline, tells⟩
  · rwa [parts, List.drop_left' number]
  · exact parts.trans (List.append_assoc _ _ _).symm
  · rw [List.length_append, number]
    exact Nat.le_add_right _ _
  · rw [List.drop_left' number] at hl
    refine inside _ ?_
    rw [split]
    exact List.mem_append_left _ (List.mem_map_of_mem hl)

/-- A condition that is described reads as before. Every rule that was read with a condition in one
line has the step with it after its heading and before the next one, and no other step there is for
a main condition. Whatever the step was like, if `When` and the description of the condition are put
in its place, with any blanks around them, the document is read as the same feature. -/
theorem read_described {text : List Char} {source : Option String} {default : String} {f : Feature}
    (h : read text source default = .ok f) {r : Rule} (hr : r ∈ f.rules)
    (hc : r.condition = .single c) :
    ∃ n k line body, r.line = some n ∧
    bodies .when (block (((lines text).drop n).map FeatureLine.of)) = [body] ∧
      n ≤ k ∧ (lines text)[k]? = some line ∧
      (∀ l ∈ ((lines text).take k).drop n, startsWith "Scenario:".toList (trim l) = false) ∧
      FeatureLine.of line = .step .when body ∧
      ∀ lead trail : List Char, OneLine lead → OneLine trail → (∀ x ∈ lead, isBlank x = true) →
        (∀ x ∈ trail, isBlank x = true) →
        read (replaceLine (lead ++ ("When ".toList ++ c.describe.toList ++ trail)) k text) source
          default = .ok f := by
  obtain ⟨n, head, line, below, body, hn, only, place, later, inside, hline, tells⟩ :=
    exists_decision h hr hc
  have one : OneLine body := by
    have mem : line ∈ lines text := place ▸ List.mem_append_right _ (.head _)
    exact fun x hx => oneLine_of_mem_lines mem x (FeatureLine.body_subset hline hx)
  obtain ⟨tells', trimmed, ne, described⟩ := tells.describe one
  refine ⟨n, head.length, line, body, hn, only, later, ?_, fun l hl => ?_, hline,
    fun lead trail one_lead one_trail blank_lead blank_trail => ?_⟩
  · rw [place, List.getElem?_append_right (Nat.le_refl _), Nat.sub_self]
    rfl
  · rw [place, List.take_left] at hl
    rw [← FeatureLine.isScenario_of]
    exact inside l hl
  · rw [← h]
    refine read_replaceLine place hline tells (of_described blank_lead blank_trail trimmed ne)
      tells' ?_ (by simp) _ _
    exact oneLine_append.2 ⟨one_lead,
      oneLine_append.2 ⟨oneLine_append.2 ⟨by decide, described⟩, one_trail⟩⟩

end Feature

namespace Remarks

/-- A document with a phrase for an operator, blanks that do not count, and double quotes
between single ones. -/
def text : List Char := joinWith ['\n'] <| List.map String.toList [
  "Feature: Orders",
  "",
  "  @target:orders @rule:Greeted",
  "  Scenario: Customers are greeted",
  "    When  remark   IS Equal To  'say \"hi\"'",
  "    Then status is \"POLITE\"",
  "    But otherwise status is \"RUDE\""]

/-- The condition of its rule. -/
def condition : Condition := { field := "remark", operator := .eq, literal := .text "say \"hi\"" }

/-- What the document is read as. -/
def feature : Feature where
  name := "Orders"
  rules := [
    { name := "Greeted"
      target := { name := "orders", domain := "default" }
      condition := .single condition
      positive := "POLITE"
      negative := "RUDE"
      description := some "Customers are greeted"
      line := some 4 }]

/-- The condition is described with a symbol and between double quotes, and so it is read again. -/
theorem condition_described : Feature.read text none "default" = .ok feature ∧
    condition.describe = "remark == \"say \"hi\"\"" ∧
    ∃ k line body, (lines text)[k]? = some line ∧ FeatureLine.of line = .step .when body ∧
      Feature.read (replaceLine "    When remark == \"say \"hi\"\"".toList k text) none "default" =
      .ok feature := by
  have read : Feature.read text none "default" = .ok feature := by decide +kernel
  obtain ⟨n, k, line, body, -, -, -, place, -, step, reads⟩ :=
    Feature.read_described read (.head _) rfl
  refine ⟨read, by decide +kernel, k, line, body, place, step, ?_⟩
  have blank : ∀ x ∈ List.replicate 4 ' ', isBlank x = true := by simp [isBlank]
  exact reads (List.replicate 4 ' ') [] (by decide) oneLine_nil blank (List.forall_mem_nil _)

end Remarks
end Rulebook
