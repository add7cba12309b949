import Rulebook.Proofs.Rule.Layout
import Rulebook.Proofs.Text.Pattern
import Rulebook.Proofs.Text.Word

/-!
# Reading what steps say

The parts of a laid out document are read as what they say: constants (`Constant.read_ok`), the
spellings of operators (`Spelling.plain`, `operatorText_spelling`), conditions (`readCondition_ok`),
and the bodies of steps (`requirement_body`, `compound_body`, `condition_body`, `status_body`,
`otherwise_body`).
-/

namespace Rulebook.Layout
open Text Number Pattern

/-! ## Constants -/

namespace Constant

/-- The characters of a numeral are digits, signs and points. -/
lemma forall_numeral {P : Char → Prop} (digit : ∀ c, isDecimalDigit c = true → P c)
    (minus : P '-') (plus : P '+') (point : P '.') :
    (∀ s, Literal.isIntegerShape s = true → ∀ c ∈ s, P c) ∧
      ∀ s, Literal.isFloatShape s = true → ∀ c ∈ s, P c := by
  refine ⟨fun s h => forall_takeSign minus plus fun c hc =>
    digit c ((digits_of_isIntegerShape h).2 c hc), fun s h => forall_takeSign minus plus ?_⟩
  obtain ⟨whole, fraction, hb, -, -, hw, hf⟩ := Literal.parts_of_isFloatShape h
  rw [hb, List.forall_mem_append, List.forall_mem_cons]
  exact ⟨fun c hc => digit c (hw c hc), point, fun c hc => digit c (hf c hc)⟩

/-- A constant is written without blanks around it. -/
lemma trim_written (c : Constant) : trim c.written = c.written := by
  cases c with
  | text s _ =>
    have last : ('"' :: (s ++ ['"'])).getLast? = some '"' := by
      rw [← List.cons_append, List.getLast?_concat]
    have quote : ∀ c ∈ some '"', isBlank c = false := by
      rintro _ ⟨⟩
      rfl
    rw [written, trim_eq_self_iff, last]
    exact ⟨quote, quote⟩
  | bool b => cases b <;> decide
  | int s h => exact trim_of_not_isBlank (not_isBlank_of_isIntegerShape h)
  | decimal s h => exact trim_of_not_isBlank (Decimal.not_isBlank_of_isFloatShape h)

/-- What has the shape of a number with a point has not that of an integer. -/
lemma not_isIntegerShape {s : List Char} (h : Literal.isFloatShape s = true) :
    Literal.isIntegerShape s = false := by
  obtain ⟨whole, fraction, hb, -⟩ := Literal.parts_of_isFloatShape h
  have point : isDecimalDigit '.' = false := by decide
  simp [Literal.isIntegerShape, hb, point]

/-- A text that is neither quoted nor a truth value is read by its shape. -/
lemma read_unquoted {s : List Char} (clear : ∀ c ∈ s, c ≠ '\'' ∧ c ≠ '"' ∧ c ≠ 'e')
    (trimmed : trim s = s) :
    Literal.read s =
      if Literal.isIntegerShape s then (readInteger s).mapError .numeral |>.map .int
      else if Literal.isFloatShape s then (Double.read s).mapError .numeral |>.map .float
      else .error (.unknownShape (String.ofList s)) := by
  have unquoted : Literal.unquoted? s = none := by
    cases s with
    | nil => rfl
    | cons c s =>
      obtain ⟨single, double, -⟩ := clear c (.head _)
      simp [Literal.unquoted?, single, double]
  have no_word : ∀ w, 'e' ∈ w → s ≠ w := by
    rintro w hw rfl
    exact (clear 'e' hw).2.2 rfl
  rw [Literal.read, trimmed, unquoted]
  simp only [beq_iff_eq, if_neg (no_word "true".toList (by decide)),
    if_neg (no_word "false".toList (by decide))]

/-- A constant is read as what it denotes, unless it is an integer of too many digits. -/
theorem read_ok {c : Constant} {l : Literal} :
    Literal.read c.written = .ok l ↔ c.Short ∧ c.literal = l := by
  have clear : ∀ c, isDecimalDigit c = true → c ≠ '\'' ∧ c ≠ '"' ∧ c ≠ 'e' := by
    refine fun c hc => ⟨?_, ?_, ?_⟩ <;> rintro rfl <;> revert hc <;> decide
  obtain ⟨int, decimal⟩ := forall_numeral clear (by decide) (by decide) (by decide)
  have trimmed := c.trim_written
  cases c with
  | text s _ =>
    rw [Literal.read, trimmed]
    simp [written, Literal.unquoted?, literal, Short]
  | bool b =>
    have read : Literal.read (bool b).written = .ok (.bool b) := by cases b <;> rfl
    simp [read, Short, literal]
  | int s shape =>
    dsimp only [written] at trimmed ⊢
    rw [read_unquoted (int s shape) trimmed, if_pos shape, readInteger_of_isIntegerShape shape,
      Short, ← Nat.not_lt]
    split
    · rename_i long
      exact ⟨nofun, fun h => absurd long h.1⟩
    · rename_i short
      simp [Except.mapError, Except.map, short, literal]
  | decimal s shape =>
    dsimp only [written] at trimmed ⊢
    rw [read_unquoted (decimal s shape) trimmed, if_neg (by simp [not_isIntegerShape shape]),
      if_pos shape, Double.read_of_isFloatShape shape]
    simp [Except.mapError, Except.map, Short, literal]

end Constant

/-! ## Spellings of operators -/

/-- The phrases in the order in which they are tried. -/
def phrases : List String := Operator.phrases.map (·.1)

/-- The symbols in the order in which they are tried, after the phrases. -/
def symbols : List String := ["==", "!=", "<>", ">=", "<=", "=", ">", "<"]

/-- What reading a spelling relies on. -/
structure Plain (text : List Char) (operator : Operator) : Prop where
  parse : Operator.parse? text = some operator
  begins : text.head?.all (fun c => !isBlank c && !sameLetter 'c' c) = true
  ne_nil : text ≠ []
  oneLine : OneLine text
  trimmed : trim text = text
  noBar : '|' ∉ text
  noColumn : lower text ≠ "operator".toList

/-- All spellings are plain. -/
lemma Spelling.plain (s : Spelling) : Plain s.text.toList s.operator := by
  have all : ∀ p ∈ Operator.symbols ++ Operator.phrases, Operator.parse? p.1.toList = some p.2 ∧
      p.1.toList.head?.all (fun c => !isBlank c && !sameLetter 'c' c) = true ∧ p.1.toList ≠ [] ∧
      OneLine p.1.toList ∧ trim p.1.toList = p.1.toList ∧ '|' ∉ p.1.toList ∧
      lower p.1.toList ≠ "operator".toList := by decide +kernel
  obtain ⟨parse, begins, ne_nil, oneLine, trimmed, noBar, noColumn⟩ :=
    all (s.text, s.operator) s.listed
  exact ⟨parse, begins, ne_nil, oneLine, trimmed, noBar, noColumn⟩

/-- No spelling begins with a blank or with the letter of `condition`. -/
lemma Spelling.begins (s : Spelling) :
    ∃ c t, s.text.toList = c :: t ∧ isBlank c = false ∧ sameLetter 'c' c = false := by
  obtain ⟨c, t, eq⟩ := List.exists_cons_of_ne_nil s.plain.ne_nil
  have begins := s.plain.begins
  rw [eq] at begins
  exact ⟨c, t, eq, by simpa using begins⟩

/-! ## Conditions -/

/-- A condition is read as what it says, unless its constant is too long. -/
lemma readCondition_ok {st : Feature.Setting} {line : Nat} {field : List Char}
    (hf : trim field = field) {spelling : Spelling} {constant : Constant} {c : Condition} :
    Feature.readCondition st line field spelling.text.toList constant.written = .ok c ↔
      constant.Short ∧ condition field spelling constant = c := by
  rw [Feature.readCondition, spelling.plain.parse]
  dsimp only
  cases hl : Literal.read constant.written with
  | error fault =>
    have long : ¬constant.Short :=
      fun short => by cases hl.symm.trans (Constant.read_ok.2 ⟨short, rfl⟩)
    exact ⟨nofun, fun h => absurd h.1 long⟩
  | ok literal =>
    obtain ⟨short, rfl⟩ := Constant.read_ok.1 hl
    rw [hf, constant.trim_written, condition]
    cases constant <;> simp [Constant.literal, Constant.kept, Constant.written, short]

/-! ## Characters of names -/

namespace Name

variable {continues : Char → Bool} (n : Name continues)

/-- No blank stands in a name. -/
lemma solid (h : ∀ c, continues c = true → isBlank c = false) : Solid n.text := by
  refine ⟨List.cons_ne_nil _ _, List.forall_mem_cons.2 ⟨?_, fun c hc => h c (n.goes_on c hc)⟩⟩
  by_contra hb
  have word := not_isWord_of_isBlank (Bool.not_eq_false _ ▸ hb)
  rw [isWord_of_begins n.begins] at word
  cases word

end Name

/-- What continues a name is no blank, if the mark that may stand in it is none. -/
lemma not_isBlank_of_continues {x : Char} (hx : isBlank x = false) {c : Char}
    (h : (isWord c || c == x) = true) :
    isBlank c = false := by
  obtain word | same := Bool.or_eq_true _ _ ▸ h
  · by_contra hb
    rw [not_isWord_of_isBlank (Bool.not_eq_false _ ▸ hb)] at word
    cases word
  · rwa [eq_of_beq same]

/-- The name of a field is solid. -/
lemma FieldName.solid (n : FieldName) : Solid n.text :=
  Name.solid n fun _ => not_isBlank_of_continues rfl

/-- The name of a category is solid. -/
lemma Category.solid (n : Category) : Solid n.text :=
  Name.solid n fun _ => not_isBlank_of_continues rfl

/-! ## Bodies of steps -/

/-- The body of a requirement names its category. -/
lemma requirement_body (g : Group) :
    StepBody.requirement.first? g.body = some (g.category.text, []) := by
  unfold StepBody.requirement Group.body
  refine first?_bind (first?_one g.category.begins) ?_
  refine first?_bind (first?_run g.category.goes_on (by rintro _ ⟨⟩; rfl)) ?_
  refine first?_bind (first?_gap (by rintro _ ⟨⟩; rfl)) ?_
  refine first?_bind (first?_kw _) ?_
  refine first?_bind (first?_gap (by rintro _ ⟨⟩; rfl)) ?_
  refine first?_bind (first?_kw _) ?_
  refine first?_bind (first?_blanks (by rintro _ ⟨⟩; rfl)) ?_
  refine first?_bind (first?_optional (first?_char ':')) ?_
  rfl

/-- A quoted status is read. -/
lemma status_body (s : Status) : StepBody.status.first? s.body = some (s.text, []) := by
  have inside : ∀ c ∈ s.text, (c != '"') = true := by
    intro c hc
    simpa using fun h : c = '"' => s.noQuote (h ▸ hc)
  unfold StepBody.status Status.body
  refine first?_bind (first?_kw _) ?_
  refine first?_bind (first?_gap (by rintro _ ⟨⟩; rfl)) ?_
  refine first?_bind (first?_kw _) ?_
  refine first?_bind (first?_gap (by rintro _ ⟨⟩; rfl)) ?_
  refine first?_bind (first?_char '"') ?_
  refine first?_bind (first?_run inside (by rintro _ ⟨⟩; rfl)) ?_
  refine first?_bind (first?_char '"') ?_
  rfl

/-- The status that applies otherwise is read. -/
lemma otherwise_body (s : Status) :
    StepBody.otherwise.first? ("otherwise".toList ++ ' ' :: s.body) = some (s.text, []) := by
  unfold StepBody.otherwise
  refine first?_bind (first?_kw _) ?_
  refine first?_bind (first?_gap (by rintro _ ⟨⟩; rfl)) ?_
  exact status_body s

/-- The body of a main condition with a table tells how its rows are combined. -/
lemma compound_body (logic : Logic) (rows : List Row) (ne : rows ≠ []) :
    StepBody.compound.first? (Main.table logic rows ne).body = some (logic, []) := by
  have met : "met:".toList = "met".toList ++ [':'] := by decide
  unfold StepBody.compound Main.body
  cases logic with
  | all =>
    have conditions : "conditions".toList = "condition".toList ++ "s".toList := by decide
    dsimp only
    rw [conditions, met, List.append_assoc]
    refine first?_bind (first?_either (first?_bind (first?_kw _) (first?_pure _))) ?_
    refine first?_bind (first?_gap (by rintro _ ⟨⟩; rfl)) ?_
    refine first?_bind (first?_kw _) ?_
    refine first?_bind (first?_optional (first?_kw _)) ?_
    refine first?_bind (first?_gap (by rintro _ ⟨⟩; rfl)) ?_
    refine first?_bind (first?_either (first?_kw _)) ?_
    refine first?_bind (first?_gap (by rintro _ ⟨⟩; rfl)) ?_
    refine first?_bind (first?_kw _) ?_
    refine first?_bind (first?_blanks (by rintro _ ⟨⟩; rfl)) ?_
    exact first?_bind (first?_optional (first?_char ':')) rfl
  | any =>
    have other (r : List Char) :
        (do Pattern.kw "all"; pure Logic.all : Pattern Logic) ("any".toList ++ r) = [] :=
      bind_eq_nil (keyword_eq_nil (by decide))
    dsimp only
    rw [met]
    refine first?_bind ((first?_either_right (other _)).trans
      (first?_bind (first?_kw _) (first?_pure _))) ?_
    refine first?_bind (first?_gap (by rintro _ ⟨⟩; rfl)) ?_
    refine first?_bind (first?_kw _) ?_
    refine first?_bind (first?_optional_none (by rfl)) ?_
    refine first?_bind (first?_gap (by rintro _ ⟨⟩; rfl)) ?_
    refine first?_bind ((first?_either_right (by rfl)).trans (first?_kw _)) ?_
    refine first?_bind (first?_gap (by rintro _ ⟨⟩; rfl)) ?_
    refine first?_bind (first?_kw _) ?_
    refine first?_bind (first?_blanks (by rintro _ ⟨⟩; rfl)) ?_
    exact first?_bind (first?_optional (first?_char ':')) rfl

/-! ## Conditions in one line -/

/-- Where a spelling stands, it is taken if nothing that is tried before it matches. -/
lemma first?_spelling (read : String → Pattern Unit) {w : String} {r : List Char}
    (here : (read w).first? (w.toList ++ r) = some ((), r)) {ws : List String} (mem : w ∈ ws)
    (others : ∀ v ∈ ws.takeWhile (· != w), read v (w.toList ++ r) = [])
    (ps qs : List (Pattern (List Char))) (none : ∀ p ∈ ps, p (w.toList ++ r) = []) :
    first? (anyOf (ps ++ (ws.map (fun w => taken (read w)) ++ qs))) (w.toList ++ r) =
    some (w.toList, r) := by
  obtain ⟨before, after, rfl, not⟩ := List.eq_append_cons_of_mem mem
  have earlier : (before ++ w :: after).takeWhile (· != w) = before := by
    rw [List.takeWhile_append_of_pos]
    · simp
    · intro v hv
      simpa using fun h : v = w => not (h ▸ hv)
  rw [earlier] at others
  rw [List.map_append, List.map_cons, List.append_assoc, List.cons_append, ← List.append_assoc]
  refine first?_anyOf _ (first?_taken here) fun q hq => ?_
  obtain hq | hq := List.mem_append.1 hq
  · exact none q hq
  · obtain ⟨v, hv, rfl⟩ := List.mem_map.1 hq
    rw [taken, others v hv, List.map_nil]

/-- Where a spelling and a space stand, the spellings that are tried before do not match. -/
lemma earlier_clash :
    (∀ w ∈ phrases, ∀ v ∈ phrases.takeWhile (· != w),
      (v.toList.zip (w.toList ++ [' '])).any (fun x => !sameLetter x.1 x.2) = true) ∧
    ∀ w ∈ symbols, (∀ v ∈ phrases,
      (v.toList.zip (w.toList ++ [' '])).any (fun x => !sameLetter x.1 x.2) = true) ∧
      ∀ v ∈ symbols.takeWhile (· != w),
      (v.toList.zip (w.toList ++ [' '])).any (fun x => x.1 != x.2) = true := by
  decide +kernel

/-- The spelling of an operator is read before a space. -/
lemma operatorText_spelling (s : Spelling) (r : List Char) :
    StepBody.operatorText.first? (s.text.toList ++ ' ' :: r) = some (s.text.toList, ' ' :: r) := by
  have split (w : String) : w.toList ++ ' ' :: r = (w.toList ++ [' ']) ++ r := by simp
  have listed : s.text ∈ symbols ∨ s.text ∈ phrases := by
    have all : ∀ p ∈ Operator.symbols ++ Operator.phrases, p.1 ∈ symbols ∨
        p.1 ∈ phrases := by decide
    exact all _ s.listed
  have tried : StepBody.operatorText = anyOf (phrases.map (fun w => taken (kw w)) ++
      symbols.map (fun w => taken (exactly w.toList))) := by
    rw [phrases, List.map_map]
    rfl
  rw [tried]
  obtain symbol | phrase := listed
  · obtain ⟨no_phrase, earlier⟩ := earlier_clash.2 s.text symbol
    have none : ∀ p ∈ phrases.map (fun w => taken (kw w)), p (s.text.toList ++ ' ' :: r) = [] := by
      intro p hp
      obtain ⟨v, hv, rfl⟩ := List.mem_map.1 hp
      rw [taken, split, kw, keyword_eq_nil (no_phrase v hv), List.map_nil]
    have found := first?_spelling (fun w => exactly w.toList) (first?_exactly s.text.toList) symbol
      (fun v hv => by rw [split]; exact exactly_eq_nil (earlier v hv)) _ [] none
    rwa [List.append_nil] at found
  · have earlier := earlier_clash.1 s.text phrase
    exact first?_spelling kw (first?_kw s.text) phrase
      (fun v hv => by rw [split]; exact keyword_eq_nil (earlier v hv)) [] _ (List.forall_mem_nil _)

/-- A constant is written with a character that is no blank in front. -/
lemma Constant.begins (c : Constant) :
    c.written ≠ [] ∧ ∀ x ∈ c.written.head?, isBlank x = false := by
  refine ⟨?_, (trim_eq_self_iff.1 c.trim_written).1⟩
  cases c with
  | text s _ => exact List.cons_ne_nil _ _
  | bool b => cases b <;> decide
  | int s h =>
    rintro rfl
    cases h
  | decimal s h =>
    rintro rfl
    cases h

variable (field : FieldName) (spelling : Spelling) (constant : Constant)

/-- A condition in one line comes apart into its field, its operator and its constant. -/
lemma condition_body : StepBody.condition.first? (Main.single field spelling constant).body =
    some (⟨field.text, spelling.text.toList, constant.written⟩, []) := by
  obtain ⟨c, t, eq, blank, -⟩ := spelling.begins
  obtain ⟨ne, start⟩ := constant.begins
  have all_left : remainder.first? constant.written = some (constant.written, []) := by
    rw [first?, remainder, if_neg (by simpa using ne)]
    rfl
  unfold StepBody.condition Main.body
  refine first?_bind (first?_one field.begins) ?_
  refine first?_bind (first?_run field.goes_on (by rintro _ ⟨⟩; rfl)) ?_
  refine first?_bind (first?_gap (by rw [eq]; rintro _ ⟨⟩; exact blank)) ?_
  refine first?_bind (operatorText_spelling spelling _) ?_
  refine first?_bind (first?_gap start) ?_
  exact first?_bind all_left rfl

/-- A condition in one line does not announce a table, even if its field is
called `all` or `any`. -/
lemma compound_eq_none :
    StepBody.compound.first? (Main.single field spelling constant).body = none := by
  obtain ⟨c, t, eq, blank, other⟩ := spelling.begins
  rw [first?, List.head?_eq_none_iff, List.eq_nil_iff_forall_not_mem]
  intro m hm
  obtain ⟨logic, hl, hm⟩ := mem_bind.1 hm
  obtain ⟨gap, hg, hm⟩ := mem_bind.1 hm
  -- What was read as `all` or `any` can only be the field, and what follows it begins
  -- with the operator.
  have after : gap.2 = spelling.text.toList ++ ' ' :: constant.written := by
    have start : (spelling.text.toList ++ ' ' :: constant.written).dropWhile isBlank =
        spelling.text.toList ++ ' ' :: constant.written := by
      rw [eq, List.cons_append, List.dropWhile_cons_of_neg (by simp [blank])]
    rw [← start]
    obtain hl | hl := List.mem_append.1 hl <;> obtain ⟨word, hw, hl⟩ := mem_bind.1 hl <;>
      cases List.mem_singleton.1 hl
    all_goals exact gap_after_keyword (by decide) (FieldName.solid field).2 hw hg
  have no_match : kw "condition" gap.2 = [] := by
    rw [after, eq]
    exact keyword_eq_nil (t := [c]) (by simp [other])
  rw [bind_eq_nil no_match] at hm
  cases hm

end Rulebook.Layout
