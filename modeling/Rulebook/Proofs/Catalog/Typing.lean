import Rulebook.Proofs.Catalog.Arithmetic
import Rulebook.Proofs.Outcome

/-!
# Types of written expressions

The type of an expression goes by the row of operands that its operators stand between
(`Tree.Types`): the operators are not grouped by their precedence, and a division anywhere
in the row counts for the whole of it. This is the type that the text of the expression is
given (`typeOf_text`).
-/

namespace Rulebook.Expression
open Sql Text Pattern

/-! ## Typing -/

/-- Some of the operators outside parentheses divides. -/
def Tree.divides : Tree → Bool
  | .binary l _ op _ r => l.divides || op == .over || r.divides
  | _ => false

/-- The type of a row of operands; one operand has its own. -/
def combined (divides : Bool) : List Resolved → Resolved
  | [r] => r
  | rs => arithmeticType divides rs

/-- The type of several operands is their arithmetic type. -/
lemma combined_several {divides : Bool} {rs : List Resolved} (h : 2 ≤ rs.length) :
    combined divides rs = arithmeticType divides rs := by
  cases rs with
  | nil => rfl
  | cons r rs =>
    cases rs with
    | nil => exact absurd h (Nat.not_succ_le_self 1)
    | cons => rfl

/-- The type of an aggregate over an argument of a given type. -/
def Call.type (c : Call) (argument : Resolved) : Resolved :=
  if capitals c.function.text == "COUNT" then ⟨.int64, false, none, none, none, none⟩
  else aggregateType (capitals c.function.text) argument

variable {scope : Scope} {item : Projection}

variable (scope item) in
/-- The operands of an expression outside its parentheses have these types, in order. -/
inductive Tree.Types : Tree → List Resolved → Prop
  | column {q n r} : resolveColumn scope item (q.map (·.name.text))
      (String.ofList (unquote n.text)) = .ok r → Types (.column q n) [r]
  | whole {d ne} : Types (.whole d ne) [⟨.int32, false, none, none, none, none⟩]
  | point {b a ne} : Types (.point b a ne) [⟨.decimal, false, none, none, none, none⟩]
  | all {c counts after} : Types (.all c counts after) [⟨.int64, false, none, none, none, none⟩]
  | aggregate {c e after rs} : Types e rs →
      Types (.aggregate c e after) [c.type (combined e.divides rs)]
  | parens {before e after rs} : Types e rs → Types (.parens before e after) [combined e.divides rs]
  | binary {l before op after r ls rs} : Types l ls → Types r rs →
      (∀ t ∈ ls ++ rs, t.type.isNumeric = true) → Types (.binary l before op after r) (ls ++ rs)

variable (scope item) in
/-- An expression has a type. -/
def Tree.HasType (e : Tree) (r : Resolved) : Prop :=
  ∃ rs, e.Types scope item rs ∧ r = combined e.divides rs

namespace Tree

/-- The operands of an expression. -/
def operands (e : Tree) : List Tree := e.first :: e.others.map (·.2.2.2)

/-- The operands of an operation are those of its two sides. -/
lemma operands_binary (l : Tree) (before : Blanks) (op : Operator) (after : Blanks) (r : Tree) :
    (binary l before op after r).operands = l.operands ++ r.operands := by
  simp [operands, first, others]

/-- An expression that is one operand is its only one. -/
lemma operands_of_isOperand {e : Tree} (h : e.IsOperand) : e.operands = [e] := by
  cases e with
  | binary => exact h.elim
  | _ => rfl

/-- A single operand divides nothing outside parentheses. -/
lemma not_divides_of_isOperand {e : Tree} (h : e.IsOperand) : e.divides = false := by
  cases e with
  | binary => exact h.elim
  | _ => rfl

/-- An expression divides if the sign of a division stands before one of its operands. -/
lemma divides_eq (e : Tree) : e.divides = e.others.any fun o => o.2.1 == .over := by
  induction e with
  | binary l before op after r hl hr =>
    rw [divides, others, List.any_append, List.any_cons, hl, hr, Bool.or_assoc]
  | _ => rfl

/-- A single operand has one type. -/
lemma Types.single {e : Tree} {rs : List Resolved} (h : e.Types scope item rs) (he : e.IsOperand) :
    ∃ r, rs = [r] := by
  cases h with
  | binary => exact he.elim
  | _ => exact ⟨_, rfl⟩

/-- The type of a single operand is its only type. -/
lemma hasType_of_isOperand {e : Tree} (he : e.IsOperand) {r : Resolved} :
    e.HasType scope item r ↔ e.Types scope item [r] := by
  constructor
  · rintro ⟨rs, h, rfl⟩
    obtain ⟨r, rfl⟩ := h.single he
    exact h
  · exact fun h => ⟨[r], h, rfl⟩

/-- Parentheses around an expression do not change its type. -/
lemma hasType_core {e : Tree} {r : Resolved} :
    e.core.HasType scope item r ↔ e.HasType scope item r := by
  induction e with
  | parens before e after ih =>
    rw [core, ih, hasType_of_isOperand (e := parens before e after) trivial]
    constructor
    · rintro ⟨rs, h, rfl⟩
      exact .parens h
    · intro h
      cases h with
      | parens h => exact ⟨_, h, rfl⟩
  | _ => exact Iff.rfl

/-- No parentheses are left around the core of an expression. -/
lemma core_ne_parens (e : Tree) : ∀ b i a, e.core ≠ parens b i a := by
  induction e with
  | parens _ _ _ ih => exact ih
  | _ => rintro _ _ _ ⟨⟩

/-- The core of an expression is not longer than the expression. -/
lemma length_core (e : Tree) : e.core.text.length ≤ e.text.length := by
  induction e with
  | parens before e after ih =>
    rw [core, text]
    simp only [List.length_cons, List.length_append]
    omega
  | _ => exact le_rfl

end Tree

/-- A relation to a list that is put together falls into the parts. -/
lemma exists_of_forall₂_append {α β : Type} {R : α → β → Prop} {a b : List α} {l : List β}
    (h : List.Forall₂ R (a ++ b) l) :
    ∃ la lb, l = la ++ lb ∧ List.Forall₂ R a la ∧ List.Forall₂ R b lb := by
  induction a generalizing l with
  | nil => exact ⟨[], l, rfl, .nil, h⟩
  | cons x a ih =>
    obtain ⟨y, m, hxy, hm, rfl⟩ := List.forall₂_cons_left_iff.1 h
    obtain ⟨la, lb, rfl, ha, hb⟩ := ih hm
    exact ⟨y :: la, lb, rfl, .cons hxy ha, hb⟩

/-- The types of a row are those of its operands, which are numbers if there is more than one. -/
lemma Tree.types_iff {e : Tree} {rs : List Resolved} : e.Types scope item rs ↔
    List.Forall₂ (fun t r => t.Types scope item [r]) e.operands rs ∧
      (¬ e.IsOperand → ∀ r ∈ rs, r.type.isNumeric = true) := by
  have operand {e : Tree} (he : e.IsOperand) {rs : List Resolved} : e.Types scope item rs ↔
      List.Forall₂ (fun t r => t.Types scope item [r]) e.operands rs ∧
        (¬ e.IsOperand → ∀ r ∈ rs, r.type.isNumeric = true) := by
    rw [operands_of_isOperand he]
    constructor
    · intro h
      obtain ⟨r, rfl⟩ := h.single he
      exact ⟨.cons h .nil, fun not => absurd he not⟩
    · rintro ⟨h, -⟩
      obtain ⟨r, rs, types, none, rfl⟩ := List.forall₂_cons_left_iff.1 h
      cases none
      exact types
  induction e generalizing rs with
  | binary l before op after r hl hr =>
    rw [operands_binary]
    constructor
    · intro h
      cases h with
      | binary h₁ h₂ numeric =>
        exact ⟨List.rel_append (hl.1 h₁).1 (hr.1 h₂).1, fun _ => numeric⟩
    · rintro ⟨h, numeric⟩
      obtain ⟨ls, rs, rfl, h₁, h₂⟩ := exists_of_forall₂_append h
      have numeric := numeric id
      refine .binary (hl.2 ⟨h₁, fun _ => ?_⟩) (hr.2 ⟨h₂, fun _ => ?_⟩) numeric
      · exact (List.forall_mem_append.1 numeric).1
      · exact (List.forall_mem_append.1 numeric).2
  | _ => exact operand (by trivial)

/-! ## Reading operands -/

/-- An identifier, with what stands behind it, calls nothing unless a parenthesis follows. -/
lemma calls_identifier {t : List Char} (ht : IsIdentifier t) {b : Blanks} {rest : List Char}
    (stop : ∀ c ∈ rest.head?, (continuesIdentifier c || isBlank c) = false)
    (h : Calls (t ++ (b.text ++ rest))) : rest.head? = some '(' := by
  unfold Calls at h
  cases ht with
  | @quoted o q body hk _ _ =>
    have mark : ∀ m ∈ identifierMarks, (continuesIdentifier m.1 || isBlank m.1) = false ∧
        m.1 ≠ '(' := by decide
    obtain ⟨other, notOpen⟩ := mark _ hk
    rw [List.cons_append, List.dropWhile_cons_of_neg (by simp [other])] at h
    exact absurd (Option.some.inj h) notOpen
  | @word c s begins continues =>
    have passed : ∀ d ∈ (c :: s) ++ b.text, (continuesIdentifier d || isBlank d) = true := by
      intro d hd
      obtain hd | hd := List.mem_append.1 hd
      · obtain rfl | hd := List.mem_cons.1 hd
        · simp [continues_of_begins begins]
        · simp [continues d hd]
      · simp [b.blank d hd]
    rw [← List.append_assoc, List.dropWhile_append_of_pos passed] at h
    cases rest with
    | nil => cases h
    | cons x rest =>
      rw [List.dropWhile_cons_of_neg (by simp [stop x rfl])] at h
      exact h

/-- A text without parentheses calls nothing. -/
lemma not_calls_of_not_mem {s : List Char} (h : '(' ∉ s) : ¬ Calls s := fun calls =>
  h ((List.dropWhile_suffix _).subset (List.mem_of_mem_head? calls))

/-- Columns and numerals. -/
def Tree.IsLeaf : Tree → Prop
  | .column .. | .whole .. | .point .. => True
  | _ => False

/-- Columns and numerals call nothing. -/
lemma Tree.not_calls {e : Tree} (h : e.IsLeaf) : ¬ Calls e.text := by
  cases e with
  | column q n =>
    cases q with
    | none =>
      intro calls
      rw [← List.append_nil (text _)] at calls
      cases calls_identifier n.written (b := .none) (by rintro _ ⟨⟩) calls
    | some q =>
      intro calls
      rw [text, Qualifier.text, List.append_assoc, List.append_assoc, List.cons_append] at calls
      have stop : ∀ c ∈ ('.' :: (q.after.text ++ n.text)).head?,
          (continuesIdentifier c || isBlank c) = false := by
        rintro _ ⟨⟩
        rfl
      cases calls_identifier q.name.written stop calls
  | whole d ne => exact not_calls_of_not_mem fun open' => by cases d.digit _ open'
  | point b a ne =>
    refine not_calls_of_not_mem fun open' => ?_
    obtain open' | open' := List.mem_append.1 open'
    · cases b.digit _ open'
    · obtain open' | open' := List.mem_cons.1 open'
      · cases open'
      · cases a.digit _ open'
  | _ => exact h.elim

/-- A column or numeral is resolved as an operand that is no call. -/
lemma resolveOther_leaf {e : Tree} (h : e.IsLeaf) :
    resolveOther scope item e.text = resolveAtom scope item e.text := by
  rw [resolveOther, first?, call_eq_nil (Tree.not_calls h)]
  rfl

/-- What does not begin with a digit is no whole number. -/
lemma wholeNumber_eq_nil {s : List Char} (h : ∀ c ∈ s.head?, isDecimalDigit c = false) :
    wholeNumber s = [] := by
  refine eq_nil_of_forall fun m hm => ?_
  obtain ⟨⟨ds, r⟩, hd, -⟩ := mem_bind.1 hm
  obtain ⟨rfl, ne, digit, -⟩ := of_mem_run1 hd
  obtain ⟨d, ds, rfl⟩ := List.exists_cons_of_ne_nil ne
  have other := h d rfl
  rw [digit d (.head _)] at other
  cases other

/-- What begins neither with a digit nor with a point is no number with a point. -/
lemma pointNumber_eq_nil {s : List Char} (h : ∀ c ∈ s.head?, isDecimalDigit c = false ∧ c ≠ '.') :
    pointNumber s = [] := by
  refine eq_nil_of_forall fun m hm => ?_
  obtain hm | hm := List.mem_append.1 hm
  · obtain ⟨⟨ds, r⟩, hd, -⟩ := mem_bind.1 hm
    obtain ⟨rfl, ne, digit, -⟩ := of_mem_run1 hd
    obtain ⟨d, ds, rfl⟩ := List.exists_cons_of_ne_nil ne
    have other := (h d rfl).1
    rw [digit d (.head _)] at other
    cases other
  · obtain ⟨⟨c, r⟩, hp, -⟩ := mem_bind.1 hm
    obtain ⟨-, rfl⟩ := mem_char.1 hp
    exact (h '.' rfl).2 rfl

/-- What does not begin with a single quote is no text between quotes. -/
lemma textLiteral_eq_nil {s : List Char} (h : ∀ c ∈ s.head?, c ≠ '\'') :
    (textLiteral *> Pattern.atEnd) s = [] := by
  refine eq_nil_of_forall fun m hm => ?_
  have hm : m ∈ (textLiteral >>= fun _ => Pattern.atEnd) s := hm
  obtain ⟨⟨_, r⟩, ht, -⟩ := mem_bind.1 hm
  obtain ⟨⟨c, r⟩, hp, -⟩ := mem_bind.1 ht
  obtain ⟨-, rfl⟩ := mem_char.1 hp
  exact h '\'' rfl rfl

/-- A pattern without matches does not match. -/
lemma matchesStart_eq_false {α : Type} {p : Pattern α} {s : List Char} (h : p s = []) :
    p.matchesStart s = false := by
  rw [matchesStart, first?, h]
  rfl

/-- A pattern with a first match matches. -/
lemma matchesStart_eq_true {α : Type} {p : Pattern α} {s : List Char} {m : α × List Char}
    (h : p.first? s = some m) :
    p.matchesStart s = true := by
  rw [matchesStart, h]
  rfl

/-- A name begins with no digit, no point and no single quote. -/
lemma Name.head (n : Name) : ∀ c ∈ n.text.head?, isDecimalDigit c = false ∧ c ≠ '.' ∧ c ≠ '\'' := by
  intro c hc
  refine ⟨?_, n.written.head_ne hc (by decide) rfl, n.written.head_ne hc (by decide) rfl⟩
  obtain ⟨d, s, hs, begins⟩ := n.written.begins
  rw [hs] at hc
  cases hc
  obtain ⟨q, hk⟩ | begins := begins
  · have mark : ∀ m ∈ identifierMarks, isDecimalDigit m.1 = false := by decide
    exact mark _ hk
  · by_contra digit
    obtain ⟨v, hv⟩ := exists_digitValue (Bool.not_eq_false _ ▸ digit)
    obtain ⟨hlt, z, hz, code⟩ := digitValue?_some hv
    have zero := zero_of_ascii z hz
    simp only [beginsIdentifier, isAsciiLetter, Bool.or_eq_true, Bool.and_eq_true,
      decide_eq_true_eq, beq_iff_eq, Char.le_def, UInt32.le_iff_toNat_le,
      if_neg Bool.false_ne_true] at begins
    have ends : 'a'.val.toNat = 97 ∧ 'z'.val.toNat = 122 ∧ 'A'.val.toNat = 65 ∧
        'Z'.val.toNat = 90 := by decide
    have same : c.toNat = c.val.toNat := rfl
    obtain rfl | letter := begins
    · cases hv
    · omega

/-- A name is read as a column without a qualifier. -/
lemma first?_column_bare (n : Name) : first? column n.text = some ((none, n.text), []) := by
  have read := first?_qualified_bare n.written (r := []) (fun _ => by rintro _ ⟨⟩)
    (List.forall_mem_nil _)
  rw [List.append_nil] at read
  exact first?_bind (p := qualified (identifier false)) (f := fun a => Pattern.atEnd >>=
    fun _ => pure a) read rfl

/-- A name behind a qualifier is read as a column of the qualifier's name. -/
lemma first?_column_qualified (q : Qualifier) (n : Name) :
    first? column (q.text ++ n.text) = some ((some q.name.text, n.text), []) := by
  have read := first?_qualified q.name.written n.written q.before.blank q.after.blank (r :=
    []) fun _ => by rintro _ ⟨⟩
  have text : q.text ++ n.text = q.name.text ++
      (q.before.text ++ '.' :: (q.after.text ++ (n.text ++ []))) := by
    simp [Qualifier.text]
  rw [text]
  exact first?_bind (p := qualified (identifier false)) (f := fun a => Pattern.atEnd >>=
    fun _ => pure a) read rfl

/-- A text with a point is no word in capitals. -/
lemma capitals_ne_of_point {s : List Char} (h : '.' ∈ s) {w : String} (hw : '.' ∉ w.toList) :
    capitals s ≠ w := by
  rintro rfl
  unfold capitals at hw
  rw [String.toList_ofList] at hw
  exact hw (List.mem_flatMap.2 ⟨'.', h, by decide⟩)

/-- A column has the type of the field that it means. -/
lemma resolveAtom_column (q : Option Qualifier) (n : Name) :
    resolveAtom scope item (Tree.column q n).text =
    resolveColumn scope item (q.map (·.name.text)) (String.ofList (unquote n.text)) := by
  obtain ⟨head, found, truth⟩ : (∀ c ∈ (Tree.column q n).text.head?, isDecimalDigit c = false ∧
    c ≠ '.' ∧ c ≠ '\'') ∧
      first? column (Tree.column q n).text = some ((q.map (·.name.text), n.text), []) ∧
      capitals (Tree.column q n).text ≠ "TRUE" ∧ capitals (Tree.column q n).text ≠ "FALSE" := by
    cases q with
    | none => exact ⟨n.head, first?_column_bare n, n.noTruth⟩
    | some q =>
      have dot : '.' ∈ (Tree.column (some q) n).text := by simp [Tree.text, Qualifier.text]
      refine ⟨fun c hc => q.name.head c ?_, first?_column_qualified q n,
        capitals_ne_of_point dot (by decide), capitals_ne_of_point dot (by decide)⟩
      rw [Tree.text, Qualifier.text, List.append_assoc,
        List.head?_append_of_ne_nil _ q.name.framed.ne_nil] at hc
      exact hc
  rw [resolveAtom, matchesStart_eq_false (wholeNumber_eq_nil fun c hc => (head c hc).1),
    matchesStart_eq_false (pointNumber_eq_nil fun c hc => ⟨(head c hc).1, (head c hc).2.1⟩),
    matchesStart_eq_false (textLiteral_eq_nil fun c hc => (head c hc).2.2), found]
  simp [truth]

/-- A row of digits is a whole number. -/
lemma resolveAtom_whole (d : Digits) (ne : d.text ≠ []) :
    resolveAtom scope item (Tree.whole d ne).text =
    .ok ⟨.int32, false, none, none, none, none⟩ := by
  have whole : first? wholeNumber (d.text ++ []) = some ((), []) :=
    first?_bind (first?_run1 ne d.digit (by rintro _ ⟨⟩)) rfl
  rw [List.append_nil] at whole
  rw [Tree.text, resolveAtom, matchesStart_eq_true whole, if_pos rfl]

/-- A number with a point is no whole number. -/
lemma wholeNumber_point (b a : Digits) : wholeNumber (b.text ++ '.' :: a.text) = [] := by
  refine eq_nil_of_forall fun m hm => ?_
  obtain ⟨⟨ds, r⟩, hd, hm⟩ := mem_bind.1 hm
  obtain ⟨eq, -, digit, -⟩ := of_mem_run1 hd
  obtain ⟨-, ends⟩ := of_mem_atEnd hm
  have dot : '.' ∈ ds ++ r := eq ▸ by simp
  obtain dot | dot := List.mem_append.1 dot
  · cases digit _ dot
  · dsimp only at ends
    obtain rfl | rfl := ends <;> simp at dot

/-- Digits around a point are a number with a point. -/
lemma matchesStart_pointNumber (b a : Digits) (ne : b.text ≠ [] ∨ a.text ≠ []) :
    pointNumber.matchesStart (b.text ++ '.' :: (a.text ++ [])) = true := by
  by_cases hb : b.text = []
  · have after : first? (do
        let _ ← Pattern.char '.'
        let _ ← Pattern.run1 isDecimalDigit
        Pattern.atEnd : Pattern Unit) ('.' :: (a.text ++ [])) = some ((), []) :=
      first?_bind (first?_char '.')
        (first?_bind (first?_run1 (ne.resolve_left (absurd hb)) a.digit (by rintro _ ⟨⟩)) rfl)
    have before : (do
        let _ ← Pattern.run1 isDecimalDigit
        let _ ← Pattern.char '.'
        let _ ← Pattern.run isDecimalDigit
        Pattern.atEnd : Pattern Unit) ('.' :: (a.text ++ [])) = [] := rfl
    rw [hb]
    exact matchesStart_eq_true ((first?_either_right before).trans after)
  · have before : first? (do
        let _ ← Pattern.run1 isDecimalDigit
        let _ ← Pattern.char '.'
        let _ ← Pattern.run isDecimalDigit
        Pattern.atEnd : Pattern Unit) (b.text ++ '.' :: (a.text ++ [])) = some ((), []) := by
      refine first?_bind (first?_run1 hb b.digit ?_) (first?_bind (first?_char '.')
        (first?_bind (first?_run a.digit (by rintro _ ⟨⟩)) rfl))
      rintro _ ⟨⟩
      rfl
    exact matchesStart_eq_true (first?_either before)

/-- A number with a point is a decimal. -/
lemma resolveAtom_point (b a : Digits) (ne : b.text ≠ [] ∨ a.text ≠ []) :
    resolveAtom scope item (Tree.point b a ne).text =
    .ok ⟨.decimal, false, none, none, none, none⟩ := by
  have point := matchesStart_pointNumber b a ne
  rw [List.append_nil] at point
  rw [Tree.text, resolveAtom, matchesStart_eq_false (wholeNumber_point b a), point]
  rfl

/-- `DISTINCT` with its gap is a word with a blank behind it. -/
lemma of_mem_distinctWord {s : List Char} {m : List Char × List Char} (h : m ∈ distinctWord s) :
    ∃ t c u, s = t ++ c :: u ∧ Variant "distinct".toList t ∧ isBlank c = true := by
  obtain ⟨⟨_, r⟩, hk, gap⟩ := mem_bind.1 h
  obtain ⟨t, rfl, written⟩ := of_mem_keyword hk
  obtain ⟨eq, ne, blank, -⟩ := of_mem_run1 gap
  obtain ⟨c, g, hg⟩ := List.exists_cons_of_ne_nil ne
  rw [hg] at eq blank
  dsimp only at eq
  exact ⟨t, c, g ++ m.2, by rw [eq, List.cons_append], written, blank c (.head _)⟩

/-- What does not begin with the letter D does not begin with `DISTINCT`. -/
lemma distinctWord_eq_nil {s : List Char} (h : ∀ c ∈ s.head?, sameLetter 'd' c = false) :
    distinctWord s = [] := by
  refine eq_nil_of_forall fun m hm => ?_
  obtain ⟨t, c, u, rfl, written, -⟩ := of_mem_distinctWord hm
  cases written with
  | @cons _ d _ t same _ =>
    have other := h d rfl
    have same : sameLetter 'd' d = true := same
    rw [same] at other
    cases other

/-- A digit is not the letter D. -/
lemma not_sameLetter_of_digit {c : Char} (h : isDecimalDigit c = true) :
    sameLetter 'd' c = false := by
  by_contra same
  have codes := sameLetter_codes (l := 'd') (Bool.not_eq_false _ ▸ same)
  obtain ⟨v, hv⟩ := exists_digitValue h
  obtain ⟨hlt, z, hz, code⟩ := digitValue?_some hv
  have zero := zero_of_ascii z hz
  have letter : 'd'.toNat = 100 := rfl
  omega

/-- An identifier that is another word as a whole does not begin with `DISTINCT`. -/
lemma distinctWord_identifier {t rest : List Char} (ht : IsIdentifier t)
    (other : ¬ Variant "distinct".toList t) (hr : ∀ c ∈ rest.head?, continuesIdentifier c = false) :
    distinctWord (t ++ rest) = [] := by
  refine eq_nil_of_forall fun m hm => ?_
  obtain ⟨w, c, u, eq, written, blank⟩ := of_mem_distinctWord hm
  have word : ∀ d ∈ w, continuesIdentifier d = true := fun d hd => by
    rw [continuesIdentifier, isWord_of_variant isLetter_distinct written d hd]
    rfl
  have stop : ∀ d ∈ (c :: u).head?, continuesIdentifier d = false := by
    rintro _ ⟨⟩
    by_contra continues
    rw [not_isBlank_of_continues (Bool.not_eq_false _ ▸ continues)] at blank
    cases blank
  -- Both words are the longest run of characters that continue identifiers, so that
  -- they would be one.
  have whole {a b : List Char} (ha : ∀ d ∈ a, continuesIdentifier d = true)
      (hb : ∀ d ∈ b.head?, continuesIdentifier d = false) :
        (a ++ b).takeWhile continuesIdentifier = a := by
    rw [List.takeWhile_append_of_pos ha]
    cases b with
    | nil => simp
    | cons d b => simp [hb d rfl]
  cases ht with
  | @quoted o q body hk _ _ =>
    obtain ⟨d, w, rfl⟩ : ∃ d v, w = d :: v := by
      cases written with
      | cons => exact ⟨_, _, rfl⟩
    have letter := word d (.head _)
    rw [← (List.cons.inj eq).1, (mark_facts _ hk).1] at letter
    cases letter
  | @word x s begins continues =>
    have all : ∀ d ∈ x :: s, continuesIdentifier d = true :=
      List.forall_mem_cons.2 ⟨continues_of_begins begins, continues⟩
    have same := congrArg (List.takeWhile continuesIdentifier) eq
    rw [whole all hr, whole word stop] at same
    exact other (same ▸ written)

namespace Tree

/-- No expression begins with the word `DISTINCT`. -/
lemma distinctWord_eq_nil (e : Tree) {rest : List Char}
    (hr : ∀ c ∈ rest.head?, continuesIdentifier c = false) :
    distinctWord (e.text ++ rest) = [] := by
  induction e generalizing rest with
  | column q n =>
    cases q with
    | none => exact distinctWord_identifier n.written n.noDistinct hr
    | some q =>
      rw [text, Qualifier.text, List.append_assoc, List.append_assoc, List.append_assoc]
      exact distinctWord_identifier q.name.written q.name.noDistinct
        (not_continues_of_blanks q.before.blank (by rintro _ ⟨⟩; rfl))
  | whole d ne =>
    refine Expression.distinctWord_eq_nil fun c hc => ?_
    rw [text, List.head?_append_of_ne_nil _ ne] at hc
    exact not_sameLetter_of_digit (d.digit c (List.mem_of_mem_head? hc))
  | point b a ne =>
    refine Expression.distinctWord_eq_nil fun c hc => ?_
    rw [text, List.append_assoc] at hc
    cases hb : b.text with
    | nil =>
      rw [hb] at hc
      cases hc
      rfl
    | cons d ds =>
      rw [hb] at hc
      cases hc
      exact not_sameLetter_of_digit (b.digit _ (by rw [hb]; exact .head _))
  | all c _ _ | aggregate c _ _ _ =>
    have differ : ∀ w ∈ functionWords,
        ("distinct".toList.zip w.toList).any (fun x => x.1 != x.2) = true := by decide
    have other (r : List Char) : keyword "distinct".toList (c.function.text ++ r) = [] :=
      keyword_of_variant c.function.written (isLetter_of_functionWords _ c.function.known)
        isLetter_distinct
        (differ _ c.function.known)
    rw [text, Call.text, List.append_assoc, List.append_assoc]
    exact bind_eq_nil (other _)
  | parens before e after _ =>
    refine Expression.distinctWord_eq_nil ?_
    rintro _ ⟨⟩
    rfl
  | binary l before op after r hl _ =>
    rw [text, List.append_assoc, List.append_assoc]
    refine hl (not_continues_of_blanks before.blank ?_)
    rintro _ ⟨⟩
    cases op <;> rfl

end Tree

/-! ## The type of a text -/

variable (scope item) in
/-- Within a bound of steps, the texts of expressions get their types, whatever blanks
stand around them. -/
def Resolves (fuel : Nat) : Prop :=
  ∀ (e : Tree) (before after : Blanks) (r : Resolved), e.text.length < fuel →
    (resolve scope item fuel (before.text ++ (e.text ++ after.text)) = .ok r ↔
      e.HasType scope item r)

/-- Within the bound, the text of an expression on its own has the type of the expression. -/
lemma Resolves.text {fuel : Nat} (h : Resolves scope item fuel) {e : Tree} {r : Resolved}
    (he : e.text.length < fuel) :
    resolve scope item fuel e.text = .ok r ↔ e.HasType scope item r := by
  have around := h e .none .none r he
  have text : Blanks.none.text ++ (e.text ++ Blanks.none.text) = e.text := by simp [Blanks.none]
  rwa [text] at around

/-- Operands have types if the first one has a numeric type and the others have types. -/
lemma resolveOperands_cons_ok {fuel : Nat} {o : Operand} {os : List Operand} {rs : List Resolved} :
    resolveOperands scope item fuel (o :: os) = .ok rs ↔
    ∃ r rs', resolve scope item fuel o.text = .ok r ∧
      r.type.isNumeric = true ∧ resolveOperands scope item fuel os = .ok rs' ∧ rs = r :: rs' := by
  rw [resolveOperands, Outcome.bind_ok]
  constructor
  · rintro ⟨r, hr, h⟩
    split at h
    · cases h
    · rename_i numeric
      obtain ⟨rs', hrs, h⟩ := Outcome.bind_ok.1 h
      cases h
      exact ⟨r, rs', hr, by simpa using numeric, hrs, rfl⟩
  · rintro ⟨r, rs', hr, numeric, hrs, rfl⟩
    refine ⟨r, hr, ?_⟩
    rw [numeric, if_neg (by decide), hrs]
    rfl

/-- The operands of a row get their types, and all of them must be numbers. -/
lemma resolveOperands_ok {fuel : Nat} (h : Resolves scope item fuel)
    {others : List (Blanks × Operator × Blanks × Tree)}
    (ho : ∀ o ∈ others, o.2.2.2.text.length < fuel) :
    ∀ (operator : Option Char) (lead : Blanks) (e : Tree) (rs : List Resolved),
    e.text.length < fuel →
      (resolveOperands scope item fuel (rowOperands operator lead e others) = .ok rs ↔
        List.Forall₂ (fun t r => t.HasType scope item r ∧ r.type.isNumeric = true)
        (e :: others.map (·.2.2.2)) rs) := by
  induction others with
  | nil =>
    intro operator lead e rs he
    have text : lead.text ++ e.text = lead.text ++ (e.text ++ Blanks.none.text) := by
      simp [Blanks.none]
    rw [rowOperands, resolveOperands_cons_ok, List.map_nil, List.forall₂_cons_left_iff]
    simp only [text, h e lead .none _ he, resolveOperands, List.forall₂_nil_left_iff]
    constructor
    · rintro ⟨r, _, hr, numeric, ⟨⟩, rfl⟩
      exact ⟨r, [], ⟨hr, numeric⟩, rfl, rfl⟩
    · rintro ⟨r, _, ⟨hr, numeric⟩, rfl, rfl⟩
      exact ⟨r, [], hr, numeric, rfl, rfl⟩
  | cons o others ih =>
    obtain ⟨before, op, after, e'⟩ := o
    rw [List.forall_mem_cons] at ho
    intro operator lead e rs he
    rw [rowOperands, resolveOperands_cons_ok, List.map_cons, List.forall₂_cons_left_iff]
    simp only [List.append_assoc, h e lead before _ he, ih ho.2 (some op.sign) after e' _ ho.1]
    constructor
    · rintro ⟨r, rs', hr, numeric, hrs, rfl⟩
      exact ⟨r, rs', ⟨hr, numeric⟩, hrs, rfl⟩
    · rintro ⟨r, rs', ⟨hr, numeric⟩, hrs, rfl⟩
      exact ⟨r, rs', hr, numeric, hrs, rfl⟩

/-- A division in a row is seen in its text. -/
lemma any_over_rowOperands (operator : Option Char) (lead : Blanks) (e : Tree)
    (others : List (Blanks × Operator × Blanks × Tree)) :
    (rowOperands operator lead e others).any (fun o => o.operator == some '/') =
      (operator == some '/' || others.any fun o => o.2.1 == .over) := by
  induction others generalizing operator lead e with
  | nil => simp [rowOperands]
  | cons o others ih =>
    obtain ⟨before, op, after, e'⟩ := o
    have sign : (some op.sign == some '/') = (op == .over) := by cases op <;> rfl
    rw [rowOperands, List.any_cons, ih, List.any_cons, sign]

namespace Tree

/-- An expression that is not one operand has other operands. -/
lemma others_ne_nil {e : Tree} (he : ¬ e.IsOperand) : e.others ≠ [] := by
  cases e with
  | binary => simp [others]
  | _ => exact absurd (by trivial) he

/-- The operands of an operation are shorter than the operation. -/
lemma length_operands {e : Tree} (he : ¬ e.IsOperand) :
    e.first.text.length < e.text.length ∧ ∀ o ∈ e.others, o.2.2.2.text.length < e.text.length := by
  have le (l : List (Blanks × Operator × Blanks × Tree)) :
      ∀ o ∈ l, o.2.2.2.text.length + 1 ≤ (othersText l).length := by
    induction l with
    | nil => exact List.forall_mem_nil _
    | cons o l ih =>
      obtain ⟨before, op, after, e⟩ := o
      have cons : (othersText ((before, op, after, e) :: l)).length =
          before.text.length + (after.text.length + e.text.length + 1) + (othersText l).length := by
        simp only [othersText, List.flatMap_cons, List.length_append, List.length_cons]
      rw [List.forall_mem_cons, cons]
      refine ⟨by dsimp only; omega, fun o ho => ?_⟩
      have := ih o ho
      omega
  have length : e.text.length = e.first.text.length + (othersText e.others).length := by
    conv_lhs => rw [e.text_eq]
    rw [List.length_append]
  have first := List.length_pos_of_ne_nil e.first.framed.ne_nil
  obtain ⟨o, os, hos⟩ := List.exists_cons_of_ne_nil (others_ne_nil he)
  have one := le e.others o (by rw [hos]; exact .head _)
  refine ⟨by omega, fun o ho => ?_⟩
  have := le e.others o ho
  omega

end Tree

/-- A row with other operands has at least two. -/
lemma rowOperands_several {operator : Option Char} {lead : Blanks} {e : Tree}
    {others : List (Blanks × Operator × Blanks × Tree)} (h : others ≠ []) :
    ∃ x y zs, rowOperands operator lead e others = x :: y :: zs := by
  obtain ⟨⟨before, op, after, e'⟩, others, rfl⟩ := List.exists_cons_of_ne_nil h
  cases others with
  | nil => exact ⟨_, _, _, rfl⟩
  | cons o others => exact ⟨_, _, _, rfl⟩

/-- Operands have one type each. -/
lemma forall₂_hasType {l : List Tree} {rs : List Resolved} (hl : ∀ t ∈ l, t.IsOperand) :
    List.Forall₂ (fun t r => t.HasType scope item r ∧ r.type.isNumeric = true) l rs ↔
      List.Forall₂ (fun t r => t.Types scope item [r]) l rs ∧
      ∀ r ∈ rs, r.type.isNumeric = true := by
  induction l generalizing rs with
  | nil =>
    rw [List.forall₂_nil_left_iff, List.forall₂_nil_left_iff]
    exact ⟨fun h => ⟨h, by rw [h]; exact List.forall_mem_nil _⟩, And.left⟩
  | cons t l ih =>
    rw [List.forall_mem_cons] at hl
    simp only [List.forall₂_cons_left_iff, ih hl.2, Tree.hasType_of_isOperand hl.1]
    constructor
    · rintro ⟨r, rs, ⟨h, numeric⟩, ⟨hs, numerics⟩, rfl⟩
      exact ⟨⟨r, rs, h, hs, rfl⟩, List.forall_mem_cons.2 ⟨numeric, numerics⟩⟩
    · rintro ⟨⟨r, rs, h, hs, rfl⟩, numeric⟩
      rw [List.forall_mem_cons] at numeric
      exact ⟨r, rs, ⟨h, numeric.1⟩, ⟨hs, numeric.2⟩, rfl⟩

/-- Several operands have the arithmetic type of their types. -/
lemma resolve_several {fuel : Nat} {s t : List Char} {x y : Operand} {zs : List Operand}
    (peeled : peel s.length (trim s) = t) (several : Expression.operands t = x :: y :: zs) :
    resolve scope item (fuel + 1) s =
      (do
        let rs ← resolveOperands scope item fuel (x :: y :: zs)
        .ok (arithmeticType ((x :: y :: zs).any fun o => o.operator == some '/') rs)) := by
  rw [resolve, peeled]
  dsimp only
  rw [several]

/-- One operand that is no aggregate is something else. -/
lemma resolve_other {fuel : Nat} {s t : List Char} {x : Operand}
    (peeled : peel s.length (trim s) = t) (single : Expression.operands t = [x])
    (none : aggregate.first? t = none) :
    resolve scope item (fuel + 1) s = resolveOther scope item t := by
  rw [resolve, peeled]
  dsimp only
  rw [single]
  dsimp only
  rw [none]

/-- One operand that is an aggregate over an argument other than all rows has a type
if the argument has. -/
lemma resolve_aggregate {fuel : Nat} {s t name inner rest : List Char} {x : Operand}
    (peeled : peel s.length (trim s) = t) (single : Expression.operands t = [x])
    (found : aggregate.first? t = some ((name, inner), rest))
    (wrapped : isWrapped (t.dropWhile (· != '(')) = true)
    (trimmed : trim inner = inner) (ne : inner ≠ []) (notAll : inner ≠ ['*']) {r : Resolved} :
    resolve scope item (fuel + 1) s = .ok r ↔ ∃ r', resolve scope item fuel inner = .ok r' ∧
      r = if capitals name == "COUNT" then ⟨.int64, false, none, none, none, none⟩
        else aggregateType (capitals name) r' := by
  have some : inner.isEmpty = false := by simpa using ne
  rw [resolve, peeled]
  dsimp only
  rw [single]
  dsimp only
  rw [found]
  dsimp only
  rw [wrapped, if_pos rfl, trimmed, bne_iff_ne.2 notAll, if_pos rfl, beq_false_of_ne notAll,
    some, Bool.or_self, if_neg Bool.false_ne_true]
  by_cases count : (capitals name == "COUNT") = true
  · simp only [if_pos count]
    rw [Outcome.bind_ok]
    simp only [Except.ok.injEq, eq_comm]
  · simp only [if_neg count]
    rw [Outcome.map_ok]
    simp only [eq_comm]

/-- The count of all rows is a long integer. -/
lemma resolve_all {fuel : Nat} {s t name rest : List Char} {x : Operand}
    (peeled : peel s.length (trim s) = t) (single : Expression.operands t = [x])
    (found : aggregate.first? t = some ((name, ['*']), rest))
    (wrapped : isWrapped (t.dropWhile (· != '(')) = true) (counts : capitals name = "COUNT") :
    resolve scope item (fuel + 1) s = .ok ⟨.int64, false, none, none, none, none⟩ := by
  rw [resolve, peeled]
  dsimp only
  rw [single]
  dsimp only
  rw [found]
  dsimp only
  rw [wrapped, counts]
  rfl

/-- The argument of a call is wrapped by its parentheses. -/
lemma Call.isWrapped (c : Call) {argument : List Char} (h : Balanced argument) (after : Blanks) :
    isWrapped ((c.text ++ (argument ++ (after.text ++ [')']))).dropWhile (· != '(')) = true := by
  have name : ∀ x ∈ c.function.text ++ c.gap.text, (x != '(') = true := by
    rw [List.forall_mem_append]
    refine ⟨fun x hx => bne_iff_ne.2 (c.plain.1 x hx).2.1, fun x hx => ?_⟩
    exact bne_iff_ne.2 (isPlain_of_blank (c.gap.blank x hx)).2.1
  rw [c.text_append, List.dropWhile_append_of_pos name, List.dropWhile_cons_of_neg (by decide)]
  exact (isWrapped_iff (c.balanced_inside h after) (framed_parens _).trim_eq).2 rfl

/-- Blanks and parentheses around an expression are taken off. -/
lemma Tree.peel_between (e : Tree) (before after : Blanks) :
    peel (before.text ++ (e.text ++ after.text)).length
      (trim (before.text ++ (e.text ++ after.text))) = e.core.text := by
  rw [trim_between before.blank after.blank e.framed.trim_eq]
  refine e.peel_text ?_
  rw [List.length_append, List.length_append]
  omega

section Step

variable {fuel : Nat} {c : Tree} {s : List Char} {r : Resolved}

/-- The argument of an aggregate is shorter than the aggregate. -/
lemma Tree.length_argument (call : Call) (argument : Tree) (after : Blanks) :
    argument.text.length < (Tree.aggregate call argument after).text.length := by
  have length : (Tree.aggregate call argument after).text.length =
      call.text.length + (argument.text.length + (after.text.length + 1)) := by simp [Tree.text]
  omega

/-- An operand gets its type if its argument does. -/
lemma resolve_operand (ih : Resolves scope item fuel) (hc : c.IsOperand)
    (notParens : ∀ b i a, c ≠ .parens b i a) (short : c.text.length < fuel + 1)
    (peeled : peel s.length (trim s) = c.text) :
    resolve scope item (fuel + 1) s = .ok r ↔ c.HasType scope item r := by
  have single : Expression.operands c.text = [⟨none, c.text⟩] := by
    rw [operands_text]
    cases c with
    | binary => exact hc.elim
    | _ => rfl
  have leaf (h : c.IsLeaf) : resolve scope item (fuel + 1) s = resolveAtom scope item c.text := by
    rw [resolve_other peeled single (first?_eq_none.2 (aggregate_eq_nil (Tree.not_calls h))),
      resolveOther_leaf h]
  rw [Tree.hasType_of_isOperand hc]
  cases c with
  | column q n =>
    rw [leaf trivial, resolveAtom_column]
    exact ⟨.column, fun h => by cases h with | column h => exact h⟩
  | whole d ne =>
    rw [leaf trivial, resolveAtom_whole]
    exact ⟨fun h => by cases h; exact .whole, fun h => by cases h; rfl⟩
  | point b a ne =>
    rw [leaf trivial, resolveAtom_point]
    exact ⟨fun h => by cases h; exact .point, fun h => by cases h; rfl⟩
  | all call counts after =>
    have star : Balanced ['*'] := .plain (by decide) .nil
    have free : distinctWord (['*'] ++ (after.text ++ [')'])) = [] :=
      distinctWord_eq_nil (by rintro _ ⟨⟩; rfl)
    have found := first?_aggregate call (show trim ['*'] = ['*'] from rfl)
      (List.cons_ne_nil _ _) after.blank free
    rw [resolve_all peeled single found (call.isWrapped star after) counts]
    exact ⟨fun h => by cases h; exact .all, fun h => by cases h; rfl⟩
  | aggregate call argument after =>
    have free := argument.distinctWord_eq_nil (not_continues_of_blanks after.blank (r := [')'])
      (by rintro _ ⟨⟩; rfl))
    have found := first?_aggregate call argument.framed.trim_eq argument.framed.ne_nil after.blank
      free
    have notAll : argument.text ≠ ['*'] :=
      fun star => (argument.framed.head '*' (by rw [star]; rfl)).2 rfl
    have inner : argument.text.length < fuel :=
      (Tree.length_argument call argument after).trans_le (Nat.le_of_lt_succ short)
    rw [resolve_aggregate peeled single found (call.isWrapped argument.balanced after)
      argument.framed.trim_eq
      argument.framed.ne_nil notAll]
    simp only [ih.text inner]
    constructor
    · rintro ⟨r', ⟨rs, h, rfl⟩, rfl⟩
      exact .aggregate h
    · intro h
      cases h with
      | aggregate h => exact ⟨_, ⟨_, h, rfl⟩, rfl⟩
  | parens b i a => exact absurd rfl (notParens b i a)
  | binary => exact hc.elim

/-- A row of operands gets its type if its operands do. -/
lemma resolve_row (ih : Resolves scope item fuel) (hc : ¬ c.IsOperand)
    (short : c.text.length < fuel + 1) (peeled : peel s.length (trim s) = c.text) :
    resolve scope item (fuel + 1) s = .ok r ↔ c.HasType scope item r := by
  obtain ⟨first, others⟩ := Tree.length_operands hc
  have first : c.first.text.length < fuel := first.trans_le (Nat.le_of_lt_succ short)
  have others : ∀ o ∈ c.others, o.2.2.2.text.length < fuel := fun o ho =>
    (others o ho).trans_le (Nat.le_of_lt_succ short)
  have others_ne := Tree.others_ne_nil hc
  obtain ⟨x, y, zs, several⟩ : ∃ x y zs, rowOperands none .none c.first c.others = x :: y :: zs :=
    rowOperands_several others_ne
  have isOperand : ∀ t ∈ c.operands, t.IsOperand := by
    rw [Tree.operands, List.forall_mem_cons, List.forall_mem_map]
    exact ⟨c.isOperand_first, c.isOperand_others⟩
  have types (rs : List Resolved) :
      List.Forall₂ (fun t r => t.HasType scope item r ∧ r.type.isNumeric = true)
      (c.first :: c.others.map (·.2.2.2)) rs ↔ c.Types scope item rs := by
    rw [Tree.types_iff, ← Tree.operands, forall₂_hasType isOperand]
    exact and_congr_right fun _ => ⟨fun h _ => h, fun h => h hc⟩
  have combine {rs : List Resolved} (h : c.Types scope item rs) :
      combined c.divides rs = arithmeticType c.divides rs := by
    have length := (Tree.types_iff.1 h).1.length_eq
    have := List.length_pos_of_ne_nil others_ne
    rw [Tree.operands, List.length_cons, List.length_map] at length
    exact combined_several (by omega)
  have divides : ((none : Option Char) == some '/' || c.others.any fun o => o.2.1 == .over) =
      c.divides := by
    rw [c.divides_eq]
    rfl
  rw [resolve_several peeled ((operands_text c).trans several), ← several,
    any_over_rowOperands, divides, Outcome.bind_ok]
  simp only [resolveOperands_ok ih others none .none c.first _ first, types]
  constructor
  · rintro ⟨rs, h, ⟨⟩⟩
    exact ⟨rs, h, (combine h).symm⟩
  · rintro ⟨rs, h, rfl⟩
    exact ⟨rs, h, by rw [combine h]⟩

end Step

/-- The texts of expressions get the types of the expressions, with a step for each
character at most. -/
lemma resolves (fuel : Nat) : Resolves scope item fuel := by
  -- Induction on the bound: arguments and operands are shorter than the expressions
  -- that they stand in.
  induction fuel with
  | zero => exact fun e _ _ _ h => absurd h (Nat.not_lt_zero _)
  | succ fuel ih =>
    intro e before after r he
    have shorter : e.core.text.length < fuel + 1 := e.length_core.trans_lt he
    rw [← Tree.hasType_core]
    by_cases hc : e.core.IsOperand
    · exact resolve_operand ih hc e.core_ne_parens shorter (e.peel_between before after)
    · exact resolve_row ih hc shorter (e.peel_between before after)

/-- The text of an expression has the type of the expression, and no type if that has none. -/
lemma typeOf_text (e : Tree) (r : Resolved) :
    typeOf scope item e.text = .ok r ↔ e.HasType scope item r :=
  (resolves _).text (Nat.lt_succ_self _)

end Rulebook.Expression
