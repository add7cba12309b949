import Mathlib.Data.List.Forall2
import Rulebook.Proofs.Catalog.Operand
import Rulebook.Proofs.Number.Numeral

/-!
# Arithmetic expressions as they are written

An expression over columns, numerals and aggregates is a tree (`Tree`), which may group its
operators in any way, also in the way of the query language; of the groups only the parentheses are
written. The text of an expression loses the parentheses around it (`Tree.peel_text`) and falls into
the row of its operands (`operands_text`).
-/

namespace Rulebook.Expression
open Sql Text Pattern

/-! ## Trees -/

/-- A name, as it is written, that is none of the words `TRUE`, `FALSE` and `DISTINCT`. -/
structure Name where
  text : List Char
  written : IsIdentifier text
  noTruth : capitals text ≠ "TRUE" ∧ capitals text ≠ "FALSE"
  noDistinct : ¬ Variant "distinct".toList text

/-- The name of a relation in front of a column, up to the point and the blanks around it. -/
structure Qualifier where
  name : Name
  before : Blanks
  after : Blanks

/-- A row of digits. -/
structure Digits where
  text : List Char
  digit : ∀ c ∈ text, isDecimalDigit c = true

/-- An arithmetic operator. -/
inductive Operator where
  | plus
  | minus
  | times
  | over
  deriving DecidableEq

/-- The sign of an operator. -/
def Operator.sign : Operator → Char
  | .plus => '+'
  | .minus => '-'
  | .times => '*'
  | .over => '/'

/-- An expression with all blanks and parentheses that are written. -/
inductive Tree where
  | column (qualifier : Option Qualifier) (name : Name)
  | whole (digits : Digits) (ne : digits.text ≠ [])
  | point (before after : Digits) (ne : before.text ≠ [] ∨ after.text ≠ [])
  | all (call : Call) (counts : capitals call.function.text = "COUNT") (after : Blanks)
  | aggregate (call : Call) (argument : Tree) (after : Blanks)
  | parens (before : Blanks) (inner : Tree) (after : Blanks)
  | binary (left : Tree) (before : Blanks) (operator : Operator) (after : Blanks) (right : Tree)

/-- What is written of a qualifier. -/
def Qualifier.text (q : Qualifier) : List Char :=
  q.name.text ++ (q.before.text ++ '.' :: q.after.text)

namespace Tree

/-- An expression as it is written. -/
def text : Tree → List Char
  | column none n => n.text
  | column (some q) n => q.text ++ n.text
  | whole d _ => d.text
  | point b a _ => b.text ++ '.' :: a.text
  | all c _ after => c.text ++ (['*'] ++ (after.text ++ [')']))
  | aggregate c e after => c.text ++ (e.text ++ (after.text ++ [')']))
  | parens before e after => '(' :: (before.text ++ (e.text ++ after.text) ++ [')'])
  | binary l before op after r => l.text ++ (before.text ++ op.sign :: (after.text ++ r.text))

/-- An expression that is one operand. -/
def IsOperand : Tree → Prop
  | binary .. => False
  | _ => True

/-- The first operand of an expression. -/
def first : Tree → Tree
  | binary l _ _ _ _ => l.first
  | e => e

/-- The other operands of an expression, each with what stands before it. -/
def others : Tree → List (Blanks × Operator × Blanks × Tree)
  | binary l before op after r => l.others ++ (before, op, after, r.first) :: r.others
  | _ => []

/-- An expression without the parentheses around it. -/
def core : Tree → Tree
  | parens _ e _ => e.core
  | e => e

end Tree

/-! ## Characters -/

/-- A blank is plain. -/
lemma isPlain_of_blank {c : Char} (h : isBlank c = true) : IsPlain c :=
  isPlain_of_class h (by decide)

/-- A digit is plain. -/
lemma isPlain_of_digit {c : Char} (h : isDecimalDigit c = true) : IsPlain c :=
  isPlain_of_class h (by decide)

/-- A character of a word is plain. -/
lemma isPlain_of_isWord {c : Char} (h : isWord c = true) : IsPlain c :=
  isPlain_of_class h (by decide)

/-- A character that differs from all signs in some way is none of them. -/
lemma not_isArithmetic_of_class {ok : Char → Bool} {c : Char} (h : ok c = true)
    (signs : ['+', '-', '*', '/'].any ok = false) : isArithmetic c = false := by
  have ne : ∀ x ∈ ['+', '-', '*', '/'], c ≠ x := by
    rintro x hx rfl
    exact List.any_eq_false.1 signs c hx h
  simp only [List.forall_mem_cons] at ne
  simp [isArithmetic, ne]

/-- The sign of an operator is arithmetic. -/
lemma isArithmetic_sign (op : Operator) : isArithmetic op.sign = true := by cases op <;> rfl

/-- The sign of an operator is plain. -/
lemma isPlain_sign (op : Operator) : IsPlain op.sign := by cases op <;> decide

/-! ## Texts of expressions -/

/-- A text that neither begins nor ends with a blank, and does not begin with an asterisk. -/
structure Framed (s : List Char) : Prop where
  ne_nil : s ≠ []
  head : ∀ c ∈ s.head?, isBlank c = false ∧ c ≠ '*'
  last : ∀ c ∈ s.getLast?, isBlank c = false

/-- A framed text has no blanks around it to lose. -/
lemma Framed.trim_eq {s : List Char} (h : Framed s) : trim s = s :=
  trim_eq_self_iff.2 ⟨fun c hc => (h.head c hc).1, h.last⟩

/-- A framed text, something, and a framed text again make a framed text. -/
lemma Framed.append {a b : List Char} (ha : Framed a) (m : List Char) (hb : Framed b) :
    Framed (a ++ (m ++ b)) := by
  obtain ⟨c, cs, rfl⟩ := List.exists_cons_of_ne_nil ha.ne_nil
  refine ⟨by simp, ha.head, fun d hd => hb.last d ?_⟩
  rwa [← List.append_assoc, List.getLast?_append_of_ne_nil _ hb.ne_nil] at hd

/-- A text in parentheses is framed. -/
lemma framed_parens (s : List Char) : Framed ('(' :: (s ++ [')'])) := by
  refine ⟨List.cons_ne_nil _ _, ?_, ?_⟩
  · rintro _ ⟨⟩
    exact ⟨rfl, by decide⟩
  · rw [← List.cons_append, List.getLast?_concat]
    rintro _ ⟨⟩
    rfl

/-- A name is framed. -/
lemma Name.framed (n : Name) : Framed n.text := by
  have trimmed := trim_eq_self_iff.1 n.written.trim_eq
  exact ⟨n.written.ne_nil, fun c hc => ⟨trimmed.1 c hc, n.written.head_ne hc (by decide) rfl⟩,
    trimmed.2⟩

/-- A numeral is framed. -/
lemma framed_of_numeral {s : List Char} (ne : s ≠ [])
    (h : ∀ c ∈ s, isDecimalDigit c = true ∨ c = '.') : Framed s := by
  have facts : ∀ c ∈ s, isBlank c = false ∧ c ≠ '*' := by
    intro c hc
    obtain digit | rfl := h c hc
    · refine ⟨not_isBlank_of_digit digit, ?_⟩
      rintro rfl
      cases digit
    · exact ⟨rfl, by decide⟩
  exact ⟨ne, fun c hc => facts c (List.mem_of_mem_head? hc), fun c hc =>
    (facts c (List.mem_of_getLast? hc)).1⟩

/-- Blanks are balanced. -/
lemma balanced_blanks (b : Blanks) : Balanced b.text :=
  balanced_of_plain fun c hc => isPlain_of_blank (b.blank c hc)

/-- Digits are balanced. -/
lemma balanced_digits (d : Digits) : Balanced d.text :=
  balanced_of_plain fun c hc => isPlain_of_digit (d.digit c hc)

/-- A qualifier is balanced. -/
lemma Qualifier.balanced (q : Qualifier) : Balanced q.text :=
  q.name.written.balanced.append
    ((balanced_blanks q.before).append ((balanced_blanks q.after).plain (by decide)))

/-- What stands in front of an argument is plain. -/
lemma Call.plain (c : Call) : (∀ x ∈ c.function.text, IsPlain x) ∧ ∀ x ∈ c.inside, IsPlain x := by
  refine ⟨fun x hx => isPlain_of_isWord
    (isWord_of_variant (isLetter_of_functionWords _ c.function.known) c.function.written x hx),
    fun x hx => ?_⟩
  unfold Call.inside at hx
  obtain hx | hx := List.mem_append.1 hx
  · exact isPlain_of_blank (c.before.blank x hx)
  · cases hd : c.distinct with
    | none => simp [hd] at hx
    | some d =>
      rw [hd] at hx
      obtain hx | hx := List.mem_append.1 hx
      · exact isPlain_of_isWord (isWord_of_variant isLetter_distinct d.written x hx)
      · exact isPlain_of_blank (d.blank x hx)

/-- What stands between the parentheses of a call is balanced if its argument is. -/
lemma Call.balanced_inside (c : Call) {argument : List Char} (h : Balanced argument)
    (after : Blanks) :
    Balanced (c.inside ++ (argument ++ after.text)) :=
  (balanced_of_plain c.plain.2).append (h.append (balanced_blanks after))

/-- A call is the name of its function, a gap, and the argument in parentheses. -/
lemma Call.text_append (c : Call) (argument : List Char) (after : Blanks) :
    c.text ++ (argument ++ (after.text ++ [')'])) =
      c.function.text ++ c.gap.text ++
      '(' :: ((c.inside ++ (argument ++ after.text)) ++ [')']) := by
  simp [Call.text]

/-- A call is balanced if its argument is. -/
lemma Call.balanced (c : Call) {argument : List Char} (h : Balanced argument) (after : Blanks) :
    Balanced (c.text ++ (argument ++ (after.text ++ [')']))) := by
  rw [c.text_append]
  refine ((balanced_of_plain c.plain.1).append (balanced_blanks c.gap)).append ?_
  exact (c.balanced_inside h after).parens .nil

/-- The name of a function is framed. -/
lemma Function.framed (f : Function) : Framed f.text := by
  have word := isWord_of_variant (isLetter_of_functionWords _ f.known) f.written
  have solid : ∀ c ∈ f.text, isBlank c = false ∧ c ≠ '*' := by
    intro c hc
    constructor
    · by_contra blank
      have other := not_isWord_of_isBlank (Bool.not_eq_false _ ▸ blank)
      rw [word c hc] at other
      cases other
    · rintro rfl
      cases word _ hc
  refine ⟨fun nil => ?_, fun c hc => solid c (List.mem_of_mem_head? hc),
    fun c hc => (solid c (List.mem_of_getLast? hc)).1⟩
  have written := f.written
  have some : ∀ w ∈ functionWords, w.toList ≠ [] := by decide
  rw [nil] at written
  exact some _ f.known (List.forall₂_nil_right_iff.1 written)

/-- A call is framed, whatever its argument is. -/
lemma Call.framed (c : Call) (argument : List Char) (after : Blanks) :
    Framed (c.text ++ (argument ++ (after.text ++ [')']))) := by
  rw [c.text_append, List.append_assoc]
  exact c.function.framed.append c.gap.text (framed_parens _)

namespace Tree

/-- An expression is framed. -/
lemma framed (e : Tree) : Framed e.text := by
  induction e with
  | column q n =>
    cases q with
    | none => exact n.framed
    | some q =>
      rw [text, Qualifier.text, List.append_assoc]
      exact q.name.framed.append _ n.framed
  | whole d ne => exact framed_of_numeral ne fun c hc => .inl (d.digit c hc)
  | point b a ne =>
    refine framed_of_numeral (by simp [text]) fun c hc => ?_
    obtain hc | hc := List.mem_append.1 hc
    · exact .inl (b.digit c hc)
    · exact (List.mem_cons.1 hc).elim .inr fun hc => .inl (a.digit c hc)
  | all c counts after => exact c.framed ['*'] after
  | aggregate c e after _ => exact c.framed e.text after
  | parens before e after _ => exact framed_parens _
  | binary l before op after r hl hr =>
    rw [text, ← List.cons_append, ← List.append_assoc before.text]
    exact hl.append _ hr

/-- An expression is balanced. -/
lemma balanced (e : Tree) : Balanced e.text := by
  induction e with
  | column q n =>
    cases q with
    | none => exact n.written.balanced
    | some q => exact q.balanced.append n.written.balanced
  | whole d ne => exact balanced_digits d
  | point b a ne => exact (balanced_digits b).append ((balanced_digits a).plain (by decide))
  | all c counts after => exact c.balanced (.plain (by decide) .nil) after
  | aggregate c e after he => exact c.balanced he after
  | parens before e after he =>
    exact ((balanced_blanks before).append (he.append (balanced_blanks after))).parens .nil
  | binary l before op after r hl hr =>
    exact hl.append ((balanced_blanks before).append
      (((balanced_blanks after).append hr).plain (isPlain_sign op)))

end Tree

/-! ## Operands of a text -/

/-- The mask of one operand: it shows no operator, and its last mark may stand before one. -/
structure Calm (marks : List Char) : Prop where
  calm : ∀ m ∈ marks, isArithmetic m = false
  last : ∃ u z, marks = u ++ [z] ∧ isBlank z = false ∧ z ≠ '('

/-- Marks that show no operator may stand before those of an operand. -/
lemma Calm.append {a b : List Char} (ha : ∀ m ∈ a, isArithmetic m = false) (hb : Calm b) :
    Calm (a ++ b) := by
  obtain ⟨u, z, rfl, hz⟩ := hb.last
  exact ⟨List.forall_mem_append.2 ⟨ha, hb.calm⟩, a ++ u, z, by rw [List.append_assoc], hz⟩

/-- A text without operators, blanks and opening parentheses is the mask of an operand. -/
lemma calm_of_solid {s : List Char} (ne : s ≠ [])
    (h : ∀ c ∈ s, isArithmetic c = false ∧ isBlank c = false ∧ c ≠ '(') :
    Calm s := by
  refine ⟨fun c hc => (h c hc).1, s.dropLast, s.getLast ne, (List.dropLast_append_getLast ne).symm,
    ?_⟩
  exact (h _ (List.getLast_mem ne)).2

/-- What stands between parentheses does not show. -/
lemma calm_parens {inner : List Char} (h : Balanced inner) :
    Calm (mask ('(' :: (inner ++ [')']))) := by
  rw [h.mask_parens]
  refine ⟨?_, '(' :: List.replicate inner.length ' ', ')', rfl, rfl, by decide⟩
  have blanks : ∀ m ∈ List.replicate inner.length ' ', isArithmetic m = false := by
    intro m hm
    rw [List.eq_of_mem_replicate hm]
    rfl
  exact List.forall_mem_cons.2
    ⟨rfl, List.forall_mem_append.2 ⟨blanks, List.forall_mem_cons.2 ⟨rfl, List.forall_mem_nil _⟩⟩⟩

/-- A name shows no operator: the characters of a quoted one do not show. -/
lemma Name.calm (n : Name) : Calm (mask n.text) := by
  obtain ⟨text, written, -, -⟩ := n
  cases written with
  | @quoted o q body hk _ hq =>
    obtain ⟨ho, hz⟩ : isArithmetic o = false ∧ isArithmetic q = false ∧
      isBlank q = false ∧ q ≠ '(' := by
      have all : ∀ m ∈ identifierMarks,
          isArithmetic m.1 = false ∧ isArithmetic m.2 = false ∧ isBlank m.2 = false ∧
          m.2 ≠ '(' := by decide
      exact all _ hk
    have blanks : ∀ m ∈ o :: List.replicate body.length ' ', isArithmetic m = false := by
      refine List.forall_mem_cons.2 ⟨ho, fun m hm => ?_⟩
      rw [List.eq_of_mem_replicate hm]
      rfl
    rw [mask_quoted (closingQuote?_of_mark _ hk) hq, ← List.cons_append]
    exact Calm.append blanks (calm_of_solid (List.cons_ne_nil _ _)
      (List.forall_mem_cons.2 ⟨hz, List.forall_mem_nil _⟩))
  | @word c s begins continues =>
    have all : ∀ d ∈ c :: s, continuesIdentifier d = true :=
      List.forall_mem_cons.2 ⟨continues_of_begins begins, continues⟩
    rw [mask_of_plain fun d hd => isPlain_of_continues (all d hd)]
    exact calm_of_solid (List.cons_ne_nil _ _) fun d hd =>
      ⟨not_isArithmetic_of_class (all d hd) (by decide), not_isBlank_of_continues (all d hd),
        ne_of_continues (all d hd) rfl⟩

/-- Blanks show no operator. -/
lemma calm_blanks (b : Blanks) : ∀ m ∈ b.text, isArithmetic m = false :=
  fun m hm => not_isArithmetic_of_class (b.blank m hm) (by decide)

/-- Blanks are shown as they are. -/
lemma mask_blanks (b : Blanks) : mask b.text = b.text :=
  mask_of_plain fun c hc => isPlain_of_blank (b.blank c hc)

/-- A numeral shows no operator. -/
lemma calm_numeral {s : List Char} (ne : s ≠ []) (h : ∀ c ∈ s, isDecimalDigit c = true ∨ c = '.') :
    Calm (mask s) := by
  have facts : ∀ c ∈ s, IsPlain c ∧ isArithmetic c = false ∧ isBlank c = false ∧ c ≠ '(' := by
    intro c hc
    obtain digit | rfl := h c hc
    · refine ⟨isPlain_of_digit digit, not_isArithmetic_of_class digit (by decide),
        not_isBlank_of_digit digit, ?_⟩
      rintro rfl
      cases digit
    · decide
  rw [mask_of_plain fun c hc => (facts c hc).1]
  exact calm_of_solid ne fun c hc => (facts c hc).2

/-- A qualifier shows no operator. -/
lemma Qualifier.calm (q : Qualifier) : ∀ m ∈ mask q.text, isArithmetic m = false := by
  rw [Qualifier.text, q.name.written.balanced.mask_append, (balanced_blanks q.before).mask_append,
    mask_blanks]
  have point : mask ('.' :: q.after.text) = '.' :: mask q.after.text := by
    rw [mask, maskFrom_plain (by decide), shownAt_zero, ← mask]
  rw [point, mask_blanks, List.forall_mem_append, List.forall_mem_append, List.forall_mem_cons]
  exact ⟨q.name.calm.calm, calm_blanks _, rfl, calm_blanks _⟩

/-- A call shows no operator: what stands between its parentheses does not show. -/
lemma Call.calm (c : Call) {argument : List Char} (h : Balanced argument) (after : Blanks) :
    Calm (mask (c.text ++ (argument ++ (after.text ++ [')'])))) := by
  rw [c.text_append, ((balanced_of_plain c.plain.1).append (balanced_blanks c.gap)).mask_append,
    (balanced_of_plain c.plain.1).mask_append, mask_of_plain c.plain.1, mask_blanks]
  have word := isWord_of_variant (isLetter_of_functionWords _ c.function.known) c.function.written
  exact Calm.append (List.forall_mem_append.2
    ⟨fun m hm => not_isArithmetic_of_class (word m hm) (by decide), calm_blanks _⟩)
    (calm_parens (c.balanced_inside h after))

/-- The mask of an operand shows no operator. -/
lemma Tree.calm {e : Tree} (h : e.IsOperand) : Calm (mask e.text) := by
  cases e with
  | column q n =>
    cases q with
    | none => exact n.calm
    | some q =>
      rw [text, q.balanced.mask_append]
      exact Calm.append q.calm n.calm
  | whole d ne => exact calm_numeral ne fun c hc => .inl (d.digit c hc)
  | point b a ne =>
    refine calm_numeral (by simp [text]) fun c hc => ?_
    obtain hc | hc := List.mem_append.1 hc
    · exact .inl (b.digit c hc)
    · exact (List.mem_cons.1 hc).elim .inr fun hc => .inl (a.digit c hc)
  | all c counts after => exact c.calm (.plain (by decide) .nil) after
  | aggregate c e after => exact c.calm e.balanced after
  | parens before e after =>
    exact calm_parens ((balanced_blanks before).append (e.balanced.append (balanced_blanks after)))
  | binary => exact h.elim

/-- A text with its marks. -/
def marked (s : List Char) : List (Char × Char) := s.zip (mask s)

/-- Behind a balanced text, the marks are those of the rest on its own. -/
lemma marked_append {s : List Char} (h : Balanced s) (t : List Char) :
    marked (s ++ t) = marked s ++ marked t := by
  rw [marked, h.mask_append, List.zip_append (length_mask s).symm]
  rfl

/-- A text with its marks has the characters of the text. -/
lemma map_fst_marked (s : List Char) : (marked s).map (·.1) = s :=
  List.map_fst_zip (length_mask s).ge

/-- A text with its marks has the marks of the mask. -/
lemma map_snd_marked (s : List Char) : (marked s).map (·.2) = mask s :=
  List.map_snd_zip (length_mask s).le

/-- What stands behind the first operand. -/
def othersText (others : List (Blanks × Operator × Blanks × Tree)) : List Char :=
  others.flatMap fun (before, op, after, e) => before.text ++ op.sign :: (after.text ++ e.text)

/-- The operands of a row, as texts with the blanks around them. -/
def rowOperands (operator : Option Char) (lead : Blanks) (e : Tree) :
    List (Blanks × Operator × Blanks × Tree) → List Operand
  | [] => [⟨operator, lead.text ++ e.text⟩]
  | (before, op, after, e') :: others =>
    ⟨operator, lead.text ++ e.text ++ before.text⟩ :: rowOperands (some op.sign) after e' others

namespace Tree

/-- An expression is its first operand and what stands behind it. -/
lemma text_eq (e : Tree) : e.text = e.first.text ++ othersText e.others := by
  induction e with
  | binary l before op after r hl hr =>
    rw [text, first, others, hl, hr]
    simp [othersText]
  | _ => simp [first, others, othersText]

/-- The first operand of an expression is an operand. -/
lemma isOperand_first (e : Tree) : e.first.IsOperand := by
  induction e with
  | binary l _ _ _ _ hl _ => exact hl
  | _ => trivial

/-- The other operands of an expression are operands. -/
lemma isOperand_others (e : Tree) : ∀ o ∈ e.others, o.2.2.2.IsOperand := by
  induction e with
  | binary l before op after r hl hr =>
    rw [others, List.forall_mem_append, List.forall_mem_cons]
    exact ⟨hl, r.isOperand_first, hr⟩
  | _ => exact List.forall_mem_nil _

end Tree

/-- A row of operands is split at its operators. -/
lemma splitOperands_row {others : List (Blanks × Operator × Blanks × Tree)}
    (ho : ∀ o ∈ others, o.2.2.2.IsOperand) :
    ∀ (operator previous : Option Char) (lead : Blanks) {e : Tree}, e.IsOperand →
      splitOperands operator previous (marked (lead.text ++ (e.text ++ othersText others))) =
        rowOperands operator lead e others := by
  have single (lead : Blanks) {e : Tree} (he : e.IsOperand) :
      Calm (mask (lead.text ++ e.text)) := by
    rw [(balanced_blanks lead).mask_append, mask_blanks]
    exact Calm.append (calm_blanks lead) (Tree.calm he)
  induction others with
  | nil =>
    intro operator previous lead e he
    have text : lead.text ++ (e.text ++ othersText []) = lead.text ++ e.text := by simp [othersText]
    have calm : ∀ x ∈ marked (lead.text ++ e.text), isArithmetic x.2 = false :=
      fun x hx => (single lead he).calm x.2 (map_snd_marked _ ▸ List.mem_map_of_mem hx)
    have split : splitOperands operator previous (marked (lead.text ++ e.text) ++ []) =
        [⟨operator, (marked (lead.text ++ e.text)).map (·.1) ++ []⟩] :=
      splitOperands_segment (o := ⟨operator, []⟩) (l := []) calm rfl
    rw [List.append_nil] at split
    rw [text, split, map_fst_marked, List.append_nil]
    rfl
  | cons o others ih =>
    obtain ⟨before, op, after, e'⟩ := o
    rw [List.forall_mem_cons] at ho
    intro operator previous lead e he
    -- The operand and the blanks behind it are a segment; what it ends in is neither an operator
    -- nor an open parenthesis.
    obtain ⟨calm, u, z, hz, blank, notOpen⟩ := single lead he
    have segment : Balanced (lead.text ++ e.text ++ before.text) :=
      ((balanced_blanks lead).append e.balanced).append (balanced_blanks before)
    have marks : mask (lead.text ++ e.text ++ before.text) = u ++ [z] ++ before.text := by
      rw [((balanced_blanks lead).append e.balanced).mask_append, hz, mask_blanks]
    have last : lastMark previous ((marked (lead.text ++ e.text ++ before.text)).map (·.2)) =
        some z := by
      rw [map_snd_marked, marks, lastMark_append, lastMark_concat blank,
        lastMark_blanks before.blank]
    have text : lead.text ++ (e.text ++ othersText ((before, op, after, e') :: others)) =
        (lead.text ++ e.text ++ before.text) ++
        op.sign :: (after.text ++ (e'.text ++ othersText others)) := by
      simp [othersText]
    have sign : marked (op.sign :: (after.text ++ (e'.text ++ othersText others))) =
        (op.sign, op.sign) :: marked (after.text ++ (e'.text ++ othersText others)) := by
      rw [marked, mask, maskFrom_plain (isPlain_sign op), shownAt_zero, ← mask]
      rfl
    rw [text, marked_append segment, sign]
    refine (splitOperands_segment (o := ⟨operator, []⟩) (l :=
      rowOperands (some op.sign) after e' others) ?_ ?_).trans ?_
    · intro x hx
      have hm : x.2 ∈ u ++ [z] ++ before.text := marks ▸ map_snd_marked _ ▸ List.mem_map_of_mem hx
      exact (List.mem_append.1 hm).elim (fun h => calm x.2 (hz ▸ h)) (calm_blanks before x.2)
    · rw [last, splitOperands_operator (isArithmetic_sign op) (calm z (by rw [hz]; simp)) notOpen,
        ih ho.2 (some op.sign) (some op.sign) after ho.1]
    · rw [map_fst_marked, List.append_nil]
      rfl

/-- The text of an expression falls into the row of its operands. -/
lemma operands_text (e : Tree) : operands e.text = rowOperands none .none e.first e.others := by
  have row := splitOperands_row e.isOperand_others none none .none e.isOperand_first
  rw [← e.text_eq] at row
  exact row

/-! ## Parentheses around an expression -/

namespace Tree

/-- An operand that is not in parentheses does not begin with one. -/
lemma head_text {e : Tree} (he : e.IsOperand) (notParens : ∀ b i a, e ≠ parens b i a)
    (rest : List Char) :
    (e.text ++ rest).head? ≠ some '(' := by
  have framed := e.framed
  have other : ∀ c ∈ e.text.head?, c ≠ '(' := by
    intro c hc
    cases e with
    | column q n =>
      cases q with
      | none => exact n.written.head_ne hc (by decide) rfl
      | some q =>
        rw [text, Qualifier.text, List.append_assoc,
          List.head?_append_of_ne_nil _ q.name.framed.ne_nil] at hc
        exact q.name.written.head_ne hc (by decide) rfl
    | whole d ne =>
      have digit := d.digit c (List.mem_of_mem_head? hc)
      rintro rfl
      cases digit
    | point b a ne =>
      rintro rfl
      obtain hc | hc := List.mem_append.1 (List.mem_of_mem_head? hc)
      · cases b.digit _ hc
      · obtain hc | hc := List.mem_cons.1 hc
        · cases hc
        · cases a.digit _ hc
    | all call _ _ | aggregate call _ _ =>
      rw [text, Call.text, List.append_assoc,
        List.head?_append_of_ne_nil _ call.function.framed.ne_nil] at hc
      have word := isWord_of_variant (isLetter_of_functionWords _ call.function.known)
        call.function.written c
        (List.mem_of_mem_head? hc)
      rintro rfl
      cases word
    | parens b i a => exact absurd rfl (notParens b i a)
    | binary => exact he.elim
  rw [List.head?_append_of_ne_nil _ framed.ne_nil]
  exact fun h => other _ h rfl

/-- The text of an expression loses the parentheses around it. -/
lemma peel_text (e : Tree) {n : Nat} (hn : e.text.length ≤ n) : peel n e.text = e.core.text := by
  induction e generalizing n with
  | parens before e after ih =>
    have length : e.text.length + 2 ≤ (parens before e after).text.length := by
      rw [text]
      simp only [List.length_cons, List.length_append, List.length_nil]
      omega
    obtain ⟨n, rfl⟩ : ∃ m, n = m + 1 := ⟨n - 1, by omega⟩
    have inner : Balanced (before.text ++ (e.text ++ after.text)) :=
      (balanced_blanks before).append (e.balanced.append (balanced_blanks after))
    rw [text, peel_parens n inner, trim_between before.blank after.blank e.framed.trim_eq, core]
    exact ih (by omega)
  | binary l before op after r _ _ =>
    refine peel_eq_self fun head => ?_
    -- The text may begin with a parenthesis only if its first operand is one in parentheses.
    have split := (binary l before op after r).text_eq
    have some : othersText (binary l before op after r).others ≠ [] := by
      simp [others, othersText]
    cases hf : (binary l before op after r).first with
    | parens b i a =>
      have inner : Balanced (b.text ++ (i.text ++ a.text)) :=
        (balanced_blanks b).append (i.balanced.append (balanced_blanks a))
      have framed := (binary l before op after r).framed.trim_eq
      rw [hf, text, List.cons_append, List.append_assoc, List.singleton_append] at split
      rw [split] at framed ⊢
      exact Bool.not_eq_true _ ▸ fun wrapped => some ((isWrapped_iff inner framed).1 wrapped)
    | _ =>
      have he := (binary l before op after r).isOperand_first
      rw [split] at head
      exact absurd head (head_text he (by rw [hf]; rintro _ _ _ ⟨⟩) _)
  | _ =>
    refine peel_eq_self fun head => ?_
    rw [← List.append_nil (text _)] at head
    exact absurd head (head_text (by trivial) (by rintro _ _ _ ⟨⟩) [])

end Tree

end Rulebook.Expression
