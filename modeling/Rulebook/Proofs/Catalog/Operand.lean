import Mathlib.Data.Bool.AllAny
import Rulebook.Proofs.Sql.Identifier
import Rulebook.Catalog.Expression

/-!
# Operands

How the text of an expression falls apart. Parentheses around the whole text are taken off, and only
those (`peel_parens`, `peel_eq_self`). A text whose mask shows no operator stays one operand, and an
operator behind one ends it (`splitOperands_segment`, `splitOperands_operator`). An aggregate is
read with its argument (`first?_aggregate`).
-/

namespace Rulebook.Expression
open Sql Text Pattern

variable {s t inner rest : List Char}

/-! ## Parentheses around a text -/

/-- Blanks only move the closing parenthesis on. -/
lemma firstClosing_blanks (pos : Nat) (depth : Int) (n : Nat) (t : List Char) :
    firstClosing pos depth (List.replicate n ' ' ++ t) = firstClosing (pos + n) depth t := by
  induction n generalizing pos with
  | zero => rfl
  | succ n ih =>
    rw [List.replicate_succ, List.cons_append, firstClosing, if_neg (by decide),
      if_neg (by decide), ih, Nat.add_assoc, Nat.add_comm 1]

/-- The first parenthesis closes behind the balanced text that it opens. -/
lemma firstClosing_mask (hi : Balanced inner) :
    firstClosing 0 0 (mask ('(' :: (inner ++ ')' :: rest))) = some (inner.length + 1) := by
  rw [hi.mask_parens, firstClosing, if_pos (by decide), firstClosing_blanks, firstClosing,
    if_neg (by decide), if_pos (by decide), if_pos (by decide)]
  exact congrArg some (by omega)

/-- A trimmed text is wrapped by its first parenthesis if nothing stands behind the
one that closes it. -/
lemma isWrapped_iff (hi : Balanced inner)
    (trimmed : trim ('(' :: (inner ++ ')' :: rest)) = '(' :: (inner ++ ')' :: rest)) :
    isWrapped ('(' :: (inner ++ ')' :: rest)) = true ↔ rest = [] := by
  have stop := trimEnd_eq_self_iff.2 (trim_eq_self_iff.1 trimmed).2
  rw [isWrapped, stop, firstClosing_mask hi]
  simp only [List.isEmpty_cons, Bool.not_false, Bool.and_true, beq_iff_eq,
    Option.some.injEq, List.length_cons, List.length_append]
  constructor
  · intro h
    exact List.eq_nil_of_length_eq_zero (by omega)
  · rintro rfl
    rw [List.length_nil]
    omega

/-- What begins with no parenthesis, or is not wrapped by it, is left as it is. -/
lemma peel_eq_self {n : Nat} (h : s.head? = some '(' → isWrapped s = false) : peel n s = s := by
  cases n with
  | zero => rfl
  | succ n =>
    rw [peel, if_neg]
    rw [Bool.and_eq_true, beq_iff_eq, not_and, Bool.not_eq_true]
    exact h

/-- A balanced text loses the parentheses around it, and the blanks within them. -/
lemma peel_parens (n : Nat) (hi : Balanced inner) :
    peel (n + 1) ('(' :: (inner ++ [')'])) = peel n (trim inner) := by
  have trimmed : trim ('(' :: (inner ++ [')'])) = '(' :: (inner ++ [')']) := by
    rw [trim_eq_self_iff, ← List.cons_append, List.getLast?_concat]
    refine ⟨?_, ?_⟩ <;> rintro _ ⟨⟩ <;> rfl
  have wrapped : isWrapped ('(' :: (inner ++ [')'])) = true := (isWrapped_iff hi trimmed).2 rfl
  rw [peel, wrapped, if_pos (by simp), List.drop_one, List.tail_cons, List.dropLast_concat]

/-! ## Splitting at operators -/

/-- The last mark that is no blank, after some more marks. -/
def lastMark (previous : Option Char) (marks : List Char) : Option Char :=
  marks.foldl (fun p m => if isBlank m then p else some m) previous

/-- A mark that is no blank is the last one behind any others. -/
lemma lastMark_concat {previous : Option Char} {marks : List Char} {m : Char}
    (h : isBlank m = false) :
    lastMark previous (marks ++ [m]) = some m := by
  rw [lastMark, List.foldl_append, List.foldl_cons, List.foldl_nil, if_neg (by simp [h])]

/-- The last mark of two texts is found in one after the other. -/
lemma lastMark_append (previous : Option Char) (a b : List Char) :
    lastMark previous (a ++ b) = lastMark (lastMark previous a) b := List.foldl_append

/-- Blanks leave the last mark as it was. -/
lemma lastMark_blanks {previous : Option Char} {marks : List Char}
    (h : ∀ m ∈ marks, isBlank m = true) :
    lastMark previous marks = previous := by
  induction marks with
  | nil => rfl
  | cons m marks ih =>
    rw [List.forall_mem_cons] at h
    rw [lastMark, List.foldl_cons, if_pos h.1, ← lastMark, ih h.2]

/-- A text without operators goes to the operand that it stands in. -/
lemma splitOperands_segment {operator previous : Option Char} {segment more : List (Char × Char)}
    {o : Operand} {l : List Operand} (calm : ∀ x ∈ segment, isArithmetic x.2 = false)
    (h : splitOperands operator (lastMark previous (segment.map (·.2))) more = o :: l) :
    splitOperands operator previous (segment ++ more) =
    { o with text := segment.map (·.1) ++ o.text } :: l := by
  induction segment generalizing previous with
  | nil => exact h
  | cons x segment ih =>
    obtain ⟨c, m⟩ := x
    rw [List.forall_mem_cons] at calm
    have further := ih calm.2 h
    rw [List.cons_append, splitOperands, calm.1, Bool.false_and, if_neg Bool.false_ne_true, further]
    rfl

/-- An operator with an operand before it ends the operand. -/
lemma splitOperands_operator {operator : Option Char} {c m p : Char} {more : List (Char × Char)}
    (hm : isArithmetic m = true) (hp : isArithmetic p = false) (open' : p ≠ '(') :
    splitOperands operator (some p) ((c, m) :: more) = ⟨operator, []⟩ :: splitOperands (some m)
    (some m) more := by
  rw [splitOperands, hm, Option.any_some, hp, beq_false_of_ne open']
  rfl

/-! ## Qualified names -/

/-- There is no point where neither a blank nor a point is next. -/
lemma point_eq_nil (h : ∀ c ∈ s.head?, isBlank c = false ∧ c ≠ '.') : point s = [] := by
  refine eq_nil_of_forall fun m hm => ?_
  obtain ⟨⟨b, r⟩, hb, hm⟩ := mem_bind.1 hm
  obtain ⟨⟨c, r'⟩, hp, -⟩ := mem_bind.1 hm
  obtain ⟨rfl, blank, -⟩ := of_mem_run hb
  obtain ⟨-, rfl⟩ := mem_char.1 hp
  cases b with
  | nil => exact (h '.' rfl).2 rfl
  | cons d b =>
    have other := (h d rfl).1
    rw [blank d (.head _)] at other
    cases other

/-- A point with blanks around it ends before what is no blank. -/
lemma first?_point {before after r : List Char} (hb : ∀ c ∈ before, isBlank c = true)
    (ha : ∀ c ∈ after, isBlank c = true) (hr : ∀ c ∈ r.head?, isBlank c = false) :
    first? point (before ++ '.' :: (after ++ r)) = some (before ++ '.' :: after, r) := by
  refine first?_bind (first?_run hb ?_)
    (first?_bind (first?_char '.') (first?_bind (first?_run ha hr) rfl))
  rintro _ ⟨⟩
  rfl

/-- Blanks and what is no identifier after them do not continue one. -/
lemma not_continues_of_blanks {b r : List Char} (hb : ∀ c ∈ b, isBlank c = true)
    (hr : ∀ c ∈ r.head?, continuesIdentifier c = false) :
    ∀ c ∈ (b ++ r).head?, continuesIdentifier c = false := by
  cases b with
  | nil => exact hr
  | cons c b =>
    rintro _ ⟨⟩
    by_contra continues
    have other := not_isBlank_of_continues (Bool.not_eq_false _ ▸ continues)
    rw [hb c (.head _)] at other
    cases other

variable {r : List Char}

/-- An identifier is read without a qualifier if no point with another one stands behind it. -/
lemma first?_qualified_bare (ht : IsIdentifier t) (hr : Closes t r)
    (alone : ∀ m ∈ point r, identifier false m.2 = []) :
    first? (qualified (identifier false)) (t ++ r) = some ((none, t), r) := by
  refine first?_bind_optional (fun m hm => ?_) (first?_bind (first?_identifier ht hr) rfl)
  obtain ⟨taken, ht', hm⟩ := mem_bind.1 hm
  obtain ⟨dot, hd, hm⟩ := mem_bind.1 hm
  cases mem_pure.1 hm
  obtain rfl | ⟨c, s, hs, continues⟩ := mem_identifier_whole ht hr ht'
  · exact bind_eq_nil (alone dot hd)
  · -- Behind a part of a word the word goes on, without a point.
    have nothing : point taken.2 = [] := by
      rw [hs]
      refine point_eq_nil ?_
      rintro _ ⟨⟩
      exact ⟨not_isBlank_of_continues continues, ne_of_continues continues rfl⟩
    rw [nothing] at hd
    cases hd

/-- An identifier behind another one and a point is read as qualified by it. -/
lemma first?_qualified {q before after : List Char} (hq : IsIdentifier q) (ht : IsIdentifier t)
    (hb : ∀ c ∈ before, isBlank c = true) (ha : ∀ c ∈ after, isBlank c = true) (hr : Closes t r) :
    first? (qualified (identifier false)) (q ++ (before ++ '.' :: (after ++ (t ++ r)))) =
    some ((some q, t), r) := by
  have head : ∀ c ∈ (t ++ r).head?, isBlank c = false := by
    rw [List.head?_append_of_ne_nil _ ht.ne_nil]
    exact (trim_eq_self_iff.1 ht.trim_eq).1
  have stop : Closes q (before ++ '.' :: (after ++ (t ++ r))) :=
    fun _ => not_continues_of_blanks hb (by rintro _ ⟨⟩; rfl)
  exact first?_bind
    (first?_optional (first?_bind (first?_identifier hq stop)
      (first?_bind (first?_point hb ha head) rfl)))
    (first?_bind (first?_identifier ht hr) rfl)

/-! ## Calls -/

/-- The keywords of aggregate functions. -/
def functionWords : List String := ["count", "sum", "avg", "min", "max"]

/-- The name of an aggregate function, as it is written. -/
structure Function where
  word : String
  known : word ∈ functionWords
  text : List Char
  written : Variant word.toList text

/-- The word `DISTINCT`, as it is written, with the gap behind it. -/
structure Distinct where
  word : List Char
  written : Variant "distinct".toList word
  gap : List Char
  ne_nil : gap ≠ []
  blank : ∀ c ∈ gap, isBlank c = true

/-- A text of blanks. -/
structure Blanks where
  text : List Char
  blank : ∀ c ∈ text, isBlank c = true

/-- No blanks. -/
def Blanks.none : Blanks := ⟨[], List.forall_mem_nil _⟩

/-- An aggregate function up to its argument. -/
structure Call where
  function : Function
  gap : Blanks
  before : Blanks
  distinct : Option Distinct

/-- What stands in front of an argument behind the parenthesis. -/
def Call.inside (c : Call) : List Char :=
  c.before.text ++ match c.distinct with
    | some d => d.word ++ d.gap
    | none => []

/-- The function as it is written up to its argument. -/
def Call.text (c : Call) : List Char := c.function.text ++ (c.gap.text ++ '(' :: c.inside)

/-- `DISTINCT` and a gap. -/
def distinctWord : Pattern (List Char) := do
  Pattern.kw "distinct"
  Pattern.gap

/-- The keywords of aggregate functions are letters. -/
lemma isLetter_of_functionWords : ∀ w ∈ functionWords, ∀ l ∈ w.toList, IsLetter l := by
  have letters : ∀ w ∈ functionWords, w.toList.all (IsLetter ·) = true := by decide
  exact fun w hw => List.all_iff_forall_prop.1 (letters w hw)

/-- The word `DISTINCT` is letters. -/
lemma isLetter_distinct : ∀ l ∈ "distinct".toList, IsLetter l :=
  List.all_iff_forall_prop.1 (by decide)

/-- What is a word of letters up to case has characters of words only. -/
lemma isWord_of_variant {w t : List Char} (hw : ∀ l ∈ w, IsLetter l) (h : Variant w t) :
    ∀ c ∈ t, isWord c = true := by
  induction h with
  | nil => exact List.forall_mem_nil _
  | cons same _ ih =>
    rw [List.forall_mem_cons] at hw
    exact List.forall_mem_cons.2 ⟨isWord_of_sameLetter hw.1 same, ih hw.2⟩

/-- A text that is one keyword up to case is no other one. -/
lemma keyword_of_variant {w w' t r : List Char} (h : Variant w t) (hw : ∀ l ∈ w, IsLetter l)
    (hw' : ∀ l ∈ w', IsLetter l) (differ : (w'.zip w).any (fun x => x.1 != x.2) = true) :
    keyword w' (t ++ r) = [] := by
  refine keyword_eq_nil ?_
  induction h generalizing w' with
  | nil => simp at differ
  | @cons l c w t same _ ih =>
    rw [List.forall_mem_cons] at hw
    cases w' with
    | nil => cases differ
    | cons l' w' =>
      rw [List.forall_mem_cons] at hw'
      rw [List.zip_cons_cons, List.any_cons, Bool.or_eq_true, bne_iff_ne] at differ
      rw [List.zip_cons_cons, List.any_cons, Bool.or_eq_true, Bool.not_eq_true']
      obtain ne | differ := differ
      · left
        by_contra same'
        exact ne (sameLetter_unique hw'.1 hw.1 (Bool.not_eq_false _ ▸ same') same)
      · exact .inr (ih hw.2 hw'.2 differ)

/-- The names of aggregate functions. -/
def functionName : Pattern Unit := anyOf [kw "count", kw "sum", kw "avg", kw "min", kw "max"]

/-- The name of a function is read as it is written. -/
lemma first?_functionName (f : Function) (r : List Char) :
    first? functionName (f.text ++ r) = some ((), r) := by
  obtain ⟨word, known, text, written⟩ := f
  have letters := isLetter_of_functionWords word known
  have whole : first? (kw word) (text ++ r) = some ((), r) := first?_variant written
  have other (w : String) (hw : w ∈ functionWords)
      (differ : (w.toList.zip word.toList).any (fun x => x.1 != x.2) = true) :
      kw w (text ++ r) = [] :=
      keyword_of_variant written letters (isLetter_of_functionWords w hw) differ
  have five : word = "count" ∨ word = "sum" ∨ word = "avg" ∨ word = "min" ∨ word = "max" := by
    simpa [functionWords] using known
  obtain rfl | rfl | rfl | rfl | rfl := five
  · exact first?_anyOf [] whole (List.forall_mem_nil _)
  · refine first?_anyOf [kw "count"] whole ?_
    simp [other "count" (by decide) (by decide)]
  · refine first?_anyOf [kw "count", kw "sum"] whole ?_
    simp [other "count" (by decide) (by decide), other "sum" (by decide) (by decide)]
  · refine first?_anyOf [kw "count", kw "sum", kw "avg"] whole ?_
    simp [other "count" (by decide) (by decide), other "sum" (by decide) (by decide),
      other "avg" (by decide) (by decide)]
  · refine first?_anyOf [kw "count", kw "sum", kw "avg", kw "min"] whole ?_
    simp [other "count" (by decide) (by decide), other "sum" (by decide) (by decide),
      other "avg" (by decide) (by decide), other "min" (by decide) (by decide)]

/-- The end of a call. -/
def closeCall : Pattern Unit := do
  let _ ← Pattern.blanks
  let _ ← Pattern.char ')'
  Pattern.atEnd

/-- An argument goes on up to the last parenthesis, and the blanks before it are not part of it. -/
lemma before_closeCall {arg after : List Char} (trimmed : trim arg = arg)
    (blank : ∀ c ∈ after, isBlank c = true) :
    before closeCall (arg ++ (after ++ [')'])) = [((arg, ()), [])] := by
  have close : first? closeCall (after ++ [')']) = some ((), []) := by
    refine first?_bind (first?_run blank ?_) (first?_bind (first?_char ')') rfl)
    rintro _ ⟨⟩
    rfl
  have none : ∀ u v, arg = u ++ v → v ≠ [] → closeCall (v ++ (after ++ [')'])) = [] := by
    intro u v harg ne
    -- The last character of the argument is no blank, so a parenthesis before it is not
    -- followed by the end.
    refine eq_nil_of_forall fun m hm => ?_
    obtain ⟨⟨b, x⟩, hb, hm⟩ := mem_bind.1 hm
    obtain ⟨⟨_, y⟩, hp, hm⟩ := mem_bind.1 hm
    obtain ⟨split, blanks, -⟩ := of_mem_run hb
    obtain ⟨rfl, hx⟩ := mem_char.1 hp
    dsimp only at split blanks hx hm
    rw [hx, ← List.append_assoc] at split
    obtain ⟨-, rfl | rfl⟩ := of_mem_atEnd hm
    · have front : v ++ after = b := (List.append_inj_left' split rfl)
      obtain ⟨z, hz⟩ : ∃ z, v.getLast? = some z := ⟨_, List.getLast?_eq_some_getLast ne⟩
      have last := (trim_eq_self_iff.1 trimmed).2 z (by rw [harg, List.getLast?_append, hz]; rfl)
      rw [blanks z (front ▸ List.mem_append_left _ (List.mem_of_getLast? hz))] at last
      cases last
    · have ends := congrArg List.getLast? split
      rw [List.getLast?_concat] at ends
      simp at ends
  have found : searchFrom closeCall .anywhere Option.none (0 + arg.length) (after ++ [')']) =
      some (⟨(), 0 + arg.length, 0 + arg.length + ((after ++ [')']).length - 0)⟩, []) :=
    searchFrom_hit (m := ((), [])) close
  rw [before, searchFrom_skip none Option.none Option.none 0, found]
  simp

/-- The argument of a call behind its name. -/
def callArgument : Pattern (List Char) := do
  let _ ← Pattern.blanks
  let _ ← Pattern.char '('
  let _ ← Pattern.blanks
  let _ ← Pattern.optional distinctWord
  let (inner, _) ← Pattern.before closeCall
  pure inner

/-- A call of a function in a text, read behind its name. -/
def readCall (s : List Char) : Pattern (List Char × List Char) := fun a =>
  (callArgument a).map fun (inner, rest) => ((s.take (s.length - a.length), inner), rest)

/-- An aggregate is the name of a function and a call of it. -/
lemma aggregate_eq (s : List Char) : aggregate s = (functionName >>= fun _ => readCall s) s := rfl

/-- A call is read with the argument behind its name. -/
lemma first?_readCall {a : List Char} {m : List Char × List Char}
    (h : first? callArgument a = some m) :
    first? (readCall s) a = some ((s.take (s.length - a.length), m.1), m.2) := by
  rw [first?, readCall, List.head?_map]
  exact congrArg _ h

/-- What stands in front of an argument does not begin with a blank. -/
lemma Call.inside_blanks (c : Call) {s : List Char} (hs : ∀ x ∈ s.head?, isBlank x = false) :
    ∃ t, c.inside ++ s = c.before.text ++ t ∧ ∀ x ∈ t.head?, isBlank x = false := by
  unfold Call.inside
  cases c.distinct with
  | none => exact ⟨s, by simp, hs⟩
  | some d =>
    refine ⟨d.word ++ d.gap ++ s, by simp, ?_⟩
    cases hw : d.word with
    | nil =>
      have written := d.written
      rw [hw] at written
      cases written
    | cons x word =>
      rintro _ ⟨⟩
      have word := isWord_of_variant isLetter_distinct d.written x (by simp [hw])
      by_contra blank
      rw [not_isWord_of_isBlank (Bool.not_eq_false _ ▸ blank)] at word
      cases word

/-- A call with a trimmed argument is read as the function and its argument. -/
lemma first?_aggregate (c : Call) {arg after : List Char} (trimmed : trim arg = arg) (ne : arg ≠ [])
    (blank : ∀ x ∈ after, isBlank x = true) (free : distinctWord (arg ++ (after ++ [')'])) = []) :
    first? aggregate (c.text ++ (arg ++ (after ++ [')']))) = some ((c.function.text, arg), []) := by
  have start : ∀ x ∈ (arg ++ (after ++ [')'])).head?, isBlank x = false := by
    obtain ⟨a, arg, rfl⟩ := List.exists_cons_of_ne_nil ne
    exact (trim_eq_self_iff.1 trimmed).1
  obtain ⟨t, inside, ht⟩ := c.inside_blanks start
  have optional : first? (optional distinctWord) t =
      some (c.distinct.map (·.gap), arg ++ (after ++ [')'])) := by
    unfold Call.inside at inside
    rw [List.append_assoc, List.append_cancel_left_eq] at inside
    rw [← inside]
    cases c.distinct with
    | none => exact first?_optional_none free
    | some d =>
      have gap : first? gap (d.gap ++ (arg ++ (after ++ [')']))) =
          some (d.gap, arg ++ (after ++ [')'])) :=
        first?_run1 d.ne_nil d.blank start
      refine first?_optional (first?_bind (a := ()) (r :=
        d.gap ++ (arg ++ (after ++ [')']))) ?_ gap)
      rw [List.append_assoc]
      exact first?_variant d.written
  have argument : first? callArgument (c.gap.text ++ '(' :: (c.before.text ++ t)) =
      some (arg, []) := by
    refine first?_bind (first?_run c.gap.blank ?_) (first?_bind (first?_char '(')
      (first?_bind (first?_run c.before.blank ht)
        (first?_bind optional (first?_bind (a := (arg, ())) (r := []) ?_ rfl))))
    · rintro _ ⟨⟩
      rfl
    · rw [first?, before_closeCall trimmed blank]
      rfl
  have text : c.text ++ (arg ++ (after ++ [')'])) = c.function.text ++
      (c.gap.text ++ '(' :: (c.before.text ++ t)) := by
    rw [← inside]
    simp [Call.text]
  rw [text]
  have name := first?_functionName c.function (c.gap.text ++ '(' :: (c.before.text ++ t))
  refine (first?_bind (f := fun _ => readCall _) name (first?_readCall argument)).trans ?_
  simp

/-- A text in which an opening parenthesis may follow a name: the first character that is neither of
a name nor a blank is one. -/
def Calls (s : List Char) : Prop :=
  (s.dropWhile fun c => continuesIdentifier c || isBlank c).head? = some '('

/-- A parenthesis behind a name may open a call. -/
lemma calls_of_eq {u v : List Char} (h : ∀ c ∈ u, (continuesIdentifier c || isBlank c) = true) :
    Calls (u ++ '(' :: v) := by
  unfold Calls
  rw [List.dropWhile_append_of_pos h, List.dropWhile_cons_of_neg (by decide)]
  rfl

/-- A name and blanks are passed over to a parenthesis. -/
lemma continues_or_blank {a b : List Char} (ha : ∀ c ∈ a, isWord c = true)
    (hb : ∀ c ∈ b, isBlank c = true) :
    ∀ c ∈ a ++ b, (continuesIdentifier c || isBlank c) = true := by
  intro c hc
  obtain hc | hc := List.mem_append.1 hc
  · simp [continuesIdentifier, ha c hc]
  · simp [hb c hc]

/-- Where no parenthesis may follow a name, there is no aggregate. -/
lemma aggregate_eq_nil (h : ¬ Calls s) : aggregate s = [] := by
  refine eq_nil_of_forall fun m hm => h ?_
  rw [aggregate_eq] at hm
  obtain ⟨⟨_, a⟩, hn, hm⟩ := mem_bind.1 hm
  obtain ⟨n, hn', -⟩ := List.mem_map.1 hm
  obtain ⟨⟨b, x⟩, hb, hn'⟩ := mem_bind.1 hn'
  obtain ⟨⟨_, y⟩, hp, -⟩ := mem_bind.1 hn'
  obtain ⟨w, hw, name⟩ := mem_anyOf.1 hn
  obtain ⟨word, hword, rfl⟩ : ∃ word ∈ functionWords, w = kw word := by
    simpa [functionWords, eq_comm] using hw
  obtain ⟨t, rfl, written⟩ := of_mem_keyword name
  obtain ⟨eq, blank, -⟩ := of_mem_run hb
  obtain ⟨rfl, hx⟩ := mem_char.1 hp
  dsimp only at eq blank hx
  rw [eq, hx, ← List.append_assoc]
  exact calls_of_eq (continues_or_blank (isWord_of_variant (isLetter_of_functionWords word hword)
    written) blank)

/-- Where no parenthesis may follow a name, no function is called. -/
lemma call_eq_nil (h : ¬ Calls s) : call s = [] := by
  refine eq_nil_of_forall fun m hm => h ?_
  obtain ⟨⟨c, t⟩, hc, hm⟩ := mem_bind.1 hm
  obtain ⟨⟨cs, u⟩, hcs, hm⟩ := mem_bind.1 hm
  obtain ⟨⟨b, x⟩, hb, hm⟩ := mem_bind.1 hm
  obtain ⟨⟨_, y⟩, hp, -⟩ := mem_bind.1 hm
  obtain ⟨rfl, begins⟩ := mem_one.1 hc
  obtain ⟨rfl, word, -⟩ := of_mem_run hcs
  obtain ⟨rfl, blank, -⟩ := of_mem_run hb
  obtain ⟨rfl, rfl⟩ := mem_char.1 hp
  dsimp only at begins word blank ⊢
  have all := continues_or_blank word blank
  rw [← List.append_assoc, ← List.cons_append]
  refine calls_of_eq (List.forall_mem_cons.2 ⟨?_, all⟩)
  rw [continues_of_begins begins]
  rfl

end Rulebook.Expression
