import Rulebook.Proofs.Sql.Slice
import Rulebook.Proofs.Sql.Statement
import Rulebook.Proofs.Sql.View

/-!
# Where the items of a select list stand

An item of a select list has an offset, from which its faults are placed. The item stands further on
by the blanks before it in the list, and by those inside of the parentheses around the query
(`readSchema_selects`); without such blanks its offset is that of its first character.
-/

namespace Rulebook.Sql
open Text Pattern

/-- The number of blanks before a text. -/
def leading (s : List Char) : Nat := s.length - (trimStart s).length

/-- From an offset on, a text reads like the expression of an item, and that
begins with no blank. -/
structure Projection.StandsAt (s : List Char) (offset : Nat) (item : Projection) : Prop where
  reads : item.expression.toList <+: s.drop offset
  begins : ∃ c ∈ item.expression.toList.head?, isBlank c = false

/-- What stands around a whole query before it: parentheses, and blanks inside of them. -/
structure IsOpening (opening : List Char) : Prop where
  chars : ∀ c ∈ opening, c = '(' ∨ isBlank c = true
  first : ∀ c ∈ opening.head?, c = '('

/-- Nothing may stand before a query. -/
lemma IsOpening.nil : IsOpening [] where
  chars := List.forall_mem_nil _
  first := by rintro _ ⟨⟩

/-- In a statement, the select list stands behind the head, the opening parentheses and `SELECT`. -/
structure IsSelectList (statement head opening list : List Char) (offset : Nat) : Prop where
  opens : IsOpening opening
  stands : ∃ select after, statement = head ++ (opening ++ (select ++ (list ++ after))) ∧
    offset = head.length + opening.length + select.length ∧
    ∃ more, selectHead.first? (select ++ (list ++ more)) = some ((), list ++ more)

/-- Taking off parentheses leaves what stands behind them and the blanks inside of them. -/
lemma peelParens_opening (fuel : Nat) (s : List Char) :
    ∃ opening closing, s = opening ++ ((peelParens fuel s).1 ++ closing) ∧
    IsOpening opening ∧ opening.length = (peelParens fuel s).2 + opening.countP isBlank := by
  fun_induction peelParens fuel s with
  | case1 s | case3 fuel s => exact ⟨[], [], by simp, .nil, rfl⟩
  | case2 fuel s wrapped inner n eq ih =>
    rw [Bool.and_eq_true, beq_iff_eq, beq_iff_eq] at wrapped
    obtain ⟨opens, closes⟩ := wrapped
    obtain ⟨mid, rfl⟩ : ∃ mid, s = '(' :: (mid ++ [')']) := by
      obtain ⟨before, after, hs, hk⟩ := closingParenFrom_some closes
      have last : after = [] := by
        have length := congrArg List.length hs
        rw [List.length_append, List.length_cons] at length
        exact List.eq_nil_of_length_eq_zero (by omega)
      subst last hs
      cases before with
      | nil => cases opens
      | cons c mid =>
        cases opens
        exact ⟨mid, rfl⟩
    rw [List.drop_one, List.tail_cons, List.dropLast_concat] at ih eq
    obtain ⟨opening, closing, inside, isOpening, length⟩ := ih
    obtain ⟨pre, post, hm, -, blanks, -⟩ := exists_trim mid
    rw [eq] at inside length
    refine ⟨'(' :: (pre ++ opening), closing ++ (post ++ [')']), ?_, ⟨?_, ?_⟩, ?_⟩
    · conv => lhs; rw [hm, inside]
      simp
    · intro c hc
      obtain rfl | hc := List.mem_cons.1 hc
      · exact .inl rfl
      · exact (List.mem_append.1 hc).elim (fun hc => .inr (blanks c hc)) (isOpening.chars c)
    · rintro c ⟨⟩
      rfl
    · have all : pre.countP isBlank = pre.length := List.countP_eq_length.2 blanks
      rw [List.countP_cons_of_neg (by decide), List.countP_append, all, List.length_cons,
        List.length_append, length]
      dsimp only
      omega

/-! ## Items -/

/-- The first character of a text shows. -/
lemma head?_mask (s : List Char) : (mask s).head? = s.head? := by
  cases s with
  | nil => rfl
  | cons c s =>
    rw [mask, maskFrom]
    split
    · rfl
    · split
      · rfl
      · split <;> rfl

/-- There is no gap where no blank is next. -/
lemma gap_eq_nil {s : List Char} (h : ∀ c ∈ s.head?, isBlank c = false) : gap s = [] := by
  cases s with
  | nil => rfl
  | cons c s =>
    refine bind_eq_nil ?_
    rw [one, h c rfl]
    rfl

/-- An alias stands behind an expression. -/
lemma expression_pos {s rest : List Char} {shape : AliasShape} (ne : s ≠ [])
    (h : ∀ c ∈ s.head?, isBlank c = false) (found : aliased.first? s = some (shape, rest)) :
    0 < shape.expression := by
  obtain ⟨c, s, rfl⟩ := List.exists_cons_of_ne_nil ne
  have hm := mem_of_first? found
  unfold aliased at hm
  obtain ⟨m, hm, eq⟩ := List.mem_map.1 hm
  obtain ⟨m', hm', hm⟩ := mem_bind.1 hm
  cases mem_pure.1 hm
  cases eq
  unfold Pattern.before at hm'
  split at hm'
  · rename_i f r hf
    cases List.mem_singleton.1 hm'
    have start : 0 < f.start := start_pos (bind_eq_nil (gap_eq_nil h)) hf
    show 0 < ((c :: s).take f.start).length
    rw [List.length_take, List.length_cons]
    omega
  · cases hm'

/-- The expression of an item begins where the item does. -/
lemma readProjection_expression {item : List Char} (ne : item ≠ []) (trimmed : trim item = item)
    (offset : Nat) :
    (readProjection item offset).offset = offset ∧
    (readProjection item offset).expression.toList <+: item ∧
      ∃ c ∈ (readProjection item offset).expression.toList.head?, isBlank c = false := by
  have first : ∀ c ∈ item.head?, isBlank c = false := (trim_eq_self_iff.1 trimmed).1
  obtain ⟨c, t, rfl⟩ := List.exists_cons_of_ne_nil ne
  have solid : isBlank c = false := first c rfl
  unfold readProjection
  dsimp only
  split
  · rw [String.toList_ofList]
    exact ⟨rfl, List.prefix_refl _, c, rfl, solid⟩
  · rename_i shape rest found
    have behind : 0 < shape.expression := by
      refine expression_pos (fun none => ?_) (fun d hd => first d ?_) found
      · have length := length_mask (c :: t)
        rw [none] at length
        cases length
      · rwa [head?_mask] at hd
    split
    · obtain ⟨n, hn⟩ := Nat.exists_eq_succ_of_ne_zero behind.ne'
      obtain ⟨start, head⟩ := trim_isPrefix solid (t.take n)
      rw [hn, List.take_succ_cons, String.toList_ofList, head]
      exact ⟨rfl, start.trans (List.cons_prefix_cons.2 ⟨rfl, List.take_prefix n t⟩), c, rfl, solid⟩
    · rw [String.toList_ofList]
      exact ⟨rfl, List.prefix_refl _, c, rfl, solid⟩

variable {setting : Setting} {statement : List Char} {view : View}

/-- Each piece of a select list is an item, at the offset of the piece and not of
its first character. -/
lemma readProjections_items {name : String} {base : Nat} {pieces : List Piece}
    {items : List Projection} (h : readProjections setting name base pieces = .ok items) :
    List.Forall₂ (fun p item => trim p.text ≠ [] ∧ item = readProjection (trim p.text)
      (base + p.offset)) pieces items := by
  induction pieces generalizing items with
  | nil =>
    cases h
    exact .nil
  | cons p pieces ih =>
    rw [readProjections] at h
    split at h
    · cases h
    · rename_i ne
      obtain ⟨more, hm, h⟩ := Outcome.bind_ok.1 h
      cases h
      exact .cons ⟨fun none => ne (List.isEmpty_iff.2 none), rfl⟩ (ih hm)

/-- An item of a select list stands behind the blanks of its piece. -/
lemma standsAt_of_piece {list : List Char} {p : Piece} (h : p ∈ splitTopLevel (· == ',') list)
    (ne : trim p.text ≠ []) (before after : List Char) (offset : Nat) :
    (readProjection (trim p.text) offset).StandsAt (before ++ (list ++ after))
      (before.length + p.offset + leading p.text) := by
  obtain ⟨left, right, rfl, length, -⟩ := splitTopLevel_slice rfl h
  obtain ⟨pre, post, piece, blanks, -⟩ := exists_trim p.text
  obtain ⟨-, start, begins⟩ := readProjection_expression ne (trim_trim p.text) offset
  refine ⟨start.trans ⟨post ++ (right ++ after), ?_⟩, begins⟩
  have split : before ++ (left ++ (p.text ++ right) ++ after) =
      (before ++ left ++ pre) ++ (trim p.text ++ (post ++ (right ++ after))) := by
    conv => lhs; rw [piece]
    simp
  have place : before.length + p.offset + leading p.text = (before ++ left ++ pre).length := by
    rw [List.length_append, List.length_append, length, blanks, leading]
  rw [split, place, List.drop_left]

instance : Forward selectHead := by
  unfold selectHead
  infer_instance

/-- Where the select list of a view stands in its statement, and how the offsets of its
items are counted. -/
lemma ReadsAs.selectList (h : ReadsAs setting statement view) : ∃ head opening list offset,
    IsSelectList statement head opening list offset ∧
      List.Forall₂ (fun p item => trim p.text ≠ [] ∧ ∃ base, item = readProjection (trim p.text)
        (base + p.offset) ∧
        base + opening.countP isBlank = setting.start + offset)
        (splitTopLevel (· == ',') list) view.projections := by
  obtain ⟨head, peel, rfl, selects, -, -, -, items, -⟩ := h
  rename_i written columns query select afterHead peeled first later projections origins
  obtain ⟨pre, hs⟩ := Forward.suffix (mem_of_first? head)
  obtain ⟨lead, trail, hq, length, -⟩ := exists_trim query
  obtain ⟨opening, closing, ho, isOpening, opens⟩ := peelParens_opening query.length (trim query)
  obtain ⟨word, hw⟩ := Forward.suffix (mem_of_first? selects)
  dsimp only at hs hw
  rw [peel] at ho opens
  dsimp only at ho opens
  have skipped : statement.length - query.length = pre.length := by
    rw [← hs, List.length_append, Nat.add_sub_cancel]
  have worded : select.length - afterHead.length = word.length := by
    rw [← hw, List.length_append, Nat.add_sub_cancel]
  rw [skipped, ← length, worded] at items
  -- The select list is a part of what follows `SELECT`.
  generalize hl : (select.take first.start).drop word.length = list at items
  obtain ⟨after, rfl⟩ : list <+: afterHead := by
    rw [← hl, List.drop_take, ← hw, List.drop_left]
    exact List.take_prefix _ _
  refine ⟨pre ++ lead, opening, list, (pre ++ lead).length + opening.length + word.length,
    ⟨isOpening, word, after ++ (closing ++ trail), ?_, rfl, after, hw ▸ selects⟩,
    (readProjections_items items).imp fun p item read => ⟨read.1, _, read.2, ?_⟩⟩
  · rw [← hs, hq, ho, ← hw]
    simp
  · rw [List.length_append]
    omega

/-! ## Files -/

/-- A view of a schema is read from one of the statements. -/
lemma readStatements_view {text : List Char} {source : Option String} {markers : List Marker}
    {pieces : List Piece} {schema : Schema}
    (h : readStatements text source markers pieces = .ok schema) (hv : view ∈ schema.views) :
    ∃ p ∈ pieces, ∃ domain, readView ⟨text, source, domain, p.offset + leading p.text⟩
      (trim p.text) = .ok view := by
  induction pieces generalizing schema with
  | nil =>
    cases h
    cases hv
  | cons p pieces ih =>
    rw [readStatements] at h
    split at h
    · obtain ⟨table, -, h⟩ := Outcome.bind_ok.1 h
      obtain ⟨more, hm, rfl⟩ := Outcome.map_ok.1 h
      obtain ⟨q, hq, read⟩ := ih hm hv
      exact ⟨q, .tail _ hq, read⟩
    · obtain ⟨view', read, h⟩ := Outcome.bind_ok.1 h
      obtain ⟨more, hm, rfl⟩ := Outcome.map_ok.1 h
      obtain rfl | hv := List.mem_cons.1 hv
      · exact ⟨p, .head _, _, read⟩
      · obtain ⟨q, hq, read⟩ := ih hm hv
        exact ⟨q, .tail _ hq, read⟩
    · obtain ⟨q, hq, read⟩ := ih h hv
      exact ⟨q, .tail _ hq, read⟩

/-- The items of a view stand in a text behind their offsets: by the blanks before them in the
select list, and by those inside of the parentheses around the query. -/
def View.ItemsStand (text : List Char) (view : View) : Prop :=
  ∃ before statement after head opening list offset,
    text = before ++ (statement ++ after) ∧ view.offset = before.length ∧
    IsSelectList statement head opening list offset ∧
    List.Forall₂ (fun p item => item.offset + opening.countP isBlank = view.offset
      + offset + p.offset ∧
      item.StandsAt text (item.offset + (opening.countP isBlank + leading p.text)))
      (splitTopLevel (· == ',') list) view.projections

/-- The items of the views of a schema stand behind their offsets by certain blanks. -/
lemma readSchema_itemsStand {text : List Char} {source : Option String} {schema : Schema}
    (h : readSchema text source = .ok schema) (hv : view ∈ schema.views) :
    view.text = text ∧ view.source = source ∧ view.ItemsStand (blankComments text) := by
  obtain ⟨p, hp, domain, read⟩ := readStatements_view h hv
  obtain ⟨before, after, whole, start⟩ := exists_statement hp
  obtain ⟨reads, -⟩ := readView_ok_iff.1 read
  obtain ⟨head, opening, list, offset, isList, items⟩ := reads.selectList
  have stands := isList.stands
  obtain ⟨select, behind, hs, length, -⟩ := stands
  have begins : view.offset = before.length := by
    cases reads
    exact start.symm
  refine ⟨?_, ?_, before, trim p.text, after, head, opening, list, offset, whole,
    begins, isList, ?_⟩
  · cases reads
    rfl
  · cases reads
    rfl
  · have file : blankComments text = (before ++ (head ++ (opening ++ select))) ++
        (list ++ (behind ++ after)) := by
      rw [whole, hs]
      simp
    refine ((List.forall₂_and_left _ _).2 ⟨fun q hq => hq, items⟩).imp fun q item read => ?_
    obtain ⟨hq, ne, base, rfl, counted⟩ := read
    have counted : base + opening.countP isBlank = view.offset + offset := by
      rw [begins, start]
      exact counted
    obtain ⟨own, -⟩ := readProjection_expression ne (trim_trim q.text) (base + q.offset)
    have stands := standsAt_of_piece hq ne (before ++ (head ++ (opening ++ select))) (behind ++
      after) (base + q.offset)
    have place : (before ++ (head ++ (opening ++ select))).length + q.offset + leading q.text =
        base + q.offset + (opening.countP isBlank + leading q.text) := by
      simp only [List.length_append]
      omega
    rw [file, own, ← place]
    refine ⟨?_, stands⟩
    omega

end Rulebook.Sql
