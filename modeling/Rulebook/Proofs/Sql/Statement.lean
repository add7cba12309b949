import Rulebook.Proofs.Outcome
import Rulebook.Proofs.Sql.Identifier
import Rulebook.Proofs.Sql.Scan
import Rulebook.Proofs.Sql.View
import Rulebook.Proofs.Text.Blank

/-!
# Statements in another place

A statement is read in a setting: the file, the domain and the offset at which it begins. In another
setting (`Setting.Moved`) the same table or view is read, but for offset, line, source and domain
(`readTable_moved`, `readView_moved`), or reading fails in the same way, but for the place. So it is
when other text comes before the statement (`Lead`), so that every offset of it lies further on
(`readTable_after`, `readView_after`).

All places that reading may name lie within the statement, so nothing is asked of the
file outside of it.
-/

namespace Rulebook
open Text Pattern

/-- What a text does to statements after it: its characters, its line feeds, and the domain
of its last marker. -/
structure Lead where
  chars : Nat := 0
  lines : Nat := 0
  domain : Option String := none

variable (l : Lead)

/-- The place after such a text. -/
def Place.after (p : Place) : Place :=
  { p with line := p.line.map (· + l.lines), offset := p.offset.map (· + l.chars) }

/-- The failure of what comes after such a text. -/
def Failure.after : Failure → Failure
  | .diagnostic d => .diagnostic { d with place := d.place.after l }
  | e => e

/-- The failure, told of another place. -/
def Failure.replace (f : Place → Place) : Failure → Failure
  | .diagnostic d => .diagnostic { d with place := f d.place }
  | e => e

/-- A failure after a text has its place after the text. -/
lemma Failure.after_eq : Failure.after l = Failure.replace (Place.after l) := by
  funext e
  cases e <;> rfl

/-- A failure whose place stays is the same. -/
lemma Failure.replace_id : Failure.replace id = id := by
  funext e
  cases e <;> rfl

/-- After nothing, a place is the same. -/
lemma Place.after_nothing (p : Place) : p.after {} = p := by simp [Place.after]

/-- After nothing, a failure is the same. -/
lemma Failure.after_nothing : Failure.after {} = id := by
  funext e
  cases e <;> simp [Failure.after, Place.after_nothing]

/-- A rejection at another place is the rejection with its place changed. -/
lemma reject_replace {α : Type} (f : Place → Place) (cause : Cause) (place : Place)
    (rule : Option String) (g : α → α) :
    reject cause (f place) rule = (reject cause place rule).translate (Failure.replace f) g := rfl

namespace Sql

/-- The table, read in another setting. -/
def Table.moved (s' : Setting) (t : Table) : Table :=
  { t with domain := s'.domain, source := s'.source, line := lineAt s'.text s'.start }

/-- The item of a select list, read so many characters further on. -/
def Projection.shift (k : Nat) (p : Projection) : Projection := { p with offset := p.offset + k }

/-- The view, read in another setting, so many characters further on. -/
def View.moved (k : Nat) (s' : Setting) (v : View) : View :=
  { v with
    domain := s'.domain
    projections := v.projections.map (Projection.shift k)
    source := s'.source
    text := s'.text
    offset := s'.start
    line := lineAt s'.text s'.start }

/-- The table, read after such a text. -/
def Table.after (t : Table) : Table :=
  { t with domain := t.domain.or l.domain, line := t.line + l.lines }

/-- The item of a select list, read after such a text. -/
def Projection.after (p : Projection) : Projection := { p with offset := p.offset + l.chars }

/-- The view, read after such a text in a file of the given text. -/
def View.after (text : List Char) (v : View) : View :=
  { v with
    domain := v.domain.or l.domain
    projections := v.projections.map (Projection.after l)
    text
    offset := v.offset + l.chars
    line := v.line + l.lines }

/-- After nothing, a table is the same. -/
lemma Table.after_nothing : Table.after {} = id := by
  funext t
  simp [Table.after]

/-- After nothing, only the text of a view is that of the file. -/
lemma View.after_nothing (text : List Char) : View.after {} text = fun v => { v with text } := by
  funext v
  have items : v.projections.map (Projection.after {}) = v.projections :=
    List.map_id'' (fun _ => rfl) _
  simp [View.after, items]

/-- The second setting is the first one so many characters further on; for all offsets up to a bound
the function tells what becomes of their places. -/
structure Setting.Moved (f : Place → Place) (k bound : Nat) (s s' : Setting) : Prop where
  start_eq : s'.start = s.start + k
  place_eq : ∀ offset ≤ bound,
    Place.atOffset s'.text (offset + k) s'.source = f (Place.atOffset s.text offset s.source)

variable {f : Place → Place} {k bound : Nat} {s s' : Setting}

/-! ## Tables -/

/-- A size that cannot be read has no place to change. -/
lemma replace_of_readSize {size : List Char} {e : Failure} (h : readSize size = .error e) :
    e.replace f = e := by
  unfold readSize at h
  split at h
  · split at h
    · cases h
    · cases h
      rfl
  · cases h

/-- Sizes that cannot be read have no place to change. -/
lemma replace_of_readSizes {arguments : List Char} {e : Failure}
    (h : readSizes arguments = .error e) :
    e.replace f = e := by
  unfold readSizes at h
  split at h
  · cases h
  · obtain h | ⟨precision, -, h⟩ := Outcome.bind_error.1 h
    · exact replace_of_readSize h
    · split at h
      · obtain h | ⟨scale, -, h⟩ := Outcome.bind_error.1 h
        · exact replace_of_readSize h
        · cases h
      · cases h

/-- A column is read alike in a statement that has moved. -/
lemma readColumn_moved (h : s.Moved f k bound s') (table : String) (text : List Char) {offset : Nat}
    (ho : offset ≤ bound) :
    readColumn s' table text (offset + k) =
    (readColumn s table text offset).translate (Failure.replace f) id := by
  unfold readColumn
  dsimp only
  rw [h.place_eq offset ho]
  split
  · rfl
  · split
    · rfl
    · split
      · rfl
      · -- From here on only the sizes can be wrong, which no place is given for.
        refine (Outcome.translate_id fun e he => ?_).symm
        split at he
        · split at he
          · cases he
          · obtain he | ⟨_, _, he⟩ := Outcome.bind_error.1 he
            · exact replace_of_readSizes he
            · cases he
        · cases he

/-- The items of a table are read alike in a statement that has moved. -/
lemma readItems_moved (h : s.Moved f k bound s') (table : String) (base : Nat) {pieces : List Piece}
    (hp : ∀ p ∈ pieces, base + p.offset + p.text.length ≤ bound) :
    readItems s' table (base + k) pieces =
      (readItems s table base pieces).translate (Failure.replace f) id := by
  induction pieces with
  | nil => rfl
  | cons p rest ih =>
    obtain ⟨hp, hrest⟩ := List.forall_mem_cons.1 hp
    have offset : base + k + p.offset + (p.text.length - (trimStart p.text).length) =
        base + p.offset + (p.text.length - (trimStart p.text).length) + k := by omega
    have within : base + p.offset + (p.text.length - (trimStart p.text).length) ≤ bound := by omega
    unfold readItems
    dsimp only
    rw [offset]
    split
    · rw [h.place_eq _ within]
      rfl
    · split
      · exact Outcome.bind_translate (ih hrest) fun items _ => rfl
      · refine Outcome.bind_translate (readColumn_moved h table _ within) fun column _ => ?_
        exact Outcome.bind_translate (ih hrest) fun items _ => rfl

/-- Keys are numbered alike if the failures for undeclared ones only change their places. -/
lemma numberKeys_moved {u u' : String → Outcome (List Column)}
    (h : ∀ key, u' key = (u key).translate (Failure.replace f) id) (position : Nat)
    (columns : List Column) (keys : List String) :
    numberKeys u' position columns keys =
    (numberKeys u position columns keys).translate (Failure.replace f) id := by
  fun_induction numberKeys u position columns keys with
  | case1 => rfl
  | case2 position columns key keys none => simp only [numberKeys, none, h]
  | case3 position columns key keys c found isKey ih =>
    simp only [numberKeys, found, isKey, if_true, ih]
  | case4 position columns key keys c found isKey ih =>
    simp only [numberKeys, found, isKey, ih]; rfl

instance : Forward temporary := by
  unfold temporary
  infer_instance

instance : Forward ifNotExists := by
  unfold ifNotExists
  infer_instance

instance : Forward tableHead := by
  unfold tableHead
  infer_instance

/-- The head of a table statement takes at least one character. -/
lemma strict_tableHead : tableHead.Strict := by
  unfold tableHead
  exact strict_keyword.bind

/-- A table statement is read in another place as in its own. -/
lemma readTable_moved (h : s.Moved f k bound s') {statement : List Char}
    (hs : s.start + statement.length ≤ bound) :
    readTable s' statement = (readTable s statement).translate (Failure.replace f)
    (Table.moved s') := by
  have start : s.start ≤ bound := by omega
  unfold readTable
  dsimp only
  rw [h.start_eq, h.place_eq _ start]
  cases hh : tableHead.first? statement with
  | none => rfl
  | some head =>
    obtain ⟨written, inside⟩ := head
    have shorter : inside.length < statement.length := strict_tableHead _ _ (mem_of_first? hh)
    dsimp only
    cases hc : closingParen? ('(' :: inside) with
    | none =>
      dsimp only
      rw [Nat.add_right_comm, h.place_eq _ (by omega)]
      rfl
    | some closing =>
      have base : s.start + k + (statement.length - inside.length - 1) + 1 =
          s.start + (statement.length - inside.length - 1) + 1 + k := by omega
      dsimp only
      rw [base]
      refine Outcome.bind_translate (readItems_moved h _ _ fun p hp => ?_) fun items _ => ?_
      · have within := splitTopLevel_le hp
        rw [List.length_take] at within
        omega
      · dsimp only [id]
        split
        · rfl
        · refine Outcome.bind_translate (numberKeys_moved (fun key => reject_replace ..) _ _ _)
            fun columns _ => ?_
          simp only [Outcome.translate_ok, Table.moved, id, h.start_eq]

/-! ## Views -/

/-- An item of a select list moves with its statement. -/
lemma readProjection_moved (item : List Char) (offset : Nat) :
    readProjection item (offset + k) = (readProjection item offset).shift k := by
  unfold readProjection
  dsimp only
  split
  · rfl
  · split <;> rfl

/-- A select list is read alike in a statement that has moved. -/
lemma readProjections_moved (h : s.Moved f k bound s') (view : String) (base : Nat)
    {pieces : List Piece} (hp : ∀ p ∈ pieces, base + p.offset + p.text.length ≤ bound) :
    readProjections s' view (base + k) pieces =
      (readProjections s view base pieces).translate (Failure.replace f)
      (List.map (Projection.shift k)) := by
  induction pieces with
  | nil => rfl
  | cons p rest ih =>
    obtain ⟨hp, hrest⟩ := List.forall_mem_cons.1 hp
    unfold readProjections
    dsimp only
    rw [Nat.add_right_comm]
    split
    · rw [h.place_eq _ (by omega)]
      rfl
    · refine Outcome.bind_translate (ih hrest) fun more _ => ?_
      rw [readProjection_moved]
      rfl

/-- A relation is read alike in a statement that has moved. -/
lemma readSource_moved (h : s.Moved f k bound s') (view : String)
    (segment : List Char) {offset : Nat} (ho : offset ≤ bound) :
    readSource s' view segment (offset + k) =
      (readSource s view segment offset).translate (Failure.replace f) id := by
  unfold readSource
  dsimp only
  rw [h.place_eq offset ho]
  split
  · rfl
  · split <;> rfl

/-- The relations of a piece are read alike in a statement that has moved. -/
lemma readJoins_moved (h : s.Moved f k bound s') (view : String) (piece : List Char) (base : Nat)
    (hb : base + piece.length ≤ bound) {stops : List Nat} (hs : ∀ stop ∈ stops, stop ≤ piece.length)
    (isFirst : Bool) {start : Nat} (hstart : start ≤ piece.length) :
    readJoins s' view piece (base + k) isFirst start stops =
      (readJoins s view piece base isFirst start stops).translate (Failure.replace f) id := by
  induction stops generalizing isFirst start with
  | nil => rfl
  | cons stop stops ih =>
    obtain ⟨hstop, hstops⟩ := List.forall_mem_cons.1 hs
    unfold readJoins
    dsimp only
    rw [Nat.add_right_comm]
    refine Outcome.bind_translate (readSource_moved h view _ (by omega)) fun here _ => ?_
    exact Outcome.bind_translate (ih hstops false hstop) fun more _ => rfl

instance : Forward joinWords := by
  unfold joinWords
  infer_instance

/-- A `FROM` clause is read alike in a statement that has moved. -/
lemma readSources_moved (h : s.Moved f k bound s') (view : String) (base : Nat)
    {pieces : List Piece} (hp : ∀ p ∈ pieces, base + p.offset + p.text.length ≤ bound) :
    readSources s' view (base + k) pieces =
      (readSources s view base pieces).translate (Failure.replace f) id := by
  induction pieces with
  | nil => rfl
  | cons p rest ih =>
    obtain ⟨hp, hrest⟩ := List.forall_mem_cons.1 hp
    have stops : ∀ stop ∈ (Pattern.findAll joinWords .wordStart (mask p.text)).map (·.start) ++
        [p.text.length], stop ≤ p.text.length := by
      intro stop hstop
      obtain hstop | hstop := List.mem_append.1 hstop
      · obtain ⟨found, hf, rfl⟩ := List.mem_map.1 hstop
        exact length_mask p.text ▸ (findAll_le hf).1
      · exact (List.mem_singleton.1 hstop).le
    unfold readSources
    dsimp only
    rw [Nat.add_right_comm]
    refine Outcome.bind_translate (readJoins_moved h view _ _ hp stops true (Nat.zero_le _))
      fun here _ => ?_
    exact Outcome.bind_translate (ih hrest) fun more _ => rfl

/-- The clauses of a query are read alike in a statement that has moved. -/
lemma readClauses_moved (h : s.Moved f k bound s') (view : String) {select : List Char} {base : Nat}
    (hb : base + select.length ≤ bound) {clauses : List Clause}
    (hc : ∀ c ∈ clauses, c.stop ≤ select.length) :
    readClauses s' view select (base + k) clauses =
      (readClauses s view select base clauses).translate (Failure.replace f) id := by
  induction clauses with
  | nil => rfl
  | cons c rest ih =>
    obtain ⟨hc, hrest⟩ := List.forall_mem_cons.1 hc
    have further (here : Origins) :
        (do .ok (here.append (← readClauses s' view select (base + k) rest))) =
          Outcome.translate (Failure.replace f) id
            (do .ok (here.append (← readClauses s view select base rest))) :=
      Outcome.bind_translate (ih hrest) fun more _ => rfl
    unfold readClauses
    dsimp only
    rw [Nat.add_right_comm]
    split
    · refine Outcome.bind_translate (readSources_moved h view _ fun p hp => ?_) fun here _ =>
        further here
      have within := splitTopLevel_le hp
      rw [List.length_drop, List.length_take] at within
      omega
    · split <;> exact further _

instance : Forward viewHead := by
  unfold viewHead inParens
  infer_instance

instance : Forward clauseKeyword where
  suffix {text m} hm := by
    obtain ⟨n, hn, rfl⟩ := List.mem_map.1 hm
    have forward : Forward (anyOf [kw "from", kw "where", twoWords "group" "by", kw "having",
        twoWords "order" "by", kw "limit", kw "union", kw "intersect",
        kw "except"] <* wordEnd) := by
      unfold twoWords
      infer_instance
    exact forward.suffix hn

/-- What is left within parentheses, and what was before it, is not longer than the text. -/
lemma length_peelParens (fuel : Nat) (text : List Char) :
    (peelParens fuel text).1.length + (peelParens fuel text).2 ≤ text.length := by
  fun_induction peelParens fuel text with
  | case1 => exact le_rfl
  | case2 fuel text wrapped inner n eq ih =>
    have opening : 0 < text.length := by
      cases text with
      | nil => cases wrapped
      | cons c cs => exact Nat.succ_pos _
    have inside := length_trim (text.drop 1).dropLast
    rw [List.length_dropLast, List.length_drop] at inside
    rw [eq] at ih
    dsimp only at ih ⊢
    omega
  | case3 => exact le_rfl

/-- A view statement is read in another place as in its own. -/
lemma readView_moved (h : s.Moved f k bound s') {statement : List Char}
    (hs : s.start + statement.length ≤ bound) :
    readView s' statement = (readView s statement).translate (Failure.replace f)
    (View.moved k s') := by
  have start : s.start ≤ bound := by omega
  unfold readView
  dsimp only
  rw [h.start_eq, h.place_eq _ start]
  cases hh : viewHead.first? statement with
  | none => rfl
  | some head =>
    obtain ⟨⟨written, columns⟩, query⟩ := head
    have shorter : query.length ≤ statement.length := first?_length_le hh
    have trimmed := length_trim query
    have peels := length_peelParens query.length (trim query)
    dsimp only
    generalize peelParens query.length (trim query) = peel at peels ⊢
    obtain ⟨select, peeled⟩ := peel
    dsimp only at peels ⊢
    -- The places of a view are counted from where its query begins inside of its parentheses.
    obtain ⟨base, hb⟩ : ∃ base,
        base = s.start + (statement.length - query.length)
        + (query.length - (trimStart query).length) + peeled :=
      ⟨_, rfl⟩
    have moved : s.start + k + (statement.length - query.length)
        + (query.length - (trimStart query).length) +
        peeled = base + k := by omega
    rw [moved, ← hb, h.place_eq base (by omega)]
    split
    · rfl
    · rename_i afterHead _
      split
      · rfl
      · rename_i first _ _
        split
        · rfl
        · split
          · rfl
          · have clauses : ∀ c ∈ clausesOf select, c.stop ≤ select.length := by
              intro c hc
              obtain ⟨found, hf, rfl⟩ := List.mem_map.1 hc
              exact length_mask select ▸ (findAll_le hf).2
            rw [Nat.add_right_comm]
            refine Outcome.bind_translate (readProjections_moved h _ _ fun p hp => ?_)
              fun projections _ => ?_
            · have within := splitTopLevel_le hp
              rw [List.length_drop, List.length_take] at within
              omega
            · refine Outcome.bind_translate (readClauses_moved h _ (by omega) clauses)
                fun origins _ => ?_
              simp only [List.length_map, id, ← h.start_eq]
              split
              · split <;> rfl
              · rfl

/-! ## After other text -/

/-- The second setting is the first one after such a text, for all offsets up to a bound. -/
structure Setting.After (l : Lead) (bound : Nat) (s s' : Setting) : Prop where
  start_eq : s'.start = s.start + l.chars
  source_eq : s'.source = s.source
  domain_eq : s'.domain = s.domain.or l.domain
  place_eq : ∀ offset ≤ bound,
    Place.atOffset s'.text (offset + l.chars) s'.source =
    (Place.atOffset s.text offset s.source).after l

variable {l : Lead}

/-- A statement that stands after a text has moved by it. -/
lemma Setting.After.moved (h : s.After l bound s') : s.Moved (Place.after l) l.chars bound s' :=
  ⟨h.start_eq, h.place_eq⟩

/-- A statement that stands after a text begins as many lines further down. -/
lemma Setting.After.line_eq (h : s.After l bound s') (hs : s.start ≤ bound) :
    lineAt s'.text s'.start = lineAt s.text s.start + l.lines := by
  rw [h.start_eq]
  exact Option.some.inj (congrArg Place.line (h.place_eq s.start hs))

/-- A table says in which setting it was read. -/
lemma setting_of_readTable {statement : List Char} {t : Table} (h : readTable s statement = .ok t) :
    t = t.moved s := by
  unfold readTable at h
  dsimp only at h
  split at h
  · cases h
  · split at h
    · cases h
    · obtain ⟨items, -, h⟩ := Outcome.bind_ok.1 h
      split at h
      · cases h
      · obtain ⟨columns, -, h⟩ := Outcome.bind_ok.1 h
        cases h
        rfl

/-- A table statement is read after other text as it is alone. -/
lemma readTable_after (h : s.After l bound s') {statement : List Char}
    (hs : s.start + statement.length ≤ bound) :
    readTable s' statement = (readTable s statement).translate (Failure.after l)
    (Table.after l) := by
  rw [readTable_moved h.moved hs, Failure.after_eq]
  refine Outcome.translate_congr fun t ht => ?_
  rw [setting_of_readTable ht]
  simp only [Table.moved, Table.after, h.domain_eq, h.source_eq,
    h.line_eq (Nat.le_of_add_right_le hs)]

/-- A view statement is read after other text as it is alone. -/
lemma readView_after (h : s.After l bound s') {statement : List Char}
    (hs : s.start + statement.length ≤ bound) :
    readView s' statement = (readView s statement).translate (Failure.after l)
    (View.after l s'.text) := by
  rw [readView_moved h.moved hs, Failure.after_eq]
  refine Outcome.translate_congr fun v hv => ?_
  obtain ⟨reads, -⟩ := readView_ok_iff.1 hv
  cases reads
  simp only [View.moved, View.after, h.domain_eq, h.source_eq,
    h.line_eq (Nat.le_of_add_right_le hs)]
  rw [h.start_eq]
  rfl

end Sql
end Rulebook
