import Rulebook.Proofs.Sql.View

/-!
# Clauses of a view

The filters of a view are the texts that its relations are joined on, conditions as well as lists of
columns, and those of its `WHERE`, `GROUP BY` and `HAVING` clauses, and no others
(`mem_filters_readView`).
-/

namespace Rulebook.Sql
open Text

variable {setting : Setting} {name : String} {s : String} {origins : Origins}

/-- What stands in a clause, up to the next one. -/
def Clause.body (select : List Char) (clause : Clause) (later : List Clause) : List Char :=
  (select.take ((later.head?.map (·.start)).getD select.length)).drop clause.stop

/-- The relations of a piece of a `FROM` clause, cut at its joins. -/
def segments (piece : List Char) : Bool → Nat → List Nat → List (List Char)
  | _, _, [] => []
  | isFirst, start, stop :: stops =>
    let segment := (piece.take stop).drop start
    (if isFirst then segment else dropJoin segment) :: segments piece false stop stops

/-- Where the relations of a piece end. -/
def segmentStops (piece : List Char) : List Nat :=
  (Pattern.findAll joinWords .wordStart (mask piece)).map (·.start) ++ [piece.length]

/-- The text of a part of a join. -/
def JoinPart.text : JoinPart → List Char
  | .on text => text
  | .columns text => text

/-- A relation is joined on a text. -/
def JoinedOn (segment text : List Char) : Prop :=
  text ≠ [] ∧ ∃ table given part rest,
    sourceItem.first? segment = some ((table, given, some part), rest) ∧ part.text = text

/-- A clause gives a text to restrict, join or group by: a `FROM` clause those that its relations
are joined on, and `WHERE`, `GROUP BY` and `HAVING` clauses what stands in them. -/
def Clause.Gives (select : List Char) (clause : Clause) (later : List Clause) (text : List Char) :
    Prop :=
  (clause.keyword = "FROM" ∧ ∃ piece ∈ splitTopLevel (· == ',') (clause.body select later),
    ∃ segment ∈ segments piece.text true 0 (segmentStops piece.text), JoinedOn segment text) ∨
  (clause.keyword ∈ ["WHERE", "GROUP", "HAVING"] ∧ text = clause.body select later)

/-- Some clause of a query gives a text. -/
def IsClause (select : List Char) : List Clause → List Char → Prop
  | [], _ => False
  | clause :: later, text => clause.Gives select later text ∨ IsClause select later text

/-- A text is a clause of a view statement that restricts, joins or groups. -/
def IsClauseOf (statement text : List Char) : Prop :=
  ∃ head query, viewHead.first? statement = some (head, query) ∧
    let select := (peelParens query.length (trim query)).1
    IsClause select (clausesOf select) text

/-- The filters of origins that are put together are those of both. -/
lemma mem_filters_append {a b : Origins} :
    s ∈ (a.append b).filters ↔ s ∈ a.filters ∨ s ∈ b.filters := List.mem_append

/-- A part of a join filters by its trimmed text, unless it is empty. -/
lemma mem_filters_part {part : JoinPart} :
    s ∈ part.filters ↔ part.text ≠ [] ∧ s = String.ofList (trim part.text) := by
  cases part with
  | on text | columns text =>
    unfold JoinPart.filters JoinPart.text
    cases text with
    | nil => simp
    | cons c text => simp

/-- A relation filters by the text that it is joined on. -/
lemma mem_filters_readSource {segment : List Char} {offset : Nat}
    (h : readSource setting name segment offset = .ok origins) :
    s ∈ origins.filters ↔ ∃ text, JoinedOn segment text ∧ s = String.ofList (trim text) := by
  unfold readSource at h
  dsimp only at h
  split at h
  · cases h
  · split at h
    · cases h
    · rename_i table given part rest found
      cases h
      cases part with
      | none =>
        refine iff_of_false List.not_mem_nil ?_
        rintro ⟨text, ⟨-, table', given', part', rest', found', -⟩, -⟩
        cases found.symm.trans found'
      | some part =>
        show s ∈ part.filters ↔ _
        rw [mem_filters_part]
        constructor
        · rintro ⟨ne, eq⟩
          exact ⟨_, ⟨ne, table, given, part, rest, found, rfl⟩, eq⟩
        · rintro ⟨text, ⟨ne, table', given', part', rest', found', rfl⟩, eq⟩
          cases found.symm.trans found'
          exact ⟨ne, eq⟩

/-- The relations of a piece filter by the texts that they are joined on. -/
lemma mem_filters_readJoins {piece : List Char} {base : Nat} {stops : List Nat} :
    ∀ {isFirst start origins}, readJoins setting name piece base isFirst start stops = .ok origins →
      (s ∈ origins.filters ↔
        ∃ segment ∈ segments piece isFirst start stops,
          ∃ text, JoinedOn segment text ∧ s = String.ofList (trim text)) := by
  induction stops with
  | nil =>
    intro isFirst start origins h
    cases h
    simp [segments]
  | cons stop stops ih =>
    intro isFirst start origins h
    obtain ⟨here, hh, h⟩ := Outcome.bind_ok.1 h
    obtain ⟨more, hm, h⟩ := Outcome.bind_ok.1 h
    cases h
    rw [mem_filters_append, mem_filters_readSource hh, ih hm, segments, List.exists_mem_cons_iff]

/-- The pieces of a `FROM` clause filter by the texts that their relations are joined on. -/
lemma mem_filters_readSources {base : Nat} {pieces : List Piece} :
    ∀ {origins}, readSources setting name base pieces = .ok origins →
      (s ∈ origins.filters ↔
        ∃ piece ∈ pieces, ∃ segment ∈ segments piece.text true 0 (segmentStops piece.text),
        ∃ text, JoinedOn segment text ∧ s = String.ofList (trim text)) := by
  induction pieces with
  | nil =>
    intro origins h
    cases h
    simp
  | cons piece pieces ih =>
    intro origins h
    obtain ⟨here, hh, h⟩ := Outcome.bind_ok.1 h
    obtain ⟨more, hm, h⟩ := Outcome.bind_ok.1 h
    cases h
    rw [mem_filters_append, mem_filters_readJoins hh, ih hm, List.exists_mem_cons_iff]
    rfl

/-- A clause is read before the later ones, and adds the texts that it gives. -/
lemma readClauses_cons {select : List Char} {base : Nat} {clause : Clause} {later : List Clause}
    (h : readClauses setting name select base (clause :: later) = .ok origins) :
    ∃ here more : Origins, readClauses setting name select base later = .ok more ∧
    origins = here.append more ∧
      (s ∈ here.filters ↔ ∃ text, clause.Gives select later text ∧
        s = String.ofList (trim text)) := by
  unfold readClauses at h
  dsimp only at h
  -- A clause is a `FROM` clause, one of the three that restrict or group, or one
  -- that gives nothing.
  split at h
  · rename_i known
    have known := eq_of_beq known
    obtain ⟨here, hh, h⟩ := Outcome.bind_ok.1 h
    obtain ⟨more, hm, h⟩ := Outcome.bind_ok.1 h
    cases h
    refine ⟨here, more, hm, rfl, (mem_filters_readSources hh).trans ?_⟩
    constructor
    · rintro ⟨piece, hp, segment, hs, text, on, eq⟩
      exact ⟨text, .inl ⟨known, piece, hp, segment, hs, on⟩, eq⟩
    · rintro ⟨text, ⟨-, piece, hp, segment, hs, on⟩ | ⟨other, -⟩, eq⟩
      · exact ⟨piece, hp, segment, hs, text, on, eq⟩
      · rw [known] at other
        simp at other
  · rename_i notFrom
    have notFrom : clause.keyword ≠ "FROM" := fun eq => notFrom (beq_iff_eq.2 eq)
    split at h
    · rename_i known
      obtain ⟨here, hh, h⟩ := Outcome.bind_ok.1 h
      obtain ⟨more, hm, h⟩ := Outcome.bind_ok.1 h
      cases hh
      cases h
      refine ⟨_, more, hm, rfl, List.mem_singleton.trans ?_⟩
      constructor
      · exact fun eq => ⟨_, .inr ⟨List.contains_iff_mem.1 known, rfl⟩, eq⟩
      · rintro ⟨text, ⟨other, -⟩ | ⟨-, rfl⟩, eq⟩
        · exact absurd other notFrom
        · exact eq
    · rename_i unknown
      obtain ⟨here, hh, h⟩ := Outcome.bind_ok.1 h
      obtain ⟨more, hm, h⟩ := Outcome.bind_ok.1 h
      cases hh
      cases h
      refine ⟨_, more, hm, rfl, iff_of_false List.not_mem_nil ?_⟩
      rintro ⟨text, ⟨known, -⟩ | ⟨known, -⟩, -⟩
      · exact notFrom known
      · exact unknown (List.contains_iff_mem.2 known)

/-- The filters of clauses are the texts that they give. -/
lemma mem_filters_readClauses {select : List Char} {base : Nat} {clauses : List Clause} :
    ∀ {origins}, readClauses setting name select base clauses = .ok origins →
      (s ∈ origins.filters ↔ ∃ text, IsClause select clauses text ∧
        s = String.ofList (trim text)) := by
  induction clauses with
  | nil =>
    intro origins h
    cases h
    refine iff_of_false List.not_mem_nil ?_
    rintro ⟨text, ⟨⟩, -⟩
  | cons clause later ih =>
    intro origins h
    obtain ⟨here, more, hm, rfl, own⟩ := readClauses_cons (s := s) h
    simp only [mem_filters_append, own, ih hm, IsClause, or_and_right, exists_or]

/-- The filters of a view are the clauses of its statement that restrict, join or group. -/
lemma mem_filters_readView {statement : List Char} {view : View}
    (h : readView setting statement = .ok view) :
    s ∈ view.filters ↔ ∃ text, IsClauseOf statement text ∧ s = String.ofList (trim text) := by
  obtain ⟨reads, -⟩ := readView_ok_iff.1 h
  obtain ⟨head, peel, -, -, -, -, -, -, sources⟩ := reads
  refine (mem_filters_readClauses sources).trans (exists_congr fun text =>
    and_congr_left fun _ => ?_)
  unfold IsClauseOf
  rw [head]
  simp [peel]

end Rulebook.Sql
