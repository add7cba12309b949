import Rulebook.Proofs.Catalog.Clause
import Rulebook.Proofs.Catalog.Scope
import Rulebook.Proofs.Sql.Clauses

/-!
# Referenced columns

A view lists the columns that its joins, filters and groupings refer to and that it does not show as
they are. Each listed column is a field of a relation of the view, is listed once, and is not shown
(`compileView_referenced`). Each field that a reference means is listed or shown, with two
exceptions: a name that is a word of the query language is passed over, even behind a qualifier, and
so is a bare name that several sources have.
-/

namespace Rulebook
open Sql Text

/-- A field with the name of the table or view that it is a column of. -/
def Entity.fullName (r : Entity) (f : Field) : String := s!"{r.sourceName}.{f.name}"

/-- A column of a view shows a field as it is, perhaps under another name. -/
def Resolved.Shows (c : Resolved) (r : Entity) (f : Field) : Prop :=
  c = { Resolved.ofField r f with name := c.name }

/-- A column that shows a field has the field for its origin. -/
lemma Resolved.Shows.origin {c : Resolved} {r : Entity} {f : Field} (h : c.Shows r f) :
    c.origin = some (r.fullName f) := by
  rw [h]
  rfl

namespace Scope

variable {scope : Scope} {rs : Relations} {view : View} {domain : String} {item : Projection}
  {r : Entity} {f : Field}

variable (scope rs domain) in
/-- A field of a relation of the view. -/
def Has (r : Entity) (f : Field) : Prop :=
  (∃ s ∈ scope.view.sources, rs.Means domain s r) ∧ f ∈ r.fields

variable (scope rs domain) in
/-- What a reference means: a field of the source that goes by its qualifier, or of the only
source that has it. -/
inductive Reference.Means : Reference → Entity → Field → Prop
  | qualified {q before after n s r f} : s ∈ scope.view.sources → rs.Means domain s r →
      (small (String.ofList (unquote q.text)) = small s.effectiveName ∨
        small (String.ofList (unquote q.text)) = small s.table) →
      scope.relation? (String.ofList (unquote q.text)) = some r →
      r.fieldUpToCase? (String.ofList (unquote n.text)) = some f →
      Means ⟨some (q, before, after), n⟩ r f
  | bare {n r f before after} : scope.tableRelations = before ++ r :: after →
      (∀ t ∈ before ++ after, t.fieldUpToCase? (String.ofList (unquote n.text)) = none) →
      r.fieldUpToCase? (String.ofList (unquote n.text)) = some f →
      Means ⟨none, n⟩ r f

variable (scope rs domain) in
/-- A view statement refers to a field: a reference in one of its clauses means it, by a name that
is no word of the query language. -/
def Refers (statement : List Char) (r : Entity) (f : Field) : Prop :=
  ∃ text, IsClauseOf statement text ∧ ∃ refs left, Reads (trim text) refs left ∧
    ∃ m ∈ refs, isQueryWord (unquote m.name.text) = false ∧ m.Means scope rs domain r f

/-! ## Relations of a view -/

namespace Of

variable (h : scope.Of rs view domain)
include h

/-- What a name means is the relation of a source that goes by it. -/
lemma of_relation? {name : String} (hr : scope.relation? name = some r) :
    ∃ s ∈ scope.view.sources, rs.Means domain s r ∧
      (small name = small s.effectiveName ∨ small name = small s.table) := by
  obtain ⟨before, after, eq, -⟩ := List.lookup_eq_some_iff.1 hr
  have known : (small name, r) ∈ scope.names := by rw [eq]; simp
  obtain ⟨s, hs, r', means, given⟩ := (h.mem _).1 known
  obtain ⟨rfl, name_eq⟩ := mem_namesOf.1 given
  exact ⟨s, h.view_eq ▸ hs, means, name_eq⟩

/-- A field of a relation that is known by a name is one of the view. -/
lemma has {name : String} (hr : scope.relation? name = some r) (hf : f ∈ r.fields) :
    scope.Has rs domain r f := by
  obtain ⟨s, hs, means, -⟩ := h.of_relation? hr
  exact ⟨⟨s, hs, means⟩, hf⟩

/-- A field of a relation that is known by its table is one of the view. -/
lemma has_of_mem_tableRelations (hr : r ∈ scope.tableRelations) (hf : f ∈ r.fields) :
    scope.Has rs domain r f := by
  obtain ⟨s, -, hr⟩ := List.mem_filterMap.1 hr
  exact h.has hr hf

end Of

/-- A qualifier means the relation that is known by it. -/
lemma relation_ok {name : String} :
    Expression.relation scope item name = .ok r ↔ scope.relation? name = some r := by
  unfold Expression.relation
  cases scope.relation? name with
  | none => exact iff_of_false (fun h => by cases h) fun h => by cases h
  | some r' => exact ⟨fun h => by cases h; rfl, fun h => by cases h; rfl⟩

/-- A field that is found up to case is one of the relation. -/
lemma mem_of_fieldUpToCase? {name : String} (hf : r.fieldUpToCase? name = some f) : f ∈ r.fields :=
  List.mem_of_find?_eq_some hf

/-- A field that is found as a column is one of the relation. -/
lemma mem_of_column? {name : String} (hf : r.column? name = some f) : f ∈ r.fields := by
  obtain hf | ⟨-, hf⟩ := Option.or_eq_some_iff.1 hf
  · exact List.mem_of_find?_eq_some hf
  · exact mem_of_fieldUpToCase? hf

/-! ## Plain columns -/

variable (scope rs domain) in
/-- A column with an origin shows the field that the origin names. -/
def Plain (c : Resolved) : Prop :=
  ∀ o, c.origin = some o → ∃ r f, scope.Has rs domain r f ∧ c.Shows r f

/-- A column without an origin shows no field. -/
lemma plain_of_none {c : Resolved} (h : c.origin = none) : scope.Plain rs domain c := by
  intro o ho
  rw [h] at ho
  cases ho

/-- The column of a field of the view shows this field. -/
lemma plain_ofField (h : scope.Has rs domain r f) : scope.Plain rs domain (.ofField r f) :=
  fun _ _ => ⟨r, f, h, rfl⟩

/-- A column shows the same field under another name. -/
lemma Plain.rename {c : Resolved} (h : scope.Plain rs domain c) (name : Option String) :
    scope.Plain rs domain { c with name } := by
  intro o ho
  obtain ⟨r, f, has, shows⟩ := h o ho
  refine ⟨r, f, has, ?_⟩
  unfold Resolved.Shows at shows ⊢
  rw [shows]

/-- An aggregate has no origin. -/
lemma origin_aggregateType (function : String) (argument : Resolved) :
    (Expression.aggregateType function argument).origin = none := by
  unfold Expression.aggregateType
  split
  · rfl
  · split <;> rfl

section Columns

variable (h : scope.Of rs view domain) {c : Resolved}
include h

/-- A column that is resolved shows the field that its origin names. -/
lemma plain_resolveColumn {q : Option (List Char)} {name : String}
    (hc : Expression.resolveColumn scope item q name = .ok c) : scope.Plain rs domain c := by
  unfold Expression.resolveColumn at hc
  cases q with
  | some q =>
    obtain ⟨r, hr, hc⟩ := Outcome.bind_ok.1 hc
    cases hf : r.column? name with
    | none => rw [hf] at hc; cases hc
    | some f =>
      rw [hf] at hc
      cases hc
      exact plain_ofField (h.has (relation_ok.1 hr) (mem_of_column? hf))
  | none =>
    dsimp only at hc
    split at hc
    · cases hc
    · rename_i single
      cases hc
      have one : c ∈ scope.tableRelations.filterMap fun r =>
          (r.column? name).map (Resolved.ofField r) := by
        rw [single]
        exact .head _
      obtain ⟨r, hr, found⟩ := List.mem_filterMap.1 one
      obtain ⟨f, hf, rfl⟩ := Option.map_eq_some_iff.1 found
      exact plain_ofField (h.has_of_mem_tableRelations hr (mem_of_column? hf))
    · cases hc

/-- An operand that is no call shows the field that its origin names, if it has one. -/
lemma plain_resolveAtom {s : List Char} (hc : Expression.resolveAtom scope item s = .ok c) :
    scope.Plain rs domain c := by
  unfold Expression.resolveAtom at hc
  split at hc
  · cases hc; exact plain_of_none rfl
  · split at hc
    · cases hc; exact plain_of_none rfl
    · split at hc
      · cases hc; exact plain_of_none rfl
      · split at hc
        · cases hc; exact plain_of_none rfl
        · split at hc
          · exact plain_resolveColumn h hc
          · cases hc

/-- An operand other than an aggregate shows the field that its origin names, if it has one. -/
lemma plain_resolveOther {s : List Char} (hc : Expression.resolveOther scope item s = .ok c) :
    scope.Plain rs domain c := by
  rw [Expression.resolveOther] at hc
  split at hc
  · cases hc
  · exact plain_resolveAtom h hc

/-- An expression shows the field that its origin names, if it has one. -/
lemma plain_typeOf {s : List Char} (hc : Expression.typeOf scope item s = .ok c) :
    scope.Plain rs domain c := by
  rw [Expression.typeOf, Expression.resolve] at hc
  dsimp only at hc
  split at hc
  case h_3 =>
    obtain ⟨types, -, hc⟩ := Outcome.bind_ok.1 hc
    cases hc
    exact plain_of_none rfl
  -- No operand or one: aggregates have no origin, whatever their arguments are.
  all_goals
    split at hc
    · split at hc
      · split at hc
        · split at hc
          · obtain ⟨_, -, hc⟩ := Outcome.bind_ok.1 hc
            cases hc
            exact plain_of_none rfl
          · cases hc
            exact plain_of_none rfl
        · split at hc
          · cases hc
          · obtain ⟨argument, -, rfl⟩ := Outcome.map_ok.1 hc
            exact plain_of_none (origin_aggregateType _ _)
      · exact plain_resolveOther h hc
    · exact plain_resolveOther h hc

/-- The columns that an asterisk stands for show the fields that their origins name. -/
lemma plain_expandStar {q : Option (List Char)} {cs : List Resolved}
    (hcs : scope.expandStar item q = .ok cs) :
    ∀ c ∈ cs, scope.Plain rs domain c := by
  have fields {name : String} {r : Entity} (known : scope.relation? name = some r) :
      ∀ c ∈ r.fields.map (Resolved.ofField r), scope.Plain rs domain c :=
    List.forall_mem_map.2 fun f hf => plain_ofField (h.has known hf)
  intro c hc
  cases q with
  | some q =>
    obtain ⟨relations, hr, hcs⟩ := Outcome.bind_ok.1 hcs
    cases hcs
    obtain ⟨r, known, rfl⟩ := Outcome.map_ok.1 hr
    exact fields (relation_ok.1 known) c (by simpa using hc)
  | none =>
    cases hcs
    obtain ⟨r, hr, hc⟩ := List.mem_flatMap.1 hc
    obtain ⟨s, -, hr⟩ := List.mem_filterMap.1 hr
    split at hr <;> exact fields hr c hc

/-- The columns of a view show the fields that their origins name. -/
lemma plain_columns {cs : List Resolved} (hcs : scope.columns = .ok cs) :
    ∀ c ∈ cs, scope.Plain rs domain c := by
  obtain ⟨css, each, rfl⟩ := Outcome.map_ok.1 hcs
  intro c hc
  obtain ⟨cs, hcs, hc⟩ := List.mem_flatten.1 hc
  obtain ⟨item, -, hi⟩ := exists_of_forall₂ (Outcome.mapM_ok.1 each) hcs
  unfold columnsOf at hi
  split at hi
  · exact plain_expandStar h hi c hc
  · obtain ⟨r, hr, hi⟩ := Outcome.bind_ok.1 hi
    dsimp only at hi
    split at hi
    · cases hi
      cases List.mem_singleton.1 hc
      exact (plain_typeOf h hr).rename _
    · cases hi

end Columns

/-- Columns under listed names are the columns. -/
lemma mem_renameColumns {cs : List Resolved} {ns : List String} {c : Resolved}
    (hc : c ∈ renameColumns cs ns) :
    ∃ c' ∈ cs, c = { c' with name := c.name } := by
  induction cs generalizing ns with
  | nil => cases hc
  | cons c' cs ih =>
    cases ns with
    | nil => exact ⟨c, hc, rfl⟩
    | cons n ns =>
      rw [renameColumns] at hc
      obtain rfl | hc := List.mem_cons.1 hc
      · exact ⟨c', .head _, rfl⟩
      · obtain ⟨c'', hm, eq⟩ := ih hc
        exact ⟨c'', .tail _ hm, eq⟩

/-- Columns under listed names show what they showed before. -/
lemma plain_listedColumns {cs columns : List Resolved} (plain : ∀ c ∈ cs, scope.Plain rs domain c)
    (hl : listedColumns view cs = .ok columns) : ∀ c ∈ columns, scope.Plain rs domain c := by
  intro c hc
  unfold listedColumns at hl
  split at hl
  · cases hl
    exact plain c hc
  · split at hl
    · cases hl
    · cases hl
      obtain ⟨c', hm, eq⟩ := mem_renameColumns hc
      rw [eq]
      exact (plain c' hm).rename c.name

/-! ## Meanings of references -/

variable (scope) in
/-- The relation that a name is looked up in: the one of its qualifier, or the only one of the
sources that has it. -/
def Owner (qualifier : Option (List Char)) (column : String) (r : Entity) : Prop :=
  match qualifier with
  | some q => scope.relation? (String.ofList (unquote q)) = some r
  | none => scope.tableRelations.filter (fun r => (r.fieldUpToCase? column).isSome) = [r]

/-- What is found in a text means a field, unless its name is a word of the query language. -/
lemma reference?_some {q : Option (List Char)} {n : List Char} {s : String} :
    scope.reference? q n = some s ↔
    isQueryWord (unquote n) = false ∧ ∃ r f, scope.Owner q (String.ofList (unquote n)) r ∧
      r.fieldUpToCase? (String.ofList (unquote n)) = some f ∧ s = r.fullName f := by
  have field {o : Option Entity} {column : String} :
      (o.bind fun r => (r.fieldUpToCase? column).map fun f =>
      s!"{r.sourceName}.{f.name}") = some s ↔
        ∃ r f, o = some r ∧ r.fieldUpToCase? column = some f ∧ s = r.fullName f := by
    simp only [Option.bind_eq_some_iff, Option.map_eq_some_iff, exists_and_left]
    simp only [eq_comm (a := s)]
    rfl
  unfold reference? Owner
  dsimp only
  cases isQueryWord (unquote n) with
  | true => simp
  | false =>
    rw [if_neg Bool.false_ne_true, and_iff_right rfl, field]
    cases q with
    | some q => exact Iff.rfl
    | none =>
      refine exists₂_congr fun r f => and_congr_left fun _ => ?_
      dsimp only
      split
      · rename_i one
        rw [one, Option.some.injEq, List.singleton_inj]
      · rename_i several
        exact iff_of_false (fun h => by cases h) fun one => several r one

/-- A name without a qualifier is looked up in the only relation that has such a column. -/
lemma owner_bare {column : String} : scope.Owner none column r ↔ ∃ before after,
    scope.tableRelations = before ++ r :: after ∧
    (∀ t ∈ before ++ after, t.fieldUpToCase? column = none) ∧
      (r.fieldUpToCase? column).isSome = true := by
  unfold Owner
  simp only [List.filter_eq_cons_iff, List.filter_eq_nil_iff, Option.not_isSome_iff_eq_none,
    List.forall_mem_append]
  refine exists₂_congr fun before after => and_congr_right fun _ => ?_
  rw [and_assoc]
  exact and_congr_right fun _ => and_comm

/-- A field of the relation that a name is looked up in is one of the view. -/
lemma Owner.has (of : scope.Of rs view domain) {q : Option (List Char)} {column : String}
    (owner : scope.Owner q column r) (hf : f ∈ r.fields) : scope.Has rs domain r f := by
  cases q with
  | some q => exact of.has owner hf
  | none =>
    have one : r ∈ scope.tableRelations.filter fun r => (r.fieldUpToCase? column).isSome := by
      rw [show _ = [r] from owner]
      exact .head _
    exact of.has_of_mem_tableRelations (List.mem_filter.1 one).1 hf

/-- A reference means a field if the scan takes it for one. -/
lemma reference?_found (of : scope.Of rs view domain) {m : Reference} {s : String} :
    scope.reference? m.found.1 m.found.2 = some s ↔
      isQueryWord (unquote m.name.text) = false ∧ ∃ r f, m.Means scope rs domain r f ∧
      s = r.fullName f := by
  rw [reference?_some]
  refine and_congr_right fun _ => exists_congr fun r => exists_congr fun f => ?_
  rw [← and_assoc]
  refine and_congr_left fun _ => ?_
  obtain ⟨_ | ⟨q, before, after⟩, n⟩ := m
  · constructor
    · rintro ⟨owner, hf⟩
      obtain ⟨before, after, eq, others, -⟩ := owner_bare.1 owner
      exact .bare eq others hf
    · intro h
      cases h with
      | bare eq others hf =>
        exact ⟨owner_bare.2 ⟨_, _, eq, others, Option.isSome_of_eq_some hf⟩, hf⟩
  · constructor
    · rintro ⟨owner, hf⟩
      obtain ⟨t, ht, means, goesBy⟩ := of.of_relation? owner
      exact .qualified ht means goesBy owner hf
    · intro h
      cases h with
      | qualified _ _ _ owner hf => exact ⟨owner, hf⟩

/-! ## Listed columns -/

/-- A list without its repetitions has none. -/
lemma nodup_eraseDups {α : Type} [BEq α] [LawfulBEq α] (l : List α) : l.eraseDups.Nodup := by
  match l with
  | [] => exact List.nodup_nil
  | a :: as =>
    have : (as.filter fun b => !b == a).length < as.length + 1 :=
      Nat.lt_succ_of_le (List.length_filter_le _ _)
    rw [List.eraseDups_cons, List.nodup_cons]
    refine ⟨fun ha => ?_, nodup_eraseDups (as.filter fun b => !b == a)⟩
    have := (List.mem_filter.1 (List.mem_eraseDups.1 ha)).2
    simp at this
termination_by l.length

/-- A filter refers to what the scan of its text finds. -/
lemma mem_referencesIn {filter s : String} :
    s ∈ scope.referencesIn filter ↔
    ∃ v ∈ scan filter.toList, scope.reference? v.1 v.2 = some s := by
  unfold referencesIn scan Pattern.values
  rw [List.mem_filterMap]
  simp only [List.mem_map, exists_exists_and_eq_and]
  rfl

/-- The columns that a view lists are those that its filters refer to and that are not shown. -/
lemma mem_referenced {shown : List Resolved} {s : String} : s ∈ scope.referenced shown ↔
    (∃ filter ∈ scope.view.filters, s ∈ scope.referencesIn filter) ∧ ∀ c ∈ shown,
    c.origin ≠ some s := by
  unfold referenced
  rw [List.mem_eraseDups, List.mem_filter, List.mem_flatMap]
  simp

/-- What is found in the filters of a view is what the scans of its clauses find. -/
lemma found_iff {setting : Setting} {statement : List Char} {s : String}
    (of : scope.Of rs view domain) (read : readView setting statement = .ok view) :
    (∃ filter ∈ scope.view.filters, s ∈ scope.referencesIn filter) ↔
      ∃ text, IsClauseOf statement text ∧ ∃ v ∈ scan (trim text),
      scope.reference? v.1 v.2 = some s := by
  simp only [of.view_eq, mem_filters_readView read, mem_referencesIn]
  constructor
  · rintro ⟨_, ⟨text, clause, rfl⟩, hv⟩
    rw [String.toList_ofList] at hv
    exact ⟨text, clause, hv⟩
  · rintro ⟨text, clause, hv⟩
    refine ⟨_, ⟨text, clause, rfl⟩, ?_⟩
    rwa [String.toList_ofList]

end Scope

/-- The columns that a view lists are fields of its relations, each listed once and not shown. Each
field that the view refers to is listed, or shown as it is; and if its clauses hold no single quotes
or can be read to their ends, no others are listed. -/
theorem compileView_referenced {setting : Setting} {statement : List Char}
    {settings : CompileSettings} {rs : Relations} {view : View} {domain : String} {e : Entity}
    (read : readView setting statement = .ok view)
    (h : compileView settings rs view domain = .ok e) :
    ∃ scope shown columns, Scope.ofView rs view domain = .ok scope ∧ scope.columns = .ok shown ∧
      listedColumns view shown = .ok columns ∧ e.referenced.Nodup ∧
      (∀ s ∈ e.referenced, (∃ r f, scope.Has rs domain r f ∧ s = r.fullName f) ∧
        ∀ c ∈ columns, ∀ r f, c.Shows r f → r.fullName f ≠ s) ∧
      (∀ r f, scope.Refers rs domain statement r f → r.fullName f ∈ e.referenced ∨
        ∃ c ∈ columns, ∃ r' f', scope.Has rs domain r' f' ∧ c.Shows r' f' ∧
        r'.fullName f' = r.fullName f) ∧
      ((∀ text, IsClauseOf statement text → '\'' ∉ text ∨ ∃ refs, Scope.Reads (trim text) refs []) →
        ∀ s ∈ e.referenced, ∃ r f, scope.Refers rs domain statement r f ∧ s = r.fullName f) := by
  obtain ⟨scope, shown, columns, hs, hw, hl, -, rfl⟩ := compileView_ok.1 h
  have of := Scope.of_ofView hs
  have plain := Scope.plain_listedColumns (Scope.plain_columns of hw) hl
  have found {s : String} := Scope.found_iff (s := s) of read
  refine ⟨scope, shown, columns, hs, hw, hl, Scope.nodup_eraseDups _, fun s hm => ?_,
    fun r f refers => ?_, fun readable s hm => ?_⟩
  · obtain ⟨listed, unshown⟩ := Scope.mem_referenced.1 hm
    obtain ⟨-, -, v, -, hv⟩ := found.1 listed
    obtain ⟨-, r, f, owner, hf, eq⟩ := Scope.reference?_some.1 hv
    refine ⟨⟨r, f, owner.has of (Scope.mem_of_fieldUpToCase? hf), eq⟩, fun c hc r f shows eq => ?_⟩
    exact unshown c hc (by rw [shows.origin, eq])
  · obtain ⟨text, clause, refs, left, reads, m, hm, word, means⟩ := refers
    have listed : ∃ filter ∈ scope.view.filters, r.fullName f ∈ scope.referencesIn filter := by
      refine found.2 ⟨text, clause, m.found, ?_,
        (Scope.reference?_found of).2 ⟨word, r, f, means, rfl⟩⟩
      rw [reads.scan_eq]
      exact List.mem_append_left _ (List.mem_map_of_mem hm)
    -- A column is dropped from the list only for a shown one with its full name as origin.
    by_cases hc : ∃ c ∈ columns, c.origin = some (r.fullName f)
    · obtain ⟨c, hc, ho⟩ := hc
      obtain ⟨r', f', has, shows⟩ := plain c hc _ ho
      exact .inr ⟨c, hc, r', f', has, shows, Option.some.inj (shows.origin.symm.trans ho)⟩
    · exact .inl (Scope.mem_referenced.2 ⟨listed, fun c hm ho => hc ⟨c, hm, ho⟩⟩)
  · obtain ⟨text, clause, v, hv, hs⟩ := found.1 (Scope.mem_referenced.1 hm).1
    obtain ⟨refs, reads⟩ : ∃ refs, Scope.Reads (trim text) refs [] :=
      (readable text clause).elim (fun noQuote => Scope.exists_reads fun hm =>
        noQuote (mem_of_mem_trim hm)) id
    rw [reads.scan_eq, Scope.scan_nil, List.append_nil] at hv
    obtain ⟨m, hm, rfl⟩ := List.mem_map.1 hv
    obtain ⟨word, r, f, means, eq⟩ := (Scope.reference?_found of).1 hs
    exact ⟨r, f, ⟨text, clause, refs, [], reads, m, hm, word, means⟩, eq⟩

namespace Ledger

/-- The model of items. -/
def items : Entity := relation "Item" "items" ["id", "count"]

/-- A statement in a file of its own. -/
def setting (statement : String) : Setting :=
  { text := statement.toList, source := none, domain := none, start := 0 }

/-- A view of all columns of one relation that is joined with another one. -/
def shownView (statement star : String) (sources : List Source) (join : String) : View where
  name := "shown"
  domain := none
  projections := [{ expression := star, givenName := none, offset := 28 }]
  sources := sources
  columnNames := none
  filters := [join]
  source := none
  text := statement.toList
  offset := 0
  line := 1

/-- What a result has as an option is its result. -/
lemma ok_of_toOption {α : Type} {x : Outcome α} {a : α} (h : x.toOption = some a) : x = .ok a := by
  cases x with
  | error => cases h
  | ok b => exact congrArg Except.ok (Option.some.inj h)

/-- A column behind the one letter that its relation goes by. -/
def dotted (q c : Char) (s : List Char) (hq : beginsIdentifier false q = true)
    (hc : beginsIdentifier false c = true) (hs : ∀ d ∈ s, continuesIdentifier d = true)
    (noQuote : '\'' ∉ [q] ∧ '\'' ∉ c :: s) : Scope.Reference where
  qualifier := some (⟨[q], .letter hq, noQuote.1⟩, .none, .none)
  name := ⟨c :: s, .word hc hs, noQuote.2⟩

/-- Compiling into one domain. -/
def settings : CompileSettings := { defaultDomain := "default" }

/-- A view of all columns of one relation compiles if they have different names. -/
lemma compile_star {scope : Scope} {rs : Relations} {view : View} {item : Projection}
    {q rest : List Char} {r : Entity} (known : Scope.ofView rs view "default" = .ok scope)
    (only : scope.view.projections = [item])
    (star : Expression.star.first? item.expression.toList = some (some q, rest))
    (source : scope.relation? (String.ofList (unquote q)) = some r)
    (listed : view.columnNames = none) (names : r.fieldNames.Nodup) :
    scope.columns = .ok (r.fields.map (Resolved.ofField r)) ∧
      listedColumns view (r.fields.map (Resolved.ofField r)) =
        .ok (r.fields.map (Resolved.ofField r)) ∧
      compileView settings rs view "default" =
        .ok (viewEntity settings scope "default" (r.fields.map (Resolved.ofField r))) := by
  have each : scope.columnsOf item = .ok (r.fields.map (Resolved.ofField r)) := by
    unfold Scope.columnsOf
    rw [star]
    exact Outcome.bind_ok.2 ⟨[r], Outcome.map_ok.2 ⟨r, Scope.relation_ok.2 source, rfl⟩, by simp⟩
  have columns : scope.columns = .ok (r.fields.map (Resolved.ofField r)) := by
    refine Outcome.map_ok.2 ⟨[r.fields.map (Resolved.ofField r)], Outcome.mapM_ok.2 ?_, by simp⟩
    rw [only]
    exact .cons each .nil
  have same : listedColumns view (r.fields.map (Resolved.ofField r)) =
      .ok (r.fields.map (Resolved.ofField r)) := by
    unfold listedColumns
    rw [listed]
  refine ⟨columns, same, compileView_ok.2 ⟨scope, _, _, known, columns, same,
    repeatedNames_isEmpty.2 ?_, rfl⟩⟩
  rw [List.map_map]
  exact names

/-- Orders joined with users, of whom all columns are shown. -/
def usersView : View :=
  shownView "CREATE VIEW shown AS SELECT u.* FROM orders o JOIN users u ON o.user_id = u.id" "u.*"
    [⟨"orders", some "o"⟩, ⟨"users", some "u"⟩] "o.user_id = u.id"

/-- The names of the view of users. -/
def usersScope : Scope :=
  ⟨usersView, [("u", users), ("users", users), ("o", orders), ("orders", orders)]⟩

/-- The reference to the identity of a user. -/
def userId : Scope.Reference :=
  dotted 'o' 'u' "ser_id".toList rfl rfl (List.all_eq_true.1 (by decide)) (by decide)

/-- Of the columns that a join refers to, one is shown and the other one is listed. -/
theorem usersView_referenced :
    ∃ e, readView (setting (String.ofList usersView.text)) usersView.text = .ok usersView ∧
    compileView settings [orders, users] usersView "default" = .ok e ∧ e.referenced.Nodup ∧
    "users.id" ∉ e.referenced ∧ "orders.user_id" ∈ e.referenced := by
  have read : readView (setting (String.ofList usersView.text)) usersView.text = .ok usersView :=
    ok_of_toOption (by decide +kernel)
  have known : Scope.ofView [orders, users] usersView "default" = .ok usersScope := rfl
  have star : Expression.star.first? "u.*".toList = some (some ['u'], []) := by decide
  obtain ⟨columns, listed, compiled⟩ :=
    compile_star known rfl star (r := users) (by decide +kernel) rfl (by decide)
  obtain ⟨scope, shown, columns', hs, hw, hl, once, sound, complete, -⟩ :=
    compileView_referenced read compiled
  cases hs.symm.trans known
  cases hw.symm.trans columns
  cases hl.symm.trans listed
  have others : ∀ c ∈ users.fields.map (Resolved.ofField users),
      c.origin ≠ some "orders.user_id" := by decide
  refine ⟨_, read, compiled, once, fun hm => ?_, ?_⟩
  · exact (sound _ hm).2 _ (.head _) users { name := "id", type := .int32, ordinal := 1 } rfl
      (by decide)
  · obtain ⟨text, clause, eq⟩ := (mem_filters_readView read).1 (.head _)
    have eq : trim text = userId.text ++ " = u.id".toList :=
      String.ofList_injective (eq.symm.trans (by decide))
    have refers : usersScope.Refers [orders, users] "default" usersView.text orders
        { name := "user_id", type := .int32, ordinal := 1 } := by
      refine ⟨text, clause, [userId], " = u.id".toList,
        eq ▸ .reference (Scope.Reference.ends_qualified fun _ => ?_) .stop, userId, .head _, by
        decide +kernel, ?_⟩
      · rw [show (Scope.blanked " = u.id".toList).head? = some ' ' by decide]
        rintro _ ⟨⟩
        rfl
      · exact .qualified (s := ⟨"orders", some "o"⟩) (.head _) rfl (.inl (by decide +kernel))
          (by decide +kernel)
          (by decide +kernel)
    refine (complete _ _ refers).resolve_right ?_
    rintro ⟨c, hc, r, f, -, shows, eq⟩
    refine others c hc ?_
    rw [shows]
    exact congrArg some (eq.trans (by decide))

/-- Orders, of which all columns are shown, joined with items by their counts. -/
def countView : View :=
  shownView "CREATE VIEW shown AS SELECT o.* FROM orders o JOIN items i ON i.count = o.id" "o.*"
    [⟨"orders", some "o"⟩, ⟨"items", some "i"⟩] "i.count = o.id"

/-- The names of the view of counts. -/
def countScope : Scope :=
  ⟨countView, [("i", items), ("items", items), ("o", orders), ("orders", orders)]⟩

/-- The reference to the count of an item. -/
def count : Scope.Reference :=
  dotted 'i' 'c' "ount".toList rfl rfl (List.all_eq_true.1 (by decide)) (by decide)

/-- A column whose name is a word of the query language is neither listed nor shown, even if a join
refers to it by a qualifier. -/
theorem countView_referenced :
    ¬ ∀ {setting : Setting} {statement : List Char} {settings : CompileSettings}
    {rs : Relations} {view : View}
      {domain : String} {e : Entity} {scope : Scope} {shown columns : List Resolved},
      readView setting statement = .ok view → compileView settings rs view domain = .ok e →
      Scope.ofView rs view domain = .ok scope → scope.columns = .ok shown →
      listedColumns view shown = .ok columns →
      ∀ text, IsClauseOf statement text → ∀ refs left, Scope.Reads (trim text) refs left →
        ∀ m ∈ refs, m.qualifier.isSome = true → ∀ r f, m.Means scope rs domain r f →
          r.fullName f ∈ e.referenced ∨ ∃ c ∈ columns, c.Shows r f := by
  intro h
  have read : readView (setting (String.ofList countView.text)) countView.text = .ok countView :=
    ok_of_toOption (by decide +kernel)
  have known : Scope.ofView [orders, items] countView "default" = .ok countScope := rfl
  have star : Expression.star.first? "o.*".toList = some (some ['o'], []) := by decide
  obtain ⟨columns, listed, compiled⟩ :=
    compile_star known rfl star (r := orders) (by decide +kernel) rfl (by decide)
  obtain ⟨text, clause, eq⟩ := (mem_filters_readView read).1 (.head _)
  have eq : trim text = count.text ++ " = o.id".toList :=
    String.ofList_injective (eq.symm.trans (by decide))
  have reads : Scope.Reads (trim text) [count] " = o.id".toList := by
    refine eq ▸ .reference (Scope.Reference.ends_qualified fun _ => ?_) .stop
    rw [show (Scope.blanked " = o.id".toList).head? = some ' ' by decide]
    rintro _ ⟨⟩
    rfl
  have means :
      count.Means countScope [orders, items] "default" items
        { name := "count", type := .int32, ordinal := 1 } :=
    .qualified (s := ⟨"items", some "i"⟩) (.tail _ (.head _)) rfl (.inl (by decide +kernel))
      (by decide +kernel)
      (by decide +kernel)
  obtain listed | ⟨c, hc, shows⟩ :=
    h read compiled known columns listed text clause [count] _ reads count (.head _) rfl _ _ means
  · obtain ⟨⟨filter, hf, found⟩, -⟩ := Scope.mem_referenced.1 listed
    cases List.mem_singleton.1 hf
    revert found
    decide +kernel
  · have others : ∀ c ∈ orders.fields.map (Resolved.ofField orders),
        c.origin ≠ some "items.count" := by decide
    refine others c hc ?_
    rw [shows]
    rfl

end Ledger
end Rulebook
