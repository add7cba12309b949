import Mathlib.Data.List.Perm.Basic
import Rulebook.Proofs.Catalog.Rearranged

/-!
# Names in a view

A view knows each of its sources by the alias that it gives it, or else by the name of its table.
Where no source goes by the name of a table that is another one's, every name means the relation of
the source that it was given to (`Scope.Denotes`): qualified and bare columns are read there, and
`*` stands for all fields, source by source. The order of the sources then matters for `*` only
(`Scope.ofView_denotes`). Otherwise some name means the relation of another source, since tables and
aliases share one list of names.
-/

namespace Rulebook
open Sql Text

/-- The name by which a view knows a source: its alias if it has one, or else the
name of its table. -/
def Sql.Source.effectiveName (s : Source) : String :=
  match s.givenName with
  | some a => if a == "" then s.table else a
  | none => s.table

/-- The relation is the only one that a source of a view can mean. -/
def Relations.Means (rs : Relations) (domain : String) (s : Source) (r : Entity) : Prop :=
  rs.candidates domain s.table = [r]

/-- No two sources of a view go by one name up to case. -/
def Sql.View.Distinct (view : View) : Prop :=
  (view.sources.map fun s => Scope.small s.effectiveName).Nodup

/-- No source of a view goes by the name of a table that is another relation. -/
def Sql.View.Clear (view : View) (rs : Relations) (domain : String) : Prop :=
  ∀ s ∈ view.sources, ∀ t ∈ view.sources, Scope.small s.effectiveName = Scope.small t.table →
    ∀ r r', rs.Means domain s r → rs.Means domain t r' → r = r'

/-- In a scope, the names of the sources denote the relations of the sources. -/
structure Scope.Denotes (scope : Scope) (rs : Relations) (domain : String) : Prop where
  /-- A qualified column is read in the relation of the source that goes by the qualifier. -/
  qualified : ∀ s ∈ scope.view.sources, ∀ r, rs.Means domain s r →
    ∀ item q, Scope.small (String.ofList (unquote q)) = Scope.small s.effectiveName →
      ∀ c, Expression.resolveColumn scope item (some q) c =
        match r.column? c with
        | some f => .ok (.ofField r f)
        | none =>
          Expression.reject scope item (.noColumn scope.view.name r.sourceName c item.expression)
  /-- A bare column that the relation of one source has is read there. -/
  bare : ∀ before s after, scope.view.sources = before ++ s :: after → ∀ r, rs.Means domain s r →
    ∀ c f, r.column? c = some f → (∀ t ∈ before ++ after, ∀ r', rs.Means domain t r' →
      r'.column? c = none) → ∀ item, Expression.resolveColumn scope item none c = .ok (.ofField r f)
  /-- All columns are those of the relations of the sources, in their order. -/
  star : ∀ meant, List.Forall₂ (rs.Means domain) scope.view.sources meant →
    ∀ item, scope.expandStar item none =
    .ok (meant.flatMap fun r => r.fields.map (Resolved.ofField r))

/-- An item of a select list that stands for all columns of all sources. -/
def Sql.Projection.IsStar (item : Projection) : Prop :=
  ∃ rest, Expression.star.first? item.expression.toList = some (none, rest)

/-! ## Scopes that are alike -/

/-- Two scopes of one view, up to the order of its sources, know the same names. -/
structure Scope.Alike (a b : Scope) : Prop where
  relation : ∀ n, a.relation? n = b.relation? n
  tables : a.tableRelations.Perm b.tableRelations
  view : a.view = { b.view with sources := a.view.sources }

/-- Another order changes nothing of a list with fewer than two items. -/
lemma eq_or_several_of_perm {α : Type} {l l' : List α} (perm : l.Perm l') :
    l = l' ∨ ∃ a b more c d more', l = a :: b :: more ∧ l' = c :: d :: more' := by
  cases l with
  | nil => exact .inl (List.nil_perm.1 perm).symm
  | cons a rest =>
    cases rest with
    | nil => exact .inl (List.singleton_perm.1 perm)
    | cons b more =>
      have several : l'.length = more.length + 2 := perm.length_eq.symm
      obtain ⟨c, d, more', rfl⟩ : ∃ c d more', l' = c :: d :: more' := by
        match l', several with
        | c :: d :: more', _ => exact ⟨c, d, more', rfl⟩
      exact .inr ⟨a, b, more, c, d, more', rfl, rfl⟩

namespace Scope.Alike

variable {a b : Scope} (h : a.Alike b)
include h

/-- Scopes that are alike belong to a view of one name. -/
lemma name : a.view.name = b.view.name := by rw [h.view]

/-- Scopes that are alike belong to a view of one text. -/
lemma text : a.view.text = b.view.text := by rw [h.view]

/-- Scopes that are alike belong to a view in one file. -/
lemma source : a.view.source = b.view.source := by rw [h.view]

/-- Scopes that are alike belong to a view with the same filters. -/
lemma filters : a.view.filters = b.view.filters := by rw [h.view]

/-- An item is rejected alike in scopes that are alike. -/
lemma reject_eq {α : Type} (item : Projection) (fault : RelationFault) :
    (Expression.reject a item fault : Outcome α) = Expression.reject b item fault := by
  unfold Expression.reject Scope.reject
  rw [h.text, h.source]

/-- A qualifier means the same relation in scopes that are alike. -/
lemma relation_eq (item : Projection) (qualifier : String) :
    Expression.relation a item qualifier = Expression.relation b item qualifier := by
  unfold Expression.relation
  rw [h.relation, h.name, h.reject_eq]

/-- A column is resolved alike in scopes that are alike. -/
lemma resolveColumn_eq (item : Projection) (qualifier : Option (List Char)) (name : String) :
    Expression.resolveColumn a item qualifier name =
    Expression.resolveColumn b item qualifier name := by
  cases qualifier with
  | some q =>
    unfold Expression.resolveColumn
    simp only [h.relation_eq, h.name, h.reject_eq]
  | none =>
    unfold Expression.resolveColumn
    simp only [h.name, h.reject_eq]
    obtain same | ⟨x, y, more, z, w, more', several, several'⟩ :=
      eq_or_several_of_perm (h.tables.filterMap fun r => (r.column? name).map (Resolved.ofField r))
    · rw [same]
    · rw [several, several']

/-- An operand that is no call has the same type in scopes that are alike. -/
lemma resolveAtom_eq (item : Projection) (s : List Char) :
    Expression.resolveAtom a item s = Expression.resolveAtom b item s := by
  unfold Expression.resolveAtom
  simp only [h.resolveColumn_eq, h.reject_eq, h.name]

/-- An operand other than an aggregate has the same type in scopes that are alike. -/
lemma resolveOther_eq (item : Projection) (s : List Char) :
    Expression.resolveOther a item s = Expression.resolveOther b item s := by
  rw [Expression.resolveOther, Expression.resolveOther]
  simp only [h.resolveAtom_eq, h.reject_eq, h.name]

/-- Operands have the same types if each of them has. -/
lemma resolveOperands_eq {item : Projection} {fuel : Nat}
    (each : ∀ s, Expression.resolve a item fuel s = Expression.resolve b item fuel s)
    (os : List Expression.Operand) :
    Expression.resolveOperands a item fuel os = Expression.resolveOperands b item fuel os := by
  induction os with
  | nil => rw [Expression.resolveOperands, Expression.resolveOperands]
  | cons o os ih =>
    rw [Expression.resolveOperands, Expression.resolveOperands]
    simp only [each, ih, h.reject_eq, h.name]

/-- An expression has the same type in scopes that are alike. -/
lemma resolve_eq (item : Projection) (fuel : Nat) (s : List Char) :
    Expression.resolve a item fuel s = Expression.resolve b item fuel s := by
  induction fuel generalizing s with
  | zero =>
    rw [Expression.resolve, Expression.resolve, h.reject_eq, h.name]
  | succ fuel ih =>
    rw [Expression.resolve, Expression.resolve]
    simp only [ih, h.resolveOperands_eq ih, h.resolveOther_eq, h.reject_eq, h.name]

/-- An item gives the same columns in scopes that are alike, unless it stands for all. -/
lemma columnsOf_eq {item : Projection} (hs : ¬ item.IsStar) :
    a.columnsOf item = b.columnsOf item := by
  unfold Scope.columnsOf
  cases found : Expression.star.first? item.expression.toList with
  | some m =>
    obtain ⟨qualifier, rest⟩ := m
    cases qualifier with
    | none => exact absurd ⟨rest, found⟩ hs
    | some q =>
      unfold Scope.expandStar
      simp only [h.relation_eq]
  | none =>
    unfold Expression.typeOf
    simp only [h.resolve_eq, h.name, h.reject_eq]

/-- A reference is taken for the same column in scopes that are alike. -/
lemma reference?_eq (qualifier : Option (List Char)) (name : List Char) :
    a.reference? qualifier name = b.reference? qualifier name := by
  unfold Scope.reference?
  dsimp only
  congr 2
  cases qualifier with
  | some q => exact h.relation _
  | none =>
    have perm := h.tables.filter fun r => (r.fieldUpToCase? (String.ofList (unquote name))).isSome
    dsimp only
    obtain same | ⟨x, y, more, z, w, more', several, several'⟩ := eq_or_several_of_perm perm
    · rw [same]
    · rw [several, several']

/-- A filter refers to the same columns in scopes that are alike. -/
lemma referencesIn_eq (filter : String) : a.referencesIn filter = b.referencesIn filter := by
  unfold Scope.referencesIn
  simp only [h.reference?_eq]

/-- Scopes that are alike list the same columns. -/
lemma referenced_eq (shown : List Resolved) : a.referenced shown = b.referenced shown := by
  unfold Scope.referenced
  simp only [h.filters, funext h.referencesIn_eq]

/-- Without an item that stands for all columns, the columns of a view are the same in
scopes that are alike. -/
lemma columns_eq (hs : ∀ item ∈ b.view.projections, ¬ item.IsStar) : a.columns = b.columns := by
  have projections : a.view.projections = b.view.projections := by rw [h.view]
  have each : b.view.projections.mapM a.columnsOf = b.view.projections.mapM b.columnsOf :=
    Outcome.mapM_congr fun item hi => h.columnsOf_eq (hs item hi)
  unfold Scope.columns
  rw [projections, each]

/-- A view makes the same entity in scopes that are alike. -/
lemma viewEntity_eq (settings : CompileSettings) (domain : String) (columns : List Resolved) :
    viewEntity settings a domain columns = viewEntity settings b domain columns := by
  unfold viewEntity
  rw [h.name, h.referenced_eq]

end Scope.Alike

/-! ## The names that sources give -/

namespace Relations.Means

variable {rs : Relations} {domain : String} {s t : Source} {r r' : Entity}

/-- A source means one relation only. -/
lemma unique (h : rs.Means domain s r) (h' : rs.Means domain s r') : r = r' :=
  List.singleton_inj.1 (h.symm.trans h')

/-- Sources of one table name, up to case, mean the same relation. -/
lemma of_small_eq (h : rs.Means domain s r) (same : Scope.small s.table = Scope.small t.table) :
    rs.Means domain t r := by
  have lower : lower s.table.toList = lower t.table.toList := String.ofList_injective same
  unfold Relations.Means Relations.candidates at h ⊢
  rwa [← lower]

end Relations.Means

namespace Scope

variable {rs : Relations} {view : View} {domain : String} {s t : Source} {r r' : Entity}

/-- A source gives its relation the name by which the view knows the source, and the
name of the table. -/
lemma mem_namesOf {p : String × Entity} :
    p ∈ namesOf s r ↔ p.2 = r ∧ (p.1 = small s.effectiveName ∨ p.1 = small s.table) := by
  obtain ⟨k, e⟩ := p
  unfold namesOf Source.effectiveName
  cases s.givenName with
  | none => simp [and_comm]
  | some a =>
    dsimp only
    split
    · simp [and_comm]
    · simp only [List.mem_cons, Prod.mk.injEq, List.not_mem_nil, or_false]
      tauto

/-- All sources that resolve give their names. -/
lemma addSources_ok {sources : List Source} {names' : List (String × Entity)} :
    ∀ {names}, addSources rs view domain names sources = .ok names' →
      (∀ s ∈ sources, ∃ r, rs.Means domain s r) ∧
      ∀ p, p ∈ names' ↔ p ∈ names ∨ ∃ s ∈ sources, ∃ r, rs.Means domain s r ∧ p ∈ namesOf s r := by
  induction sources with
  | nil =>
    intro names h
    cases h
    exact ⟨nofun, by simp⟩
  | cons s sources ih =>
    intro names h
    obtain ⟨r, hr, h⟩ := Outcome.bind_ok.1 h
    have means : rs.Means domain s r := resolveSource_ok.1 hr
    obtain ⟨resolve, mem⟩ := ih h
    refine ⟨List.forall_mem_cons.2 ⟨⟨r, means⟩, resolve⟩, fun p => ?_⟩
    rw [mem, List.mem_append]
    constructor
    · rintro ((hp | hp) | ⟨t, ht, r', hr', hp⟩)
      · exact .inr ⟨s, .head _, r, means, hp⟩
      · exact .inl hp
      · exact .inr ⟨t, .tail _ ht, r', hr', hp⟩
    · rintro (hp | ⟨t, ht, r', hr', hp⟩)
      · exact .inl (.inr hp)
      · cases ht with
        | head => exact .inl (.inl (means.unique hr' ▸ hp))
        | tail _ ht => exact .inr ⟨t, ht, r', hr', hp⟩

/-- Sources that resolve give a scope. -/
lemma exists_ofView (resolve : ∀ s ∈ view.sources, ∃ r, rs.Means domain s r) :
    ∃ scope, ofView rs view domain = .ok scope := by
  have add {sources : List Source} : ∀ names, (∀ s ∈ sources, ∃ r, rs.Means domain s r) →
      ∃ names', addSources rs view domain names sources = .ok names' := by
    induction sources with
    | nil => exact fun names _ => ⟨names, rfl⟩
    | cons s sources ih =>
      intro names resolve
      obtain ⟨⟨r, hr⟩, resolve⟩ := List.forall_mem_cons.1 resolve
      obtain ⟨names', h⟩ := ih (namesOf s r ++ names) resolve
      exact ⟨names', Outcome.bind_ok.2 ⟨r, resolveSource_ok.2 hr, h⟩⟩
  obtain ⟨names, h⟩ := add [] resolve
  exact ⟨_, Outcome.bind_ok.2 ⟨names, h, rfl⟩⟩

/-- A name that stands for one thing only is looked up as that. -/
lemma lookup_of_mem {l : List (String × Entity)} {k : String} (hm : (k, r) ∈ l)
    (one : ∀ r', (k, r') ∈ l → r' = r) : l.lookup k = some r := by
  induction l with
  | nil => cases hm
  | cons p l ih =>
    obtain ⟨k', r'⟩ := p
    rw [List.lookup_cons]
    by_cases hk : k = k'
    · subst hk
      rw [beq_self_eq_true]
      exact congrArg some (one r' (.head _))
    · rw [beq_false_of_ne hk]
      have hm : (k, r) ∈ l := (List.mem_cons.1 hm).resolve_left fun h => hk (Prod.mk.inj h).1
      exact ih hm fun r' hr' => one r' (.tail _ hr')

/-- The names of a scope are those that the sources give. -/
structure Of (scope : Scope) (rs : Relations) (view : View) (domain : String) : Prop where
  view_eq : scope.view = view
  resolve : ∀ s ∈ view.sources, ∃ r, rs.Means domain s r
  mem : ∀ p, p ∈ scope.names ↔ ∃ s ∈ view.sources, ∃ r, rs.Means domain s r ∧ p ∈ namesOf s r

/-- The names of the scope of a view are those that its sources give. -/
lemma of_ofView {scope : Scope} (h : ofView rs view domain = .ok scope) :
    scope.Of rs view domain := by
  obtain ⟨names, hn, h⟩ := Outcome.bind_ok.1 h
  cases h
  obtain ⟨resolve, mem⟩ := addSources_ok hn
  exact ⟨rfl, resolve, fun p => by simpa using mem p⟩

end Scope

namespace Sql.View

variable {rs : Relations} {view : View} {domain : String}

/-- Sources that go by one name are one source. -/
lemma Distinct.eq (h : view.Distinct) {s t : Source} (hs : s ∈ view.sources) (ht : t ∈ view.sources)
    (same : Scope.small s.effectiveName = Scope.small t.effectiveName) : s = t :=
  List.inj_on_of_nodup_map h hs ht same

/-- Where no name of a source is the table of another relation, all that give one name give
it to one relation. -/
lemma Clear.agree (clear : view.Clear rs domain) (distinct : view.Distinct) {s t : Source}
    {r r' : Entity} {k : String} (hs : s ∈ view.sources) (ht : t ∈ view.sources)
    (hr : rs.Means domain s r) (hr' : rs.Means domain t r')
    (hk : k = Scope.small s.effectiveName ∨ k = Scope.small s.table)
    (hk' : k = Scope.small t.effectiveName ∨ k = Scope.small t.table) : r = r' := by
  obtain hk | hk := hk
  · obtain hk' | hk' := hk'
    · cases distinct.eq hs ht (hk.symm.trans hk')
      exact hr.unique hr'
    · exact clear s hs t ht (hk.symm.trans hk') r r' hr hr'
  · obtain hk' | hk' := hk'
    · exact (clear t ht s hs (hk'.symm.trans hk) r' r hr' hr).symm
    · exact (hr.of_small_eq (hk.symm.trans hk')).unique hr'

/-- Whether names are clear does not depend on the order of the sources. -/
lemma Clear.perm {sources : List Source} (clear : view.Clear rs domain)
    (perm : sources.Perm view.sources) :
    ({ view with sources } : View).Clear rs domain :=
  fun s hs t ht => clear s (perm.mem_iff.1 hs) t (perm.mem_iff.1 ht)

/-- Whether names are distinct does not depend on the order of the sources. -/
lemma Distinct.perm {sources : List Source} (distinct : view.Distinct)
    (perm : sources.Perm view.sources) :
    ({ view with sources } : View).Distinct :=
  (perm.map _).nodup_iff.2 distinct

end Sql.View

namespace Relations.Means

variable {rs : Relations} {domain : String} {sources : List Source}

/-- Sources that resolve mean a list of relations. -/
lemma exists_forall₂ (resolve : ∀ s ∈ sources, ∃ r, rs.Means domain s r) :
    ∃ meant, List.Forall₂ (rs.Means domain) sources meant := by
  induction sources with
  | nil => exact ⟨[], .nil⟩
  | cons s sources ih =>
    obtain ⟨⟨r, hr⟩, resolve⟩ := List.forall_mem_cons.1 resolve
    obtain ⟨meant, h⟩ := ih resolve
    exact ⟨r :: meant, .cons hr h⟩

/-- A look-up that finds what each source means finds all that the sources mean. -/
lemma filterMap_eq {meant : List Entity} {f : Source → Option Entity}
    (h : List.Forall₂ (rs.Means domain) sources meant)
    (known : ∀ s ∈ sources, ∀ r, rs.Means domain s r → f s = some r) :
    sources.filterMap f = meant := by
  induction h with
  | nil => rfl
  | cons hr _ ih =>
    rw [List.forall_mem_cons] at known
    rw [List.filterMap_cons, known.1 _ hr, ih known.2]

/-- A column that no source's relation has is found nowhere. -/
lemma resolved_eq_nil {meant : List Entity} {c : String}
    (h : List.Forall₂ (rs.Means domain) sources meant)
    (lacks : ∀ t ∈ sources, ∀ r, rs.Means domain t r → r.column? c = none) :
    meant.filterMap (fun r => (r.column? c).map (Resolved.ofField r)) = [] := by
  refine List.filterMap_eq_nil_iff.2 fun e he => ?_
  obtain ⟨t, ht, means⟩ := exists_of_forall₂ h he
  rw [lacks t ht e means]
  rfl

end Relations.Means

namespace Scope.Of

variable {scope : Scope} {rs : Relations} {view : View} {domain : String}
  (of : scope.Of rs view domain)
include of

/-- Where the names are clear, a source is known by its own name and by that of its table. -/
lemma relation?_eq (clear : view.Clear rs domain) (distinct : view.Distinct) {s : Source}
    (hs : s ∈ view.sources) {r : Entity} (hr : rs.Means domain s r) {n : String}
    (hn : small n = small s.effectiveName ∨ small n = small s.table) :
    scope.relation? n = some r := by
  refine lookup_of_mem ((of.mem _).2 ⟨s, hs, r, hr, mem_namesOf.2 ⟨rfl, hn⟩⟩) fun r' hm => ?_
  obtain ⟨t, ht, r'', hr', hp⟩ := (of.mem _).1 hm
  obtain ⟨rfl, hk⟩ := mem_namesOf.1 hp
  exact clear.agree distinct ht hs hr' hr hk hn

/-- A name that no source goes by, and that is the table of none, is unknown. -/
lemma relation?_none {n : String}
    (other : ∀ s ∈ view.sources, small n ≠ small s.effectiveName ∧ small n ≠ small s.table) :
    scope.relation? n = none := by
  unfold relation?
  rw [List.lookup_eq_none_iff]
  intro p hp
  obtain ⟨s, hs, r, -, hp⟩ := (of.mem _).1 hp
  obtain ⟨-, hk⟩ := mem_namesOf.1 hp
  obtain ⟨h₁, h₂⟩ := other s hs
  rw [bne_iff_ne]
  rintro eq
  exact hk.elim (fun hk => h₁ (eq.trans hk)) fun hk => h₂ (eq.trans hk)

/-- Where the names are clear, the relations known by their tables are those
that the sources mean. -/
lemma tableRelations_eq (clear : view.Clear rs domain) (distinct : view.Distinct)
    {meant : List Entity} (h : List.Forall₂ (rs.Means domain) view.sources meant) :
    scope.tableRelations = meant := by
  unfold tableRelations
  rw [of.view_eq]
  exact Relations.Means.filterMap_eq h fun s hs r hr =>
    of.relation?_eq clear distinct hs hr (.inr rfl)

/-- Where the names are clear, the relations known by the names of the sources are those
that the sources mean. -/
lemma aliasRelations_eq (clear : view.Clear rs domain) (distinct : view.Distinct)
    {meant : List Entity} (h : List.Forall₂ (rs.Means domain) view.sources meant) :
    scope.aliasRelations = meant := by
  unfold aliasRelations
  rw [of.view_eq]
  refine Relations.Means.filterMap_eq h fun s hs r hr => ?_
  have known := of.relation?_eq clear distinct hs hr (.inl rfl)
  unfold Source.effectiveName at known
  cases hg : s.givenName with
  | none => rwa [hg] at known
  | some a => rwa [hg] at known

/-- Where the names are clear, they denote the relations of the sources. -/
lemma denotes (clear : view.Clear rs domain) (distinct : view.Distinct) :
    scope.Denotes rs domain := by
  constructor
  case qualified =>
    intro s hs r hr item q hq c
    rw [of.view_eq] at hs
    have known : Expression.relation scope item (String.ofList (unquote q)) = .ok r := by
      unfold Expression.relation
      rw [of.relation?_eq clear distinct hs hr (.inl hq)]
    unfold Expression.resolveColumn
    dsimp only
    rw [known]
    rfl
  case bare =>
    intro before s after hs r hr c f hf others item
    rw [of.view_eq] at hs
    have resolve := of.resolve
    rw [hs] at resolve
    obtain ⟨meant₁, h₁⟩ := Relations.Means.exists_forall₂ fun t ht =>
      resolve t (List.mem_append_left _ ht)
    obtain ⟨meant₂, h₂⟩ := Relations.Means.exists_forall₂ fun t ht =>
      resolve t (List.mem_append_right _ (.tail _ ht))
    have all : List.Forall₂ (rs.Means domain) view.sources (meant₁ ++ r :: meant₂) := by
      rw [hs]
      exact List.rel_append h₁ (.cons hr h₂)
    -- Of the relations that the sources mean, all but one lack the column.
    have found : scope.tableRelations.filterMap (fun r => (r.column? c).map (Resolved.ofField r)) =
        [.ofField r f] := by
      rw [of.tableRelations_eq clear distinct all, List.filterMap_append, List.filterMap_cons, hf,
        Relations.Means.resolved_eq_nil h₁ fun t ht => others t (List.mem_append_left _ ht),
        Relations.Means.resolved_eq_nil h₂ fun t ht => others t (List.mem_append_right _ ht)]
      rfl
    unfold Expression.resolveColumn
    dsimp only
    rw [found]
  case star =>
    intro meant h item
    rw [of.view_eq] at h
    unfold expandStar
    rw [of.aliasRelations_eq clear distinct h]
    rfl

/-- Where the names are clear, a view with its sources in another order knows them
by the same names. -/
lemma alike {sources : List Source} {scope' : Scope} (clear : view.Clear rs domain)
    (distinct : view.Distinct) (perm : sources.Perm view.sources)
    (of' : scope'.Of rs { view with sources } domain) :
    scope'.Alike scope := by
  have relation (n : String) : scope'.relation? n = scope.relation? n := by
    by_cases known : ∃ s ∈ view.sources, small n = small s.effectiveName ∨ small n = small s.table
    · obtain ⟨s, hs, hn⟩ := known
      obtain ⟨r, hr⟩ := of.resolve s hs
      rw [of.relation?_eq clear distinct hs hr hn,
        of'.relation?_eq (clear.perm perm) (distinct.perm perm) (perm.mem_iff.2 hs) hr hn]
    · have other : ∀ s ∈ view.sources, small n ≠ small s.effectiveName ∧ small n ≠ small s.table :=
        fun s hs => ⟨fun h => known ⟨s, hs, .inl h⟩, fun h => known ⟨s, hs, .inr h⟩⟩
      rw [of.relation?_none other, of'.relation?_none fun s hs => other s (perm.mem_iff.1 hs)]
  refine ⟨relation, ?_, ?_⟩
  · unfold tableRelations
    rw [of.view_eq, of'.view_eq, funext fun s : Source => relation s.table]
    exact perm.filterMap _
  · rw [of.view_eq, of'.view_eq]

end Scope.Of

/-- Names denote the relations that they were given to exactly if no source goes by the name
of a table that is another relation. Then a qualified column is read in the relation of its
source, a bare one in the only relation that has it, and `*` gives all fields source by
source; with the sources in another order the view compiles to the same, unless `*` lists the
columns in that order. -/
theorem Scope.ofView_denotes {rs : Relations} {view : View} {domain : String} {scope : Scope}
    (h : Scope.ofView rs view domain = .ok scope) (distinct : view.Distinct) :
    (view.Clear rs domain ↔ ∀ s ∈ view.sources, ∀ r, rs.Means domain s r →
      scope.relation? s.effectiveName = some r ∧ scope.relation? s.table = some r) ∧
    (view.Clear rs domain → scope.Denotes rs domain ∧
      ∀ sources, sources.Perm view.sources →
        (∃ scope', Scope.ofView rs { view with sources } domain = .ok scope' ∧
          scope'.Denotes rs domain ∧
          ∀ item : Projection, ¬ item.IsStar → scope'.columnsOf item = scope.columnsOf item) ∧
        ((∀ item ∈ view.projections, ¬ item.IsStar) → ∀ settings,
          compileView settings rs { view with sources } domain =
          compileView settings rs view domain)) := by
  have of := Scope.of_ofView h
  refine ⟨⟨fun clear s hs r hr => ?_, fun known s hs t ht same r r' hr hr' => ?_⟩, fun clear => ?_⟩
  · exact ⟨of.relation?_eq clear distinct hs hr (.inl rfl),
      of.relation?_eq clear distinct hs hr (.inr rfl)⟩
  · have first := (known s hs r hr).1
    unfold Scope.relation? at first
    rw [same] at first
    exact Option.some.inj (first.symm.trans (known t ht r' hr').2)
  · refine ⟨of.denotes clear distinct, fun sources perm => ?_⟩
    obtain ⟨scope', h'⟩ : ∃ scope', Scope.ofView rs { view with sources } domain = .ok scope' :=
      Scope.exists_ofView
      fun s hs => of.resolve s (perm.mem_iff.1 hs)
    have of' := Scope.of_ofView h'
    have alike := of.alike clear distinct perm of'
    refine ⟨⟨scope', h', of'.denotes (clear.perm perm) (distinct.perm perm), fun item =>
      alike.columnsOf_eq⟩, ?_⟩
    intro noStar settings
    have columns : scope'.columns = scope.columns := alike.columns_eq (of.view_eq ▸ noStar)
    unfold compileView
    rw [h, h', Outcome.ok_bind, Outcome.ok_bind, columns]
    simp only [alike.viewEntity_eq]
    rfl

namespace Ledger

/-- A relation of whole numbers. -/
def relation (name source : String) (fields : List String) : Entity where
  kind := .model
  name := name
  domain := "default"
  sourceName := source
  resource := source
  fields := fields.map fun name => { name, type := .int32, ordinal := 1 }

/-- The model of orders. -/
def orders : Entity := relation "Order" "orders" ["id", "user_id"]

/-- The model of users. -/
def users : Entity := relation "User" "users" ["id", "age"]

/-- A view of an order and its user. -/
def view (sources : List Source) : View where
  name := "ages"
  domain := none
  projections := [{ expression := "o.id", givenName := none, offset := 0 },
    { expression := "age", givenName := none, offset := 0 }]
  sources := sources
  columnNames := none
  filters := ["o.user_id = u.id"]
  source := none
  text := []
  offset := 0
  line := 1

/-- Orders under one alias, users under another. -/
def aliased : List Source := [⟨"orders", some "o"⟩, ⟨"users", some "u"⟩]

/-- Both names of the view mean what they were given to, and the sources can be listed
the other way round. -/
theorem aliased_denotes :
    ∃ scope, Scope.ofView [orders, users] (view aliased) "default" = .ok scope ∧
    (view aliased).Distinct ∧
      (view aliased).Clear [orders, users] "default" ∧ scope.Denotes [orders, users] "default" ∧
      ∀ settings, compileView settings [orders, users] (view aliased.reverse) "default" =
        compileView settings [orders, users] (view aliased) "default" := by
  have distinct : (view aliased).Distinct := by
    unfold View.Distinct
    decide
  have compiled : Scope.ofView [orders, users] (view aliased) "default" =
      .ok ⟨view aliased, [("u", users), ("users", users), ("o", orders), ("orders", orders)]⟩ := rfl
  obtain ⟨known, right⟩ := Scope.ofView_denotes compiled distinct
  have clear : (view aliased).Clear [orders, users] "default" := by
    refine known.2 fun s hs r hr => ?_
    obtain rfl | rfl : s = ⟨"orders", some "o"⟩ ∨ s = ⟨"users", some "u"⟩ := by
      simpa [view, aliased] using hs
    · cases (show Relations.Means [orders, users] "default" ⟨"orders", some "o"⟩ orders
        from rfl).unique hr
      exact ⟨rfl, rfl⟩
    · cases (show Relations.Means [orders, users] "default" ⟨"users", some "u"⟩ users
        from rfl).unique hr
      exact ⟨rfl, rfl⟩
  have noStar : ∀ item ∈ (view aliased).projections, ¬ item.IsStar := by
    have plain : ∀ item ∈ (view aliased).projections,
        Expression.star.first? item.expression.toList = none := by
      decide
    intro item hi ⟨rest, found⟩
    cases (plain item hi).symm.trans found
  obtain ⟨denotes, orders⟩ := right clear
  exact ⟨_, compiled, distinct, clear, denotes,
    (orders aliased.reverse (List.reverse_perm _)).2 noStar⟩

/-- Users under an alias, orders under the name of the table of users. -/
def crossed : List Source := [⟨"users", some "u"⟩, ⟨"orders", some "users"⟩]

/-- Names of sources that are distinct need not mean the relations that they were given to: the
column that only users have is not found. -/
theorem crossed_denotes :
    ¬ ∀ {rs : Relations} {view : View} {domain : String} {scope : Scope},
      Scope.ofView rs view domain = .ok scope → view.Distinct → scope.Denotes rs domain := by
  intro h
  have distinct : (view crossed).Distinct := by
    unfold View.Distinct
    decide
  have compiled : Scope.ofView [orders, users] (view crossed) "default" =
      .ok ⟨view crossed, [("users", orders), ("orders", orders), ("u", users), ("users", users)]⟩ :=
      rfl
  have others : ∀ t ∈ [] ++ [(⟨"orders", some "users"⟩ : Source)], ∀ r,
      Relations.Means [orders, users] "default" t r → r.column? "age" = none := by
    intro t ht r hr
    cases List.mem_singleton.1 ht
    cases (show Relations.Means [orders, users] "default" ⟨"orders", some "users"⟩ orders
      from rfl).unique hr
    rfl
  have found := (h compiled distinct).bare [] ⟨"users", some "u"⟩ [⟨"orders", some "users"⟩] rfl
    users rfl
    "age" { name := "age", type := .int32, ordinal := 1 } rfl others
    { expression := "age", givenName := none, offset := 0 }
  cases found

end Ledger
end Rulebook
