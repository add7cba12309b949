import Mathlib.Data.List.Nodup
import Rulebook.Proofs.Catalog.Compile
import Rulebook.Proofs.Catalog.Referenced
import Rulebook.Proofs.Sql.KeyNumbering

/-!
# Primary keys are numbered without gaps

The places that columns have in the primary key are the places in one order (`Table.Numbered`),
which the statement declares. So the numbers are those from one on, each once, and sorting the
fields of the compiled table by their numbers gives back the order
(`Sql.Table.Numbered.primaryKey_eq`).
-/

namespace Rulebook
open Sql Text

variable {order : List ℕ}

/-! ## Items at the indices of an order -/

section

variable {α : Type} {l : List α} {p : α → Bool}

/-- All elements of a list at all of its indices are the list. -/
lemma filterMap_range_getElem? (l : List α) : (List.range l.length).filterMap (l[·]?) = l := by
  induction l using List.reverseRecOn with
  | nil => rfl
  | append_singleton l a ih =>
    have before : (List.range l.length).filterMap ((l ++ [a])[·]?) =
        (List.range l.length).filterMap (l[·]?) :=
      List.filterMap_congr fun i hi => List.getElem?_append_left (List.mem_range.1 hi)
    rw [List.length_append, List.length_singleton, List.range_succ, List.filterMap_append, before,
      ih]
    simp

/-- The items at the indices of an order are those that a filter lets through, if it
goes by the index. -/
lemma filter_perm (nd : order.Nodup) (within : ∀ i ∈ order, i < l.length)
    (h : ∀ i a, l[i]? = some a → (p a = true ↔ i ∈ order)) :
    (l.filter p).Perm (order.filterMap (l[·]?)) := by
  have indices : ((List.range l.length).filter (· ∈ order)).Perm order := by
    refine (List.perm_ext_iff_of_nodup (List.nodup_range.filter _) nd).2 fun i => ?_
    rw [List.mem_filter, List.mem_range, decide_eq_true_eq]
    exact ⟨And.right, fun hi => ⟨within i hi, hi⟩⟩
  -- Read by index, the filtered items are the image of these indices, and so are those at the
  -- indices of the order.
  have filtered : l.filter p = ((List.range l.length).filter (· ∈ order)).filterMap (l[·]?) := by
    conv => lhs; rw [← filterMap_range_getElem? l]
    rw [List.filter_filterMap, List.filterMap_filter]
    refine List.filterMap_congr fun i _ => ?_
    cases at_i : l[i]? with
    | none => simp
    | some a =>
      simp only [Option.filter_some, h i a at_i, decide_eq_true_eq]
  rw [filtered]
  exact indices.filterMap _

/-- Sorting by a number gives the one rearrangement in which the number rises. -/
lemma mergeSort_of_perm (number : α → Int) {m : List α} (perm : l.Perm m)
    (rises : m.Pairwise fun a b => number a < number b) :
    (l.mergeSort fun a b => number a ≤ number b) = m := by
  have sorted : (l.mergeSort fun a b => number a ≤ number b).Pairwise fun a b =>
      number a ≤ number b := by
    refine (List.pairwise_mergeSort (fun a b c hab hbc => ?_) (fun a b => ?_) l).imp fun h =>
      of_decide_eq_true h
    · exact decide_eq_true (Int.le_trans (of_decide_eq_true hab) (of_decide_eq_true hbc))
    · exact Bool.or_eq_true_iff.2 ((Int.le_total _ _).imp decide_eq_true decide_eq_true)
  have rearranged : (l.mergeSort fun a b => number a ≤ number b).Perm m :=
    (List.mergeSort_perm l _).trans perm
  have numbers : (m.map number).Nodup := List.pairwise_map.2 (rises.imp Int.ne_of_lt)
  refine rearranged.eq_of_pairwise (fun a b ha hb below above => ?_) sorted (rises.imp Int.le_of_lt)
  exact List.inj_on_of_nodup_map numbers (rearranged.mem_iff.1 ha) hb (Int.le_antisymm below above)

end

/-! ## Numbered tables -/

/-- The key columns of a table are those of an order, numbered by their places in it, and none
of them can be null. -/
structure Sql.Table.Numbered (t : Table) (order : List ℕ) : Prop where
  distinct : order.Nodup
  within : ∀ i ∈ order, i < t.columns.length
  placed : ∀ i c, t.columns[i]? = some c → c.keyPosition = placeIn order i
  keys : ∀ c ∈ t.columns, c.isKey = true ↔ c.keyPosition.isSome = true
  nonnull : ∀ c ∈ t.columns, c.isKey = true → c.nullable = false

namespace Sql

variable {t : Table} {c : Column} {items : Items}

/-- Columns that an order makes keys are numbered by it, if the order has all
that were keys before. -/
lemma numbered_of_keyed (nd : order.Nodup) (within : ∀ i ∈ order, i < items.columns.length)
    (declared : ∀ c ∈ items.columns, c.Declared)
    (inline : ∀ i c, items.columns[i]? = some c → c.isKey = true → i ∈ order)
    (h : t.columns = keyed order items.columns) : t.Numbered order := by
  have origin (i : ℕ) (c : Column) (at_i : t.columns[i]? = some c) :
      ∃ d, items.columns[i]? = some d ∧ d.keyed order i = c := by
    rw [h, keyed, List.getElem?_mapIdx] at at_i
    exact Option.map_eq_some_iff.1 at_i
  have placed (i : ℕ) (c : Column) (at_i : t.columns[i]? = some c) :
      c.keyPosition = placeIn order i := by
    obtain ⟨d, hd, rfl⟩ := origin i c at_i
    unfold Column.keyed
    cases place : placeIn order i with
    | none => exact (declared d (List.mem_of_getElem? hd)).unnumbered
    | some k => rfl
  refine ⟨nd, ?_, placed, ?_, ?_⟩
  · rw [h, keyed, List.length_mapIdx]
    exact within
  · intro c hc
    obtain ⟨i, at_i⟩ := List.getElem?_of_mem hc
    obtain ⟨d, hd, rfl⟩ := origin i c at_i
    rw [placed i _ at_i, isSome_placeIn, Column.isKey_keyed]
    exact or_iff_left_of_imp (inline i d hd)
  · intro c hc
    obtain ⟨i, at_i⟩ := List.getElem?_of_mem hc
    obtain ⟨d, hd, rfl⟩ := origin i c at_i
    unfold Column.keyed
    cases placeIn order i with
    | none => exact (declared d (List.mem_of_getElem? hd)).nonnull
    | some k => exact fun _ => rfl

/-- The numbers of the key columns are those from one on, each once. -/
lemma Table.Numbered.positions (h : t.Numbered order) :
    (t.columns.filterMap (·.keyPosition)).Perm (List.range' 1 order.length) := by
  have keyed : t.columns.filterMap (·.keyPosition) =
      (t.columns.filter (·.keyPosition.isSome)).filterMap (·.keyPosition) := by
    rw [List.filterMap_filter]
    refine List.filterMap_congr fun c _ => ?_
    cases c.keyPosition <;> rfl
  have ordered := filter_perm (p := (·.keyPosition.isSome)) h.distinct h.within fun i c at_i => by
    rw [h.placed i c at_i, isSome_placeIn]
  have places : (order.filterMap (t.columns[·]?)).filterMap (·.keyPosition) =
      order.filterMap (placeIn order) := by
    rw [List.filterMap_filterMap]
    refine List.filterMap_congr fun i hi => ?_
    have at_i := List.getElem?_eq_getElem (h.within i hi)
    rw [at_i, Option.bind_some, h.placed i _ at_i]
  rw [keyed, ← filterMap_placeIn h.distinct, ← places]
  exact ordered.filterMap _

end Sql

/-! ## Compiled tables -/

section

variable {settings : CompileSettings} {t : Table} {domain : String} {i : ℕ} {f : Field}

/-- The fields of a model are the columns of its table, in their order. -/
lemma getElem?_tableEntity (h : (tableEntity settings t domain).fields[i]? = some f) :
    ∃ c, t.columns[i]? = some c ∧ f.name = c.name ∧ f.isKey = c.isKey ∧
    f.keyPosition = c.keyPosition.map Int.ofNat := by
  rw [tableEntity, List.getElem?_map] at h
  obtain ⟨⟨c, ordinal⟩, at_i, rfl⟩ := Option.map_eq_some_iff.1 h
  exact ⟨c, (List.getElem?_zip_eq_some.1 at_i).1, rfl, rfl, rfl⟩

/-- A table makes as many fields as it has columns. -/
lemma length_tableEntity : (tableEntity settings t domain).fields.length = t.columns.length := by
  have names := congrArg List.length (fieldNames_tableEntity settings t domain)
  rwa [Entity.fieldNames, List.length_map, List.length_map] at names

/-- The field at an index of the order has the place of the index as its number. -/
lemma Sql.Table.Numbered.keyPosition_eq (h : t.Numbered order) (hi : i ∈ order)
    (at_i : (tableEntity settings t domain).fields[i]? = some f) :
    f.keyPosition.getD 0 = order.idxOf i + 1 := by
  obtain ⟨c, hc, -, -, position⟩ := getElem?_tableEntity at_i
  rw [position, h.placed i c hc, placeIn, if_pos hi]
  rfl

/-- The key fields of a table are those at the indices of its key order. -/
lemma Sql.Table.Numbered.fields_perm (h : t.Numbered order) (settings : CompileSettings)
    (domain : String) :
    ((tableEntity settings t domain).fields.filter (·.isKey)).Perm
      (order.filterMap ((tableEntity settings t domain).fields[·]?)) := by
  refine filter_perm h.distinct (fun i hi => ?_) fun i f at_i => ?_
  · rw [length_tableEntity]
    exact h.within i hi
  · obtain ⟨c, hc, -, isKey, -⟩ := getElem?_tableEntity at_i
    rw [isKey, h.keys c (List.mem_of_getElem? hc), h.placed i c hc, isSome_placeIn]

/-- Sorting the key fields of a model by their numbers gives them in the order of the key. -/
lemma Sql.Table.Numbered.sorted (h : t.Numbered order) (settings : CompileSettings)
    (domain : String) :
    (((tableEntity settings t domain).fields.filter (·.isKey)).mergeSort fun a b =>
      a.keyPosition.getD 0 ≤ b.keyPosition.getD 0) =
      order.filterMap ((tableEntity settings t domain).fields[·]?) := by
  refine mergeSort_of_perm (fun f : Field => f.keyPosition.getD 0)
    (h.fields_perm settings domain) ?_
  refine List.pairwise_filterMap.2 (List.pairwise_iff_getElem.2 fun m n hm hn below a at_m b at_n =>
    ?_)
  rw [h.keyPosition_eq (List.getElem_mem hm) at_m, h.keyPosition_eq (List.getElem_mem hn) at_n,
    h.distinct.idxOf_getElem, h.distinct.idxOf_getElem]
  omega

/-- The primary key of a model has the names of the key columns in the order of the key. -/
lemma Sql.Table.Numbered.primaryKey_eq (h : t.Numbered order) (settings : CompileSettings)
    (domain : String) :
    (tableEntity settings t domain).primaryKey = order.filterMap fun i =>
    t.columns[i]?.map (·.name) := by
  have names := fieldNames_tableEntity settings t domain
  rw [Entity.primaryKey, h.sorted settings domain, List.map_filterMap]
  refine List.filterMap_congr fun i _ => ?_
  rw [← List.getElem?_map, ← List.getElem?_map, ← names]
  rfl

end

/-- Distinct names, up to case, are those none of which repeats an earlier one. -/
lemma firstRepeated?_of_nodup {names : List String} :
    ∀ {seen : List (List Char)}, (names.map fun n => lower n.toList).Nodup →
    (∀ n ∈ names, lower n.toList ∉ seen) →
      firstRepeated? seen names = none := by
  induction names with
  | nil => intros; rfl
  | cons n ns ih =>
    intro seen nd fresh
    obtain ⟨new, nd⟩ := List.nodup_cons.1 nd
    rw [firstRepeated?, if_neg (by simpa using fresh n (.head _))]
    refine ih nd fun m hm old => ?_
    obtain same | old := List.mem_cons.1 old
    · exact new (List.mem_map.2 ⟨m, hm, same⟩)
    · exact fresh m (.tail _ hm) old

/-- The key columns of a table that is read are those of the order that its statement declares.
Their numbers are the places in this order, so these are the numbers from one on, each once. If its
columns have distinct names up to case the table compiles, and the primary key of the model lists
the names of the key columns in this order. -/
theorem readTable_primaryKey {setting : Setting} {statement : List Char} {t : Table}
    (h : readTable setting statement = .ok t) :
    ∃ items, Declares setting statement items ∧
    t.columns.map (·.name) = items.columns.map (·.name) ∧
      t.Numbered (keyOrder items) ∧
      (t.columns.filterMap (·.keyPosition)).Perm (List.range' 1 (keyOrder items).length) ∧
      ∀ settings domain,
        ((t.columns.map fun c => lower c.name.toList).Nodup →
          ∃ e, compileTable settings t domain = .ok e) ∧
        ∀ e, compileTable settings t domain = .ok e →
          e.primaryKey = (keyOrder items).filterMap fun i => t.columns[i]?.map (·.name) := by
  obtain ⟨items, declares, declared, columns⟩ := readTable_ok h
  have numbered : t.Numbered (keyOrder items) :=
    numbered_of_keyed (Scope.nodup_eraseDups _) (fun i hi => lt_of_mem_keyOrder hi) declared
      (fun i c at_i key => mem_keyOrder_of_isKey at_i key) columns
  refine ⟨items, declares, ?_, numbered, numbered.positions, fun settings domain =>
    ⟨fun distinct => ?_, fun e he => ?_⟩⟩
  · rw [columns, map_name_keyed]
  · refine ⟨_, compileTable_ok.2 ⟨firstRepeated?_of_nodup ?_ nofun, rfl⟩⟩
    rw [List.map_map]
    exact distinct
  · obtain ⟨-, rfl⟩ := compileTable_ok.1 he
    exact numbered.primaryKey_eq settings domain

namespace Postings

/-- A table with a key of its own and a constraint that names keys again. -/
def statement : List Char :=
  "CREATE TABLE postings (id INT PRIMARY KEY, entry INT, year INT, PRIMARY KEY (year, ID, entry, year))".toList

/-- The statement in a file of its own. -/
def setting : Setting := ⟨statement, none, none, 0⟩

/-- The table of the statement. -/
def postings : Table :=
  ⟨"postings", none, [
    { name := "id", nativeType := "INT", type := .int32, nullable := false, isKey := true
      keyPosition := some 1 },
    { name := "entry", nativeType := "INT", type := .int32, nullable := false, isKey := true
      keyPosition := some 3 },
    { name := "year", nativeType := "INT", type := .int32, nullable := false, isKey := true
      keyPosition := some 2 }],
    none, 1⟩

/-- The key of postings is the identity, then year and entry as the constraint names them first. -/
theorem postings_primaryKey : readTable setting statement = .ok postings ∧
    ∃ items, Declares setting statement items ∧ postings.Numbered (keyOrder items) ∧
      ∀ settings domain, ∃ e, compileTable settings postings domain = .ok e ∧
        e.primaryKey = (keyOrder items).filterMap fun i => postings.columns[i]?.map (·.name) := by
  have read : readTable setting statement = .ok postings := by decide +kernel
  obtain ⟨items, declares, -, numbered, -, compiles⟩ := readTable_primaryKey read
  refine ⟨read, items, declares, numbered, fun settings domain => ?_⟩
  obtain ⟨e, compiled⟩ := (compiles settings domain).1 (by decide +kernel)
  exact ⟨e, compiled, (compiles settings domain).2 e compiled⟩

end Postings

end Rulebook
