import Mathlib.Data.List.Induction
import Mathlib.Data.List.Nodup
import Rulebook.Proofs.Outcome
import Rulebook.Sql.Table

/-!
# How the columns of a primary key are numbered

The key columns of a table have an order: those that are keys by their own attribute, then those
that constraints name, each at its first mention (`keyOrder`). Numbering the keys in two passes over
the columns is giving each column its place in this order (`numberKeys_keyed`): the invariant is
that the columns so far are the declared ones with the places of the mentions so far.
-/

namespace Rulebook.Sql
open Text

/-! ## Orders -/

/-- A last mention counts if it is the first one. -/
lemma eraseDups_concat (l : List ℕ) (j : ℕ) :
    (l ++ [j]).eraseDups = if j ∈ l then l.eraseDups else l.eraseDups ++ [j] := by
  rw [List.eraseDups_append, List.removeAll]
  by_cases h : j ∈ l
  · simp [h]
  · simp [h, List.eraseDups_cons]

/-- Where nothing is mentioned twice, nothing is left out. -/
lemma eraseDups_of_nodup {l : List ℕ} (h : l.Nodup) : l.eraseDups = l := by
  induction l using List.reverseRecOn with
  | nil => rfl
  | append_singleton l j ih =>
    obtain ⟨nd, -, apart⟩ := List.nodup_append.1 h
    rw [eraseDups_concat, if_neg fun hj => apart j hj j (.head _) rfl, ih nd]

/-- The place of an index in an order, counted from one. -/
def placeIn (order : List ℕ) (i : ℕ) : Option ℕ :=
  if i ∈ order then some (order.idxOf i + 1) else none

variable {order : List ℕ} {i j : ℕ}

/-- Further mentions change no place. -/
lemma placeIn_append_of_mem (h : i ∈ order) (more : List ℕ) :
    placeIn (order ++ more) i = placeIn order i := by
  rw [placeIn, placeIn, if_pos (List.mem_append_left more h), if_pos h, List.idxOf_append_of_mem h]

/-- A new mention gets the next place. -/
lemma placeIn_concat (h : j ∉ order) :
    placeIn (order ++ [j]) i = if i = j then some (order.length + 1) else placeIn order i := by
  split
  · rename_i same
    subst same
    rw [placeIn, if_pos (by simp), List.idxOf_append_of_notMem h,
      List.idxOf_cons_self, Nat.add_zero]
  · rename_i other
    by_cases old : i ∈ order
    · exact placeIn_append_of_mem old [j]
    · rw [placeIn, placeIn, if_neg old, if_neg (by simp [old, other])]

/-- What is mentioned has a place. -/
lemma isSome_placeIn : (placeIn order i).isSome = true ↔ i ∈ order := by
  unfold placeIn
  split <;> simp [*]

/-- In their order, the places of an order are the numbers from one on. -/
lemma filterMap_placeIn (nd : order.Nodup) :
    order.filterMap (placeIn order) = List.range' 1 order.length := by
  have places : ∀ i ∈ order, placeIn order i = some (order.idxOf i + 1) := fun i hi => if_pos hi
  rw [List.filterMap_congr places, ← Function.comp_def, List.filterMap_eq_map]
  refine List.ext_getElem (by simp) fun k hk _ => ?_
  rw [List.length_map] at hk
  rw [List.getElem_map, nd.idxOf_getElem k hk, List.getElem_range', Nat.one_mul, Nat.add_comm]

/-! ## Columns with places -/

/-- A column, made the key that an order makes the index at which it stands. -/
def Column.keyed (order : List ℕ) (i : ℕ) (c : Column) : Column :=
  match placeIn order i with
  | some k => { c with isKey := true, nullable := false, keyPosition := some k }
  | none => c

/-- Columns, those of an order made keys. -/
def keyed (order : List ℕ) (columns : List Column) : List Column :=
  columns.mapIdx (Column.keyed order)

/-- A column as it is declared: not numbered yet, and not null if it is a key by
its own attribute. -/
structure Column.Declared (c : Column) : Prop where
  unnumbered : c.keyPosition = none
  nonnull : c.isKey = true → c.nullable = false

/-- The indices, counted from a number on, of the columns that are keys by their own attribute. -/
def inlineKeys (n : ℕ) (columns : List Column) : List ℕ :=
  ((columns.zipIdx n).filter (·.1.isKey)).map (·.2)

/-- The index of the last column of a name, up to case. -/
def lastNamed? (name : String) : List String → Option ℕ
  | [] => none
  | n :: ns => ((lastNamed? name ns).map (· + 1)).or (if sameName n name then some 0 else none)

/-- The indices of the key columns in the order of their numbers: those that are keys by their
own attribute, in the order of the columns, then those that constraints name, in the order of
their first mention. -/
def keyOrder (items : Items) : List ℕ :=
  (inlineKeys 0 items.columns ++
    items.keys.filterMap (lastNamed? · (items.columns.map (·.name)))).eraseDups

variable {columns : List Column} {c : Column} {name : String}

/-- Numbering keeps the name of a column. -/
lemma Column.name_keyed (order : List ℕ) (i : ℕ) (c : Column) :
    (c.keyed order i).name = c.name := by
  unfold keyed
  split <;> rfl

/-- Numbering keeps the names of columns. -/
lemma map_name_keyed (order : List ℕ) (columns : List Column) :
    (keyed order columns).map (·.name) = columns.map (·.name) := by
  refine List.ext_getElem? fun i => ?_
  rw [List.getElem?_map, keyed, List.getElem?_mapIdx, Option.map_map, List.getElem?_map]
  exact Option.map_congr fun c _ => Column.name_keyed order i c

/-! ## The last column of a name -/

/-- The last column of a name is one of the columns. -/
lemma lastNamed?_lt {names : List String} (h : lastNamed? name names = some j) :
    j < names.length := by
  induction names generalizing j with
  | nil => cases h
  | cons n ns ih =>
    rw [lastNamed?, Option.or_eq_some_iff] at h
    obtain h | ⟨-, h⟩ := h
    · obtain ⟨k, hk, rfl⟩ := Option.map_eq_some_iff.1 h
      exact Nat.succ_lt_succ (ih hk)
    · split at h
      · cases h
        exact Nat.zero_lt_succ _
      · cases h

/-- A name has a last index if some column has the name. -/
lemma isSome_lastNamed? (name : String) (columns : List Column) :
    (lastNamed? name (columns.map (·.name))).isSome = columns.any (sameName ·.name name) := by
  induction columns with
  | nil => rfl
  | cons c cs ih =>
    rw [List.map_cons, lastNamed?, Option.isSome_or, Option.isSome_map, ih,
      List.any_cons, Bool.or_comm]
    congr 1
    split <;> simp_all

/-- What is found by a name is the column at the last index of the name. -/
lemma columnNamed?_eq (columns : List Column) (name : String) :
    columnNamed? columns name = (lastNamed? name (columns.map (·.name))).bind (columns[·]?) := by
  induction columns with
  | nil => rfl
  | cons c cs ih =>
    have later : columnNamed? (c :: cs) name =
        (columnNamed? cs name).or (if sameName c.name name then some c else none) := by
      unfold columnNamed?
      rw [List.reverse_cons, List.find?_append, List.find?_singleton]
    rw [later, ih, List.map_cons, lastNamed?]
    cases h : lastNamed? name (cs.map (·.name)) with
    | none =>
      simp only [Option.bind_none, Option.map_none, Option.none_or]
      split <;> rfl
    | some j =>
      have bound := lastNamed?_lt h
      rw [List.length_map] at bound
      simp [List.getElem?_eq_getElem bound]

variable {f : Column → Column}

/-- The change of a column goes to the part that has the name first. -/
lemma mapColumnNamed_go_append (l m : List Column) :
    mapColumnNamed.go f name (l ++ m) =
      if l.any (sameName ·.name name) then mapColumnNamed.go f name l ++ m
        else l ++ mapColumnNamed.go f name m := by
  induction l with
  | nil => rfl
  | cons c l ih =>
    rw [List.cons_append, mapColumnNamed.go, mapColumnNamed.go, List.any_cons]
    cases sameName c.name name with
    | true => rfl
    | false =>
      rw [if_neg Bool.false_ne_true, if_neg Bool.false_ne_true, ih, Bool.false_or]
      split <;> rfl

/-- The last column of a name is changed. -/
lemma mapColumnNamed_cons (c : Column) (cs : List Column) :
    mapColumnNamed f name (c :: cs) =
      if cs.any (sameName ·.name name) then c :: mapColumnNamed f name cs
      else (if sameName c.name name then f c else c) :: cs := by
  have single : mapColumnNamed.go f name [c] = [if sameName c.name name then f c else c] := by
    rw [mapColumnNamed.go]
    split <;> rfl
  rw [mapColumnNamed, List.reverse_cons, mapColumnNamed_go_append, List.any_reverse, single]
  split
  · rw [List.reverse_append]
    rfl
  · rw [List.reverse_append, List.reverse_reverse]
    rfl

/-- Changing the last column of a name changes the column at the last index of the name. -/
lemma mapColumnNamed_eq (h : lastNamed? name (columns.map (·.name)) = some j) :
    mapColumnNamed f name columns = columns.modify j f := by
  induction columns generalizing j with
  | nil => cases h
  | cons c cs ih =>
    have found := isSome_lastNamed? name cs
    rw [mapColumnNamed_cons, ← found]
    rw [List.map_cons, lastNamed?] at h
    cases later : lastNamed? name (cs.map (·.name)) with
    | some k =>
      rw [later] at h
      cases h
      rw [if_pos Option.isSome_some, ih later]
      rfl
    | none =>
      rw [later] at h
      split at h
      · cases h
        rename_i same
        rw [if_neg nofun, if_pos same]
        rfl
      · cases h

/-! ## Numbering -/

/-- A column is a key once it is mentioned, or was one before. -/
lemma Column.isKey_keyed (order : List ℕ) (i : ℕ) (c : Column) :
    (c.keyed order i).isKey = true ↔ i ∈ order ∨ c.isKey = true := by
  unfold keyed placeIn
  by_cases h : i ∈ order
  · simp [h]
  · simp [h]

/-- A column that is not mentioned stays as it is. -/
lemma Column.keyed_of_notMem (h : i ∉ order) (c : Column) : c.keyed order i = c := by
  rw [keyed, placeIn, if_neg h]

/-- A new key column gets the next number. -/
lemma keyed_concat (new : j ∉ order) (columns : List Column) :
    (keyed order columns).modify j (fun c =>
      { c with isKey := true, nullable := false, keyPosition := some (order.length + 1) }) =
      keyed (order ++ [j]) columns := by
  refine List.ext_getElem? fun i => ?_
  rw [List.getElem?_modify, keyed, keyed, List.getElem?_mapIdx, List.getElem?_mapIdx,
    Option.map_eq_map, Option.map_map]
  refine Option.map_congr fun c _ => ?_
  by_cases same : i = j
  · subst same
    rw [Function.comp_apply, if_pos rfl, Column.keyed_of_notMem new, Column.keyed,
      placeIn_concat new, if_pos rfl]
  · rw [Function.comp_apply, if_neg (Ne.symm same), Column.keyed, Column.keyed,
      placeIn_concat new, if_neg same]

/-- Where the columns so far have the places of the mentions so far, further mentions
give further places. -/
lemma numberKeys_keyed {undeclared : String → Outcome (List Column)}
    (fails : ∀ key cs, undeclared key ≠ .ok cs) {declared : List Column} {keys : List String}
    (mentions : List ℕ) (inline : ∀ i c, declared[i]? = some c → c.isKey = true → i ∈ mentions)
    (h : numberKeys undeclared (mentions.eraseDups.length + 1)
      (keyed mentions.eraseDups declared) keys = .ok columns) :
    columns = keyed (mentions ++ keys.filterMap (lastNamed? · (declared.map (·.name)))).eraseDups
      declared := by
  induction keys generalizing mentions with
  | nil =>
    rw [numberKeys] at h
    cases h
    rw [List.filterMap_nil, List.append_nil]
  | cons key keys ih =>
    rw [numberKeys, columnNamed?_eq, map_name_keyed] at h
    cases found : lastNamed? key (declared.map (·.name)) with
    | none =>
      rw [found] at h
      exact absurd h (fails key columns)
    | some j =>
      have further : ∀ i c, declared[i]? = some c → c.isKey = true → i ∈ mentions ++ [j] :=
        fun i c hc key => List.mem_append_left [j] (inline i c hc key)
      have bound := lastNamed?_lt found
      rw [List.length_map] at bound
      have at_j : (keyed mentions.eraseDups declared)[j]? =
          some (declared[j].keyed mentions.eraseDups j) := by
        rw [keyed, List.getElem?_mapIdx, List.getElem?_eq_getElem bound, Option.map_some]
      rw [found, Option.bind_some, at_j] at h
      dsimp only at h
      have key_j : (declared[j].keyed mentions.eraseDups j).isKey = true ↔
          j ∈ mentions ∨ declared[j].isKey = true := by
        rw [Column.isKey_keyed, List.mem_eraseDups]
      have mentioned : (key :: keys).filterMap (lastNamed? · (declared.map (·.name))) =
          j :: keys.filterMap (lastNamed? · (declared.map (·.name))) :=
          List.filterMap_cons_some found
      rw [mentioned, List.append_cons]
      -- A column is a key by now exactly if it is mentioned: those that are keys by their own
      -- attribute are mentioned first.
      by_cases old : j ∈ mentions
      · rw [if_pos (key_j.2 (.inl old))] at h
        refine ih (mentions ++ [j]) further ?_
        rw [eraseDups_concat, if_pos old]
        exact h
      · have plain : ¬ declared[j].isKey = true :=
          fun key => old (inline j _ (List.getElem?_eq_getElem bound) key)
        rw [if_neg (mt key_j.1 (not_or.2 ⟨old, plain⟩)),
          mapColumnNamed_eq (by rw [map_name_keyed, found]),
          keyed_concat (mt List.mem_eraseDups.1 old)] at h
        refine ih (mentions ++ [j]) further ?_
        rw [eraseDups_concat, if_neg old, List.length_append]
        exact h

/-- The columns that are keys by their own attribute are found by their index. -/
lemma mem_inlineKeys {n : ℕ} :
    i ∈ inlineKeys n columns ↔ n ≤ i ∧ ∃ c, columns[i - n]? = some c ∧ c.isKey = true := by
  unfold inlineKeys
  simp only [List.mem_map, List.mem_filter, Prod.exists, exists_eq_right,
    List.mk_mem_zipIdx_iff_le_and_getElem?_sub]
  tauto

/-- No column is a key by its own attribute twice. -/
lemma nodup_inlineKeys (n : ℕ) (columns : List Column) : (inlineKeys n columns).Nodup := by
  refine List.Nodup.sublist (List.filter_sublist.map _) ?_
  rw [List.zipIdx_map_snd]
  exact List.nodup_range'

/-- A column that is a key by its own attribute is in the order of the keys. -/
lemma mem_keyOrder_of_isKey {items : Items} (at_i : items.columns[i]? = some c)
    (key : c.isKey = true) : i ∈ keyOrder items :=
  List.mem_eraseDups.2 (List.mem_append_left _ (mem_inlineKeys.2 ⟨Nat.zero_le i, c, at_i, key⟩))

/-- The order of the keys is of columns. -/
lemma lt_of_mem_keyOrder {items : Items} (h : i ∈ keyOrder items) : i < items.columns.length := by
  obtain h | h := List.mem_append.1 (List.mem_eraseDups.1 h)
  · obtain ⟨-, c, at_i, -⟩ := mem_inlineKeys.1 h
    exact (List.getElem?_eq_some_iff.1 at_i).1
  · obtain ⟨key, -, found⟩ := List.mem_filterMap.1 h
    have bound := lastNamed?_lt found
    rwa [List.length_map] at bound

/-- The first column is counted if it is a key by its own attribute. -/
lemma inlineKeys_cons (n : ℕ) (c : Column) (cs : List Column) :
    inlineKeys n (c :: cs) = if c.isKey then n :: inlineKeys (n + 1) cs
    else inlineKeys (n + 1) cs := by
  unfold inlineKeys
  rw [List.zipIdx_cons, List.filter_cons]
  split <;> rfl

/-- A column that is a key by its own attribute has its place where the columns
before have theirs. -/
lemma Column.Declared.keyed_eq (declared : c.Declared) (key : c.isKey = true) (new : j ∉ order)
    (later : List ℕ) :
    c.keyed (order ++ j :: later) j = { c with keyPosition := some (order.length + 1) } := by
  have place : placeIn (order ++ j :: later) j = some (order.length + 1) := by
    rw [placeIn, if_pos (by simp), List.idxOf_append_of_notMem new,
      List.idxOf_cons_self, Nat.add_zero]
  rw [keyed, place, ← key, ← declared.nonnull key]

/-- Where the columns before have their places, the key columns of a list get the next ones. -/
lemma numberInline_eq {cs : List Column} (declared : ∀ c ∈ cs, c.Declared) (done : List ℕ) (n : ℕ)
    (before : ∀ i ∈ done, i < n) :
    numberInline (done.length + 1) cs =
      (cs.mapIdx fun i c => c.keyed (done ++ inlineKeys n cs) (n + i),
        (done ++ inlineKeys n cs).length + 1) := by
  -- The induction counts the columns from `n` on, so that the indices in `done` stay below
  -- those of the rest.
  induction cs generalizing done n with
  | nil => simp [numberInline, inlineKeys]
  | cons c cs ih =>
    rw [List.forall_mem_cons] at declared
    have new : n ∉ done := fun h => Nat.lt_irrefl n (before n h)
    have shift (order : List ℕ) : (fun i c => Column.keyed order (n + (i + 1)) c) = fun i =>
        Column.keyed order (n + 1 + i) := by
      funext i
      rw [Nat.add_assoc, Nat.add_comm 1 i]
    rw [numberInline, inlineKeys_cons, List.mapIdx_cons, shift]
    split
    · rename_i key
      have before' : ∀ i ∈ done ++ [n], i < n + 1 := by
        intro i hi
        obtain hi | hi := List.mem_append.1 hi
        · exact Nat.lt_succ_of_lt (before i hi)
        · exact List.mem_singleton.1 hi ▸ Nat.lt_succ_self n
      have rest := ih declared.2 (done ++ [n]) (n + 1) before'
      rw [List.length_append, List.length_singleton, ← List.append_cons] at rest
      have first : c.keyed (done ++ n :: inlineKeys (n + 1) cs) (n + 0) =
          { c with keyPosition := some (done.length + 1) } :=
        declared.1.keyed_eq key new _
      rw [rest, first]
    · rename_i plain
      have later : n ∉ inlineKeys (n + 1) cs :=
        fun h => Nat.not_succ_le_self n (mem_inlineKeys.1 h).1
      rw [ih declared.2 done (n + 1) fun i hi => Nat.lt_succ_of_lt (before i hi),
        Column.keyed_of_notMem (by simp [new, later])]

/-- The first pass numbers the key columns in the order of the columns. -/
lemma numberInline_keyed (declared : ∀ c ∈ columns, c.Declared) :
    numberInline 1 columns =
    (keyed (inlineKeys 0 columns) columns, (inlineKeys 0 columns).length + 1) := by
  have numbered := numberInline_eq declared [] 0 nofun
  simp only [Nat.zero_add] at numbered
  exact numbered

/-! ## What a table statement declares -/

/-- What the items of a table declare: columns, and keys that its constraints name,
both in their order. -/
structure Items.ReadFrom (setting : Setting) (table : String) (pieces : List Piece)
    (items : Items) : Prop where
  columns : List.Forall₂
    (fun p c => ∃ offset, readColumn setting table (trim p.text) offset = .ok c)
    (pieces.filter fun p => !isConstraint (trim p.text)) items.columns
  keys : items.keys = (pieces.filter fun p => isConstraint (trim p.text)).flatMap fun p =>
    constraintKeys (trim p.text)

/-- What a table statement declares, in the parentheses that its head opens. -/
def Declares (setting : Setting) (statement : List Char) (items : Items) : Prop :=
  ∃ written inside closing, tableHead.first? statement = some (written, inside) ∧
    closingParen? ('(' :: inside) = some closing ∧
    items.ReadFrom setting (String.ofList (unquote written))
      (splitTopLevel (· == ',') (inside.take (closing - 1)))

variable {setting : Setting} {table : String} {items : Items}

/-- A column that is read is not numbered, and is not null if it is a key. -/
lemma readColumn_declared {text : List Char} {offset : ℕ}
    (h : readColumn setting table text offset = .ok c) : c.Declared := by
  unfold readColumn at h
  dsimp only at h
  split at h
  · cases h
  · split at h
    · cases h
    · split at h
      · cases h
      · -- Whatever the sizes of the column are, its other parts are the same.
        have nonnull {a b : Bool} (key : a = true) : (!(a || b)) = false := by rw [key]; rfl
        split at h
        · split at h
          · cases h
            exact ⟨rfl, nonnull⟩
          · obtain ⟨sizes, -, h⟩ := Outcome.bind_ok.1 h
            cases h
            exact ⟨rfl, nonnull⟩
        · cases h
          exact ⟨rfl, nonnull⟩

/-- Items that are read declare what stands in the pieces. -/
lemma readItems_ok {base : ℕ} {pieces : List Piece}
    (h : readItems setting table base pieces = .ok items) :
    items.ReadFrom setting table pieces := by
  induction pieces generalizing items with
  | nil =>
    cases h
    exact ⟨.nil, rfl⟩
  | cons p pieces ih =>
    rw [readItems] at h
    split at h
    · cases h
    · split at h
      · rename_i constraint
        obtain ⟨rest, hr, h⟩ := Outcome.bind_ok.1 h
        cases h
        refine ⟨?_, ?_⟩
        · rw [List.filter_cons_of_neg (by simp [constraint])]
          exact (ih hr).columns
        · rw [List.filter_cons, if_pos constraint, List.flatMap_cons, ← (ih hr).keys]
      · rename_i column
        obtain ⟨c, hc, h⟩ := Outcome.bind_ok.1 h
        obtain ⟨rest, hr, h⟩ := Outcome.bind_ok.1 h
        cases h
        refine ⟨?_, ?_⟩
        · rw [List.filter_cons_of_pos (by simp [column])]
          exact .cons ⟨_, hc⟩ (ih hr).columns
        · rw [List.filter_cons, if_neg column]
          exact (ih hr).keys

/-- Columns that are read are not numbered yet. -/
lemma Items.ReadFrom.declared {pieces : List Piece} (h : items.ReadFrom setting table pieces) :
    ∀ c ∈ items.columns, c.Declared := by
  intro c hc
  obtain ⟨p, -, offset, read⟩ := exists_of_forall₂ h.columns hc
  exact readColumn_declared read

/-- A table that is read has the columns that its statement declares, those of the order of
the keys made keys. -/
lemma readTable_ok {statement : List Char} {t : Table} (h : readTable setting statement = .ok t) :
    ∃ items, Declares setting statement items ∧ (∀ c ∈ items.columns, c.Declared) ∧
      t.columns = keyed (keyOrder items) items.columns := by
  unfold readTable at h
  dsimp only at h
  split at h
  · cases h
  · rename_i written inside head
    split at h
    · cases h
    · rename_i closing closes
      obtain ⟨items, read, h⟩ := Outcome.bind_ok.1 h
      split at h
      · cases h
      · obtain ⟨columns, numbered, h⟩ := Outcome.bind_ok.1 h
        cases h
        have declared := (readItems_ok read).declared
        refine ⟨items, ⟨written, inside, closing, head, closes, readItems_ok read⟩, declared, ?_⟩
        rw [numberInline_keyed declared] at numbered
        rw [← eraseDups_of_nodup (nodup_inlineKeys 0 items.columns)] at numbered
        refine numberKeys_keyed (fun key cs fails => ?_) (inlineKeys 0 items.columns) ?_ numbered
        · cases fails
        · intro i c at_i key
          exact mem_inlineKeys.2 ⟨Nat.zero_le i, c, at_i, key⟩

end Rulebook.Sql
