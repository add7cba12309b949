import Rulebook.Proofs.Sql.Statement
import Rulebook.Sql.File

/-!
# One schema file after another

A file that is put after another one, with a semicolon and a line feed between them, declares what
both declare (`readSchema_append`): where the scanners are back at their start at the end of the
first file, nothing of it reaches into the second one but the place where that begins and the domain
of the last marker.
-/

namespace Rulebook
open Text Pattern

/-! ## Places -/

/-- What follows an offset does not change its place. -/
lemma Place.atOffset_append_left (s t : List Char) (source : Option String) {offset : Nat}
    (h : offset ≤ s.length) :
    atOffset (s ++ t) offset source = atOffset s offset source := by
  have past : offset - (s ++ t).length = 0 := by
    rw [List.length_append]
    omega
  simp only [atOffset, lineAt, columnAt, List.take_append_of_le_length h, past,
    Nat.sub_eq_zero_of_le h]

/-- After a whole line, nothing before counts for the column. -/
lemma sinceLineFeed_append {s : List Char} (h : s.getLast? = some '\n') (t : List Char) :
    sinceLineFeed (s ++ t) = sinceLineFeed t := by
  obtain ⟨line, rfl⟩ := List.getLast?_eq_some_iff.1 h
  rw [sinceLineFeed, List.reverse_append, List.reverse_append, List.reverse_singleton,
    List.singleton_append, sinceLineFeed]
  exact congrArg List.length (takeWhile_append_stop rfl _ _)

/-- After whole lines, an offset lies as many lines further down and in the column where it was. -/
lemma Place.atOffset_append_right {s : List Char} (h : s.getLast? = some '\n') (t : List Char)
    (source : Option String) (domain : Option String) (offset : Nat) :
    atOffset (s ++ t) (offset + s.length) source =
      (atOffset t offset source).after ⟨s.length, s.count '\n', domain⟩ := by
  have taken : (s ++ t).take (offset + s.length) = s ++ t.take offset := by
    rw [Nat.add_comm, List.take_length_add_append]
  have past : offset + s.length - (s ++ t).length = offset - t.length := by
    rw [List.length_append]
    omega
  have line : lineAt (s ++ t) (offset + s.length) = lineAt t offset + s.count '\n' := by
    rw [lineAt, taken, List.count_append, lineAt]
    omega
  have column : columnAt (s ++ t) (offset + s.length) = columnAt t offset := by
    rw [columnAt, taken, sinceLineFeed_append h, past, columnAt]
  simp [atOffset, after, line, column]

namespace Sql

/-! ## Markers -/

instance : Forward lineStop where
  suffix {s m} h := by
    cases s with
    | nil =>
      cases List.mem_singleton.1 h
      exact List.suffix_refl _
    | cons c s =>
      rw [lineStop] at h
      split at h
      · cases List.mem_singleton.1 h
        exact List.suffix_refl _
      · cases h

instance : Forward markerComment := by
  unfold markerComment
  infer_instance

/-- A marker takes at least one character. -/
lemma strict_markerComment : markerComment.Strict := by
  unfold markerComment
  exact strict_exactly.bind

/-- The end of a line is seen without looking past it. -/
lemma inLine_lineStop : lineStop.InLine := by
  intro line hl
  cases line with
  | nil => exact ⟨by simp [lineStop], fun rest => rfl⟩
  | cons c cs =>
    have hc : c ≠ '\n' := fun h => hl (h ▸ List.mem_cons_self ..)
    exact ⟨by simp [lineStop, hc], fun rest => by simp [lineStop, hc]⟩

/-- A marker is a comment of one line. -/
lemma inLine_markerComment : markerComment.InLine := by
  have space : isSpaceOrTab '\n' = false := rfl
  have description : (do
      let _ ← Pattern.char ':'
      let _ ← Pattern.run isSpaceOrTab
      Pattern.run (· != '\n') : Pattern (List Char)).InLine :=
    .bind (.one rfl) fun _ => .bind (.run space) fun _ => .run rfl
  unfold markerComment
  refine .bind (.exactly (by decide)) fun _ => ?_
  refine .bind (.run space) fun _ => ?_
  refine .bind (.one rfl) fun _ => ?_
  refine .bind (.run rfl) fun _ => ?_
  refine .bind (.run1 space) fun _ => ?_
  refine .bind (.keyword (by decide)) fun _ => ?_
  refine .bind (.wordEnd rfl) fun _ => ?_
  refine .bind (.run space) fun _ => ?_
  refine .bind (.optional description) fun _ => ?_
  exact .bind inLine_lineStop fun _ => .pure _

/-- The marker, in a text that begins so many characters further on. -/
def Marker.shift (k : Nat) (m : Marker) : Marker := { m with offset := m.offset + k }

/-- The markers of a text of whole lines and one behind it are those of both. -/
lemma markersOf_append {s : List Char} (hs : WholeLines s) (t : List Char) :
    markersOf (s ++ t) = markersOf s ++ (markersOf t).map (Marker.shift s.length) := by
  rw [markersOf, findAll_append inLine_markerComment strict_markerComment hs,
    List.map_append, List.map_map, markersOf, markersOf, List.map_map]
  rfl

/-- No marker stands behind the end of its text. -/
lemma markersOf_le {s : List Char} {m : Marker} (h : m ∈ markersOf s) : m.offset ≤ s.length := by
  obtain ⟨found, hf, rfl⟩ := List.mem_map.1 h
  exact (findAll_le hf).1

/-- Markers further on do not count. -/
lemma domainAt_append_left {ms ns : List Marker} {offset : Nat} (h : ∀ m ∈ ns, offset ≤ m.offset) :
    domainAt (ms ++ ns) offset = domainAt ms offset := by
  have none : ns.reverse.find? (fun m => m.offset < offset) = none := by
    rw [List.find?_eq_none]
    intro m hm
    simpa using h m (List.mem_reverse.1 hm)
  rw [domainAt, List.reverse_append, List.find?_append, none, Option.none_or, domainAt]

/-- Without a marker of its own, a statement falls to the last one before. -/
lemma domainAt_append_right {ms ns : List Marker} {k : Nat} (h : ∀ m ∈ ms, m.offset < k)
    (offset : Nat) :
    domainAt (ms ++ ns.map (Marker.shift k)) (offset + k) =
      (domainAt ns offset).or (ms.getLast?.map (·.name)) := by
  have own : (ns.map (Marker.shift k)).reverse.find? (fun m => m.offset < offset + k) =
      (ns.reverse.find? fun m => m.offset < offset).map (Marker.shift k) := by
    rw [← List.map_reverse, List.find?_map]
    congr 2
    funext m
    simp [Marker.shift]
  have before : ms.reverse.find? (fun m => m.offset < offset + k) = ms.getLast? := by
    rw [List.getLast?_eq_head?_reverse]
    cases hr : ms.reverse with
    | nil => rfl
    | cons m rest =>
      have hm := h m (List.mem_reverse.1 (hr ▸ List.mem_cons_self ..))
      rw [List.find?_cons_of_pos (by simp; omega)]
      rfl
  rw [domainAt, List.reverse_append, List.find?_append, own, before, domainAt]
  cases ns.reverse.find? fun m => m.offset < offset <;> rfl

/-! ## Statements -/

/-- A piece that is shifted by nothing stays where it is. -/
lemma Piece.shift_zero (p : Piece) : p.shift 0 = p := rfl

/-- Statements are read one after the other. -/
lemma readStatements_append (text : List Char) (source : Option String) (markers : List Marker)
    (ps qs : List Piece) :
    readStatements text source markers (ps ++ qs) = (do
      let x ← readStatements text source markers ps
      let y ← readStatements text source markers qs
      .ok { y with tables := x.tables ++ y.tables, views := x.views ++ y.views }) := by
  induction ps with
  | nil =>
    rw [List.nil_append, readStatements, Outcome.ok_bind]
    cases readStatements text source markers qs <;> rfl
  | cons p ps ih =>
    rw [List.cons_append, readStatements, readStatements, ih]
    -- The statement is read first on both sides; then the two parts follow in the same order.
    split <;> simp only [bind_assoc] <;> rfl

/-- A line feed before a statement is trimmed off. -/
lemma readStatements_lineFeed (text : List Char) (source : Option String) (markers : List Marker)
    (p : List Char) (offset : Nat) (ps : List Piece) :
    readStatements text source markers (⟨'\n' :: p, offset⟩ :: ps) =
      readStatements text source markers (⟨p, offset + 1⟩ :: ps) := by
  have length := length_trimStart_le p
  have start : offset + ((p.length + 1) - (trimStart p).length) =
      offset + 1 + (p.length - (trimStart p).length) := by
    omega
  have trimmed : trimStart ('\n' :: p) = trimStart p := rfl
  rw [readStatements, readStatements]
  simp only [trim, trimmed, List.length_cons, start]

/-- Statements that come after a text are read in their place as alone. -/
lemma readStatements_after {l : Lead} {text text' : List Char} {source : Option String}
    {ms ms' : List Marker} (place : ∀ offset ≤ text.length,
      Place.atOffset text' (offset + l.chars) source = (Place.atOffset text offset source).after l)
    (domain : ∀ offset ≤ text.length,
      domainAt ms' (offset + l.chars) = (domainAt ms offset).or l.domain)
    {pieces : List Piece} (hp : ∀ p ∈ pieces, p.offset + p.text.length ≤ text.length) :
    readStatements text' source ms' (pieces.map (Piece.shift l.chars)) =
      (readStatements text source ms pieces).translate (Failure.after l) fun x =>
        { source, markers := ms', tables := x.tables.map (Table.after l)
          views := x.views.map (View.after l text') } := by
  induction pieces with
  | nil => rfl
  | cons p rest ih =>
    obtain ⟨hp, hrest⟩ := List.forall_mem_cons.1 hp
    have trimmed := length_trim p.text
    have start : p.offset + l.chars + (p.text.length - (trimStart p.text).length) =
        p.offset + (p.text.length - (trimStart p.text).length) + l.chars := by omega
    have setting : Setting.After l text.length
        ⟨text, source, domainAt ms (p.offset + (p.text.length - (trimStart p.text).length)),
          p.offset + (p.text.length - (trimStart p.text).length)⟩
        ⟨text', source, domainAt ms' (p.offset + (p.text.length - (trimStart p.text).length)
          + l.chars), p.offset + (p.text.length - (trimStart p.text).length) + l.chars⟩ :=
      ⟨rfl, rfl, domain _ (by omega), place⟩
    rw [List.map_cons, readStatements, readStatements]
    dsimp only [Piece.shift]
    rw [start]
    -- What kind of statement it is does not depend on its place.
    split
    · refine Outcome.bind_translate (readTable_after setting (by dsimp only; omega)) fun table _ =>
        ?_
      exact Outcome.bind_translate (ih hrest) fun x _ => rfl
    · refine Outcome.bind_translate (readView_after setting (by dsimp only; omega)) fun view _ => ?_
      exact Outcome.bind_translate (ih hrest) fun x _ => rfl
    · exact ih hrest

/-! ## Files -/

/-- The pieces of two files with a semicolon and a line feed between them. -/
lemma splitTopLevel_append {s : List Char} (top : maskAfter 0 none s = (0, none)) (t : List Char) :
    splitTopLevel (· == ';') (s ++ ';' :: '\n' :: t) =
      splitTopLevel (· == ';') s ++ cut (· == ';') (s.length + 1)
      (('\n', '\n') :: t.zip (mask t)) := by
  have masked : mask (s ++ ';' :: '\n' :: t) = mask s ++ ';' :: '\n' :: mask t := by
    rw [mask, maskFrom_append, top]
    rfl
  have length : (s.zip (mask s)).length = s.length := by
    rw [List.length_zip, length_mask, Nat.min_self]
  rw [splitTopLevel, masked, List.zip_append (length_mask s).symm, List.zip_cons_cons,
    List.zip_cons_cons, cut_append rfl, Nat.zero_add, length, splitTopLevel]

/-- The statements after the line feed are those of the second file, further on. -/
lemma readStatements_cut (text : List Char) (source : Option String)
    (markers : List Marker) (k : Nat) (t : List Char) :
    readStatements text source markers (cut (· == ';') (k + 1) (('\n', '\n') :: t.zip (mask t))) =
      readStatements text source markers
        ((splitTopLevel (· == ';') t).map (Piece.shift (k + 2))) := by
  obtain ⟨p, ps, hp⟩ := cut_head (· == ';') (k + 2) (t.zip (mask t))
  have cuts : cut (· == ';') (k + 1) (('\n', '\n') :: t.zip (mask t)) =
      ⟨'\n' :: p, k + 1⟩ :: ps := by
    rw [cut, if_neg (by decide), hp]
  rw [cuts, readStatements_lineFeed, splitTopLevel, ← cut_shift, Nat.zero_add, hp]

/-- Comments are blanked in two files as in each of them, if the first one leaves none open. -/
lemma blankComments_append {a : List Char} (ha : WholeLines a)
    (code : CommentState.code.after a = .code) (b : List Char) :
    blankComments (a ++ ';' :: '\n' :: b) = blankComments a ++ ';' :: '\n' :: blankComments b := by
  rw [blankComments, blankCommentsFrom_append (apart_of_wholeLines ha _), code]
  rfl

/-- What a file does to statements after it, with a semicolon and a line feed between. -/
def leadOf (a : List Char) : Lead where
  chars := a.length + 2
  lines := a.count '\n' + 1
  domain := (markersOf a).getLast?.map (·.name)

/-- The markers of two files are those of both, the second ones further on. -/
lemma markersOf_separator {a : List Char} (ha : WholeLines a) (b : List Char) :
    markersOf (a ++ ';' :: '\n' :: b) = markersOf a ++
    (markersOf b).map (Marker.shift (leadOf a).chars) := by
  -- The separator ends a line in which no marker begins.
  have separator : WholeLines [';', '\n'] := fun c hc => (Option.some.inj hc).symm
  have none : markersOf [';', '\n'] = [] := by decide +kernel
  have after : markersOf (';' :: '\n' :: b) = (markersOf b).map (Marker.shift 2) := by
    rw [← List.nil_append ((markersOf b).map _), ← none]
    exact markersOf_append separator b
  rw [markersOf_append ha, after, List.map_map]
  have twice : Marker.shift a.length ∘ Marker.shift 2 = Marker.shift (leadOf a).chars := by
    funext m
    simp only [Function.comp_apply, Marker.shift, leadOf, Nat.add_assoc, Nat.add_comm 2]
  rw [twice]

/-- Statements that are read keep their source and their markers. -/
lemma readStatements_source {text : List Char} {source : Option String}
    {markers : List Marker} {ps : List Piece} {x : Schema}
    (h : readStatements text source markers ps = .ok x) :
    x.source = source ∧ x.markers = markers := by
  induction ps generalizing x with
  | nil =>
    cases h
    exact ⟨rfl, rfl⟩
  | cons p ps ih =>
    rw [readStatements] at h
    split at h
    · obtain ⟨table, -, h⟩ := Outcome.bind_ok.1 h
      obtain ⟨y, hy, rfl⟩ := Outcome.map_ok.1 h
      have declared := ih hy
      exact declared
    · obtain ⟨view, -, h⟩ := Outcome.bind_ok.1 h
      obtain ⟨y, hy, rfl⟩ := Outcome.map_ok.1 h
      have declared := ih hy
      exact declared
    · exact ih h

/-- The statements of the first file are read as alone. -/
lemma readStatements_first {a : List Char} (ha : WholeLines a)
    (source : Option String) (b : List Char) :
    readStatements (a ++ ';' :: '\n' :: b) source (markersOf (a ++ ';' :: '\n' :: b))
        (splitTopLevel (· == ';') (blankComments a)) =
      (readSchema a source).translate id fun x =>
        { source, markers := markersOf (a ++ ';' :: '\n' :: b), tables := x.tables
          views := x.views.map fun v => { v with text := a ++ ';' :: '\n' :: b } } := by
  have place : ∀ offset ≤ a.length, Place.atOffset (a ++ ';' :: '\n' :: b) offset source =
      (Place.atOffset a offset source).after {} := by
    intro offset h
    rw [Place.atOffset_append_left a _ source h, Place.after_nothing]
  have domain : ∀ offset ≤ a.length, domainAt (markersOf (a ++ ';' :: '\n' :: b)) offset =
      (domainAt (markersOf a) offset).or none := by
    intro offset h
    rw [markersOf_separator ha, Option.or_none]
    refine domainAt_append_left fun m hm => ?_
    obtain ⟨n, -, rfl⟩ := List.mem_map.1 hm
    simp only [Marker.shift, leadOf]
    omega
  have within : ∀ p ∈ splitTopLevel (· == ';') (blankComments a),
      p.offset + p.text.length ≤ a.length := by
    intro p hp
    exact length_blankComments a ▸ splitTopLevel_le hp
  have read := readStatements_after (l := {}) place domain within
  rw [List.map_id'' fun p => Piece.shift_zero p, Failure.after_nothing, Table.after_nothing,
    View.after_nothing] at read
  simp only [List.map_id] at read
  exact read

/-- The statements of the second file are read as alone, but for their places and domains. -/
lemma readStatements_second {a : List Char} (ha : WholeLines a)
    (source : Option String) (b : List Char) :
    readStatements (a ++ ';' :: '\n' :: b) source (markersOf (a ++ ';' :: '\n' :: b))
        ((splitTopLevel (· == ';') (blankComments b)).map (Piece.shift (leadOf a).chars)) =
      (readSchema b source).translate (Failure.after (leadOf a)) fun y =>
        { source, markers := markersOf (a ++ ';' :: '\n' :: b)
          tables := y.tables.map (Table.after (leadOf a))
          views := y.views.map (View.after (leadOf a) (a ++ ';' :: '\n' :: b)) } := by
  have text : a ++ ';' :: '\n' :: b = (a ++ [';', '\n']) ++ b := by simp
  have lead : leadOf a = ⟨(a ++ [';', '\n']).length, (a ++ [';', '\n']).count '\n',
      (leadOf a).domain⟩ := by
    simp [leadOf]
  refine readStatements_after (fun offset _ => ?_) (fun offset _ => ?_) fun p hp => ?_
  · rw [lead, text]
    exact Place.atOffset_append_right (by simp) b source _ offset
  · rw [markersOf_separator ha]
    refine domainAt_append_right (fun m hm => ?_) offset
    have := markersOf_le hm
    simp only [leadOf]
    omega
  · exact length_blankComments b ▸ splitTopLevel_le hp

/-- Where a file ends in a line feed, outside of comments, quotes and parentheses, a second file may
follow it after a semicolon and a line feed: together they declare what they declare alone, first
the first one. Only the places of what the second one declares lie further on, and those of its
statements that stand before all of its markers fall to the domain of the last marker of the first
one. If one of the files cannot be read, reading fails as it does for the first such file, at the
place where the failure then lies. -/
theorem readSchema_append {a b : List Char} (source : Option String) (ends : a.getLast? = some '\n')
    (code : CommentState.code.after a = .code)
    (top : maskAfter 0 none (blankComments a) = (0, none)) :
    readSchema (a ++ ';' :: '\n' :: b) source = (do
      let x ← readSchema a source
      let y ← (readSchema b source).mapError (Failure.after (leadOf a))
      .ok {
        source
        markers := x.markers ++ y.markers.map (Marker.shift (leadOf a).chars)
        tables := x.tables ++ y.tables.map (Table.after (leadOf a))
        views := x.views.map (fun v => { v with text := a ++ ';' :: '\n' :: b }) ++
          y.views.map (View.after (leadOf a) (a ++ ';' :: '\n' :: b)) }) := by
  have whole : WholeLines a := fun c hc => Option.some.inj (hc.symm.trans ends)
  have first := readStatements_first whole source b
  have second : readStatements (a ++ ';' :: '\n' :: b) source (markersOf (a ++ ';' :: '\n' :: b))
      ((splitTopLevel (· == ';') (blankComments b)).map (Piece.shift (a.length + 2))) = _ :=
    readStatements_second whole source b
  -- Blanked and cut, the text falls apart where the files meet, and each part is read
  -- by its own lemma.
  rw [readSchema, blankComments_append whole code, splitTopLevel_append top, length_blankComments,
    readStatements_append, readStatements_cut, first, second]
  cases hx : readSchema a source with
  | error e => rfl
  | ok x =>
    cases hy : readSchema b source with
    | error e => rfl
    | ok y =>
      have markers : markersOf (a ++ ';' :: '\n' :: b) = x.markers ++
          y.markers.map (Marker.shift (leadOf a).chars) := by
        rw [(readStatements_source hx).2, (readStatements_source hy).2, markersOf_separator whole]
      rw [markers]
      rfl

namespace Shop

/-- A file with a marker and a table. -/
def orders : List Char := "-- sales domain\nCREATE TABLE orders (id INT)\n".toList

/-- A file with a view and no marker. -/
def ids : List Char := "CREATE VIEW ids AS\nSELECT id FROM orders".toList

/-- The table of the first file. -/
def table : Table where
  name := "orders"
  domain := some "sales"
  columns := [{ name := "id", nativeType := "INT", type := .int32 }]
  source := none
  line := 2

/-- The view of the second file, as it is read alone. -/
def view : View where
  name := "ids"
  domain := none
  projections := [{ expression := "id", givenName := none, offset := 26 }]
  sources := [{ table := "orders", givenName := none }]
  columnNames := none
  filters := []
  source := none
  text := ids
  offset := 0
  line := 1

/-- After the table the view is read three lines further down, and falls to the
domain of the table. -/
theorem shop_append :
    orders.getLast? = some '\n' ∧ CommentState.code.after orders = .code ∧
      maskAfter 0 none (blankComments orders) = (0, none) ∧
      readSchema (orders ++ ';' :: '\n' :: ids) = .ok {
        markers := [⟨"sales", none, 0⟩]
        tables := [table]
        views := [{ view with
          domain := some "sales"
          projections := [{ expression := "id", givenName := none, offset := 73 }]
          text := orders ++ ';' :: '\n' :: ids
          offset := 47
          line := 4 }] } := by
  have ends : orders.getLast? = some '\n' := by decide +kernel
  have code : CommentState.code.after orders = .code := by decide +kernel
  have top : maskAfter 0 none (blankComments orders) = (0, none) := by decide +kernel
  have first : readSchema orders = .ok { markers := [⟨"sales", none, 0⟩], tables := [table] } := by
    decide +kernel
  have second : readSchema ids = .ok { views := [view] } := by decide +kernel
  refine ⟨ends, code, top, ?_⟩
  rw [readSchema_append none ends code top, first, second]
  decide +kernel

end Shop
end Sql
end Rulebook
