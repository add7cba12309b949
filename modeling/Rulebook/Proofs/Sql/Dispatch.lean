import Rulebook.Proofs.Sql.QuotedText
import Rulebook.Proofs.Text.Capital

/-!
# Which statements are tables and views

A statement is judged by its first six words in capitals (`leadingWords`), while the heads of table
and view statements go by keywords up to the name. A head spells one of a few phrases, six words at
most (`spells_tableHead`, `spells_viewHead`), so the judgement is the right one unless one of two
things happens: a table statement has `VIEW` among its leading words, as a name or a column, or the
keyword of a view statement is written with a dotted capital `i` (`readSchema_dispatch`).
-/

namespace Rulebook.Sql
open Text Pattern

variable {α β : Type} {s r : List Char}

/-! ## Phrases -/

/-- Words that are the keywords of a phrase, up to case. -/
def Phrase (ks : List String) (ts : List (List Char)) : Prop :=
  List.Forall₂ (fun k t => Variant k.toList t) ks ts

/-- A keyword of small letters. -/
def IsKeyword (k : String) : Prop := k.toList ≠ [] ∧ ∀ l ∈ k.toList, IsLetter l

instance (k : String) : Decidable (IsKeyword k) :=
  have := List.decidableBAll IsLetter k.toList
  instDecidableAnd

/-- Wherever the pattern matches, the text begins with the words of one of the phrases; if the
pattern is spelled whole, it ends behind these words. -/
def Spells (whole : Prop) (phrases : List (List String)) (p : Pattern α) : Prop :=
  ∀ ⦃s m⦄, m ∈ p s → ∃ ks ∈ phrases, ∃ ts r, Phrase ks ts ∧
  words s = ts ++ words r ∧ (whole → r = m.2)

/-- A keyword and the blanks behind it are a word. -/
lemma words_variant {w : String} {t g : List Char} (keyword : IsKeyword w) (ht : Variant w.toList t)
    (hg : ∀ c ∈ g, isBlank c = true) (some : g ≠ []) : words (t ++ (g ++ s)) = t :: words s :=
  words_solid (ht.solid keyword.2 keyword.1) hg some s

namespace Spells

variable {whole : Prop} {P Q : List (List String)}

/-- A pattern that takes nothing is spelled by no words. -/
lemma pure (a : α) : Spells whole [[]] (Pure.pure a : Pattern α) := by
  intro s m hm
  cases mem_pure.1 hm
  exact ⟨[], .head _, [], s, .nil, rfl, fun _ => rfl⟩

/-- Of what matches nothing is known but that it spells the empty phrase. -/
lemma any (p : Pattern α) : Spells False [[]] p := by
  intro s m _
  exact ⟨[], .head _, [], s, .nil, rfl, False.elim⟩

/-- A pattern after another one is spelled by the phrases of the first one and then
of the second one. -/
lemma bind {p : Pattern α} {f : α → Pattern β} (hp : Spells True P p)
    (hf : ∀ a, Spells whole Q (f a)) :
    Spells whole (P.flatMap fun ks => Q.map (ks ++ ·)) (p >>= f) := by
  intro s m hm
  obtain ⟨n, hn, further⟩ := mem_bind.1 hm
  obtain ⟨ks, hks, ts, r, phrase, before, ends⟩ := hp hn
  obtain rfl := ends trivial
  obtain ⟨ls, hls, us, q, phrase', after, ends'⟩ := hf n.1 further
  refine ⟨ks ++ ls, List.mem_flatMap.2 ⟨ks, hks, List.mem_map_of_mem hls⟩,
    ts ++ us, q, ?_, ?_, ends'⟩
  · exact List.rel_append phrase phrase'
  · rw [before, after, List.append_assoc]

/-- One of two patterns is spelled by the phrases of both. -/
lemma either {p q : Pattern α} (hp : Spells whole P p) (hq : Spells whole Q q) :
    Spells whole (P ++ Q) (Pattern.either p q) := by
  intro s m hm
  obtain hm | hm := List.mem_append.1 hm
  · obtain ⟨ks, hks, spelled⟩ := hp hm
    exact ⟨ks, List.mem_append_left Q hks, spelled⟩
  · obtain ⟨ks, hks, spelled⟩ := hq hm
    exact ⟨ks, List.mem_append_right P hks, spelled⟩

/-- A pattern that may be missing is spelled by its phrases or no words. -/
lemma optional {p : Pattern α} (hp : Spells True P p) :
    Spells True (P.flatMap (fun ks => [ks ++ []]) ++ [[]]) (Pattern.optional p) :=
  either (bind hp fun a => pure (some a)) (pure none)

/-- A keyword with a gap behind it, and what follows. -/
lemma word {w : String} (keyword : IsKeyword w) {f : List Char → Pattern β}
    (hf : ∀ g, Spells whole Q (f g)) :
    Spells whole (Q.map (w :: ·)) (Pattern.kw w >>= fun _ => Pattern.gap >>= f) := by
  intro s m hm
  obtain ⟨n, hn, hm⟩ := mem_bind.1 hm
  obtain ⟨g, hg, further⟩ := mem_bind.1 hm
  obtain ⟨t, rfl, variant⟩ := of_mem_keyword hn
  obtain ⟨rest, some, blank, -⟩ := of_mem_run1 hg
  obtain ⟨ks, hks, ts, r, phrase, after, ends⟩ := hf g.1 further
  refine ⟨w :: ks, List.mem_map_of_mem hks, t :: ts, r, .cons variant phrase, ?_, ends⟩
  rw [rest, words_variant keyword variant blank some, after, List.cons_append]

end Spells

/-! ## Heads -/

/-- The word for a temporary table has two spellings. -/
lemma spells_temporary : Spells True [["temporary"], ["temp"]] temporary := by
  intro s m hm
  obtain ⟨n, hn, hm⟩ := mem_bind.1 hm
  obtain ⟨o, ho, hm⟩ := mem_bind.1 hm
  obtain ⟨g, hg, hm⟩ := mem_bind.1 hm
  cases mem_pure.1 hm
  obtain ⟨t, rfl, temp⟩ := of_mem_keyword hn
  obtain ⟨rest, some, blank, -⟩ := of_mem_run1 hg
  obtain ⟨e, he, rfl⟩ | rfl := mem_optional.1 ho
  · obtain ⟨u, ends, orary⟩ := of_mem_keyword he
    have whole : Variant "temporary".toList (t ++ u) := List.rel_append temp orary
    refine ⟨["temporary"], .head _, [t ++ u], g.2, .cons whole .nil, ?_, fun _ => rfl⟩
    rw [ends, ← List.append_assoc]
    dsimp only at rest
    rw [rest]
    exact words_variant (by decide) whole blank some
  · refine ⟨["temp"], .tail _ (.head _), [t], g.2, .cons temp .nil, ?_, fun _ => rfl⟩
    dsimp only at rest
    rw [rest]
    exact words_variant (by decide) temp blank some

/-- The phrases that table statements begin with. -/
def tablePhrases : List (List String) :=
  [["global"], ["local"], []].flatMap fun scope =>
    [["temporary"], ["temp"], []].map fun kept => "create" :: (scope ++ (kept ++ ["table"]))

/-- The phrases that view statements begin with. -/
def viewPhrases : List (List String) :=
  [["or", "replace"], []].flatMap fun replaced =>
    [["temporary"], ["temp"], []].flatMap fun kept =>
      [["materialized"], []].map fun stored =>
      "create" :: (replaced ++ (kept ++ (stored ++ ["view"])))

/-- Table statements begin with one of their phrases. -/
lemma spells_tableHead : Spells False tablePhrases tableHead := by
  have scope : Spells True [["global"], ["local"]] (do
      Pattern.either (Pattern.kw "global") (Pattern.kw "local")
      let _ ← Pattern.gap : Pattern Unit) := by
    have each : Spells True [["global"], ["local"]]
        (Pattern.either (Pattern.kw "global" >>= fun _ => Pattern.gap >>= fun _ => pure ())
          (Pattern.kw "local" >>= fun _ => Pattern.gap >>= fun _ => pure ())) :=
      .either (.word (by decide) fun _ => .pure ()) (.word (by decide) fun _ => .pure ())
    intro s m hm
    obtain ⟨n, hn, hm⟩ := mem_bind.1 hm
    obtain hn | hn := List.mem_append.1 hn
    · exact each (List.mem_append_left _ (mem_bind.2 ⟨n, hn, hm⟩))
    · exact each (List.mem_append_right _ (mem_bind.2 ⟨n, hn, hm⟩))
  exact .word (by decide) fun _ => .bind scope.optional fun _ =>
    .bind spells_temporary.optional fun _ =>
    .word (by decide) fun _ => .any _

/-- View statements begin with one of their phrases. -/
lemma spells_viewHead : Spells False viewPhrases viewHead := by
  have replaced : Spells True [["or", "replace"]] (do
      Pattern.kw "or"
      let _ ← Pattern.gap
      Pattern.kw "replace"
      let _ ← Pattern.gap : Pattern Unit) :=
    .word (by decide) fun _ => .word (by decide) fun _ => .pure ()
  have stored : Spells True [["materialized"]] (do
      Pattern.kw "materialized"
      let _ ← Pattern.gap : Pattern Unit) :=
    .word (by decide) fun _ => .pure ()
  exact .word (by decide) fun _ => .bind replaced.optional fun _ =>
    .bind spells_temporary.optional fun _ =>
    .bind stored.optional fun _ => .word (by decide) fun _ => .any _

/-- The phrases are keywords. -/
lemma isKeyword_phrases : ∀ ks ∈ tablePhrases ++ viewPhrases, ∀ k ∈ ks, IsKeyword k := by decide

/-- A phrase that goes on another one has its keywords. -/
lemma Phrase.isPrefix {ks ls : List String} {ts us : List (List Char)} (hk : ∀ k ∈ ks, IsKeyword k)
    (hl : ∀ l ∈ ls, IsKeyword l) (h : Phrase ks ts) (h' : Phrase ls us) (before : ts <+: us) :
    ks <+: ls := by
  induction h generalizing ls us with
  | nil => exact List.nil_prefix
  | @cons k t ks ts first _ ih =>
    cases h' with
    | nil => exact absurd before (by simp)
    | @cons l u ls us first' rest' =>
      rw [List.cons_prefix_cons] at before
      obtain ⟨rfl, before⟩ := before
      rw [List.forall_mem_cons] at hk hl
      rw [List.cons_prefix_cons]
      exact ⟨String.toList_injective (first.unique hk.1.2 hl.1.2 first'), ih hk.2 hl.2 rest' before⟩

/-- No text has the head of a table statement and that of a view statement. -/
lemma not_viewHead (h : tableHead.matchesStart s = true) : viewHead.matchesStart s = false := by
  by_contra both
  obtain ⟨m, hm⟩ := Option.isSome_iff_exists.1 h
  obtain ⟨n, hn⟩ := Option.isSome_iff_exists.1 (Bool.not_eq_false _ ▸ both)
  obtain ⟨ks, hks, ts, r, table, before, -⟩ := spells_tableHead (mem_of_first? hm)
  obtain ⟨ls, hls, us, q, view, before', -⟩ := spells_viewHead (mem_of_first? hn)
  have apart : ∀ ks ∈ tablePhrases, ∀ ls ∈ viewPhrases, ¬ ks <+: ls ∧ ¬ ls <+: ks := by decide
  have keywords := isKeyword_phrases ks (List.mem_append_left _ hks)
  have keywords' := isKeyword_phrases ls (List.mem_append_right _ hls)
  -- Both phrases begin the words of one text, so one of them goes on the other.
  obtain shorter | shorter := List.prefix_or_prefix_of_prefix ⟨_, before.symm⟩ ⟨_, before'.symm⟩
  · exact (apart ks hks ls hls).1 (table.isPrefix keywords keywords' view shorter)
  · exact (apart ks hks ls hls).2 (view.isPrefix keywords' keywords table shorter)

/-! ## Leading words -/

/-- The first six words of a statement, in capitals. -/
def leadingWords (s : List Char) : List (List Char) := ((words s).take 6).map upper

/-- A statement that creates something is a view if `VIEW` is among its leading words, and else a
table if `TABLE` is. -/
lemma statementKind_eq (h : startsWith "CREATE".toList (joinWith [' '] (leadingWords s)) = true) :
    statementKind s =
      if "VIEW".toList ∈ leadingWords s then .view
      else if "TABLE".toList ∈ leadingWords s then .table
      else .other := by
  have solid : ∀ w ∈ (words s).take 6, Solid w :=
    fun w hw => solid_of_mem_words (List.mem_of_mem_take hw)
  have head : (words (upper (joinWith [' '] ((words s).take 6)))).take 6 = leadingWords s := by
    rw [words_upper_joinWith solid, List.map_take, List.take_take, Nat.min_self, ← List.map_take]
    rfl
  have creates : startsWith "CREATE".toList (upper (joinWith [' '] ((words s).take 6))) = true := by
    rw [upper_joinWith]
    exact h
  unfold statementKind
  rw [head, creates]
  simp only [Bool.not_true, Bool.false_eq_true, if_false, Bool.and_eq_true, Bool.not_eq_true',
    List.contains_iff_mem, ← Bool.not_eq_true]
  by_cases view : "VIEW".toList ∈ leadingWords s
  · rw [if_neg fun both => both.2 view, if_pos view, if_pos view]
  · rw [if_neg view, if_neg view]
    simp only [view, not_false_eq_true, and_true]

/-- Joined words begin with the first one. -/
lemma startsWith_joinWith (w : List Char) (ws : List (List Char)) :
    startsWith w (joinWith [' '] (w :: ws)) = true := by
  obtain ⟨r, hr⟩ : ∃ r, joinWith [' '] (w :: ws) = w ++ r := by
    cases ws with
    | nil => exact ⟨[], by simp [joinWith]⟩
    | cons v ws => exact ⟨_, joinWith_cons_cons ' ' w v ws⟩
  rw [hr, startsWith, dropStart?_append]
  rfl

/-- Among the leading words of a statement that creates something stand the keywords of
one of the phrases. -/
structure Leads (phrases : List (List String)) (s : List Char) : Prop where
  creates : startsWith "CREATE".toList (joinWith [' '] (leadingWords s)) = true
  phrase : ∃ ks ∈ phrases, ∀ k ∈ ks, ∃ t, Variant k.toList t ∧ upper t ∈ leadingWords s

/-- The keywords of a phrase of at most six words stand among the leading words. -/
lemma Spells.leads {whole : Prop} {phrases : List (List String)} {p : Pattern α}
    (hp : Spells whole phrases p) (short : ∀ ks ∈ phrases, ks.head? = some "create" ∧ ks.length ≤ 6)
    (h : p.matchesStart s = true) :
    Leads phrases s := by
  obtain ⟨m, hm⟩ := Option.isSome_iff_exists.1 h
  obtain ⟨ks, hks, ts, r, phrase, before, -⟩ := hp (mem_of_first? hm)
  obtain ⟨first, short⟩ := short ks hks
  have leading : leadingWords s = ts.map upper ++ ((words r).take (6 - ts.length)).map upper := by
    rw [leadingWords, before, List.take_append, List.take_of_length_le (phrase.length_eq ▸ short),
      List.map_append]
  constructor
  · cases phrase with
    | nil => cases first
    | @cons k t ks ts variant _ =>
      cases first
      have keyword : IsKeyword "create" := by decide
      have create : upper t = "CREATE".toList :=
        (variant.upper_eq keyword.2 (by decide) (by decide)).trans (by decide +kernel)
      rw [leading, List.map_cons, create]
      exact startsWith_joinWith _ _
  · refine ⟨ks, hks, fun k hk => ?_⟩
    obtain ⟨t, ht, variant⟩ := exists_of_forall₂ phrase.flip hk
    rw [leading]
    exact ⟨t, variant, List.mem_append_left _ (List.mem_map_of_mem ht)⟩

/-- A table statement is judged to be one unless `VIEW` is among its leading words. -/
lemma statementKind_of_tableHead (h : tableHead.matchesStart s = true) :
    statementKind s = if "VIEW".toList ∈ leadingWords s then .view else .table := by
  obtain ⟨creates, ks, hks, among⟩ := spells_tableHead.leads (by decide) h
  have table : ∀ ks ∈ tablePhrases, "table" ∈ ks := by decide
  obtain ⟨t, variant, ht⟩ := among "table" (table ks hks)
  have keyword : IsKeyword "table" := by decide
  have capitals : upper t = "TABLE".toList :=
    (variant.upper_eq keyword.2 (by decide) (by decide)).trans (by decide +kernel)
  rw [capitals] at ht
  rw [statementKind_eq creates, if_pos ht]

/-- The keyword of views in capitals is `VIEW`, or it keeps its dotted capital `i`. -/
lemma upper_view {t : List Char} (h : Variant "view".toList t) :
    upper t = "VIEW".toList ∨ upper t = "VİEW".toList := by
  change Variant ['v', 'i', 'e', 'w'] t at h
  cases h with
  | @cons _ v _ t sv h =>
    cases h with
    | @cons _ i _ t si h =>
      have capital : upperChar v = ['V'] := by
        obtain form | ⟨other, -⟩ | ⟨other, -⟩ := upperChar_of_sameLetter (by decide) sv
        · rw [form]
          decide +kernel
        · cases other
        · cases other
      have keyword : IsKeyword "ew" := by decide
      have ends : upper t = "EW".toList :=
        (Variant.upper_eq keyword.2 (by decide) (by decide) h).trans (by decide +kernel)
      rw [upper, List.flatMap_cons, List.flatMap_cons, ← upper, capital, ends]
      obtain form | ⟨-, rfl⟩ | ⟨other, -⟩ := upperChar_of_sameLetter (by decide) si
      · left
        rw [form]
        decide +kernel
      · right
        decide +kernel
      · cases other

/-- A view statement is judged to be one unless a dotted capital `i` stands in its keyword and
`VIEW` nowhere else. -/
lemma statementKind_of_viewHead (h : viewHead.matchesStart s = true) :
    statementKind s = (if "VIEW".toList ∈ leadingWords s then .view
      else if "TABLE".toList ∈ leadingWords s then .table else .other) ∧
    ("VIEW".toList ∉ leadingWords s → "VİEW".toList ∈ leadingWords s) := by
  obtain ⟨creates, ks, hks, among⟩ := spells_viewHead.leads (by decide) h
  have view : ∀ ks ∈ viewPhrases, "view" ∈ ks := by decide
  obtain ⟨t, variant, ht⟩ := among "view" (view ks hks)
  refine ⟨statementKind_eq creates, fun absent => ?_⟩
  obtain capitals | dotted := upper_view variant
  · exact absurd (capitals ▸ ht) absent
  · exact dotted ▸ ht

/-! ## Files -/

/-- A statement of a file is read as a table, and what is read of the file has this table. -/
structure ReadAsTable (text : List Char) (source : Option String) (p : Piece) : Prop where
  kind : statementKind (trim p.text) = .table
  part : ∀ schema, readSchema text source = .ok schema →
    ∃ t ∈ schema.tables, readTable (settingOf text source (markersOf text) p) (trim p.text) = .ok t

/-- A statement of a file is read as a view, and what is read of the file has this view. -/
structure ReadAsView (text : List Char) (source : Option String) (p : Piece) : Prop where
  kind : statementKind (trim p.text) = .view
  part : ∀ schema, readSchema text source = .ok schema →
    ∃ v ∈ schema.views, readView (settingOf text source (markersOf text) p) (trim p.text) = .ok v

/-- Statements that are read are read as what their kind says. -/
lemma mem_readStatements {text : List Char} {source : Option String} {markers : List Marker}
    {pieces : List Piece} {schema : Schema}
    (h : readStatements text source markers pieces = .ok schema) {p : Piece} (hp : p ∈ pieces) :
    (statementKind (trim p.text) = .table →
      ∃ t ∈ schema.tables, readTable (settingOf text source markers p) (trim p.text) = .ok t) ∧
    (statementKind (trim p.text) = .view →
      ∃ v ∈ schema.views, readView (settingOf text source markers p) (trim p.text) = .ok v) := by
  induction pieces generalizing schema with
  | nil => cases hp
  | cons q pieces ih =>
    rw [readStatements] at h
    cases kind : statementKind (trim q.text) with
    | table =>
      simp only [kind, Outcome.bind_ok] at h
      obtain ⟨t, ht, rest, hrest, same⟩ := h
      cases same
      obtain rfl | hp := List.mem_cons.1 hp
      · rw [kind]
        refine ⟨fun _ => ⟨t, .head _, ht⟩, fun other => ?_⟩
        cases other
      · obtain ⟨tables, views⟩ := ih hrest hp
        exact ⟨fun table => (tables table).imp fun u hu => ⟨.tail _ hu.1, hu.2⟩, views⟩
    | view =>
      simp only [kind, Outcome.bind_ok] at h
      obtain ⟨v, hv, rest, hrest, same⟩ := h
      cases same
      obtain rfl | hp := List.mem_cons.1 hp
      · rw [kind]
        refine ⟨fun other => ?_, fun _ => ⟨v, .head _, hv⟩⟩
        cases other
      · obtain ⟨tables, views⟩ := ih hrest hp
        exact ⟨tables, fun view => (views view).imp fun u hu => ⟨.tail _ hu.1, hu.2⟩⟩
    | other =>
      simp only [kind] at h
      obtain rfl | hp := List.mem_cons.1 hp
      · rw [kind]
        constructor <;> (intro other; cases other)
      · exact ih h hp

/-- A table statement without its head is refused. -/
lemma readTable_malformed (setting : Setting) (h : tableHead.matchesStart s = false) :
    readTable setting s =
      reject (.statement .malformedTable)
      (Place.atOffset setting.text setting.start setting.source) := by
  have none : tableHead.first? s = none := by simpa [matchesStart] using h
  unfold readTable
  rw [none]

/-- A view statement without its head is refused. -/
lemma readView_malformed (setting : Setting) (h : viewHead.matchesStart s = false) :
    readView setting s =
      reject (.statement .malformedView)
      (Place.atOffset setting.text setting.start setting.source) := by
  have none : viewHead.first? s = none := by simpa [matchesStart] using h
  unfold readView
  rw [none]

/-- Each statement of a file that has one of the two heads is read by the reader of that head and is
part of what is read of the file, but for these cases: a table statement with `VIEW` among its
leading words is reported as a malformed view; a view statement in whose keyword a dotted capital
`i` stands, and that has no other `VIEW` among its leading words, is passed over, or reported as a
malformed table if `TABLE` is among them. -/
theorem readSchema_dispatch {text : List Char} {source : Option String} {p : Piece}
    (h : p ∈ splitTopLevel (· == ';') (blankComments text)) :
    let s := trim p.text
    let setting := settingOf text source (markersOf text) p
    let start := Place.atOffset text setting.start source
    (tableHead.matchesStart s = true → viewHead.matchesStart s = false ∧
      ("VIEW".toList ∉ leadingWords s → ReadAsTable text source p) ∧
      ("VIEW".toList ∈ leadingWords s → ReadAsView text source p ∧
        readView setting s = reject (.statement .malformedView) start)) ∧
    (viewHead.matchesStart s = true → tableHead.matchesStart s = false ∧
      ("VIEW".toList ∈ leadingWords s → ReadAsView text source p) ∧
      ("VIEW".toList ∉ leadingWords s → "VİEW".toList ∈ leadingWords s ∧
        ("TABLE".toList ∉ leadingWords s → statementKind s = .other) ∧
        ("TABLE".toList ∈ leadingWords s → ReadAsTable text source p ∧
          readTable setting s = reject (.statement .malformedTable) start))) := by
  intro s setting start
  have asTable (kind : statementKind s = .table) : ReadAsTable text source p :=
    ⟨kind, fun schema ok => (mem_readStatements ok h).1 kind⟩
  have asView (kind : statementKind s = .view) : ReadAsView text source p :=
    ⟨kind, fun schema ok => (mem_readStatements ok h).2 kind⟩
  refine ⟨fun table => ?_, fun view => ?_⟩
  · have kind := statementKind_of_tableHead table
    refine ⟨not_viewHead table, fun absent => asTable ?_, fun among => ⟨asView ?_, ?_⟩⟩
    · rw [kind, if_neg absent]
    · rw [kind, if_pos among]
    · exact readView_malformed setting (not_viewHead table)
  · obtain ⟨kind, dotted⟩ := statementKind_of_viewHead view
    have other : tableHead.matchesStart s = false := by
      by_contra table
      rw [not_viewHead (Bool.not_eq_false _ ▸ table)] at view
      cases view
    refine ⟨other, fun among => asView ?_, fun absent =>
      ⟨dotted absent, fun none => ?_, fun table => ⟨asTable ?_, ?_⟩⟩⟩
    · rw [kind, if_pos among]
    · rw [kind, if_neg absent, if_neg none]
    · rw [kind, if_neg absent, if_pos table]
    · exact readTable_malformed setting other

namespace Viewed

/-- A table with a column of the name `view`, the sixth word. -/
def sixth : List Char := "CREATE TABLE t (a INT, view INT)".toList

/-- A table with a column of the name `view`, the eighth word. -/
def eighth : List Char := "CREATE TABLE t (a INT, b INT, view INT)".toList

/-- Among six words the name of the column is not. -/
theorem eighth_dispatch : ⟨eighth, 0⟩ ∈ splitTopLevel (· == ';') (blankComments (eighth ++ [';'])) ∧
    tableHead.matchesStart (trim eighth) = true ∧
    ReadAsTable (eighth ++ [';']) none ⟨eighth, 0⟩ := by
  have statement : ⟨eighth, 0⟩ ∈ splitTopLevel (· == ';') (blankComments (eighth ++ [';'])) := by
    decide +kernel
  have head : tableHead.matchesStart (trim eighth) = true := by decide +kernel
  exact ⟨statement, head, ((readSchema_dispatch statement).1 head).2.1 (by decide +kernel)⟩

/-- For a column of the name `view` the table is called a malformed view. -/
theorem sixth_malformed : ⟨sixth, 0⟩ ∈ splitTopLevel (· == ';') (blankComments (sixth ++ [';'])) ∧
    tableHead.matchesStart (trim sixth) = true ∧
    readSchema (sixth ++ [';']) = reject (.statement .malformedView)
    (Place.atOffset (sixth ++ [';']) 0 none) := by
  refine ⟨?_, ?_, ?_⟩
  · decide +kernel
  · decide +kernel
  · decide +kernel

end Viewed
end Rulebook.Sql
