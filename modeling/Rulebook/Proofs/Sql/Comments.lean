import Rulebook.Proofs.Sql.Literal

/-!
# What is a comment

Every text falls into stretches (`Divided`): characters of code, quoted texts, and comments.
Blanking out comments leaves code and quoted text as they are and line feeds where they are, and
blanks out all else of the comments (`blankComments_divided`). Nothing is left for a second run:
what is left of a comment opens none with what stands beside it.
-/

namespace Rulebook.Sql
open Text

/-! ## Stretches -/

/-- A stretch of a text: a character of code, or quoted text or a comment, which
need not be closed. -/
inductive Stretch where
  | code (c : Char)
  | quoted (quote : Char) (body : List Char) (closed : Bool)
  | line (body : List Char)
  | block (body : List Char) (closed : Bool)

/-- A stretch as it is written. -/
def Stretch.text : Stretch → List Char
  | .code c => [c]
  | .quoted q body closed => q :: (body ++ if closed then [q] else [])
  | .line body => '-' :: '-' :: body
  | .block body closed => '/' :: '*' :: (body ++ if closed then ['*', '/'] else [])

/-- What is left of a character of a comment. -/
def blanked (c : Char) : Char := if c = '\n' then c else ' '

/-- A stretch is a comment, of one line or with marks around it. -/
def Stretch.isComment : Stretch → Bool
  | .line _ | .block .. => true
  | _ => false

/-- A stretch, blanked out if it is a comment. -/
def Stretch.shown (p : Stretch) : List Char := if p.isComment then p.text.map blanked else p.text

/-- The text that stretches make up. -/
def textOf (ps : List Stretch) : List Char := ps.flatMap Stretch.text

/-- Two characters open a comment. -/
def OpensComment (s : List Char) : Prop := ['-', '-'] <+: s ∨ ['/', '*'] <+: s

/-- Stretches that divide a text. Quotes and comments open only in code, quoted text ends at the
first closing quote, a comment of a line ends before the line feed and any other comment at the
first star-slash; what is not closed goes on to the end. -/
inductive Divided : List Stretch → Prop
  | nil : Divided []
  | code {c ps} : isQuote c = false → ¬ OpensComment (c :: textOf ps) → Divided ps →
      Divided (.code c :: ps)
  | quoted {q body ps} : isQuote q = true → q ∉ body → Divided ps →
      Divided (.quoted q body true :: ps)
  | openQuote {q body} : isQuote q = true → q ∉ body → Divided [.quoted q body false]
  | line {body ps} : '\n' ∉ body → (∀ c ∈ (textOf ps).head?, c = '\n') → Divided ps →
      Divided (.line body :: ps)
  | block {body ps} : ¬ ['*', '/'] <:+: body ++ ['*'] → Divided ps →
      Divided (.block body true :: ps)
  | openBlock {body} : ¬ ['*', '/'] <:+: body → Divided [.block body false]

/-! ## Blanking out a stretch -/

variable {c q : Char} {s t body : List Char}

/-- What neither quotes nor opens a comment stays. -/
lemma blankComments_code (quote : isQuote c = false) (opens : ¬ OpensComment (c :: s)) :
    blankComments (c :: s) = c :: blankComments s := by
  rw [blankComments, blankCommentsFrom]
  · rw [quote, if_neg Bool.false_ne_true]
    rfl
  · rintro r rfl rfl
    exact opens (.inl ⟨r, rfl⟩)
  · rintro r rfl rfl
    exact opens (.inr ⟨r, rfl⟩)

/-- A quote stays, and opens a quoted text. -/
lemma blankComments_quote (quote : isQuote q = true) (s : List Char) :
    blankComments (q :: s) = q :: blankCommentsFrom (.quoted q) s := by
  rw [blankComments, blankCommentsFrom]
  · rw [if_pos quote]
  · rintro r rfl
    cases quote
  · rintro r rfl
    cases quote

/-- Quoted text that is not closed stays what it is. -/
lemma blankCommentsFrom_openQuote (h : q ∉ s) : blankCommentsFrom (.quoted q) s = s := by
  induction s with
  | nil => rfl
  | cons c s ih =>
    obtain ⟨other, h⟩ := List.ne_and_not_mem_of_not_mem_cons h
    rw [blankCommentsFrom, if_neg other.symm, ih h]

/-- The comment of a line ends before the line feed. -/
lemma blankCommentsFrom_line (h : '\n' ∉ body) (ends : ∀ c ∈ s.head?, c = '\n') :
    blankCommentsFrom .line (body ++ s) = body.map blanked ++ blankComments s := by
  induction body with
  | nil =>
    cases s with
    | nil => rfl
    | cons c s =>
      obtain rfl := ends c rfl
      rfl
  | cons c body ih =>
    obtain ⟨other, h⟩ := List.ne_and_not_mem_of_not_mem_cons h
    rw [List.cons_append, blankCommentsFrom, if_neg other.symm, ih h, List.map_cons, blanked,
      if_neg other.symm, List.cons_append]

/-- In a comment that does not end here, a character is blanked. -/
lemma blankCommentsFrom_block_cons (h : ¬ ['*', '/'] <+: c :: s) :
    blankCommentsFrom .block (c :: s) = blanked c :: blankCommentsFrom .block s := by
  rw [blankCommentsFrom]
  · rfl
  · rintro r rfl rfl
    exact h ⟨r, rfl⟩

/-- Whether a comment ends at its first character is seen without what follows the end. -/
lemma star_slash_prefix_iff (c : Char) (body s : List Char) :
    ['*', '/'] <+: c :: (body ++ '*' :: '/' :: s) ↔ ['*', '/'] <+: c :: (body ++ ['*']) := by
  have start : c :: (body ++ ['*']) <+: c :: (body ++ '*' :: '/' :: s) := ⟨'/' :: s, by simp⟩
  refine ⟨fun h => List.prefix_of_prefix_length_le h start (by simp), fun h => h.trans start⟩

/-- A comment ends at the first star-slash. -/
lemma blankCommentsFrom_block (h : ¬ ['*', '/'] <:+: body ++ ['*']) (s : List Char) :
    blankCommentsFrom .block (body ++ '*' :: '/' :: s) = (body ++ ['*', '/']).map blanked ++
    blankComments s := by
  induction body with
  | nil => rfl
  | cons c body ih =>
    rw [List.cons_append, List.infix_cons_iff, not_or] at h
    have first := mt (star_slash_prefix_iff c body s).1 h.1
    rw [List.cons_append, blankCommentsFrom_block_cons first, ih h.2, List.cons_append,
      List.map_cons, List.cons_append]

/-- A comment without a star-slash goes on to the end. -/
lemma blankCommentsFrom_openBlock (h : ¬ ['*', '/'] <:+: s) :
    blankCommentsFrom .block s = s.map blanked := by
  induction s with
  | nil => rfl
  | cons c s ih =>
    rw [List.infix_cons_iff, not_or] at h
    rw [blankCommentsFrom_block_cons h.1, ih h.2, List.map_cons]

/-- Blanking out the comments of a text blanks them out stretch by stretch. -/
lemma Divided.blankComments_eq {ps : List Stretch} (h : Divided ps) :
    blankComments (textOf ps) = ps.flatMap Stretch.shown := by
  induction h with
  | nil => rfl
  | code quote opens _ ih =>
    exact (blankComments_code quote opens).trans (congrArg _ ih)
  | @quoted q body ps quote inside _ ih =>
    have whole : textOf (.quoted q body true :: ps) = q :: (body ++ q :: textOf ps) := by
      simp [textOf, Stretch.text]
    rw [whole, blankComments_quote quote, blankCommentsFrom_quoted inside, ih]
    simp [Stretch.shown, Stretch.isComment, Stretch.text]
  | @openQuote q body quote inside =>
    have whole : textOf [.quoted q body false] = q :: body := by simp [textOf, Stretch.text]
    rw [whole, blankComments_quote quote, blankCommentsFrom_openQuote inside]
    simp [Stretch.shown, Stretch.isComment, Stretch.text]
  | @line body ps inside ends _ ih =>
    have whole : textOf (.line body :: ps) = '-' :: '-' :: (body ++ textOf ps) := rfl
    rw [whole, blankComments, blankCommentsFrom, blankCommentsFrom_line inside ends, ih]
    rfl
  | @block body ps first _ ih =>
    have whole : textOf (.block body true :: ps) =
        '/' :: '*' :: (body ++ '*' :: '/' :: textOf ps) := by
      simp [textOf, Stretch.text]
    rw [whole, blankComments, blankCommentsFrom, blankCommentsFrom_block first, ih]
    simp [Stretch.shown, Stretch.isComment, Stretch.text, blanked]
  | @openBlock body none =>
    have whole : textOf [.block body false] = '/' :: '*' :: body := by simp [textOf, Stretch.text]
    rw [whole, blankComments, blankCommentsFrom, blankCommentsFrom_openBlock none]
    simp [Stretch.shown, Stretch.isComment, Stretch.text, blanked]

/-- The rest of a line, up to its line feed or the end of the text. -/
lemma exists_lineFeed (s : List Char) :
    ∃ body t, s = body ++ t ∧ '\n' ∉ body ∧ ∀ c ∈ t.head?, c = '\n' := by
  refine ⟨s.takeWhile (· != '\n'), s.dropWhile (· != '\n'), List.takeWhile_append_dropWhile.symm,
    fun h => ?_, fun c hc => ?_⟩
  · simpa using List.all_eq_true.1 List.all_takeWhile _ h
  · have stop := List.head?_dropWhile_not (· != '\n') s
    rw [Option.mem_def.1 hc] at stop
    simpa using stop

/-- The first star-slash of a text, or none. -/
lemma exists_star_slash (s : List Char) :
    (∃ body t, s = body ++ '*' :: '/' :: t ∧ ¬ ['*', '/'] <:+: body ++ ['*']) ∨
    ¬ ['*', '/'] <:+: s := by
  induction s with
  | nil => exact .inr (by simp)
  | cons c s ih =>
    by_cases first : ['*', '/'] <+: c :: s
    · obtain ⟨t, ht⟩ := first
      exact .inl ⟨[], t, ht.symm, by decide⟩
    · obtain ⟨body, t, rfl, none⟩ | none := ih
      · refine .inl ⟨c :: body, t, rfl, ?_⟩
        rw [List.cons_append, List.infix_cons_iff, not_or]
        exact ⟨mt (star_slash_prefix_iff c body t).2 first, none⟩
      · refine .inr ?_
        rw [List.infix_cons_iff, not_or]
        exact ⟨first, none⟩

/-- Every text falls into stretches. -/
lemma exists_divided (s : List Char) : ∃ ps, Divided ps ∧ textOf ps = s := by
  induction hn : s.length using Nat.strong_induction_on generalizing s with
  | _ n ih =>
    subst hn
    match s with
    | [] => exact ⟨[], .nil, rfl⟩
    | c :: s =>
      by_cases quote : isQuote c = true
      · by_cases closed : c ∈ s
        · obtain ⟨body, t, rfl, inside⟩ := List.eq_append_cons_of_mem closed
          obtain ⟨ps, divided, rfl⟩ := ih t.length (by simp; omega) t rfl
          exact ⟨.quoted c body true :: ps, .quoted quote inside divided, by
            simp [textOf, Stretch.text]⟩
        · exact ⟨[.quoted c s false], .openQuote quote closed, by simp [textOf, Stretch.text]⟩
      · rw [Bool.not_eq_true] at quote
        by_cases opens : OpensComment (c :: s)
        · obtain ⟨t, ht⟩ | ⟨t, ht⟩ := opens
          · cases ht
            obtain ⟨body, rest, rfl, inside, ends⟩ := exists_lineFeed t
            obtain ⟨ps, divided, rfl⟩ := ih rest.length (by simp; omega) rest rfl
            exact ⟨.line body :: ps, .line inside ends divided, rfl⟩
          · cases ht
            obtain ⟨body, rest, rfl, first⟩ | none := exists_star_slash t
            · obtain ⟨ps, divided, rfl⟩ := ih rest.length (by simp; omega) rest rfl
              exact ⟨.block body true :: ps, .block first divided, by simp [textOf, Stretch.text]⟩
            · exact ⟨[.block t false], .openBlock none, by simp [textOf, Stretch.text]⟩
        · obtain ⟨ps, divided, rfl⟩ := ih s.length (by simp) s rfl
          exact ⟨.code c :: ps, .code quote opens divided, rfl⟩

/-! ## Blanking out again -/

/-- Where the scan stands in a text that was blanked out, where it stood in the text
itself: in no comment. -/
def CommentState.cleared : CommentState → CommentState
  | .quoted q => .quoted q
  | _ => .code

/-- What is left of a comment is code. -/
lemma blankComments_blanked (c : Char) (s : List Char) :
    blankComments (blanked c :: s) = blanked c :: blankComments s := by
  unfold blanked
  split
  · rename_i feed
    subst feed
    rfl
  · rfl

/-- The first character stays or is blanked out. -/
lemma head?_blankCommentsFrom {state : CommentState} (h : c ∈ (blankCommentsFrom state s).head?) :
    c = ' ' ∨ c ∈ s.head? := by
  fun_cases blankCommentsFrom state s <;> grind [blankCommentsFrom]

/-- Two characters that open no comment do not open one either if what follows is blanked out. -/
lemma not_opensComment {state : CommentState} (h : ¬ OpensComment (c :: s)) :
    ¬ OpensComment (c :: blankCommentsFrom state s) := by
  have second {d : Char} {t : List Char} (hd : d ≠ ' ') (ht : blankCommentsFrom state s = d :: t) :
      ∃ u, s = d :: u := by
    have first : d ∈ (blankCommentsFrom state s).head? := by rw [ht]; rfl
    obtain rfl | hs := head?_blankCommentsFrom first
    · exact absurd rfl hd
    · exact ⟨s.tail, List.eq_cons_of_mem_head? hs⟩
  rintro (⟨t, ht⟩ | ⟨t, ht⟩)
  · obtain ⟨rfl, rest⟩ := List.cons.inj ht
    obtain ⟨u, rfl⟩ := second (by decide) rest.symm
    exact h (.inl ⟨u, rfl⟩)
  · obtain ⟨rfl, rest⟩ := List.cons.inj ht
    obtain ⟨u, rfl⟩ := second (by decide) rest.symm
    exact h (.inr ⟨u, rfl⟩)

/-- Blanking out comments a second time changes nothing, wherever the scan begins. -/
lemma blankCommentsFrom_cleared (state : CommentState) (s : List Char) :
    blankCommentsFrom state.cleared (blankCommentsFrom state s) = blankCommentsFrom state s := by
  fun_induction blankCommentsFrom state s with
  | case1 state => cases state <;> rfl
  | case2 q c rest ih =>
    rw [CommentState.cleared, blankCommentsFrom]
    by_cases closes : c = q
    · rw [if_pos closes] at ih ⊢
      exact congrArg _ ih
    · rw [if_neg closes] at ih ⊢
      exact congrArg _ ih
  | case3 rest ih => exact congrArg _ ih
  | case4 c rest other ih => exact (blankComments_blanked ' ' _).trans (congrArg _ ih)
  | case6 c rest other ih => exact (blankComments_blanked c _).trans (congrArg _ ih)
  | case5 rest ih | case7 rest ih | case8 rest ih =>
    refine (blankComments_blanked ' ' _).trans (congrArg _ ?_)
    exact (blankComments_blanked ' ' _).trans (congrArg _ ih)
  | case9 c rest dash slash ih =>
    have opens : ¬ OpensComment (c :: rest) := by
      rintro (⟨t, ht⟩ | ⟨t, ht⟩)
      · cases ht
        exact dash t rfl rfl
      · cases ht
        exact slash t rfl rfl
    cases quote : isQuote c with
    | true =>
      rw [quote, if_pos rfl] at ih
      exact (blankComments_quote quote _).trans (congrArg _ ih)
    | false =>
      rw [quote, if_neg Bool.false_ne_true] at ih
      exact (blankComments_code quote (not_opensComment opens)).trans (congrArg _ ih)

/-- Line feeds stay where they are, and no others arise. -/
lemma lineFeeds_blankCommentsFrom (state : CommentState) (s : List Char) :
    (blankCommentsFrom state s).map (· == '\n') = s.map (· == '\n') := by
  fun_induction blankCommentsFrom state s <;> simp_all

/-- Every text falls into stretches, and blanking out its comments leaves code and quoted text,
blanks out the comments but for their line feeds, and leaves all in its place: length and line feeds
are those of the text. Doing so again changes nothing. -/
theorem blankComments_divided (s : List Char) :
    (∃ ps, Divided ps ∧ textOf ps = s) ∧
    (∀ ps, Divided ps → textOf ps = s → blankComments s = ps.flatMap Stretch.shown) ∧
    (blankComments s).length = s.length ∧
    (∀ i : ℕ, (blankComments s)[i]? = some '\n' ↔ s[i]? = some '\n') ∧
    blankComments (blankComments s) = blankComments s := by
  refine ⟨exists_divided s, ?_, length_blankComments s, fun i => ?_,
    blankCommentsFrom_cleared .code s⟩
  · rintro ps divided rfl
    exact divided.blankComments_eq
  · have feeds := congrArg (fun l : List Bool => l[i]? = some true)
      (lineFeeds_blankCommentsFrom .code s)
    rw [List.getElem?_map, List.getElem?_map] at feeds
    simpa [blankComments] using feeds

namespace Commented

/-- A text with hyphens in quotes, a comment with a quote, and a comment that is not closed. -/
def text : List Char := "'--' -- it's\n/*\n'".toList

/-- What the text falls into. -/
def stretches : List Stretch :=
  [.quoted '\'' "--".toList true, .code ' ', .line " it's".toList, .code '\n',
    .block "\n'".toList false]

/-- Both comments are blanked out, and nothing else is. -/
theorem text_divided : Divided stretches ∧ textOf stretches = text ∧
    blankComments text = "'--'        \n  \n ".toList := by
  have divided : Divided stretches := by
    refine .quoted rfl (by decide)
      (.code rfl ?_ (.line (by decide) ?_ (.code rfl ?_ (.openBlock (by decide)))))
    · rintro (⟨t, ht⟩ | ⟨t, ht⟩) <;> cases ht
    · rintro c ⟨⟩
      rfl
    · rintro (⟨t, ht⟩ | ⟨t, ht⟩) <;> cases ht
  have whole : textOf stretches = text := by decide
  refine ⟨divided, whole, ?_⟩
  rw [(blankComments_divided text).2.1 stretches divided whole]
  decide

end Commented
end Rulebook.Sql
