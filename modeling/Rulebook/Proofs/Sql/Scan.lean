import Rulebook.Proofs.Text.Pattern
import Rulebook.Sql.Scan

/-!
# Scanning one text after another

The scanners go through a text from left to right. Where the state of a scanner after a text is
known (`CommentState.after`, `maskAfter`), what it makes of a text followed by another one is what
it makes of the first, followed by what it makes of the second from that state. A text with a
separator at its top level falls into the pieces before the separator and those after it
(`splitTopLevel_append`).
-/

namespace Rulebook.Sql
open Text Pattern

/-! ## Comments -/

/-- Where the scan for comments stands after a text. -/
def CommentState.after : CommentState → List Char → CommentState
  | state, [] => state
  | .quoted q, c :: rest => after (if c = q then .code else .quoted q) rest
  | .line, c :: rest => after (if c = '\n' then .code else .line) rest
  | .block, '*' :: '/' :: rest => after .code rest
  | .block, _ :: rest => after .block rest
  | .code, '-' :: '-' :: rest => after .line rest
  | .code, '/' :: '*' :: rest => after .block rest
  | .code, c :: rest => after (if isQuote c then .quoted c else .code) rest

/-- The marks of comments that are two characters long. -/
def commentMarks : List (Char × Char) := [('-', '-'), ('/', '*'), ('*', '/')]

/-- No mark of a comment stands half at the end of the first text and half at the
start of the second. -/
def Apart (s t : List Char) : Prop := ∀ c ∈ s.getLast?, ∀ d ∈ t.head?, (c, d) ∉ commentMarks

/-- Texts apart stay apart without the first character of the first one. -/
lemma Apart.tail {c : Char} {s t : List Char} (h : Apart (c :: s) t) : Apart s t := by
  cases s with
  | nil => nofun
  | cons d s => rwa [Apart, List.getLast?_cons_cons] at h

/-- No mark reaches over the end of a line. -/
lemma apart_of_wholeLines {s : List Char} (h : WholeLines s) (t : List Char) : Apart s t := by
  intro c hc d _ mark
  rw [h c hc] at mark
  simp [commentMarks] at mark

/-- No mark holds a quote. -/
lemma apart_quote {q : Char} (h : isQuote q = true) (s t : List Char) : Apart s (q :: t) := by
  rintro c - d ⟨⟩ mark
  have other : ∀ m ∈ commentMarks, isQuote m.2 = false := by decide
  rw [other _ mark] at h
  cases h

/-- A mark that does not stand in the first text does not begin there either. -/
lemma Apart.no_mark {c x y : Char} {s t : List Char} (h : Apart (c :: s) t)
    (mark : (x, y) ∈ commentMarks) (none : ∀ r, c = x → s = y :: r → False) :
    ∀ r, c = x → s ++ t = y :: r → False := by
  rintro r rfl hr
  cases s with
  | nil => exact h c rfl y (by rw [← List.nil_append t, hr]; rfl) mark
  | cons e s =>
    obtain ⟨rfl, -⟩ := List.cons.inj hr
    exact none s rfl rfl

/-- Where no mark reaches over the end of the first text, the two are scanned
one after the other. -/
lemma blankCommentsFrom_append {a t : List Char} (apart : Apart a t) (state : CommentState) :
    blankCommentsFrom state (a ++ t) = blankCommentsFrom state a ++
    blankCommentsFrom (state.after a) t := by
  fun_induction blankCommentsFrom state a with
  | case1 state => simp [CommentState.after]
  | case2 q c rest ih => simp [blankCommentsFrom, CommentState.after, ih apart.tail]
  | case3 rest ih => simp [blankCommentsFrom, CommentState.after, ih apart.tail]
  | case4 c rest hc ih => simp [blankCommentsFrom, CommentState.after, hc, ih apart.tail]
  | case5 rest ih => simp [blankCommentsFrom, CommentState.after, ih apart.tail.tail]
  | case6 c rest other ih =>
    have other' := apart.no_mark (by decide) other
    simp [blankCommentsFrom, CommentState.after, ih apart.tail]
  | case7 rest ih => simp [blankCommentsFrom, CommentState.after, ih apart.tail.tail]
  | case8 rest ih => simp [blankCommentsFrom, CommentState.after, ih apart.tail.tail]
  | case9 c rest dash slash ih =>
    have dash' := apart.no_mark (by decide) dash
    have slash' := apart.no_mark (by decide) slash
    simp [blankCommentsFrom, CommentState.after, ih apart.tail]

/-- Blanking comments keeps the length. -/
lemma length_blankComments (s : List Char) : (blankComments s).length = s.length := by
  unfold blankComments
  fun_induction blankCommentsFrom .code s <;> simp [*]

/-! ## The top level -/

/-- The depth of parentheses after a text, and the closing quote of quoted text
that is open there. -/
def maskAfter : Int → Option Char → List Char → Int × Option Char
  | depth, quote, [] => (depth, quote)
  | depth, some q, c :: rest => maskAfter depth (if c = q then none else some q) rest
  | depth, none, c :: rest =>
    match closingQuote? c with
    | some q => maskAfter depth (some q) rest
    | none =>
      maskAfter (if c = '(' then depth + 1 else if c = ')' then depth - 1 else depth) none rest

/-- The mask of two texts is that of the first one, and that of the second one from where the
first one leaves it. -/
lemma maskFrom_append (depth : Int) (quote : Option Char) (s t : List Char) :
    maskFrom depth quote (s ++ t) =
      maskFrom depth quote s ++
      maskFrom (maskAfter depth quote s).1 (maskAfter depth quote s).2 t := by
  fun_induction maskFrom depth quote s <;> simp_all [maskFrom, maskAfter]

/-- A mask is as long as its text, wherever it begins. -/
lemma length_maskFrom (depth : Int) (quote : Option Char) (s : List Char) :
    (maskFrom depth quote s).length = s.length := by
  fun_induction maskFrom depth quote s <;> simp [*]

/-- A mask is as long as its text. -/
lemma length_mask (s : List Char) : (mask s).length = s.length := length_maskFrom 0 none s

/-! ## Pieces -/

/-- The piece, in a text that begins so many characters further on. -/
def Piece.shift (k : Nat) (p : Piece) : Piece := { p with offset := p.offset + k }

variable {isSep : Char → Bool}

/-- Cutting gives a first piece, at the start. -/
lemma cut_head (isSep : Char → Bool) (pos : Nat) (s : List (Char × Char)) :
    ∃ p ps, cut isSep pos s = ⟨p, pos⟩ :: ps := by
  fun_cases cut isSep pos s <;> simp

/-- Cutting gives at least one piece. -/
lemma cut_ne_nil (pos : Nat) (s : List (Char × Char)) : cut isSep pos s ≠ [] := by
  fun_cases cut isSep pos s <;> simp

/-- Pieces of a text that begins further on stand as much further on. -/
lemma cut_shift (pos k : Nat) (s : List (Char × Char)) :
    cut isSep (pos + k) s = (cut isSep pos s).map (Piece.shift k) := by
  fun_induction cut isSep pos s with
  | case1 => rfl
  | case2 pos c m rest sep ih => simp [cut, sep, ← ih, Piece.shift, Nat.add_right_comm]
  | case3 pos c m rest sep none => exact absurd none (cut_ne_nil _ _)
  | case4 pos c m rest sep p ps eq ih =>
    rw [Nat.add_right_comm] at ih
    simp [cut, sep, ih, eq, Piece.shift]

/-- A separator ends the pieces before it, and the pieces after it begin anew. -/
lemma cut_append {c m : Char} (sep : isSep m) (pos : Nat) (s t : List (Char × Char)) :
    cut isSep pos (s ++ (c, m) :: t) = cut isSep pos s ++ cut isSep (pos + s.length + 1) t := by
  have next (pos : Nat) (d : Char × Char) (rest : List (Char × Char)) :
      pos + (d :: rest).length + 1 = pos + 1 + rest.length + 1 := by
    rw [List.length_cons]
    omega
  fun_induction cut isSep pos s with
  | case1 pos => simp [cut, sep]
  | case2 pos d n rest sep' ih => simp only [List.cons_append, cut, sep', if_true, ih, next]
  | case3 pos d n rest sep' none => exact absurd none (cut_ne_nil _ _)
  | case4 pos d n rest sep' p ps eq ih =>
    rw [List.cons_append, cut, if_neg sep', ih, eq, next]
    rfl

/-- Pieces lie within the text that they are cut from. -/
lemma cut_le {pos : Nat} {s : List (Char × Char)} {p : Piece} (h : p ∈ cut isSep pos s) :
    pos ≤ p.offset ∧ p.offset + p.text.length ≤ pos + s.length := by
  fun_induction cut isSep pos s generalizing p with
  | case1 pos =>
    cases List.mem_singleton.1 h
    exact ⟨le_rfl, le_rfl⟩
  | case2 pos c m rest sep ih =>
    rw [List.length_cons]
    obtain rfl | h := List.mem_cons.1 h
    · simp
    · have := ih h
      omega
  | case3 pos c m rest sep none => exact absurd none (cut_ne_nil _ _)
  | case4 pos c m rest sep q qs eq ih =>
    rw [List.length_cons]
    obtain rfl | h := List.mem_cons.1 h
    · have := ih (p := q) (eq ▸ List.mem_cons_self ..)
      simp only [List.length_cons]
      omega
    · have := ih (eq ▸ List.mem_cons_of_mem q h)
      omega

/-- Pieces stand within their text. -/
lemma splitTopLevel_le {s : List Char} {p : Piece} (h : p ∈ splitTopLevel isSep s) :
    p.offset + p.text.length ≤ s.length := by
  have := (cut_le h).2
  rwa [List.length_zip, length_mask, Nat.min_self, Nat.zero_add] at this

end Rulebook.Sql
