import Rulebook.Proofs.Sql.Balanced
import Rulebook.Proofs.Sql.Slice

/-!
# Scanning over a literal

A literal between single quotes stands in a text (`withLiteral`). The scanners go over it: what they
make of the text around it is the same for every literal of one length. Comments are blanked out
before it and after it (`blankComments_withLiteral`), the literal stands in one piece between
separators (`splitTopLevel_withLiteral`), and no parenthesis in it closes one before it
(`closingParenFrom_literal`).
-/

namespace Rulebook.Sql
open Text Pattern

/-- A text with a literal between single quotes in it. -/
def withLiteral (before after literal : List Char) : List Char :=
  before ++ '\'' :: (literal ++ '\'' :: after)

variable {a b u : List Char} {isSep : Char → Bool}

/-- A text with a literal is as long as its parts and two quotes. -/
lemma length_withLiteral : (withLiteral a b u).length = a.length + (u.length + b.length + 2) := by
  simp only [withLiteral, List.length_append, List.length_cons]
  omega

/-! ## Comments -/

/-- A quoted text stays up to its closing quote. -/
lemma blankCommentsFrom_quoted {q : Char} (h : q ∉ u) (b : List Char) :
    blankCommentsFrom (.quoted q) (u ++ q :: b) = u ++ q :: blankComments b := by
  induction u with
  | nil => rw [List.nil_append, blankCommentsFrom, if_pos rfl]; rfl
  | cons c u ih =>
    obtain ⟨other, h⟩ := List.ne_and_not_mem_of_not_mem_cons h
    rw [List.cons_append, blankCommentsFrom, if_neg other.symm, ih h, List.cons_append]

/-- Comments are blanked around a literal, which stays. -/
lemma blankComments_withLiteral (code : CommentState.code.after a = .code) (h : '\'' ∉ u) :
    blankComments (withLiteral a b u) = withLiteral (blankComments a) (blankComments b) u := by
  have opening : blankCommentsFrom .code ('\'' :: (u ++ '\'' :: b)) =
      '\'' :: blankCommentsFrom (.quoted '\'') (u ++ '\'' :: b) := by
    rw [blankCommentsFrom] <;> simp [isQuote]
  rw [blankComments, withLiteral, blankCommentsFrom_append (apart_quote rfl _ _), code, opening,
    blankCommentsFrom_quoted h]
  rfl

/-! ## Blanks -/

/-- Before a literal, a text is trimmed as without it. -/
lemma trimStart_withLiteral : trimStart (withLiteral a b u) = withLiteral (trimStart a) b u :=
  dropWhile_append_stop rfl _ _

/-- A text is trimmed at its end up to what is no blank. -/
lemma trimEnd_append_stop {x : Char} (h : isBlank x = false) (s t : List Char) :
    trimEnd (s ++ x :: t) = s ++ x :: trimEnd t := by
  rw [trimEnd, List.reverse_append, List.reverse_cons, List.append_assoc, List.singleton_append,
    dropWhile_append_stop h, List.reverse_append, List.reverse_cons, List.reverse_reverse,
    List.append_assoc]
  rfl

/-- A literal ends the trimming of what stands before it and after it. -/
lemma trim_withLiteral : trim (withLiteral a b u) = withLiteral (trimStart a) (trimEnd b) u := by
  have stop : isBlank '\'' = false := rfl
  rw [trim, trimStart_withLiteral, withLiteral, ← List.cons_append, ← List.append_assoc,
    trimEnd_append_stop stop, List.append_assoc, List.cons_append, withLiteral]

/-! ## Pieces -/

/-- Where a text is parted within a piece, that piece goes on in the second part. -/
lemma cut_glue {s t : List (Char × Char)} {pos o : Nat} {L R : List Piece} {x y : List Char}
    (hs : cut isSep pos s = L ++ [⟨x, o⟩])
    (ht : cut isSep (pos + s.length) t = ⟨y, pos + s.length⟩ :: R) :
    cut isSep pos (s ++ t) = L ++ ⟨x ++ y, o⟩ :: R := by
  induction s generalizing pos L x o with
  | nil =>
    obtain ⟨rfl, same⟩ := List.append_eq_singleton_iff.1 hs.symm |>.resolve_right (by simp)
    cases same
    exact ht
  | cons d s ih =>
    obtain ⟨c, m⟩ := d
    have next : pos + ((c, m) :: s).length = pos + 1 + s.length := by rw [List.length_cons]; omega
    rw [next] at ht
    rw [cut] at hs
    rw [List.cons_append, cut]
    split at hs
    · rename_i sep
      rw [if_pos sep]
      cases L with
      | nil => exact absurd (List.cons.inj hs).2 (cut_ne_nil _ _)
      | cons p L =>
        rw [List.cons_append, List.cons.injEq] at hs
        rw [ih hs.2 ht, ← hs.1, List.cons_append]
    · rename_i plain
      rw [if_neg plain]
      obtain ⟨p, ps, hp⟩ := cut_head isSep (pos + 1) s
      rw [hp] at hs
      cases L with
      | nil =>
        cases hs
        rw [ih (L := []) hp ht]
        rfl
      | cons q L =>
        obtain ⟨rfl, rfl⟩ := List.cons.inj hs
        rw [ih (L := ⟨p, pos + 1⟩ :: L) hp ht]
        rfl

/-- What stands after the last separator at the top level of a text. -/
def lastPiece (isSep : Char → Bool) (s : List Char) : List Char :=
  ((splitTopLevel isSep s).getLast?.map Piece.text).getD []

/-- After a closing quote, the mask stands where it stood before the opening one. -/
lemma maskAfter_quoted {q : Char} (h : q ∉ u) (depth : Int) :
    maskAfter depth (some q) (u ++ [q]) = (depth, none) := by
  induction u with
  | nil => simp [maskAfter]
  | cons c u ih =>
    obtain ⟨other, h⟩ := List.ne_and_not_mem_of_not_mem_cons h
    rw [List.cons_append, maskAfter, if_neg other.symm, ih h]

/-- The mask shows the quotes of a literal, or blanks. -/
lemma maskFrom_literal (blank : isSep ' ' = false) (quote : isSep '\'' = false)
    (h : '\'' ∉ u) (depth : Int) :
    ∀ m ∈ maskFrom depth none ('\'' :: (u ++ ['\''])), isSep m = false := by
  have shown : isSep (shownAt depth '\'') = false := by
    rw [shownAt]
    split
    · exact blank
    · exact quote
  rw [maskFrom_opening (show closingQuote? '\'' = some '\'' from rfl), maskFrom_quoted h,
    List.forall_mem_cons, List.forall_mem_append, List.forall_mem_cons]
  refine ⟨shown, fun m hm => ?_, shown, List.forall_mem_nil _⟩
  rw [List.eq_of_mem_replicate hm]
  exact blank

/-- A literal at the end of a piece, outside of other quotes, goes on in that piece, and so
does what follows it. -/
lemma splitTopLevel_withLiteral (blank : isSep ' ' = false) (quote : isSep '\'' = false)
    (unquoted : (maskAfter 0 none a).2 = none) (b : List Char) (n : Nat) :
    ∃ L o y R, splitTopLevel isSep a = L ++ [⟨lastPiece isSep a, o⟩] ∧
    ∀ u, u.length = n → '\'' ∉ u →
      splitTopLevel isSep (withLiteral a b u) =
      L ++ ⟨withLiteral (lastPiece isSep a) y u, o⟩ :: R := by
  obtain ⟨L, ⟨x, o⟩, hL⟩ : ∃ L p, splitTopLevel isSep a = L ++ [p] :=
    ⟨_, _, (List.dropLast_append_getLast (cut_ne_nil _ _)).symm⟩
  have last : lastPiece isSep a = x := by rw [lastPiece, hL, List.getLast?_concat]; rfl
  obtain ⟨depth, hd⟩ : ∃ depth, maskAfter 0 none a = (depth, none) := ⟨_, Prod.ext rfl unquoted⟩
  obtain ⟨y, R, hy⟩ := cut_head isSep (0 + a.length + (n + 2)) (b.zip (maskFrom depth none b))
  refine ⟨L, o, y, R, last ▸ hL, fun u hn hu => ?_⟩
  obtain ⟨lit, hlit⟩ : ∃ lit, lit = '\'' :: (u ++ ['\'']) := ⟨_, rfl⟩
  have length : lit.length = n + 2 := by rw [hlit, ← hn]; simp
  have text : withLiteral a b u = a ++ (lit ++ b) := by rw [hlit, withLiteral]; simp
  have masked : mask (a ++ (lit ++ b)) = mask a ++
      (maskFrom depth none lit ++ maskFrom depth none b) := by
    have after : maskAfter depth none lit = (depth, none) := hlit ▸ maskAfter_quoted hu depth
    rw [mask, maskFrom_append, hd, maskFrom_append, after]
    rfl
  have plain : ∀ d ∈ lit.zip (maskFrom depth none lit), isSep d.2 = false := by
    intro d hd
    exact maskFrom_literal blank quote hu depth _ (hlit ▸ (List.of_mem_zip hd).2)
  have zipped : (lit.zip (maskFrom depth none lit)).length = n + 2 := by
    rw [List.length_zip, length_maskFrom, Nat.min_self, length]
  have alone : (lit.zip (maskFrom depth none lit)).map Prod.fst = lit :=
    List.map_fst_zip (length_maskFrom ..).ge
  have whole : (a.zip (mask a)).length = a.length := by
    rw [List.length_zip, length_mask, Nat.min_self]
  -- The literal is cut from what follows it first, and then from what stands before it.
  have middle := cut_glue (L := []) (cut_single plain (0 + a.length)) (zipped.symm ▸ hy)
  rw [alone] at middle
  rw [splitTopLevel, text, masked, List.zip_append (length_mask a).symm,
    List.zip_append (length_maskFrom ..).symm,
    last, cut_glue hL (whole.symm ▸ middle), hlit, withLiteral]
  simp

/-! ## Parentheses -/

/-- The depth of parentheses after a text and the open quote there, unless the first parenthesis
is closed by then. -/
def closingAfter? : Int → Option Char → List Char → Option (Int × Option Char)
  | depth, quote, [] => some (depth, quote)
  | depth, some q, c :: rest => closingAfter? depth (if c = q then none else some q) rest
  | depth, none, c :: rest =>
    if isQuote c then closingAfter? depth (some c) rest
    else if c = '(' then closingAfter? (depth + 1) none rest
    else if c = ')' then if depth - 1 = 0 then none else closingAfter? (depth - 1) none rest
    else closingAfter? depth none rest

/-- What closes no parenthesis is passed over. -/
lemma closingParenFrom_append {pos : Nat} {depth : Int} {quote : Option Char} {s : List Char}
    {k : Int × Option Char} (h : closingAfter? depth quote s = some k) (t : List Char) :
    closingParenFrom pos depth quote (s ++ t) = closingParenFrom (pos + s.length) k.1 k.2 t := by
  induction s generalizing pos depth quote with
  | nil =>
    cases h
    rfl
  | cons c s ih =>
    have next : pos + (c :: s).length = pos + 1 + s.length := by rw [List.length_cons]; omega
    rw [List.cons_append, next, closingParenFrom.eq_def]
    cases quote with
    | some q => exact ih h
    | none =>
      rw [closingAfter?] at h
      dsimp only
      split at h
      · rename_i opens
        rw [if_pos opens, ih h]
      · rename_i other
        rw [if_neg other]
        split at h
        · rename_i opens
          rw [if_pos opens, ih h]
        · rename_i other
          rw [if_neg other]
          split at h
          · rename_i closes
            split at h
            · cases h
            · rename_i still
              rw [if_pos closes, if_neg still, ih h]
          · rename_i other
            rw [if_neg other, ih h]

/-- Quoted text holds no parenthesis that counts. -/
lemma closingParenFrom_literal (h : '\'' ∉ u) (pos : Nat) (depth : Int) (b : List Char) :
    closingParenFrom pos depth none ('\'' :: (u ++ '\'' :: b)) =
    closingParenFrom (pos + (u.length + 2)) depth none b := by
  have after : closingAfter? depth none ('\'' :: (u ++ ['\''])) = some (depth, none) := by
    have quoted : closingAfter? depth (some '\'') (u ++ ['\'']) = some (depth, none) := by
      induction u with
      | nil => rfl
      | cons c u ih =>
        obtain ⟨other, h⟩ := List.ne_and_not_mem_of_not_mem_cons h
        rw [List.cons_append, closingAfter?, if_neg other.symm, ih h]
    exact quoted
  have whole : '\'' :: (u ++ '\'' :: b) = '\'' :: (u ++ ['\'']) ++ b := by simp
  rw [whole, closingParenFrom_append after]
  simp

/-- A parenthesis that is open before a literal is closed behind it, if at all. -/
lemma closingParen?_withLiteral {depth : Int}
    (opened : closingAfter? 0 none ('(' :: a) = some (depth, none)) (b : List Char) (n : Nat) :
    (∀ u, u.length = n → '\'' ∉ u → closingParen? ('(' :: withLiteral a b u) = none) ∨
      ∃ closing y, ∀ u, u.length = n → '\'' ∉ u →
      closingParen? ('(' :: withLiteral a b u) = some closing ∧
        (withLiteral a b u).take (closing - 1) = withLiteral a y u := by
  have through (u : List Char) (hn : u.length = n) (hu : '\'' ∉ u) :
      closingParen? ('(' :: withLiteral a b u) =
      closingParenFrom (a.length + 1 + (n + 2)) depth none b := by
    rw [closingParen?, withLiteral, ← List.cons_append, closingParenFrom_append opened,
      closingParenFrom_literal hu, List.length_cons, Nat.zero_add, hn]
  cases hc : closingParenFrom (a.length + 1 + (n + 2)) depth none b with
  | none => exact .inl fun u hn hu => (through u hn hu).trans hc
  | some closing =>
    obtain ⟨before, after, rfl, rfl⟩ := closingParenFrom_some hc
    refine .inr ⟨_, before, fun u hn hu => ⟨(through u hn hu).trans hc, ?_⟩⟩
    have length : a.length + 1 + (n + 2) + before.length - 1 = (withLiteral a before u).length := by
      rw [length_withLiteral, hn]
      omega
    have whole : withLiteral a (before ++ ')' :: after) u = withLiteral a before u ++
        ')' :: after := by
      simp [withLiteral]
    rw [length, whole, List.take_left]

end Rulebook.Sql
