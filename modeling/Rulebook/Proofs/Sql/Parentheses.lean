import Rulebook.Proofs.Sql.Depth

/-!
# Where a parenthesis closes

The scan for the parenthesis that closes the first one of a text takes brackets for plain
characters, and the mask takes them for quotes. The scan finds the first closing parenthesis that
the mask shows once blanks stand for the opening brackets, and so the first that it shows of the
text itself if what stands in brackets is balanced (`closingParen?_shown`). That one closes the
first parenthesis (`idxOf?_mask`).
-/

namespace Rulebook.Sql
open Text

variable {s t a : List Char} {c : Char} {depth : ℤ} {quote : Option Char}

/-! ## The first one shown -/

/-- A text without a parenthesis only moves the first one on. -/
lemma idxOf?_append_of_not_mem {x : List Char} (h : ')' ∉ x) (y : List Char) :
    (x ++ y).idxOf? ')' = (y.idxOf? ')').map (· + x.length) := by
  rw [List.idxOf?, List.findIdx?_append, ← List.idxOf?, List.idxOf?_eq_none_iff.2 h, Option.none_or]

/-- A text with a parenthesis has the first one. -/
lemma idxOf?_append_of_mem {x : List Char} (h : ')' ∈ x) (y : List Char) :
    (x ++ y).idxOf? ')' = x.idxOf? ')' := by
  obtain ⟨u, v, rfl, first⟩ := List.eq_append_cons_of_mem h
  rw [List.append_assoc, idxOf?_append_of_not_mem first, idxOf?_append_of_not_mem first]
  simp [List.idxOf?_cons]

/-- While the mask shows no closing parenthesis, the first parenthesis stays open. -/
lemma maskAfter_pos (inside : 0 < depth) (hidden : ')' ∉ maskFrom depth quote s) :
    0 < (maskAfter depth quote s).1 := by
  fun_induction maskFrom depth quote s with
  | case1 => exact inside
  | case2 depth q rest ih =>
    rw [maskAfter, if_pos rfl]
    exact ih inside (List.not_mem_of_not_mem_cons hidden)
  | case3 depth q c rest other ih =>
    rw [maskAfter, if_neg other]
    exact ih inside (List.not_mem_of_not_mem_cons hidden)
  | case4 depth c rest q opens ih =>
    rw [maskAfter_opening opens]
    exact ih inside (List.not_mem_of_not_mem_cons hidden)
  | case5 depth rest _ ih =>
    rw [maskAfter_openParen]
    exact ih (by omega) (List.not_mem_of_not_mem_cons hidden)
  | case6 depth rest _ _ ih =>
    have deep : 0 < depth - 1 := by
      by_contra top
      exact hidden (by rw [shownAt, if_neg top]; exact List.mem_cons_self ..)
    rw [maskAfter_closeParen]
    exact ih deep (List.not_mem_of_not_mem_cons hidden)
  | case7 depth c rest quote opens closes ih =>
    rw [maskAfter_plain ⟨quote, opens, closes⟩]
    exact ih inside (List.not_mem_of_not_mem_cons hidden)

/-- One parenthesis more is open all along. -/
lemma maskAfter_succ (depth : ℤ) (quote : Option Char) (s : List Char) :
    maskAfter (depth + 1) quote s =
    ((maskAfter depth quote s).1 + 1, (maskAfter depth quote s).2) := by
  fun_induction maskAfter depth quote s with
  | case1 => rfl
  | case2 depth q c rest ih => rw [maskAfter, ih]
  | case3 depth c rest q opens ih => rw [maskAfter_opening opens, ih]
  | case4 depth c rest quote ih =>
    have next (depth : ℤ) : maskAfter depth none (c :: rest) =
        maskAfter (if c = '(' then depth + 1 else if c = ')' then depth - 1
          else depth) none rest := by
      simp only [maskAfter, quote]
    rw [next, ← ih]
    congr 1
    split_ifs <;> omega

/-- A text is balanced if it leaves the parenthesis before it open and the mask shows no
other closing one. -/
lemma balanced_of_hidden (hidden : ')' ∉ maskFrom 1 none s)
    (state : maskAfter 1 none s = (1, none)) : Balanced s := by
  have above (p : List Char) :
      maskAfter 1 none p = ((maskAfter 0 none p).1 + 1, (maskAfter 0 none p).2) :=
    maskAfter_succ 0 none p
  refine balanced_iff.2 ⟨fun p hp => ?_, ?_⟩
  · obtain ⟨r, rfl⟩ := hp
    rw [maskFrom_append] at hidden
    have nested := maskAfter_pos Int.zero_lt_one fun closes =>
      hidden (List.mem_append_left _ closes)
    rw [above] at nested
    omega
  · rw [above, Prod.mk.injEq] at state
    exact Prod.ext (by omega) state.2

/-- Where a mask parts, the text that it shows does. -/
lemma maskFrom_eq_append {x y : List Char} (h : maskFrom depth quote s = x ++ y) :
    ∃ a b, s = a ++ b ∧ maskFrom depth quote a = x ∧
      maskFrom (maskAfter depth quote a).1 (maskAfter depth quote a).2 b = y := by
  have within : x.length ≤ s.length := by
    rw [← length_maskFrom depth quote s, h, List.length_append]
    exact Nat.le_add_right ..
  have whole := List.take_append_drop x.length s
  rw [← whole, maskFrom_append] at h
  obtain ⟨hx, hy⟩ := List.append_inj h (by rw [length_maskFrom, List.length_take_of_le within])
  exact ⟨_, _, whole.symm, hx, hy⟩

/-- The first closing parenthesis that the mask shows closes the first parenthesis: the text
between them is balanced. -/
lemma idxOf?_mask {k : ℕ} :
    (mask ('(' :: s)).idxOf? ')' = some k ↔
      ∃ body after, s = body ++ ')' :: after ∧ k = body.length + 1 ∧ Balanced body := by
  constructor
  · intro first
    have later : (mask ('(' :: s)).idxOf? ')' = ((maskFrom 1 none s).idxOf? ')').map (· + 1) :=
      List.idxOf?_cons
    rw [later, Option.map_eq_some_iff] at first
    obtain ⟨n, first, rfl⟩ := first
    have known : ')' ∈ maskFrom 1 none s := by
      by_contra never
      rw [List.idxOf?_eq_none_iff.2 never] at first
      cases first
    obtain ⟨x, y, masked, hidden⟩ := List.eq_append_cons_of_mem known
    rw [masked, idxOf?_append_of_not_mem hidden, List.idxOf?_cons] at first
    obtain rfl : x.length = n := by simpa using first
    obtain ⟨body, rest, rfl, rfl, shown⟩ := maskFrom_eq_append masked
    cases rest with
    | nil => cases shown
    | cons c after =>
      have nested := maskAfter_pos Int.zero_lt_one hidden
      obtain ⟨rfl, ⟨top, -⟩ | ⟨depth, quote, -⟩⟩ :=
        shown_inv (congrArg List.head? shown) (by decide)
      · omega
      · exact ⟨body, after, rfl, by rw [length_maskFrom],
          balanced_of_hidden hidden (Prod.ext depth quote)⟩
  · rintro ⟨body, after, rfl, rfl, balanced⟩
    have hidden : ')' ∉ '(' :: List.replicate body.length ' ' := by simp [List.mem_replicate]
    rw [balanced.mask_parens, ← List.cons_append, idxOf?_append_of_not_mem hidden, List.idxOf?_cons]
    simp

/-! ## Blanks for brackets -/

/-- A blank for an opening bracket, and the same for all else. -/
def unbracket (c : Char) : Char := if c = '[' then ' ' else c

/-- What is no bracket stays. -/
lemma unbracket_of_ne (h : c ≠ '[') : unbracket c = c := if_neg h

/-- All characters but brackets and blanks stand where they stood. -/
lemma unbracket_eq_iff {x : Char} (bracket : x ≠ '[') (blank : x ≠ ' ') :
    unbracket c = x ↔ c = x := by
  unfold unbracket
  split
  · rename_i eq
    exact ⟨fun h => absurd h.symm blank, fun h => absurd (h.symm.trans eq) bracket⟩
  · exact Iff.rfl

/-- What opens quoted text, once brackets are blanks. -/
lemma closingQuote?_unbracket (c : Char) :
    closingQuote? (unbracket c) = if isQuote c then some c else none := by
  by_cases bracket : c = '['
  · subst bracket
    rfl
  · rw [unbracket_of_ne bracket, closingQuote?, if_neg bracket]

/-- The scan finds what the mask shows once brackets are blanks. -/
lemma closingParenFrom_eq (inside : 0 < depth) (visible : ∀ q ∈ quote, isQuote q = true)
    (pos : ℕ) (s : List Char) :
    closingParenFrom pos depth quote s =
    ((maskFrom depth quote (s.map unbracket)).idxOf? ')').map (· + pos) := by
  -- What is not shown leaves a blank.
  have hidden {t : List Char} {pos : ℕ} :
      ((' ' :: t).idxOf? ')').map (· + pos) = (t.idxOf? ')').map (· + (pos + 1)) := by
    have blank : ¬ (' ' == ')') = true := by decide
    rw [List.idxOf?_cons, if_neg blank, Option.map_map]
    congr 1
    funext k
    exact Nat.add_right_comm k 1 pos
  have unquoted : ∀ q ∈ (none : Option Char), isQuote q = true := by simp
  fun_induction closingParenFrom pos depth quote s with
  | case1 => rfl
  | case2 pos depth c rest q ih =>
    have same : unbracket c = q ↔ c = q := by
      refine unbracket_eq_iff ?_ ?_ <;>
      · rintro rfl
        exact absurd (visible _ rfl) (by decide)
    rw [List.map_cons, maskFrom]
    by_cases closes : c = q
    · rw [if_pos closes] at ih
      rw [if_pos closes, if_pos (same.2 closes), shownAt_nested inside, hidden, ih inside unquoted]
    · rw [if_neg closes] at ih
      rw [if_neg closes, if_neg (mt same.1 closes), hidden, ih inside visible]
  | case3 pos depth c rest opens ih =>
    have quote : closingQuote? (unbracket c) = some c := by
      rw [closingQuote?_unbracket, if_pos opens]
    rw [List.map_cons, maskFrom_opening quote, shownAt_nested inside, hidden,
      ih inside (by simpa using opens)]
  | case4 pos depth rest _ ih =>
    rw [List.map_cons, unbracket_of_ne (by decide), maskFrom_openParen, shownAt_nested inside,
      hidden, ih (by omega) unquoted]
  | case5 pos depth rest last =>
    obtain rfl : depth = 0 + 1 := by omega
    rw [List.map_cons, unbracket_of_ne (by decide), maskFrom_closeParen,
      shownAt_zero, List.idxOf?_cons]
    simp
  | case6 pos depth rest deep _ _ ih =>
    obtain ⟨d, rfl⟩ : ∃ d, depth = d + 1 := ⟨depth - 1, by omega⟩
    rw [Int.add_sub_cancel] at deep ih ⊢
    rw [List.map_cons, unbracket_of_ne (by decide), maskFrom_closeParen,
      shownAt_nested (by omega), hidden, ih (by omega) unquoted]
  | case7 pos depth c rest quote opens closes ih =>
    have plain : IsPlain (unbracket c) := by
      refine ⟨by rw [closingQuote?_unbracket, if_neg quote], mt (unbracket_eq_iff ?_ ?_).1 opens,
        mt (unbracket_eq_iff ?_ ?_).1 closes⟩ <;> decide
    rw [List.map_cons, maskFrom_plain plain, shownAt_nested inside, hidden, ih inside unquoted]

/-! ## Balanced brackets -/

/-- What stands in the brackets of a text, up to the first closing parenthesis that its mask shows,
is balanced but for brackets. -/
def BracketsBalanced (s : List Char) : Prop :=
  ∀ i < s.length, s[i]? = some '[' → (maskAfter 0 none (s.take i)).2 = none →
  ')' ∉ mask (s.take i) →
    Balanced (((s.drop (i + 1)).takeWhile (· ≠ ']')).map unbracket)

instance : Decidable (BracketsBalanced s) :=
  inferInstanceAs (Decidable (∀ i < s.length, _ → _ → _ → _))

/-- What stands in a bracket that the mask shows is balanced but for brackets. -/
lemma BracketsBalanced.name (hs : BracketsBalanced (a ++ '[' :: t))
    (unquoted : (maskAfter 0 none a).2 = none) (hidden : ')' ∉ mask a) :
    Balanced ((t.takeWhile (· ≠ ']')).map unbracket) := by
  have name := hs a.length (by simp) (by simp)
  rw [List.take_left, List.drop_append, List.drop_of_length_le (Nat.le_succ _)] at name
  simpa using name unquoted hidden

/-- A quote that is not closed hides the rest. -/
lemma maskFrom_openQuote {q : Char} (h : q ∉ s) :
    maskFrom depth (some q) s = List.replicate s.length ' ' := by
  induction s with
  | nil => rfl
  | cons c s ih =>
    obtain ⟨other, h⟩ := List.ne_and_not_mem_of_not_mem_cons h
    rw [maskFrom, if_neg other.symm, ih h, List.length_cons, List.replicate_succ]

/-- But for a bracket that opens quoted text, the mask takes a character and what
stands for it alike. -/
lemma maskFrom_unbracket (depth : ℤ) (visible : ∀ q ∈ quote, isQuote q = true)
    (h : ¬ (c = '[' ∧ quote = none)) :
    maskFrom depth quote [unbracket c] = maskFrom depth quote [c] ∧
      maskAfter depth quote [unbracket c] = maskAfter depth quote [c] ∧
      ∀ q ∈ (maskAfter depth quote [c]).2, isQuote q = true := by
  by_cases bracket : c = '['
  · obtain ⟨q, rfl⟩ := Option.ne_none_iff_exists'.1 fun none => h ⟨bracket, none⟩
    have quotes := visible q rfl
    have other {x : Char} (hx : isQuote x = false) : x ≠ q := by
      rintro rfl
      rw [quotes] at hx
      cases hx
    have blank := other (x := ' ') rfl
    have opening := other (x := '[') rfl
    subst bracket
    simp only [unbracket, maskFrom, maskAfter, if_true, if_neg blank, if_neg opening]
    exact ⟨trivial, trivial, visible⟩
  · rw [unbracket_of_ne bracket]
    refine ⟨rfl, rfl, ?_⟩
    cases quote with
    | some q =>
      rw [maskAfter, maskAfter]
      split
      · simp
      · exact visible
    | none =>
      cases opens : closingQuote? c with
      | none =>
        simp [maskAfter, opens]
      | some q =>
        rw [maskAfter_opening opens, maskAfter]
        rw [closingQuote?, if_neg bracket] at opens
        split at opens
        · rename_i quotes
          exact fun q' hq => Option.mem_some_iff.1 hq ▸ Option.some.inj opens ▸ quotes
        · cases opens

/-- Balanced text in brackets is masked alike with blanks for these. -/
lemma maskFrom_bracketed {body : List Char} (first : ']' ∉ body)
    (name : Balanced (body.map unbracket)) (inside : 0 < depth) :
    maskFrom depth none (('[' :: (body ++ [']'])).map unbracket) =
    maskFrom depth none ('[' :: (body ++ [']'])) ∧
      maskAfter depth none (('[' :: (body ++ [']'])).map unbracket) = (depth, none) ∧
      maskAfter depth none ('[' :: (body ++ [']'])) = (depth, none) := by
  have bracketed : Balanced ('[' :: (body ++ [']'])) := .quoted rfl first .nil
  have plain : Balanced (('[' :: (body ++ [']'])).map unbracket) := by
    rw [List.map_cons, List.map_append]
    exact .plain (by decide) (name.append (.plain (by decide) .nil))
  refine ⟨?_, plain.maskAfter_eq depth, bracketed.maskAfter_eq depth⟩
  rw [plain.maskFrom_nested inside, bracketed.maskFrom_nested inside, List.length_map]

/-- So is balanced text behind a bracket that is not closed. -/
lemma maskFrom_openBracket (never : ']' ∉ t) (name : Balanced (t.map unbracket))
    (inside : 0 < depth) :
    maskFrom depth none (('[' :: t).map unbracket) = maskFrom depth none ('[' :: t) := by
  have opens : closingQuote? '[' = some ']' := rfl
  have plain : Balanced (('[' :: t).map unbracket) := .plain (by decide) name
  rw [plain.maskFrom_nested inside, maskFrom_opening opens, shownAt_nested inside,
    maskFrom_openQuote never, List.length_map, List.length_cons, List.replicate_succ]

/-- With blanks for brackets, the mask shows the first closing parenthesis in the same place. -/
lemma idxOf?_unbracketed (hs : BracketsBalanced (a ++ t))
    (state : maskAfter 0 none a = (depth, quote)) (hidden : ')' ∉ mask a) (inside : 0 < depth)
    (visible : ∀ q ∈ quote, isQuote q = true) :
    (maskFrom depth quote (t.map unbracket)).idxOf? ')' = (maskFrom depth quote t).idxOf? ')' := by
  induction hn : t.length using Nat.strong_induction_on generalizing a t depth quote with
  | _ n ih =>
    subst hn
    -- A part that is masked alike with blanks for its brackets is taken off, unless the parenthesis
    -- is shown in it.
    have rest {v u : List Char} (ht : t = v ++ u) (ne : v ≠ [])
        (same : maskFrom depth quote (v.map unbracket) = maskFrom depth quote v)
        (after : maskAfter depth quote (v.map unbracket) = maskAfter depth quote v)
        (visible : ∀ q ∈ (maskAfter depth quote v).2, isQuote q = true) :
        (maskFrom depth quote (t.map unbracket)).idxOf? ')' =
        (maskFrom depth quote t).idxOf? ')' := by
      subst ht
      rw [List.map_append, maskFrom_append, maskFrom_append, same, after]
      by_cases shown : ')' ∈ maskFrom depth quote v
      · rw [idxOf?_append_of_mem shown, idxOf?_append_of_mem shown]
      · have shorter : u.length < (v ++ u).length := by
          rw [List.length_append]
          have := List.length_pos_of_ne_nil ne
          omega
        have nested := maskAfter_pos inside shown
        rw [idxOf?_append_of_not_mem shown, idxOf?_append_of_not_mem shown]
        congr 1
        refine ih u.length shorter (a := a ++ v) (by rwa [List.append_assoc]) ?_ ?_
          nested visible rfl
        · rw [maskAfter_append, state]
        · rw [mask, maskFrom_append, state, List.mem_append, not_or]
          exact ⟨hidden, shown⟩
    cases t with
    | nil => rfl
    | cons c t =>
      by_cases bracket : c = '[' ∧ quote = none
      · obtain ⟨rfl, rfl⟩ := bracket
        have name := hs.name (congrArg Prod.snd state) hidden
        have other {l : List Char} (h : ']' ∉ l) : ∀ c ∈ l, c ≠ ']' := fun c hc eq => h (eq ▸ hc)
        by_cases closed : ']' ∈ t
        · obtain ⟨body, t, rfl, first⟩ := List.eq_append_cons_of_mem closed
          have upTo : (body ++ ']' :: t).takeWhile (· ≠ ']') = body := by
            rw [List.takeWhile_append_of_pos (by simpa using other first),
              List.takeWhile_cons_of_neg (by simp), List.append_nil]
          rw [upTo] at name
          obtain ⟨same, after, after'⟩ := maskFrom_bracketed first name inside
          exact rest (v := '[' :: (body ++ [']'])) (u := t) (by simp) (by simp) same
            (after.trans after'.symm) (by simp [after'])
        · have upTo : t.takeWhile (· ≠ ']') = t := by
            rw [← List.append_nil t, List.takeWhile_append_of_pos (by simpa using other closed),
              List.takeWhile_nil]
          rw [upTo] at name
          rw [maskFrom_openBracket closed name inside]
      · obtain ⟨same, after, visible⟩ := maskFrom_unbracket depth visible bracket
        exact rest (v := [c]) rfl (by simp) same after visible

/-- The scan finds the first closing parenthesis that the mask shows of the text with blanks for
its opening brackets, and that it shows of the text itself if what stands in brackets is
balanced; if none is shown, none is found. The first that the mask shows is the one up to which
the text is balanced. -/
theorem closingParen?_shown (s : List Char) :
    closingParen? ('(' :: s) = (mask (('(' :: s).map unbracket)).idxOf? ')' ∧
    (BracketsBalanced ('(' :: s) → closingParen? ('(' :: s) = (mask ('(' :: s)).idxOf? ')') ∧
    ∀ k, (mask ('(' :: s)).idxOf? ')' = some k ↔
      ∃ body after, s = body ++ ')' :: after ∧ k = body.length + 1 ∧ Balanced body := by
  have unquoted : ∀ q ∈ (none : Option Char), isQuote q = true := by simp
  have opened (t : List Char) :
      (mask ('(' :: t)).idxOf? ')' = ((maskFrom 1 none t).idxOf? ')').map (· + 1) :=
    List.idxOf?_cons
  have found : closingParen? ('(' :: s) = (mask (('(' :: s).map unbracket)).idxOf? ')' := by
    rw [List.map_cons, unbracket_of_ne (by decide), opened]
    exact closingParenFrom_eq Int.zero_lt_one unquoted 1 s
  refine ⟨found, fun balanced => ?_, fun k => idxOf?_mask⟩
  rw [found, List.map_cons, unbracket_of_ne (by decide), opened, opened]
  exact congrArg _ (idxOf?_unbracketed (a := ['(']) balanced rfl (by decide)
    Int.zero_lt_one unquoted)

/-- The body of a table with a currency in a name. -/
def netColumn : List Char := "([net (EUR)] INT);".toList

/-- The name in brackets closes the parenthesis that it opens, so that the scan and the mask close
the body at one place. -/
theorem netColumn_closed :
    BracketsBalanced netColumn ∧ closingParen? netColumn = (mask netColumn).idxOf? ')' := by
  have balanced : BracketsBalanced netColumn := by decide +kernel
  exact ⟨balanced, (closingParen?_shown _).2.1 balanced⟩

/-- The body of a table whose one column has a closing parenthesis in its name ends in that name for
the scan, and behind the type for the mask. -/
theorem bracketed_closed_early :
    closingParen? "([a)] INT);".toList = some 3 ∧
    (mask "([a)] INT);".toList).idxOf? ')' = some 9 := by
  decide +kernel

end Rulebook.Sql
