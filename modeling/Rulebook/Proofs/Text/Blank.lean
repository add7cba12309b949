import Mathlib.Data.List.Infix
import Rulebook.Text.Blank

/-!
# Taking joined texts apart

Trimming changes nothing where no blank stands at either end (`trim_eq_self_iff`). Lines, words and
pieces that were put together with their separators come apart again: `lines_unlines`,
`words_joinWith` and `splitOn_append`. Where a text is parted within a piece or a word, that goes on
in the second part (`splitOn_glue`, `exists_words`).
-/

namespace Rulebook.Text

/-! ## Trimming -/

/-- Trimming the start makes no text longer. -/
lemma length_trimStart_le (s : List Char) : (trimStart s).length ≤ s.length :=
  (List.dropWhile_suffix isBlank).length_le

/-- Trimming the end makes no text longer. -/
lemma length_trimEnd_le (s : List Char) : (trimEnd s).length ≤ s.length := by
  rw [trimEnd, List.length_reverse]
  have shorter := (List.dropWhile_suffix isBlank (l := s.reverse)).length_le
  rwa [List.length_reverse] at shorter

/-- What trimming drops at the start and what it leaves fit into the text. -/
lemma length_trim (s : List Char) :
    s.length - (trimStart s).length + (trim s).length ≤ s.length := by
  have start := length_trimStart_le s
  have stop : (trim s).length ≤ (trimStart s).length := length_trimEnd_le (trimStart s)
  omega

/-- Nothing is trimmed from the end of a text that does not end in a blank. -/
lemma trimEnd_eq_self_iff {s : List Char} :
    trimEnd s = s ↔ ∀ c ∈ s.getLast?, isBlank c = false := by
  rw [trimEnd, List.reverse_eq_iff, List.getLast?_eq_head?_reverse]
  cases s.reverse with
  | nil => simp
  | cons c cs =>
    cases hc : isBlank c with
    | false => simp [hc]
    | true =>
      have shorter : cs.dropWhile isBlank ≠ c :: cs := by
        intro h
        have := (List.dropWhile_suffix isBlank (l := cs)).length_le
        rw [h, List.length_cons] at this
        omega
      simp [hc, shorter]

/-- Nothing is trimmed from the start of a text that does not begin with a blank. -/
lemma trimStart_eq_self_iff {s : List Char} :
    trimStart s = s ↔ ∀ c ∈ s.head?, isBlank c = false := by
  have h := trimEnd_eq_self_iff (s := s.reverse)
  rwa [trimEnd, List.reverse_reverse, List.reverse_inj, List.getLast?_reverse] at h

/-- A text is trimmed when it neither begins nor ends with a blank. -/
lemma trim_eq_self_iff {s : List Char} :
    trim s = s ↔ (∀ c ∈ s.head?, isBlank c = false) ∧ ∀ c ∈ s.getLast?, isBlank c = false := by
  rw [← trimStart_eq_self_iff, ← trimEnd_eq_self_iff]
  constructor
  · intro h
    have start : trimStart s = s := by
      refine (List.dropWhile_suffix isBlank).eq_of_length_le ?_
      have stop := length_trimEnd_le (trimStart s)
      rwa [← trim, h] at stop
    refine ⟨start, ?_⟩
    rwa [trim, start] at h
  · rintro ⟨start, stop⟩
    rw [trim, start, stop]

/-- A text without blanks is trimmed already. -/
lemma trim_of_not_isBlank {s : List Char} (h : ∀ c ∈ s, isBlank c = false) : trim s = s :=
  trim_eq_self_iff.2 ⟨fun c hc => h c (List.mem_of_mem_head? hc), fun c hc =>
    h c (List.mem_of_getLast? hc)⟩

/-- A blank in front is trimmed. -/
lemma trim_cons {c : Char} (h : isBlank c = true) (s : List Char) : trim (c :: s) = trim s := by
  rw [trim, trimStart, List.dropWhile_cons_of_pos h, trim, trimStart]

/-- A blank at the end is trimmed. -/
lemma trim_concat {c : Char} (h : isBlank c = true) (s : List Char) : trim (s ++ [c]) = trim s := by
  induction s with
  | nil => exact trim_cons h []
  | cons d s ih =>
    by_cases hd : isBlank d = true
    · rw [List.cons_append, trim_cons hd, trim_cons hd, ih]
    · have keep (t : List Char) : trimStart (d :: t) = d :: t := List.dropWhile_cons_of_neg hd
      rw [List.cons_append, trim, keep, trim, keep, trimEnd, trimEnd, ← List.cons_append,
        List.reverse_append, List.reverse_singleton, List.singleton_append,
        List.dropWhile_cons_of_pos h]

/-- What is left of a text was in it. -/
lemma mem_of_mem_trim {c : Char} {s : List Char} (h : c ∈ trim s) : c ∈ s := by
  have start : c ∈ trimStart s :=
    List.mem_reverse.1 ((List.dropWhile_sublist _).subset (List.mem_reverse.1 h))
  exact (List.dropWhile_sublist _).subset start

/-- Blanks around a trimmed text are trimmed off. -/
lemma trim_between {a s b : List Char} (ha : ∀ c ∈ a, isBlank c = true)
    (hb : ∀ c ∈ b, isBlank c = true) (hs : trim s = s) : trim (a ++ (s ++ b)) = s := by
  induction a with
  | nil =>
    induction b using List.reverseRecOn with
    | nil => rwa [List.append_nil]
    | append_singleton b c ih =>
      rw [List.forall_mem_append, List.forall_mem_singleton] at hb
      rw [List.nil_append, ← List.append_assoc, trim_concat hb.2]
      exact ih hb.1
  | cons c a ih =>
    rw [List.forall_mem_cons] at ha
    rw [List.cons_append, trim_cons ha.1]
    exact ih ha.2

/-- Texts without blanks at their ends have none when something stands between them. -/
lemma trim_joined {a b : List Char} (ha : trim a = a) (hb : trim b = b) (na : a ≠ [])
    (nb : b ≠ []) (x : Char) :
    trim (a ++ x :: b) = a ++ x :: b := by
  obtain ⟨c, a, rfl⟩ := List.exists_cons_of_ne_nil na
  have last : (c :: a ++ x :: b).getLast? = b.getLast? := by
    rw [List.getLast?_append_cons, List.getLast?_cons_of_ne_nil nb]
  rw [trim_eq_self_iff, last]
  exact ⟨(trim_eq_self_iff.1 ha).1, (trim_eq_self_iff.1 hb).2⟩

/-- A text is what is left of it and the blanks at its end. -/
lemma trimEnd_append (s : List Char) : trimEnd s ++ (s.reverse.takeWhile isBlank).reverse = s := by
  rw [trimEnd, ← List.reverse_append, List.takeWhile_append_dropWhile, List.reverse_reverse]

/-- A text is blanks, what trimming leaves of it, and blanks. -/
lemma exists_trim (s : List Char) : ∃ before after, s = before ++ (trim s ++ after) ∧
    before.length = s.length - (trimStart s).length ∧ (∀ c ∈ before, isBlank c = true) ∧
    ∀ c ∈ after, isBlank c = true := by
  have whole : s.takeWhile isBlank ++ trimStart s = s := List.takeWhile_append_dropWhile
  refine ⟨s.takeWhile isBlank, ((trimStart s).reverse.takeWhile isBlank).reverse, ?_, ?_, ?_, ?_⟩
  · rw [trim, trimEnd_append, whole]
  · have length := congrArg List.length whole
    rw [List.length_append] at length
    omega
  · exact fun c hc => List.all_eq_true.1 List.all_takeWhile c hc
  · exact fun c hc => List.all_eq_true.1 List.all_takeWhile c (List.mem_reverse.1 hc)

/-- A trimmed text neither begins nor ends with a blank. -/
lemma trim_ends (s : List Char) :
    (∀ c ∈ (trim s).head?, isBlank c = false) ∧ ∀ c ∈ (trim s).getLast?, isBlank c = false := by
  have stops (t : List Char) : ∀ c ∈ (t.dropWhile isBlank).head?, isBlank c = false := by
    intro c hc
    have stop := List.head?_dropWhile_not isBlank t
    rwa [Option.mem_def.1 hc] at stop
  constructor
  · intro c hc
    refine stops s c ?_
    rw [← trimEnd_append (s.dropWhile isBlank), List.head?_append, ← trimStart, ← trim,
      Option.mem_def.1 hc]
    rfl
  · intro c hc
    rw [trim, trimEnd, List.getLast?_reverse] at hc
    exact stops _ c hc

/-- What begins with no blank is trimmed only at its end. -/
lemma trim_isPrefix {c : Char} (h : isBlank c = false) (s : List Char) :
    trim (c :: s) <+: c :: s ∧ (trim (c :: s)).head? = some c := by
  have start : trimStart (c :: s) = c :: s := trimStart_eq_self_iff.2 (by rintro _ ⟨⟩; exact h)
  have ends := trimEnd_append (c :: s)
  rw [trim, start]
  refine ⟨⟨_, ends⟩, ?_⟩
  cases htrim : trimEnd (c :: s) with
  | nil =>
    rw [htrim, List.nil_append] at ends
    have blank : c ∈ (c :: s).reverse.takeWhile isBlank := by
      rw [← List.mem_reverse, ends]
      exact List.mem_cons_self
    exact absurd (List.all_eq_true.1 List.all_takeWhile c blank) (by simp [h])
  | cons d t =>
    rw [htrim, List.cons_append, List.cons.injEq] at ends
    rw [List.head?_cons, ends.1]

/-- What is trimmed is trimmed for good. -/
lemma trim_trim (s : List Char) : trim (trim s) = trim s := trim_eq_self_iff.2 (trim_ends s)

/-! ## Lines -/

/-- A text without an end of a line. -/
def OneLine (s : List Char) : Prop := ∀ c ∈ s, isLineEnd c = false

instance (s : List Char) : Decidable (OneLine s) :=
  List.decidableBAll (fun c => isLineEnd c = false) s

/-- The empty text is one line. -/
@[simp] lemma oneLine_nil : OneLine [] := nofun

/-- A text is one line if its first character does not end a line and the rest is one. -/
@[simp] lemma oneLine_cons {c : Char} {s : List Char} :
    OneLine (c :: s) ↔ isLineEnd c = false ∧ OneLine s :=
  List.forall_mem_cons

/-- Two texts are one line if both of them are. -/
@[simp] lemma oneLine_append {s t : List Char} : OneLine (s ++ t) ↔ OneLine s ∧ OneLine t :=
  List.forall_mem_append

/-- What ends a line is a blank. -/
lemma isBlank_of_isLineEnd {c : Char} (h : isLineEnd c = true) : isBlank c = true := by
  simp only [isLineEnd, isBlank, Bool.or_eq_true, Bool.and_eq_true, decide_eq_true_eq,
    beq_iff_eq] at h ⊢
  omega

/-- A text without blanks is one line. -/
lemma oneLine_of_not_isBlank {s : List Char} (h : ∀ c ∈ s, isBlank c = false) : OneLine s := by
  intro c hc
  by_contra hl
  have blank := isBlank_of_isLineEnd (Bool.not_eq_false _ ▸ hl)
  rw [h c hc] at blank
  cases blank

/-- The first line ends at the first line feed. -/
lemma lines_cons {l : List Char} (hl : OneLine l) (rest : List Char) :
    lines (l ++ '\n' :: rest) = l :: lines rest := by
  induction l with
  | nil => rfl
  | cons c l ih =>
    obtain ⟨hc, hl⟩ := List.forall_mem_cons.1 hl
    have other : c ≠ '\r' := by
      rintro rfl
      cases hc
    rw [List.cons_append, lines]
    · simp [hc, ih hl]
    · exact fun _ h => absurd h other

/-- Lines with their ends. -/
def unlines (ls : List (List Char)) : List Char := ls.flatMap fun l => l ++ ['\n']

/-- Lines are split as they were put together. -/
lemma lines_unlines {ls : List (List Char)} (h : ∀ l ∈ ls, OneLine l) :
    lines (unlines ls) = ls := by
  induction ls with
  | nil => rfl
  | cons l ls ih =>
    obtain ⟨hl, hls⟩ := List.forall_mem_cons.1 h
    rw [unlines, List.flatMap_cons, List.append_assoc, List.singleton_append, lines_cons hl,
      ← unlines, ih hls]

/-! ## Pieces and words -/

/-- Splitting gives at least one piece. -/
lemma splitOn_head (isSep : Char → Bool) (s : List Char) :
    ∃ piece pieces, splitOn isSep s = piece :: pieces := by
  fun_cases splitOn isSep s <;> simp

/-- Where a text is parted within a piece, that piece goes on in the second part. -/
lemma splitOn_glue {isSep : Char → Bool} {s t first last : List Char} {ps more : List (List Char)}
    (hs : splitOn isSep s = ps ++ [last]) (ht : splitOn isSep t = first :: more) :
    splitOn isSep (s ++ t) = ps ++ (last ++ first) :: more := by
  induction s generalizing ps last with
  | nil =>
    cases ps with
    | nil =>
      cases hs
      exact ht
    | cons p ps => exact absurd (List.cons.inj hs).2.symm (by simp)
  | cons c s ih =>
    obtain ⟨piece, pieces, hp⟩ := splitOn_head isSep s
    rw [splitOn, hp] at hs
    rw [List.cons_append, splitOn]
    split at hs
    · rename_i sep
      rw [if_pos sep]
      cases ps with
      | nil => cases hs
      | cons p ps =>
        rw [List.cons_append, List.cons.injEq] at hs
        rw [ih (hp.trans hs.2), ← hs.1, List.cons_append]
    · rename_i plain
      rw [if_neg plain]
      cases ps with
      | nil =>
        cases hs
        rw [ih (show splitOn isSep s = [] ++ [piece] from hp)]
        rfl
      | cons p ps =>
        obtain ⟨rfl, rfl⟩ := List.cons.inj hs
        rw [ih (show splitOn isSep s = piece :: ps ++ [last] from hp)]
        rfl

/-- The first piece ends at the first separator. -/
lemma splitOn_append {isSep : Char → Bool} {x : Char} (hx : isSep x = true) {piece : List Char}
    (hp : ∀ c ∈ piece, isSep c = false) (rest : List Char) :
    splitOn isSep (piece ++ x :: rest) = piece :: splitOn isSep rest := by
  induction piece with
  | nil => simp [splitOn, hx]
  | cons c piece ih =>
    obtain ⟨hc, hp⟩ := List.forall_mem_cons.1 hp
    simp [splitOn, hc, ih hp]

/-- A text without separators is one piece. -/
lemma splitOn_single {isSep : Char → Bool} {piece : List Char} (hp : ∀ c ∈ piece, isSep c = false) :
    splitOn isSep piece = [piece] := by
  induction piece with
  | nil => rfl
  | cons c piece ih =>
    obtain ⟨hc, hp⟩ := List.forall_mem_cons.1 hp
    simp [splitOn, hc, ih hp]

/-- Joined texts are the first one, the joint, and the others joined. -/
lemma joinWith_cons_cons (x : Char) (p q : List Char) (ps : List (List Char)) :
    joinWith [x] (p :: q :: ps) = p ++ x :: joinWith [x] (q :: ps) := by
  simp [joinWith, List.intercalate]

/-- Joined pieces have no characters but their own and the separator. -/
lemma mem_joinWith {x c : Char} {ps : List (List Char)} (h : c ∈ joinWith [x] ps) :
    c = x ∨ ∃ p ∈ ps, c ∈ p := by
  induction ps with
  | nil => cases h
  | cons p ps ih =>
    cases ps with
    | nil =>
      rw [joinWith, List.intercalate_singleton] at h
      exact .inr ⟨p, .head _, h⟩
    | cons q ps =>
      rw [joinWith_cons_cons] at h
      obtain h | h := List.mem_append.1 h
      · exact .inr ⟨p, .head _, h⟩
      · cases h with
        | head => exact .inl rfl
        | tail _ h =>
          obtain rfl | ⟨p, hp, h⟩ := ih h
          · exact .inl rfl
          · exact .inr ⟨p, .tail _ hp, h⟩

/-- Pieces that were joined by separators are found again. -/
lemma splitOn_joinWith {isSep : Char → Bool} {x : Char} (hx : isSep x = true)
    {ps : List (List Char)} (ne : ps ≠ []) (h : ∀ p ∈ ps, ∀ c ∈ p, isSep c = false) :
    splitOn isSep (joinWith [x] ps) = ps := by
  induction ps with
  | nil => exact absurd rfl ne
  | cons p ps ih =>
    obtain ⟨hp, hps⟩ := List.forall_mem_cons.1 h
    cases ps with
    | nil => rw [joinWith, List.intercalate_singleton, splitOn_single hp]
    | cons q ps => rw [joinWith_cons_cons, splitOn_append hx hp, ih (List.cons_ne_nil q ps) hps]

/-- A character at both ends is dropped if the text between begins and ends with others. -/
lemma trimChar_between {x : Char} {s : List Char} (first : ∀ c ∈ s.head?, c ≠ x)
    (last : ∀ c ∈ s.getLast?, c ≠ x) :
    trimChar x (x :: (s ++ [x])) = s := by
  have keep {t : List Char} (h : ∀ c ∈ t.head?, c ≠ x) : t.dropWhile (· == x) = t := by
    cases t with
    | nil => rfl
    | cons c t => rw [List.dropWhile_cons_of_neg (by simpa using h c rfl)]
  cases s with
  | nil => simp [trimChar]
  | cons c s =>
    have start : (x :: (c :: s ++ [x])).dropWhile (· == x) = c :: s ++ [x] := by
      rw [List.dropWhile_cons_of_pos (by simp)]
      exact keep first
    rw [trimChar, start, List.reverse_append, List.reverse_singleton, List.singleton_append,
      List.dropWhile_cons_of_pos (by simp), keep (by rwa [List.head?_reverse]),
      List.reverse_reverse]

/-- A text that is not empty and holds no blank. -/
def Solid (s : List Char) : Prop := s ≠ [] ∧ ∀ c ∈ s, isBlank c = false

instance (s : List Char) : Decidable (Solid s) :=
  have := List.decidableBAll (fun c => isBlank c = false) s
  instDecidableAnd

/-- Joined texts are not empty if none of them is. -/
lemma joinWith_ne_nil {ws : List (List Char)} (ne : ws ≠ []) (h : ∀ w ∈ ws, w ≠ []) (x : Char) :
    joinWith [x] ws ≠ [] := by
  match ws with
  | [] => exact absurd rfl ne
  | [w] => simpa [joinWith] using h
  | w :: v :: ws => simp [joinWith_cons_cons]

/-- Joined solid texts have no blanks around them. -/
lemma trim_joinWith {ws : List (List Char)} (h : ∀ w ∈ ws, Solid w) (x : Char) :
    trim (joinWith [x] ws) = joinWith [x] ws := by
  induction ws with
  | nil => rfl
  | cons w ws ih =>
    obtain ⟨hw, hws⟩ := List.forall_mem_cons.1 h
    cases ws with
    | nil => simpa [joinWith] using trim_of_not_isBlank hw.2
    | cons v ws =>
      rw [joinWith_cons_cons]
      exact trim_joined (trim_of_not_isBlank hw.2) (ih hws) hw.1
        (joinWith_ne_nil (List.cons_ne_nil v ws) (fun w hw => (hws w hw).1) x) x

/-- Joined words are split into the words. -/
lemma words_joinWith {ws : List (List Char)} (h : ∀ w ∈ ws, Solid w) :
    words (joinWith [' '] ws) = ws := by
  cases ws with
  | nil => rfl
  | cons w ws =>
    rw [words, splitRuns, splitOn_joinWith rfl (List.cons_ne_nil w ws) fun v hv => (h v hv).2,
      List.filter_eq_self]
    exact fun v hv => by simpa using (h v hv).1

/-- Before a character that is no blank, all words are known but the last one, which goes on. -/
lemma exists_words {x : Char} (hx : isBlank x = false) (s : List Char) :
    ∃ ws w, words (s ++ [x]) = ws ++ [w ++ [x]] ∧
    ∀ t, ∃ w' more, words (s ++ x :: t) = ws ++ (w ++ x :: w') :: more := by
  obtain ⟨piece, pieces, hp⟩ := splitOn_head isBlank s
  obtain ⟨ps, last, parts⟩ : ∃ ps last, splitOn isBlank s = ps ++ [last] :=
    ⟨_, _, (List.dropLast_append_getLast (hp ▸ List.cons_ne_nil piece pieces)).symm⟩
  have through (t : List Char) : ∃ w' more, splitOn isBlank (x :: t) = (x :: w') :: more ∧
      words (s ++ x :: t) =
        ps.filter (fun piece => !piece.isEmpty) ++
        (last ++ x :: w') :: more.filter (fun piece => !piece.isEmpty) := by
    obtain ⟨w', more, ht⟩ := splitOn_head isBlank t
    have first : splitOn isBlank (x :: t) = (x :: w') :: more := by
      rw [splitOn, if_neg (by simp [hx]), ht]
    refine ⟨w', more, first, ?_⟩
    rw [words, splitRuns, splitOn_glue parts first, List.filter_append,
      List.filter_cons_of_pos (by simp)]
  refine ⟨ps.filter fun piece => !piece.isEmpty, last, ?_, fun t => ?_⟩
  · obtain ⟨w', more, first, whole⟩ := through []
    rw [splitOn, if_neg (by simp [hx])] at first
    cases first
    exact whole
  · obtain ⟨w', more, -, whole⟩ := through t
    exact ⟨w', _, whole⟩

end Rulebook.Text
