import Rulebook.Proofs.Text.Pattern

/-!
# Ways to match

What a text must be if a pattern matches at its start, pattern by pattern (`mem_one`, `mem_run`,
`mem_keyword`); and what is found in a text, by the match at its start or else further on
(`values_hit`, `values_miss`), or on either side of a mark that no match goes over
(`isSome_search?_append`).
-/

namespace Rulebook.Text.Pattern

variable {α β : Type} {ok : Char → Bool} {s r : List Char}

/-- What takes nothing matches once. -/
lemma mem_pure {a : α} {m : α × List Char} : m ∈ (pure a : Pattern α) s ↔ m = (a, s) :=
  List.mem_singleton

/-- One character of a kind is matched by the first one of a text. -/
lemma mem_one {m : Char × List Char} : m ∈ one ok s ↔ s = m.1 :: m.2 ∧ ok m.1 = true := by
  obtain ⟨d, t⟩ := m
  cases s with
  | nil => simp [one]
  | cons c s =>
    by_cases hc : ok c = true
    · rw [one, if_pos hc, List.mem_singleton, Prod.mk.injEq, List.cons.injEq]
      constructor
      · rintro ⟨rfl, rfl⟩
        exact ⟨⟨rfl, rfl⟩, hc⟩
      · rintro ⟨⟨rfl, rfl⟩, -⟩
        exact ⟨rfl, rfl⟩
    · rw [one, if_neg hc]
      constructor
      · nofun
      · rintro ⟨h, hd⟩
        cases h
        exact absurd hd hc

/-- A character is matched by itself. -/
lemma mem_char {c : Char} {m : Char × List Char} : m ∈ char c s ↔ m.1 = c ∧ s = c :: m.2 := by
  rw [char, mem_one, beq_iff_eq]
  constructor
  · rintro ⟨h, rfl⟩
    exact ⟨rfl, h⟩
  · rintro ⟨rfl, h⟩
    exact ⟨h, rfl⟩

/-- A character is not matched by another one. -/
lemma char_eq_nil {c x : Char} (h : c ≠ x) (s : List Char) : char x (c :: s) = [] := by
  rw [char, one, if_neg (by simpa using h)]

/-- Where the first part of a sequence matches in one way only, the second part
goes on from there. -/
lemma bind_single {p : Pattern α} {f : α → Pattern β} {a : α} (h : p s = [(a, r)]) :
    (p >>= f) s = f a r := by
  show (p s).flatMap _ = _
  rw [h, List.flatMap_singleton]

/-- A run has one match. -/
lemma mem_run {m : List Char × List Char} : m ∈ run ok s ↔ m = (s.takeWhile ok, s.dropWhile ok) :=
  List.mem_singleton

/-- A run goes on as long as it can. -/
lemma of_mem_run {m : List Char × List Char} (h : m ∈ run ok s) :
    s = m.1 ++ m.2 ∧ (∀ c ∈ m.1, ok c = true) ∧ ∀ c ∈ m.2.head?, ok c = false := by
  cases mem_run.1 h
  refine ⟨List.takeWhile_append_dropWhile.symm, fun c hc =>
    List.all_eq_true.1 List.all_takeWhile c hc, fun c hc => ?_⟩
  have last := List.head?_dropWhile_not ok s
  rwa [Option.mem_def.1 hc] at last

/-- A run of at least one character goes on as long as it can. -/
lemma of_mem_run1 {m : List Char × List Char} (h : m ∈ run1 ok s) :
    s = m.1 ++ m.2 ∧ m.1 ≠ [] ∧ (∀ c ∈ m.1, ok c = true) ∧ ∀ c ∈ m.2.head?, ok c = false := by
  obtain ⟨⟨c, t⟩, hc, h⟩ := mem_bind.1 h
  obtain ⟨⟨cs, u⟩, hcs, h⟩ := mem_bind.1 h
  cases mem_pure.1 h
  obtain ⟨rfl, ok_c⟩ := mem_one.1 hc
  obtain ⟨rfl, ok_cs, stop⟩ := of_mem_run hcs
  exact ⟨rfl, List.cons_ne_nil _ _, List.forall_mem_cons.2 ⟨ok_c, ok_cs⟩, stop⟩

/-- A run is matched up to what ends it. -/
lemma first?_run1 (ne : s ≠ []) (hs : ∀ c ∈ s, ok c = true) (hr : ∀ c ∈ r.head?, ok c = false) :
    first? (run1 ok) (s ++ r) = some (s, r) := by
  obtain ⟨c, s, rfl⟩ := List.exists_cons_of_ne_nil ne
  rw [List.forall_mem_cons] at hs
  exact first?_bind (first?_one hs.1) (first?_bind (first?_run hs.2 hr) rfl)

/-- A text ends at its end, or before a last line feed. -/
lemma of_mem_atEnd {m : Unit × List Char} (h : m ∈ atEnd s) :
    m = ((), s) ∧ (s = [] ∨ s = ['\n']) := by
  unfold atEnd at h
  split at h
  · rename_i ends
    exact ⟨List.mem_singleton.1 h, by simpa using ends⟩
  · cases h

/-- A repetition takes characters of its kind. -/
lemma of_mem_most {m : List Char × List Char} (h : m ∈ most ok s) :
    s = m.1 ++ m.2 ∧ ∀ c ∈ m.1, ok c = true := by
  induction s generalizing m with
  | nil =>
    cases List.mem_singleton.1 h
    exact ⟨rfl, List.forall_mem_nil _⟩
  | cons c s ih =>
    rw [most] at h
    split at h
    · rename_i hc
      obtain h | h := List.mem_append.1 h
      · obtain ⟨n, hn, rfl⟩ := List.mem_map.1 h
        obtain ⟨rfl, all⟩ := ih hn
        exact ⟨rfl, List.forall_mem_cons.2 ⟨hc, all⟩⟩
      · cases List.mem_singleton.1 h
        exact ⟨rfl, List.forall_mem_nil _⟩
    · cases List.mem_singleton.1 h
      exact ⟨rfl, List.forall_mem_nil _⟩

/-- As many characters of a kind as there are, are taken first. -/
lemma first?_most (hs : ∀ c ∈ s, ok c = true) (hr : ∀ c ∈ r.head?, ok c = false) :
    first? (most ok) (s ++ r) = some (s, r) := by
  induction s with
  | nil =>
    cases r with
    | nil => rfl
    | cons c r => rw [List.nil_append, first?, most, if_neg (by simp [hr c rfl])]; rfl
  | cons c s ih =>
    rw [List.forall_mem_cons] at hs
    rw [List.cons_append, first?, most, if_pos hs.1, List.head?_append, List.head?_map,
      ← first?, ih hs.2]
    rfl

/-- A text is a keyword up to case. -/
def Variant (w t : List Char) : Prop := List.Forall₂ (fun l c => sameLetter l c = true) w t

/-- A keyword is written with case variants of its letters. -/
lemma of_mem_keyword {w : List Char} {m : Unit × List Char} (h : m ∈ keyword w s) :
    ∃ t, s = t ++ m.2 ∧ Variant w t := by
  induction w generalizing s with
  | nil =>
    cases mem_pure.1 h
    exact ⟨[], rfl, .nil⟩
  | cons l w ih =>
    obtain ⟨⟨c, u⟩, hc, further⟩ := mem_bind.1 h
    obtain ⟨rfl, same⟩ := mem_one.1 hc
    obtain ⟨t, rfl, rest⟩ := ih further
    exact ⟨c :: t, rfl, .cons same rest⟩

/-- Case variants of the letters of a keyword are read as the keyword. -/
lemma first?_variant {w t : List Char} (h : Variant w t) :
    first? (keyword w) (t ++ r) = some ((), r) := by
  induction h with
  | nil => rfl
  | cons same _ ih => exact first?_bind (first?_one same) ih

/-- A character that no letter of a keyword stands for is not in the keyword as it is written. -/
lemma Variant.not_mem {w t : List Char} (h : Variant w t) {x : Char}
    (hw : ∀ l ∈ w, sameLetter l x = false) : x ∉ t := by
  induction h with
  | nil => exact List.not_mem_nil
  | @cons l c w t same _ ih =>
    obtain ⟨hl, hw⟩ := List.forall_mem_cons.1 hw
    intro hx
    obtain rfl | hx := List.mem_cons.1 hx
    · rw [hl] at same
      cases same
    · exact ih hw hx

/-- What is taken of a text and what is left of it make up the text. -/
lemma of_mem_taken {p : Pattern α} [Forward p] {m : List Char × List Char} (h : m ∈ taken p s) :
    s = m.1 ++ m.2 ∧ ∃ a, (a, m.2) ∈ p s := by
  obtain ⟨⟨a, r⟩, hn, rfl⟩ := List.mem_map.1 h
  obtain ⟨t, rfl⟩ := Forward.suffix hn
  exact ⟨by simp, a, hn⟩

/-- A match of several patterns is a match of one of them. -/
lemma mem_anyOf {ps : List (Pattern α)} {m : α × List Char} : m ∈ anyOf ps s ↔ ∃ p ∈ ps, m ∈ p s :=
  List.mem_flatMap

/-- A pattern that may be missing matches as it does, or takes nothing. -/
lemma mem_optional {p : Pattern α} {m : Option α × List Char} :
    m ∈ optional p s ↔ (∃ n ∈ p s, m = (some n.1, n.2)) ∨ m = (none, s) := by
  show m ∈ (p s).flatMap (fun n => [(some n.1, n.2)]) ++ [(none, s)] ↔ _
  simp

/-- What has no match fails. -/
lemma eq_nil_of_forall {p : Pattern α} (h : ∀ m ∈ p s, False) : p s = [] :=
  List.eq_nil_iff_forall_not_mem.2 h

/-- What has no first match fails. -/
lemma first?_eq_none {p : Pattern α} : p.first? s = none ↔ p s = [] := List.head?_eq_none_iff

/-- What is optional is left out where nothing follows it. -/
lemma first?_bind_optional {p : Pattern α} {f : Option α → Pattern β} {m : β × List Char}
    (h : ∀ n ∈ p s, f (some n.1) n.2 = []) (hm : (f none).first? s = some m) :
    first? (optional p >>= f) s = some m := by
  have nothing : (p >>= fun a => f (some a)) s = [] := List.flatMap_eq_nil_iff.2 h
  have split : (optional p >>= f) s = (p >>= fun a => f (some a)) s ++ f none s := by
    show ((p s).flatMap (fun n : α × List Char => [((some n.1 : Option α), n.2)]) ++
      [(none, s)]).flatMap _ = _
    rw [List.flatMap_append, List.flatMap_assoc]
    simp only [List.flatMap_cons, List.flatMap_nil, List.append_nil]
    rfl
  rw [first?, split, nothing]
  exact hm

/-- Every match ends with a given character. -/
def EndsIn (c : Char) (p : Pattern α) : Prop := ∀ s, ∀ m ∈ p s, ∃ t, s = t ++ c :: m.2

/-- A pattern ends with a character if its last part does. -/
lemma EndsIn.bind {c : Char} {p : Pattern α} [Forward p] {f : α → Pattern β}
    (h : ∀ a, (f a).EndsIn c) :
    (p >>= f).EndsIn c := by
  intro s m hm
  obtain ⟨n, hn, hm⟩ := mem_bind.1 hm
  obtain ⟨t, ht⟩ := h n.1 n.2 m hm
  obtain ⟨u, hu⟩ := Forward.suffix hn
  exact ⟨u ++ t, by rw [← hu, ht, List.append_assoc]⟩

/-- A character ends with itself. -/
lemma endsIn_char {c : Char} {a : α} : (char c >>= fun _ => pure a : Pattern α).EndsIn c := by
  intro s m hm
  obtain ⟨n, hn, hm⟩ := mem_bind.1 hm
  cases mem_pure.1 hm
  exact ⟨[], (mem_char.1 hn).2⟩

/-! ## Searches -/

/-- A search goes on behind a part of the text in which no match begins. -/
lemma searchFrom_skip {p : Pattern α} {t : List Char}
    (h : ∀ u v, s = u ++ v → v ≠ [] → p (v ++ t) = []) (before after : Option Char) (pos : Nat) :
    searchFrom p .anywhere before pos (s ++ t) =
    searchFrom p .anywhere after (pos + s.length) t := by
  induction s generalizing before pos with
  | nil => exact (searchFrom_anywhere p before pos t).trans (searchFrom_anywhere p after pos t).symm
  | cons c s ih =>
    have miss : p (c :: (s ++ t)) = [] := h [] (c :: s) rfl (List.cons_ne_nil _ _)
    have further := ih (fun u v hs hv => h (c :: u) v (by rw [hs, List.cons_append]) hv)
      (some c) (pos + 1)
    rw [List.cons_append, searchFrom]
    simp only [first?, miss, List.head?_nil, ite_self]
    rw [further, List.length_cons, Nat.add_assoc, Nat.add_comm 1]

/-- Nothing is found before the start. -/
lemma le_start {p : Pattern α} {b : Begin} {before : Option Char} {pos : Nat} {f : Found α}
    (h : searchFrom p b before pos s = some (f, r)) : pos ≤ f.start := by
  fun_induction searchFrom p b before pos s with
  | case1 =>
    cases h
    exact le_rfl
  | case2 => cases h
  | case3 before pos c cs miss ih => exact (Nat.le_succ pos).trans (ih h)

/-- Where no match begins, the leftmost one is further on. -/
lemma start_pos {p : Pattern α} {b : Begin} {before : Option Char} {pos : Nat}
    {c : Char} {f : Found α} (miss : p (c :: s) = [])
    (h : searchFrom p b before pos (c :: s) = some (f, r)) : pos < f.start := by
  rw [searchFrom] at h
  simp only [first?, miss, List.head?_nil, ite_self] at h
  exact le_start h

/-- Whether something is found does not depend on where the text begins. -/
lemma isSome_searchFrom (p : Pattern α) (b : Begin) (before : Option Char)
    (pos : Nat) (s : List Char) :
    (searchFrom p b before pos s).isSome = (searchFrom p b before 0 s).isSome := by
  rw [← Nat.zero_add pos, searchFrom_shift, Option.isSome_map]

/-- Something is found at the start of a text or further on. -/
lemma isSome_searchFrom_cons (p : Pattern α) (b : Begin) (before : Option Char)
    (c : Char) (s : List Char) :
    (searchFrom p b before 0 (c :: s)).isSome =
      (b.allows before && !(p (c :: s)).isEmpty || (searchFrom p b (some c) 0 s).isSome) := by
  have here : (if b.allows before then p.first? (c :: s) else none).isSome =
      (b.allows before && !(p (c :: s)).isEmpty) := by
    split
    · rename_i allowed
      rw [allowed, first?, Bool.true_and]
      cases p (c :: s) <;> rfl
    · rename_i barred
      rw [Bool.eq_false_iff.2 barred]
      rfl
  rw [← here, searchFrom]
  cases (if b.allows before then p.first? (c :: s) else none) with
  | some m => rfl
  | none => rw [Option.isSome_none, Bool.false_or, ← isSome_searchFrom p b (some c) (0 + 1)]

/-- What takes something is not found in an empty text. -/
lemma searchFrom_nil {p : Pattern α} (strict : p.Strict) (b : Begin)
    (before : Option Char) (pos : Nat) :
    searchFrom p b before pos [] = none := by
  have nothing : p.first? [] = none := by
    rw [first?_eq_none]
    exact eq_nil_of_forall fun m hm => absurd (strict [] m hm) (Nat.not_lt_zero _)
  rw [searchFrom]
  simp only [nothing, ite_self]

/-- What stands before matters only for where matches may begin. -/
lemma searchFrom_allows {p : Pattern α} {b : Begin} {before after : Option Char}
    (h : b.allows before = b.allows after) (pos : Nat) (s : List Char) :
    searchFrom p b before pos s = searchFrom p b after pos s := by
  cases s <;> rw [searchFrom, h, searchFrom.eq_def p b after]

/-- Words are found before a mark or after it, where the mark is no character of words and no
pattern looks past it. -/
lemma isSome_search?_append {p : Pattern α} {x : Char} (hp : p.Until x) (strict : p.Strict)
    (hx : isWord x = false) (s t : List Char) : (search? p .wordStart (s ++ x :: t)).isSome =
      ((search? p .wordStart s).isSome || (search? p .wordStart t).isSome) := by
  -- What stands before the text may be any character, as it changes when the search goes on.
  have onward (before : Option Char) : (searchFrom p .wordStart before 0 (s ++ x :: t)).isSome =
      ((searchFrom p .wordStart before 0 s).isSome ||
        (searchFrom p .wordStart none 0 t).isSome) := by
    have same (s : List Char) : (p (s ++ x :: t)).isEmpty = (p s).isEmpty := by
      rw [hp.append_mark, List.isEmpty_map]
    induction s generalizing before with
    | nil =>
      have nothing : p [] = [] := eq_nil_of_forall fun m hm => Nat.not_lt_zero _ (strict [] m hm)
      have allowed : Begin.wordStart.allows (some x) = Begin.wordStart.allows none := by
        simp [Begin.allows, hx]
      rw [List.nil_append, isSome_searchFrom_cons, searchFrom_nil strict, searchFrom_allows allowed,
        ← List.nil_append (x :: t), same, nothing]
      simp
    | cons c s ih => rw [List.cons_append, isSome_searchFrom_cons, ih, ← List.cons_append, same,
        isSome_searchFrom_cons, Bool.or_assoc]
  rw [search?, search?, search?, Option.isSome_map, Option.isSome_map, Option.isSome_map, onward]

/-- What the matches anywhere in a text are, from left to right. -/
def values (p : Pattern α) (s : List Char) : List α := (findAll p .anywhere s).map (·.value)

section Values

variable {p : Pattern α} [Forward p]

/-- A match at the start is followed by those in what it leaves. -/
lemma values_hit (strict : p.Strict) {a : α} (h : p.first? s = some (a, r)) :
    values p s = a :: values p r := by
  have later (pos : Nat) : (matchesFrom p pos r).map (·.value) = values p r := by
    rw [values, matchesFrom, ← Nat.zero_add pos, findAllFrom_shift, List.map_map]
    rfl
  have hit : searchFrom p .anywhere none 0 s = some (⟨a, 0, 0 + (s.length - r.length)⟩, r) :=
    searchFrom_hit (m := (a, r)) h
  rw [values, findAll, ← matchesFrom, matchesFrom_eq strict, hit, Option.map_some, Option.getD_some,
    List.map_cons, later]

/-- Where no match begins, the matches are those further on. -/
lemma values_miss (strict : p.Strict) {c : Char} (h : p (c :: s) = []) :
    values p (c :: s) = values p s := by
  have skipped : searchFrom p .anywhere none 0 (c :: s) =
      searchFrom p .anywhere none (0 + 1) s := by
    refine searchFrom_skip (s := [c]) (fun u v hs hv => ?_) none none 0
    obtain ⟨rfl, rfl⟩ := (List.append_eq_singleton_iff.1 hs.symm).resolve_right fun no => hv no.2
    exact h
  have shifted : matchesFrom p 0 (c :: s) = (matchesFrom p 0 s).map (Found.shift 1) := by
    rw [matchesFrom.eq_def p 0 s, ← findAllFrom_shift, matchesFrom_eq strict, skipped]
    exact (matchesFrom_eq strict (0 + 1) s).symm
  rw [values, findAll, ← matchesFrom, shifted, List.map_map]
  rfl

/-- What takes something has no values in an empty text. -/
lemma values_nil (strict : p.Strict) : values p [] = [] := by
  rw [values, findAll, ← matchesFrom, matchesFrom_eq strict, searchFrom_nil strict]
  rfl

end Values

end Rulebook.Text.Pattern
