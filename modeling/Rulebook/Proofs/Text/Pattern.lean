import Mathlib.Data.List.Infix
import Rulebook.Text.Pattern

/-!
# What patterns leave, and where they match

A pattern goes forward: what a match leaves is an end of the text (`Pattern.Forward`, found by
instances from the parts of the pattern). So all matches lie within the text.

A pattern may not look past a mark, in texts of a kind (`Pattern.Within`) or wherever the mark
stands (`Pattern.Until`). One that stays in its line (`Pattern.InLine`) does not look past the next
line feed: its matches in a text of whole lines are not changed by what follows the text, and what
follows is searched as if it stood alone (`Pattern.findAll_append`).
-/

namespace Rulebook.Text.Pattern

variable {α β : Type}

/-! ## Going forward -/

/-- What a match leaves is an end of the text. -/
class Forward (p : Pattern α) : Prop where
  suffix {s : List Char} {m : α × List Char} : m ∈ p s → m.2 <:+ s

/-- A match of two patterns is one of the first and then one of the second. -/
lemma mem_bind {p : Pattern α} {f : α → Pattern β} {s : List Char} {m : β × List Char} :
    m ∈ (p >>= f) s ↔ ∃ n ∈ p s, m ∈ f n.1 n.2 :=
  List.mem_flatMap

instance (a : α) : Forward (pure a) where
  suffix h := by
    cases List.mem_singleton.1 h
    exact List.suffix_refl _

instance (p : Pattern α) (f : α → Pattern β) [Forward p] [∀ a, Forward (f a)] :
    Forward (p >>= f) where
  suffix h := by
    obtain ⟨n, hn, hm⟩ := mem_bind.1 h
    exact (Forward.suffix hm).trans (Forward.suffix hn)

/-- What comes next mostly does not depend on what was matched; this keeps the search
for instances short. -/
instance (p : Pattern α) (q : Pattern β) [Forward p] [Forward q] : Forward (p >>= fun _ => q) :=
  inferInstance

instance (p : Pattern α) (f : α → β) [Forward p] : Forward (f <$> p) :=
  inferInstanceAs (Forward (p >>= fun a => pure (f a)))

instance (p : Pattern α) (q : Pattern β) [Forward p] [Forward q] : Forward (p <* q) :=
  inferInstanceAs (Forward (p >>= fun a => q >>= fun _ => pure a))

instance (p q : Pattern α) [Forward p] [Forward q] : Forward (either p q) where
  suffix h := (List.mem_append.1 h).elim Forward.suffix Forward.suffix

instance : Forward (anyOf ([] : List (Pattern α))) where
  suffix h := by cases h

instance (p : Pattern α) (ps : List (Pattern α)) [Forward p] [Forward (anyOf ps)] :
    Forward (anyOf (p :: ps)) where
  suffix {s m} h := by
    have h : m ∈ p s ++ anyOf ps s := h
    exact (List.mem_append.1 h).elim Forward.suffix Forward.suffix

instance (p : Pattern α) [Forward p] : Forward (optional p) :=
  inferInstanceAs (Forward (either (some <$> p) (pure none)))

instance (ok : Char → Bool) : Forward (one ok) where
  suffix {s m} h := by
    cases s with
    | nil => cases h
    | cons c rest =>
      rw [one] at h
      split at h
      · cases List.mem_singleton.1 h
        exact List.suffix_cons c rest
      · cases h

instance (ok : Char → Bool) : Forward (most ok) where
  suffix {s m} h := by
    induction s generalizing m with
    | nil =>
      cases List.mem_singleton.1 h
      exact List.suffix_refl _
    | cons c rest ih =>
      rw [most] at h
      split at h
      · obtain h | h := List.mem_append.1 h
        · obtain ⟨n, hn, rfl⟩ := List.mem_map.1 h
          exact (ih hn).trans (List.suffix_cons c rest)
        · cases List.mem_singleton.1 h
          exact List.suffix_refl _
      · cases List.mem_singleton.1 h
        exact List.suffix_refl _

instance (ok : Char → Bool) : Forward (run ok) where
  suffix h := by
    cases List.mem_singleton.1 h
    exact List.dropWhile_suffix ok

instance (ok : Char → Bool) : Forward (run1 ok) :=
  inferInstanceAs (Forward (one ok >>= fun c => run ok >>= fun cs => pure (c :: cs)))

instance (c : Char) : Forward (char c) := inferInstanceAs (Forward (one (· == c)))

/-- What begins with a word is the word and the rest. -/
lemma suffix_of_dropStart? {w s rest : List Char} (h : dropStart? w s = some rest) :
    s = w ++ rest := by
  induction w generalizing s with
  | nil => exact Option.some.inj h
  | cons c w ih =>
    cases s with
    | nil => cases h
    | cons d s =>
      rw [dropStart?] at h
      split at h
      · rename_i hcd
        rw [← hcd, ih h, List.cons_append]
      · cases h

/-- A word is matched by itself. -/
lemma mem_exactly {w s : List Char} {m : Unit × List Char} (h : m ∈ exactly w s) :
    s = w ++ m.2 := by
  unfold exactly at h
  split at h
  · rename_i hd
    cases List.mem_singleton.1 h
    exact suffix_of_dropStart? hd
  · cases h

instance (w : List Char) : Forward (exactly w) where
  suffix h := ⟨w, (mem_exactly h).symm⟩

instance forward_keyword (w : List Char) : Forward (keyword w) := by
  induction w with
  | nil => exact inferInstanceAs (Forward (pure ()))
  | cons l ls ih => exact inferInstanceAs (Forward (one (sameLetter l) >>= fun _ => keyword ls))

instance (w : String) : Forward (kw w) := forward_keyword w.toList

instance : Forward blanks := inferInstanceAs (Forward (run isBlank))

instance : Forward gap := inferInstanceAs (Forward (run1 isBlank))

instance : Forward wordEnd where
  suffix {s m} h := by
    cases s with
    | nil =>
      cases List.mem_singleton.1 h
      exact List.suffix_refl _
    | cons c s =>
      rw [wordEnd] at h
      split at h
      · cases h
      · cases List.mem_singleton.1 h
        exact List.suffix_refl _

/-- A repetition goes on as often as something is taken, and may stop at once. -/
lemma manyUpTo_succ (p : Pattern α) (fuel : Nat) (s : List Char) : manyUpTo p (fuel + 1) s =
    ((p s).flatMap fun m => if m.2.length < s.length then
      (manyUpTo p fuel m.2).map fun n => (m.1 :: n.1, n.2) else []) ++ [([], s)] := rfl

/-- A repetition takes something and goes on in what is left, or it stops. -/
lemma mem_manyUpTo_succ {p : Pattern α} {fuel : Nat} {s : List Char} {m : List α × List Char}
    (h : m ∈ manyUpTo p (fuel + 1) s) :
    (∃ n ∈ p s, n.2.length < s.length ∧ ∃ k ∈ manyUpTo p fuel n.2, m = (n.1 :: k.1, k.2)) ∨
    m = ([], s) := by
  rw [manyUpTo_succ] at h
  obtain h | h := List.mem_append.1 h
  · obtain ⟨n, hn, hm⟩ := List.mem_flatMap.1 h
    split at hm
    · rename_i shorter
      obtain ⟨k, hk, rfl⟩ := List.mem_map.1 hm
      exact .inl ⟨n, hn, shorter, k, hk, rfl⟩
    · cases hm
  · exact .inr (List.mem_singleton.1 h)

instance (p : Pattern α) [Forward p] : Forward (many p) where
  suffix {s m} h := by
    -- Induction on the fuel, not on the text: each repetition goes on in what the one
    -- before has left.
    have upTo : ∀ (fuel : Nat) {s : List Char} {m : List α × List Char}, m ∈ manyUpTo p fuel s →
        m.2 <:+ s := by
      intro fuel
      induction fuel with
      | zero =>
        intro s m h
        cases List.mem_singleton.1 h
        exact List.suffix_refl _
      | succ fuel ih =>
        intro s m h
        obtain ⟨n, hn, -, k, hk, rfl⟩ | rfl := mem_manyUpTo_succ h
        · exact (ih hk).trans (Forward.suffix hn)
        · exact List.suffix_refl _
    exact upTo s.length h

/-- The first match is a match. -/
lemma mem_of_first? {p : Pattern α} {s : List Char} {m : α × List Char} (h : p.first? s = some m) :
    m ∈ p s :=
  List.mem_of_mem_head? h

/-- What the preferred match leaves is no longer than the text. -/
lemma first?_length_le {p : Pattern α} [Forward p] {s : List Char} {m : α × List Char}
    (h : p.first? s = some m) :
    m.2.length ≤ s.length :=
  (Forward.suffix (mem_of_first? h)).length_le

/-- Every match takes at least one character. -/
def Strict (p : Pattern α) : Prop := ∀ s, ∀ m ∈ p s, m.2.length < s.length

/-- A pattern takes something if its first part does. -/
lemma Strict.bind {p : Pattern α} (hp : p.Strict) {f : α → Pattern β} [∀ a, Forward (f a)] :
    (p >>= f).Strict := by
  intro s m h
  obtain ⟨n, hn, hm⟩ := mem_bind.1 h
  exact (Forward.suffix hm).length_le.trans_lt (hp s n hn)

/-- One character is something. -/
lemma strict_one (ok : Char → Bool) : (one ok).Strict := by
  intro s m h
  cases s with
  | nil => cases h
  | cons c rest =>
    rw [one] at h
    split at h
    · cases List.mem_singleton.1 h
      exact Nat.lt_succ_self _
    · cases h

/-- A keyword is something. -/
lemma strict_keyword {l : Char} {ls : List Char} : (keyword (l :: ls)).Strict :=
  (strict_one (sameLetter l)).bind (f := fun _ => keyword ls)

/-- A word is something. -/
lemma strict_exactly {c : Char} {w : List Char} : (exactly (c :: w)).Strict := by
  intro s m h
  rw [mem_exactly h, List.length_append, List.length_cons]
  omega

/-! ## Where matches lie -/

/-- What is hit is a match. -/
lemma mem_of_hit {p : Pattern α} {b : Begin} {before : Option Char} {s : List Char}
    {m : α × List Char} (h : (if _ : b.allows before = true then p.first? s else none) = some m) :
    m ∈ p s := by
  rw [dite_eq_ite, Option.ite_none_right_eq_some] at h
  exact mem_of_first? h.2

/-- What a search finds lies in the text, and after it comes what is left. -/
lemma searchFrom_some {p : Pattern α} [Forward p] {b : Begin} {before : Option Char}
    {pos : Nat} {s : List Char} {f : Found α} {rest : List Char}
    (h : searchFrom p b before pos s = some (f, rest)) :
    rest <:+ s ∧ pos ≤ f.start ∧ f.start ≤ f.stop ∧ f.stop + rest.length = pos + s.length := by
  fun_induction searchFrom p b before pos s with
  | case1 before pos s a r hit =>
    cases h
    have suffix : rest <:+ s := Forward.suffix (mem_of_hit hit)
    have length := suffix.length_le
    exact ⟨suffix, le_rfl, Nat.le_add_right _ _, by dsimp only; omega⟩
  | case2 before pos miss => cases h
  | case3 before pos c cs miss ih =>
    obtain ⟨suffix, h₁, h₂, h₃⟩ := ih h
    refine ⟨suffix.trans (List.suffix_cons c cs), by omega, h₂, ?_⟩
    rw [h₃, List.length_cons]
    omega

/-- All that is found stands within the text. -/
lemma findAllFrom_le {p : Pattern α} [Forward p] {b : Begin} {fuel : Nat}
    {before : Option Char} {pos : Nat} {s : List Char} : ∀ f ∈ findAllFrom p b fuel before pos s,
    f.start ≤ pos + s.length ∧ f.stop ≤ pos + s.length := by
  induction fuel generalizing before pos s with
  | zero => nofun
  | succ fuel ih =>
    intro f hf
    rw [findAllFrom] at hf
    cases hg : searchFrom p b before pos s with
    | none => simp [hg] at hf
    | some found =>
      obtain ⟨g, rest⟩ := found
      obtain ⟨-, h₁, h₂, h₃⟩ := searchFrom_some hg
      simp only [hg] at hf
      split at hf
      · cases rest with
        | nil =>
          cases List.mem_singleton.1 hf
          omega
        | cons c cs =>
          rw [List.length_cons] at h₃
          obtain rfl | hf := List.mem_cons.1 hf
          · omega
          · obtain ⟨h₄, h₅⟩ := ih f hf
            omega
      · obtain rfl | hf := List.mem_cons.1 hf
        · omega
        · obtain ⟨h₄, h₅⟩ := ih f hf
          omega

/-- All matches lie in the text. -/
lemma findAll_le {p : Pattern α} [Forward p] {b : Begin} {s : List Char} {f : Found α}
    (h : f ∈ findAll p b s) :
    f.start ≤ s.length ∧ f.stop ≤ s.length := by
  simpa using findAllFrom_le f h

/-! ## Searching further on -/

/-- The match, in a text that begins so many characters further on. -/
def Found.shift (k : Nat) (f : Found α) : Found α :=
  { f with start := f.start + k, stop := f.stop + k }

/-- A match where one may begin is found there. -/
lemma searchFrom_hit {p : Pattern α} {b : Begin} {before : Option Char} {pos : Nat} {s : List Char}
    {m : α × List Char} (h : (if b.allows before then p.first? s else none) = some m) :
    searchFrom p b before pos s = some (⟨m.1, pos, pos + (s.length - m.2.length)⟩, m.2) := by
  cases s <;> rw [searchFrom, h]

/-- What is found in a text that begins further on stands as much further on. -/
lemma searchFrom_shift (p : Pattern α) (b : Begin) (before : Option Char)
    (pos k : Nat) (s : List Char) :
    searchFrom p b before (pos + k) s = (searchFrom p b before pos s).map fun m =>
    (m.1.shift k, m.2) := by
  fun_induction searchFrom p b before pos s with
  | case1 before pos s a rest hit =>
    rw [dite_eq_ite] at hit
    rw [searchFrom_hit hit, Option.map_some, Found.shift, Nat.add_right_comm]
  | case2 before pos miss =>
    rw [dite_eq_ite] at miss
    rw [searchFrom, miss, Option.map_none]
  | case3 before pos c cs miss ih =>
    rw [dite_eq_ite] at miss
    rw [searchFrom, miss, ← ih, Nat.add_right_comm]

/-- All that is found in a text that begins further on stands as much further on. -/
lemma findAllFrom_shift (p : Pattern α) (b : Begin) (fuel : Nat)
    (before : Option Char) (pos k : Nat) (s : List Char) :
    findAllFrom p b fuel before (pos + k) s =
    (findAllFrom p b fuel before pos s).map (Found.shift k) := by
  induction fuel generalizing before pos s with
  | zero => rfl
  | succ fuel ih =>
    rw [findAllFrom, findAllFrom, searchFrom_shift]
    cases searchFrom p b before pos s with
    | none => rfl
    | some found =>
      obtain ⟨f, rest⟩ := found
      have same : (f.shift k).stop = (f.shift k).start ↔ f.stop = f.start :=
        Nat.add_right_cancel_iff
      have last : f.stop + k - (pos + k) - 1 = f.stop - pos - 1 := by omega
      simp only [Option.map_some, same]
      split
      · cases rest with
        | nil => rfl
        | cons c cs =>
          rw [List.map_cons, ← ih, Nat.add_right_comm]
          rfl
      · rw [List.map_cons, ← ih]
        simp only [Found.shift, last]

/-! ## What stands before a mark -/

/-- In texts of a kind, a pattern matches before a mark as it does at the end of the text, whatever
follows the mark; and what it leaves of such a text is of that kind again. -/
def Within (x : Char) (L : List Char → Prop) (p : Pattern α) : Prop :=
  ∀ line, L line → (∀ m ∈ p line, L m.2) ∧
    ∀ rest, p (line ++ x :: rest) = (p line).map fun m => (m.1, m.2 ++ x :: rest)

/-- Characters are taken up to what stops them, whatever follows. -/
lemma takeWhile_append_stop {ok : Char → Bool} {x : Char} (h : ok x = false) (s rest : List Char) :
    (s ++ x :: rest).takeWhile ok = s.takeWhile ok := by
  induction s with
  | nil => simp [h]
  | cons c s ih => rw [List.cons_append, List.takeWhile_cons, List.takeWhile_cons, ih]

/-- Characters are dropped up to what stops them, whatever follows. -/
lemma dropWhile_append_stop {ok : Char → Bool} {x : Char} (h : ok x = false) (s rest : List Char) :
    (s ++ x :: rest).dropWhile ok = s.dropWhile ok ++ x :: rest := by
  induction s with
  | nil => simp [h]
  | cons c s ih =>
    rw [List.cons_append, List.dropWhile_cons, List.dropWhile_cons, ih]
    split <;> rfl

namespace Within

variable {x : Char} {L : List Char → Prop} {ok : Char → Bool}

/-- What takes nothing does not look past the mark. -/
lemma pure (a : α) : Within x L (Pure.pure a) := by
  intro line hl
  refine ⟨fun m hm => ?_, fun rest => rfl⟩
  cases List.mem_singleton.1 hm
  exact hl

/-- Two patterns, one after the other, do not look past the mark if neither does. -/
lemma bind {p : Pattern α} {f : α → Pattern β} (hp : p.Within x L) (hf : ∀ a, (f a).Within x L) :
    (p >>= f).Within x L := by
  intro line hl
  obtain ⟨kept, same⟩ := hp line hl
  refine ⟨fun m hm => ?_, fun rest => ?_⟩
  · obtain ⟨n, hn, hm⟩ := mem_bind.1 hm
    exact (hf n.1 n.2 (kept n hn)).1 m hm
  · calc (p >>= f) (line ++ x :: rest)
        = ((p line).map fun m => (m.1, m.2 ++ x :: rest)).flatMap fun m =>
          f m.1 m.2 := by rw [← same]; rfl
      _ = (p line).flatMap fun m => (f m.1 m.2).map fun n => (n.1, n.2 ++ x :: rest) := by
        rw [List.flatMap_map]
        exact List.flatMap_congr fun m hm => (hf m.1 m.2 (kept m hm)).2 rest
      _ = ((p >>= f) line).map fun n => (n.1, n.2 ++ x :: rest) := List.map_flatMap.symm

/-- One of two patterns does not look past the mark if neither does. -/
lemma either {p q : Pattern α} (hp : p.Within x L) (hq : q.Within x L) :
    (Pattern.either p q).Within x L := by
  intro line hl
  obtain ⟨kept, same⟩ := hp line hl
  obtain ⟨kept', same'⟩ := hq line hl
  refine ⟨List.forall_mem_append.2 ⟨kept, kept'⟩, fun rest => ?_⟩
  rw [Pattern.either, same, same', ← List.map_append]
  rfl

/-- One of several patterns does not look past the mark if none does. -/
lemma anyOf {ps : List (Pattern α)} (h : ∀ p ∈ ps, p.Within x L) :
    (Pattern.anyOf ps).Within x L := by
  induction ps with
  | nil => exact fun line _ => ⟨nofun, fun rest => rfl⟩
  | cons p ps ih =>
    rw [List.forall_mem_cons] at h
    exact either h.1 (ih h.2)

/-- A pattern that may be missing does not look past the mark if it does not when it is there. -/
lemma optional {p : Pattern α} (hp : p.Within x L) : (Pattern.optional p).Within x L :=
  either (hp.bind fun a => pure (some a)) (pure none)

/-- Where a pattern takes nothing, it is not repeated. -/
lemma manyUpTo_stuck {p : Pattern α} {s : List Char} (h : ∀ m ∈ p s, s.length ≤ m.2.length)
    (fuel : Nat) :
    Pattern.manyUpTo p fuel s = [([], s)] := by
  cases fuel with
  | zero => rfl
  | succ fuel =>
    rw [manyUpTo_succ, List.flatMap_eq_nil_iff.2 fun m hm => if_neg (h m hm).not_gt,
      List.nil_append]

/-- A repetition does not look past the mark, and enough of them are all. -/
lemma manyUpTo {p : Pattern α} (hp : p.Within x L) {line : List Char} (hl : L line)
    {fuel fuel' : Nat} (enough : line.length ≤ fuel) (enough' : line.length ≤ fuel') :
    (∀ m ∈ Pattern.manyUpTo p fuel line, L m.2) ∧ ∀ rest,
      Pattern.manyUpTo p fuel' (line ++ x :: rest) =
        (Pattern.manyUpTo p fuel line).map fun m => (m.1, m.2 ++ x :: rest) := by
  -- Each repetition leaves a shorter text, so that what fuel is left is enough for it.
  induction hn : line.length using Nat.strong_induction_on generalizing line fuel fuel' with
  | _ n ih =>
    obtain ⟨kept, same⟩ := hp line hl
    cases line with
    | nil =>
      have stuck (rest : List Char) : ∀ m ∈ p ([] ++ x :: rest),
          ([] ++ x :: rest).length ≤ m.2.length := by
        intro m hm
        rw [same] at hm
        obtain ⟨n, -, rfl⟩ := List.mem_map.1 hm
        simp
      rw [manyUpTo_stuck fun m _ => Nat.zero_le _]
      exact ⟨by simpa using hl, fun rest => manyUpTo_stuck (stuck rest) fuel'⟩
    | cons c cs =>
      obtain ⟨fuel, rfl⟩ := Nat.exists_eq_succ_of_ne_zero (Nat.ne_of_gt (Nat.zero_lt_of_lt enough))
      obtain ⟨fuel', rfl⟩ :=
        Nat.exists_eq_succ_of_ne_zero (Nat.ne_of_gt (Nat.zero_lt_of_lt enough'))
      have further {m : α × List Char} (hm : m ∈ p (c :: cs)) (shorter :
          m.2.length < (c :: cs).length) :=
        ih m.2.length (hn ▸ shorter) (kept m hm) (show m.2.length ≤ fuel by omega)
          (show m.2.length ≤ fuel' by omega) rfl
      refine ⟨fun m hm => ?_, fun rest => ?_⟩
      · obtain ⟨k, hk, shorter, j, hj, rfl⟩ | rfl := mem_manyUpTo_succ hm
        · exact (further hk shorter).1 j hj
        · exact hl
      · have length (k : List Char) :
            (k ++ x :: rest).length < (c :: cs ++ x :: rest).length ↔
            k.length < (c :: cs).length := by
          rw [List.length_append, List.length_append]
          omega
        rw [manyUpTo_succ, manyUpTo_succ, same, List.flatMap_map, List.map_append, List.map_flatMap,
          List.map_singleton]
        congr 1
        refine List.flatMap_congr fun m hm => ?_
        simp only [length]
        split
        · rename_i shorter
          rw [(further hm shorter).2, List.map_map, List.map_map]
          rfl
        · rfl

/-- A repetition does not look past the mark if what is repeated does not. -/
lemma many {p : Pattern α} (hp : p.Within x L) : (Pattern.many p).Within x L := by
  intro line hl
  obtain ⟨kept, -⟩ := manyUpTo hp hl le_rfl le_rfl
  refine ⟨kept, fun rest => ?_⟩
  have enough : line.length ≤ (line ++ x :: rest).length := by simp
  exact (manyUpTo hp hl le_rfl enough).2 rest

/-- One character that is not the mark does not look past it. -/
lemma one (hx : ok x = false) (hL : ∀ c s, L (c :: s) → ok c = true → L s) :
    (Pattern.one ok).Within x L := by
  intro line hl
  cases line with
  | nil => exact ⟨nofun, fun rest => by simp [Pattern.one, hx]⟩
  | cons c cs =>
    rw [Pattern.one]
    split
    · rename_i hc
      refine ⟨fun m hm => ?_, fun rest => by rw [List.cons_append, Pattern.one, if_pos hc]; rfl⟩
      cases List.mem_singleton.1 hm
      exact hL c cs hl hc
    · rename_i hc
      exact ⟨nofun, fun rest => by rw [List.cons_append, Pattern.one, if_neg hc]; rfl⟩

/-- A run of characters, none of them the mark, does not look past it. -/
lemma run (hx : ok x = false) (hL : ∀ c s, L (c :: s) → ok c = true → L s) :
    (Pattern.run ok).Within x L := by
  intro line hl
  refine ⟨fun m hm => ?_, fun rest => ?_⟩
  · cases List.mem_singleton.1 hm
    clear hm
    show L (line.dropWhile ok)
    induction line with
    | nil => exact hl
    | cons c cs ih =>
      rw [List.dropWhile_cons]
      split
      · rename_i hc
        exact ih (hL c cs hl hc)
      · exact hl
  · rw [Pattern.run, takeWhile_append_stop hx, dropWhile_append_stop hx]
    rfl

/-- A run of at least one character, none of them the mark, does not look past it. -/
lemma run1 (hx : ok x = false) (hL : ∀ c s, L (c :: s) → ok c = true → L s) :
    (Pattern.run1 ok).Within x L :=
  (one hx hL).bind fun c => (run hx hL).bind fun cs => pure (c :: cs)

/-- A repetition of characters, none of them the mark, does not look past it. -/
lemma most (hx : ok x = false) (hL : ∀ c s, L (c :: s) → ok c = true → L s) :
    (Pattern.most ok).Within x L := by
  intro line hl
  induction line with
  | nil =>
    refine ⟨fun m hm => ?_, fun rest => by simp [Pattern.most, hx]⟩
    cases List.mem_singleton.1 hm
    exact hl
  | cons c cs ih =>
    rw [Pattern.most]
    split
    · rename_i hc
      obtain ⟨kept, same⟩ := ih (hL c cs hl hc)
      refine ⟨fun m hm => ?_, fun rest => ?_⟩
      · obtain hm | hm := List.mem_append.1 hm
        · obtain ⟨n, hn, rfl⟩ := List.mem_map.1 hm
          exact kept n hn
        · cases List.mem_singleton.1 hm
          exact hl
      · rw [List.cons_append, Pattern.most, if_pos hc, same, List.map_append,
          List.map_map, List.map_map]
        rfl
    · rename_i hc
      refine ⟨fun m hm => ?_, fun rest => by rw [List.cons_append, Pattern.most, if_neg hc]; rfl⟩
      cases List.mem_singleton.1 hm
      exact hl

/-- A keyword without the mark does not look past it. -/
lemma keyword {w : List Char} (hx : ∀ l ∈ w, sameLetter l x = false)
    (hL : ∀ l ∈ w, ∀ c s, L (c :: s) → sameLetter l c = true → L s) :
    (Pattern.keyword w).Within x L := by
  induction w with
  | nil => exact pure ()
  | cons l ls ih =>
    rw [List.forall_mem_cons] at hx hL
    exact (one hx.1 hL.1).bind fun _ => ih hx.2 hL.2

/-- The end of a word is seen at the mark, if no word goes on with it. -/
lemma wordEnd (hx : isWord x = false) : Pattern.wordEnd.Within x L := by
  intro line hl
  cases line with
  | nil => exact ⟨by simpa [Pattern.wordEnd] using hl, fun rest => by simp [Pattern.wordEnd, hx]⟩
  | cons c cs =>
    by_cases hc : isWord c = true
    · exact ⟨by simp [Pattern.wordEnd, hc], fun rest => by simp [Pattern.wordEnd, hc]⟩
    · exact ⟨by simpa [Pattern.wordEnd, hc] using hl, fun rest => by simp [Pattern.wordEnd, hc]⟩

end Within

/-- What matches before a mark does not depend on what comes after the first one, and
takes none of that. -/
def Until (x : Char) (p : Pattern α) : Prop := p.Within x (x ∉ ·)

namespace Until

variable {x : Char} {ok : Char → Bool}

/-- What takes nothing does not look past the mark. -/
lemma pure (a : α) : (Pure.pure a : Pattern α).Until x := Within.pure a

/-- Two patterns, one after the other, do not look past the mark if neither does. -/
lemma bind {p : Pattern α} {f : α → Pattern β} (hp : p.Until x) (hf : ∀ a, (f a).Until x) :
    (p >>= f).Until x :=
  Within.bind hp hf

/-- A pattern that may be missing does not look past the mark if it does not when it is there. -/
lemma optional {p : Pattern α} (hp : p.Until x) : (Pattern.optional p).Until x := Within.optional hp

/-- The end of a word is seen at the mark, if no word goes on with it. -/
lemma wordEnd (hx : isWord x = false) : Pattern.wordEnd.Until x := Within.wordEnd hx

/-- One character that is not the mark does not look past it. -/
lemma one (hx : ok x = false) : (Pattern.one ok).Until x :=
  Within.one hx fun _ _ h _ => mt (List.mem_cons_of_mem _) h

/-- A run of characters, none of them the mark, does not look past it. -/
lemma run (hx : ok x = false) : (Pattern.run ok).Until x :=
  Within.run hx fun _ _ h _ => mt (List.mem_cons_of_mem _) h

/-- A run of at least one character, none of them the mark, does not look past it. -/
lemma run1 (hx : ok x = false) : (Pattern.run1 ok).Until x :=
  Within.run1 hx fun _ _ h _ => mt (List.mem_cons_of_mem _) h

/-- A keyword without the mark does not look past it. -/
lemma keyword {w : List Char} (hx : w.all (fun l => !sameLetter l x) = true) :
    (Pattern.keyword w).Until x :=
  Within.keyword (by simpa using hx) fun _ _ _ _ h _ => mt (List.mem_cons_of_mem _) h

/-- A word without the mark does not look past it. -/
lemma exactly {w : List Char} (hw : x ∉ w) : (Pattern.exactly w).Until x := by
  induction w with
  | nil => exact Within.pure ()
  | cons c w ih =>
    intro line hl
    obtain ⟨hc, hw⟩ := List.ne_and_not_mem_of_not_mem_cons hw
    cases line with
    | nil =>
      exact ⟨by simp [Pattern.exactly, dropStart?], fun rest => by
        simp [Pattern.exactly, dropStart?, Ne.symm hc]⟩
    | cons d line =>
      by_cases hd : c = d
      · obtain ⟨kept, same⟩ := ih hw line (mt (List.mem_cons_of_mem _) hl)
        subst hd
        simpa [Pattern.exactly, dropStart?] using And.intro kept same
      · exact ⟨by simp [Pattern.exactly, dropStart?, hd], fun rest => by
          simp [Pattern.exactly, dropStart?, hd]⟩

end Until

/-- What matches before a line feed does not depend on what comes after it, and
takes none of that. -/
def InLine (p : Pattern α) : Prop := p.Until '\n'

/-! ## Searching whole lines -/

/-- A text in which every line ends in a line feed. -/
def WholeLines (s : List Char) : Prop := ∀ c ∈ s.getLast?, c = '\n'

/-- The end of a text of whole lines is one of whole lines. -/
lemma WholeLines.of_suffix {s r : List Char} (h : WholeLines s) (hr : r <:+ s) : WholeLines r := by
  obtain ⟨t, rfl⟩ := hr
  intro c hc
  refine h c ?_
  rw [List.getLast?_append, Option.mem_def.1 hc]
  rfl

/-- A text of whole lines that is not empty has a line feed. -/
lemma WholeLines.mem {c : Char} {s : List Char} (h : WholeLines (c :: s)) : '\n' ∈ c :: s := by
  have last : (c :: s).getLast (List.cons_ne_nil c s) = '\n' :=
    h _ (List.getLast?_eq_some_getLast _)
  rw [← last]
  exact List.getLast_mem _

/-- Where the mark stands, what matches at the start of a text does not depend on
what follows the text. -/
lemma Until.append {x : Char} {p : Pattern α} (hp : p.Until x) {s : List Char}
    (hs : x ∈ s) (t : List Char) :
    p (s ++ t) = (p s).map fun m => (m.1, m.2 ++ t) := by
  obtain ⟨line, rest, rfl, hl⟩ := List.eq_append_cons_of_mem hs
  obtain ⟨-, same⟩ := hp line hl
  rw [List.append_assoc, List.cons_append, same, same, List.map_map]
  simp

/-- What matches before a mark is the same whatever follows the mark, be it the first one or not. -/
lemma Until.append_mark {p : Pattern α} {x : Char} (hp : p.Until x) (s t : List Char) :
    p (s ++ x :: t) = (p s).map fun m => (m.1, m.2 ++ x :: t) := by
  by_cases hs : x ∈ s
  · exact hp.append hs (x :: t)
  · exact (hp s hs).2 t

/-- Where matches may begin anywhere, what stands before does not matter. -/
lemma searchFrom_anywhere (p : Pattern α) (before : Option Char) (pos : Nat) (s : List Char) :
    searchFrom p .anywhere before pos s = searchFrom p .anywhere none pos s := by
  cases s <;> rw [searchFrom, searchFrom] <;> rfl

/-- A search goes through whole lines and then on through what follows. -/
lemma InLine.searchFrom_append {p : Pattern α} (hp : p.InLine) (strict : p.Strict) {s : List Char}
    (hs : WholeLines s) (pos : Nat) (t : List Char) :
    searchFrom p .anywhere none pos (s ++ t) =
      ((searchFrom p .anywhere none pos s).map fun m => (m.1, m.2 ++ t)).or
        (searchFrom p .anywhere none (pos + s.length) t) := by
  induction s generalizing pos with
  | nil =>
    have nothing : p.first? [] = none := by
      rw [first?, List.head?_eq_none_iff, List.eq_nil_iff_forall_not_mem]
      exact fun m hm => Nat.not_lt_zero _ (strict [] m hm)
    have miss : searchFrom p .anywhere none pos [] = none := by
      rw [searchFrom]
      simp [Begin.allows, nothing]
    rw [miss, List.nil_append]
    rfl
  | cons c cs ih =>
    have here : p.first? (c :: cs ++ t) = (p.first? (c :: cs)).map fun m => (m.1, m.2 ++ t) := by
      rw [first?, hp.append hs.mem, List.head?_map]
      rfl
    rw [List.cons_append] at here ⊢
    rw [searchFrom, searchFrom]
    simp only [Begin.allows, if_true, here]
    cases p.first? (c :: cs) with
    | some m =>
      obtain ⟨a, rest⟩ := m
      have length : cs.length + t.length + 1 - (rest.length + t.length) =
          cs.length + 1 - rest.length := by omega
      simp [length]
    | none =>
      simp only [Option.map_none]
      rw [searchFrom_anywhere, ih (hs.of_suffix (List.suffix_cons c cs)),
        searchFrom_anywhere p (some c), List.length_cons, Nat.add_right_comm, Nat.add_assoc]

/-- The matches anywhere in a text that begins at an offset. -/
def matchesFrom (p : Pattern α) (pos : Nat) (s : List Char) : List (Found α) :=
  findAllFrom p .anywhere (s.length + 1) none pos s

/-- What is found by a pattern that takes something is not empty. -/
lemma Strict.start_lt {p : Pattern α} (strict : p.Strict) {b : Begin}
    {before : Option Char} {pos : Nat} {s : List Char} {f : Found α} {rest : List Char}
    (h : searchFrom p b before pos s = some (f, rest)) :
    f.start < f.stop := by
  fun_induction searchFrom p b before pos s with
  | case1 before pos s a r hit =>
    cases h
    have shorter : rest.length < s.length := strict s _ (mem_of_hit hit)
    dsimp only
    omega
  | case2 => cases h
  | case3 before pos c cs miss ih => exact ih h

variable {p : Pattern α} [Forward p]

/-- Where matches may begin anywhere, neither what stands before matters nor the bound. -/
lemma findAllFrom_anywhere (strict : p.Strict) {fuel fuel' : Nat} {s : List Char} {pos : Nat} :
    ∀ before before', s.length < fuel → s.length < fuel' →
      findAllFrom p .anywhere fuel before pos s = findAllFrom p .anywhere fuel' before' pos s := by
  induction fuel generalizing fuel' s pos with
  | zero => exact fun _ _ h => absurd h (Nat.not_lt_zero _)
  | succ fuel ih =>
    intro before before' h h'
    cases fuel' with
    | zero => exact absurd h' (Nat.not_lt_zero _)
    | succ fuel' =>
      rw [findAllFrom, findAllFrom, searchFrom_anywhere, searchFrom_anywhere p before']
      cases hf : searchFrom p .anywhere none pos s with
      | none => rfl
      | some found =>
        obtain ⟨f, rest⟩ := found
        have taken := strict.start_lt hf
        obtain ⟨-, h₁, h₂, h₃⟩ := searchFrom_some hf
        simp only [if_neg taken.ne', List.cons.injEq, true_and]
        exact ih _ _ (by omega) (by omega)

/-- After the leftmost match the search goes on in what is left. -/
lemma matchesFrom_eq (strict : p.Strict) (pos : Nat) (s : List Char) :
    matchesFrom p pos s =
      ((searchFrom p .anywhere none pos s).map fun m => m.1 :: matchesFrom p m.1.stop m.2).getD
        [] := by
  rw [matchesFrom, findAllFrom]
  cases hf : searchFrom p .anywhere none pos s with
  | none => rfl
  | some found =>
    obtain ⟨f, rest⟩ := found
    have taken := strict.start_lt hf
    obtain ⟨-, h₁, h₂, h₃⟩ := searchFrom_some hf
    simp only [if_neg taken.ne', Option.map_some, Option.getD_some, List.cons.injEq, true_and]
    exact findAllFrom_anywhere strict _ _ (by omega) (by omega)

/-- The matches in whole lines and a text behind them are those of both. -/
lemma matchesFrom_append (hp : p.InLine) (strict : p.Strict) {s : List Char}
    (hs : WholeLines s) (pos : Nat) (t : List Char) :
    matchesFrom p pos (s ++ t) = matchesFrom p pos s ++ matchesFrom p (pos + s.length) t := by
  -- Each match leaves less of the whole lines.
  induction h : s.length using Nat.strong_induction_on generalizing s pos with
  | _ n ih =>
    subst h
    rw [matchesFrom_eq strict pos (s ++ t), matchesFrom_eq strict pos s,
      hp.searchFrom_append strict hs]
    cases hf : searchFrom p .anywhere none pos s with
    | none => exact (matchesFrom_eq strict (pos + s.length) t).symm
    | some found =>
      obtain ⟨f, rest⟩ := found
      have taken := strict.start_lt hf
      obtain ⟨suffix, h₁, h₂, h₃⟩ := searchFrom_some hf
      simp only [Option.map_some, Option.some_or, Option.getD_some, List.cons_append,
        List.cons.injEq, true_and]
      rw [ih rest.length (by omega) (hs.of_suffix suffix) f.stop rfl, h₃]

/-- The matches in whole lines and a text after them are the matches in the lines and
those in the text. -/
lemma findAll_append (hp : p.InLine) (strict : p.Strict) {s : List Char}
    (hs : WholeLines s) (t : List Char) :
    findAll p .anywhere (s ++ t) =
      findAll p .anywhere s ++ (findAll p .anywhere t).map (Found.shift s.length) := by
  calc findAll p .anywhere (s ++ t)
      = matchesFrom p 0 s ++ matchesFrom p (0 + s.length) t := matchesFrom_append hp strict hs 0 t
    _ = findAll p .anywhere s ++ (findAll p .anywhere t).map (Found.shift s.length) := by
      rw [matchesFrom, matchesFrom, findAllFrom_shift]
      rfl

/-! ## Preferred matches -/

section Preferred
variable {p q : Pattern α} {f : α → Pattern β} {ok : Char → Bool} {s r : List Char}

/-- What takes nothing matches at once. -/
lemma first?_pure (a : α) : first? (pure a) s = some (a, s) := rfl

/-- The preferred way of a sequence goes on from the preferred way of its first part, if it can. -/
lemma first?_bind {a : α} {m : β × List Char} (hp : p.first? s = some (a, r))
    (hf : (f a).first? r = some m) :
    first? (p >>= f) s = some m := by
  obtain ⟨ms, hm⟩ := List.head?_eq_some_iff.1 hp
  have ways : (p >>= f) s = f a r ++ ms.flatMap fun m => f m.1 m.2 := by
    show (p s).flatMap _ = _
    rw [hm, List.flatMap_cons]
  rw [first?, ways, List.head?_append, ← first?, hf]
  rfl

/-- The first one of two patterns is preferred. -/
lemma first?_either {m : α × List Char} (hp : p.first? s = some m) :
    first? (either p q) s = some m := by
  rw [first?, either, List.head?_append, ← first?, hp]
  rfl

/-- Where the first one of two patterns fails, the second one matches. -/
lemma first?_either_right (hp : p s = []) : first? (either p q) s = q.first? s := by
  rw [first?, either, hp, List.nil_append, first?]

/-- A pattern that may be missing is preferred to be there. -/
lemma first?_optional {a : α} (hp : p.first? s = some (a, r)) :
    first? (optional p) s = some (some a, r) :=
  first?_either (first?_bind hp rfl)

/-- A pattern fails if its first part does. -/
lemma bind_eq_nil (hp : p s = []) : (p >>= f) s = [] := by
  show (p s).flatMap _ = []
  rw [hp, List.flatMap_nil]

/-- A pattern that fails may be missing. -/
lemma first?_optional_none (hp : p s = []) : first? (optional p) s = some (none, s) := by
  have none : (some <$> p) s = [] := bind_eq_nil hp
  rw [optional, first?_either_right none]
  rfl

/-- A character of a kind is matched. -/
lemma first?_one {c : Char} (hc : ok c = true) : first? (one ok) (c :: r) = some (c, r) := by
  rw [first?, one, if_pos hc]
  rfl

/-- A character is matched by itself. -/
lemma first?_char (c : Char) : first? (char c) (c :: r) = some (c, r) :=
  first?_one (beq_self_eq_true c)

/-- A run ends before a character of another kind, or at the end. -/
lemma first?_run (hs : ∀ c ∈ s, ok c = true) (hr : ∀ c ∈ r.head?, ok c = false) :
    first? (run ok) (s ++ r) = some (s, r) := by
  have stop : r.takeWhile ok = [] ∧ r.dropWhile ok = r := by
    cases r with
    | nil => exact ⟨rfl, rfl⟩
    | cons c r => simp [hr c rfl]
  rw [first?, run, List.takeWhile_append_of_pos hs, List.dropWhile_append_of_pos hs, stop.1,
    stop.2, List.append_nil]
  rfl

/-- A space is a gap if no blank follows. -/
lemma first?_gap (hr : ∀ c ∈ r.head?, isBlank c = false) :
    first? gap (' ' :: r) = some ([' '], r) :=
  first?_bind (first?_one rfl) (first?_bind (first?_run (s := []) nofun hr) rfl)

/-- There may be no blanks. -/
lemma first?_blanks (hr : ∀ c ∈ r.head?, isBlank c = false) : first? blanks r = some ([], r) :=
  first?_run (s := []) nofun hr

/-- A keyword is matched by itself. -/
lemma first?_keyword (w : List Char) : first? (keyword w) (w ++ r) = some ((), r) := by
  induction w with
  | nil => rfl
  | cons l w ih => exact first?_bind (first?_one (by simp [sameLetter])) ih

/-- A keyword that is given as a string is matched by itself. -/
lemma first?_kw (w : String) : first? (kw w) (w.toList ++ r) = some ((), r) :=
  first?_keyword w.toList

/-- A keyword does not match where one of its letters meets another one. -/
lemma keyword_eq_nil {w t : List Char} (h : (w.zip t).any (fun x => !sameLetter x.1 x.2) = true) :
    keyword w (t ++ r) = [] := by
  induction w generalizing t with
  | nil => cases h
  | cons l w ih =>
    cases t with
    | nil => cases h
    | cons c t =>
      rw [List.zip_cons_cons, List.any_cons, Bool.or_eq_true] at h
      show (one (sameLetter l) (c :: (t ++ r))).flatMap _ = []
      rw [one]
      split
      · rename_i same
        rw [same] at h
        have further := ih (h.resolve_left (by decide))
        rw [List.flatMap_singleton]
        exact further
      · rfl

/-- A text begins with the one that was put in front. -/
lemma dropStart?_append (w : List Char) : dropStart? w (w ++ r) = some r := by
  induction w with
  | nil => rfl
  | cons c w ih => rw [List.cons_append, dropStart?, if_pos rfl, ih]

/-- A text does not begin with another one if they differ somewhere. -/
lemma dropStart?_eq_none {w t : List Char} (h : (w.zip t).any (fun x => x.1 != x.2) = true) :
    dropStart? w (t ++ r) = none := by
  induction w generalizing t with
  | nil => cases h
  | cons c w ih =>
    cases t with
    | nil => cases h
    | cons d t =>
      rw [List.zip_cons_cons, List.any_cons, Bool.or_eq_true, bne_iff_ne] at h
      rw [List.cons_append, dropStart?]
      split
      · rename_i same
        exact ih (h.resolve_left (· same))
      · rfl

/-- A word is matched by itself. -/
lemma first?_exactly (w : List Char) : first? (exactly w) (w ++ r) = some ((), r) := by
  rw [first?, exactly, dropStart?_append]
  rfl

/-- A word is not matched by what differs from it. -/
lemma exactly_eq_nil {w t : List Char} (h : (w.zip t).any (fun x => x.1 != x.2) = true) :
    exactly w (t ++ r) = [] := by
  rw [exactly, dropStart?_eq_none h]

/-- What a pattern takes is what stood before the rest. -/
lemma first?_taken {w : List Char} {a : α} (hp : p.first? (w ++ r) = some (a, r)) :
    first? (taken p) (w ++ r) = some (w, r) := by
  rw [first?, taken, List.head?_map, ← first?, hp]
  simp

/-- Of several patterns the first one that matches is preferred. -/
lemma first?_anyOf (ps : List (Pattern α)) {qs : List (Pattern α)} {m : α × List Char}
    (hp : p.first? s = some m) (none : ∀ q ∈ ps, q s = []) :
    first? (anyOf (ps ++ p :: qs)) s = some m := by
  have before : (ps.flatMap fun q => q s) = [] := List.flatMap_eq_nil_iff.2 none
  rw [first?, anyOf, List.flatMap_append, before, List.nil_append, List.flatMap_cons,
    List.head?_append, ← first?, hp]
  rfl

/-- After a keyword, the gap behind the first word is all that a gap can be. -/
lemma gap_after_keyword {w word : List Char} (hw : w.all (fun l => !sameLetter l ' ') = true)
    (solid : ∀ c ∈ word, isBlank c = false) {m : Unit × List Char}
    (hm : m ∈ keyword w (word ++ ' ' :: r)) {n : List Char × List Char} (hn : n ∈ gap m.2) :
    n.2 = r.dropWhile isBlank := by
  -- The letters of the keyword are all in the word; where it stops short of the end of the word,
  -- there is no gap.
  induction w generalizing word with
  | nil =>
    cases List.mem_singleton.1 hm
    obtain ⟨k, hk, hn⟩ := mem_bind.1 hn
    cases word with
    | nil =>
      cases List.mem_singleton.1 hk
      obtain ⟨j, hj, hn⟩ := mem_bind.1 hn
      cases List.mem_singleton.1 hj
      cases List.mem_singleton.1 hn
      rfl
    | cons c word =>
      rw [List.cons_append, one, solid c (.head _)] at hk
      cases hk
  | cons l w ih =>
    rw [List.all_cons, Bool.and_eq_true, Bool.not_eq_true'] at hw
    obtain ⟨hl, hw⟩ := hw
    obtain ⟨k, hk, hm⟩ := mem_bind.1 hm
    cases word with
    | nil =>
      rw [List.nil_append, one, hl] at hk
      cases hk
    | cons c word =>
      rw [List.cons_append, one] at hk
      split at hk
      · cases List.mem_singleton.1 hk
        exact ih hw (List.forall_mem_cons.1 solid).2 hm
      · cases hk

end Preferred

end Rulebook.Text.Pattern
