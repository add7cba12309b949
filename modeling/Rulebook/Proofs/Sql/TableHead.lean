import Rulebook.Proofs.Sql.Identifier
import Rulebook.Sql.Table

/-!
# Heads of table statements

What stands in a table statement before the parenthesis is flat: plain characters and quoted text,
no parentheses (`Flat`). A pattern of flat texts matches before a parenthesis as if the text ended
there (`Flatly`), so the head of a table statement is known once its parenthesis is open: whatever
comes later, the same head is read (`first?_tableHead`).
-/

namespace Rulebook.Sql
open Text Pattern

variable {α β : Type}

/-- A text of plain characters and quoted text. -/
inductive Flat : List Char → Prop
  | nil : Flat []
  | plain {c s} : IsPlain c → Flat s → Flat (c :: s)
  | quoted {o q body s} : closingQuote? o = some q → q ∉ body → Flat s →
      Flat (o :: (body ++ q :: s))

namespace Flat

variable {s t : List Char}

/-- Flat texts after one another are flat. -/
lemma append (hs : Flat s) (ht : Flat t) : Flat (s ++ t) := by
  induction hs with
  | nil => exact ht
  | plain hc _ ih => exact ih.plain hc
  | @quoted o q body s ho hq _ ih =>
    rw [List.cons_append, List.append_assoc, List.cons_append]
    exact ih.quoted ho hq

/-- A plain text is flat. -/
lemma of_plain (h : ∀ c ∈ s, IsPlain c) : Flat s := by
  induction s with
  | nil => exact .nil
  | cons c s ih =>
    rw [List.forall_mem_cons] at h
    exact (ih h.2).plain h.1

/-- Behind a plain character a flat text goes on. -/
lemma tail {c : Char} (h : Flat (c :: s)) (hc : IsPlain c) : Flat s := by
  generalize eq : c :: s = t at h
  cases h with
  | nil => cases eq
  | plain _ hs =>
    cases eq
    exact hs
  | quoted ho _ _ =>
    cases eq
    rw [hc.1] at ho
    cases ho

/-- Behind quoted text a flat text goes on. -/
lemma unquoted {o q : Char} {body : List Char} (ho : closingQuote? o = some q) (hq : q ∉ body)
    (h : Flat (o :: (body ++ q :: s))) : Flat s := by
  generalize eq : o :: (body ++ q :: s) = t at h
  cases h with
  | nil => cases eq
  | plain hc _ =>
    cases eq
    rw [hc.1] at ho
    cases ho
  | quoted ho' hq' hs =>
    rw [List.cons.injEq] at eq
    obtain ⟨rfl, eq⟩ := eq
    cases Option.some.inj (ho.symm.trans ho')
    rw [(eq_of_first_occurrence hq hq' eq).2]
    exact hs

/-- A flat text does not begin with a parenthesis. -/
lemma head_ne (h : Flat s) : ∀ c ∈ s.head?, c ≠ '(' := by
  rintro c hc rfl
  cases h with
  | nil => cases hc
  | plain plain _ =>
    cases hc
    exact plain.2.1 rfl
  | quoted ho _ _ =>
    cases hc
    cases ho

end Flat

/-! ## Patterns of flat texts -/

/-- A pattern takes flat texts only, and matches in a flat text before a parenthesis as
it does at the end. -/
structure Flatly (p : Pattern α) : Prop where
  takes {s : List Char} {m : α × List Char} : m ∈ p s → ∃ v, Flat v ∧ s = v ++ m.2
  within : p.Within '(' Flat

namespace Flatly

variable {ok : Char → Bool}

/-- A pattern that takes nothing takes flat texts. -/
lemma pure (a : α) : Flatly (Pure.pure a) where
  takes hm := by
    cases mem_pure.1 hm
    exact ⟨[], .nil, rfl⟩
  within := .pure a

/-- Two patterns of flat texts, one after the other, take flat texts. -/
lemma bind {p : Pattern α} {f : α → Pattern β} (hp : Flatly p) (hf : ∀ a, Flatly (f a)) :
    Flatly (p >>= f) where
  takes hm := by
    obtain ⟨n, hn, further⟩ := mem_bind.1 hm
    obtain ⟨v, hv, rfl⟩ := hp.takes hn
    obtain ⟨w, hw, hr⟩ := (hf n.1).takes further
    exact ⟨v ++ w, hv.append hw, by rw [hr, List.append_assoc]⟩
  within := hp.within.bind fun a => (hf a).within

/-- One of two patterns of flat texts takes flat texts. -/
lemma either {p q : Pattern α} (hp : Flatly p) (hq : Flatly q) : Flatly (Pattern.either p q) where
  takes hm := (List.mem_append.1 hm).elim hp.takes hq.takes
  within := hp.within.either hq.within

/-- One of several patterns of flat texts takes flat texts. -/
lemma anyOf {ps : List (Pattern α)} (h : ∀ p ∈ ps, Flatly p) : Flatly (Pattern.anyOf ps) where
  takes hm := by
    obtain ⟨p, hp, hm⟩ := mem_anyOf.1 hm
    exact (h p hp).takes hm
  within := .anyOf fun p hp => (h p hp).within

/-- A pattern of flat texts that may be missing takes flat texts. -/
lemma optional {p : Pattern α} (hp : Flatly p) : Flatly (Pattern.optional p) :=
  either (hp.bind fun a => pure (some a)) (pure none)

/-- A pattern of flat texts that is repeated takes flat texts. -/
lemma many {p : Pattern α} (hp : Flatly p) : Flatly (Pattern.many p) where
  takes {s m} hm := by
    have upTo : ∀ (fuel : Nat) {s : List Char} {m : List α × List Char}, m ∈ manyUpTo p fuel s →
        ∃ v, Flat v ∧ s = v ++ m.2 := by
      intro fuel
      induction fuel with
      | zero =>
        intro s m hm
        cases List.mem_singleton.1 hm
        exact ⟨[], .nil, rfl⟩
      | succ fuel ih =>
        intro s m hm
        obtain ⟨n, hn, -, k, hk, rfl⟩ | rfl := mem_manyUpTo_succ hm
        · obtain ⟨v, hv, rfl⟩ := hp.takes hn
          obtain ⟨w, hw, hr⟩ := ih hk
          exact ⟨v ++ w, hv.append hw, by rw [hr, List.append_assoc]⟩
        · exact ⟨[], .nil, rfl⟩
    exact upTo s.length hm
  within := hp.within.many

/-- Of a class without marks, all characters are plain. -/
lemma one (h : marks.any ok = false) : Flatly (Pattern.one ok) where
  takes {s m} hm := by
    obtain ⟨rfl, hc⟩ := mem_one.1 hm
    exact ⟨[m.1], Flat.nil.plain (isPlain_of_class hc h), rfl⟩
  within := .one (by simpa using List.any_eq_false.1 h '(' (by decide)) fun c s hs hc =>
    hs.tail (isPlain_of_class hc h)

/-- A run of characters that are no marks is flat. -/
lemma run (h : marks.any ok = false) : Flatly (Pattern.run ok) where
  takes {s m} hm := by
    obtain ⟨rfl, all, -⟩ := of_mem_run hm
    exact ⟨m.1, .of_plain fun c hc => isPlain_of_class (all c hc) h, rfl⟩
  within := .run (by simpa using List.any_eq_false.1 h '(' (by decide)) fun c s hs hc =>
    hs.tail (isPlain_of_class hc h)

/-- A repetition of characters that are no marks is flat. -/
lemma most (h : marks.any ok = false) : Flatly (Pattern.most ok) where
  takes {s m} hm := by
    obtain ⟨rfl, all⟩ := of_mem_most hm
    exact ⟨m.1, .of_plain fun c hc => isPlain_of_class (all c hc) h, rfl⟩
  within := .most (by simpa using List.any_eq_false.1 h '(' (by decide)) fun c s hs hc =>
    hs.tail (isPlain_of_class hc h)

/-- A keyword of letters that are no marks is flat. -/
lemma keyword {w : List Char} (h : w.all (fun l => !marks.any (sameLetter l)) = true) :
    Flatly (Pattern.keyword w) := by
  induction w with
  | nil => exact pure ()
  | cons l w ih =>
    rw [List.all_cons, Bool.and_eq_true, Bool.not_eq_true'] at h
    exact (one h.1).bind fun _ => ih h.2

/-- Blanks are flat. -/
lemma blanks : Flatly Pattern.blanks := run (by decide)

/-- A gap is flat. -/
lemma gap : Flatly Pattern.gap :=
  (one (by decide)).bind fun c => blanks.bind fun cs => pure (c :: cs)

end Flatly

/-! ## Names -/

/-- What begins with another character is not enclosed. -/
lemma enclosed_other {o q c : Char} (h : c ≠ o) (s : List Char) : enclosed o q (c :: s) = [] :=
  bind_eq_nil (char_eq_nil h s)

/-- What is enclosed ends at the first closing mark. -/
lemma enclosed_body {o q : Char} {body : List Char} (hq : q ∉ body) (s : List Char) :
    enclosed o q (o :: (body ++ q :: s)) = if body = [] then [] else [(o :: (body ++ [q]), s)] := by
  have mark (x : Char) (t : List Char) : Pattern.char x (x :: t) = [(x, t)] := by
    rw [Pattern.char, Pattern.one, if_pos (beq_self_eq_true x)]
  have inner : ∀ c ∈ body, (c != q) = true := fun c hc => bne_iff_ne.2 fun same => hq (same ▸ hc)
  have stop : (q != q) = false := bne_self_eq_false q
  unfold enclosed
  rw [bind_single (mark o _)]
  cases body with
  | nil =>
    refine bind_eq_nil (bind_eq_nil ?_)
    rw [List.nil_append, Pattern.one, if_neg (by simp)]
  | cons c body =>
    rw [List.forall_mem_cons] at inner
    have all : Pattern.run (· != q) (body ++ q :: s) = [(body, q :: s)] := by
      rw [Pattern.run, List.takeWhile_append_of_pos inner.2, List.dropWhile_append_of_pos inner.2]
      simp
    have first : Pattern.one (· != q) (c :: (body ++ q :: s)) = [(c, body ++ q :: s)] := by
      rw [Pattern.one, if_pos inner.1]
    have taken : Pattern.run1 (· != q) (c :: body ++ q :: s) = [(c :: body, q :: s)] := by
      rw [Pattern.run1, List.cons_append, bind_single first, bind_single all]
      rfl
    rw [bind_single taken, bind_single (mark q s), if_neg (List.cons_ne_nil c body)]
    rfl

/-- A quoted text is flat. -/
lemma flatly_enclosed {o q : Char} (h : closingQuote? o = some q) : Flatly (enclosed o q) where
  takes {s m} hm := by
    obtain ⟨body, -, hq, -, rfl⟩ := of_mem_enclosed hm
    exact ⟨o :: (body ++ [q]), Flat.nil.quoted h hq, by simp⟩
  within := by
    intro line hl
    refine ⟨fun m hm => ?_, fun rest => ?_⟩
    · obtain ⟨body, -, hq, -, rfl⟩ := of_mem_enclosed hm
      exact hl.unquoted h hq
    · cases hl with
      | nil => exact enclosed_other (by rintro rfl; cases h) rest
      | @plain c s hc hs =>
        have other : c ≠ o := by
          rintro rfl
          rw [hc.1] at h
          cases h
        rw [List.cons_append, enclosed_other other, enclosed_other other]
        rfl
      | @quoted o' q' body s ho hq hs =>
        rw [List.cons_append, List.append_assoc, List.cons_append]
        by_cases same : o' = o
        · subst same
          cases Option.some.inj (h.symm.trans ho)
          rw [enclosed_body hq, enclosed_body hq]
          split <;> rfl
        · rw [enclosed_other same, enclosed_other same]
          rfl

/-- An identifier is flat. -/
lemma flatly_identifier : Flatly (identifier true) := by
  have word : Flatly (do
      let c ← Pattern.one (beginsIdentifier true)
      let cs ← Pattern.most continuesIdentifier
      pure (c :: cs) : Pattern (List Char)) :=
    .bind (.one (by decide)) fun c => .bind (.most (by decide)) fun cs => .pure (c :: cs)
  refine .anyOf fun p hp => ?_
  simp only [List.mem_cons, List.not_mem_nil, or_false] at hp
  obtain rfl | rfl | rfl | rfl := hp
  · exact flatly_enclosed (by decide)
  · exact flatly_enclosed (by decide)
  · exact flatly_enclosed (by decide)
  · exact word

/-- A qualified name is flat. -/
lemma flatly_qualifiedName : Flatly (qualifiedName true) := by
  have further : Flatly (do
      let p ← point
      let i ← identifier true
      pure (p ++ i) : Pattern (List Char)) := by
    unfold point
    refine .bind ?_ fun p => flatly_identifier.bind fun i => .pure (p ++ i)
    exact .bind .blanks fun before => .bind (.one (by decide)) fun p => .bind .blanks fun after =>
      .pure (before ++ p :: after)
  exact flatly_identifier.bind fun first => further.many.bind fun more =>
    .pure (first ++ more.flatten)

/-! ## Heads -/

/-- A pattern takes a flat text and the parenthesis behind it, whatever comes later. -/
structure Opens (p : Pattern α) : Prop where
  takes {s : List Char} {m : α × List Char} : m ∈ p s → ∃ v, Flat v ∧ s = v ++ '(' :: m.2
  decided {v : List Char} : Flat v → ∃ as : List α, ∀ t, p (v ++ '(' :: t) = as.map fun a => (a, t)

/-- A parenthesis opens. -/
lemma opens_char (a : α) : Opens (Pattern.char '(' >>= fun _ => pure a) where
  takes {s m} hm := by
    obtain ⟨n, hn, hm⟩ := mem_bind.1 hm
    cases mem_pure.1 hm
    exact ⟨[], .nil, (mem_char.1 hn).2⟩
  decided {v} hv := by
    cases v with
    | nil => exact ⟨[a], fun t => rfl⟩
    | cons c v => exact ⟨[], fun t => bind_eq_nil (char_eq_nil (hv.head_ne c rfl) _)⟩

/-- What opens may stand behind a flat text. -/
lemma Flatly.opens {p : Pattern α} {f : α → Pattern β} (hp : Flatly p) (hf : ∀ a, Opens (f a)) :
    Opens (p >>= f) where
  takes {s m} hm := by
    obtain ⟨n, hn, further⟩ := mem_bind.1 hm
    obtain ⟨v, hv, rfl⟩ := hp.takes hn
    obtain ⟨w, hw, hr⟩ := (hf n.1).takes further
    exact ⟨v ++ w, hv.append hw, by rw [hr, List.append_assoc]⟩
  decided {v} hv := by
    obtain ⟨kept, same⟩ := hp.within v hv
    have further : ∀ m ∈ p v, ∃ as : List β, ∀ t, f m.1 (m.2 ++ '(' :: t) = as.map fun a =>
        (a, t) :=
      fun m hm => (hf m.1).decided (kept m hm)
    choose! as has using further
    refine ⟨(p v).flatMap as, fun t => ?_⟩
    calc (p >>= f) (v ++ '(' :: t)
        = ((p v).map fun m => (m.1, m.2 ++ '(' :: t)).flatMap fun m =>
          f m.1 m.2 := by rw [← same]; rfl
      _ = (p v).flatMap fun m => (as m).map fun a => (a, t) := by
        rw [List.flatMap_map]
        exact List.flatMap_congr fun m hm => has m hm t
      _ = ((p v).flatMap as).map fun a => (a, t) := List.map_flatMap.symm

/-- The head of a table statement takes a flat text and the parenthesis behind it. -/
lemma opens_tableHead : Opens tableHead := by
  have temporary : Flatly temporary := by
    unfold Sql.temporary
    refine .bind (.keyword (by decide)) fun _ => .bind (.optional (.keyword (by decide))) fun _ =>
      ?_
    exact .bind .gap fun _ => .pure ()
  have absent : Flatly ifNotExists := by
    unfold ifNotExists
    refine .bind (.keyword (by decide)) fun _ => .bind .gap fun _ =>
      .bind (.keyword (by decide)) fun _ => ?_
    exact .bind .gap fun _ => .bind (.keyword (by decide)) fun _ => .bind .gap fun _ => .pure ()
  have scope : Flatly (do
      Pattern.either (Pattern.kw "global") (Pattern.kw "local")
      let _ ← Pattern.gap : Pattern Unit) :=
    .bind (.either (.keyword (by decide)) (.keyword (by decide))) fun _ =>
    .bind .gap fun _ => .pure ()
  unfold tableHead
  apply Flatly.opens (.keyword (by decide))
  intro _
  apply Flatly.opens .gap
  intro _
  apply Flatly.opens scope.optional
  intro _
  apply Flatly.opens temporary.optional
  intro _
  apply Flatly.opens (.keyword (by decide))
  intro _
  apply Flatly.opens .gap
  intro _
  apply Flatly.opens absent.optional
  intro _
  apply Flatly.opens flatly_qualifiedName
  intro name
  exact Flatly.opens .blanks fun _ => opens_char name

/-- Once its parenthesis is open, the head of a table statement is the same whatever comes later. -/
lemma first?_tableHead {s written inside : List Char}
    (h : tableHead.first? s = some (written, inside)) (t : List Char) :
    tableHead.first? (s ++ t) = some (written, inside ++ t) := by
  obtain ⟨v, hv, rfl⟩ := opens_tableHead.takes (mem_of_first? h)
  obtain ⟨as, decided⟩ := opens_tableHead.decided hv
  rw [first?, decided, List.head?_map] at h
  obtain ⟨a, ha, same⟩ := Option.map_eq_some_iff.1 h
  cases same
  rw [List.append_assoc, List.cons_append, first?, decided, List.head?_map, ha]
  rfl

end Rulebook.Sql
