import Rulebook.Proofs.Sql.Balanced
import Rulebook.Proofs.Text.Blank
import Rulebook.Proofs.Text.Ways
import Rulebook.Proofs.Text.Word
import Rulebook.Sql.Identifier

/-!
# Identifiers as they are written

An identifier stands between marks or is a word (`IsIdentifier`). The pattern of identifiers takes
identifiers and nothing else (`of_mem_identifier`), and prefers the whole of one
(`first?_identifier`). A word stands for itself (`unquote_word`).
-/

namespace Rulebook.Sql
open Text Pattern

/-- The marks that quote identifiers: the one that opens and the one that closes. -/
def identifierMarks : List (Char × Char) := [(backtick, backtick), ('"', '"'), ('[', ']')]

/-- An identifier as it may be written: between marks, or as a word. -/
inductive IsIdentifier : List Char → Prop
  | quoted {o q body} : (o, q) ∈ identifierMarks → body ≠ [] → q ∉ body →
      IsIdentifier (o :: (body ++ [q]))
  | word {c s} : beginsIdentifier false c = true → (∀ d ∈ s, continuesIdentifier d = true) →
      IsIdentifier (c :: s)

/-- A letter is an identifier. -/
lemma IsIdentifier.letter {c : Char} (h : beginsIdentifier false c = true) : IsIdentifier [c] :=
  .word h (List.forall_mem_nil _)

/-- A word is not continued by what stands behind it; one between marks ends in any case. -/
def Closes (t r : List Char) : Prop :=
  (∀ c ∈ t.head?, beginsIdentifier false c = true) → ∀ c ∈ r.head?, continuesIdentifier c = false

/-! ## Characters of identifiers -/

/-- What begins an identifier may continue one. -/
lemma continues_of_begins {c : Char} (h : beginsIdentifier false c = true) :
    continuesIdentifier c = true := by
  unfold beginsIdentifier at h
  unfold continuesIdentifier isWord
  obtain underscore | letter := Bool.or_eq_true _ _ ▸ h
  · rw [eq_of_beq underscore]
    rfl
  · rw [if_neg Bool.false_ne_true] at letter
    rw [letter]
    rfl

/-- What continues an identifier is no blank. -/
lemma not_isBlank_of_continues {c : Char} (h : continuesIdentifier c = true) :
    isBlank c = false := by
  by_contra hb
  have blank := Bool.not_eq_false _ ▸ hb
  obtain word | dollar := Bool.or_eq_true _ _ ▸ h
  · rw [not_isWord_of_isBlank blank] at word
    cases word
  · rw [eq_of_beq dollar] at blank
    cases blank

/-- What continues an identifier is not a character that does not. -/
lemma ne_of_continues {c x : Char} (h : continuesIdentifier c = true)
    (hx : continuesIdentifier x = false) : c ≠ x := by
  rintro rfl
  rw [h] at hx
  cases hx

/-- What continues an identifier is plain. -/
lemma isPlain_of_continues {c : Char} (h : continuesIdentifier c = true) : IsPlain c :=
  isPlain_of_class h (by decide)

/-- The marks of identifiers open and close quoted texts. -/
lemma closingQuote?_of_mark : ∀ m ∈ identifierMarks, closingQuote? m.1 = some m.2 := by decide

/-- A mark stands at the ends of an identifier and nowhere in a word. -/
lemma mark_facts :
    ∀ m ∈ identifierMarks, continuesIdentifier m.1 = false ∧ isBlank m.1 = false ∧
    isBlank m.2 = false := by
  decide

/-- The mark that opens determines the one that closes. -/
lemma mark_unique {o q q' : Char} (h : (o, q) ∈ identifierMarks) (h' : (o, q') ∈ identifierMarks) :
    q = q' :=
  Option.some.inj ((closingQuote?_of_mark _ h).symm.trans (closingQuote?_of_mark _ h'))

/-! ## The pattern -/

instance (opening closing : Char) : Forward (enclosed opening closing) := by
  unfold enclosed
  infer_instance

instance (folded : Bool) : Forward (identifier folded) := by
  unfold identifier
  infer_instance

instance : Forward point := by
  unfold point
  infer_instance

instance (folded : Bool) : Forward (qualifiedName folded) := by
  unfold qualifiedName
  infer_instance

variable {t r : List Char}

/-- The first occurrence of a character splits a text in one way. -/
lemma eq_of_first_occurrence {q : Char} {a b u v : List Char} (ha : q ∉ a) (hb : q ∉ b)
    (h : a ++ q :: u = b ++ q :: v) : a = b ∧ u = v := by
  have split {a : List Char} (ha : q ∉ a) (u : List Char) :
      (a ++ q :: u).takeWhile (· != q) = a ∧ (a ++ q :: u).dropWhile (· != q) = q :: u := by
    have other : ∀ c ∈ a, (c != q) = true := fun c hc => bne_iff_ne.2 fun eq => ha (eq ▸ hc)
    rw [List.takeWhile_append_of_pos other, List.dropWhile_append_of_pos other]
    simp
  obtain ⟨taken, left⟩ := split ha u
  obtain ⟨taken', left'⟩ := split hb v
  rw [h] at taken left
  exact ⟨taken.symm.trans taken', List.tail_eq_of_cons_eq (left.symm.trans left')⟩

/-- An identifier between marks is read to its closing mark. -/
lemma first?_enclosed {o q : Char} {body : List Char} (ne : body ≠ []) (hq : q ∉ body) :
    first? (enclosed o q) (o :: (body ++ q :: r)) = some (o :: (body ++ [q]), r) := by
  have inner : ∀ d ∈ body, (d != q) = true := fun d hd => bne_iff_ne.2 fun eq => hq (eq ▸ hd)
  have stop : ∀ d ∈ (q :: r).head?, (d != q) = false := by
    rintro d ⟨⟩
    exact bne_self_eq_false q
  exact first?_bind (first?_char o)
    (first?_bind (first?_run1 ne inner stop) (first?_bind (first?_char q) rfl))

/-- What is read between marks has no closing mark in it. -/
lemma of_mem_enclosed {o q : Char} {m : List Char × List Char} (h : m ∈ enclosed o q t) :
    ∃ body, body ≠ [] ∧ q ∉ body ∧ m.1 = o :: (body ++ [q]) ∧ t = o :: (body ++ q :: m.2) := by
  obtain ⟨⟨_, u⟩, ho, h⟩ := mem_bind.1 h
  obtain ⟨⟨body, v⟩, hb, h⟩ := mem_bind.1 h
  obtain ⟨⟨_, w⟩, hq, h⟩ := mem_bind.1 h
  cases mem_pure.1 h
  obtain ⟨rfl, rfl⟩ := mem_char.1 ho
  obtain ⟨rfl, ne, inner, -⟩ := of_mem_run1 hb
  obtain ⟨rfl, hv⟩ := mem_char.1 hq
  exact ⟨body, ne, fun hm => bne_iff_ne.1 (inner _ hm) rfl, rfl,
    congrArg (fun v => _ :: (body ++ v)) hv⟩

/-- An identifier stands between marks or is a word. -/
lemma mem_identifier {m : List Char × List Char} : m ∈ identifier false t ↔
    (∃ k ∈ identifierMarks, m ∈ enclosed k.1 k.2 t) ∨
      m ∈ (do
        let c ← Pattern.one (beginsIdentifier false)
        let cs ← Pattern.most continuesIdentifier
        pure (c :: cs) : Pattern (List Char)) t := by
  unfold identifier identifierMarks
  simp only [mem_anyOf, List.mem_cons, List.not_mem_nil, or_false, exists_eq_or_imp,
    exists_eq_left, or_assoc]

/-- What is read as a word is one. -/
lemma of_mem_word {m : List Char × List Char} (h : m ∈ (do
    let c ← Pattern.one (beginsIdentifier false)
    let cs ← Pattern.most continuesIdentifier
    pure (c :: cs) : Pattern (List Char)) t) :
    ∃ c cs, m.1 = c :: cs ∧ t = c :: (cs ++ m.2) ∧ beginsIdentifier false c = true ∧
      ∀ d ∈ cs, continuesIdentifier d = true := by
  obtain ⟨⟨c, u⟩, hc, h⟩ := mem_bind.1 h
  obtain ⟨⟨cs, v⟩, hcs, h⟩ := mem_bind.1 h
  cases mem_pure.1 h
  obtain ⟨rfl, begins⟩ := mem_one.1 hc
  obtain ⟨rfl, continues⟩ := of_mem_most hcs
  exact ⟨c, cs, rfl, rfl, begins, continues⟩

/-- The pattern of identifiers takes identifiers only. -/
lemma of_mem_identifier {m : List Char × List Char} (h : m ∈ identifier false t) :
    IsIdentifier m.1 ∧ t = m.1 ++ m.2 := by
  obtain ⟨k, hk, h⟩ | h := mem_identifier.1 h
  · obtain ⟨body, ne, hq, taken, rfl⟩ := of_mem_enclosed h
    rw [taken]
    exact ⟨.quoted hk ne hq, by simp⟩
  · obtain ⟨c, cs, taken, rfl, begins, continues⟩ := of_mem_word h
    rw [taken]
    exact ⟨.word begins continues, rfl⟩

/-- The whole of an identifier is preferred. -/
lemma first?_identifier (ht : IsIdentifier t) (hr : Closes t r) :
    first? (identifier false) (t ++ r) = some (t, r) := by
  have miss {o q c : Char} {s : List Char} (ne : c ≠ o) : enclosed o q (c :: s) = [] :=
    eq_nil_of_forall fun m hm => by
      obtain ⟨_, -, -, -, h⟩ := of_mem_enclosed hm
      exact ne (List.cons.inj h).1
  cases ht with
  | @quoted o q body hk ne hq =>
    have whole := first?_enclosed (o := o) (r := r) ne hq
    rw [List.cons_append, List.append_assoc, List.singleton_append]
    obtain ⟨rfl, rfl⟩ | ⟨rfl, rfl⟩ | ⟨rfl, rfl⟩ : o = backtick ∧ q = backtick ∨ o = '"' ∧ q = '"' ∨
      o = '[' ∧ q = ']' := by
      simpa [identifierMarks] using hk
    · exact first?_anyOf [] whole (List.forall_mem_nil _)
    · exact first?_anyOf [enclosed backtick backtick] whole (by
        simp [miss (show '"' ≠ backtick by decide)])
    · refine first?_anyOf [enclosed backtick backtick, enclosed '"' '"'] whole ?_
      simp [miss (show '[' ≠ backtick by decide), miss (show '[' ≠ '"' by decide)]
  | @word c s begins continues =>
    have word := continues_of_begins begins
    have stop := hr (by rintro _ ⟨⟩; exact begins)
    refine first?_anyOf [enclosed backtick backtick, enclosed '"' '"', enclosed '[' ']']
      (first?_bind (first?_one begins) (first?_bind (first?_most continues stop) rfl)) ?_
    simp [miss (ne_of_continues word (x := backtick) rfl),
      miss (ne_of_continues word (x := '"') rfl), miss (ne_of_continues word (x := '[') rfl)]

/-- Less than the whole of an identifier is taken of a word only, and then the word goes on. -/
lemma mem_identifier_whole (ht : IsIdentifier t) (hr : Closes t r) {m : List Char × List Char}
    (h : m ∈ identifier false (t ++ r)) :
    m = (t, r) ∨ ∃ c s, m.2 = c :: s ∧ continuesIdentifier c = true := by
  obtain ⟨taken, rest⟩ := m
  cases ht with
  | @quoted o q body hk ne hq =>
    rw [List.cons_append, List.append_assoc, List.singleton_append] at h
    obtain ⟨⟨o', q'⟩, hk', h⟩ | h := mem_identifier.1 h
    · obtain ⟨body', -, hq', rfl, eq⟩ := of_mem_enclosed h
      obtain ⟨rfl, eq⟩ := List.cons.inj eq
      cases mark_unique hk hk'
      obtain ⟨rfl, rfl⟩ := eq_of_first_occurrence hq hq' eq
      exact .inl rfl
    · obtain ⟨c, cs, -, eq, begins, -⟩ := of_mem_word h
      rw [(List.cons.inj eq).1] at hk
      exact absurd rfl (ne_of_continues (continues_of_begins begins) (mark_facts _ hk).1)
  | @word c s begins continues =>
    obtain ⟨⟨o, q⟩, hk, h⟩ | h := mem_identifier.1 h
    · obtain ⟨_, -, -, -, eq⟩ := of_mem_enclosed h
      exact absurd (List.cons.inj eq).1 (ne_of_continues (continues_of_begins begins)
        (mark_facts _ hk).1)
    · -- Two ways to cut one word: what is taken is shorter, or goes on into what may not
      -- continue the word.
      obtain ⟨c', cs, rfl, eq, -, continues'⟩ := of_mem_word h
      obtain ⟨rfl, eq⟩ := List.cons.inj eq
      obtain ⟨u, rfl, rfl⟩ | ⟨u, rfl, rfl⟩ := List.append_eq_append_iff.1 eq
      · cases u with
        | nil => exact .inl (by simp)
        | cons x u =>
          have stop := hr (by rintro _ ⟨⟩; exact begins) x rfl
          rw [continues' x (by simp)] at stop
          cases stop
      · cases u with
        | nil => exact .inl (by simp)
        | cons x u => exact .inr ⟨x, u ++ r, rfl, continues x (by simp)⟩

/-! ## Texts of identifiers -/

namespace IsIdentifier

variable (h : IsIdentifier t)
include h

/-- An identifier is not empty. -/
lemma ne_nil : t ≠ [] := by cases h <;> exact List.cons_ne_nil _ _

/-- An identifier begins with an opening mark or a letter. -/
lemma begins : ∃ c s, t = c :: s ∧
    ((∃ q, (c, q) ∈ identifierMarks) ∨ beginsIdentifier false c = true) := by
  cases h with
  | quoted hk _ _ => exact ⟨_, _, rfl, .inl ⟨_, hk⟩⟩
  | word begins _ => exact ⟨_, _, rfl, .inr begins⟩

/-- Where an identifier begins, one can be read that ends there. -/
lemma exists_closes (u : List Char) :
    ∃ t' u', t ++ u = t' ++ u' ∧ IsIdentifier t' ∧ Closes t' u' := by
  cases h with
  | @quoted o q body hk ne hq =>
    refine ⟨_, u, rfl, .quoted hk ne hq, fun begins => ?_⟩
    exact absurd rfl (ne_of_continues (continues_of_begins (begins o rfl)) (mark_facts _ hk).1)
  | @word c s begins continues =>
    have more : ∀ d ∈ u.takeWhile continuesIdentifier, continuesIdentifier d = true := fun d hd =>
      List.all_eq_true.1 List.all_takeWhile d hd
    refine ⟨c :: (s ++ u.takeWhile continuesIdentifier), u.dropWhile continuesIdentifier, by simp,
      .word begins (List.forall_mem_append.2 ⟨continues, more⟩), fun _ d hd => ?_⟩
    have stops := List.head?_dropWhile_not continuesIdentifier u
    rw [hd] at stops
    simpa using stops

/-- An identifier begins with none of the characters that are neither marks nor letters. -/
lemma head_ne {x c : Char} (hc : c ∈ t.head?) (marks : ∀ m ∈ identifierMarks, m.1 ≠ x)
    (letters : beginsIdentifier false x = false) : c ≠ x := by
  obtain ⟨d, s, rfl, begins⟩ := h.begins
  cases hc
  obtain ⟨q, hk⟩ | begins := begins
  · exact marks _ hk
  · rintro rfl
    rw [begins] at letters
    cases letters

/-- An identifier is balanced. -/
lemma balanced : Balanced t := by
  cases h with
  | quoted hk _ hq => exact .quoted (closingQuote?_of_mark _ hk) hq .nil
  | word begins continues =>
    exact balanced_of_plain (List.forall_mem_cons.2
      ⟨isPlain_of_continues (continues_of_begins begins), fun d hd =>
        isPlain_of_continues (continues d hd)⟩)

/-- An identifier has no blanks around it. -/
lemma trim_eq : trim t = t := by
  cases h with
  | @quoted o q body hk _ _ =>
    obtain ⟨-, first, last⟩ := mark_facts _ hk
    rw [trim_eq_self_iff, ← List.cons_append, List.getLast?_concat]
    refine ⟨?_, ?_⟩ <;> rintro _ ⟨⟩
    · exact first
    · exact last
  | word begins continues =>
    exact trim_of_not_isBlank (List.forall_mem_cons.2
      ⟨not_isBlank_of_continues (continues_of_begins begins), fun d hd =>
        not_isBlank_of_continues (continues d hd)⟩)

end IsIdentifier

/-! ## Names that identifiers stand for -/

/-- An identifier takes at least one character. -/
lemma strict_identifier : (identifier false).Strict := by
  intro s m h
  obtain ⟨taken, rfl⟩ := of_mem_identifier h
  have some := List.length_pos_of_ne_nil taken.ne_nil
  rw [List.length_append]
  omega

/-- The name of an identifier is the identifier without its marks. -/
lemma unquote_eq (h : IsIdentifier t) : unquote t = dropQuotes t := by
  have found : values (identifier false) t = [t] := by
    have whole := values_hit strict_identifier (first?_identifier h (r := []) fun _ => nofun)
    rwa [List.append_nil, values_nil strict_identifier] at whole
  have last : ((findAll (identifier false) .anywhere t).getLast?).map (·.value) = some t := by
    rw [← List.getLast?_map, ← values, found]
    exact List.getLast?_singleton
  rw [unquote, h.trim_eq]
  cases hl : (findAll (identifier false) .anywhere t).getLast? with
  | none => rfl
  | some f =>
    rw [hl] at last
    exact congrArg dropQuotes (Option.some.inj last)

/-- The name of a word is the word. -/
lemma unquote_word {c : Char} {s : List Char} (begins : beginsIdentifier false c = true)
    (continues : ∀ d ∈ s, continuesIdentifier d = true) : unquote (c :: s) = c :: s := by
  have other (x : Char) (hx : continuesIdentifier x = false) : (c == x) = false :=
    beq_eq_false_iff_ne.2 (ne_of_continues (continues_of_begins begins) hx)
  rw [unquote_eq (.word begins continues), dropQuotes]
  split
  · rename_i a b ha _
    cases ha
    rw [other _ rfl, other _ rfl, other _ rfl]
    simp
  · rfl

end Rulebook.Sql
