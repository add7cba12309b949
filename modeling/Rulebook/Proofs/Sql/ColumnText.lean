import Rulebook.Proofs.Sql.Identifier
import Rulebook.Proofs.Sql.Literal
import Rulebook.Sql.Table

/-!
# Columns with a literal

Of a column with a literal after its type (`TypeEnds`), the name and the type are known before the
literal, and so is that it is no constraint (`isConstraint_quote`). What is left to read are the
attributes: they are found before the literal, in it or after it, so that literals with the same
attributes in them make the same column (`readColumn_withLiteral`).
-/

namespace Rulebook.Sql
open Text Pattern

/-! ## Names -/

/-- The name of a column ends before a quote, whatever comes later. -/
lemma first?_identifier_quote {s named rest : List Char}
    (h : (identifier false).first? s = some (named, rest))
    (t : List Char) :
    (identifier false).first? (s ++ '\'' :: t) = some (named, rest ++ '\'' :: t) := by
  obtain ⟨taken, whole⟩ := of_mem_identifier (mem_of_first? h)
  dsimp only at whole
  obtain ⟨named', rest', same, taken', closes⟩ := taken.exists_closes rest
  rw [whole, same, first?_identifier taken' closes] at h
  cases h
  rw [whole, List.append_assoc]
  refine first?_identifier taken fun begins c hc => ?_
  cases rest with
  | nil =>
    cases hc
    rfl
  | cons d rest => exact closes begins c hc

/-! ## Constraints -/

/-- No type has a quote in its name. -/
lemma lookup_quote {k : String} (h : '\'' ∈ k.toList) : nativeTypes.lookup k = none := by
  have plain : ∀ e ∈ nativeTypes, '\'' ∉ e.1.toList := by decide +kernel
  rw [List.lookup_eq_none_iff]
  intro e he
  rw [bne_iff_ne]
  rintro rfl
  exact plain e he h

/-- A quote stays a quote in capitals. -/
lemma quote_mem_capitals {w : List Char} (h : '\'' ∈ w) : '\'' ∈ (capitals w).toList := by
  rw [capitals, String.toList_ofList, upper, List.mem_flatMap]
  exact ⟨'\'', h, by decide⟩

/-- Whether an item is a constraint is known at a quote. -/
lemma isConstraint_quote {s : List Char} (h : isConstraint (s ++ ['\'']) = false) (t : List Char) :
    isConstraint (s ++ '\'' :: t) = false := by
  obtain ⟨ws, w, short, long⟩ := exists_words (show isBlank '\'' = false from rfl) s
  obtain ⟨w', more, long⟩ := long t
  have head (r : List Char) : (s ++ '\'' :: r).takeWhile isWord = s.takeWhile isWord :=
    takeWhile_append_stop rfl s r
  rw [isConstraint, head] at h ⊢
  rw [Bool.and_eq_false_iff] at h ⊢
  refine h.imp id fun column => ?_
  rw [Bool.not_eq_false'] at column ⊢
  rw [looksLikeColumn, short] at column
  rw [looksLikeColumn, long]
  match ws with
  | [] => cases column
  | [first] =>
    rw [List.singleton_append] at column ⊢
    dsimp only at column ⊢
    rw [Bool.and_eq_true] at column ⊢
    refine ⟨column.1, ?_⟩
    obtain ⟨-, native⟩ := column
    rw [List.takeWhile_append] at native ⊢
    split at native
    · -- A word that goes on with a quote is no native type.
      rw [lookup_quote (quote_mem_capitals (List.mem_append_right _ (by decide)))] at native
      cases native
    · rename_i stops
      rw [if_neg stops]
      exact native
  | first :: second :: ws => exact column

/-! ## Types -/

/-- A character of a word in the type of a column. -/
def isTypeChar (c : Char) : Bool := !isBlank c && c != '('

/-- The type of a column has ended in a text: at a word that ends it, or after its arguments. -/
inductive TypeEnds : List Char → Prop
  | stop {w c s} : w ≠ [] → (∀ d ∈ w, isTypeChar d = true) → isTypeChar c = false →
      endsType (capitals w) = true → TypeEnds (w ++ c :: s)
  | arguments {inner s} : ')' ∉ inner → TypeEnds ('(' :: (inner ++ ')' :: s))
  | blank {c s} : isBlank c = true → TypeEnds s → TypeEnds (c :: s)
  | word {w c s} : w ≠ [] → (∀ d ∈ w, isTypeChar d = true) → isTypeChar c = false →
      TypeEnds (c :: s) → TypeEnds (w ++ c :: s)

instance : Forward inParens := by
  unfold inParens
  infer_instance

instance : Forward typeToken := by
  unfold typeToken
  infer_instance

/-- What is read in parentheses goes up to the first closing one. -/
lemma of_mem_inParens {s : List Char} {m : List Char × List Char} (h : m ∈ inParens s) :
    ')' ∉ m.1 ∧ s = '(' :: (m.1 ++ ')' :: m.2) := by
  obtain ⟨⟨_, t⟩, ho, h⟩ := mem_bind.1 h
  obtain ⟨⟨inner, u⟩, hi, h⟩ := mem_bind.1 h
  obtain ⟨⟨_, v⟩, hc, h⟩ := mem_bind.1 h
  cases mem_pure.1 h
  obtain ⟨rfl, rfl⟩ := mem_char.1 ho
  obtain ⟨rfl, all, -⟩ := of_mem_run hi
  obtain ⟨-, hu⟩ := mem_char.1 hc
  exact ⟨fun hm => bne_iff_ne.1 (all _ hm) rfl, congrArg (fun u => '(' :: (inner ++ u)) hu⟩

/-- A text without a closing parenthesis is read in parentheses. -/
lemma first?_inParens {inner : List Char} (h : ')' ∉ inner) (s : List Char) :
    inParens.first? ('(' :: (inner ++ ')' :: s)) = some (inner, s) := by
  have all : ∀ c ∈ inner, (c != ')') = true := fun c hc => bne_iff_ne.2 fun same => h (same ▸ hc)
  have stop : ∀ c ∈ (')' :: s).head?, (c != ')') = false := by
    rintro c ⟨⟩
    rfl
  exact first?_bind (first?_char '(')
    (first?_bind (first?_run all stop) (first?_bind (first?_char ')') rfl))

/-- A token of a type takes at least one character. -/
lemma strict_typeToken : typeToken.Strict := by
  intro s m hm
  obtain hm | hm := List.mem_append.1 hm
  · obtain ⟨n, hn, hm⟩ := mem_bind.1 hm
    cases mem_pure.1 hm
    obtain ⟨-, rfl⟩ := of_mem_inParens hn
    simp only [List.length_cons, List.length_append]
    omega
  · obtain ⟨n, hn, hm⟩ := mem_bind.1 hm
    cases mem_pure.1 hm
    obtain ⟨rfl, ne, -⟩ := of_mem_run1 hn
    have some := List.length_pos_of_ne_nil ne
    simp only [List.length_append]
    omega

/-- What does not begin with a parenthesis is not in parentheses. -/
lemma inParens_other {c : Char} (h : c ≠ '(') (s : List Char) : inParens (c :: s) = [] :=
  bind_eq_nil (char_eq_nil h s)

/-- No token begins with a blank. -/
lemma values_blank {c : Char} (h : isBlank c = true) (s : List Char) :
    values typeToken (c :: s) = values typeToken s := by
  have other : c ≠ '(' := by
    rintro rfl
    cases h
  have plain : run1 (fun c => !isBlank c && c != '(') (c :: s) = [] :=
    bind_eq_nil (by rw [one, if_neg (by simp [h])])
  refine values_miss strict_typeToken ?_
  show (TypeToken.arguments <$> inParens) (c :: s) ++ (TypeToken.word <$> run1 _) (c :: s) = []
  rw [List.append_eq_nil_iff]
  exact ⟨bind_eq_nil (inParens_other other s), bind_eq_nil plain⟩

/-- A word of a type that something else follows is one token. -/
lemma values_word {w : List Char} (ne : w ≠ []) (hw : ∀ d ∈ w, isTypeChar d = true) {c : Char}
    (hc : isTypeChar c = false) (s : List Char) :
    values typeToken (w ++ c :: s) = .word w :: values typeToken (c :: s) := by
  have stop : ∀ d ∈ (c :: s).head?, isTypeChar d = false := by
    rintro d ⟨⟩
    exact hc
  refine values_hit strict_typeToken ?_
  rw [typeToken, first?_either_right]
  · exact first?_bind (first?_run1 ne hw stop) rfl
  · obtain ⟨d, w, rfl⟩ := List.exists_cons_of_ne_nil ne
    rw [List.forall_mem_cons, isTypeChar, Bool.and_eq_true, bne_iff_ne] at hw
    exact bind_eq_nil (inParens_other hw.1.2 _)

/-- The arguments of a type are one token. -/
lemma values_arguments {inner : List Char} (h : ')' ∉ inner) (s : List Char) :
    values typeToken ('(' :: (inner ++ ')' :: s)) = .arguments inner :: values typeToken s :=
  values_hit strict_typeToken (first?_either (first?_bind (first?_inParens h s) rfl))

/-- Behind its arguments, a type has no more words. -/
lemma readType_arguments (words : List String) (inner : List Char) (tokens : List TypeToken) :
    readType words (some inner) tokens = (words, some inner) := by
  cases tokens with
  | nil => rfl
  | cons token tokens => cases token <;> simp [readType]

/-- Where the type has ended, it does not matter what follows. -/
lemma TypeEnds.readType_eq {rest : List Char} (h : TypeEnds rest) (words : List String) :
    ∃ type, ∀ t, readType words none (values typeToken (rest ++ t)) = type := by
  induction h generalizing words with
  | @stop w c s ne hw hc ends =>
    refine ⟨(words, none), fun t => ?_⟩
    rw [List.append_assoc, List.cons_append, values_word ne hw hc, readType, ends,
      Bool.true_or, if_pos rfl]
  | @arguments inner s hi =>
    by_cases untyped : words.isEmpty = true
    · refine ⟨(words, none), fun t => ?_⟩
      rw [List.cons_append, List.append_assoc, List.cons_append, values_arguments hi,
        readType, untyped]
      rfl
    · refine ⟨(words, some inner), fun t => ?_⟩
      rw [List.cons_append, List.append_assoc, List.cons_append, values_arguments hi, readType,
        if_pos (by simp [untyped]), readType_arguments]
  | @blank c s hc _ ih =>
    obtain ⟨type, eq⟩ := ih words
    exact ⟨type, fun t => by rw [List.cons_append, values_blank hc, eq]⟩
  | @word w c s ne hw hc _ ih =>
    by_cases ends : endsType (capitals w) = true
    · refine ⟨(words, none), fun t => ?_⟩
      rw [List.append_assoc, List.cons_append, values_word ne hw hc, readType, ends,
        Bool.true_or, if_pos rfl]
    · obtain ⟨type, eq⟩ := ih (words ++ [capitals w])
      refine ⟨type, fun t => ?_⟩
      rw [List.append_assoc, List.cons_append, values_word ne hw hc, readType,
        if_neg (by simp [ends]), ← List.cons_append, eq]

/-! ## Attributes -/

/-- `NOT NULL` does not look past a quote. -/
lemma until_notNull : notNull.Until '\'' := by
  unfold notNull
  refine .bind (.keyword (by decide)) fun _ => .bind (.run1 rfl) fun _ => ?_
  exact .bind (.keyword (by decide)) fun _ => .wordEnd rfl

/-- `NOT NULL` takes at least one character. -/
lemma strict_notNull : notNull.Strict := by
  unfold notNull
  exact strict_keyword.bind

/-- `PRIMARY KEY` as a whole. -/
abbrev keyWords : Pattern Unit := primaryKey *> Pattern.wordEnd

/-- `PRIMARY KEY` does not look past a quote. -/
lemma until_keyWords : keyWords.Until '\'' := by
  have until_ : primaryKey.Until '\'' := by
    unfold primaryKey
    exact .bind (.keyword (by decide)) fun _ => .bind (.run1 rfl) fun _ => .keyword (by decide)
  exact until_.bind fun _ => .wordEnd rfl

/-- `PRIMARY KEY` takes at least one character. -/
lemma strict_keyWords : keyWords.Strict := by
  have strict : primaryKey.Strict := by
    unfold primaryKey
    exact strict_keyword.bind
  exact strict.bind (f := fun _ => Pattern.wordEnd)

/-- Two literals of one length are alike to what is read of a column: `PRIMARY KEY` and `NOT NULL`
stand in both of them or in none. -/
structure Alike (u u' : List Char) : Prop where
  length : u.length = u'.length
  closed : '\'' ∉ u
  closed' : '\'' ∉ u'
  key : (search? keyWords .wordStart u).isSome = (search? keyWords .wordStart u').isSome
  notNull : (search? notNull .wordStart u).isSome = (search? notNull .wordStart u').isSome

variable {u u' : List Char}

/-- A column is the same with a literal alike to that after its type. -/
lemma readColumn_withLiteral (alike : Alike u u') {a named rest : List Char}
    (name : (identifier false).first? a = some (named, rest)) (type : TypeEnds rest) (b : List Char)
    (setting : Setting) (table : String) (offset : Nat) :
    readColumn setting table (withLiteral a b u) offset =
    readColumn setting table (withLiteral a b u') offset := by
  obtain ⟨words, typed⟩ := type.readType_eq []
  have typed (t : List Char) :
      readType [] none ((findAll typeToken .anywhere (rest ++ t)).map (·.value)) = words := typed t
  have through {p : Pattern Unit} (hp : p.Until '\'') (strict : p.Strict) (v : List Char) :
      (search? p .wordStart (rest ++ '\'' :: (v ++ '\'' :: b))).isSome =
      ((search? p .wordStart rest).isSome ||
        ((search? p .wordStart v).isSome || (search? p .wordStart b).isSome)) := by
    rw [isSome_search?_append hp strict rfl, isSome_search?_append hp strict rfl]
  unfold readColumn withLiteral
  rw [first?_identifier_quote name, first?_identifier_quote name]
  dsimp only
  rw [typed, typed]
  simp only [through until_keyWords strict_keyWords, through until_notNull strict_notNull,
    alike.key, alike.notNull]

end Rulebook.Sql
