import Rulebook.Proofs.Sql.Scan
import Rulebook.Proofs.Text.Blank
import Rulebook.Sql.File

/-!
# Where the parts of a file stand

A file is cut into statements, and statements into items. A piece stands in its text where its
offset says, from one separator to the next (`splitTopLevel_slice`); a statement stands in the file
where its blanks end (`exists_statement`).
-/

namespace Rulebook.Sql
open Text

variable {isSep : Char → Bool} {s : List Char}

/-! ## Pieces -/

/-- A text without a separator is one piece. -/
lemma cut_single {z : List (Char × Char)} (h : ∀ d ∈ z, isSep d.2 = false) (pos : Nat) :
    cut isSep pos z = [⟨z.map Prod.fst, pos⟩] := by
  induction z generalizing pos with
  | nil => rfl
  | cons d z ih =>
    obtain ⟨c, m⟩ := d
    rw [List.forall_mem_cons] at h
    rw [cut, if_neg (by simp [h.1]), ih h.2, List.map_cons]

/-- Pieces hold no separator, and begin and end at separators. -/
lemma cut_slice {z : List (Char × Char)} {pos : Nat} {p : Piece} (h : p ∈ cut isSep pos z) :
    ∃ before part after, z = before ++ (part ++ after) ∧
    p = ⟨part.map Prod.fst, pos + before.length⟩ ∧
      (∀ d ∈ part, isSep d.2 = false) ∧ (∀ d ∈ before.getLast?, isSep d.2 = true) ∧
      ∀ d ∈ after.head?, isSep d.2 = true := by
  -- The induction goes from one separator to the next, not from one character to the next.
  induction hn : z.length using Nat.strong_induction_on generalizing z pos with
  | _ n ih =>
    obtain ⟨first, rest, rfl, plain, stops⟩ : ∃ first rest, z = first ++ rest ∧
      (∀ d ∈ first, isSep d.2 = false) ∧
        ∀ d ∈ rest.head?, isSep d.2 = true := by
      refine ⟨z.takeWhile fun d => !isSep d.2, z.dropWhile fun d => !isSep d.2,
        List.takeWhile_append_dropWhile.symm, fun d hd => ?_, fun d hd => ?_⟩
      · simpa using List.all_eq_true.1 List.all_takeWhile d hd
      · have stop := List.head?_dropWhile_not (fun d : Char × Char => !isSep d.2) z
        rw [Option.mem_def.1 hd] at stop
        simpa using stop
    cases rest with
    | nil =>
      rw [List.append_nil, cut_single plain] at h
      cases List.mem_singleton.1 h
      exact ⟨[], first, [], rfl, rfl, plain, nofun, nofun⟩
    | cons d rest =>
      obtain ⟨c, m⟩ := d
      have sep : isSep m = true := stops (c, m) rfl
      rw [cut_append sep, cut_single plain, List.singleton_append] at h
      obtain rfl | h := List.mem_cons.1 h
      · exact ⟨[], first, (c, m) :: rest, rfl, rfl, plain, nofun, stops⟩
      · have shorter : rest.length < n := by
          rw [← hn, List.length_append, List.length_cons]
          omega
        obtain ⟨before, part, after, rfl, rfl, inside, opens, closes⟩ := ih _ shorter h rfl
        refine ⟨first ++ (c, m) :: before, part, after, ?_, ?_, inside, ?_, closes⟩
        · rw [List.append_assoc, List.cons_append]
        · rw [List.length_append, List.length_cons, Nat.add_assoc, Nat.add_assoc, Nat.add_comm 1]
        · intro e he
          rw [List.getLast?_append_cons, List.getLast?_cons, Option.mem_some_iff] at he
          subst he
          cases hb : before.getLast? with
          | none => exact sep
          | some e => exact opens e hb

/-- The mask shows a character or a blank. -/
lemma mem_zip_maskFrom {depth : Int} {quote : Option Char} {d : Char × Char}
    (h : d ∈ s.zip (maskFrom depth quote s)) :
    d.2 = d.1 ∨ d.2 = ' ' := by
  have shown (k : Int) (c : Char) : shownAt k c = c ∨ shownAt k c = ' ' := by
    rw [shownAt]
    split
    · exact .inr rfl
    · exact .inl rfl
  fun_induction maskFrom depth quote s with
  | case1 => cases h
  | _ => grind

/-- Between two separators at the top level of a text stands one of its pieces. -/
lemma splitTopLevel_slice (blank : isSep ' ' = false) {p : Piece} (h : p ∈ splitTopLevel isSep s) :
    ∃ before after, s = before ++ (p.text ++ after) ∧ before.length = p.offset ∧
      (∀ c ∈ before.getLast?, isSep c = true) ∧ ∀ c ∈ after.head?, isSep c = true := by
  obtain ⟨before, part, after, hz, rfl, -, opens, closes⟩ := cut_slice h
  have whole : (s.zip (mask s)).map Prod.fst = s := List.map_fst_zip (length_mask s).ge
  -- What the mask shows as a separator is one.
  have shown : ∀ d ∈ s.zip (mask s), isSep d.2 = true → isSep d.1 = true := by
    intro d hd sep
    obtain same | hidden := mem_zip_maskFrom hd
    · rwa [same] at sep
    · rw [hidden, blank] at sep
      cases sep
  rw [hz, List.map_append, List.map_append] at whole
  rw [hz] at shown
  refine ⟨before.map Prod.fst, after.map Prod.fst, whole.symm, by simp, ?_, ?_⟩
  · intro c hc
    rw [List.getLast?_map] at hc
    obtain ⟨d, hd, rfl⟩ := Option.map_eq_some_iff.1 hc
    exact shown d (List.mem_append_left _ (List.mem_of_getLast? hd)) (opens d hd)
  · intro c hc
    rw [List.head?_map] at hc
    obtain ⟨d, hd, rfl⟩ := Option.map_eq_some_iff.1 hc
    exact shown d (List.mem_append_right _ (List.mem_append_right _ (List.mem_of_mem_head? hd)))
      (closes d hd)

/-- A statement stands in its file where the blanks before it end. -/
lemma exists_statement {text : List Char} {p : Piece}
    (h : p ∈ splitTopLevel (· == ';') (blankComments text)) :
    ∃ before after, blankComments text = before ++ (trim p.text ++ after) ∧
      before.length = p.offset + (p.text.length - (trimStart p.text).length) := by
  obtain ⟨before, after, whole, offset, -⟩ := splitTopLevel_slice rfl h
  obtain ⟨pre, post, piece, length, -⟩ := exists_trim p.text
  refine ⟨before ++ pre, post ++ after, ?_, ?_⟩
  · rw [whole]
    conv => lhs; rw [piece]
    simp only [List.append_assoc]
  · rw [List.length_append, offset, length]

/-! ## Parentheses -/

/-- What closes a parenthesis is one. -/
lemma closingParenFrom_some {pos k : Nat} {depth : Int} {quote : Option Char}
    (h : closingParenFrom pos depth quote s = some k) :
    ∃ before after, s = before ++ ')' :: after ∧ k = pos + before.length := by
  have further {pos : Nat} {c : Char} {rest : List Char}
      (ih : ∃ before after, rest = before ++ ')' :: after ∧ k = pos + 1 + before.length) :
      ∃ before after, c :: rest = before ++ ')' :: after ∧ k = pos + before.length := by
    obtain ⟨before, after, rfl, rfl⟩ := ih
    exact ⟨c :: before, after, rfl, by rw [List.length_cons]; omega⟩
  fun_induction closingParenFrom pos depth quote s with
  | case1 => cases h
  | case5 pos depth rest closes =>
    cases h
    exact ⟨[], rest, rfl, rfl⟩
  | case2 _ _ _ _ _ ih | case3 _ _ _ _ _ ih | case4 _ _ _ _ ih | case6 _ _ _ _ _ _ ih
      | case7 _ _ _ _ _ _ _ ih =>
    exact further (ih h)

end Rulebook.Sql
