import Mathlib.Algebra.Group.Nat.Defs
import Mathlib.Data.List.Induction
import Rulebook.Proofs.Number.Numeral

/-!
# Numerals of literals

What the shape of a numeral promises is what it is read as: digits of any script denote the integer
that they make, unless there are too many of them (`readInteger_of_isIntegerShape`), and digits
around a point the double nearest to the number that they make, shifted by the places behind the
point (`Double.read_of_isFloatShape`). The numeral of an integer (`numeral_spec`) is how the integer
is shown (`toList_toString`).
-/

namespace Rulebook
open Text

namespace Number

/-! ## Integers -/

/-- Digits stand behind the sign of an integer. -/
lemma digits_of_isIntegerShape {s : List Char} (h : Literal.isIntegerShape s = true) :
    (takeSign s).2 ≠ [] ∧ ∀ c ∈ (takeSign s).2, isDecimalDigit c = true := by
  simpa [Literal.isIntegerShape] using h

/-- A numeral is its sign and what stands behind it. -/
lemma forall_takeSign {P : Char → Prop} (minus : P '-') (plus : P '+') {s : List Char}
    (h : ∀ c ∈ (takeSign s).2, P c) : ∀ c ∈ s, P c := by
  obtain ⟨-, hs⟩ | ⟨-, hs | hs⟩ := takeSign_eq s
  · rw [hs, List.forall_mem_cons]
    exact ⟨minus, h⟩
  · rw [hs, List.forall_mem_cons]
    exact ⟨plus, h⟩
  · rwa [hs]

/-- A numeral without blanks has none to lose. -/
lemma trimNumeral_of_not_isBlank {s : List Char} (h : ∀ c ∈ s, isBlank c = false) :
    trimNumeral s = s := by
  have keep : ∀ t : List Char, (∀ c ∈ t, isBlank c = false) → t.dropWhile isNumeralBlank = t := by
    intro t ht
    cases t with
    | nil => rfl
    | cons c t => rw [List.dropWhile_cons_of_neg (by simp [isNumeralBlank, ht c (.head _)])]
  have back : ∀ c ∈ s.reverse, isBlank c = false := fun c hc => h c (List.mem_reverse.1 hc)
  rw [trimNumeral, keep s h, keep _ back, List.reverse_reverse]

/-- A text of digits is read to its end. -/
lemma digitRow_digits {ds : List Char} (h : ∀ c ∈ ds, isDecimalDigit c = true) :
    digitRow ds = (digitsOf ds, []) := by
  fun_induction digitRow ds with
  | case1 => rfl
  | case2 c rest none => exact absurd (h '_' (by simp)) (by decide)
  | case3 c rest d hd other => exact absurd (h '_' (by simp)) (by decide)
  | case4 c rest d hd ds r => exact absurd (h '_' (by simp)) (by decide)
  | case5 c rest low none =>
    obtain ⟨d, hd⟩ := exists_digitValue (h c (.head _))
    cases none.symm.trans hd
  | case6 c rest low d hd ds r eq ih =>
    have more := ih fun c hc => h c (.tail _ hc)
    rw [eq] at more
    cases more
    simp [digitsOf, hd]

/-- No blank stands in an integer. -/
lemma not_isBlank_of_isIntegerShape {s : List Char} (h : Literal.isIntegerShape s = true) :
    ∀ c ∈ s, isBlank c = false :=
  forall_takeSign (P := fun c => isBlank c = false) rfl rfl fun c hc =>
    not_isBlank_of_digit ((digits_of_isIntegerShape h).2 c hc)

/-- An integer of the right shape denotes the number that its digits make, unless there
are too many of them. -/
theorem readInteger_of_isIntegerShape {s : List Char} (h : Literal.isIntegerShape s = true) :
    readInteger s =
      if maxDigits < (digitsOf s).length then .error (.tooManyDigits (digitsOf s).length)
      else .ok (signed (takeSign s).1 (digitsValue (digitsOf s))) := by
  obtain ⟨ne, digits⟩ := digits_of_isIntegerShape h
  have same : digitsOf s = digitsOf (takeSign s).2 := (Decimal.digitsOf_takeSign s).1
  rw [readInteger, trimNumeral_of_not_isBlank (not_isBlank_of_isIntegerShape h), same]
  generalize takeSign s = parts at ne digits
  obtain ⟨negative, body⟩ := parts
  dsimp only at ne digits ⊢
  rw [digitRow_digits digits]
  cases hd : digitsOf body with
  | nil =>
    have length := congrArg List.length (digitsOf_digits digits)
    rw [hd, List.length_map, List.length_map] at length
    exact absurd (List.length_eq_zero_iff.1 length.symm) ne
  | cons d ds => simp

/-- The character of a digit has its value. -/
lemma digitValue?_digitChar : ∀ d < 10, digitValue? (digitChar d) = some d := by decide

/-- One more digit multiplies by ten and adds the digit. -/
lemma digitsValue_append (ds : List Nat) (d : Nat) :
    digitsValue (ds ++ [d]) = digitsValue ds * 10 + d := by
  rw [digitsValue, List.foldl_append]
  rfl

/-- The decimal digits of a number are digits that make it. -/
lemma digitsOf_decimalDigits (n : Nat) :
    decimalDigits n ≠ [] ∧ (∀ c ∈ decimalDigits n, isDecimalDigit c = true) ∧
      digitsValue (digitsOf (decimalDigits n)) = n := by
  have digit {d : Nat} (hd : d < 10) : isDecimalDigit (digitChar d) = true := by
    rw [isDecimalDigit, digitValue?_digitChar d hd]
    rfl
  -- Digits are put before those that are there already, so the tail varies in the induction.
  have go : ∀ (fuel n : Nat) (tail : List Char), n ≤ fuel →
      ∃ ds, decimalDigits.go fuel n tail = ds ++ tail ∧
      ds ≠ [] ∧ (∀ c ∈ ds, isDecimalDigit c = true) ∧ digitsValue (digitsOf ds) = n := by
    intro fuel
    induction fuel with
    | zero =>
      intro n tail hn
      obtain rfl := Nat.le_zero.1 hn
      exact ⟨[digitChar 0], rfl, by simp, by simpa using digit (by decide), by decide⟩
    | succ fuel ih =>
      intro n tail hn
      rw [decimalDigits.go]
      split
      · rename_i small
        refine ⟨[digitChar n], rfl, by simp, by simpa using digit small, ?_⟩
        simp [digitsOf, digitValue?_digitChar n small, digitsValue]
      · -- The last digit stands before the tail; the others are those of a tenth.
        obtain ⟨ds, eq, ne, digits, value⟩ := ih (n / 10) (digitChar n :: tail) (by omega)
        have last : digitChar n = digitChar (n % 10) := by simp [digitChar]
        refine ⟨ds ++ [digitChar n], by simp [eq], by simp, ?_, ?_⟩
        · rw [last, List.forall_mem_append]
          exact ⟨digits, by simpa using digit (Nat.mod_lt _ (by decide))⟩
        · have values : digitsOf (ds ++ [digitChar n]) = digitsOf ds ++ [n % 10] := by
            simp [digitsOf, last, digitValue?_digitChar (n % 10) (Nat.mod_lt _ (by decide))]
          rw [values, digitsValue_append, value]
          omega
  obtain ⟨ds, eq, ne, digits, value⟩ := go n n [] (Nat.le_refl n)
  rw [decimalDigits, eq, List.append_nil]
  exact ⟨ne, digits, value⟩

/-- The numeral of an integer. -/
def numeral (n : Int) : List Char := (if n < 0 then ['-'] else []) ++ decimalDigits n.natAbs

/-- The numeral of an integer has the shape of one and denotes it. -/
lemma numeral_spec (n : Int) : Literal.isIntegerShape (numeral n) = true ∧
    signed (takeSign (numeral n)).1 (digitsValue (digitsOf (numeral n))) = n := by
  obtain ⟨ne, digits, value⟩ := digitsOf_decimalDigits n.natAbs
  have sign : takeSign (numeral n) = (decide (n < 0), decimalDigits n.natAbs) := by
    unfold numeral
    split
    · simp [takeSign, *]
    · rw [List.nil_append]
      cases hd : decimalDigits n.natAbs with
      | nil => exact absurd hd ne
      | cons c cs =>
        have hc := digits c (hd ▸ List.mem_cons_self ..)
        unfold takeSign
        split
        · rename_i h; cases h; cases hc
        · rename_i h; cases h; cases hc
        · simp [*]
  refine ⟨?_, ?_⟩
  · simpa [Literal.isIntegerShape, sign, ne] using digits
  · rw [(Decimal.digitsOf_takeSign _).1, sign, value, signed]
    dsimp only
    split <;> rename_i h <;> simp at h <;> omega

/-- The digits of a number are those of the library. -/
lemma decimalDigits_eq (n : Nat) : decimalDigits n = Nat.toDigits 10 n := by
  have digit : ∀ d < 10, digitChar d = d.digitChar := by decide
  have go : ∀ (fuel n : Nat) (tail : List Char), n ≤ fuel →
      decimalDigits.go fuel n tail = Nat.toDigits 10 n ++ tail := by
    intro fuel
    induction fuel with
    | zero =>
      intro n tail hn
      obtain rfl := Nat.le_zero.1 hn
      rfl
    | succ fuel ih =>
      intro n tail hn
      rw [decimalDigits.go]
      split
      · rename_i small
        rw [Nat.toDigits_of_lt_base small, digit n small]
        rfl
      · rename_i large
        have last : digitChar n = (n % 10).digitChar := by
          rw [← digit (n % 10) (Nat.mod_lt _ (by decide))]
          simp [digitChar]
        rw [ih _ _ (by omega), last, Nat.toDigits_of_base_le (by decide) (Nat.le_of_not_lt large)]
        simp
  rw [decimalDigits, go n n [] (Nat.le_refl n), List.append_nil]

/-- An integer is shown as its numeral. -/
lemma toList_toString (n : Int) : (toString n).toList = numeral n := by
  unfold numeral
  rw [decimalDigits_eq]
  cases n with
  | ofNat n =>
    rw [if_neg (by simp)]
    exact Nat.toList_repr
  | negSucc n =>
    rw [if_pos (Int.negSucc_lt_zero n)]
    show ("-" ++ (n + 1).repr).toList = _
    rw [String.toList_append, Nat.toList_repr]
    rfl

/-- A row of digits is below the power of ten of its length. -/
lemma digitsValue_lt {ds : List Nat} (h : ∀ d ∈ ds, d < 10) : digitsValue ds < 10 ^ ds.length := by
  induction ds using List.reverseRecOn with
  | nil => decide
  | append_singleton ds d ih =>
    rw [List.forall_mem_append, List.forall_mem_singleton] at h
    have := ih h.1
    rw [digitsValue_append, List.length_append, List.length_singleton, Nat.pow_succ]
    omega

/-- The digits of a row are below ten. -/
lemma digitRow_lt (s : List Char) : ∀ d ∈ (digitRow s).1, d < 10 := by
  fun_induction digitRow s with
  | case1 => nofun
  | case2 => nofun
  | case3 c rest d hd => simpa using (digitValue?_some hd).1
  | case4 c rest d hd ds r ne eq ih =>
    rw [eq] at ih
    exact List.forall_mem_cons.2 ⟨(digitValue?_some hd).1, ih⟩
  | case5 => nofun
  | case6 c rest low d hd ds r eq ih =>
    rw [eq] at ih
    exact List.forall_mem_cons.2 ⟨(digitValue?_some hd).1, ih⟩

/-- What is read as an integer is in the range of the numerals that are read. -/
lemma natAbs_lt_of_readInteger {s : List Char} {n : Int} (h : readInteger s = .ok n) :
    n.natAbs < 10 ^ maxDigits := by
  unfold readInteger at h
  have small := digitRow_lt (takeSign (trimNumeral s)).2
  generalize takeSign (trimNumeral s) = parts at h small
  obtain ⟨negative, body⟩ := parts
  dsimp only at h small
  split at h
  · cases h
  · rename_i ds rest ne eq
    rw [eq] at small
    split at h
    · cases h
    · split at h
      · cases h
      · rename_i short
        split at h
        · cases h
          have abs : (signed negative (digitsValue ds)).natAbs = digitsValue ds := by
            rw [signed]
            split <;> simp
          rw [abs]
          exact Nat.lt_of_lt_of_le (digitsValue_lt small)
            (Nat.pow_le_pow_right (by decide) (Nat.le_of_not_lt short))
        · cases h

/-! ## Doubles -/

namespace Double

/-- Without underscores, a numeral only loses the scripts of its digits. -/
lemma toAscii?_eq_plainNumeral? {s : List Char} (h : ∀ c ∈ s, c ≠ '_') :
    toAscii? s = Decimal.plainNumeral? s := by
  induction s with
  | nil => rfl
  | cons c s ih =>
    obtain ⟨hc, hs⟩ := List.forall_mem_cons.1 h
    cases hd : digitValue? c <;> simp [toAscii?, Decimal.plainNumeral?, hc, hd, ih hs]

/-- A text without underscores has none to lose. -/
lemma dropUnderscores?_eq_some {s : List Char} (h : ∀ c ∈ s, c ≠ '_') (before : Option Char) :
    dropUnderscores? before s = some s := by
  induction s generalizing before with
  | nil => rfl
  | cons c s ih =>
    obtain ⟨hc, hs⟩ := List.forall_mem_cons.1 h
    rw [dropUnderscores?]
    · rw [ih hs]
      rfl
    · exact hc

/-- Digits, a point and digits denote a double. -/
lemma unsigned?_digits (negative : Bool) {whole fraction : List Char}
    (hw : ∀ c ∈ whole, Decimal.isPlainDigit c = true)
    (hf : ∀ c ∈ fraction, Decimal.isPlainDigit c = true) (ne : whole ≠ []) :
    unsigned? negative (whole ++ '.' :: fraction) =
      some (ofScientific negative (Decimal.plainValue (whole ++ fraction))
        (-(fraction.length : Int))) := by
  have hm := Decimal.magnitude?_digits hw hf ne
  cases whole with
  | nil => exact absurd rfl ne
  | cons d whole =>
    obtain ⟨small, hi, hn, -⟩ := Decimal.plain_begins (hw d (.head _))
    have inf : "inf".toList = ['i', 'n', 'f'] := by decide
    have infinity : "infinity".toList = ['i', 'n', 'f', 'i', 'n', 'i', 't', 'y'] := by decide
    have nan : "nan".toList = ['n', 'a', 'n'] := by decide
    unfold unsigned?
    rw [hm, List.cons_append, List.map_cons, small, inf, infinity, nan]
    simp [hi, hn]

/-- Digits around a point hold no underscore. -/
lemma forall_point {ok : Char → Bool} (low : ok '_' = false) {whole fraction : List Char}
    (hw : ∀ c ∈ whole, ok c = true) (hf : ∀ c ∈ fraction, ok c = true) :
    ∀ c ∈ whole ++ '.' :: fraction, c ≠ '_' := by
  have other {c : Char} (h : ok c = true) : c ≠ '_' := by
    rintro rfl
    rw [low] at h
    cases h
  rw [List.forall_mem_append, List.forall_mem_cons]
  exact ⟨fun c hc => other (hw c hc), by decide, fun c hc => other (hf c hc)⟩

/-- A literal with a point denotes the double nearest to the number of its digits and places. -/
theorem read_of_isFloatShape {s : List Char} (h : Literal.isFloatShape s = true) :
    read s = .ok (ofScientific (takeSign s).1 (digitsValue (digitsOf s)) (-(places s : Int))) := by
  obtain ⟨whole, fraction, hb, ne, _, hw, hf⟩ := Literal.parts_of_isFloatShape h
  obtain ⟨t, ht, sign⟩ := Decimal.takeSign_plain hb ne hw hf
  obtain ⟨digits, point⟩ := Decimal.digitsOf_takeSign s
  have plain : ∀ ds : List Char, (∀ c ∈ ds, isDecimalDigit c = true) →
      ∀ c ∈ ds.map plainDigit, Decimal.isPlainDigit c = true := by
    intro ds hds c hc
    obtain ⟨d, hd, rfl⟩ := List.mem_map.1 hc
    exact (plainDigit_spec (hds d hd)).1
  have low : ∀ c ∈ s, c ≠ '_' := by
    refine forall_takeSign (by decide) (by decide) ?_
    rw [hb]
    exact forall_point (by decide) hw hf
  have low' : ∀ c ∈ t, c ≠ '_' := by
    refine forall_takeSign (by decide) (by decide) ?_
    rw [sign]
    exact forall_point (by decide) (plain whole hw) (plain fraction hf)
  have found : read? s =
      some (ofScientific (takeSign s).1 (digitsValue (digitsOf s)) (-(places s : Int))) := by
    rw [read?, trimNumeral_of_not_isBlank (Decimal.not_isBlank_of_isFloatShape h),
      toAscii?_eq_plainNumeral? low, ht, Option.bind_some, dropUnderscores?_eq_some low']
    dsimp only
    rw [sign, unsigned?_digits _ (plain whole hw) (plain fraction hf) (by simpa using ne),
      digits, point, hb, Decimal.digitsValue_point hw hf, Decimal.places_point hw hf]
  rw [read, found]

end Double
end Number
end Rulebook
