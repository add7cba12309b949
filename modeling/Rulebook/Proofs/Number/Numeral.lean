import Rulebook.Proofs.Text.Blank
import Rulebook.Rule.Literal

/-!
# Numerals with a point

Literals with a point are written in digits of any script. Read as an exact decimal, such a numeral
denotes the number that its digits make, shifted by the places behind the point, as long as this is
in the range of decimals (`Decimal.read?_of_isFloatShape`).
-/

namespace Rulebook
open Number Text

/-! ## Digits -/

namespace Text

/-- The values of the digits of a text, in order. -/
def digitsOf (s : List Char) : List Nat := s.filterMap digitValue?

/-- How many digits of a text stand behind its point. -/
def places (s : List Char) : Nat := (digitsOf (s.dropWhile (· != '.'))).length

/-- A digit stands in a run of ten that begins with a zero. -/
lemma digitValue?_some {c : Char} {d : Nat} (h : digitValue? c = some d) :
    d < 10 ∧ ∃ z ∈ digitZeros, c.toNat = z + d := by
  obtain ⟨z, hz, rfl⟩ := Option.map_eq_some_iff.1 h
  have hm := List.mem_of_find?_eq_some hz
  have hr : z ≤ c.toNat ∧ c.toNat < z + 10 := by simpa using List.find?_some hz
  exact ⟨by omega, z, hm, by omega⟩

/-- A digit has a value. -/
lemma exists_digitValue {c : Char} (h : isDecimalDigit c = true) : ∃ d, digitValue? c = some d :=
  Option.isSome_iff_exists.1 h

/-- Only one of the runs of digits lies in ASCII. -/
lemma zero_of_ascii : ∀ z ∈ digitZeros, z = 48 ∨ 128 ≤ z := by decide

/-- No digit is a blank. -/
lemma not_isBlank_of_digit {c : Char} (h : isDecimalDigit c = true) : isBlank c = false := by
  obtain ⟨d, hd⟩ := exists_digitValue h
  obtain ⟨hlt, z, hz, hc⟩ := digitValue?_some hd
  have apart : ∀ z ∈ digitZeros, ∀ d < 10,
      ((9 ≤ z + d && z + d ≤ 13) || (28 ≤ z + d && z + d ≤ 32) || z + d == 0x85 || z + d == 0xA0 ||
        z + d == 0x1680 || (0x2000 ≤ z + d && z + d ≤ 0x200A) || z + d == 0x2028 ||
        z + d == 0x2029 ||
        z + d == 0x202F || z + d == 0x205F || z + d == 0x3000) = false := by decide
  unfold isBlank
  rw [hc]
  exact apart z hz d hlt

/-- The digit of ASCII with the value of a digit. -/
def plainDigit (c : Char) : Char := digitChar ((digitValue? c).getD 0)

/-- Digits of ASCII are plain. -/
lemma digitChar_plain :
    ∀ d < 10, Decimal.isPlainDigit (digitChar d) = true ∧ (digitChar d).toNat - 48 = d := by
  decide

/-- A digit of ASCII is the one with its value. -/
lemma plainDigit_of_ascii {c : Char} (h : isDecimalDigit c = true) (ha : c.toNat < 128) :
    plainDigit c = c := by
  obtain ⟨d, hd⟩ := exists_digitValue h
  obtain ⟨hlt, z, hz, hc⟩ := digitValue?_some hd
  have hz : z = 48 := by
    obtain h | h := zero_of_ascii z hz
    · exact h
    · omega
  unfold plainDigit digitChar
  rw [hd, Option.getD_some, Nat.mod_eq_of_lt hlt, ← hz, ← hc, Char.ofNat_toNat]

/-- The plain digit of a digit, and its value. -/
lemma plainDigit_spec {c : Char} (h : isDecimalDigit c = true) :
    Decimal.isPlainDigit (plainDigit c) = true ∧
    digitValue? c = some ((plainDigit c).toNat - 48) := by
  obtain ⟨d, hd⟩ := exists_digitValue h
  obtain ⟨plain, value⟩ := digitChar_plain d (digitValue?_some hd).1
  unfold plainDigit
  rw [hd, Option.getD_some]
  exact ⟨plain, by rw [value]⟩

/-- The values of digits are those of their plain digits. -/
lemma digitsOf_digits {ds : List Char} (h : ∀ c ∈ ds, isDecimalDigit c = true) :
    digitsOf ds = (ds.map plainDigit).map fun c => c.toNat - 48 := by
  induction ds with
  | nil => rfl
  | cons c ds ih =>
    rw [List.forall_mem_cons] at h
    have hc := (plainDigit_spec h.1).2
    unfold digitsOf at ih ⊢
    rw [List.filterMap_cons, hc, ih h.2]
    rfl

end Text

namespace Number.Decimal

/-! ## Reading -/

/-- Digits become plain digits. -/
lemma plainNumeral?_digits {ds : List Char} (h : ∀ c ∈ ds, isDecimalDigit c = true)
    (rest : List Char) :
    plainNumeral? (ds ++ rest) = (plainNumeral? rest).map (ds.map plainDigit ++ ·) := by
  induction ds with
  | nil => simp
  | cons c ds ih =>
    rw [List.forall_mem_cons] at h
    obtain ⟨d, hd⟩ := exists_digitValue h.1
    have low : c ≠ '_' := by
      rintro rfl
      cases h.1
    rw [List.cons_append, plainNumeral?, if_neg (by simpa using low)]
    have step : (plainNumeral? (ds ++ rest)).map (plainDigit c :: ·) =
        (plainNumeral? rest).map ((c :: ds).map plainDigit ++ ·) := by
      rw [ih h.2, Option.map_map]
      rfl
    split
    · rename_i ha
      rw [← step, plainDigit_of_ascii h.1 ha]
    · rw [if_neg (by simp [not_isBlank_of_digit h.1]), ← step, hd]
      simp only [plainDigit, hd, Option.getD_some]

/-- The digits before a point are taken off the front. -/
lemma takeWhile_plain {ds r : List Char} (h : ∀ c ∈ ds, isPlainDigit c = true)
    (hr : r.head?.all (fun c => !isPlainDigit c) = true) :
    (ds ++ r).takeWhile isPlainDigit = ds ∧ (ds ++ r).dropWhile isPlainDigit = r := by
  induction ds with
  | nil =>
    cases r with
    | nil => exact ⟨rfl, rfl⟩
    | cons c r =>
      have hc : isPlainDigit c = false := by simpa using hr
      simp [hc]
  | cons c ds ih =>
    rw [List.forall_mem_cons] at h
    simp [h.1, ih h.2]

/-- Digits, a point and digits make a coefficient and its places. -/
lemma magnitude?_digits {whole fraction : List Char} (hw : ∀ c ∈ whole, isPlainDigit c = true)
    (hf : ∀ c ∈ fraction, isPlainDigit c = true) (ne : whole ≠ []) :
    magnitude? (whole ++ '.' :: fraction) =
      some (plainValue (whole ++ fraction), -(fraction.length : Int)) := by
  have point : (!isPlainDigit '.') = true := by decide
  obtain ⟨t, d⟩ := takeWhile_plain (r := '.' :: fraction) hw point
  obtain ⟨t', d'⟩ := takeWhile_plain (r := []) hf rfl
  rw [List.append_nil] at t' d'
  unfold magnitude?
  rw [t, d]
  simp only [t', d']
  cases whole with
  | nil => exact absurd rfl ne
  | cons c whole => simp [exponentPart?]

/-- What holds of the ten digits of ASCII holds of every plain digit. -/
lemma plain_forall {P : Char → Prop} (h : ∀ d < 10, P (digitChar d)) {c : Char}
    (hc : isPlainDigit c = true) :
    P c := by
  have bounds : 48 ≤ c.toNat ∧ c.toNat ≤ 57 := by
    simpa [isPlainDigit, Char.le_def, UInt32.le_iff_toNat_le] using hc
  have hd := h (c.toNat - 48) (by omega)
  have e : 48 + (c.toNat - 48) % 10 = c.toNat := by omega
  rwa [digitChar, e, Char.ofNat_toNat] at hd

/-- A plain digit is no capital, and begins no name of infinity or of no number. -/
lemma plain_begins {c : Char} (h : isPlainDigit c = true) :
    ('A' ≤ c && c ≤ 'Z') = false ∧ c ≠ 'i' ∧ c ≠ 'n' ∧ c ≠ 's' :=
  plain_forall (P := fun c => ('A' ≤ c && c ≤ 'Z') = false ∧ c ≠ 'i' ∧ c ≠ 'n' ∧
    c ≠ 's') (by decide) h

/-- Digits, a point and digits denote a number, if it is in range. -/
lemma unsigned?_digits (negative : Bool) {whole fraction : List Char}
    (hw : ∀ c ∈ whole, isPlainDigit c = true) (hf : ∀ c ∈ fraction, isPlainDigit c = true)
    (ne : whole ≠ []) :
    unsigned? negative (whole ++ '.' :: fraction) =
      if inRange (plainValue (whole ++ fraction)) (-(fraction.length : Int)) then
        some (.finite negative (plainValue (whole ++ fraction)) (-(fraction.length : Int)))
      else none := by
  have hm := magnitude?_digits hw hf ne
  cases whole with
  | nil => exact absurd rfl ne
  | cons d whole =>
    obtain ⟨small, hi, hn, hs⟩ := plain_begins (hw d (.head _))
    have inf : "inf".toList = ['i', 'n', 'f'] := by decide
    have infinity : "infinity".toList = ['i', 'n', 'f', 'i', 'n', 'i', 't', 'y'] := by decide
    have nan : "nan".toList = ['n', 'a', 'n'] := by decide
    have snan : "snan".toList = ['s', 'n', 'a', 'n'] := by decide
    unfold unsigned?
    rw [hm, List.cons_append, List.map_cons, small, inf, infinity, nan, snan]
    simp [hi, Ne.symm hn, Ne.symm hs, dropStart?]

end Number.Decimal

/-! ## Shapes -/

/-- A sign, if there is one, stands before the rest. -/
lemma Number.takeSign_eq (s : List Char) :
    (takeSign s = (true, (takeSign s).2) ∧ s = '-' :: (takeSign s).2) ∨
      takeSign s = (false, (takeSign s).2) ∧ (s = '+' :: (takeSign s).2 ∨ s = (takeSign s).2) := by
  unfold takeSign
  split
  · exact .inl ⟨rfl, rfl⟩
  · exact .inr ⟨rfl, .inl rfl⟩
  · exact .inr ⟨rfl, .inr rfl⟩

namespace Literal

/-- Digits, a point and digits stand behind the sign of a literal with a point. -/
lemma parts_of_isFloatShape {s : List Char} (h : isFloatShape s = true) :
    ∃ whole fraction, (takeSign s).2 = whole ++ '.' :: fraction ∧ whole ≠ [] ∧ fraction ≠ [] ∧
      (∀ c ∈ whole, isDecimalDigit c = true) ∧ ∀ c ∈ fraction, isDecimalDigit c = true := by
  unfold isFloatShape at h
  generalize (takeSign s).2 = body at h
  simp only [Bool.and_eq_true, Bool.not_eq_true', List.isEmpty_eq_false_iff, beq_iff_eq,
    List.all_eq_true] at h
  obtain ⟨⟨⟨hw, point⟩, hf⟩, hd⟩ := h
  have split := List.takeWhile_append_dropWhile (p := isDecimalDigit) (l := body)
  cases hr : body.dropWhile isDecimalDigit with
  | nil => rw [hr] at point; cases point
  | cons c fraction =>
    rw [hr] at point hf hd split
    cases point
    refine ⟨_, fraction, split.symm, hw, by simpa using hf, ?_, by simpa using hd⟩
    intro c hc
    exact List.all_eq_true.1 List.all_takeWhile c hc

end Literal

namespace Number.Decimal

variable {whole fraction : List Char}

/-- Digits around a point become plain digits around a point. -/
lemma plainNumeral?_point (hw : ∀ c ∈ whole, isDecimalDigit c = true)
    (hf : ∀ c ∈ fraction, isDecimalDigit c = true) :
    plainNumeral? (whole ++ '.' :: fraction) =
    some (whole.map plainDigit ++ '.' :: fraction.map plainDigit) := by
  have tail : plainNumeral? fraction = some (fraction.map plainDigit) := by
    have := plainNumeral?_digits hf []
    simpa [plainNumeral?] using this
  have point : plainNumeral? ('.' :: fraction) = (plainNumeral? fraction).map ('.' :: ·) := rfl
  rw [plainNumeral?_digits hw, point, tail]
  rfl

/-- The number that digits around a point make is that of the plain digits. -/
lemma digitsValue_point (hw : ∀ c ∈ whole, isDecimalDigit c = true)
    (hf : ∀ c ∈ fraction, isDecimalDigit c = true) :
    digitsValue (digitsOf (whole ++ '.' :: fraction)) =
      plainValue (whole.map plainDigit ++ fraction.map plainDigit) := by
  have point : digitsOf (whole ++ '.' :: fraction) = digitsOf whole ++ digitsOf fraction := by
    unfold digitsOf
    rw [List.filterMap_append]
    rfl
  rw [point, digitsOf_digits hw, digitsOf_digits hf, plainValue, List.map_append]

/-- The places behind a point. -/
lemma places_point (hw : ∀ c ∈ whole, isDecimalDigit c = true)
    (hf : ∀ c ∈ fraction, isDecimalDigit c = true) :
    places (whole ++ '.' :: fraction) = (fraction.map plainDigit).length := by
  have cut : (whole ++ '.' :: fraction).dropWhile (· != '.') = '.' :: fraction := by
    induction whole with
    | nil => rfl
    | cons c whole ih =>
      rw [List.forall_mem_cons] at hw
      have hc : c ≠ '.' := by
        rintro rfl
        cases hw.1
      rw [List.cons_append, List.dropWhile_cons_of_pos (by simpa using hc), ih hw.2]
  unfold places
  rw [cut]
  show (digitsOf fraction).length = _
  rw [digitsOf_digits hf, List.length_map]

/-- What is read is the number behind the sign of the plain numeral. -/
lemma read?_eq (s : List Char) :
    read? s = (plainNumeral? (trim s)).bind fun t => unsigned? (takeSign t).1 (takeSign t).2 := by
  unfold read?
  cases plainNumeral? (trim s) with
  | none => rfl
  | some t =>
    rw [Option.bind_some]
    unfold takeSign
    split
    · rename_i h; cases h; rfl
    · rename_i h; cases h; rfl
    · rename_i rest minus plus h
      cases h
      split
      · exact absurd rfl (minus _)
      · exact absurd rfl (plus _)
      · rfl
    · rename_i h; cases h

/-- The sign of a numeral is that of its plain numeral. -/
lemma takeSign_plain {s : List Char} (hs : (takeSign s).2 = whole ++ '.' :: fraction)
    (ne : whole ≠ []) (hw : ∀ c ∈ whole, isDecimalDigit c = true)
    (hf : ∀ c ∈ fraction, isDecimalDigit c = true) :
    ∃ t, plainNumeral? s = some t ∧
      takeSign t = ((takeSign s).1, whole.map plainDigit ++ '.' :: fraction.map plainDigit) := by
  have numeral := plainNumeral?_point hw hf
  rw [← hs] at numeral
  obtain ⟨sign, h⟩ | ⟨sign, h | h⟩ := takeSign_eq s
  · have : plainNumeral? s = (plainNumeral? (takeSign s).2).map ('-' :: ·) := by rw [h]; rfl
    rw [this, numeral, sign]
    exact ⟨_, rfl, rfl⟩
  · have : plainNumeral? s = (plainNumeral? (takeSign s).2).map ('+' :: ·) := by rw [h]; rfl
    rw [this, numeral, sign]
    exact ⟨_, rfl, rfl⟩
  · rw [← h] at numeral
    refine ⟨_, numeral, ?_⟩
    rw [sign]
    -- A plain digit is no sign.
    cases whole with
    | nil => exact absurd rfl ne
    | cons d whole =>
      have plain := (plainDigit_spec (hw d (.head _))).1
      rw [List.map_cons, List.cons_append]
      generalize plainDigit d = c at plain
      unfold takeSign
      split
      · rename_i e; cases e; cases plain
      · rename_i e; cases e; cases plain
      · rfl

/-- There are no blanks in a literal with a point. -/
lemma not_isBlank_of_isFloatShape {s : List Char} (h : Literal.isFloatShape s = true) :
    ∀ c ∈ s, isBlank c = false := by
  obtain ⟨whole, fraction, hb, _, _, hw, hf⟩ := Literal.parts_of_isFloatShape h
  have clear : ∀ c ∈ (takeSign s).2, isBlank c = false := by
    rw [hb]
    intro c hc
    obtain hc | hc := List.mem_append.1 hc
    · exact not_isBlank_of_digit (hw c hc)
    · cases hc with
      | head => decide
      | tail _ hc => exact not_isBlank_of_digit (hf c hc)
  obtain ⟨_, hs⟩ | ⟨_, hs | hs⟩ := takeSign_eq s
  · rw [hs, List.forall_mem_cons]
    exact ⟨by decide, clear⟩
  · rw [hs, List.forall_mem_cons]
    exact ⟨by decide, clear⟩
  · rw [hs]
    exact clear

/-- A sign is no digit and stands before the point. -/
lemma digitsOf_takeSign (s : List Char) :
    digitsOf s = digitsOf (takeSign s).2 ∧ places s = places (takeSign s).2 := by
  obtain ⟨_, hs⟩ | ⟨_, hs | hs⟩ := takeSign_eq s
  · rw [hs]
    exact ⟨rfl, rfl⟩
  · rw [hs]
    exact ⟨rfl, rfl⟩
  · rw [← hs]
    exact ⟨rfl, rfl⟩

/-- A literal with a point denotes the number of its digits and places, if this is in range. -/
theorem read?_of_isFloatShape {s : List Char} (h : Literal.isFloatShape s = true) :
    read? s =
      if inRange (digitsValue (digitsOf s)) (-(places s : Int)) then
        some (.finite (takeSign s).1 (digitsValue (digitsOf s)) (-(places s : Int)))
      else none := by
  obtain ⟨whole, fraction, hb, ne, _, hw, hf⟩ := Literal.parts_of_isFloatShape h
  obtain ⟨t, ht, sign⟩ := takeSign_plain hb ne hw hf
  obtain ⟨digits, point⟩ := digitsOf_takeSign s
  have plain : ∀ ds : List Char, (∀ c ∈ ds, isDecimalDigit c = true) →
      ∀ c ∈ ds.map plainDigit, isPlainDigit c = true := by
    intro ds hds c hc
    obtain ⟨d, hd, rfl⟩ := List.mem_map.1 hc
    exact (plainDigit_spec (hds d hd)).1
  rw [read?_eq, trim_of_not_isBlank (not_isBlank_of_isFloatShape h), ht, Option.bind_some, sign,
    digits, point, hb, digitsValue_point hw hf, places_point hw hf]
  exact unsigned?_digits _ (plain whole hw) (plain fraction hf) (by simpa using ne)

end Number.Decimal
end Rulebook
