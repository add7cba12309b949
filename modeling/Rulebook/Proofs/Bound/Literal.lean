import Rulebook.Proofs.Bound.Correspondence
import Rulebook.Proofs.Check.WellFormed
import Rulebook.Proofs.Eval.Comparison

/-!
# Literals in the form they are compared in

A literal that a type admits gets a form that suits the type (`Condition.suits_of_comparand`), and
as a number it stays what it was (`Condition.compare?_comparand`): exactly what was written in a
decimal field, the nearest double elsewhere.
-/

namespace Rulebook
open Number Text

/-- The number that the literal of a condition is in a field of a type: a decimal field has it
exactly as it was written, the others have the nearest double. -/
def Condition.numberIn? (c : Condition) (t : ScalarType) : Option Decimal :=
  match t, c.literalText with
  | .decimal, some s => Decimal.read? s.toList
  | t, _ => c.literal.toValue.numberIn? t

namespace Condition

variable {c : Condition} {t : ScalarType} {cp : Comparand}

/-- A literal that fits numbers is one. -/
lemma literal_of_numeric (hf : c.literal.fits t = true) (ht : t.isNumeric = true) :
    (∃ n, c.literal = .int n) ∨ ∃ x, c.literal = .float x := by
  cases hl : c.literal with
  | int n => exact .inl ⟨n, rfl⟩
  | float x => exact .inr ⟨x, rfl⟩
  | text s =>
    rw [hl] at hf
    cases t <;> simp [Literal.fits, ScalarType.isNumeric] at hf ht
  | bool b =>
    rw [hl] at hf
    cases t <;> simp [Literal.fits, ScalarType.isNumeric] at hf ht

/-- A literal that fits texts is one, and stays what it is. -/
lemma comparand_string (hf : c.literal.fits .string = true) :
    ∃ s, c.literal = .text s ∧ c.comparand .string = .ok (.text s) := by
  cases hl : c.literal with
  | text s =>
    refine ⟨s, rfl, ?_⟩
    rw [comparand, hl]
    rfl
  | _ =>
    rw [hl] at hf
    cases hf

/-- A literal that fits booleans is one, and stays what it is. -/
lemma comparand_bool (hf : c.literal.fits .bool = true) :
    ∃ b, c.literal = .bool b ∧ c.comparand .bool = .ok (.bool b) := by
  cases hl : c.literal with
  | bool b =>
    refine ⟨b, rfl, ?_⟩
    rw [comparand, hl]
    rfl
  | _ =>
    rw [hl] at hf
    cases hf

/-- A decimal literal is the number that the condition names. -/
lemma comparand_decimal (hf : c.literal.fits .decimal = true) :
    c.comparand .decimal =
      match c.numberIn? .decimal with
      | some d => Comparand.ofValue (.decimal d)
      | none => .error .notDecimal := by
  unfold comparand numberIn? comparisonLiteral
  cases c.literalText with
  | some s =>
    simp only [decimalOfText]
    cases Decimal.read? s.toList <;> rfl
  | none =>
    obtain ⟨n, hl⟩ | ⟨x, hl⟩ := literal_of_numeric hf rfl
    · rw [hl]; rfl
    · rw [hl]; rfl

/-- A literal of a field of doubles is the nearest double. -/
lemma comparand_binary (ht : t.isBinary = true) :
    c.comparand t = Comparand.float <$> doubleOf c.literal.toValue := by
  cases t with
  | int32 | int64 | float64 =>
    simp only [comparand, comparisonLiteral]
    cases doubleOf c.literal.toValue <;> rfl
  | _ => cases ht

/-- A decimal as a comparand: what is not finite becomes a double, if it is not signaling. -/
lemma ofValue_decimal {d : Decimal} (h : Comparand.ofValue (.decimal d) = .ok cp) :
    cp.Suits .decimal ∧ ∀ x : Decimal, x.compare? cp.number = x.compare? d := by
  cases d with
  | finite n c e =>
    cases h
    exact ⟨.finite, fun _ => rfl⟩
  | infinite n =>
    cases h
    exact ⟨.infinite, fun _ => rfl⟩
  | nan n signaling payload =>
    cases signaling with
    | true => cases h
    | false =>
      cases h
      refine ⟨.nan, fun x => ?_⟩
      cases x <;> rfl

/-- The types that conditions may use. -/
lemma numeric_cases (h : t.isComparable = true) :
    t = .string ∨ t = .bool ∨ t = .decimal ∨ t.isBinary = true := by
  cases t with
  | string => exact .inl rfl
  | bool => exact .inr (.inl rfl)
  | decimal => exact .inr (.inr (.inl rfl))
  | int32 | int64 | float64 => exact .inr (.inr (.inr rfl))
  | date | datetime => cases h

/-- A literal that its type admits gets a form that suits the type. -/
theorem suits_of_comparand (ha : c.Admissible t) (h : c.comparand t = .ok cp) : cp.Suits t := by
  obtain rfl | rfl | rfl | ht := numeric_cases ha.comparable
  · obtain ⟨s, _, hc⟩ := comparand_string ha.fits
    cases hc.symm.trans h
    exact .text
  · obtain ⟨b, _, hc⟩ := comparand_bool ha.fits
    cases hc.symm.trans h
    exact .bool
  · rw [comparand_decimal ha.fits] at h
    cases hn : c.numberIn? .decimal with
    | none => rw [hn] at h; cases h
    | some d => rw [hn] at h; exact (ofValue_decimal h).1
  · rw [comparand_binary ht] at h
    obtain ⟨x, _, rfl⟩ := Outcome.map_ok.1 h
    exact .binary ht

/-- A literal that its type admits keeps its number. -/
theorem compare?_comparand (ha : c.Admissible t) (ht : t.isNumeric = true)
    (h : c.comparand t = .ok cp) :
    ∃ y, c.numberIn? t = some y ∧ ∀ x : Decimal, x.compare? cp.number = x.compare? y := by
  obtain rfl | rfl | rfl | hb := numeric_cases ha.comparable
  · cases ht
  · cases ht
  · rw [comparand_decimal ha.fits] at h
    cases hn : c.numberIn? .decimal with
    | none => rw [hn] at h; cases h
    | some d => rw [hn] at h; exact ⟨d, rfl, (ofValue_decimal h).2⟩
  · rw [comparand_binary hb] at h
    obtain ⟨x, hx, rfl⟩ := Outcome.map_ok.1 h
    have hn : c.numberIn? t = c.literal.toValue.numberIn? t := by cases t <;> first | rfl | cases hb
    refine ⟨x.toDecimal, ?_, fun _ => rfl⟩
    rw [hn, Compare.numberIn?_binary hb]
    obtain ⟨n, hl⟩ | ⟨y, hl⟩ := literal_of_numeric ha.fits ht
    · rw [hl] at hx ⊢
      simp only [Literal.toValue] at hx ⊢
      rw [hx]
      rfl
    · rw [hl] at hx ⊢
      simp only [Literal.toValue] at hx ⊢
      rw [hx]
      rfl

end Condition
end Rulebook
