import Rulebook.Text.Quoted

/-!
# Bytes of a text

The UTF-8 bytes of characters, and the characters that bytes stand for. Bytes that stand for no
character are replaced, as many at a time as could have begun one.
-/

namespace Rulebook.Text

/-- The bytes of a character. -/
def bytesOf (c : Char) : List UInt8 := (String.singleton c).toUTF8.toList

/-- The character in the place of bytes that stand for none. -/
def replacement : Char := Char.ofNat 0xFFFD

/-- A character that some bytes began: its number as far as it is known, how many bytes it lacks,
and the least and the greatest byte that can come next. -/
structure Begun where
  value : Nat
  lacking : Nat
  low : Nat := 0x80
  high : Nat := 0xBF

/-- The characters that are complete with the first byte of a character, or what it begins. -/
def beginCharacter (b : Nat) : List Char × Option Begun :=
  if b ≤ 0x7F then ([Char.ofNat b], none)
  else if 0xC2 ≤ b && b ≤ 0xDF then ([], some { value := b - 0xC0, lacking := 1 })
  else if b = 0xE0 then ([], some { value := 0, lacking := 2, low := 0xA0 })
  else if b = 0xED then ([], some { value := 0xD, lacking := 2, high := 0x9F })
  else if 0xE1 ≤ b && b ≤ 0xEF then ([], some { value := b - 0xE0, lacking := 2 })
  else if b = 0xF0 then ([], some { value := 0, lacking := 3, low := 0x90 })
  else if 0xF1 ≤ b && b ≤ 0xF3 then ([], some { value := b - 0xF0, lacking := 3 })
  else if b = 0xF4 then ([], some { value := 4, lacking := 3, high := 0x8F })
  else ([replacement], none)

/-- The characters that are complete with the next byte, and what is begun after it. -/
def nextByte (begun : Option Begun) (b : Nat) : List Char × Option Begun :=
  match begun with
  | none => beginCharacter b
  | some p =>
    if p.low ≤ b && b ≤ p.high then
      let value := p.value * 64 + (b - 0x80)
      if p.lacking = 1 then ([Char.ofNat value], none)
      else ([], some { value, lacking := p.lacking - 1 })
    else
      let (cs, begun) := beginCharacter b
      (replacement :: cs, begun)

/-- The characters of bytes after those that began one. -/
def decodeFrom (begun : Option Begun) : List UInt8 → List Char
  | [] => if begun.isSome then [replacement] else []
  | b :: bs =>
    let (cs, begun) := nextByte begun b.toNat
    cs ++ decodeFrom begun bs

/-- The characters of bytes. -/
def decodeBytes (bs : List UInt8) : List Char :=
  match String.fromUTF8? ⟨bs.toArray⟩ with
  | some s => s.toList
  | none => decodeFrom none bs

-- The first two bytes could begin a character, which the third does not continue.
example : decodeBytes [0xE2, 0x82, 0x41, 0xFF] = [replacement, 'A', replacement] := by decide

end Rulebook.Text
