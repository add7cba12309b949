import Mathlib.Data.List.TakeWhile
import Rulebook.Proofs.Text.Blank
import Rulebook.Service.Request

/-!
# Paths and their routes

A path is read as bytes, in which escapes may stand for characters, and then split at its slashes. A
path of plain parts is read as these parts (`Route.ofPath?_path`), so that each target with plain
names has a path on which it is evaluated.
-/

namespace Rulebook.Route

open Text

/-- A character that stands for itself in a part of a path. -/
def isPlain (c : Char) : Bool := c != '%' && c != '?' && c != '#' && c != '/'

/-- A part of a path that stands for itself. -/
def Plain (part : String) : Prop := part.toList.all isPlain = true

/-- The path with given parts. -/
def path (parts : List String) : String :=
  String.ofList ('/' :: joinWith ['/'] (parts.map String.toList))

/-- No character of a plain part has a meaning in a path. -/
lemma Plain.of_mem {part : String} (h : Plain part) {c : Char} (hc : c ∈ part.toList) :
    c ≠ '%' ∧ c ≠ '?' ∧ c ≠ '#' ∧ c ≠ '/' := by
  simpa [isPlain, and_assoc] using List.all_eq_true.1 h c hc

/-! ## Bytes -/

/-- The loop over an array of bytes collects the bytes from a place on. -/
lemma toList_loop (bs : ByteArray) (i : Nat) (bytes : List UInt8) :
    ByteArray.toList.loop bs i bytes = bytes.reverse ++ bs.data.toList.drop i := by
  fun_induction ByteArray.toList.loop bs i bytes with
  | case1 i bytes inside ih =>
    have hi : i < bs.data.toList.length := inside
    have get : bs.get! i = bs.data.toList[i] := getElem!_pos bs.data i inside
    rw [ih, List.drop_eq_getElem_cons hi, get]
    simp
  | case2 i bytes outside =>
    have hi : bs.data.toList.length ≤ i := Nat.le_of_not_lt outside
    rw [List.drop_eq_nil_of_le hi, List.append_nil]

/-- A character is spelled with its own bytes. -/
lemma bytesOf_eq (c : Char) : bytesOf c = [c].utf8Encode.data.toList := by
  rw [bytesOf, ByteArray.toList, toList_loop, ← String.toByteArray_singleton]
  rfl

/-- The bytes of a text without escapes are those of its characters. -/
lemma unescape_plain {cs : List Char} (h : ∀ c ∈ cs, c ≠ '%') :
    decodePath.unescape cs = cs.utf8Encode.data.toList := by
  induction cs with
  | nil => rfl
  | cons c cs ih =>
    obtain ⟨hc, h⟩ := List.forall_mem_cons.1 h
    have step : decodePath.unescape (c :: cs) = bytesOf c ++ decodePath.unescape cs := by
      rw [decodePath.unescape]
      intro _ _ _ e
      exact absurd e hc
    rw [step, ih h, bytesOf_eq, List.utf8Encode_cons (l := cs), ByteArray.data_append,
      Array.toList_append]

/-- A path without escapes and without anything that follows it is read as it is written. -/
lemma decodePath_plain {s : List Char} (h : ∀ c ∈ s, c ≠ '%' ∧ c ≠ '?' ∧ c ≠ '#') :
    decodePath (String.ofList s) = s := by
  have whole : s.takeWhile (fun c => c != '?' && c != '#') = s := by
    rw [List.takeWhile_eq_self_iff]
    intro c hc
    simp [h c hc]
  have decoded : String.fromUTF8? ⟨(decodePath.unescape s).toArray⟩ = some (String.ofList s) := by
    rw [unescape_plain fun c hc => (h c hc).1, Array.toArray_toList]
    exact dif_pos (String.ofList s).isValidUTF8
  rw [decodePath, String.toList_ofList, whole, decodeBytes, decoded]
  exact String.toList_ofList

/-! ## Parts -/

/-- A path of plain parts leads where the parts lead. -/
theorem ofPath?_path {whole : Bool} {parts : List String} {route : Route} (h : ∀ p ∈ parts, Plain p)
    (hr : ofParts? whole parts = some route) : ofPath? whole (path parts) = some route := by
  have ne : parts.map String.toList ≠ [] := by
    intro e
    rw [List.map_eq_nil_iff.1 e] at hr
    cases hr
  have plain : ∀ c ∈ '/' :: joinWith ['/'] (parts.map String.toList), c ≠ '%' ∧
      c ≠ '?' ∧ c ≠ '#' := by
    intro c hc
    obtain rfl | hc := List.mem_cons.1 hc
    · decide
    · obtain rfl | ⟨_, hm, hc⟩ := mem_joinWith hc
      · decide
      · obtain ⟨p, hp, rfl⟩ := List.mem_map.1 hm
        obtain ⟨percent, question, hash, _⟩ := (h p hp).of_mem hc
        exact ⟨percent, question, hash⟩
  have apart : (splitOn (· == '/') (joinWith ['/'] (parts.map String.toList))).map String.ofList =
      parts := by
    rw [splitOn_joinWith rfl ne, List.map_map]
    · exact List.map_id'' (fun p => String.ofList_toList) parts
    · intro _ hm c hc
      obtain ⟨p, hp, rfl⟩ := List.mem_map.1 hm
      simpa using ((h p hp).of_mem hc).2.2.2
  have same : Route.parts ('/' :: joinWith ['/'] (parts.map String.toList)) = parts := apart
  rw [ofPath?, path, decodePath_plain plain, same]
  exact hr

/-- A target with plain names has a path on which it is evaluated. -/
theorem ofPath?_evaluateTarget {whole : Bool} {domain kind name : String} (hd : Plain domain)
    (hk : Plain kind) (hn : Plain name) (nd : domain ≠ "") (nk : kind ≠ "") (nn : name ≠ "") :
    ofPath? whole (path ["targets", domain, kind, name, "evaluate"]) =
    some (.evaluateTarget domain kind name) := by
  refine ofPath?_path ?_ ?_
  · simp only [List.forall_mem_cons]
    exact ⟨rfl, hd, hk, hn, rfl, List.forall_mem_nil _⟩
  · simp [ofParts?, endsPath, nd, nk, nn]

end Rulebook.Route
