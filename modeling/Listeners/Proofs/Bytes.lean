/-
Texts and their bytes.

A text is known by its bytes, so bytes are those of one text or of none (`text?_eq_some_iff`).
Reading with replacements leaves a text as it is: at the front there is always a whole character,
whose bytes are taken together (`lossy_bytes`).
-/
import Listeners.Text.Bytes
import Mathlib.Data.List.Basic

namespace Listeners

namespace Text

theorem bytes_eq_flatMap (s : String) : bytes s = s.toList.flatMap String.utf8EncodeChar := by
  unfold bytes
  rw [String.toUTF8_eq_toByteArray, ← String.ofList_toList (s := s), String.toByteArray_ofList,
    String.toList_ofList, List.utf8Encode, List.data_toByteArray]

theorem toByteArray_bytes (s : String) : (bytes s).toByteArray = s.toUTF8 := by
  refine ByteArray.ext ?_
  rw [List.data_toByteArray]
  rfl

theorem bytes_inj {s t : String} : bytes s = bytes t ↔ s = t := by
  rw [← List.toByteArray_inj, toByteArray_bytes, toByteArray_bytes]
  exact String.toByteArray_inj

/-- A text is found in the bytes that are written for it, and in no others. -/
theorem fromUTF8?_eq_some_iff {content : ByteArray} {s : String} :
    String.fromUTF8? content = some s ↔ content = s.toUTF8 := by
  unfold String.fromUTF8?
  constructor
  · intro h
    obtain ⟨hvalid, hs⟩ := Option.dite_none_right_eq_some.mp h
    obtain rfl := Option.some.inj hs
    rfl
  · rintro rfl
    have hvalid : s.toUTF8.IsValidUTF8 := s.isValidUTF8
    rw [dif_pos hvalid]
    rfl

end Text

namespace Bytes

/-- Bytes are taken for the text whose bytes they are. -/
theorem text?_eq_some_iff {bytes : Bytes} {s : String} :
    bytes.text? = some s ↔ Text.bytes s = bytes := by
  unfold text?
  rw [Text.fromUTF8?_eq_some_iff, ← Text.toByteArray_bytes, List.toByteArray_inj, eq_comm]

theorem text?_eq_none_iff {bytes : Bytes} :
    bytes.text? = none ↔ ∀ s, Text.bytes s ≠ bytes := by
  rw [Option.eq_none_iff_forall_ne_some]
  exact forall_congr' fun s => not_congr text?_eq_some_iff

/-! ### Reading with replacements -/

theorem lossyFrom_eq_drop (skip : Nat) (bytes : Bytes) :
    lossyFrom skip bytes = lossyFrom 0 (bytes.drop skip) := by
  induction skip generalizing bytes with
  | zero => rfl
  | succ skip ih =>
      cases bytes with
      | nil => rfl
      | cons byte bytes => exact ih bytes

/-- A whole character at the front is read, and what follows it is read as it is. -/
theorem lossyFrom_encode_append (c : Char) (bytes : Bytes) :
    lossyFrom 0 (String.utf8EncodeChar c ++ bytes) = c :: lossyFrom 0 bytes := by
  have hfirst : first? (String.utf8EncodeChar c ++ bytes) = some c := by
    unfold first?
    rw [List.toByteArray_append]
    exact ByteArray.utf8DecodeChar?_utf8EncodeChar_append
  have hlength := String.length_utf8EncodeChar c
  cases hencoded : String.utf8EncodeChar c with
  | nil => exact absurd hencoded String.utf8EncodeChar_ne_nil
  | cons byte rest =>
      rw [hencoded] at hfirst hlength
      have hrest : rest.length = c.utf8Size - 1 := by simp [← hlength]
      rw [List.cons_append] at hfirst ⊢
      rw [lossyFrom, hfirst]
      dsimp only
      rw [lossyFrom_eq_drop, ← hrest, List.drop_left]

/-- **A text is read as it is.** -/
theorem lossy_bytes (s : String) : lossy (Text.bytes s) = s := by
  have hchars : ∀ cs : List Char, lossyFrom 0 (cs.flatMap String.utf8EncodeChar) = cs := by
    intro cs
    induction cs with
    | nil => rfl
    | cons c cs ih => rw [List.flatMap_cons, lossyFrom_encode_append, ih]
  rw [lossy, Text.bytes_eq_flatMap, hchars, String.ofList_toList]

end Bytes

end Listeners
