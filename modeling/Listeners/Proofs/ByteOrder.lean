/-
The order of texts by their bytes.

Texts are compared by their characters.  Where they are written down as UTF-8 and compared byte by
byte, the order is the same, because a greater character has greater bytes: its first byte
says how many follow, more for greater characters, and all of them together are its number, from
the highest digits to the lowest.
-/
import Listeners.Proofs.Bytes
import Listeners.Text.Order
import Mathlib.Data.List.Lex

namespace Listeners.Text

/-- Coming no later than a list means being the same or coming before it at the first difference. -/
theorem upTo_iff_lex {α : Type} [DecidableEq α] {precedes : α → α → Bool}
    (irrefl : ∀ a, precedes a a = false) {as bs : List α} :
    upTo precedes as bs = true ↔ as = bs ∨ List.Lex (fun a b => precedes a b = true) as bs := by
  induction as generalizing bs with
  | nil =>
      cases bs with
      | nil => exact iff_of_true rfl (Or.inl rfl)
      | cons b bs => exact iff_of_true rfl (Or.inr List.Lex.nil)
  | cons a as ih =>
      cases bs with
      | nil => exact iff_of_false Bool.false_ne_true (by rintro (h | h) <;> cases h)
      | cons b bs =>
          rw [upTo, List.cons_lex_cons_iff, List.cons.injEq]
          by_cases hab : a = b
          · subst hab
            simp only [if_true, ih, true_and, irrefl, Bool.false_eq_true, false_or]
          · rw [if_neg hab]
            simp only [hab, false_and, false_or, or_false]

/-! ### Texts -/

/-- The bytes of a greater character are greater, whatever follows. -/
theorem lex_encode_append {c d : Char} (h : c < d) (us vs : List UInt8) :
    List.Lex (· < ·) (String.utf8EncodeChar c ++ us) (String.utf8EncodeChar d ++ vs) := by
  have hlt : c.val.toNat < d.val.toNat := h
  have hmax : d.val.toNat < 0x110000 := by
    have hvalid := d.valid
    simp only [UInt32.isValidChar, Nat.isValidChar] at hvalid
    omega
  unfold String.utf8EncodeChar
  generalize c.val.toNat = m at hlt
  generalize d.val.toNat = n at hlt hmax
  dsimp only
  have hdigits : ∀ k, k / 4096 = k / 64 / 64 ∧ k / 262144 = k / 64 / 64 / 64 := by omega
  -- One case for each number of bytes of the one and of the other character.
  split_ifs <;>
    simp only [List.cons_append, List.nil_append, List.cons_lex_cons_iff, UInt8.lt_iff_toNat_lt,
      ← UInt8.toNat_inj, UInt8.toNat_ofNat', (hdigits _).1, (hdigits _).2] <;>
    omega

theorem lex_flatMap_encode {cs ds : List Char} (h : List.Lex (· < ·) cs ds) :
    List.Lex (· < ·) (cs.flatMap String.utf8EncodeChar) (ds.flatMap String.utf8EncodeChar) := by
  induction h with
  | nil =>
      rename_i d ds
      rw [List.flatMap_cons]
      cases hd : String.utf8EncodeChar d with
      | nil => exact absurd hd String.utf8EncodeChar_ne_nil
      | cons byte bytes => exact List.Lex.nil
  | rel hcd => exact lex_encode_append hcd _ _
  | cons _ ih => exact List.Lex.append_left _ ih _

/-- **Texts are in the order of their bytes.** -/
theorem lex_bytes_iff {s t : String} : List.Lex (· < ·) (bytes s) (bytes t) ↔ s < t := by
  have hlex : ∀ {s t : String}, s < t → List.Lex (· < ·) (bytes s) (bytes t) := by
    intro s t h
    rw [bytes_eq_flatMap, bytes_eq_flatMap]
    exact lex_flatMap_encode h
  have hasymm : ∀ {a b : UInt8}, a < b → ¬ b < a := fun hab => UInt8.lt_asymm hab
  refine ⟨fun h => ?_, hlex⟩
  by_contra hge
  by_cases hgt : t < s
  · exact List.lex_asymm hasymm h (hlex hgt)
  · rw [String.le_antisymm (String.not_lt.mp hgt) (String.not_lt.mp hge)] at h
    exact List.lex_asymm hasymm h h

end Listeners.Text
