/-
Doubles that are finite.

An integer that sixty-four bits can hold is nowhere near the largest double, so the double next to
it is finite: it has at most sixty-four binary digits, and a significand of at most fifty-four
stands in units that are no larger than the rest of them.  Turning the sign of a double
leaves its exponent alone.
-/
import Listeners.Number.Double
import Mathlib.Algebra.Group.Nat.Defs
import Mathlib.Tactic.Common

namespace Listeners.Double

/-- A word whose exponent field is not full is that of a finite double. -/
theorem isFinite_ofNat_word {word : Nat} (h : word < 2047 * fractionCount) :
    isFinite ⟨UInt64.ofNat word⟩ = true := by
  have hword : (UInt64.ofNat word).toNat = word := by
    rw [UInt64.toNat_ofNat']
    unfold fractionCount at h
    omega
  unfold isFinite exponentField
  rw [hword, bne_iff_ne]
  unfold fractionCount at *
  omega

theorem isFinite_neg (d : Double) : d.neg.isFinite = d.isFinite := by
  -- The sign bit is above the exponent field.
  have hfield : d.neg.exponentField = d.exponentField := by
    unfold exponentField neg fractionCount
    rw [UInt64.toNat_xor, show (0x10000000000000 : Nat) = 2 ^ 52 from rfl,
      show (2048 : Nat) = 2 ^ 11 from rfl, Nat.xor_div_two_pow, Nat.xor_mod_two_pow]
    exact Nat.xor_zero _
  unfold isFinite
  rw [hfield]

theorem roundDiv_le (numerator denominator : Nat) :
    roundDiv numerator denominator ≤ numerator / denominator + 1 := by
  unfold roundDiv
  dsimp only
  split
  · exact Nat.le_refl _
  · exact Nat.le_succ _

/-- The unit of a natural number is about fifty-three binary digits below its first one. -/
theorem unitExponent_one (n : Nat) :
    (n.log2 : Int) - 53 ≤ unitExponent n 1 ∧ unitExponent n 1 ≤ (n.log2 : Int) - 52 := by
  unfold unitExponent
  rw [show Nat.log2 1 = 0 from rfl]
  dsimp only
  split <;> omega

/-- A natural number rounds to fifty-four binary digits of its unit at most. -/
theorem roundDiv_pow_le {n u : Nat} (h : n.log2 ≤ u + 53) : roundDiv n (2 ^ u) ≤ 2 ^ 54 := by
  have hn : n < 2 ^ 54 * 2 ^ u := by
    rw [← Nat.pow_add]
    exact Nat.lt_of_lt_of_le Nat.lt_log2_self (Nat.pow_le_pow_right (by omega) (by omega))
  exact Nat.le_trans (roundDiv_le n _) (Nat.div_lt_of_lt_mul (Nat.mul_comm _ _ ▸ hn))

theorem roundDiv_mul_pow_le {n k : Nat} (h : n.log2 + k ≤ 53) :
    roundDiv (n * 2 ^ k) 1 ≤ 2 ^ 54 := by
  have hn : n * 2 ^ k < 2 ^ 54 := by
    calc n * 2 ^ k
      _ < 2 ^ (n.log2 + 1) * 2 ^ k := Nat.mul_lt_mul_of_pos_right Nat.lt_log2_self
            (Nat.two_pow_pos k)
      _ = 2 ^ (n.log2 + 1 + k) := (Nat.pow_add _ _ _).symm
      _ ≤ 2 ^ 54 := Nat.pow_le_pow_right (by omega) (by omega)
  have hround := roundDiv_le (n * 2 ^ k) 1
  rw [Nat.div_one] at hround
  omega

/-- **The double next to an integer of sixty-four bits is finite.** -/
theorem isFinite_ofNat {n : Nat} (h : n < 2 ^ 64) : (ofNat n).isFinite = true := by
  unfold ofNat ofRatio
  by_cases hzero : n = 0
  · rw [if_pos (by simp [hzero])]
    rfl
  rw [if_neg (by simp [hzero])]
  have hlog : n.log2 < 64 := (Nat.log2_lt hzero).mpr h
  have hunit := unitExponent_one n
  generalize unitExponent n 1 = unit at hunit ⊢
  dsimp only
  have hsignificand : (if 0 ≤ unit then roundDiv n (1 * Nat.pow 2 unit.toNat)
      else roundDiv (n * Nat.pow 2 (-unit).toNat) 1) ≤ 2 ^ 54 := by
    split
    · rw [Nat.one_mul]
      exact roundDiv_pow_le (by omega)
    · exact roundDiv_mul_pow_le (by omega)
  rw [if_pos]
  · exact isFinite_ofNat_word (by unfold fractionCount at *; omega)
  · unfold fractionCount at *
    omega

end Listeners.Double
