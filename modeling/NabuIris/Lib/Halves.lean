import Mathlib.Tactic.IntervalCases
import Mathlib.Tactic.Common

/-!
# Two halves of a word

Two 16-bit numbers packed into a 32-bit word, and the ways a driver takes them out again.
-/

namespace NabuIris.Lib

def halves (high low : BitVec 32) : BitVec 32 := high <<< 16 ||| low

theorem getLsbD_of_lt_half {low : BitVec 32} (hlow : low < 0x10000) {i : Nat} (hi : 16 ≤ i) :
    low.getLsbD i = false := by
  have hlt : low.toNat < 2 ^ 16 := by simpa [BitVec.lt_def] using hlow
  have hpow : 2 ^ 16 ≤ 2 ^ i := Nat.pow_le_pow_right (by decide) hi
  exact Nat.testBit_lt_two_pow (lt_of_lt_of_le hlt hpow)

theorem getLsbD_lowMask {i : Nat} (hi : i < 32) :
    (0xffff : BitVec 32).getLsbD i = decide (i < 16) := by
  interval_cases i <;> rfl

theorem getLsbD_highMask {i : Nat} (hi : i < 32) :
    (0xffff0000 : BitVec 32).getLsbD i = decide (16 ≤ i) := by
  interval_cases i <;> rfl

variable {high low : BitVec 32}

theorem halves_and_low (hlow : low < 0x10000) : halves high low &&& 0xffff = low := by
  unfold halves
  apply BitVec.eq_of_getLsbD_eq
  intro i hi
  rw [BitVec.getLsbD_and, BitVec.getLsbD_or, getLsbD_lowMask hi]
  by_cases hhalf : i < 16
  · simp [hhalf]
  · simp [hhalf, getLsbD_of_lt_half hlow (Nat.le_of_not_lt hhalf)]

theorem halves_and_high (hhigh : high < 0x10000) (hlow : low < 0x10000) :
    (halves high low &&& 0xffff0000) >>> 16 = high := by
  unfold halves
  apply BitVec.eq_of_getLsbD_eq
  intro i hi
  rw [BitVec.getLsbD_ushiftRight, BitVec.getLsbD_and, BitVec.getLsbD_or]
  by_cases hhalf : i < 16
  · have hshift : 16 + i < 32 := by omega
    rw [getLsbD_highMask hshift, getLsbD_of_lt_half hlow (Nat.le_add_right 16 i)]
    simp [hshift, hi]
  · rw [getLsbD_of_lt_half hhigh (Nat.le_of_not_lt hhalf), Bool.and_eq_false_iff]
    exact .inr (BitVec.getLsbD_of_ge _ _ (by omega))

theorem halves_shift_low (hhigh : high < 0x10000) (hlow : low < 0x10000) :
    (halves high low >>> 16) &&& 0xffff = high := by
  unfold halves
  apply BitVec.eq_of_getLsbD_eq
  intro i hi
  rw [BitVec.getLsbD_and, BitVec.getLsbD_ushiftRight, BitVec.getLsbD_or, getLsbD_lowMask hi]
  by_cases hhalf : i < 16
  · have hshift : 16 + i < 32 := by omega
    rw [getLsbD_of_lt_half hlow (Nat.le_add_right 16 i)]
    simp [hhalf, hshift, hi]
  · simp [hhalf, getLsbD_of_lt_half hhigh (Nat.le_of_not_lt hhalf)]

end NabuIris.Lib
