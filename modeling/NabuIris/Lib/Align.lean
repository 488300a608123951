import Mathlib.Data.Nat.ModEq
import Mathlib.Tactic.Common

/-!
# Rounding up to a multiple

`alignUp` on numbers, and the masked addition that computes it modulo the width of a word.
-/

namespace NabuIris.Lib

def alignUp (a n : Nat) : Nat := (n + (a - 1)) / a * a

variable {a b m n : Nat}

theorem dvd_alignUp (a n : Nat) : a ∣ alignUp a n := Nat.dvd_mul_left a _

theorem le_alignUp (ha : 0 < a) (n : Nat) : n ≤ alignUp a n := by
  have hdiv := Nat.div_add_mod (n + (a - 1)) a
  have hmod := Nat.mod_lt (n + (a - 1)) ha
  rw [Nat.mul_comm] at hdiv
  unfold alignUp
  omega

theorem alignUp_lt (ha : 0 < a) (n : Nat) : alignUp a n < n + a := by
  have hle := Nat.div_mul_le_self (n + (a - 1)) a
  unfold alignUp
  omega

/-- The least multiple that is not below `n`. -/
theorem alignUp_le_iff (ha : 0 < a) (hdvd : a ∣ b) : alignUp a n ≤ b ↔ n ≤ b := by
  constructor
  · exact (le_alignUp ha n).trans
  · intro hle
    obtain ⟨c, rfl⟩ := hdvd
    have hlt : a * (alignUp a n / a) < a * (c + 1) := by
      calc
        a * (alignUp a n / a) = alignUp a n := Nat.mul_div_cancel' (dvd_alignUp a n)
        _ < n + a := alignUp_lt ha n
        _ ≤ a * c + a := Nat.add_le_add_right hle a
        _ = a * (c + 1) := (Nat.mul_succ a c).symm
    rw [← Nat.mul_div_cancel' (dvd_alignUp a n)]
    exact Nat.mul_le_mul_left a (Nat.le_of_lt_succ (Nat.lt_of_mul_lt_mul_left hlt))

theorem alignUp_of_dvd (ha : 0 < a) (hdvd : a ∣ n) : alignUp a n = n :=
  le_antisymm ((alignUp_le_iff ha hdvd).2 le_rfl) (le_alignUp ha n)

theorem alignUp_mono (hle : m ≤ n) : alignUp a m ≤ alignUp a n :=
  Nat.mul_le_mul_right a (Nat.div_le_div_right (Nat.add_le_add_right hle _))

/-- Rounding up forgets what is below a multiple already reached. -/
theorem alignUp_alignUp (ha : 0 < a) (hdvd : a ∣ b) : alignUp a (alignUp b n) = alignUp b n :=
  alignUp_of_dvd ha (hdvd.trans (dvd_alignUp b n))

theorem alignUp_add_mul (ha : 0 < a) (n c : Nat) : alignUp a (n + a * c) = alignUp a n + a * c := by
  unfold alignUp
  rw [Nat.add_right_comm, Nat.add_mul_div_left _ _ ha, Nat.add_mul, Nat.mul_comm c]

theorem alignUp_mul (c : Nat) (hc : 0 < c) (ha : 0 < a) :
    alignUp (c * a) (c * n) = c * alignUp a n := by
  have hpos : 0 < c * a := Nat.mul_pos hc ha
  apply le_antisymm
  · rw [alignUp_le_iff hpos (Nat.mul_dvd_mul_left c (dvd_alignUp a n))]
    exact Nat.mul_le_mul_left c (le_alignUp ha n)
  · obtain ⟨d, hd⟩ := dvd_alignUp (c * a) (c * n)
    have hle : c * n ≤ c * (a * d) := by
      calc
        c * n ≤ alignUp (c * a) (c * n) := le_alignUp hpos _
        _ = c * (a * d) := by rw [hd, Nat.mul_assoc]
    rw [hd, Nat.mul_assoc]
    refine Nat.mul_le_mul_left c ?_
    rw [alignUp_le_iff ha (Nat.dvd_mul_right a d)]
    exact Nat.le_of_mul_le_mul_left hle hc

/-! ### Words -/

variable {w k : Nat}

theorem toNat_ofNat_eq_iff : (BitVec.ofNat w n).toNat = n ↔ n < 2 ^ w := by
  rw [BitVec.toNat_ofNat, Nat.mod_eq_iff_lt (by simp)]

theorem lowMask_eq (hk : k < w) : BitVec.ofNat w (2 ^ k) - 1 = BitVec.ofNat w (2 ^ k - 1) := by
  have hpow : 2 ^ k < 2 ^ w := Nat.pow_lt_pow_right (by decide) hk
  exact BitVec.ofNat_sub_ofNat_of_le _ _ (lt_of_le_of_lt Nat.one_le_two_pow hpow) Nat.one_le_two_pow

theorem and_not_lowMask (hk : k < w) (x : BitVec w) :
    x &&& ~~~(BitVec.ofNat w (2 ^ k) - 1) = BitVec.ofNat w (x.toNat / 2 ^ k * 2 ^ k) := by
  rw [lowMask_eq hk]
  apply BitVec.eq_of_getLsbD_eq
  intro i hi
  rw [BitVec.getLsbD_and, BitVec.getLsbD_not, BitVec.getLsbD_ofNat, BitVec.getLsbD_ofNat,
    Nat.testBit_two_pow_sub_one, Nat.mul_comm, Nat.testBit_two_pow_mul, Nat.testBit_div_two_pow]
  by_cases hlow : i < k
  · simp [hi, hlow, Nat.not_le.2 hlow]
  · have hle : k ≤ i := Nat.le_of_not_lt hlow
    simp [hi, hlow, hle, BitVec.getLsbD, Nat.sub_add_cancel]

/-- **The masked addition rounds up**, modulo the width. -/
theorem ofNat_alignUp (hk : k < w) (n : Nat) :
    (BitVec.ofNat w n + (BitVec.ofNat w (2 ^ k) - 1)) &&& ~~~(BitVec.ofNat w (2 ^ k) - 1) =
      BitVec.ofNat w (alignUp (2 ^ k) n) := by
  have hsum : BitVec.ofNat w n + (BitVec.ofNat w (2 ^ k) - 1) =
      BitVec.ofNat w (n + (2 ^ k - 1)) := by
    rw [lowMask_eq hk, BitVec.ofNat_add_ofNat]
  have hwidth : 2 ^ w = 2 ^ k * 2 ^ (w - k) := by rw [← Nat.pow_add, Nat.add_sub_cancel' hk.le]
  rw [hsum, and_not_lowMask hk]
  apply BitVec.eq_of_toNat_eq
  rw [BitVec.toNat_ofNat, BitVec.toNat_ofNat, BitVec.toNat_ofNat, alignUp]
  calc
    (n + (2 ^ k - 1)) % 2 ^ w / 2 ^ k * 2 ^ k % 2 ^ w
        = (n + (2 ^ k - 1)) / 2 ^ k % 2 ^ (w - k) * 2 ^ k % 2 ^ w := by
      rw [hwidth, Nat.mod_mul_right_div_self]
    _ = (n + (2 ^ k - 1)) / 2 ^ k * 2 ^ k % 2 ^ w := by
      rw [hwidth, Nat.mul_comm (2 ^ k), Nat.mul_mod_mul_right, Nat.mul_mod_mul_right, Nat.mod_mod]

end NabuIris.Lib
