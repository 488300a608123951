import NabuIris.Lib.Align

/-!
# Size formulas in words and in numbers

A formula over `SizeArith` is at once a computation of machine words and the number that it stands
for. A word is `Within` a number when it is that number and the number has a bound; every operation
carries this on while the bound of its result fits in a word. The bounds are closed terms: a formula
collects its checks, and one evaluation at its end decides them all.
-/

namespace NabuIris.Lib

/-- The operations of a size formula. -/
class SizeArith (α : Type) where
  ofNat : Nat → α
  add : α → α → α
  mul : α → α → α
  div : α → α → α
  shiftLeft : α → Nat → α
  shiftRight : α → Nat → α
  /-- to a multiple of `2 ^ k` -/
  alignTo : α → Nat → α
  lt : α → α → Bool

namespace SizeArith

instance word (w : Nat) : SizeArith (BitVec w) where
  ofNat := BitVec.ofNat w
  add := BitVec.add
  mul := BitVec.mul
  div := BitVec.udiv
  shiftLeft := BitVec.shiftLeft
  shiftRight := BitVec.ushiftRight
  alignTo x k := (x + (BitVec.ofNat w (2 ^ k) - 1)) &&& ~~~(BitVec.ofNat w (2 ^ k) - 1)
  lt := BitVec.ult

instance number : SizeArith Nat where
  ofNat n := n
  add := Nat.add
  mul := Nat.mul
  div := Nat.div
  shiftLeft n k := n * 2 ^ k
  shiftRight n k := n / 2 ^ k
  alignTo n k := alignUp (2 ^ k) n
  lt m n := decide (m < n)

section

variable {α : Type} [SizeArith α]

scoped instance (priority := low) instOfNat (n : Nat) : OfNat α n := ⟨ofNat n⟩

scoped instance (priority := low) instAdd : Add α := ⟨add⟩

scoped instance (priority := low) instMul : Mul α := ⟨mul⟩

scoped instance (priority := low) instDiv : Div α := ⟨div⟩

scoped instance (priority := low) instShiftLeft : HShiftLeft α Nat α := ⟨shiftLeft⟩

scoped instance (priority := low) instShiftRight : HShiftRight α Nat α := ⟨shiftRight⟩

/-- `max_t` -/
def larger (x y : α) : α := if lt x y then y else x

/-- `min_t` -/
def smaller (x y : α) : α := if lt y x then y else x

/-- `DIV_ROUND_UP`, for a divisor that is known -/
def divRoundUp (x : α) (d : Nat) : α := div (add x (ofNat (d - 1))) (ofNat d)

end

end SizeArith

open SizeArith

/-- The word is the number, which has a bound. -/
structure Within {w : Nat} (x : BitVec w) (n bound : Nat) : Prop where
  toNat_eq : x.toNat = n
  le : n ≤ bound

namespace Within

variable {w : Nat} {x y : BitVec w} {m n a b c : Nat}

theorem mono (hx : Within x m a) (hle : a ≤ b) : Within x m b :=
  ⟨hx.toNat_eq, hx.le.trans hle⟩

theorem ofNat (n : Nat) (hfits : n < 2 ^ w) :
    Within (ofNat n : BitVec w) (ofNat n) n :=
  ⟨toNat_ofNat_eq_iff.2 hfits, le_rfl⟩

theorem add (hx : Within x m a) (hy : Within y n b) (hfits : a + b < 2 ^ w) :
    Within (add x y) (add m n) (a + b) := by
  have hle : m + n ≤ a + b := Nat.add_le_add hx.le hy.le
  refine ⟨?_, hle⟩
  change (x + y).toNat = m + n
  rw [BitVec.toNat_add, hx.toNat_eq, hy.toNat_eq, Nat.mod_eq_of_lt (hle.trans_lt hfits)]

/-- A product may have a better bound than that of its factors. -/
theorem mulOf (hx : Within x m a) (hy : Within y n b) (hle : m * n ≤ c)
    (hfits : c < 2 ^ w) : Within (mul x y) (mul m n) c := by
  refine ⟨?_, hle⟩
  change (x * y).toNat = m * n
  rw [BitVec.toNat_mul, hx.toNat_eq, hy.toNat_eq, Nat.mod_eq_of_lt (hle.trans_lt hfits)]

theorem mul (hx : Within x m a) (hy : Within y n b) (hfits : a * b < 2 ^ w) :
    Within (mul x y) (mul m n) (a * b) :=
  hx.mulOf hy (Nat.mul_le_mul hx.le hy.le) hfits

theorem div (hx : Within x m a) (hy : Within y n b) : Within (div x y) (div m n) a := by
  refine ⟨?_, (Nat.div_le_self m n).trans hx.le⟩
  change (x / y).toNat = m / n
  rw [BitVec.toNat_udiv, hx.toNat_eq, hy.toNat_eq]

/-- A divisor that is known improves the bound. -/
theorem divBy (hx : Within x m a) (d : Nat) (hfits : d < 2 ^ w) :
    Within (SizeArith.div x (SizeArith.ofNat d)) (SizeArith.div m (SizeArith.ofNat d)) (a / d) :=
  ⟨(hx.div (ofNat d hfits)).toNat_eq, Nat.div_le_div_right hx.le⟩

theorem shiftLeft (hx : Within x m a) (k : Nat) (hfits : a * 2 ^ k < 2 ^ w) :
    Within (shiftLeft x k) (shiftLeft m k) (a * 2 ^ k) := by
  have hle : m * 2 ^ k ≤ a * 2 ^ k := Nat.mul_le_mul_right _ hx.le
  refine ⟨?_, hle⟩
  change (x <<< k).toNat = m * 2 ^ k
  rw [BitVec.toNat_shiftLeft, hx.toNat_eq, Nat.shiftLeft_eq, Nat.mod_eq_of_lt (hle.trans_lt hfits)]

theorem shiftRight (hx : Within x m a) (k : Nat) :
    Within (shiftRight x k) (shiftRight m k) (a / 2 ^ k) := by
  refine ⟨?_, Nat.div_le_div_right hx.le⟩
  change (x >>> k).toNat = m / 2 ^ k
  rw [BitVec.toNat_ushiftRight, hx.toNat_eq, Nat.shiftRight_eq_div_pow]

theorem alignTo (hx : Within x m a) (k : Nat) (hk : k < w)
    (hfits : alignUp (2 ^ k) a < 2 ^ w) :
    Within (alignTo x k) (alignTo m k) (alignUp (2 ^ k) a) := by
  have hle : alignUp (2 ^ k) m ≤ alignUp (2 ^ k) a := alignUp_mono hx.le
  have hx' : x = BitVec.ofNat w m := by rw [← hx.toNat_eq, BitVec.ofNat_toNat, BitVec.setWidth_eq]
  refine ⟨?_, hle⟩
  change ((x + (BitVec.ofNat w (2 ^ k) - 1)) &&& ~~~(BitVec.ofNat w (2 ^ k) - 1)).toNat =
    alignUp (2 ^ k) m
  rw [hx', ofNat_alignUp hk, toNat_ofNat_eq_iff]
  exact hle.trans_lt hfits

theorem divRoundUp (hx : Within x m a) (d : Nat) (hd : d < 2 ^ w)
    (hfits : a + (d - 1) < 2 ^ w) :
    Within (divRoundUp x d) (divRoundUp m d) ((a + (d - 1)) / d) :=
  (hx.add (ofNat (d - 1) (by omega)) hfits).divBy d hd

theorem lt_eq (hx : Within x m a) (hy : Within y n b) : lt x y = lt m n := by
  change decide (x.toNat < y.toNat) = decide (m < n)
  rw [hx.toNat_eq, hy.toNat_eq]

theorem ite {p q : Bool} (hp : p = q) (hx : Within x m a) (hy : Within y n b) :
    Within (if p then x else y) (if q then m else n) (max a b) := by
  subst hp
  cases p
  · exact ⟨hy.toNat_eq, hy.le.trans (le_max_right a b)⟩
  · exact ⟨hx.toNat_eq, hx.le.trans (le_max_left a b)⟩

/-- The branches of a test on the numbers may use its outcome for a common bound. -/
theorem iteOf {p q : Bool} (hp : p = q) (hx : q = true → Within x m a)
    (hy : q = false → Within y n a) : Within (if p then x else y) (if q then m else n) a := by
  subst hp
  cases p
  · exact hy rfl
  · exact hx rfl

theorem larger (hx : Within x m a) (hy : Within y n b) :
    Within (larger x y) (larger m n) (max b a) :=
  ite (hx.lt_eq hy) hy hx

/-- A cap bounds the smaller of two. -/
theorem smaller (hx : Within x m a) (hy : Within y n b) : Within (smaller x y) (smaller m n) b := by
  unfold SizeArith.smaller
  rw [hy.lt_eq hx]
  cases hlt : SizeArith.lt n m
  · exact ⟨hx.toNat_eq, (Nat.le_of_not_lt (of_decide_eq_false hlt)).trans hy.le⟩
  · exact hy

end Within

/-- The word is `Within` the number once the checks along its formula have passed. -/
structure Checked {w : Nat} (x : BitVec w) (n bound : Nat) (ok : Bool) : Prop where
  within_of : ok = true → Within x n bound

namespace Checked

variable {w : Nat} {x y z : BitVec w} {l m n a b c : Nat} {p q : Bool}

/-- The end of a formula, where its checks are evaluated. -/
theorem within (hx : Checked x m a p) (hok : (p && decide (a ≤ b)) = true) : Within x m b := by
  obtain ⟨hp, hle⟩ := Bool.and_eq_true_iff.1 hok
  exact (hx.within_of hp).mono (of_decide_eq_true hle)

/-- A rule with one operand, and a check of its own. -/
theorem map {P : Prop} [Decidable P] (hx : Checked x m a p)
    (hrule : Within x m a → P → Within z l c) : Checked z l c (p && decide P) := by
  refine ⟨fun hok => ?_⟩
  obtain ⟨hp, hP⟩ := Bool.and_eq_true_iff.1 hok
  exact hrule (hx.within_of hp) (of_decide_eq_true hP)

theorem both (hx : Checked x m a p) (hy : Checked y n b q)
    (hrule : Within x m a → Within y n b → Within z l c) : Checked z l c (p && q) := by
  refine ⟨fun hok => ?_⟩
  obtain ⟨hp, hq⟩ := Bool.and_eq_true_iff.1 hok
  exact hrule (hx.within_of hp) (hy.within_of hq)

/-- A rule with two operands, and a check of its own. -/
theorem map₂ {P : Prop} [Decidable P] (hx : Checked x m a p) (hy : Checked y n b q)
    (hrule : Within x m a → Within y n b → P → Within z l c) :
    Checked z l c (p && q && decide P) := by
  refine ⟨fun hok => ?_⟩
  obtain ⟨hpq, hP⟩ := Bool.and_eq_true_iff.1 hok
  obtain ⟨hp, hq⟩ := Bool.and_eq_true_iff.1 hpq
  exact hrule (hx.within_of hp) (hy.within_of hq) (of_decide_eq_true hP)

theorem ofNat (n : Nat) :
    Checked (ofNat n : BitVec w) (ofNat n) n (decide (n < 2 ^ w)) :=
  ⟨fun hok => .ofNat n (of_decide_eq_true hok)⟩

theorem add (hx : Checked x m a p) (hy : Checked y n b q) :
    Checked (add x y) (add m n) (a + b) (p && q && decide (a + b < 2 ^ w)) :=
  hx.map₂ hy .add

theorem mul (hx : Checked x m a p) (hy : Checked y n b q) :
    Checked (mul x y) (mul m n) (a * b) (p && q && decide (a * b < 2 ^ w)) :=
  hx.map₂ hy .mul

theorem mulOf (hx : Checked x m a p) (hy : Checked y n b q) (hle : m * n ≤ c) :
    Checked (SizeArith.mul x y) (SizeArith.mul m n) c (p && q && decide (c < 2 ^ w)) :=
  hx.map₂ hy fun hx hy => hx.mulOf hy hle

theorem div (hx : Checked x m a p) (hy : Checked y n b q) :
    Checked (div x y) (div m n) a (p && q) :=
  hx.both hy .div

theorem divBy (hx : Checked x m a p) (d : Nat) :
    Checked (SizeArith.div x (SizeArith.ofNat d)) (SizeArith.div m (SizeArith.ofNat d)) (a / d)
      (p && decide (d < 2 ^ w)) :=
  hx.map fun hx => hx.divBy d

theorem shiftLeft (hx : Checked x m a p) (k : Nat) :
    Checked (shiftLeft x k) (shiftLeft m k) (a * 2 ^ k) (p && decide (a * 2 ^ k < 2 ^ w)) :=
  hx.map fun hx => hx.shiftLeft k

theorem shiftRight (hx : Checked x m a p) (k : Nat) :
    Checked (shiftRight x k) (shiftRight m k) (a / 2 ^ k) p :=
  ⟨fun hok => (hx.within_of hok).shiftRight k⟩

theorem alignTo (hx : Checked x m a p) (k : Nat) :
    Checked (alignTo x k) (alignTo m k) (alignUp (2 ^ k) a)
      (p && decide (k < w ∧ alignUp (2 ^ k) a < 2 ^ w)) :=
  hx.map fun hx hfits => hx.alignTo k hfits.1 hfits.2

theorem divRoundUp (hx : Checked x m a p) (d : Nat) :
    Checked (divRoundUp x d) (divRoundUp m d) ((a + (d - 1)) / d)
      (p && decide (d < 2 ^ w ∧ a + (d - 1) < 2 ^ w)) :=
  hx.map fun hx hfits => hx.divRoundUp d hfits.1 hfits.2

theorem larger (hx : Checked x m a p) (hy : Checked y n b q) :
    Checked (larger x y) (larger m n) (max b a) (p && q) :=
  hx.both hy .larger

theorem smaller (hx : Checked x m a p) (hy : Checked y n b q) :
    Checked (smaller x y) (smaller m n) b (p && q) :=
  hx.both hy .smaller

end Checked

theorem Within.checked {w m a : Nat} {x : BitVec w} (hx : Within x m a) : Checked x m a true :=
  ⟨fun _ => hx⟩

end NabuIris.Lib
