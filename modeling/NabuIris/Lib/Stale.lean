import Mathlib.Tactic.Common
import NabuIris.Lib.Reading

/-!
# Memories that agree below a limit

What lies beyond the limit is left over from before. A word of which only some bytes lie below the
limit *may be* any word with those bytes, and for each of them there is a memory that holds it.
-/

namespace NabuIris.Lib

namespace Reading

variable {α : Type} {mem mem' mem'' : Memory} {limit offset other : Nat} {w : BitVec 32}

def AgreeBelow (limit : Nat) (mem mem' : Memory) : Prop :=
  ∀ offset < limit, mem offset = mem' offset

theorem AgreeBelow.refl : AgreeBelow limit mem mem := fun _ _ => rfl

theorem AgreeBelow.symm (h : AgreeBelow limit mem mem') : AgreeBelow limit mem' mem :=
  fun offset hlt => (h offset hlt).symm

theorem AgreeBelow.trans (h : AgreeBelow limit mem mem') (h' : AgreeBelow limit mem' mem'') :
    AgreeBelow limit mem mem'' :=
  fun offset hlt => (h offset hlt).trans (h' offset hlt)

theorem AgreeBelow.mono (hle : other ≤ limit) (h : AgreeBelow limit mem mem') :
    AgreeBelow other mem mem' :=
  fun offset hlt => h offset (Nat.lt_of_lt_of_le hlt hle)

theorem AgreeBelow.run_eq {x : Reading α} (h : AgreeBelow limit mem mem')
    (hwithin : Within limit mem x) : x.run mem = x.run mem' :=
  run_congr x fun offset htouched => h offset (hwithin offset htouched)

theorem AgreeBelow.wordAt_eq (h : AgreeBelow limit mem mem') (hle : offset + 4 ≤ limit) :
    wordAt mem offset = wordAt mem' offset :=
  h.run_eq ((within_u32 offset).2 hle)

/-! ### The bytes of a word -/

def byteOf (w : BitVec 32) (i : Nat) : BitVec 8 := w.extractLsb' (8 * i) 8

theorem word_of_bytes (w : BitVec 32) :
    byteOf w 3 ++ byteOf w 2 ++ byteOf w 1 ++ byteOf w 0 = w := by
  apply BitVec.eq_of_getLsbD_eq
  intro j hj
  simp only [byteOf, BitVec.getLsbD_append, BitVec.getLsbD_extractLsb']
  grind

theorem wordAt_bytes (mem : Memory) (offset : Nat) :
    wordAt mem offset =
      mem (offset + 3) ++ mem (offset + 2) ++ mem (offset + 1) ++ mem (offset + 0) := rfl

theorem wordAt_of_bytes (hbyte : ∀ i < 4, mem (offset + i) = byteOf w i) :
    wordAt mem offset = w := by
  rw [wordAt_bytes, hbyte 0 (by omega), hbyte 1 (by omega), hbyte 2 (by omega), hbyte 3 (by omega),
    word_of_bytes]

theorem wordAt_congr (hagree : ∀ i < 4, mem (offset + i) = mem' (other + i)) :
    wordAt mem offset = wordAt mem' other := by
  rw [wordAt_bytes, wordAt_bytes, hagree 0 (by omega), hagree 1 (by omega), hagree 2 (by omega),
    hagree 3 (by omega)]

theorem byteOf_wordAt (mem : Memory) (offset : Nat) {i : Nat} (hi : i < 4) :
    byteOf (wordAt mem offset) i = mem (offset + i) := by
  apply BitVec.eq_of_getLsbD_eq
  intro j hj
  have hcases : i = 0 ∨ i = 1 ∨ i = 2 ∨ i = 3 := by omega
  rw [wordAt_bytes, byteOf]
  simp only [BitVec.getLsbD_append, BitVec.getLsbD_extractLsb']
  grind

/-! ### Words that the bytes below the limit leave possible -/

def MayBe (limit : Nat) (mem : Memory) (offset : Nat) (w : BitVec 32) : Prop :=
  ∀ i < 4, offset + i < limit → mem (offset + i) = byteOf w i

theorem AgreeBelow.mayBe (h : AgreeBelow limit mem mem') :
    MayBe limit mem offset (wordAt mem' offset) := by
  intro i hi hlt
  rw [byteOf_wordAt mem' offset hi]
  exact h _ hlt

theorem MayBe.of_agree (h : AgreeBelow limit mem mem') (hmay : MayBe limit mem' offset w) :
    MayBe limit mem offset w :=
  fun i hi hlt => (h _ hlt).trans (hmay i hi hlt)

theorem mayBe_of_le (hle : limit ≤ offset) : MayBe limit mem offset w := by
  intro i _ hlt
  omega

/-- The word with another last byte. -/
def withTop (b : BitVec 8) (w : BitVec 32) : BitVec 32 := b ++ w.setWidth 24

theorem MayBe.withTop (hmay : MayBe limit mem offset w) (hle : limit ≤ offset + 3)
    (b : BitVec 8) : MayBe limit mem offset (withTop b w) := by
  intro i hi hlt
  have hlow : i < 3 := by omega
  rw [hmay i hi hlt]
  apply BitVec.eq_of_getLsbD_eq
  intro j hj
  simp only [byteOf, Reading.withTop, BitVec.getLsbD_append, BitVec.getLsbD_extractLsb',
    BitVec.getLsbD_setWidth]
  grind

theorem withTop_ne {b b' : BitVec 8} (hne : b ≠ b') (w w' : BitVec 32) :
    withTop b w ≠ withTop b' w' := by
  intro heq
  refine hne ?_
  have htop := congrArg (fun word : BitVec 32 => word.extractLsb' 24 8) heq
  simpa only [withTop, BitVec.extractLsb'_append_eq_left] using htop

/-! ### Memories that hold a given word -/

def store (mem : Memory) (offset : Nat) (w : BitVec 32) : Memory := fun o =>
  if offset ≤ o ∧ o < offset + 4 then byteOf w (o - offset) else mem o

theorem store_of_lt {o : Nat} (hlt : o < offset) : store mem offset w o = mem o := by
  rw [store, if_neg]
  omega

theorem store_of_le {o : Nat} (hle : offset + 4 ≤ o) : store mem offset w o = mem o := by
  rw [store, if_neg]
  omega

theorem wordAt_store : wordAt (store mem offset w) offset = w := by
  refine wordAt_of_bytes fun i hi => ?_
  rw [store, if_pos ⟨by omega, by omega⟩, Nat.add_sub_cancel_left]

theorem wordAt_store_of_disjoint (hdisjoint : other + 4 ≤ offset ∨ offset + 4 ≤ other) :
    wordAt (store mem offset w) other = wordAt mem other := by
  refine wordAt_congr fun i hi => ?_
  rcases hdisjoint with hbefore | hafter
  · exact store_of_lt (by omega)
  · exact store_of_le (by omega)

theorem MayBe.agree_store (hmay : MayBe limit mem offset w) :
    AgreeBelow limit mem (store mem offset w) := by
  intro o hlt
  by_cases hin : offset ≤ o ∧ o < offset + 4
  · rw [store, if_pos hin]
    have hbyte := hmay (o - offset) (by omega) (by omega)
    rwa [Nat.add_sub_cancel' hin.1] at hbyte
  · rw [store, if_neg hin]

end Reading

end NabuIris.Lib
