import Mathlib.Data.List.GetD
import NabuIris.Lib.Stale

/-!
# Writing to a memory

A store changes the bytes that it covers and no other. A word is four bytes, the low one first.
-/

namespace NabuIris.Lib

namespace Writing

open Reading

variable {mem : Memory} {offset other i : Nat} {bs : List (BitVec 8)} {w : BitVec 32}

def store (mem : Memory) (offset : Nat) (bs : List (BitVec 8)) : Memory := fun i =>
  if offset ≤ i then bs.getD (i - offset) (mem i) else mem i

def storeWord (mem : Memory) (offset : Nat) (w : BitVec 32) : Memory :=
  store mem offset [byteOf w 0, byteOf w 1, byteOf w 2, byteOf w 3]

/-- Stores in order: an offset and the word. -/
def storeWords (stores : List (Nat × BitVec 32)) (mem : Memory) : Memory :=
  stores.foldl (fun mem s => storeWord mem s.1 s.2) mem

/-- `memset(mem + offset, 0, n)` -/
def clear (mem : Memory) (offset n : Nat) : Memory := store mem offset (List.replicate n 0)

theorem store_outside (hi : i < offset ∨ offset + bs.length ≤ i) :
    store mem offset bs i = mem i := by
  unfold store
  split_ifs with hle
  · exact List.getD_eq_default bs (mem i) (by omega)
  · rfl

theorem store_inside (hi : i < bs.length) : store mem offset bs (offset + i) = bs[i] := by
  unfold store
  rw [if_pos (Nat.le_add_right _ _), Nat.add_sub_cancel_left]
  exact List.getD_eq_getElem bs (mem (offset + i)) hi

theorem wordAt_store_outside (hother : other + 4 ≤ offset ∨ offset + bs.length ≤ other) :
    wordAt (store mem offset bs) other = wordAt mem other :=
  wordAt_congr fun _ _ => store_outside (by omega)

theorem storeWord_outside (hi : i < offset ∨ offset + 4 ≤ i) : storeWord mem offset w i = mem i :=
  store_outside hi

theorem wordAt_storeWord_outside (hother : other + 4 ≤ offset ∨ offset + 4 ≤ other) :
    wordAt (storeWord mem offset w) other = wordAt mem other :=
  wordAt_store_outside hother

@[simp]
theorem wordAt_storeWord (mem : Memory) (offset : Nat) (w : BitVec 32) :
    wordAt (storeWord mem offset w) offset = w := by
  refine wordAt_of_bytes fun i hi => ?_
  have hinside : i < [byteOf w 0, byteOf w 1, byteOf w 2, byteOf w 3].length := hi
  rw [storeWord, store_inside hinside]
  have hcases : i = 0 ∨ i = 1 ∨ i = 2 ∨ i = 3 := by omega
  rcases hcases with rfl | rfl | rfl | rfl <;> rfl

theorem clear_outside {n : Nat} (hi : i < offset ∨ offset + n ≤ i) :
    clear mem offset n i = mem i :=
  store_outside (by rwa [List.length_replicate])

end Writing

namespace Reading

variable {mem : Memory}

/-- A run of bytes that lies at an offset. -/
theorem run_bytes {bs : List (BitVec 8)} {offset : Nat}
    (hbytes : ∀ i (hi : i < bs.length), mem (offset + i) = bs[i]) :
    (bytes bs.length offset).run mem = bs := by
  induction bs generalizing offset with
  | nil => rfl
  | cons b rest ih =>
      have hfirst : mem offset = b := hbytes 0 (Nat.succ_pos _)
      have hrest : (bytes rest.length (offset + 1)).run mem = rest := ih fun i hi => by
        rw [Nat.add_assoc, Nat.add_comm 1 i]
        exact hbytes (i + 1) (Nat.succ_lt_succ hi)
      have hbyte : (u8 offset).run mem = b := hfirst
      rw [List.length_cons, bytes, run_bind, run_bind, hbyte, hrest]
      rfl

end Reading

end NabuIris.Lib
