import NabuIris.Lib.Parts

/-!
# Words on a wire

A packet of 32-bit words, the low byte of each first, as an object of bytes; and the words that a
reader finds in front of a buffer into which the bytes have been copied.
-/

namespace NabuIris.Lib

namespace Region

variable {cells : Nat → UInt8} {ws : List UInt32} {i n : Nat}

/-- The object that holds the words and nothing else. -/
def ofWords (ws : List UInt32) : Region (4 * ws.length) :=
  ⟨fun i => (ws.flatMap wordBytes).getD i 0⟩

/-- The first `n` words. -/
def words (cells : Nat → UInt8) (n : Nat) : List UInt32 :=
  (List.range n).map fun i => wordAt cells (4 * i)

@[simp]
theorem length_words (cells : Nat → UInt8) (n : Nat) : (words cells n).length = n := by
  simp [words]

theorem words_congr {cells' : Nat → UInt8} (hcells : ∀ i < 4 * n, cells i = cells' i) :
    words cells n = words cells' n := by
  refine List.map_congr_left fun i hi => wordAt_congr_cells fun j _ hj => hcells j ?_
  rw [List.mem_range] at hi
  omega

theorem wordAt_wordBytes (w : UInt32) (bs : List UInt8) :
    wordAt (fun i => (wordBytes w ++ bs).getD i 0) 0 = w := by
  refine (wordAt_congr_cells fun i _ hi => ?_).trans (wordAt_store_wordBytes (fun _ => 0) 0 w)
  have hfront : i < (wordBytes w).length := hi
  rw [← Nat.zero_add i, store_inside hfront, Nat.zero_add, List.getD_append _ _ _ _ hfront,
    List.getD_eq_getElem _ _ hfront]

/-- Every word is where it was put. -/
theorem wordAt_ofWords (hi : i < ws.length) : wordAt (ofWords ws).byte (4 * i) = ws[i] := by
  induction ws generalizing i with
  | nil => exact absurd hi (Nat.not_lt_zero i)
  | cons w ws ih =>
      cases i with
      | zero => exact wordAt_wordBytes w _
      | succ i =>
          rw [List.getElem_cons_succ, ← ih (Nat.lt_of_succ_lt_succ hi)]
          refine wordAt_congr (List.map_congr_left fun j _ => ?_)
          have hback : (wordBytes w).length ≤ 4 * (i + 1) + j := by
            rw [length_wordBytes]
            omega
          change ((w :: ws).flatMap wordBytes).getD (4 * (i + 1) + j) 0 = _
          rw [List.flatMap_cons, List.getD_append_right _ _ _ _ hback, length_wordBytes,
            show 4 * (i + 1) + j - 4 = 4 * i + j by omega]
          rfl

theorem words_ofWords (hn : n ≤ ws.length) : words (ofWords ws).byte n = ws.take n := by
  apply List.ext_getElem
  · rw [length_words, List.length_take, Nat.min_eq_left hn]
  · intro i hi _
    rw [length_words] at hi
    rw [List.getElem_take, ← wordAt_ofWords (hi.trans_le hn)]
    simp [words]

/-- **A copy of a packet reads as its words.** -/
theorem words_copied (buf : Nat → UInt8) (hn : n ≤ ws.length) :
    words (store buf 0 (load (ofWords ws).byte 0 (4 * n))) n = ws.take n := by
  rw [← words_ofWords hn]
  apply words_congr
  intro i hi
  have hlen : i < (load (ofWords ws).byte 0 (4 * n)).length := by rwa [length_load]
  rw [← Nat.zero_add i, store_inside hlen, Nat.zero_add, ← List.getD_eq_getElem _ 0 hlen,
    getD_load _ _ hi, Nat.zero_add]

end Region

end NabuIris.Lib
