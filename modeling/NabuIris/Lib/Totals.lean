import Mathlib.Algebra.BigOperators.Ring.List
import Mathlib.Algebra.Order.BigOperators.Group.List
import Mathlib.Algebra.Order.Group.Int
import Mathlib.Logic.Function.Basic
import Mathlib.Tactic.Positivity
import Mathlib.Tactic.NormNum

/-!
# Totals

What the members of a list weigh together, when one member changes, joins or leaves, and what a
machine word that adds the weights up holds.
-/

namespace NabuIris.Lib

variable {ι : Type*} {weight weight' : ι → Int} {members : List ι} {i : ι}

def total (weight : ι → Int) (members : List ι) : Int := (members.map weight).sum

@[simp]
theorem total_cons : total weight (i :: members) = weight i + total weight members := by
  simp [total]

theorem total_congr (hsame : ∀ i ∈ members, weight i = weight' i) :
    total weight members = total weight' members := by
  rw [total, total, List.map_congr_left hsame]

theorem total_nonneg (hweight : ∀ i ∈ members, 0 ≤ weight i) : 0 ≤ total weight members := by
  apply List.sum_nonneg
  intro value hvalue
  obtain ⟨i, hmem, rfl⟩ := List.mem_map.1 hvalue
  exact hweight i hmem

theorem total_le_total (hweight : ∀ i ∈ members, weight i ≤ weight' i) :
    total weight members ≤ total weight' members := List.sum_le_sum hweight

theorem total_mul_right (weight : ι → Int) (factor : Int) (members : List ι) :
    total (fun i => weight i * factor) members = total weight members * factor :=
  List.sum_map_mul_right ..

theorem foldl_ofInt {width width' : Nat} (weight weight' : ι → Int) (members : List ι)
    (first : BitVec width) (second : BitVec width') :
    members.foldl
        (fun sums i =>
          (sums.1 + BitVec.ofInt width (weight i), sums.2 + BitVec.ofInt width' (weight' i)))
        (first, second) =
      (first + BitVec.ofInt width (total weight members),
        second + BitVec.ofInt width' (total weight' members)) := by
  induction members generalizing first second with
  | nil => simp [total]
  | cons i rest ih =>
      rw [List.foldl_cons, ih, total_cons, total_cons, BitVec.ofInt_add, BitVec.ofInt_add,
        BitVec.add_assoc, BitVec.add_assoc]

theorem ofInt_toNat {width : Nat} {sum : Int} (hpos : 0 ≤ sum) (hsum : sum < 2 ^ width) :
    ((BitVec.ofInt width sum).toNat : Int) = sum := by
  rw [BitVec.toNat_ofInt, Int.toNat_of_nonneg (Int.emod_nonneg _ (by positivity)),
    Int.emod_eq_of_lt hpos (by exact_mod_cast hsum)]

/-- A sum that may be negative, read from a word. -/
theorem le_of_ofInt_toNat_le {width bound : Nat} {sum : Int} (hsum : sum < 2 ^ width)
    (hle : (BitVec.ofInt width sum).toNat ≤ bound) : sum ≤ bound := by
  rcases lt_or_ge sum 0 with hneg | hpos
  · exact hneg.le.trans (Int.natCast_nonneg bound)
  · calc sum = (BitVec.ofInt width sum).toNat := (ofInt_toNat hpos hsum).symm
      _ ≤ bound := by exact_mod_cast hle

section

variable [DecidableEq ι]

theorem total_eq_erase (hmem : i ∈ members) :
    total weight members = total weight (members.erase i) + weight i := by
  rw [total, total, add_comm]
  exact (List.sum_map_erase weight hmem).symm

theorem total_update (hnodup : members.Nodup) (hmem : i ∈ members) (value : Int) :
    total (Function.update weight i value) members = total weight (members.erase i) + value := by
  rw [total_eq_erase hmem, Function.update_self]
  congr 1
  apply total_congr
  intro k hk
  exact Function.update_of_ne (hnodup.mem_erase_iff.1 hk).1 _ _

theorem total_join (hnew : i ∉ members) (value : Int) :
    total (Function.update weight i value) (members ++ [i]) = total weight members + value := by
  have hsame : total (Function.update weight i value) members = total weight members := by
    apply total_congr
    intro k hk
    apply Function.update_of_ne
    rintro rfl
    exact hnew hk
  rw [total, List.map_append, List.sum_append, ← total, hsame]
  simp

end

end NabuIris.Lib
