import Mathlib.Data.List.Induction
import Mathlib.Order.WellFounded
import Mathlib.Logic.Function.Basic
import Mathlib.Tactic.Common

/-!
# A ring of slots

A write goes to the slot after the last one written and starts over at the end. The index is reduced
only by the next write, so that it may stand one past the last slot. After a list of writes a slot
holds the last of those whose place in the list it is, modulo the capacity; a search from slot zero
finds the lowest of these, whatever its age.
-/

namespace NabuIris.Lib

structure Ring (α : Type*) where
  slots : Nat → α
  next : Nat

namespace Ring

variable {α : Type*} {n : Nat}

/-- The slot of the next write. -/
def place (n : Nat) (ring : Ring α) : Nat := if n ≤ ring.next then 0 else ring.next

def push (n : Nat) (a : α) (ring : Ring α) : Ring α where
  slots := Function.update ring.slots (ring.place n) a
  next := ring.place n + 1

def pushAll (n : Nat) (ring : Ring α) (as : List α) : Ring α :=
  as.foldl (fun ring a => ring.push n a) ring

theorem push_slots (a : α) (ring : Ring α) :
    (ring.push n a).slots = Function.update ring.slots (ring.place n) a := rfl

theorem push_next (a : α) (ring : Ring α) : (ring.push n a).next = ring.place n + 1 := rfl

/-- The first slot with an element of `p`. -/
def search (n : Nat) (p : α → Bool) (ring : Ring α) : Option Nat :=
  (List.range n).find? fun i => p (ring.slots i)

/-- What a ring holds after `as`, all written since it held `start`. -/
structure Holds (n : Nat) (start : Nat → α) (as : List α) (ring : Ring α) : Prop where
  bounded : ring.next ≤ n
  next : ring.next % n = as.length % n
  recent : ∀ k (hk : k < as.length), as.length ≤ k + n → ring.slots (k % n) = as[k]
  older : ∀ i, as.length ≤ i → ring.slots i = start i

theorem Holds.place_eq {start : Nat → α} {as : List α} {ring : Ring α}
    (hholds : ring.Holds n start as) : ring.place n = as.length % n := by
  unfold place
  split_ifs with hend
  · rw [← hholds.next, le_antisymm hholds.bounded hend, Nat.mod_self]
  · rw [← hholds.next, Nat.mod_eq_of_lt (by omega)]

/-- Two of `n` consecutive places are not in one slot. -/
theorem place_ne {k l : Nat} (hlt : k < l) (hnear : l < k + n) : k % n ≠ l % n := by
  intro heq
  have hdvd : n ∣ l - k := Nat.dvd_of_mod_eq_zero (Nat.sub_mod_eq_zero_of_mod_eq heq.symm)
  have hle : n ≤ l - k := Nat.le_of_dvd (by omega) hdvd
  omega

theorem Holds.push {start : Nat → α} {as : List α} {ring : Ring α} (hn : 0 < n)
    (hholds : ring.Holds n start as) (a : α) : (ring.push n a).Holds n start (as ++ [a]) := by
  have hplace : ring.place n = as.length % n := hholds.place_eq
  have hlt : as.length % n < n := Nat.mod_lt _ hn
  refine ⟨?_, ?_, fun k hk hrecent => ?_, fun i hi => ?_⟩
  · rw [push_next, hplace]
    omega
  · rw [push_next, hplace, List.length_append, List.length_singleton, Nat.mod_add_mod]
  · simp only [List.length_append, List.length_singleton] at hk hrecent
    rw [push_slots, hplace]
    rcases Nat.lt_succ_iff_lt_or_eq.1 hk with hold | rfl
    · rw [Function.update_of_ne (place_ne hold (by omega)), List.getElem_append_left hold]
      exact hholds.recent k hold (by omega)
    · rw [Function.update_self, List.getElem_concat_length rfl]
  · simp only [List.length_append, List.length_singleton] at hi
    have hle : as.length % n ≤ as.length := Nat.mod_le _ _
    rw [push_slots, hplace, Function.update_of_ne (by omega)]
    exact hholds.older i (by omega)

theorem holds_pushAll (hn : 0 < n) (start : Nat → α) (as : List α) :
    (pushAll n { slots := start, next := 0 } as).Holds n start as := by
  induction as using List.reverseRecOn with
  | nil => exact ⟨Nat.zero_le n, rfl, fun k hk => absurd hk (Nat.not_lt_zero k), fun _ _ => rfl⟩
  | append_singleton as a ih =>
      rw [pushAll, List.foldl_append]
      exact ih.push hn a

/-! ### Searching -/

/-- The place `k` is one of the last `n` of `as`, and holds an element of `p`. -/
def Candidate (n : Nat) (p : α → Bool) (as : List α) (k : Nat) : Prop :=
  as.length ≤ k + n ∧ ∃ hk : k < as.length, p as[k] = true

/-- The candidate in the lowest slot. -/
def Lowest (n : Nat) (p : α → Bool) (as : List α) (k : Nat) : Prop :=
  Candidate n p as k ∧ ∀ j, Candidate n p as j → k % n ≤ j % n

/-- The candidate that was written last. -/
def Newest (n : Nat) (p : α → Bool) (as : List α) (k : Nat) : Prop :=
  Candidate n p as k ∧ ∀ j, Candidate n p as j → j ≤ k

/-- A slot that was written holds one of the last `n` elements. -/
theorem exists_recent {i l : Nat} (hi : i < l) (hin : i < n) :
    ∃ k < l, l ≤ k + n ∧ k % n = i := by
  have hsplit := Nat.div_add_mod (l - 1 - i) n
  have hrest : (l - 1 - i) % n < n := Nat.mod_lt _ (by omega)
  refine ⟨i + n * ((l - 1 - i) / n), by omega, by omega, ?_⟩
  rw [Nat.add_mul_mod_self_left, Nat.mod_eq_of_lt hin]

theorem Holds.search {start : Nat → α} {as : List α} {ring : Ring α} (hn : 0 < n)
    (hholds : ring.Holds n start as) {p : α → Bool} {k : Nat} (hlowest : Lowest n p as k) :
    ring.search n p = some (k % n) := by
  obtain ⟨⟨hrecent, hk, hp⟩, hleast⟩ := hlowest
  have hslot : ring.slots (k % n) = as[k] := hholds.recent k hk hrecent
  rw [Ring.search, List.find?_range_eq_some]
  refine ⟨by rw [hslot]; exact hp, List.mem_range.2 (Nat.mod_lt k hn), fun i hi => ?_⟩
  obtain ⟨j, hj, hjrecent, hji⟩ : ∃ j < as.length, as.length ≤ j + n ∧ j % n = i :=
    exists_recent (lt_of_lt_of_le hi ((Nat.mod_le k n).trans hk.le))
      (hi.trans (Nat.mod_lt k hn))
  rw [← hji, hholds.recent j hj hjrecent, Bool.not_eq_true']
  by_contra hmatch
  have hle := hleast j ⟨hjrecent, hj, Bool.not_eq_false _ ▸ hmatch⟩
  omega

/-- Where there is a candidate, there is a lowest one. -/
theorem Candidate.exists_lowest {p : α → Bool} {as : List α} {k : Nat}
    (hcandidate : Candidate n p as k) : ∃ j, Lowest n p as j := by
  classical
  obtain ⟨j, hj, hleast⟩ := WellFounded.has_min (measure (· % n)).wf {j | Candidate n p as j}
    ⟨k, hcandidate⟩
  exact ⟨j, hj, fun i hi => Nat.not_lt.1 (hleast i hi)⟩

/-- Once all slots are written, a search misses only where there is no candidate. -/
theorem Holds.search_eq_none_iff {start : Nat → α} {as : List α} {ring : Ring α} (hn : 0 < n)
    (hholds : ring.Holds n start as) (hfull : n ≤ as.length) {p : α → Bool} :
    ring.search n p = none ↔ ∀ k, ¬Candidate n p as k := by
  constructor
  · intro hnone k hcandidate
    obtain ⟨j, hlowest⟩ := hcandidate.exists_lowest
    rw [hholds.search hn hlowest] at hnone
    exact Option.some_ne_none _ hnone
  · intro hall
    rw [Ring.search, List.find?_eq_none]
    intro i hi hp
    have hlt : i < n := List.mem_range.1 hi
    obtain ⟨k, hk, hrecent, hki⟩ := exists_recent (hlt.trans_le hfull) hlt
    rw [← hki, hholds.recent k hk hrecent] at hp
    exact hall k ⟨hrecent, hk, hp⟩

/-- The index stands past the last slot after each full round, and only then. -/
theorem pushAll_next_eq_iff (hn : 0 < n) (start : Nat → α) (as : List α) :
    (pushAll n { slots := start, next := 0 } as).next = n ↔ as ≠ [] ∧ n ∣ as.length := by
  have hholds := holds_pushAll hn start as
  have hbounded := hholds.bounded
  have hnext := hholds.next
  rw [Nat.dvd_iff_mod_eq_zero, ← hnext]
  induction as using List.reverseRecOn with
  | nil => exact iff_of_false (Nat.ne_of_lt hn) fun h => h.1 rfl
  | append_singleton as a _ =>
      have hpos : 0 < (pushAll n { slots := start, next := 0 } (as ++ [a])).next := by
        rw [pushAll, List.foldl_append]
        exact Nat.succ_pos _
      constructor
      · intro heq
        rw [heq, Nat.mod_self]
        exact ⟨by simp, rfl⟩
      · rintro ⟨-, hzero⟩
        by_contra hne
        rw [Nat.mod_eq_of_lt (lt_of_le_of_ne hbounded hne)] at hzero
        omega

end Ring

end NabuIris.Lib
