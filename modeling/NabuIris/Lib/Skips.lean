import Mathlib.Data.List.Forall2
import Mathlib.Data.List.Infix

/-!
# Bounded skips

An item that asks to be skipped is skipped, unless `limit` items in a row have been. So a window of
more than `limit` items holds one that passes.
-/

namespace NabuIris.Lib.Skips

variable {limit count : Nat} {asks : List Bool} {window : List Bool}

/-- The items skipped in a row, behind an item. -/
def skipped (limit count : Nat) (asks : Bool) : Nat :=
  if asks && count < limit then count + 1 else 0

/-- `true` for the items that pass -/
def passes (limit : Nat) : Nat → List Bool → List Bool
  | _, [] => []
  | count, asks :: rest =>
      (!(asks && count < limit)) :: passes limit (skipped limit count asks) rest

theorem skipped_le (limit count : Nat) (asks : Bool) : skipped limit count asks ≤ limit := by
  unfold skipped
  split_ifs with hskip
  · rw [Bool.and_eq_true, decide_eq_true_eq] at hskip
    exact hskip.2
  · exact Nat.zero_le limit

/-- Skips at the front add to those before. -/
theorem length_le_of_front (hcount : count ≤ limit) (hfront : window <+: passes limit count asks)
    (hskips : true ∉ window) : window = [] ∨ count + window.length ≤ limit := by
  induction asks generalizing count window with
  | nil => exact .inl (List.prefix_nil.1 hfront)
  | cons ask rest ih =>
      rcases window with _ | ⟨passed, window⟩
      · exact .inl rfl
      rw [passes, List.cons_prefix_cons] at hfront
      rw [List.mem_cons, not_or] at hskips
      obtain ⟨hpassed, hrest⟩ := hfront
      have hskip : (ask && decide (count < limit)) = true := by
        rw [hpassed] at hskips
        simpa using Ne.symm hskips.1
      have hbelow : count < limit := by
        rw [Bool.and_eq_true, decide_eq_true_eq] at hskip
        exact hskip.2
      have hnext : skipped limit count ask = count + 1 := if_pos hskip
      rw [hnext] at hrest
      right
      rcases ih hbelow hrest hskips.2 with hnil | hlength
      · rw [hnil, List.length_singleton]
        exact hbelow
      · rw [List.length_cons]
        omega

/-- **Bounded skips.** A long window holds an item that passes. -/
theorem true_mem_of_window (hcount : count ≤ limit) (hwindow : window <:+: passes limit count asks)
    (hlength : limit < window.length) : true ∈ window := by
  by_contra hskips
  induction asks generalizing count with
  | nil =>
      rw [List.infix_nil.1 hwindow, List.length_nil] at hlength
      exact Nat.not_lt_zero _ hlength
  | cons ask rest ih =>
      rcases List.infix_cons_iff.1 hwindow with hfront | hwindow
      · have hfront : window <+: passes limit count (ask :: rest) := hfront
        rcases length_le_of_front hcount hfront hskips with hnil | hle
        · rw [hnil, List.length_nil] at hlength
          exact Nat.not_lt_zero _ hlength
        · omega
      · exact ih (skipped_le _ _ _) hwindow

section Items

open List (Forall₂)

variable {α β : Type*} {R : α → β → Prop}

theorem exists_of_mem {as : List α} {bs : List β} {a : α} (hitems : Forall₂ R as bs) (ha : a ∈ as) :
    ∃ b ∈ bs, R a b := by
  induction hitems with
  | nil => exact absurd ha List.not_mem_nil
  | @cons a' b as bs hfirst _ ih =>
      rcases List.mem_cons.1 ha with rfl | hrest
      · exact ⟨b, List.mem_cons_self, hfirst⟩
      · obtain ⟨b', hb', hR⟩ := ih hrest
        exact ⟨b', List.mem_cons_of_mem b hb', hR⟩

/-- The same for items of which the flags tell what becomes of them. -/
theorem exists_of_window {R : Bool → β → Prop} {items window : List β} (hcount : count ≤ limit)
    (hitems : Forall₂ R (passes limit count asks) items) (hwindow : window <:+: items)
    (hlength : limit < window.length) : ∃ item ∈ window, R true item := by
  obtain ⟨before, behind, rfl⟩ := hwindow
  rw [List.append_assoc] at hitems
  have hfrom := List.forall₂_drop_append _ _ _ hitems
  have hflags := List.forall₂_take_append _ _ _ hfrom
  have hpart : ((passes limit count asks).drop before.length).take window.length <:+:
      passes limit count asks :=
    (List.take_prefix _ _).isInfix.trans (List.drop_suffix _ _).isInfix
  rw [← hflags.length_eq] at hlength
  exact exists_of_mem hflags (true_mem_of_window hcount hpart hlength)

end Items

end NabuIris.Lib.Skips
