import Mathlib.Data.List.Count
import Mathlib.Algebra.Order.Ring.Int
import Mathlib.Tactic.Common

/-!
# Enable counters

One counter for each resource, moved by `acquire` and `release`, together with the lowest value
each has had. A set of resources is balanced over a base when its counters stand one above it or at
it, according to a switch, and none has been below it.
-/

namespace NabuIris.Lib

structure Counters (ρ : Type*) where
  held : ρ → Int
  low : ρ → Int

namespace Counters

variable {ρ : Type*} [DecidableEq ρ]

def start (base : ρ → Int) : Counters ρ := ⟨base, base⟩

def acquire (c : Counters ρ) (r : ρ) : Counters ρ :=
  { c with held := fun r' => if r' = r then c.held r' + 1 else c.held r' }

def release (c : Counters ρ) (r : ρ) : Counters ρ where
  held := fun r' => if r' = r then c.held r' - 1 else c.held r'
  low := fun r' => if r' = r then min (c.low r') (c.held r' - 1) else c.low r'

def acquireAll (c : Counters ρ) (rs : List ρ) : Counters ρ := rs.foldl acquire c

def releaseAll (c : Counters ρ) (rs : List ρ) : Counters ρ := rs.foldl release c

variable (c : Counters ρ) (r : ρ) (rs : List ρ)

@[simp]
theorem acquireAll_nil : c.acquireAll [] = c := rfl

@[simp]
theorem releaseAll_nil : c.releaseAll [] = c := rfl

@[simp]
theorem acquireAll_acquireAll (rs' : List ρ) :
    (c.acquireAll rs).acquireAll rs' = c.acquireAll (rs ++ rs') := by
  simp [acquireAll]

@[simp]
theorem releaseAll_releaseAll (rs' : List ρ) :
    (c.releaseAll rs).releaseAll rs' = c.releaseAll (rs ++ rs') := by
  simp [releaseAll]

theorem held_acquireAll : (c.acquireAll rs).held r = c.held r + rs.count r := by
  induction rs generalizing c with
  | nil => simp
  | cons a rs ih =>
      rw [acquireAll, List.foldl_cons, ← acquireAll, ih]
      by_cases heq : r = a
      · subst heq
        simp only [acquire, if_true, List.count_cons_self]
        push_cast
        omega
      · simp [acquire, heq, List.count_cons_of_ne (Ne.symm heq)]

theorem low_acquireAll : (c.acquireAll rs).low = c.low := by
  induction rs generalizing c with
  | nil => rfl
  | cons a rs ih =>
      rw [acquireAll, List.foldl_cons, ← acquireAll, ih]
      rfl

theorem held_releaseAll : (c.releaseAll rs).held r = c.held r - rs.count r := by
  induction rs generalizing c with
  | nil => simp
  | cons a rs ih =>
      rw [releaseAll, List.foldl_cons, ← releaseAll, ih]
      by_cases heq : r = a
      · subst heq
        simp only [release, if_true, List.count_cons_self]
        push_cast
        omega
      · simp [release, heq, List.count_cons_of_ne (Ne.symm heq)]

/-- Releasing no more than stands above a bound keeps the bound all the way. -/
theorem le_low_releaseAll {b : Int} (hlow : b ≤ c.low r) (hheld : b + rs.count r ≤ c.held r) :
    b ≤ (c.releaseAll rs).low r := by
  induction rs generalizing c with
  | nil => exact hlow
  | cons a rs ih =>
      rw [releaseAll, List.foldl_cons, ← releaseAll]
      by_cases heq : r = a
      · subst heq
        rw [List.count_cons_self] at hheld
        push_cast at hheld
        refine ih _ ?_ ?_
        · simp only [release, if_true]
          omega
        · simp only [release, if_true]
          omega
      · rw [List.count_cons_of_ne (Ne.symm heq)] at hheld
        exact ih _ (by simpa [release, heq] using hlow) (by simpa [release, heq] using hheld)

/-- The resources `rs` stand above `base` exactly when `on`, and no counter has been below it. -/
structure Balanced (base : ρ → Int) (rs : List ρ) (on : Bool) (c : Counters ρ) : Prop where
  held : ∀ r, c.held r = base r + if on then (rs.count r : Int) else 0
  low : ∀ r, base r ≤ c.low r

variable {base : ρ → Int} {c rs}

theorem balanced_start (base : ρ → Int) (rs : List ρ) :
    Balanced base rs false (start base) where
  held r := by simp [start]
  low r := le_refl _

theorem Balanced.acquireAll (hbal : Balanced base rs false c) :
    Balanced base rs true (c.acquireAll rs) where
  held r := by rw [held_acquireAll, hbal.held r]; simp
  low r := by rw [low_acquireAll]; exact hbal.low r

theorem Balanced.releaseAll {rs' : List ρ} (hbal : Balanced base rs true c) (hperm : rs'.Perm rs) :
    Balanced base rs false (c.releaseAll rs') where
  held r := by
    have hcount := hperm.count_eq r
    have hheld := hbal.held r
    simp only [if_true] at hheld
    rw [held_releaseAll, hheld, hcount]
    simp
  low r := by
    have hcount := hperm.count_eq r
    have hheld := hbal.held r
    simp only [if_true] at hheld
    exact le_low_releaseAll c r rs' (hbal.low r) (by omega)

/-! ### Unwinding

A function that acquires and releases in the order of a stack. `lost` is what it gives up while it
is held, `debt` what it releases while it is not. -/

/-- Over `base` the counters hold the stack `rs`, with `lost` besides and less `debt`. -/
structure Stacked (base : ρ → Int) (lost debt rs : List ρ) (c : Counters ρ) : Prop where
  held : ∀ r, c.held r = base r + lost.count r - debt.count r + rs.count r
  low : debt = [] → ∀ r, base r ≤ c.low r

namespace Stacked

variable {lost debt rs' : List ρ}

theorem start (base : ρ → Int) : Stacked base [] [] [] (start base) where
  held r := by simp [Counters.start]
  low _ r := le_refl _

theorem acquireAll (hstacked : Stacked base lost debt rs c) (rs' : List ρ) :
    Stacked base lost debt (rs' ++ rs) (c.acquireAll rs') where
  held r := by
    rw [held_acquireAll, hstacked.held r, List.count_append]
    omega
  low hdebt r := by
    rw [low_acquireAll]
    exact hstacked.low hdebt r

theorem releaseAll (hstacked : Stacked base lost debt (rs' ++ rs) c) :
    Stacked base lost debt rs (c.releaseAll rs') where
  held r := by
    rw [held_releaseAll, hstacked.held r, List.count_append]
    omega
  low hdebt r := by
    have hheld := hstacked.held r
    rw [hdebt, List.count_nil, List.count_append] at hheld
    exact le_low_releaseAll c r rs' (hstacked.low hdebt r) (by omega)

theorem giveUp (hstacked : Stacked base lost debt (rs' ++ rs) c) :
    Stacked base (rs' ++ lost) debt rs c where
  held r := by
    rw [hstacked.held r, List.count_append, List.count_append]
    omega
  low := hstacked.low

theorem overdraw (hstacked : Stacked base lost debt rs c) (hne : rs' ≠ []) :
    Stacked base lost (rs' ++ debt) rs (c.releaseAll rs') where
  held r := by
    rw [held_releaseAll, hstacked.held r, List.count_append]
    omega
  low hdebt := absurd (List.append_eq_nil_iff.1 hdebt).1 hne

end Stacked

end Counters

end NabuIris.Lib
