import Mathlib.Algebra.Order.Group.Abs
import Mathlib.Data.List.Induction
import NabuIris.Lib.Peaks

/-!
# Two sides in balance

Jobs arrive one by one and stay where they are placed, each on the side that carries less at the
time. The sides are never further apart than the largest job.
-/

namespace NabuIris.Lib

variable {α : Type*} [AddCommGroup α] [LinearOrder α] [IsOrderedAddMonoid α]
variable {loads : α × α} {job : α}

/-- The second side takes a job only while the first carries more. -/
def place (loads : α × α) (job : α) : α × α :=
  if loads.2 < loads.1 then (loads.1, loads.2 + job) else (loads.1 + job, loads.2)

def imbalance (loads : α × α) : α := |loads.1 - loads.2|

/-- The job falls on the lighter side, and overshoots it by no more than its own weight. -/
theorem imbalance_place_le (hjob : 0 ≤ job) :
    imbalance (place loads job) ≤ max (imbalance loads) job := by
  unfold imbalance place
  split_ifs with hheavier
  · have hgap : 0 ≤ loads.1 - loads.2 := sub_nonneg.2 hheavier.le
    have hafter : loads.1 - (loads.2 + job) = loads.1 - loads.2 - job := sub_add_eq_sub_sub ..
    show |loads.1 - (loads.2 + job)| ≤ _
    rw [hafter]
    rw [abs_of_nonneg hgap]
    exact abs_sub_le_of_nonneg_of_le hgap (le_max_left _ _) hjob (le_max_right _ _)
  · have hgap : 0 ≤ loads.2 - loads.1 := sub_nonneg.2 (not_lt.1 hheavier)
    have hafter : loads.1 + job - loads.2 = job - (loads.2 - loads.1) := by
      rw [sub_sub_eq_add_sub, add_comm]
    show |loads.1 + job - loads.2| ≤ _
    rw [hafter, abs_sub_comm loads.1 loads.2, abs_of_nonneg hgap]
    exact abs_sub_le_of_nonneg_of_le hjob (le_max_right _ _) hgap (le_max_left _ _)

theorem imbalance_foldl_le {jobs : List α} (hjobs : ∀ job ∈ jobs, 0 ≤ job) :
    imbalance (jobs.foldl place loads) ≤ jobs.foldl max (imbalance loads) := by
  induction jobs using List.reverseRecOn with
  | nil => exact le_rfl
  | append_singleton rest job ih =>
      have hrest := ih fun job hjob => hjobs job (List.mem_append_left _ hjob)
      have hjob : 0 ≤ job := hjobs job (by simp)
      rw [List.foldl_append, List.foldl_append]
      calc imbalance (place (rest.foldl place loads) job)
          ≤ max (imbalance (rest.foldl place loads)) job := imbalance_place_le hjob
        _ ≤ max (rest.foldl max (imbalance loads)) job := max_le_max_right job hrest

end NabuIris.Lib
