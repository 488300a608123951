import Mathlib.Data.List.Basic
import Mathlib.Data.Nat.Basic
import Mathlib.Order.BoundedOrder.Basic
import Mathlib.Order.MinMax

/-!
# Running maxima

Reports come in, each with some values, and only the largest value so far is kept. What is kept
belongs to the latest report as long as no report before it has stated more.
-/

namespace NabuIris.Lib

variable {α : Type*} {values report : List α} {reports : List (List α)} {a b : α}

/-- The latest report that states anything. -/
def latest (reports : List (List α)) : Option (List α) :=
  reports.reverse.find? fun report => !report.isEmpty

theorem mem_of_latest (hlatest : latest reports = some report) : report ∈ reports :=
  List.mem_reverse.1 (List.mem_of_find?_eq_some hlatest)

variable [LinearOrder α]

theorem foldl_max_le : values.foldl max a ≤ b ↔ a ≤ b ∧ ∀ value ∈ values, value ≤ b := by
  induction values generalizing a with
  | nil => simp
  | cons value rest ih => rw [List.foldl_cons, ih, max_le_iff, List.forall_mem_cons, and_assoc]

/-- Report by report, or value by value. -/
theorem foldl_reports (reports : List (List α)) (a : α) :
    reports.foldl (fun kept report => report.foldl max kept) a = reports.flatten.foldl max a := by
  induction reports generalizing a with
  | nil => rfl
  | cons report rest ih => rw [List.foldl_cons, ih, List.flatten_cons, List.foldl_append]

variable [OrderBot α]

def peak (values : List α) : α := values.foldl max ⊥

theorem peak_le : peak values ≤ b ↔ ∀ value ∈ values, value ≤ b :=
  foldl_max_le.trans (and_iff_right bot_le)

/-- **The latest report rules** exactly when no other is above it. -/
theorem peak_eq_latest (hlatest : latest reports = some report) :
    peak reports.flatten = peak report ↔ ∀ value ∈ reports.flatten, value ≤ peak report := by
  have hbelow : peak report ≤ peak reports.flatten := peak_le.2 fun value hvalue =>
    peak_le.1 le_rfl value (List.mem_flatten.2 ⟨report, mem_of_latest hlatest, hvalue⟩)
  rw [← peak_le]
  exact ⟨fun heq => heq.le, fun hle => hle.antisymm hbelow⟩

end NabuIris.Lib
