import Mathlib.Data.List.Infix

/-!
# What a log says

A log grows at its end. `EachAfter` is a rule that every entry meets given the entries before it,
and `Since` an event that no mark has followed; both are read off the last entry.
-/

namespace NabuIris.Lib

variable {α : Type*} {P : List α → α → Prop} {mark event : α → Prop} {log new : List α} {x : α}

def EachAfter (P : List α → α → Prop) (log : List α) : Prop :=
  ∀ pre x, pre ++ [x] <+: log → P pre x

/-- The event is in the log, and no mark behind it. -/
def Since (mark event : α → Prop) (log : List α) : Prop :=
  ∃ a c b, log = a ++ c :: b ∧ event c ∧ ∀ x ∈ b, ¬mark x

theorem eachAfter_nil : EachAfter P [] := by
  intro pre x hbegin
  have hlength := hbegin.length_le
  simp at hlength

theorem eachAfter_snoc : EachAfter P (log ++ [x]) ↔ EachAfter P log ∧ P log x := by
  constructor
  · intro heach
    exact ⟨fun pre y hbegin => heach pre y (hbegin.trans (List.prefix_append _ _)),
      heach log x List.prefix_rfl⟩
  · rintro ⟨heach, hlast⟩ pre y hbegin
    rcases List.prefix_concat_iff.1 hbegin with heq | hold
    · obtain ⟨rfl, hy⟩ := List.append_inj' heq rfl
      obtain rfl : y = x := List.singleton_inj.1 hy
      exact hlast
    · exact heach pre y hold

theorem not_since_nil : ¬Since mark event [] := by
  rintro ⟨a, c, b, hlog, -⟩
  exact absurd hlog.symm (List.append_ne_nil_of_right_ne_nil a (List.cons_ne_nil c b))

theorem since_snoc :
    Since mark event (log ++ [x]) ↔ event x ∨ (¬mark x ∧ Since mark event log) := by
  constructor
  · rintro ⟨a, c, b, hlog, hevent, hnone⟩
    rcases List.eq_nil_or_concat b with rfl | ⟨b, y, rfl⟩
    · obtain ⟨-, hx⟩ := List.append_inj' hlog rfl
      obtain rfl : x = c := List.singleton_inj.1 hx
      exact .inl hevent
    · rw [List.concat_eq_append] at hlog hnone
      have hsplit : log ++ [x] = (a ++ c :: b) ++ [y] := by
        rw [hlog, List.append_assoc, List.cons_append]
      obtain ⟨rfl, hx⟩ := List.append_inj' hsplit rfl
      obtain rfl : x = y := List.singleton_inj.1 hx
      exact .inr ⟨hnone x (List.mem_append_right _ List.mem_cons_self),
        a, c, b, rfl, hevent, fun z hz => hnone z (List.mem_append_left _ hz)⟩
  · rintro (hevent | ⟨hmark, a, c, b, rfl, hevent, hnone⟩)
    · exact ⟨log, x, [], rfl, hevent, fun _ hz => absurd hz List.not_mem_nil⟩
    · refine ⟨a, c, b ++ [x], by rw [List.append_assoc, List.cons_append], hevent, ?_⟩
      intro z hz
      rcases List.mem_append.1 hz with hold | hlast
      · exact hnone z hold
      · rw [List.mem_singleton.1 hlast]
        exact hmark

/-- Entries that are neither do not change what has happened since. -/
theorem since_append_of_none (hnew : ∀ y ∈ new, ¬mark y ∧ ¬event y) :
    Since mark event (log ++ new) ↔ Since mark event log := by
  induction new using List.reverseRecOn with
  | nil => rw [List.append_nil]
  | append_singleton rest y ih =>
      have hlast := hnew y (List.mem_append_right _ List.mem_cons_self)
      rw [← List.append_assoc, since_snoc, ih fun z hz => hnew z (List.mem_append_left _ hz)]
      exact ⟨fun h => h.elim (fun hevent => absurd hevent hlast.2) And.right,
        fun h => .inr ⟨hlast.1, h⟩⟩

theorem eachAfter_append_of_free (heach : EachAfter P log)
    (hnew : ∀ y ∈ new, ∀ pre, P pre y) : EachAfter P (log ++ new) := by
  induction new using List.reverseRecOn with
  | nil => rwa [List.append_nil]
  | append_singleton rest y ih =>
      rw [← List.append_assoc, eachAfter_snoc]
      exact ⟨ih fun z hz => hnew z (List.mem_append_left _ hz),
        hnew y (List.mem_append_right _ List.mem_cons_self) _⟩

end NabuIris.Lib
