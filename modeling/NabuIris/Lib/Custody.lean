import Mathlib.Order.BooleanAlgebra.Set
import Mathlib.Data.List.Induction

/-!
# Custody of lent items

A log of events in which items are taken over and given back. `Ledger` says that the two alternate
for each item and that `held` is what was taken and not given back; `Grows` bounds what a log gets.
-/

namespace NabuIris.Lib

inductive Transfer (α : Type*)
  | take (a : α)
  | give (a : α)

section

variable {ε α : Type*} [DecidableEq α] (transfer : ε → Option (Transfer α))

/-- Whether `a` is held after `event`, given whether it was before. -/
def holdsStep (a : α) (held : Bool) (event : ε) : Bool :=
  match transfer event with
  | none => held
  | some (.take b) => if b = a then true else held
  | some (.give b) => if b = a then false else held

def holds (log : List ε) (a : α) : Bool := log.foldl (holdsStep transfer a) false

/-- An item is taken only when it is not held, and given back only when it is. -/
def Fits (log : List ε) (event : ε) : Prop :=
  match transfer event with
  | none => True
  | some (.take a) => holds transfer log a = false
  | some (.give a) => holds transfer log a = true

def Alternates (log : List ε) : Prop :=
  ∀ pre event, pre ++ [event] <+: log → Fits transfer pre event

structure Ledger (log : List ε) (held : Set α) : Prop where
  alternates : Alternates transfer log
  holds_iff : ∀ a, holds transfer log a = true ↔ a ∈ held

variable {transfer}

theorem holds_append (log : List ε) (event : ε) (a : α) :
    holds transfer (log ++ [event]) a = holdsStep transfer a (holds transfer log a) event := by
  rw [holds, List.foldl_append]
  rfl

theorem alternates_nil : Alternates transfer [] := by
  intro pre event hpre
  simp at hpre

theorem alternates_append {log : List ε} {event : ε} (hlog : Alternates transfer log)
    (hevent : Fits transfer log event) : Alternates transfer (log ++ [event]) := by
  intro pre last hpre
  rcases List.prefix_concat_iff.1 hpre with heq | hbefore
  · obtain ⟨hinit, hlast⟩ := List.append_inj' heq rfl
    cases hlast
    exact hinit ▸ hevent
  · exact hlog pre last hbefore

namespace Ledger

variable {log : List ε} {held : Set α} {event : ε} {a : α}

theorem nil : Ledger transfer [] (∅ : Set α) :=
  ⟨alternates_nil, fun a => by simp [holds]⟩

theorem note (hledger : Ledger transfer log held) (hevent : transfer event = none) :
    Ledger transfer (log ++ [event]) held := by
  refine ⟨alternates_append hledger.alternates (by simp [Fits, hevent]), fun b => ?_⟩
  rw [holds_append, holdsStep, hevent]
  exact hledger.holds_iff b

theorem take (hledger : Ledger transfer log held) (hevent : transfer event = some (.take a))
    (hfree : a ∉ held) : Ledger transfer (log ++ [event]) (insert a held) := by
  have hnot : holds transfer log a = false :=
    Bool.eq_false_iff.2 fun h => hfree ((hledger.holds_iff a).1 h)
  refine ⟨alternates_append hledger.alternates (by simpa [Fits, hevent] using hnot), fun b => ?_⟩
  rw [holds_append, holdsStep, hevent, Set.mem_insert_iff, ← hledger.holds_iff b]
  by_cases hb : a = b
  · simp [hb]
  · simp [hb, Ne.symm hb]

theorem give (hledger : Ledger transfer log held) (hevent : transfer event = some (.give a))
    (hheld : a ∈ held) : Ledger transfer (log ++ [event]) (held \ {a}) := by
  have hholds : holds transfer log a = true := (hledger.holds_iff a).2 hheld
  refine ⟨alternates_append hledger.alternates (by simpa [Fits, hevent] using hholds), fun b => ?_⟩
  rw [holds_append, holdsStep, hevent, Set.mem_sdiff, Set.mem_singleton_iff, ← hledger.holds_iff b]
  by_cases hb : a = b
  · simp [hb]
  · simp [hb, Ne.symm hb]

/-- An item that is taken and given back at once. -/
theorem pass {event' : ε} (hledger : Ledger transfer log held)
    (hevent : transfer event = some (.take a)) (hevent' : transfer event' = some (.give a))
    (hfree : a ∉ held) : Ledger transfer (log ++ [event] ++ [event']) held := by
  have hboth := (hledger.take hevent hfree).give hevent' (Set.mem_insert a held)
  rwa [Set.insert_sdiff_self_of_notMem hfree] at hboth

end Ledger

end

section

variable {ε : Type*} {ok ok' : ε → Prop} {log mid last : List ε}

/-- `last` adds to `log` only events that satisfy `ok`. -/
def Grows (ok : ε → Prop) (log last : List ε) : Prop :=
  ∃ suffix, last = log ++ suffix ∧ ∀ event ∈ suffix, ok event

namespace Grows

theorem refl (log : List ε) : Grows ok log log := ⟨[], by simp, by simp⟩

theorem trans (hfirst : Grows ok log mid) (hsecond : Grows ok mid last) : Grows ok log last := by
  obtain ⟨first, rfl, hok⟩ := hfirst
  obtain ⟨second, rfl, hok'⟩ := hsecond
  refine ⟨first ++ second, List.append_assoc _ _ _, fun event hevent => ?_⟩
  rcases List.mem_append.1 hevent with h | h
  · exact hok event h
  · exact hok' event h

theorem snoc (hgrows : Grows ok log mid) {event : ε} (hevent : ok event) :
    Grows ok log (mid ++ [event]) :=
  hgrows.trans ⟨[event], rfl, fun _ he => List.mem_singleton.1 he ▸ hevent⟩

theorem mono (hgrows : Grows ok log last) (hmono : ∀ event, ok event → ok' event) :
    Grows ok' log last := by
  obtain ⟨suffix, heq, hok⟩ := hgrows
  exact ⟨suffix, heq, fun event hevent => hmono event (hok event hevent)⟩

theorem of_not_ok (hgrows : Grows ok log last) {event : ε} (hnot : ¬ok event)
    (hevent : event ∈ last) : event ∈ log := by
  obtain ⟨suffix, rfl, hok⟩ := hgrows
  rcases List.mem_append.1 hevent with h | h
  · exact h
  · exact absurd (hok event h) hnot

theorem suffix (hgrows : Grows ok log last) {suffix : List ε} (heq : last = log ++ suffix) :
    ∀ event ∈ suffix, ok event := by
  obtain ⟨suffix', heq', hok⟩ := hgrows
  rw [heq] at heq'
  rw [List.append_cancel_left heq']
  exact hok

end Grows

end

end NabuIris.Lib
