import Mathlib.Tactic.Common

/-!
# Return codes and core states

The driver's functions return `0` or a negated errno. `orGoto` is the test after a call that jumps
to an error label, or returns.
-/

namespace NabuIris

def eio : Int := 5
def eagain : Int := 11
def enomem : Int := 12
def eacces : Int := 13
def ebusy : Int := 16
def einval : Int := 22
def enospc : Int := 28
def enodata : Int := 61
def ebadmsg : Int := 74
def etimedout : Int := 110
def ealready : Int := 114

/-- `ret = call; if (ret) goto label; next` -/
def orGoto {σ β : Type} (call : Int × σ) (label : Int → σ → β) (next : σ → β) : β :=
  if call.1 ≠ 0 then label call.1 call.2 else next call.2

@[simp]
theorem orGoto_zero {σ β : Type} (state : σ) (label : Int → σ → β) (next : σ → β) :
    orGoto (0, state) label next = next state := rfl

/-- What holds at the label when the call failed, and of what follows when it did not. -/
theorem orGoto_rule {σ β : Type} {P : β → Prop} {call : Int × σ} {label : Int → σ → β}
    {next : σ → β} (hlabel : ∀ ret state, call = (ret, state) → ret ≠ 0 → P (label ret state))
    (hnext : ∀ state, call = (0, state) → P (next state)) : P (orGoto call label next) := by
  obtain ⟨ret, state⟩ := call
  by_cases hret : ret = 0
  · subst hret
    exact hnext state rfl
  · rw [orGoto, if_pos hret]
    exact hlabel ret state rfl hret

/-- The same for a call that leaves the state alone. -/
theorem orGoto_value_rule {σ β : Type} {P : β → Prop} {value : Int} {state : σ}
    {label : Int → σ → β} {next : σ → β} (hlabel : value ≠ 0 → P (label value state))
    (hnext : value = 0 → P (next state)) : P (orGoto (value, state) label next) := by
  by_cases hvalue : value = 0
  · subst hvalue
    exact hnext rfl
  · rw [orGoto, if_pos hvalue]
    exact hlabel hvalue

/-- What the call leaves holds on both sides of the test. -/
theorem orGoto_split {σ β : Type} {Q : σ → Prop} {P : β → Prop} {call : Int × σ}
    {label : Int → σ → β} {next : σ → β} (hcall : Q call.2)
    (hlabel : ∀ ret state, ret ≠ 0 → Q state → P (label ret state))
    (hnext : ∀ state, Q state → P (next state)) : P (orGoto call label next) := by
  unfold orGoto
  split_ifs with hret
  · exact hlabel _ _ hret hcall
  · exact hnext _ hcall

theorem orGoto_keep {σ β : Type} {Q : σ → Prop} {P : β → Prop} {call : Int × σ}
    {label : Int → σ → β} {next : σ → β} (hcall : Q call.2)
    (hlabel : ∀ ret state, Q state → P (label ret state))
    (hnext : ∀ state, Q state → P (next state)) : P (orGoto call label next) :=
  orGoto_split hcall (fun ret state _ => hlabel ret state) hnext

/-- A call that returns the errors of the call inside it. -/
theorem orGoto_assoc {σ β : Type} {giveUp : Int → σ → Int × σ} {call : Int × σ}
    {next : σ → Int × σ} {label : Int → σ → β} {done : σ → β}
    (hgiveUp : ∀ ret state, giveUp ret state = (ret, state)) :
    orGoto (orGoto call giveUp next) label done =
      orGoto call label fun state => orGoto (next state) label done := by
  unfold orGoto
  by_cases hret : call.1 = 0
  · simp only [hret, ne_eq, not_true_eq_false, if_false]
  · simp only [hret, ne_eq, not_false_eq_true, if_true, hgiveUp]

/-- When the labels return errors, a success has passed the test. -/
theorem orGoto_success {σ : Type} {call : Int × σ} {label : Int → σ → Int × σ}
    {next : σ → Int × σ} (hlabel : ∀ ret state, ret ≠ 0 → (label ret state).1 ≠ 0)
    (hret : (orGoto call label next).1 = 0) :
    ∃ state, call = (0, state) ∧ orGoto call label next = next state := by
  revert hret
  refine orGoto_rule (P := fun r => r.1 = 0 → ∃ state, call = (0, state) ∧ r = next state)
    (fun ret state _ hne hzero => absurd hzero (hlabel ret state hne)) fun state heq _ => ?_
  exact ⟨state, heq, rfl⟩

/-- `enum iris_core_state` -/
inductive CoreState
  | deinit
  | init
  | error
deriving DecidableEq, Repr

end NabuIris
