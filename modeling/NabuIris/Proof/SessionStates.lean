import NabuIris.Proof.FlushAccounting

/-!
# The states of a decoder session

In every run of a decoder of the first generation the second bit of a pair comes after the first,
only bits that are allowed by themselves are set, and the state tells which queues are streaming. In
a rollback the state still tells CAPTURE, and a stopped queue is marked stopped after SESSION_END.
-/

namespace NabuIris

open Lib

/-! ### The sub-state -/

theorem hasFlag_bit (subState : SubState) {i : Nat} (hi : i < 8) :
    hasFlag subState (BitVec.twoPow 8 i) = subState.getLsbD i := by
  have hpos : BitVec.twoPow 8 i ≠ 0 := by
    intro hzero
    have hbit := congrArg (fun bits => bits.getLsbD i) hzero
    simp [hi] at hbit
  unfold hasFlag
  rw [BitVec.and_twoPow]
  cases subState.getLsbD i with
  | false => rfl
  | true => simpa using hpos

section Bits

variable (subState : SubState)

theorem hasFlag_subDrc : hasFlag subState subDrc = subState.getLsbD 1 :=
  hasFlag_bit subState (i := 1) (by decide)

theorem hasFlag_subDrcLast : hasFlag subState subDrcLast = subState.getLsbD 2 :=
  hasFlag_bit subState (i := 2) (by decide)

theorem hasFlag_subDrain : hasFlag subState subDrain = subState.getLsbD 3 :=
  hasFlag_bit subState (i := 3) (by decide)

theorem hasFlag_subDrainLast : hasFlag subState subDrainLast = subState.getLsbD 4 :=
  hasFlag_bit subState (i := 4) (by decide)

end Bits

/-- The second bit of a pair is set only with the first. -/
structure Paired (subState : SubState) : Prop where
  drc : subState.getLsbD 2 = true → subState.getLsbD 1 = true
  drain : subState.getLsbD 4 = true → subState.getLsbD 3 = true

namespace Paired

variable {subState : SubState}

theorem zero : Paired 0 := ⟨fun h => absurd h (by decide), fun h => absurd h (by decide)⟩

/-- Bits are set without a second one, or with the first one. -/
theorem set (hpaired : Paired subState) {bits : SubState}
    (hdrc : bits.getLsbD 2 = true → subState.getLsbD 1 = true)
    (hdrain : bits.getLsbD 4 = true → subState.getLsbD 3 = true) : Paired (subState ||| bits) := by
  constructor
  · simp only [BitVec.getLsbD_or, Bool.or_eq_true]
    exact fun h => .inl (h.elim hpaired.drc hdrc)
  · simp only [BitVec.getLsbD_or, Bool.or_eq_true]
    exact fun h => .inl (h.elim hpaired.drain hdrain)

/-- Bits are cleared, the second of a pair with the first. -/
theorem clear (hpaired : Paired subState) {bits : SubState}
    (hdrc : bits.getLsbD 1 = true → bits.getLsbD 2 = true)
    (hdrain : bits.getLsbD 3 = true → bits.getLsbD 4 = true) :
    Paired (subState &&& ~~~bits) := by
  constructor
  · simp only [BitVec.getLsbD_and, BitVec.getLsbD_not, Bool.and_eq_true, Bool.not_eq_true',
      decide_eq_true_eq, ← Bool.not_eq_true]
    exact fun ⟨hlast, _, hkept⟩ => ⟨hpaired.drc hlast, by decide, fun h => hkept (hdrc h)⟩
  · simp only [BitVec.getLsbD_and, BitVec.getLsbD_not, Bool.and_eq_true, Bool.not_eq_true',
      decide_eq_true_eq, ← Bool.not_eq_true]
    exact fun ⟨hlast, _, hkept⟩ => ⟨hpaired.drain hlast, by decide, fun h => hkept (hdrain h)⟩

end Paired

/-! ### Bits that are allowed -/

theorem setsDisallowed_eq_false {state : InstState} {before after : SubState} :
    setsDisallowed state before after = false ↔ ∀ bit ∈ subStateBits, hasFlag after bit = true →
      hasFlag before bit = false → irisInstAllowSubState state bit = true := by
  simp only [setsDisallowed, List.any_eq_false, Bool.and_eq_true, Bool.not_eq_true']
  exact forall₂_congr fun bit _ => by
    cases hasFlag after bit <;> cases hasFlag before bit <;>
      cases irisInstAllowSubState state bit <;> simp

theorem setsDisallowed_trans {state : InstState} {before mid after : SubState}
    (hfirst : setsDisallowed state before mid = false)
    (hsecond : setsDisallowed state mid after = false) :
    setsDisallowed state before after = false := by
  rw [setsDisallowed_eq_false] at *
  intro bit hbit hafter hbefore
  cases hmid : hasFlag mid bit with
  | true => exact hfirst bit hbit hmid hbefore
  | false => exact hsecond bit hbit hafter hmid

theorem setsDisallowed_self (state : InstState) (subState : SubState) :
    setsDisallowed state subState subState = false :=
  setsDisallowed_eq_false.2 fun bit _ hafter hbefore => by rw [hafter] at hbefore; cases hbefore

theorem hasFlag_and_left {before mask bit : SubState}
    (hflag : hasFlag (before &&& mask) bit = true) : hasFlag before bit = true := by
  unfold hasFlag at *
  simp only [decide_eq_true_eq] at *
  intro hzero
  refine hflag ?_
  rw [BitVec.and_assoc, BitVec.and_comm mask, ← BitVec.and_assoc, hzero]
  exact BitVec.zero_and

theorem setsDisallowed_clear (state : InstState) (before bits : SubState) :
    setsDisallowed state before (before &&& bits) = false :=
  setsDisallowed_eq_false.2 fun bit _ hafter hbefore => by
    rw [hasFlag_and_left hafter] at hbefore
    cases hbefore

theorem setsDisallowed_set {state : InstState} {bits : SubState} (before : SubState)
    (hallow : ∀ bit ∈ subStateBits, hasFlag bits bit = true →
      irisInstAllowSubState state bit = true) :
    setsDisallowed state before (before ||| bits) = false :=
  setsDisallowed_eq_false.2 fun bit hbit hafter hbefore => by
    rw [hasFlag_or, hbefore, Bool.false_or] at hafter
    exact hallow bit hbit hafter

/-- What the driver sets together is allowed together or not at all. -/
theorem allowed_together {state : InstState} {bits : SubState}
    (hbits : DrcBits state bits ∨ bits ∈ [subDrcLast ||| subOutputPause,
      subDrainLast ||| subOutputPause, subDrain, subInputPause, subLoadResources])
    (hallow : irisInstAllowSubState state bits = true) :
    ∀ bit ∈ subStateBits, hasFlag bits bit = true → irisInstAllowSubState state bit = true := by
  revert hallow
  simp only [DrcBits, List.mem_cons, List.not_mem_nil, or_false] at hbits
  rcases hbits with (⟨rfl, rfl | rfl⟩ | rfl) | rfl | rfl | rfl | rfl | rfl
  · decide
  · decide
  all_goals cases state <;> decide

/-- What a turn, or several, does to the state and the sub-state. -/
structure SubStep (s t : Inst) : Prop where
  gen : t.gen = s.gen
  domain : t.domain = s.domain
  streaming : t.streaming = s.streaming
  rollback : t.startStreamingRollbackType = s.startStreamingRollbackType
  state : t.state = s.state ∨ t.state = .error
  paired : Paired s.subState → Paired t.subState
  allowed : setsDisallowed s.state s.subState t.subState = false

namespace SubStep

variable {s t u : Inst}

theorem refl (s : Inst) : SubStep s s :=
  ⟨rfl, rfl, rfl, rfl, .inl rfl, id, setsDisallowed_self _ _⟩

theorem trans (hfirst : SubStep s t) (hsecond : SubStep t u) : SubStep s u where
  gen := hsecond.gen.trans hfirst.gen
  domain := hsecond.domain.trans hfirst.domain
  streaming := hsecond.streaming.trans hfirst.streaming
  rollback := hsecond.rollback.trans hfirst.rollback
  state := by
    obtain hstate | hstate := hsecond.state
    · exact hfirst.state.imp hstate.trans hstate.trans
    · exact .inr hstate
  paired := fun hpaired => hsecond.paired (hfirst.paired hpaired)
  allowed := by
    refine setsDisallowed_trans hfirst.allowed ?_
    obtain hstate | hstate := hfirst.state
    · rw [← hstate]
      exact hsecond.allowed
    · -- in the error state nothing is allowed, so nothing was set
      have hnone := hsecond.allowed
      rw [setsDisallowed_eq_false] at hnone ⊢
      intro bit hbit hafter hbefore
      have hallow := hnone bit hbit hafter hbefore
      have hzero : bit = 0 := by simpa [hstate, irisInstAllowSubState] using hallow
      simp [hzero, hasFlag] at hafter

end SubStep

theorem KeepsControl.subStep {s t : Inst} (hkeeps : KeepsControl s t) : SubStep s t where
  gen := hkeeps.gen
  domain := hkeeps.domain
  streaming := hkeeps.streaming
  rollback := hkeeps.rollback
  state := hkeeps.state
  paired := fun hpaired => hkeeps.subState.symm ▸ hpaired
  allowed := by
    rw [hkeeps.subState]
    exact setsDisallowed_self _ _

/-- A change of the sub-state alone. -/
theorem SubStep.of_subState {s t : Inst} {subState : SubState} {last : Bool}
    (hinst : t = { s with subState, lastBufferDequeued := last })
    (hpaired : Paired s.subState → Paired subState)
    (hallowed : setsDisallowed s.state s.subState subState = false) : SubStep s t := by
  subst hinst
  exact ⟨rfl, rfl, rfl, rfl, .inl rfl, hpaired, hallowed⟩

theorem clears_pair {pair : SubState} {i : Nat} (inst : Inst) (hbit : pair.getLsbD i = true) :
    (pair ||| pausedSubState inst).getLsbD i = true := by
  rw [BitVec.getLsbD_or, hbit, Bool.true_or]

theorem clears_none {pair : SubState} {i : Nat} (inst : Inst)
    (hbit : (subInputPause ||| subOutputPause).getLsbD i = false) :
    (pair ||| pausedSubState inst).getLsbD i = pair.getLsbD i := by
  rw [pausedSubState, BitVec.getLsbD_or, BitVec.getLsbD_and, hbit, Bool.and_false, Bool.or_false]

theorem Turn.subStep {response : Option Bool} {late last : Prop} {s t : Session}
    (hturn : Turn response late last s t) : SubStep s.inst t.inst := by
  cases hturn with
  | keeps hinst => exact hinst.subStep
  | flush hinst | answer _ hinst | lastBuffer _ _ _ hinst | resumeLate _ hinst =>
      rw [hinst]
      exact ⟨rfl, rfl, rfl, rfl, .inl rfl, id, setsDisallowed_self _ _⟩
  | arm hbits _ hallow hinst =>
      refine .of_subState hinst (fun hpaired => ?_)
        (setsDisallowed_set _ (allowed_together (.inl hbits) hallow))
      obtain ⟨rfl, -⟩ | rfl := hbits
      · exact hpaired.set (fun h => absurd h (by decide)) fun h => absurd h (by decide)
      · exact hpaired.set (fun h => absurd h (by decide)) fun h => absurd h (by decide)
  | lastSeen hpair hhalf hallow hinst =>
      obtain ⟨rfl, rfl⟩ | ⟨rfl, rfl⟩ := hpair
      · rw [hasFlag_subDrc] at hhalf
        exact .of_subState hinst
          (fun hpaired => hpaired.set (fun _ => hhalf) fun h => absurd h (by decide))
          (setsDisallowed_set _ (allowed_together (.inr (by simp)) hallow))
      · rw [hasFlag_subDrain] at hhalf
        exact .of_subState hinst
          (fun hpaired => hpaired.set (fun h => absurd h (by decide)) fun _ => hhalf)
          (setsDisallowed_set _ (allowed_together (.inr (by simp)) hallow))
  | stop hbits hinst =>
      obtain rfl | ⟨rfl, hallow⟩ := hbits
      · exact .of_subState hinst
          (fun hpaired => hpaired.set (fun h => absurd h (by decide)) fun h => absurd h (by decide))
          (setsDisallowed_set _ fun bit _ hflag => by simp [hasFlag] at hflag)
      · exact .of_subState hinst
          (fun hpaired => hpaired.set (fun h => absurd h (by decide)) fun h => absurd h (by decide))
          (setsDisallowed_set _ (allowed_together (.inr (by simp)) hallow))
  | resume hpair hinst =>
      refine .of_subState hinst (fun hpaired => ?_) (setsDisallowed_clear _ _ _)
      obtain ⟨rfl, -⟩ | ⟨rfl, -⟩ := hpair
      · exact hpaired.clear (fun _ => clears_pair _ (by decide)) fun h => absurd h (by
          rw [clears_none _ (by decide)]
          decide)
      · exact hpaired.clear (fun h => absurd h (by
          rw [clears_none _ (by decide)]
          decide)) fun _ => clears_pair _ (by decide)
  | initial hnone hinst =>
      refine .of_subState hinst (fun hpaired => ⟨fun hlast => ?_, fun hlast => ?_⟩)
        (setsDisallowed_clear _ _ _)
      · rw [hasFlag_subDrc] at hnone
        rw [BitVec.getLsbD_and, Bool.and_eq_true] at hlast
        rw [hpaired.drc hlast.1] at hnone
        cases hnone
      · rw [BitVec.getLsbD_and, Bool.and_eq_true] at hlast ⊢
        exact ⟨hpaired.drain hlast.1, by decide⟩

theorem Turns.subStep {response : Option Bool} {late last : Prop} {s t : Session}
    (hturns : Turns response late last s t) : SubStep s.inst t.inst := by
  induction hturns with
  | refl => exact .refl _
  | tail _ hturn ih => exact ih.trans hturn.subStep

/-! ### What a call keeps -/

/-- A decoder of the first generation between two changes of its state, which stays `x` but for an
error. -/
structure Held (x : InstState) (f : Plane → Bool) (r : Option Plane) (s : Session) : Prop where
  gen : s.inst.gen = .gen1
  domain : s.inst.domain = .decoder
  state : s.inst.state = x ∨ s.inst.state = .error
  streaming : s.inst.streaming = f
  rollback : s.inst.startStreamingRollbackType = r
  paired : Paired s.inst.subState
  allowed : s.tally.disallowed = false

/-- Bits that are cleared, the first of a pair only with the second. -/
structure PairMask (bits : SubState) : Prop where
  drc : bits.getLsbD 1 = true → bits.getLsbD 2 = true
  drain : bits.getLsbD 3 = true → bits.getLsbD 4 = true

theorem PairMask.or {bits bits' : SubState} (hfirst : PairMask bits) (hsecond : PairMask bits') :
    PairMask (bits ||| bits') := by
  constructor
  · simp only [BitVec.getLsbD_or, Bool.or_eq_true]
    exact Or.imp hfirst.drc hsecond.drc
  · simp only [BitVec.getLsbD_or, Bool.or_eq_true]
    exact Or.imp hfirst.drain hsecond.drain

namespace Held

variable {x : InstState} {f : Plane → Bool} {r : Option Plane} {s t : Session}

theorem subStep (hheld : Held x f r s) (hstep : SubStep s.inst t.inst)
    (hallowed : t.tally.disallowed = false) : Held x f r t where
  gen := hstep.gen.trans hheld.gen
  domain := hstep.domain.trans hheld.domain
  state := by
    obtain hstate | hstate := hstep.state
    · rw [hstate]
      exact hheld.state
    · exact .inr hstate
  streaming := hstep.streaming.trans hheld.streaming
  rollback := hstep.rollback.trans hheld.rollback
  paired := hstep.paired hheld.paired
  allowed := hallowed

theorem keeps (hheld : Held x f r s) {inst : Inst} (hkeeps : KeepsControl s.inst inst) :
    Held x f r { s with inst } :=
  hheld.subStep hkeeps.subStep hheld.allowed

theorem handle (hheld : Held x f r s) (arrival : Arrival) : Held x f r (s.handle arrival) := by
  obtain ⟨t, hturns, heq⟩ := handle_turns hheld.gen arrival
  rw [heq]
  refine hheld.subStep hturns.subStep ?_
  dsimp only
  rw [hheld.allowed, hturns.subStep.allowed]
  rfl

/-- Setting one of the bits that a call sets. -/
theorem set (hheld : Held x f r s) {bits : SubState}
    (hbits : bits = 0 ∨ bits = subInputPause ∨ bits = subLoadResources) :
    Held x f r (s.changeSubState 0 bits).2 := by
  have hstep : SubStep s.inst (irisInstChangeSubState 0 bits s.inst).2 := by
    obtain ⟨heq, -⟩ | ⟨-, hallow, heq⟩ := irisInstChangeSubState_set bits s.inst
    · rw [heq]
      exact .refl _
    · rw [heq]
      obtain rfl | rfl | rfl := hbits
      · exact .of_subState rfl (fun hpaired => hpaired.set (fun h => absurd h (by decide))
          fun h => absurd h (by decide)) (setsDisallowed_set _ fun _ _ hflag => by
            simp [hasFlag] at hflag)
      · exact .of_subState rfl (fun hpaired => hpaired.set (fun h => absurd h (by decide))
          fun h => absurd h (by decide))
          (setsDisallowed_set _ (allowed_together (.inr (by simp)) hallow))
      · exact .of_subState rfl (fun hpaired => hpaired.set (fun h => absurd h (by decide))
          fun h => absurd h (by decide))
          (setsDisallowed_set _ (allowed_together (.inr (by simp)) hallow))
  refine hheld.subStep hstep ?_
  dsimp only [Session.changeSubState]
  rw [hheld.allowed, hstep.allowed]
  rfl

theorem clear (hheld : Held x f r s) {bits : SubState} (hbits : PairMask bits) :
    Held x f r (s.changeSubState bits 0).2 := by
  have hstep : SubStep s.inst (irisInstChangeSubState bits 0 s.inst).2 := by
    rw [irisInstChangeSubState_clears]
    split_ifs
    · exact .refl _
    · exact .of_subState rfl (fun hpaired => hpaired.clear hbits.drc hbits.drain)
        (setsDisallowed_clear _ _ _)
  refine hheld.subStep hstep ?_
  dsimp only [Session.changeSubState]
  rw [hheld.allowed, hstep.allowed]
  rfl

theorem commanded {allowed : Allowed Session InstCall Arrival QueueCall}
    {Inv : InstCall → Session → Prop} (hinv : ∀ call s, Held x f r s → Inv call s) :
    Commanded allowed Inv (Held x f r) where
  stable := fun arrival _ _ hheld => hheld.handle arrival
  inv := hinv
  error := fun _ hheld => hheld.keeps (KeepsControl.refl _).enterError
  completion := fun _ _ hheld => hheld.subStep (.refl _) hheld.allowed
  load := fun _ hheld => hheld.set (.inr (.inr rfl))
  unload := fun _ hheld =>
    hheld.clear ⟨fun h => absurd h (by decide), fun h => absurd h (by decide)⟩
  flush := fun s hheld => hheld.subStep ⟨rfl, rfl, rfl, rfl, .inl rfl, id, setsDisallowed_self _ _⟩
    hheld.allowed
  returned := fun _ hheld => hheld.keeps (Unwinds.refl _).returnAllBuffers.toKeepsControl

end Held

/-! ### The state and the queues -/

/-- The state tells which queues but `except` are streaming. -/
def StateTells (inst : Inst) (except : Option Plane) : Prop :=
  ∀ plane, except ≠ some plane → inst.streaming plane = tellsStreaming plane inst.state

/-- What holds of a session, during the wait of a call or between calls. -/
structure SessionSound (waiting : Option (QueueCall × InstCall)) (s : Session) : Prop where
  drcLast : hasFlag s.inst.subState subDrcLast = true → hasFlag s.inst.subState subDrc = true
  drainLast : hasFlag s.inst.subState subDrainLast = true → hasFlag s.inst.subState subDrain = true
  allowed : s.tally.disallowed = false
  rollback : waiting = none → s.inst.startStreamingRollbackType = none
  tells : s.inst.state = .error ∨ StateTells s.inst s.inst.startStreamingRollbackType ∨
    ∃ env plane, waiting = some (.streamoff env plane, .sessionClose) ∧
      StateTells s.inst (some plane)

/-- The same of a state and of which queues are streaming. -/
def Matches (f : Plane → Bool) (except : Option Plane) (x : InstState) : Prop :=
  x = .error ∨ ∀ plane, except ≠ some plane → f plane = tellsStreaming plane x

namespace Matches

variable {f : Plane → Bool} {except : Option Plane} {x : InstState} {plane : Plane}

theorem weaken (hmatch : Matches f none x) (except : Option Plane) : Matches f except x :=
  hmatch.imp_right fun htells q _ => htells q nofun

theorem update {value : Bool} (hmatch : Matches (Function.update f plane value) none x) :
    Matches f (some plane) x := by
  refine hmatch.imp_right fun htells q hq => ?_
  rw [← htells q nofun, Function.update_of_ne fun h => hq (congrArg some h.symm)]

/-- STREAMON moves to the state that tells the new queue as well. -/
theorem streamon (hmatch : Matches f none x) (plane : Plane) :
    Matches (Function.update f plane true) none (streamonState plane x) := by
  obtain rfl | htells := hmatch
  · left
    cases plane <;> rfl
  · have houtput := htells .output nofun
    have hcapture := htells .capture nofun
    cases plane <;> cases x <;> first
      | exact .inl rfl
      | exact .inr fun q _ => by
          cases q <;> simp_all [tellsStreaming, streamonState]

/-- STREAMOFF moves to the state that tells the queue no more. -/
theorem streamoff (hmatch : Matches f except x) (hexcept : except = none ∨ except = some plane) :
    Matches (Function.update f plane false) none (streamoffState plane x) := by
  obtain rfl | htells := hmatch
  · left
    cases plane <;> rfl
  · have hother : ∀ q, q ≠ plane → f q = tellsStreaming q x := fun q hq => htells q (by
      obtain rfl | rfl := hexcept
      · exact nofun
      · exact fun h => hq (Option.some.inj h).symm)
    cases plane with
    | output =>
        have hcapture := hother .capture nofun
        cases x <;> first
          | exact .inl rfl
          | exact .inr fun q _ => by
              cases q <;> simp_all [tellsStreaming, streamoffState]
    | capture =>
        have houtput := hother .output nofun
        cases x <;> first
          | exact .inl rfl
          | exact .inr fun q _ => by
              cases q <;> simp_all [tellsStreaming, streamoffState]

end Matches

namespace Held

variable {x : InstState} {f : Plane → Bool} {r : Option Plane} {s : Session}

theorem tells (hheld : Held x f r s) {except : Option Plane} (hmatch : Matches f except x) :
    s.inst.state = .error ∨ StateTells s.inst except := by
  obtain hstate | herror := hheld.state
  · rw [StateTells, hstate, hheld.streaming]
    exact hmatch
  · exact .inl herror

theorem drcLast (hheld : Held x f r s) (hlast : hasFlag s.inst.subState subDrcLast = true) :
    hasFlag s.inst.subState subDrc = true := by
  rw [hasFlag_subDrcLast] at hlast
  rw [hasFlag_subDrc]
  exact hheld.paired.drc hlast

theorem drainLast (hheld : Held x f r s) (hlast : hasFlag s.inst.subState subDrainLast = true) :
    hasFlag s.inst.subState subDrain = true := by
  rw [hasFlag_subDrainLast] at hlast
  rw [hasFlag_subDrain]
  exact hheld.paired.drain hlast

theorem sound (hheld : Held x f r s) (hmatch : Matches f r x)
    (waiting : QueueCall × InstCall) : SessionSound (some waiting) s where
  drcLast := hheld.drcLast
  drainLast := hheld.drainLast
  allowed := hheld.allowed
  rollback := nofun
  tells := by
    rw [hheld.rollback]
    exact (hheld.tells hmatch).imp_right .inl

/-- While the session is closed the queue that is being stopped is still marked as streaming. -/
theorem closing (hheld : Held x f none s) {plane : Plane} (hmatch : Matches f (some plane) x)
    (env : InstEnv) : SessionSound (some (.streamoff env plane, .sessionClose)) s where
  drcLast := hheld.drcLast
  drainLast := hheld.drainLast
  allowed := hheld.allowed
  rollback := nofun
  tells := (hheld.tells hmatch).imp_right fun htells => .inr ⟨env, plane, rfl, htells⟩

theorem moved (hheld : Held x f r s) {request : InstState} {g : InstState → InstState}
    (hstate : (irisInstChangeState request s.inst).2.state = g s.inst.state)
    (herror : g .error = .error) :
    Held (g x) f r { s with inst := (irisInstChangeState request s.inst).2 } := by
  have hframe : ∃ state, (irisInstChangeState request s.inst).2 = { s.inst with state } := by
    unfold irisInstChangeState
    split_ifs <;> exact ⟨_, rfl⟩
  obtain ⟨state, heq⟩ := hframe
  rw [heq] at hstate ⊢
  refine ⟨hheld.gen, hheld.domain, ?_, hheld.streaming, hheld.rollback, hheld.paired,
    hheld.allowed⟩
  change state = _ ∨ state = _
  change state = _ at hstate
  rw [hstate]
  obtain hx | hx := hheld.state
  · rw [hx]
    exact .inl rfl
  · rw [hx, herror]
    exact .inr rfl

end Held

end NabuIris
