import NabuIris.Proof.Queues
import NabuIris.StreamSections

/-!
# A second drain

`iris_allow_cmd` refuses a STOP only when the sub-state is `IRIS_INST_SUB_DRAIN` and nothing else. A
loaded session of the first generation has `IRIS_INST_SUB_LOAD_RESOURCES` set all along.
-/

namespace NabuIris

open Lib

/-- The firmware has been told to drain, and has not answered with the last buffer. -/
def DrainInFlight (inst : Inst) : Prop :=
  hasFlag inst.subState subDrain = true ∧ hasFlag inst.subState subDrainLast = false

/-- A STOP does not get as far as `session_drain`. -/
def StopGuarded (inst : Inst) : Prop :=
  inst.state = .deinit ∨ inst.streaming .output = false ∨ inst.subState = subDrain

def sessionAfter (s : Session) (moves : List SessionMove) : Session :=
  (sessionMachine.runs s moves).state

theorem sessionAfter_event (s : Session) (moves : List SessionMove) (arrival : Arrival) :
    sessionAfter s (moves ++ [.event arrival]) = (sessionAfter s moves).handle arrival := by
  rw [sessionAfter, Machine.runs_snoc]
  rfl

def stopMove (env : CmdEnv) (answers : Bool) : SessionMove :=
  .event { event := .cmd env .stop, answers }

/-- Every STOP of a run that meets a drain in flight sends nothing. -/
def OneDrain (s : Session) (moves : List SessionMove) : Prop :=
  ∀ pre env answers, pre ++ [stopMove env answers] <+: moves →
    DrainInFlight (sessionAfter s pre).inst →
      (sessionAfter s (pre ++ [stopMove env answers])).tally.drainsSent =
        (sessionAfter s pre).tally.drainsSent

/-- Every such STOP is kept from `session_drain`, or the command queue refuses its packet. -/
def StopsGuarded (s : Session) (moves : List SessionMove) : Prop :=
  ∀ pre env answers, pre ++ [stopMove env answers] <+: moves →
    DrainInFlight (sessionAfter s pre).inst →
      StopGuarded (sessionAfter s pre).inst ∨ env.drainRet ≠ 0

theorem reachesDrain_stop (inst : Inst) : reachesDrain .stop inst = false ↔ StopGuarded inst := by
  unfold reachesDrain StopGuarded irisAllowCmd
  cases inst.streaming .output <;> simp [Decidable.or_iff_not_imp_left]

theorem sendsDrain_stop (env : CmdEnv) (inst : Inst) :
    sendsDrain env .stop inst = false ↔ StopGuarded inst ∨ env.drainRet ≠ 0 := by
  rw [sendsDrain, Bool.and_eq_false_iff, reachesDrain_stop, decide_eq_false_iff_not]

theorem handle_stop_drains (env : CmdEnv) (answers : Bool) (s : Session) :
    (s.handle { event := .cmd env .stop, answers }).tally.drainsSent =
      s.tally.drainsSent + if sendsDrain env .stop s.inst then 1 else 0 := by
  simp only [Session.handle, Session.observe, Session.countIf]
  split_ifs <;> rfl

/-- **A run has one drain in flight exactly when its STOPs are guarded.** -/
theorem one_drain_iff (s : Session) (moves : List SessionMove) :
    OneDrain s moves ↔ StopsGuarded s moves := by
  refine forall_congr' fun pre => forall_congr' fun env => forall_congr' fun answers =>
    imp_congr_right fun _ => imp_congr_right fun _ => ?_
  rw [stopMove, sessionAfter_event, handle_stop_drains, ← sendsDrain_stop]
  cases sendsDrain env .stop (sessionAfter s pre).inst <;> simp

/-- A session of an instance that was just opened. -/
def Session.opened (inst : Inst) : Session :=
  { inst, flushCompletion := 0, tally := .zero }

/-- STREAMON of OUTPUT by a decoder of the first generation, to its end. -/
def outputStarted : List SessionMove :=
  [.call (.streamon undisturbed .output [(0, frameData)]), .resume false, .resume false,
    .resume false, .resume false]

def plainCmd : CmdEnv where
  captureFormatChanged := false
  drainRet := 0
  resumeRet := fun _ => 0
  queueInternalRet := 0
  queueRet := fun _ _ => 0

theorem two_drains :
    ¬OneDrain (.opened (openedDecoder .gen1 .h264 true))
      (outputStarted ++ [stopMove plainCmd false, stopMove plainCmd false]) := by
  intro hone
  have hsecond := hone (outputStarted ++ [stopMove plainCmd false]) plainCmd false
    List.prefix_rfl ⟨by decide, by decide⟩
  exact absurd hsecond (by decide)

end NabuIris
