import NabuIris.Proof.EventSteps
import NabuIris.Proof.Interference

/-!
# Whom an event reaches

The session id of an event chooses the handler before its event id is looked at. A system error
that names a live session ends in the handler of that session, which does not know it.
-/

namespace NabuIris.Gen1Message

open Lib Lib.Reading

variable {mem : Memory} {env : Gen1Env} {core core' : Gen1Core}

def messageSession (mem : Memory) : U32 := wordAt mem 8

def messageEvent (mem : Memory) : U32 := wordAt mem 12

/-- What a system error is to leave behind. -/
structure Gen1Core.Down (core : Gen1Core) : Prop where
  state : core.state = .error
  insts : ∀ i ∈ core.instances, (core.inst i).inst.state = .error
  worker : core.sysErrorQueued = true

/-- What any other event may change: one instance, which it names. It may set the recovery flag. -/
structure NamedOnly (sessionId : U32) (core core' : Gen1Core) : Prop where
  state : core'.state = core.state
  coreInitDone : core'.coreInitDone = core.coreInitDone
  worker : core'.sysErrorQueued = core.sysErrorQueued
  recovery : core.recoveryPending = true → core'.recoveryPending = true
  named : ∀ i, core'.inst i ≠ core.inst i →
    i ∈ core.instances ∧ (core.inst i).inst.sessionId = sessionId
  one : ∀ i j, core'.inst i ≠ core.inst i → core'.inst j ≠ core.inst j → i = j

structure Routed (mem : Memory) (core core' : Gen1Core) : Prop where
  instances : core'.instances = core.instances
  sysError : messageEvent mem = hfiEventSysError → core'.Down
  other : messageEvent mem ≠ hfiEventSysError → NamedOnly (messageSession mem) core core'

/-- A whole message, of a session that is not live. -/
def NamesNobody (mem : Memory) (core : Gen1Core) : Prop :=
  24 ≤ hdrSize mem ∧ ∀ i ∈ core.instances, (core.inst i).inst.sessionId ≠ messageSession mem

/-! ### Instances by their session -/

theorem irisGetInstance_some {sessionId : U32} {i : Nat}
    (hfind : irisGetInstance core sessionId = some i) :
    i ∈ core.instances ∧ (core.inst i).inst.sessionId = sessionId := by
  have hid : ((core.inst i).inst.sessionId == sessionId) = true := by
    simpa using List.find?_some hfind
  exact ⟨List.mem_of_find?_eq_some hfind, eq_of_beq hid⟩

theorem irisGetInstance_none {sessionId : U32} :
    irisGetInstance core sessionId = none ↔
      ∀ i ∈ core.instances, (core.inst i).inst.sessionId ≠ sessionId := by
  simp [irisGetInstance]

theorem Gen1Core.put_same (i : Nat) : core.put i (false, core.inst i) = core := by
  simp [Gen1Core.put]

theorem NamedOnly.refl (sessionId : U32) (core : Gen1Core) : NamedOnly sessionId core core where
  state := rfl
  coreInitDone := rfl
  worker := rfl
  recovery := id
  named := fun _ hne => absurd rfl hne
  one := fun _ _ hne => absurd rfl hne

/-- Handling the instance that was found changes no other one. -/
theorem NamedOnly.put {sessionId : U32} {i : Nat} (handled : Handled)
    (hfind : irisGetInstance core sessionId = some i) :
    NamedOnly sessionId core (core.put i handled) := by
  have honly : ∀ j, (core.put i handled).inst j ≠ core.inst j → j = i := by
    intro j hne
    by_contra hji
    exact hne (Function.update_of_ne hji _ _)
  exact
    { state := rfl
      coreInitDone := rfl
      worker := rfl
      recovery := fun hpending => by simp [Gen1Core.put, hpending]
      named := fun j hne => honly j hne ▸ irisGetInstance_some hfind
      one := fun j k hj hk => (honly j hj).trans (honly k hk).symm }

/-! ### The two handlers -/

theorem sysEventNotify_run (mem : Memory) (core : Gen1Core) :
    ((irisHfiGen1SysEventNotify core).run mem).instances = core.instances ∧
      (messageEvent mem = hfiEventSysError →
        ((irisHfiGen1SysEventNotify core).run mem).Down) ∧
      (messageEvent mem ≠ hfiEventSysError → (irisHfiGen1SysEventNotify core).run mem = core) := by
  by_cases hevent : wordAt mem 12 = hfiEventSysError
  · have hrun : (irisHfiGen1SysEventNotify core).run mem =
        { core with
          state := .error
          sysErrorQueued := true
          recoveryPending := core.recoveryPending ||
            core.instances.any fun i => (core.inst i).inst.state != .error
          inst := fun i =>
            if i ∈ core.instances then (core.inst i).enterError else core.inst i } := by
      simp [irisHfiGen1SysEventNotify, hevent]
    rw [hrun]
    refine ⟨rfl, fun _ => ⟨rfl, fun i hi => ?_, rfl⟩, fun hne => absurd hevent hne⟩
    simp only [if_pos hi, Gen1Inst.enterError, enterError_eq]
  · have hrun : (irisHfiGen1SysEventNotify core).run mem = core := by
      simp [irisHfiGen1SysEventNotify, hevent]
    exact ⟨congrArg Gen1Core.instances hrun, fun h => absurd h hevent, fun _ => hrun⟩

/-- The handler of a session knows session errors and sequence changes only. -/
theorem sessionEventNotify_sysError (s : Gen1Inst) (hevent : messageEvent mem = hfiEventSysError) :
    (irisHfiGen1SessionEventNotify env s).run mem = (false, s) := by
  have hword : wordAt mem 12 = hfiEventSysError := hevent
  have herror : hfiEventSysError ≠ hfiEventSessionError := by decide
  have hsequence : hfiEventSysError ≠ hfiEventSessionSequenceChanged := by decide
  simp [irisHfiGen1SessionEventNotify, hword, herror, hsequence]

/-! ### The message -/

/-- An event goes to the instance that it names, else to the core; a short one goes nowhere. -/
theorem event_run (htype : wordAt mem 4 = hfiMsgEventNotify) :
    (irisHfiGen1HandleResponse env core).run mem =
      if hdrSize mem < 24 then core
      else
        match irisGetInstance core (messageSession mem) with
        | none => (irisHfiGen1SysEventNotify core).run mem
        | some i => core.put i ((irisHfiGen1SessionEventNotify env (core.inst i)).run mem) := by
  have hinfo : pktInfos.lookup hfiMsgEventNotify = some 24 := rfl
  have hinit : hfiMsgEventNotify ≠ hfiMsgSysInit := by decide
  have hprep : hfiMsgEventNotify ≠ hfiMsgSysPcPrep := by decide
  have hversion : hfiMsgEventNotify ≠ hfiMsgSysPropertyInfo := by decide
  have hsize : (wordAt mem 0).toNat = hdrSize mem := rfl
  have hid : wordAt mem 8 = messageSession mem := rfl
  simp only [irisHfiGen1HandleResponse, run_bind, run_word, Nat.reduceMul, htype, hinfo, hsize]
  split_ifs with hshort
  · rw [run_pure]
  · simp only [dispatch, if_neg hinit, if_neg hprep, if_neg hversion, run_bind, run_word,
      Nat.reduceMul, hid]
    cases irisGetInstance core (messageSession mem) with
    | none => simp only [if_true]
    | some i => simp only [run_bind, run_pure, handleSession, if_true]

theorem other_event_named (htype : wordAt mem 4 = hfiMsgEventNotify)
    (hother : messageEvent mem ≠ hfiEventSysError) :
    NamedOnly (messageSession mem) core ((irisHfiGen1HandleResponse env core).run mem) := by
  rw [event_run htype]
  split_ifs with hshort
  · exact .refl _ core
  · cases hfind : irisGetInstance core (messageSession mem) with
    | none =>
        simp only [(sysEventNotify_run mem core).2.2 hother]
        exact .refl _ core
    | some i => exact .put _ hfind

theorem sysError_unnamed (htype : wordAt mem 4 = hfiMsgEventNotify)
    (hevent : messageEvent mem = hfiEventSysError) (hnobody : NamesNobody mem core) :
    ((irisHfiGen1HandleResponse env core).run mem).Down := by
  rw [event_run htype, if_neg (Nat.not_lt.2 hnobody.1), irisGetInstance_none.2 hnobody.2]
  exact (sysEventNotify_run mem core).2.1 hevent

/-- A system error that names a live session, or is too short, has no effect. -/
theorem sysError_ignored (htype : wordAt mem 4 = hfiMsgEventNotify)
    (hevent : messageEvent mem = hfiEventSysError) (hsomebody : ¬NamesNobody mem core) :
    (irisHfiGen1HandleResponse env core).run mem = core := by
  rw [event_run htype]
  split_ifs with hshort
  · rfl
  · cases hfind : irisGetInstance core (messageSession mem) with
    | none => exact absurd ⟨Nat.not_lt.1 hshort, irisGetInstance_none.1 hfind⟩ hsomebody
    | some i =>
        simp only [sessionEventNotify_sysError _ hevent]
        exact core.put_same i

theorem event_instances (htype : wordAt mem 4 = hfiMsgEventNotify) :
    ((irisHfiGen1HandleResponse env core).run mem).instances = core.instances := by
  rw [event_run htype]
  split_ifs with hshort
  · rfl
  · cases irisGetInstance core (messageSession mem) with
    | none => exact (sysEventNotify_run mem core).1
    | some i => rfl

/-- **An event is routed as its event id asks, unless it is a system error that no handler takes
and that has something left to do.** -/
theorem event_routed_iff (env : Gen1Env) (core : Gen1Core)
    (htype : wordAt mem 4 = hfiMsgEventNotify) :
    Routed mem core ((irisHfiGen1HandleResponse env core).run mem) ↔
      (messageEvent mem = hfiEventSysError → NamesNobody mem core ∨ core.Down) := by
  constructor
  · intro hrouted hevent
    by_contra hneither
    obtain ⟨hsomebody, hup⟩ := not_or.1 hneither
    have hdown := hrouted.sysError hevent
    rw [sysError_ignored htype hevent hsomebody] at hdown
    exact hup hdown
  · intro hcond
    refine ⟨event_instances htype, fun hevent => ?_, other_event_named htype⟩
    by_cases hnobody : NamesNobody mem core
    · exact sysError_unnamed htype hevent hnobody
    · rw [sysError_ignored htype hevent hnobody]
      exact (hcond hevent).resolve_left hnobody

/-- A system error with the given session id. -/
def sysErrorMessage (sessionId : U32) : Memory :=
  wordMemory [(0, 24), (4, hfiMsgEventNotify), (8, sessionId), (12, hfiEventSysError)]

/-- One decoder streams, in session 1. -/
def oneSession : Gen1Core := probeCore (probe .decoder false 1 0 0)

theorem sysError_without_session :
    Routed (sysErrorMessage 0) oneSession
      ((irisHfiGen1HandleResponse probeEnv oneSession).run (sysErrorMessage 0)) :=
  (event_routed_iff probeEnv oneSession (by decide)).2 fun _ => .inl ⟨by decide, by decide⟩

theorem sysError_of_session_ignored :
    ¬Routed (sysErrorMessage 1) oneSession
      ((irisHfiGen1HandleResponse probeEnv oneSession).run (sysErrorMessage 1)) := by
  intro hrouted
  have hsomebody : ¬NamesNobody (sysErrorMessage 1) oneSession := fun hnobody =>
    hnobody.2 0 (by decide) (by decide)
  have hdown := hrouted.sysError (by decide)
  rw [sysError_ignored (by decide) (by decide) hsomebody] at hdown
  exact absurd hdown.state (by decide)

end NabuIris.Gen1Message
