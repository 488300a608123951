import NabuIris.StreamSections

/-!
# The sections make up the streaming functions

When the events of its environment are all that takes the lock during a call, the sections of the
call add up to the function of `Streaming`.
-/

namespace NabuIris

open Lib

namespace Session

/-- The events that the environment of a call has for one of its waits. -/
def arrive (env : InstEnv) (call : InstCall) (s : Session) : Session :=
  (env.events call).foldl (fun s event => s.handle { event, answers := false }) s

/-- A call run to its end: its result, and the instance. -/
def collapse (env : InstEnv) (program : Program) : Int × Inst :=
  let result := program.run (arrive env) env.timedOut
  (result.1, result.2.inst)

variable {env : InstEnv} {s : Session}

@[simp]
theorem handle_inst (arrival : Arrival) (s : Session) :
    (s.handle arrival).inst = handleEvent arrival.event s.inst := rfl

@[simp]
theorem onInst_inst (change : Inst → Inst) (s : Session) :
    (s.onInst change).inst = change s.inst := rfl

theorem arrive_inst (env : InstEnv) (call : InstCall) (s : Session) :
    (arrive env call s).inst = handleEvents (env.events call) s.inst := by
  unfold arrive handleEvents
  induction env.events call generalizing s with
  | nil => rfl
  | cons event rest ih => exact ih _

/-! ### Composition -/

@[simp]
theorem collapse_done (ret : Int) (s : Session) :
    collapse env (.done ret s) = (ret, s.inst) := rfl

theorem collapse_bind {x : Program} {f : Int → Session → Program} {g : Int → Inst → Int × Inst}
    (hf : ∀ ret s, collapse env (f ret s) = g ret s.inst) :
    collapse env (x.bind f) = g (collapse env x).1 (collapse env x).2 := by
  simp only [collapse, Sections.run_bind]
  exact hf _ _

theorem collapse_value {value : Int} {label : Int → Session → Program} {next : Session → Program}
    {label' : Int → Inst → Int × Inst} {next' : Inst → Int × Inst}
    (hlabel : ∀ ret s, collapse env (label ret s) = label' ret s.inst)
    (hnext : ∀ s, collapse env (next s) = next' s.inst) :
    collapse env (NabuIris.orGoto (value, s) label next) =
      NabuIris.orGoto (value, s.inst) label' next' := by
  unfold NabuIris.orGoto
  split_ifs
  · exact hlabel _ _
  · exact hnext _

theorem collapse_call {call : Int × Session} {label : Int → Session → Program}
    {next : Session → Program} {label' : Int → Inst → Int × Inst} {next' : Inst → Int × Inst}
    (hlabel : ∀ ret s, collapse env (label ret s) = label' ret s.inst)
    (hnext : ∀ s, collapse env (next s) = next' s.inst) :
    collapse env (NabuIris.orGoto call label next) =
      NabuIris.orGoto (call.1, call.2.inst) label' next' :=
  collapse_value hlabel hnext

theorem collapse_orGoto {call : Program} {label : Int → Session → Program}
    {next : Session → Program} {label' : Int → Inst → Int × Inst} {next' : Inst → Int × Inst}
    (hlabel : ∀ ret s, collapse env (label ret s) = label' ret s.inst)
    (hnext : ∀ s, collapse env (next s) = next' s.inst) :
    collapse env (call.orGoto label next) =
      NabuIris.orGoto (collapse env call) label' next' :=
  collapse_bind (g := fun ret inst => NabuIris.orGoto (ret, inst) label' next') fun _ _ =>
    collapse_value hlabel hnext

theorem collapse_giveUp (ret : Int) (s : Session) :
    collapse env (giveUp ret s) = NabuIris.giveUp ret s.inst := rfl

theorem collapse_ite {cond : Prop} [Decidable cond] {x y : Program} {a b : Int × Inst}
    (hx : cond → collapse env x = a) (hy : ¬cond → collapse env y = b) :
    collapse env (if cond then x else y) = if cond then a else b := by
  split_ifs with hcond
  · exact hx hcond
  · exact hy hcond

/-! ### The functions -/

theorem collapse_wait (call : InstCall) (s : Session) :
    collapse env (irisWaitForSessionResponse call s) =
      NabuIris.irisWaitForSessionResponse env call s.inst := by
  simp only [collapse, irisWaitForSessionResponse, Sections.run,
    NabuIris.irisWaitForSessionResponse, ← arrive_inst]
  cases env.timedOut call <;> rfl

theorem collapse_sessionCommand (call : InstCall) (s : Session) :
    collapse env (sessionCommand env call s) = NabuIris.sessionCommand env call s.inst :=
  collapse_value collapse_giveUp (collapse_wait call)

theorem collapse_waitingCall (call : InstCall) (s : Session) :
    collapse env (waitingCall env call s) = NabuIris.waitingCall env call s.inst := by
  simp only [collapse, waitingCall, Sections.run, NabuIris.waitingCall, ← arrive_inst]

theorem collapse_sessionOpen (s : Session) :
    collapse env (sessionOpen env s) = NabuIris.sessionOpen env s.inst := by
  refine collapse_ite (fun _ => rfl) fun _ => ?_
  cases s.inst.gen with
  | gen1 => exact collapse_sessionCommand _ _
  | gen2 => rfl

theorem collapse_sessionStart (plane : Plane) (s : Session) :
    collapse env (sessionStart env plane s) = NabuIris.sessionStart env plane s.inst := by
  unfold sessionStart NabuIris.sessionStart
  cases s.inst.gen with
  | gen2 => rfl
  | gen1 =>
      cases plane with
      | capture => rfl
      | output =>
          refine collapse_ite (fun _ => rfl) fun _ => ?_
          rw [← collapse_sessionCommand]
          refine collapse_orGoto collapse_giveUp fun s => ?_
          rw [← collapse_sessionCommand]
          exact collapse_orGoto collapse_giveUp fun s => rfl

theorem collapse_sessionRelease (s : Session) :
    collapse env (sessionRelease env s) = NabuIris.sessionRelease env s.inst := by
  unfold sessionRelease NabuIris.sessionRelease
  rw [← collapse_sessionCommand]
  refine collapse_bind (g := fun _ inst =>
    ((NabuIris.sessionCommand env .releaseResources inst).1,
      (irisInstChangeSubState subLoadResources 0
        (NabuIris.sessionCommand env .releaseResources inst).2).2)) fun _ s => ?_
  rw [← collapse_sessionCommand]
  exact collapse_bind (g := fun ret inst =>
    (ret, (irisInstChangeSubState subLoadResources 0 inst).2)) fun _ _ => rfl

theorem collapse_sessionStop (s : Session) :
    collapse env (sessionStop env s) = NabuIris.sessionStop env s.inst := by
  unfold sessionStop NabuIris.sessionStop
  have hreturn : ∀ x : Program, collapse env (x.bind returnAllBuffers) =
      ((collapse env x).1, NabuIris.returnAllBuffers (collapse env x).2) := fun x =>
    collapse_bind (g := fun ret inst => (ret, NabuIris.returnAllBuffers inst)) fun _ _ => rfl
  cases s.inst.gen with
  | gen2 => exact collapse_sessionCommand _ _
  | gen1 =>
      simp only [irisHfiGen1SessionStop, NabuIris.irisHfiGen1SessionStop]
      cases s.inst.domain with
      | decoder =>
          refine collapse_ite (fun _ => ?_) fun _ => collapse_ite (fun _ => ?_) fun _ => rfl
          · exact collapse_value collapse_giveUp fun s => collapse_wait _ _
          · rw [hreturn, collapse_sessionRelease]
      | encoder =>
          simp only
          rw [hreturn, collapse_ite (fun _ => collapse_sessionRelease s)
            fun _ => collapse_done 0 s]

theorem collapse_hfiSessionOpen (s : Session) :
    collapse env (irisHfiSessionOpen env s) = NabuIris.irisHfiSessionOpen env s.inst := by
  refine collapse_ite (fun _ => rfl) fun _ => ?_
  refine collapse_value collapse_giveUp fun s => ?_
  have hopen := @collapse_sessionOpen env
    (s.onInst fun inst => { inst with hfiSessionOpened := true })
  rw [onInst_inst] at hopen
  rw [← hopen]
  refine collapse_orGoto (fun _ _ => rfl) fun s => ?_
  refine collapse_ite (fun _ => rfl) fun _ => ?_
  exact collapse_call (fun _ _ => rfl) fun _ => rfl

theorem collapse_sessionClosing (s : Session) :
    collapse env (sessionClosing env s) = NabuIris.sessionClosing env s.inst := by
  unfold sessionClosing NabuIris.sessionClosing
  simp only
  rw [← collapse_sessionCommand]
  refine collapse_orGoto collapse_giveUp fun s => ?_
  exact collapse_ite (fun _ => rfl) fun _ => collapse_ite (fun _ => rfl) fun _ => rfl

theorem collapse_hfiSessionClose (s : Session) :
    collapse env (irisHfiSessionClose env s) = NabuIris.irisHfiSessionClose env s.inst := by
  refine collapse_ite (fun _ => rfl) fun _ => ?_
  simp only
  rw [← collapse_sessionClosing]
  exact collapse_bind (g := fun ret inst => (ret,
    { inst with
      hfiSessionOpened := false
      subState := 0
      streamoffPending := false
      flushResponsesPending := 0
      lastBufferDequeued := false })) fun _ _ => rfl

theorem collapse_sessionStreamoff (plane : Plane) (s : Session) :
    collapse env (irisSessionStreamoff env plane s) =
      NabuIris.irisSessionStreamoff env plane s.inst := by
  unfold irisSessionStreamoff NabuIris.irisSessionStreamoff
  have hstop := @collapse_sessionStop env
    (s.onInst fun inst => { inst with streamoffPending := true })
  rw [onInst_inst] at hstop
  simp only
  rw [← hstop]
  refine collapse_orGoto (fun _ _ => rfl) fun s => ?_
  refine collapse_call (fun _ _ => rfl) fun s => ?_
  refine collapse_ite (fun _ => ?_) fun _ => rfl
  exact collapse_value collapse_giveUp fun s => collapse_hfiSessionClose s

theorem collapse_processStreamonInput (s : Session) :
    collapse env (irisProcessStreamonInput env s) =
      NabuIris.irisProcessStreamonInput env s.inst := by
  unfold irisProcessStreamonInput NabuIris.irisProcessStreamonInput
  have hstart := @collapse_sessionStart env .output
    (s.onInst fun inst => { inst with streamoffPending := false })
  rw [onInst_inst] at hstart
  rw [← hstart]
  refine collapse_orGoto collapse_giveUp fun s => ?_
  have hpause : ((if hasFlag s.inst.subState subInputPause = true then
      s.changeSubState subInputPause 0 else (0, s)).1,
      (if hasFlag s.inst.subState subInputPause = true then
        s.changeSubState subInputPause 0 else (0, s)).2.inst) =
      if hasFlag s.inst.subState subInputPause = true then
        irisInstChangeSubState subInputPause 0 s.inst else (0, s.inst) := by
    split_ifs <;> rfl
  rw [← hpause]
  refine collapse_call collapse_giveUp fun s => ?_
  refine collapse_value collapse_giveUp fun s => ?_
  exact collapse_call collapse_giveUp fun s => rfl

theorem collapse_streamonInputInternal (s : Session) :
    collapse env (streamonInputInternal env s) = NabuIris.streamonInputInternal env s.inst := by
  unfold streamonInputInternal NabuIris.streamonInputInternal
  rw [← collapse_waitingCall]
  exact collapse_orGoto collapse_giveUp fun _ => rfl

theorem collapse_processStreamonOutput (s : Session) :
    collapse env (irisProcessStreamonOutput env s) =
      NabuIris.irisProcessStreamonOutput env s.inst := by
  unfold irisProcessStreamonOutput NabuIris.irisProcessStreamonOutput
  simp only
  rw [← collapse_ite (fun _ => collapse_streamonInputInternal s) fun _ => collapse_done 0 s]
  refine collapse_orGoto collapse_giveUp fun s => ?_
  unfold streamonOutputStarted pendingClear
  simp only
  refine collapse_value collapse_giveUp fun s => ?_
  rw [← collapse_sessionStart]
  refine collapse_orGoto collapse_giveUp fun s => ?_
  exact collapse_call collapse_giveUp fun _ => rfl

theorem collapse_streamonInput (s : Session) :
    collapse env (irisStreamonInput env s) = NabuIris.irisStreamonInput env s.inst := by
  unfold irisStreamonInput NabuIris.irisStreamonInput
  cases s.inst.domain with
  | decoder =>
      simp only [irisVdecStreamonInput, NabuIris.irisVdecStreamonInput]
      have hwait := @collapse_waitingCall env .setProperties (s.onInst fun inst =>
        { inst with streamoffPending := false, corruptOutputDrops := 0, pendingOutput := none })
      rw [onInst_inst] at hwait
      rw [← hwait]
      refine collapse_orGoto collapse_giveUp fun s => ?_
      exact collapse_value collapse_giveUp collapse_processStreamonInput
  | encoder =>
      simp only [irisVencStreamonInput, NabuIris.irisVencStreamonInput]
      rw [← collapse_waitingCall]
      refine collapse_orGoto collapse_giveUp fun s => ?_
      exact collapse_value collapse_giveUp collapse_processStreamonInput

theorem collapse_rollback (ret : Int) (s : Session) :
    collapse env (streamonRollback env ret s) = NabuIris.streamonRollback env ret s.inst := by
  unfold streamonRollback NabuIris.streamonRollback
  have hstreamoff := @collapse_sessionStreamoff env .capture
    (s.onInst fun inst => { inst with startStreamingRollbackType := some .capture })
  rw [onInst_inst] at hstreamoff
  simp only
  rw [← hstreamoff]
  exact collapse_bind (g := fun _ inst =>
    (ret, { inst with startStreamingRollbackType := none })) fun _ _ => rfl

theorem collapse_streamonOutput (s : Session) :
    collapse env (irisStreamonOutput env s) = NabuIris.irisStreamonOutput env s.inst := by
  unfold irisStreamonOutput NabuIris.irisStreamonOutput streamonOutput
  cases s.inst.domain with
  | decoder =>
      simp only [irisVdecStreamonOutput, vdecStreamonOutput]
      have hwait := @collapse_waitingCall env .setConfigParams
        (s.onInst fun inst => { inst with streamoffPending := false })
      rw [onInst_inst] at hwait
      rw [← hwait]
      refine collapse_orGoto collapse_giveUp fun s => ?_
      refine collapse_value collapse_giveUp fun s => ?_
      rw [← collapse_processStreamonOutput]
      refine collapse_orGoto collapse_rollback fun s => ?_
      exact collapse_value collapse_rollback fun _ => rfl
  | encoder =>
      simp only [irisVencStreamonOutput, vencStreamonOutput]
      rw [← collapse_waitingCall]
      refine collapse_orGoto collapse_rollback fun s => ?_
      refine collapse_value collapse_giveUp fun s => ?_
      refine collapse_value collapse_rollback fun s => ?_
      rw [← collapse_processStreamonOutput]
      exact collapse_orGoto collapse_rollback fun _ => rfl

theorem collapse_startStreaming (plane : Plane) (s : Session) :
    collapse env (irisVb2StartStreaming env plane s) =
      NabuIris.irisVb2StartStreaming env plane s.inst := by
  refine collapse_ite (fun _ => rfl) fun _ => ?_
  refine collapse_value (fun _ _ => rfl) fun s => ?_
  rw [← collapse_hfiSessionOpen]
  refine collapse_orGoto (fun _ _ => rfl) fun s => ?_
  have hstart : ∀ {x : Program} {y : Int × Inst}, collapse env x = y →
      collapse env (x.orGoto (startError plane) fun s =>
        orGoto (s.lift (startDeferred env plane)) (startError plane) fun s => .done 0 s) =
      orGoto y (fun ret inst => (ret, (irisHelperBuffersDone plane .queued inst).enterError))
        fun inst => orGoto (startDeferred env plane inst)
          (fun ret inst => (ret, (irisHelperBuffersDone plane .queued inst).enterError))
          fun inst => (0, inst) := by
    rintro x y rfl
    refine collapse_orGoto (fun _ _ => rfl) fun s => ?_
    exact collapse_call (fun _ _ => rfl) fun _ => rfl
  cases plane with
  | output => exact hstart (collapse_streamonInput s)
  | capture => exact hstart (collapse_streamonOutput s)

theorem collapse_stopStreaming (plane : Plane) (s : Session) :
    (collapse env (irisVb2StopStreaming env plane s)).2 =
      NabuIris.irisVb2StopStreaming env plane s.inst := by
  unfold irisVb2StopStreaming NabuIris.irisVb2StopStreaming
  split_ifs
  · rfl
  · have hstreamoff := @collapse_sessionStreamoff env plane (s.onInst fun inst =>
      inst.applyIf (inst.domain == .decoder && plane == .capture) irisVdecClearPendingOutput)
    rw [onInst_inst] at hstreamoff
    simp only
    rw [← hstreamoff, collapse_bind (g := fun ret inst => (ret,
      (irisHelperBuffersDone plane .error inst).applyIf (ret ≠ 0) Inst.enterError)) fun _ _ => rfl]

theorem handOver_inst (plane : Plane) (bufs : List (Nat × QbufData)) (s : Session) :
    (s.vb2HandOver plane bufs).inst = NabuIris.vb2HandOver plane bufs s.inst := by
  induction bufs generalizing s with
  | nil => rfl
  | cons buf rest ih =>
      have hfirst : (s.vb2BufQueue 0 plane buf.1 buf.2).inst =
          NabuIris.vb2BufQueue 0 plane buf.1 buf.2 s.inst := by
        unfold vb2BufQueue countIf
        split_ifs <;> rfl
      have hrest := ih (s.vb2BufQueue 0 plane buf.1 buf.2)
      rw [hfirst] at hrest
      exact hrest

end Session

/-- The environment of a call, for its waits. -/
def QueueCall.env : QueueCall → Option InstEnv
  | .reqbufs env => some env
  | .qbuf _ _ _ _ => none
  | .streamon env _ _ => some env
  | .streamoff env _ => some env

def QueueCall.op : QueueCall → Op
  | .reqbufs env => .reqbufs env
  | .qbuf ret plane i data => .qbuf ret plane i data
  | .streamon env plane bufs => .streamon env plane bufs
  | .streamoff env plane => .streamoff env plane

/-- **The sections of a call add up to the operation.** -/
theorem body_refines (call : QueueCall) (env : InstEnv) (henv : ∀ own ∈ call.env, own = env)
    (s : Session) : (Session.collapse env (Session.body call s)).2 = applyOp s.inst call.op := by
  cases call with
  | reqbufs own =>
      obtain rfl := henv own rfl
      refine congrArg Prod.snd (Session.collapse_ite (fun _ => rfl) fun _ => ?_)
      exact Session.collapse_value Session.collapse_giveUp Session.collapse_hfiSessionOpen
  | qbuf ret plane i data =>
      simp only [Session.body, Session.collapse_done, applyOp, QueueCall.op]
      split_ifs with hstreaming
      · unfold Session.vb2BufQueue Session.countIf
        split_ifs <;> rfl
      · rfl
  | streamon own plane bufs =>
      obtain rfl := henv own rfl
      simp only [Session.body, applyOp, QueueCall.op]
      split_ifs with hstreaming
      · rfl
      · have hstart := @Session.collapse_startStreaming own plane (s.vb2HandOver plane bufs)
        rw [Session.handOver_inst] at hstart
        unfold vb2Streamon vb2StartStreaming
        simp only
        rw [← hstart]
        exact congrArg Prod.snd (Session.collapse_bind (g := fun ret inst =>
          (ret, inst.applyIf (ret = 0) (·.setStreaming plane true))) fun _ _ => rfl)
  | streamoff own plane =>
      obtain rfl := henv own rfl
      simp only [Session.body, applyOp, QueueCall.op]
      split_ifs with hstreaming
      · unfold vb2Streamoff
        rw [← Session.collapse_stopStreaming]
        exact congrArg Prod.snd (Session.collapse_bind (g := fun ret inst =>
          (ret, inst.setStreaming plane false)) fun _ _ => rfl)
      · rfl

end NabuIris
