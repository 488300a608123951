import NabuIris.Lib.Sections
import NabuIris.Streaming

/-!
# Streaming in lock sections (`iris_common.c`, `iris_vb2.c`, the session commands)

The functions of `Streaming`, section by section: `iris_wait_for_session_response` gives up
`inst->lock`, and what takes it meanwhile is left open. `tally` is not in the driver: it counts what
the driver has promised and done.
-/

namespace NabuIris

open Lib

structure Tally where
  /-- the FLUSH commands of this session that the command queue took -/
  flushesAccepted : Nat
  flushesAnswered : Nat
  /-- how often an answer was the last one outstanding -/
  flushesSettled : Nat
  /-- how often `flush_completion` was completed -/
  flushSignals : Nat
  stopsAccepted : Nat
  changesArmed : Nat
  /-- CAPTURE buffers completed with `V4L2_BUF_FLAG_LAST` -/
  lastsDone : Nat
  /-- EOS and DRAIN packets -/
  drainsSent : Nat
  /-- a bit of the sub-state was set in a state that does not allow it -/
  disallowed : Bool
deriving DecidableEq, Repr

def Tally.zero : Tally where
  flushesAccepted := 0
  flushesAnswered := 0
  flushesSettled := 0
  flushSignals := 0
  stopsAccepted := 0
  changesArmed := 0
  lastsDone := 0
  drainsSent := 0
  disallowed := false

structure Session where
  inst : Inst
  /-- `flush_completion` -/
  flushCompletion : Nat
  tally : Tally

/-- What takes the lock during a wait. A FLUSH response does not say which command it answers. -/
structure Arrival where
  event : Event
  /-- it answers a FLUSH of this session -/
  answers : Bool

/-! ### What is counted -/

def subStateBits : List SubState :=
  [subFirstIpsc, subDrc, subDrcLast, subDrain, subDrainLast, subInputPause, subOutputPause,
    subLoadResources]

/-- A bit that is new in `after` is not allowed by itself. -/
def setsDisallowed (state : InstState) (before after : SubState) : Bool :=
  subStateBits.any fun bit =>
    hasFlag after bit && !hasFlag before bit && !irisInstAllowSubState state bit

/-- The instance with which a sequence change gets to `iris_hfi_gen1_arm_drc`. -/
def seqArming (pkt : SeqChanged) (inst : Inst) : Option Inst :=
  if hasFlag inst.subState subDrc || !pkt.valid then none
  else
    let inst := inst.applyIf pkt.unsupported Inst.enterError
    if inst.legacyVpu5 ∧ pkt.initialFits ∧ inst.state = .streaming then none else some inst

/-- `iris_inst_sub_state_change_drc` takes the source change up. -/
def armsDrc (inst : Inst) : Bool :=
  (irisInstSubStateChangeDrc inst).1 = 0 && inst.state != .error

/-- The source change sends a FLUSH. -/
def armFlushes (inst : Inst) : Bool :=
  armsDrc inst && !hasFlag (irisInstSubStateChangeDrc inst).2.subState subFirstIpsc

/-- The matched buffer of a completion goes back as the last one. -/
def ftbReturnsLast (env : FtbEnv) (pkt : FtbDone) (inst : Inst) : Bool :=
  if inst.splitMode ∧ inst.domain = .decoder ∧ pkt.streamId = 0 then false
  else
    let inst := ftbEos env pkt inst
    match ftbFind pkt inst with
    | none => false
    | some i => ftbLast pkt inst && (ftbPending env pkt (ftbStore pkt i inst)).1 = 0

/-- `iris_vb2_buf_queue` gives the buffer back as the last one. -/
def queueReturnsLast (plane : Plane) (inst : Inst) : Bool :=
  inst.state != .error && plane == .capture && !inst.lastBufferDequeued &&
    (irisDrcPending inst || irisDrainPending inst)

/-- A command gets as far as `session_drain`. -/
def reachesDrain (cmd : Cmd) (inst : Inst) : Bool :=
  cmd == .stop && inst.state != .deinit && irisAllowCmd .stop inst

/-- The EOS or DRAIN packet is written. -/
def sendsDrain (env : CmdEnv) (cmd : Cmd) (inst : Inst) : Bool :=
  reachesDrain cmd inst && env.drainRet = 0

def acceptsStop (env : CmdEnv) (cmd : Cmd) (inst : Inst) : Bool :=
  reachesDrain cmd inst && (irisStopCmd env inst).1 = 0

namespace Session

def onInst (change : Inst → Inst) (s : Session) : Session := { s with inst := change s.inst }

/-- A call that does not wait. -/
def lift (call : Inst → Int × Inst) (s : Session) : Int × Session :=
  ((call s.inst).1, { s with inst := (call s.inst).2 })

def count (change : Tally → Tally) (s : Session) : Session := { s with tally := change s.tally }

/-- `reinit_completion(&inst->flush_completion)` -/
def reinitFlush (s : Session) : Session := { s with flushCompletion := 0 }

def acceptFlush (s : Session) : Session :=
  s.count fun t => { t with flushesAccepted := t.flushesAccepted + 1 }

def countIf (cond : Bool) (change : Tally → Tally) (s : Session) : Session :=
  if cond then s.count change else s

/-! ### Events -/

/-- What an empty completion at the end of the stream does with the flush. -/
def ftbFlush (env : FtbEnv) (pkt : FtbDone) (s : Session) : Session :=
  if pkt.eos && !pkt.filled then
    if env.flushRet = 0 then s.reinitFlush.acceptFlush else s.reinitFlush
  else s

/-- What a source change does with the flush; `inst` is the instance at `arm_drc`. -/
def drcFlush (flushRet : Int) (inst : Inst) (s : Session) : Session :=
  if armFlushes inst then
    let s := if inst.flushResponsesPending = 0 then s.reinitFlush else s
    if flushRet = 0 then s.acceptFlush else s
  else s

/-- `if (!(--inst->flush_responses_pending)) complete(&inst->flush_completion)` -/
def flushDone (answers : Bool) (s : Session) : Session :=
  let answered : Bool := answers && s.tally.flushesAnswered < s.tally.flushesAccepted
  let s :=
    s.countIf answered fun t =>
      { t with
        flushesAnswered := t.flushesAnswered + 1
        flushesSettled :=
          if t.flushesAccepted = t.flushesAnswered + 1 then t.flushesSettled + 1
          else t.flushesSettled }
  if s.inst.flushResponsesPending - 1 = 0 then
    { s with
      flushCompletion := s.flushCompletion + 1
      tally := { s.tally with flushSignals := s.tally.flushSignals + 1 } }
  else s

/-- The counts and the flush completion, for an event that `s.inst` is about to handle. -/
def observe (arrival : Arrival) (s : Session) : Session :=
  match arrival.event with
  | .gen1 (.ftbDone env pkt) =>
      (s.ftbFlush env pkt).countIf (ftbReturnsLast env pkt s.inst) fun t =>
        { t with lastsDone := t.lastsDone + 1 }
  | .gen1 (.seqChanged pkt) =>
      match seqArming pkt s.inst with
      | none => s
      | some inst =>
          (s.drcFlush pkt.flushRet inst).countIf (armsDrc inst) fun t =>
            { t with changesArmed := t.changesArmed + 1 }
  | .gen1 (.sessionDone .flush _) => s.flushDone arrival.answers
  | .cmd env cmd =>
      (s.countIf (sendsDrain env cmd s.inst) fun t =>
        { t with drainsSent := t.drainsSent + 1 }).countIf (acceptsStop env cmd s.inst) fun t =>
        { t with stopsAccepted := t.stopsAccepted + 1 }
  | .startFlushed _ false => { s with flushCompletion := s.flushCompletion - 1 }
  | _ => s

/-- `iris_hfi_gen1_handle_response` and the commands. An instance of the second generation does not
get responses of the first. -/
def handle (arrival : Arrival) (s : Session) : Session :=
  let after := handleEvent arrival.event s.inst
  let seen :=
    match arrival.event, s.inst.gen with
    | .gen1 _, .gen2 => s
    | _, _ => s.observe arrival
  { seen with
    inst := after
    tally :=
      { seen.tally with
        disallowed := seen.tally.disallowed ||
          setsDisallowed s.inst.state s.inst.subState after.subState } }

def changeSubState (clear set : SubState) (s : Session) : Int × Session :=
  let change := irisInstChangeSubState clear set s.inst
  (change.1,
    { s with
      inst := change.2
      tally :=
        { s.tally with
          disallowed := s.tally.disallowed ||
            setsDisallowed s.inst.state s.inst.subState change.2.subState } })

end Session

/-! ### Waits -/

abbrev Program := Sections Session InstCall Int

/-- `return ret` -/
def Session.giveUp (ret : Int) (s : Session) : Program := .done ret s

/-- `ret = call; if (ret) goto label; next`, for a call that can wait -/
def Program.orGoto (call : Program) (label : Int → Session → Program) (next : Session → Program) :
    Program :=
  call.bind fun ret s => NabuIris.orGoto (ret, s) label next

namespace Session

def irisWaitForSessionResponse (call : InstCall) (s : Session) : Program :=
  .wait call s fun timedOut s =>
    if timedOut then .done (-etimedout) (s.onInst Inst.enterError) else .done 0 s

def sessionCommand (env : InstEnv) (call : InstCall) (s : Session) : Program :=
  orGoto (env.ret call, s) giveUp (irisWaitForSessionResponse call)

def waitingCall (env : InstEnv) (call : InstCall) (s : Session) : Program :=
  .wait call s fun _ s => .done (env.ret call) s

/-! ### The session commands -/

def sessionOpen (env : InstEnv) (s : Session) : Program :=
  if s.inst.state ≠ .deinit then .done (-ealready) s
  else
    match s.inst.gen with
    | .gen1 => sessionCommand env .sessionOpen s
    | .gen2 => .done (env.ret .sessionOpen) s

def irisHfiGen1SessionStart (env : InstEnv) (plane : Plane) (s : Session) : Program :=
  match plane with
  | .capture => .done 0 s
  | .output =>
      if hasFlag s.inst.subState subLoadResources then .done 0 s
      else
        (sessionCommand env .loadResources s).orGoto giveUp fun s =>
        (sessionCommand env .sessionStart s).orGoto giveUp fun s =>
        let change := s.changeSubState 0 subLoadResources
        .done change.1 change.2

def sessionStart (env : InstEnv) (plane : Plane) (s : Session) : Program :=
  match s.inst.gen with
  | .gen1 => irisHfiGen1SessionStart env plane s
  | .gen2 => .done (env.ret .sessionStart) s

def sessionRelease (env : InstEnv) (s : Session) : Program :=
  (sessionCommand env .sessionStop s).bind fun _ s =>
  (sessionCommand env .releaseResources s).bind fun ret s =>
  .done ret (s.changeSubState subLoadResources 0).2

def returnAllBuffers (ret : Int) (s : Session) : Program :=
  .done ret (s.onInst NabuIris.returnAllBuffers)

/-- The FLUSH of a streaming decoder. -/
def sessionFlush (env : InstEnv) (s : Session) : Program :=
  orGoto (env.ret .sessionFlush, s.reinitFlush) giveUp fun s =>
  irisWaitForSessionResponse .sessionFlush
    (s.acceptFlush.onInst fun inst =>
      { inst with flushResponsesPending := inst.flushResponsesPending + 1 })

def irisHfiGen1SessionStop (env : InstEnv) (s : Session) : Program :=
  match s.inst.domain with
  | .decoder =>
      if s.inst.state = .streaming then sessionFlush env s
      else if hasFlag s.inst.subState subLoadResources then
        (sessionRelease env s).bind returnAllBuffers
      else .done 0 s
  | .encoder =>
      let release : Program :=
        if s.inst.state = .streaming ∨ s.inst.state = .inputStreaming ∨ s.inst.state = .error then
          sessionRelease env s
        else .done 0 s
      release.bind returnAllBuffers

def sessionStop (env : InstEnv) (s : Session) : Program :=
  match s.inst.gen with
  | .gen1 => irisHfiGen1SessionStop env s
  | .gen2 => sessionCommand env .sessionStop s

/-! ### `iris_common.c` -/

def releaseSlot (ret : Int) (s : Session) : Program :=
  .done ret (s.onInst fun inst => { inst with hfiSessionOpened := false })

def irisHfiSessionOpen (env : InstEnv) (s : Session) : Program :=
  if s.inst.hfiSessionOpened then .done 0 s
  else
    orGoto (env.ret .sessionSlot, s) giveUp fun s =>
    (sessionOpen env (s.onInst fun inst => { inst with hfiSessionOpened := true })).orGoto
      releaseSlot fun s =>
    if s.inst.state = .error then releaseSlot (-eio) s
    else orGoto (s.lift (irisInstChangeState .init)) releaseSlot fun s => .done 0 s

def sessionClosing (env : InstEnv) (s : Session) : Program :=
  let wasError := s.inst.state == .error
  (sessionCommand env .sessionClose s).orGoto giveUp fun s =>
  if !wasError ∧ s.inst.state = .error then .done (-eio) s
  else if s.inst.state ≠ .error then
    let change := s.lift (irisInstChangeState .deinit)
    .done change.1 change.2
  else .done 0 s

/-- The label `cleanup` of `iris_hfi_session_close`. -/
def closed (ret : Int) (s : Session) : Program :=
  .done ret
    ((s.onInst fun inst =>
      { inst with
        hfiSessionOpened := false
        subState := 0
        streamoffPending := false
        flushResponsesPending := 0
        lastBufferDequeued := false }).count fun t =>
      { t with flushesAccepted := 0, flushesAnswered := 0 })

def irisHfiSessionClose (env : InstEnv) (s : Session) : Program :=
  if !s.inst.hfiSessionOpened then .done 0 s else (sessionClosing env s).bind closed

/-- The label `error` of `iris_session_streamoff`. -/
def streamoffError (plane : Plane) (ret : Int) (s : Session) : Program :=
  .done ret (s.onInst fun inst => irisFlushDeferredBuffers plane (irisKillSession inst))

def irisSessionStreamoff (env : InstEnv) (plane : Plane) (s : Session) : Program :=
  (sessionStop env (s.onInst fun inst => { inst with streamoffPending := true })).orGoto
    (streamoffError plane) fun s =>
  orGoto (s.lift (irisInstStateChangeStreamoff plane)) (streamoffError plane) fun s =>
  let s := s.onInst (irisFlushDeferredBuffers plane)
  if s.inst.state = .init then
    orGoto (firstFailure env [.destroyInternal .output, .destroyInternal .capture], s) giveUp
      (irisHfiSessionClose env)
  else .done 0 s

/-- `iris_process_streamon_input` from the end of `session_start`. -/
def streamonInputStarted (env : InstEnv) (s : Session) : Program :=
  orGoto (if hasFlag s.inst.subState subInputPause then s.changeSubState subInputPause 0
    else (0, s)) giveUp fun s =>
  let pause : Bool :=
    s.inst.domain == .decoder &&
      hasFlag s.inst.subState (subDrc ||| subDrain ||| subFirstIpsc) &&
      !hasFlag s.inst.subState subInputPause
  orGoto (if pause && s.inst.gen == .gen2 then env.ret .sessionPause else 0, s) giveUp fun s =>
  orGoto (s.lift (irisInstStateChangeStreamon .output)) giveUp fun s =>
  let change :=
    (s.onInst fun inst => { inst with lastBufferDequeued := false }).changeSubState 0
      (if pause then subInputPause else 0)
  .done change.1 change.2

def irisProcessStreamonInput (env : InstEnv) (s : Session) : Program :=
  (sessionStart env .output (s.onInst fun inst => { inst with streamoffPending := false })).orGoto
    giveUp (streamonInputStarted env)

def streamonInputInternal (env : InstEnv) (s : Session) : Program :=
  (waitingCall env .inputInternal s).orGoto giveUp fun s =>
  .done (firstFailure env [.setStage, .setPipe]) s

/-- What `iris_process_streamon_output` clears of a drain or a source change. -/
def pendingClear (inst : Inst) : SubState :=
  if irisDrcPending inst then subDrc ||| subDrcLast
  else if irisDrainPending inst then subDrain ||| subDrainLast
  else 0

/-- `iris_process_streamon_output` from its last section on: what it decided at its start is
`drainActive` and `clear`. -/
def streamonOutputStarted (env : InstEnv) (drainActive : Bool) (clear : SubState) (s : Session) :
    Program :=
  let resume : Bool := s.inst.state == .inputStreaming && hasFlag s.inst.subState subInputPause
  let resumeRet :=
    if !drainActive then env.ret .resumeDrc
    else if s.inst.gen = .gen2 then env.ret .resumeDrain
    else 0
  orGoto (if resume then resumeRet else 0, s) giveUp fun s =>
  let clear :=
    clear ||| (if resume then subInputPause else 0) ||| (s.inst.subState &&& subFirstIpsc)
  (sessionStart env .capture s).orGoto giveUp fun s =>
  let clear := clear ||| (s.inst.subState &&& subOutputPause)
  orGoto (s.lift (irisInstStateChangeStreamon .capture)) giveUp fun s =>
  let change :=
    (s.onInst fun inst => { inst with lastBufferDequeued := false }).changeSubState clear 0
  .done change.1 change.2

def irisProcessStreamonOutput (env : InstEnv) (s : Session) : Program :=
  let drainActive := irisDrainPending s.inst
  let clear := pendingClear s.inst
  let internal : Program :=
    if s.inst.domain = .decoder ∧ hasFlag s.inst.subState subInputPause then
      streamonInputInternal env s
    else .done 0 s
  internal.orGoto giveUp (streamonOutputStarted env drainActive clear)

/-! ### `iris_vdec.c`, `iris_venc.c` -/

def irisVdecStreamonInput (env : InstEnv) (s : Session) : Program :=
  (waitingCall env .setProperties (s.onInst fun inst =>
    { inst with streamoffPending := false, corruptOutputDrops := 0, pendingOutput := none })).orGoto
    giveUp fun s =>
  orGoto (firstFailure env
    [.setOutputOrder, .persistBufs, .destroyDequeued, .createInternal, .queueInternal], s)
    giveUp (irisProcessStreamonInput env)

def irisVencStreamonInput (env : InstEnv) (s : Session) : Program :=
  (waitingCall env .setProperties s).orGoto giveUp fun s =>
  orGoto (firstFailure env [.persistBufs, .destroyDequeued, .createInternal, .queueInternal], s)
    giveUp (irisProcessStreamonInput env)

def irisStreamonInput (env : InstEnv) (s : Session) : Program :=
  match s.inst.domain with
  | .decoder => irisVdecStreamonInput env s
  | .encoder => irisVencStreamonInput env s

/-- The label `error` of `iris_vdec_streamon_output` and `iris_venc_streamon_output`. -/
def streamonRollback (env : InstEnv) (ret : Int) (s : Session) : Program :=
  (irisSessionStreamoff env .capture
    (s.onInst fun inst =>
      { inst with startStreamingRollbackType := some .capture })).bind fun _ s =>
  .done ret (s.onInst fun inst => { inst with startStreamingRollbackType := none })

def irisVdecStreamonOutput (env : InstEnv) (s : Session) : Program :=
  (waitingCall env .setConfigParams
    (s.onInst fun inst => { inst with streamoffPending := false })).orGoto giveUp fun s =>
  orGoto (firstFailure env [.destroyDequeued, .createInternal], s) giveUp fun s =>
  (irisProcessStreamonOutput env s).orGoto (streamonRollback env) fun s =>
  orGoto (env.ret .queueInternal, s) (streamonRollback env) fun s => .done 0 s

def irisVencStreamonOutput (env : InstEnv) (s : Session) : Program :=
  (waitingCall env .setProperties s).orGoto (streamonRollback env) fun s =>
  orGoto (env.ret .persistBufs, s) giveUp fun s =>
  orGoto (firstFailure env [.destroyDequeued, .createInternal, .queueInternal], s)
    (streamonRollback env) fun s =>
  (irisProcessStreamonOutput env s).orGoto (streamonRollback env) fun s => .done 0 s

def irisStreamonOutput (env : InstEnv) (s : Session) : Program :=
  match s.inst.domain with
  | .decoder => irisVdecStreamonOutput env s
  | .encoder => irisVencStreamonOutput env s

/-! ### `iris_vb2.c` and videobuf2 -/

def irisVb2QueueSetup (env : InstEnv) (s : Session) : Program :=
  if s.inst.state = .error then .done (-ebusy) s
  else orGoto (env.ret .sessionSupported, s) giveUp (irisHfiSessionOpen env)

/-- The label `error` of `iris_vb2_start_streaming`. -/
def startError (plane : Plane) (ret : Int) (s : Session) : Program :=
  .done ret (s.onInst fun inst => (irisHelperBuffersDone plane .queued inst).enterError)

def irisVb2StartStreaming (env : InstEnv) (plane : Plane) (s : Session) : Program :=
  if s.inst.state = .error then startError plane (-ebusy) s
  else
    orGoto (env.ret .sessionSupported, s) (startError plane) fun s =>
    (irisHfiSessionOpen env s).orGoto (startError plane) fun s =>
    Program.orGoto (match plane with
      | .output => irisStreamonInput env s
      | .capture => irisStreamonOutput env s) (startError plane) fun s =>
    orGoto (s.lift (startDeferred env plane)) (startError plane) fun s => .done 0 s

def irisVb2StopStreaming (env : InstEnv) (plane : Plane) (s : Session) : Program :=
  if plane = .capture ∧ s.inst.state = .init then .done 0 s
  else
    (irisSessionStreamoff env plane (s.onInst fun inst =>
      inst.applyIf (inst.domain == .decoder && plane == .capture)
        irisVdecClearPendingOutput)).bind fun ret s =>
    .done ret (s.onInst fun inst =>
      (irisHelperBuffersDone plane .error inst).applyIf (ret ≠ 0) Inst.enterError)

def vb2BufQueue (ret : Int) (plane : Plane) (i : Nat) (data : QbufData) (s : Session) : Session :=
  (s.countIf (!driverOwns s.inst.log plane i && queueReturnsLast plane s.inst) fun t =>
    { t with lastsDone := t.lastsDone + 1 }).onInst (NabuIris.vb2BufQueue ret plane i data)

def vb2HandOver (plane : Plane) (bufs : List (Nat × QbufData)) (s : Session) : Session :=
  bufs.foldl (fun s buf => s.vb2BufQueue 0 plane buf.1 buf.2) s

def vb2Streamon (env : InstEnv) (plane : Plane) (bufs : List (Nat × QbufData)) (s : Session) :
    Program :=
  (irisVb2StartStreaming env plane (s.vb2HandOver plane bufs)).bind fun ret s =>
  .done ret (s.onInst fun inst => inst.applyIf (ret = 0) (·.setStreaming plane true))

def vb2Streamoff (env : InstEnv) (plane : Plane) (s : Session) : Program :=
  (irisVb2StopStreaming env plane s).bind fun ret s =>
  .done ret (s.onInst (·.setStreaming plane false))

end Session

/-- What videobuf2 asks of the driver, one call after the other. -/
inductive QueueCall
  | reqbufs (env : InstEnv)
  | qbuf (ret : Int) (plane : Plane) (i : Nat) (data : QbufData)
  | streamon (env : InstEnv) (plane : Plane) (bufs : List (Nat × QbufData))
  | streamoff (env : InstEnv) (plane : Plane)

namespace Session

def body (call : QueueCall) (s : Session) : Program :=
  match call with
  | .reqbufs env => irisVb2QueueSetup env s
  | .qbuf ret plane i data =>
      .done 0 (if s.inst.streaming plane then s.vb2BufQueue ret plane i data else s)
  | .streamon env plane bufs =>
      if s.inst.streaming plane then .done 0 s else vb2Streamon env plane bufs s
  | .streamoff env plane => if s.inst.streaming plane then vb2Streamoff env plane s else .done 0 s

/-- `wait_for_completion_timeout`: the FLUSH wait ends with the completion, the other ones when a
response comes, or not. -/
def resume (call : InstCall) (timedOut : Bool) (s : Session) : Option Session :=
  if call = .sessionFlush then
    match timedOut, s.flushCompletion with
    | false, 0 => none
    | false, n + 1 => some { s with flushCompletion := n }
    | true, 0 => some s
    | true, _ + 1 => none
  else some s

end Session

abbrev SessionMove := Lib.Move Arrival QueueCall

def sessionMachine : Machine Session InstCall Arrival QueueCall Int where
  handle := Session.handle
  resume := Session.resume
  body := Session.body

end NabuIris
