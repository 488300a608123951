import NabuIris.Events
import NabuIris.Lib.Custody

/-!
# Streaming (`iris_common.c`, `iris_vb2.c`, the session commands)

An environment gives the result of every call that the streaming functions make, and the events
that take `inst->lock` while a call waits. `Op` is what videobuf2 asks of the driver: it hands over
only buffers that the driver does not own, and its lock orders QBUF, STREAMON and STREAMOFF.
-/

namespace NabuIris

inductive InstCall
  | sessionSupported
  /-- the reservation of a session slot -/
  | sessionSlot
  | sessionOpen
  | sessionClose
  | loadResources
  | sessionStart
  | sessionPause
  | sessionFlush
  | sessionStop
  | releaseResources
  | resumeDrc
  | resumeDrain
  /-- `iris_set_properties`; its configuration can wait -/
  | setProperties
  /-- `session_set_config_params`; it can wait -/
  | setConfigParams
  | setOutputOrder
  | persistBufs
  | destroyDequeued
  | createInternal
  | queueInternal
  /-- `iris_alloc_and_queue_input_int_bufs`; it can wait -/
  | inputInternal
  | setStage
  | setPipe
  | queueInternalDeferred
  | destroyInternal (plane : Plane)
deriving DecidableEq, Repr

structure InstEnv where
  ret : InstCall → Int
  /-- what takes the lock while the call waits -/
  events : InstCall → List Event
  timedOut : InstCall → Bool
  queueRet : Plane → Nat → Int

/-- `return ret` -/
def giveUp (ret : Int) (inst : Inst) : Int × Inst := (ret, inst)

/-! ### Waits -/

def irisWaitForSessionResponse (env : InstEnv) (call : InstCall) (inst : Inst) : Int × Inst :=
  let inst := handleEvents (env.events call) inst
  if env.timedOut call then (-etimedout, inst.enterError) else (0, inst)

/-- Write a command and wait for its response. -/
def sessionCommand (env : InstEnv) (call : InstCall) (inst : Inst) : Int × Inst :=
  orGoto (env.ret call, inst) giveUp (irisWaitForSessionResponse env call)

/-- A call that waits somewhere inside. -/
def waitingCall (env : InstEnv) (call : InstCall) (inst : Inst) : Int × Inst :=
  (env.ret call, handleEvents (env.events call) inst)

/-- The result of calls made in order up to the first that fails. -/
def firstFailure (env : InstEnv) : List InstCall → Int
  | [] => 0
  | call :: rest => if env.ret call ≠ 0 then env.ret call else firstFailure env rest

/-! ### `iris_hfi_gen1_command.c`, `iris_hfi_gen2_command.c` -/

def sessionOpen (env : InstEnv) (inst : Inst) : Int × Inst :=
  if inst.state ≠ .deinit then (-ealready, inst)
  else
    match inst.gen with
    | .gen1 => sessionCommand env .sessionOpen inst
    | .gen2 => (env.ret .sessionOpen, inst)

def irisHfiGen1SessionStart (env : InstEnv) (plane : Plane) (inst : Inst) : Int × Inst :=
  match plane with
  | .capture => (0, inst)
  | .output =>
      if hasFlag inst.subState subLoadResources then (0, inst)
      else
        orGoto (sessionCommand env .loadResources inst) giveUp fun inst =>
        orGoto (sessionCommand env .sessionStart inst) giveUp fun inst =>
        irisInstChangeSubState 0 subLoadResources inst

def sessionStart (env : InstEnv) (plane : Plane) (inst : Inst) : Int × Inst :=
  match inst.gen with
  | .gen1 => irisHfiGen1SessionStart env plane inst
  | .gen2 => (env.ret .sessionStart, inst)

/-- STOP, then RELEASE_RESOURCES whatever became of the first one. -/
def sessionRelease (env : InstEnv) (inst : Inst) : Int × Inst :=
  let release := sessionCommand env .releaseResources (sessionCommand env .sessionStop inst).2
  (release.1, (irisInstChangeSubState subLoadResources 0 release.2).2)

def returnAllBuffers (inst : Inst) : Inst :=
  irisHelperBuffersDone .capture .error (irisHelperBuffersDone .output .error inst)

def irisHfiGen1SessionStop (env : InstEnv) (inst : Inst) : Int × Inst :=
  match inst.domain with
  | .decoder =>
      if inst.state = .streaming then
        orGoto (env.ret .sessionFlush, inst) giveUp fun inst =>
        irisWaitForSessionResponse env .sessionFlush
          { inst with flushResponsesPending := inst.flushResponsesPending + 1 }
      else if hasFlag inst.subState subLoadResources then
        let release := sessionRelease env inst
        (release.1, returnAllBuffers release.2)
      else (0, inst)
  | .encoder =>
      let release :=
        if inst.state = .streaming ∨ inst.state = .inputStreaming ∨ inst.state = .error then
          sessionRelease env inst
        else (0, inst)
      (release.1, returnAllBuffers release.2)

def sessionStop (env : InstEnv) (inst : Inst) : Int × Inst :=
  match inst.gen with
  | .gen1 => irisHfiGen1SessionStop env inst
  | .gen2 => sessionCommand env .sessionStop inst

/-! ### `iris_common.c` -/

def irisKillSession (inst : Inst) : Inst := if inst.sessionId = 0 then inst else inst.enterError

def irisHfiSessionOpen (env : InstEnv) (inst : Inst) : Int × Inst :=
  let releaseSlot (ret : Int) (inst : Inst) : Int × Inst :=
    (ret, { inst with hfiSessionOpened := false })
  if inst.hfiSessionOpened then (0, inst)
  else
    orGoto (env.ret .sessionSlot, inst) giveUp fun inst =>
    orGoto (sessionOpen env { inst with hfiSessionOpened := true }) releaseSlot fun inst =>
    if inst.state = .error then releaseSlot (-eio) inst
    else orGoto (irisInstChangeState .init inst) releaseSlot fun inst => (0, inst)

/-- `iris_hfi_session_close` up to its label `cleanup`. -/
def sessionClosing (env : InstEnv) (inst : Inst) : Int × Inst :=
  let wasError := inst.state == .error
  orGoto (sessionCommand env .sessionClose inst) giveUp fun inst =>
  if !wasError ∧ inst.state = .error then (-eio, inst)
  else if inst.state ≠ .error then irisInstChangeState .deinit inst
  else (0, inst)

def irisHfiSessionClose (env : InstEnv) (inst : Inst) : Int × Inst :=
  if !inst.hfiSessionOpened then (0, inst)
  else
    let closing := sessionClosing env inst
    (closing.1,
      { closing.2 with
        hfiSessionOpened := false
        subState := 0
        streamoffPending := false
        flushResponsesPending := 0
        lastBufferDequeued := false })

def irisSessionStreamoff (env : InstEnv) (plane : Plane) (inst : Inst) : Int × Inst :=
  let error (ret : Int) (inst : Inst) : Int × Inst :=
    (ret, irisFlushDeferredBuffers plane (irisKillSession inst))
  orGoto (sessionStop env { inst with streamoffPending := true }) error fun inst =>
  orGoto (irisInstStateChangeStreamoff plane inst) error fun inst =>
  let inst := irisFlushDeferredBuffers plane inst
  if inst.state = .init then
    orGoto (firstFailure env [.destroyInternal .output, .destroyInternal .capture], inst) giveUp
      (irisHfiSessionClose env)
  else (0, inst)

def irisProcessStreamonInput (env : InstEnv) (inst : Inst) : Int × Inst :=
  orGoto (sessionStart env .output { inst with streamoffPending := false }) giveUp fun inst =>
  orGoto (if hasFlag inst.subState subInputPause then irisInstChangeSubState subInputPause 0 inst
    else (0, inst)) giveUp fun inst =>
  let pause : Bool :=
    inst.domain == .decoder && hasFlag inst.subState (subDrc ||| subDrain ||| subFirstIpsc) &&
      !hasFlag inst.subState subInputPause
  orGoto (if pause && inst.gen == .gen2 then env.ret .sessionPause else 0, inst) giveUp fun inst =>
  orGoto (irisInstStateChangeStreamon .output inst) giveUp fun inst =>
  irisInstChangeSubState 0 (if pause then subInputPause else 0)
    { inst with lastBufferDequeued := false }

def streamonInputInternal (env : InstEnv) (inst : Inst) : Int × Inst :=
  orGoto (waitingCall env .inputInternal inst) giveUp fun inst =>
  (firstFailure env [.setStage, .setPipe], inst)

def irisProcessStreamonOutput (env : InstEnv) (inst : Inst) : Int × Inst :=
  let drainActive := irisDrainPending inst
  let clear :=
    if irisDrcPending inst then subDrc ||| subDrcLast
    else if drainActive then subDrain ||| subDrainLast
    else 0
  orGoto (if inst.domain = .decoder ∧ hasFlag inst.subState subInputPause then
    streamonInputInternal env inst else (0, inst)) giveUp fun inst =>
  let resume : Bool := inst.state == .inputStreaming && hasFlag inst.subState subInputPause
  let resumeRet :=
    if !drainActive then env.ret .resumeDrc
    else if inst.gen = .gen2 then env.ret .resumeDrain
    else 0
  orGoto (if resume then resumeRet else 0, inst) giveUp fun inst =>
  let clear := clear ||| (if resume then subInputPause else 0) ||| (inst.subState &&& subFirstIpsc)
  orGoto (sessionStart env .capture inst) giveUp fun inst =>
  let clear := clear ||| (inst.subState &&& subOutputPause)
  orGoto (irisInstStateChangeStreamon .capture inst) giveUp fun inst =>
  irisInstChangeSubState clear 0 { inst with lastBufferDequeued := false }

/-! ### `iris_vdec.c`, `iris_venc.c` -/

def irisVdecStreamonInput (env : InstEnv) (inst : Inst) : Int × Inst :=
  orGoto (waitingCall env .setProperties
    { inst with streamoffPending := false, corruptOutputDrops := 0, pendingOutput := none })
    giveUp fun inst =>
  orGoto (firstFailure env
    [.setOutputOrder, .persistBufs, .destroyDequeued, .createInternal, .queueInternal], inst)
    giveUp (irisProcessStreamonInput env)

def irisVencStreamonInput (env : InstEnv) (inst : Inst) : Int × Inst :=
  orGoto (waitingCall env .setProperties inst) giveUp fun inst =>
  orGoto (firstFailure env [.persistBufs, .destroyDequeued, .createInternal, .queueInternal], inst)
    giveUp (irisProcessStreamonInput env)

/-- `iris_vdec_streamon_output` up to its label `error`. -/
def vdecStreamonOutput {β : Type} (env : InstEnv) (fail error : Int → Inst → β) (done : Inst → β)
    (inst : Inst) : β :=
  orGoto (waitingCall env .setConfigParams { inst with streamoffPending := false }) fail fun inst =>
  orGoto (firstFailure env [.destroyDequeued, .createInternal], inst) fail fun inst =>
  orGoto (irisProcessStreamonOutput env inst) error fun inst =>
  orGoto (env.ret .queueInternal, inst) error done

/-- `iris_venc_streamon_output` up to its label `error`. -/
def vencStreamonOutput {β : Type} (env : InstEnv) (fail error : Int → Inst → β) (done : Inst → β)
    (inst : Inst) : β :=
  orGoto (waitingCall env .setProperties inst) error fun inst =>
  orGoto (env.ret .persistBufs, inst) fail fun inst =>
  orGoto (firstFailure env [.destroyDequeued, .createInternal, .queueInternal], inst) error
    fun inst =>
  orGoto (irisProcessStreamonOutput env inst) error done

def streamonOutput {β : Type} (env : InstEnv) (fail error : Int → Inst → β) (done : Inst → β)
    (inst : Inst) : β :=
  match inst.domain with
  | .decoder => vdecStreamonOutput env fail error done inst
  | .encoder => vencStreamonOutput env fail error done inst

/-- The label `error` of both. -/
def streamonRollback (env : InstEnv) (ret : Int) (inst : Inst) : Int × Inst :=
  let inst := { inst with startStreamingRollbackType := some .capture }
  (ret, { (irisSessionStreamoff env .capture inst).2 with startStreamingRollbackType := none })

def irisStreamonOutput (env : InstEnv) (inst : Inst) : Int × Inst :=
  streamonOutput env giveUp (streamonRollback env) (fun inst => (0, inst)) inst

def irisStreamonInput (env : InstEnv) (inst : Inst) : Int × Inst :=
  match inst.domain with
  | .decoder => irisVdecStreamonInput env inst
  | .encoder => irisVencStreamonInput env inst

/-- `bytesused` and the fields that `iris_vb2_buffer_to_driver` copies. -/
structure QbufData where
  deviceAddr : Nat
  dataOffset : Nat
  bytesused : Nat
  flags : BufFlags
  timestamp : BitVec 64
deriving DecidableEq, Repr

def irisVb2BufferToDriver (data : QbufData) : IrisBuffer :=
  { deviceAddr := data.deviceAddr
    dataOffset := data.dataOffset
    dataSize := data.bytesused - data.dataOffset
    flags := data.flags
    timestamp := data.timestamp
    attr := { deferred := false, queued := false, dequeued := false, bufferDone := false } }

/-- `iris_vdec_qbuf`, `iris_venc_qbuf` -/
def irisQbuf (ret : Int) (plane : Plane) (i : Nat) (data : QbufData) (inst : Inst) : Int × Inst :=
  let buf := irisVb2BufferToDriver data
  if !inst.streaming plane then
    (0, inst.setBuf plane i { buf with attr := { buf.attr with deferred := true } })
  else irisQueueBuffer ret plane i (inst.setBuf plane i buf)

/-! ### `iris_vb2.c` -/

/-- The session is opened with the first REQBUFS. -/
def irisVb2QueueSetup (env : InstEnv) (inst : Inst) : Int × Inst :=
  if inst.state = .error then (-ebusy, inst)
  else
    orGoto (env.ret .sessionSupported, inst) giveUp (irisHfiSessionOpen env)

/-- The buffers that were handed over before the queue was started. -/
def startDeferred (env : InstEnv) (plane : Plane) (inst : Inst) : Int × Inst :=
  let deferred (plane : Plane) := irisQueueDeferredBuffers (env.queueRet plane) plane
  match inst.domain with
  | .decoder =>
      orGoto (match plane with
        | .output => deferred .output inst
        | .capture => (0, inst)) giveUp fun inst =>
      if inst.state = .streaming then
        orGoto (env.ret .queueInternalDeferred, inst) giveUp (deferred .capture)
      else (0, inst)
  | .encoder =>
      if inst.state = .streaming then orGoto (deferred .output inst) giveUp (deferred .capture)
      else (0, inst)

def irisVb2StartStreaming (env : InstEnv) (plane : Plane) (inst : Inst) : Int × Inst :=
  let error (ret : Int) (inst : Inst) : Int × Inst :=
    (ret, (irisHelperBuffersDone plane .queued inst).enterError)
  if inst.state = .error then error (-ebusy) inst
  else
    orGoto (env.ret .sessionSupported, inst) error fun inst =>
    orGoto (irisHfiSessionOpen env inst) error fun inst =>
    orGoto (match plane with
      | .output => irisStreamonInput env inst
      | .capture => irisStreamonOutput env inst) error fun inst =>
    orGoto (startDeferred env plane inst) error fun inst => (0, inst)

def irisVb2StopStreaming (env : InstEnv) (plane : Plane) (inst : Inst) : Inst :=
  if plane = .capture ∧ inst.state = .init then inst
  else
    let streamoff := irisSessionStreamoff env plane
      (inst.applyIf (inst.domain == .decoder && plane == .capture) irisVdecClearPendingOutput)
    (irisHelperBuffersDone plane .error streamoff.2).applyIf (streamoff.1 ≠ 0) Inst.enterError

/-- The label `exit` of `iris_vb2_buf_queue`, after an error. -/
def bufQueueFail (plane : Plane) (i : Nat) (inst : Inst) : Inst :=
  v4l2M2mBufDone plane i .error none inst.enterError

/-- After a drain or a source change the first CAPTURE buffer goes back, as the last one. -/
def bufQueueLast (plane : Plane) (i : Nat) (data : QbufData) (inst : Inst) : Inst :=
  let flags := inst.vbufFlags plane i ||| v4l2BufFlagLast
  v4l2M2mBufDone plane i .done
    (some { bytesused := some 0, flags := flags, timestamp := data.timestamp })
    { inst.setVbufFlags plane i flags with m2mStopped := true, lastBufferDequeued := true }

def irisVb2BufQueue (ret : Int) (plane : Plane) (i : Nat) (data : QbufData) (inst : Inst) : Inst :=
  if inst.state = .error then bufQueueFail plane i inst
  else if data.bytesused = 0 ∧ plane = .output then bufQueueFail plane i inst
  else if !inst.lastBufferDequeued ∧ plane = .capture ∧
      (irisDrcPending inst || irisDrainPending inst) then bufQueueLast plane i data inst
  else
    orGoto (irisQbuf ret plane i data (v4l2M2mBufQueue plane i inst))
      (fun _ => bufQueueFail plane i) id

/-! ### videobuf2 -/

def BufEvent.transfer : BufEvent → Option (Lib.Transfer (Plane × Nat))
  | .handed plane i => some (.take (plane, i))
  | .done plane i _ _ => some (.give (plane, i))
  | _ => none

/-- `VB2_BUF_STATE_ACTIVE`: the buffer was handed over and not given back since. -/
def driverOwns (log : List BufEvent) (plane : Plane) (i : Nat) : Bool :=
  Lib.holds BufEvent.transfer log (plane, i)

/-- videobuf2 hands over a buffer that the driver does not own. -/
def vb2BufQueue (ret : Int) (plane : Plane) (i : Nat) (data : QbufData) (inst : Inst) : Inst :=
  if driverOwns inst.log plane i then inst
  else
    irisVb2BufQueue ret plane i data
      ((inst.setVbufFlags plane i data.flags).record (.handed plane i))

inductive Op
  | reqbufs (env : InstEnv)
  | qbuf (ret : Int) (plane : Plane) (i : Nat) (data : QbufData)
  | streamon (env : InstEnv) (plane : Plane) (bufs : List (Nat × QbufData))
  | streamoff (env : InstEnv) (plane : Plane)
  | event (event : Event)

def vb2StartStreaming (env : InstEnv) (plane : Plane) (inst : Inst) : Inst :=
  let start := irisVb2StartStreaming env plane inst
  start.2.applyIf (start.1 = 0) (·.setStreaming plane true)

/-- What was queued before STREAMON. -/
def vb2HandOver (plane : Plane) (bufs : List (Nat × QbufData)) (inst : Inst) : Inst :=
  bufs.foldl (fun inst buf => vb2BufQueue 0 plane buf.1 buf.2 inst) inst

def vb2Streamon (env : InstEnv) (plane : Plane) (bufs : List (Nat × QbufData)) (inst : Inst) :
    Inst :=
  vb2StartStreaming env plane (vb2HandOver plane bufs inst)

def vb2Streamoff (env : InstEnv) (plane : Plane) (inst : Inst) : Inst :=
  (irisVb2StopStreaming env plane inst).setStreaming plane false

def applyOp (inst : Inst) (op : Op) : Inst :=
  match op with
  | .reqbufs env => (irisVb2QueueSetup env inst).2
  -- a buffer queued before STREAMON stays with videobuf2
  | .qbuf ret plane i data =>
      if inst.streaming plane then vb2BufQueue ret plane i data inst else inst
  | .streamon env plane bufs =>
      if inst.streaming plane then inst else vb2Streamon env plane bufs inst
  | .streamoff env plane => if inst.streaming plane then vb2Streamoff env plane inst else inst
  | .event event => handleEvent event inst

def instAfter (inst : Inst) (ops : List Op) : Inst := ops.foldl applyOp inst

end NabuIris
