import NabuIris.ResponsesGen1
import NabuIris.ResponsesGen2

/-!
# Commands and events (`iris_vdec.c`, `iris_venc.c`, `iris_vidc.c`)

An `Event` is what can take `inst->lock` at any time: a firmware response, or a decoder or encoder
command. Streaming and QBUF are not among them, `ctx_q_lock` keeps them apart. What a command reads
of the format negotiation, and what the command queue answers it, is its environment.
-/

namespace NabuIris

structure CmdEnv where
  /-- `capture_format_changed` -/
  captureFormatChanged : Bool
  drainRet : Int
  resumeRet : Plane → Int
  queueInternalRet : Int
  queueRet : Plane → Nat → Int

/-! ### `iris_vdec.c`, `iris_venc.c` -/

/-- The sub-states of the paused queues, which a resume clears. -/
def pausedSubState (inst : Inst) : SubState := inst.subState &&& (subInputPause ||| subOutputPause)

/-- The resume of each paused queue; the first failure is the result. -/
def resumePaused (ret : Plane → Int) (inst : Inst) : Int :=
  let output := if hasFlag inst.subState subInputPause then ret .output else 0
  if output ≠ 0 then output
  else if hasFlag inst.subState subOutputPause then ret .capture
  else 0

/-- The first generation has no `session_resume_drain`. -/
def sessionResumeDrain (gen : Gen) (ret : Plane → Int) : Plane → Int :=
  match gen with
  | .gen1 => fun _ => 0
  | .gen2 => ret

/-- A legacy decoder that goes on without STREAMOFF queues its buffers again. -/
def startRequeue (env : CmdEnv) (inst : Inst) : Int × Inst :=
  orGoto (env.queueInternalRet, inst) (fun ret inst => (ret, inst)) fun inst =>
  orGoto (irisQueueDeferredBuffers (env.queueRet .capture) .capture inst)
    (fun ret inst => (ret, inst)) (irisQueueDeferredBuffers (env.queueRet .output) .output)

/-- `iris_vdec_start_cmd` from the end of its wait for the flush. -/
def irisVdecStartCmdFlushed (env : CmdEnv) (inst : Inst) : Int × Inst :=
  let clear (ret : Int) (subState : SubState) : Int × Inst :=
    orGoto (ret, inst) (fun ret inst => (ret, inst)) fun inst =>
    irisInstChangeSubState (subState ||| pausedSubState inst) 0 inst
  orGoto
    (if irisDrcPending inst then clear (resumePaused env.resumeRet inst) (subDrc ||| subDrcLast)
      else if irisDrainPending inst then
        clear (resumePaused (sessionResumeDrain inst.gen env.resumeRet) inst)
          (subDrain ||| subDrainLast)
      else (-ebusy, inst.enterError)) (fun ret inst => (ret, inst)) fun inst =>
  let inst := { inst with lastBufferDequeued := false }
  if inst.legacyVpu5 ∧ inst.state = .streaming then startRequeue env inst else (0, inst)

/-- While the command waits for a pending flush it does not hold the lock: what follows the wait is
an event of its own. -/
def irisVdecStartCmd (env : CmdEnv) (inst : Inst) : Int × Inst :=
  if env.captureFormatChanged then (-einval, inst)
  else if inst.state = .streaming ∧ !hasFlag inst.subState (subDrc ||| subDrain) then (0, inst)
  else if inst.legacyVpu5 ∧ inst.flushResponsesPending ≠ 0 then (0, inst)
  else irisVdecStartCmdFlushed env inst

def irisVencStartCmd (env : CmdEnv) (inst : Inst) : Int × Inst :=
  if irisDrainPending inst then
    orGoto (resumePaused (sessionResumeDrain inst.gen env.resumeRet) inst, inst)
      (fun ret inst => (ret, inst)) fun inst =>
    irisInstChangeSubState (subDrain ||| subDrainLast ||| pausedSubState inst) 0
      { inst with lastBufferDequeued := false }
  else (-ebusy, inst.enterError)

/-- `iris_vdec_stop_cmd`, `iris_venc_stop_cmd` -/
def irisStopCmd (env : CmdEnv) (inst : Inst) : Int × Inst :=
  orGoto (env.drainRet, inst) (fun ret inst => (ret, inst)) fun inst =>
  irisInstChangeSubState 0 subDrain inst

/-- `iris_dec_cmd`, `iris_enc_cmd` -/
def irisCmd (env : CmdEnv) (cmd : Cmd) (inst : Inst) : Int × Inst :=
  if inst.state = .deinit then (0, inst)
  else if !irisAllowCmd cmd inst then (-ebusy, inst)
  else
    match cmd, inst.domain with
    | .start, .decoder => irisVdecStartCmd env inst
    | .start, .encoder => irisVencStartCmd env inst
    | .stop, _ => irisStopCmd env inst

/-! ### Events -/

inductive Event
  | gen1 (response : Gen1Response)
  | gen2 (packets : List Gen2Packet)
  /-- a system error puts every instance into the error state -/
  | systemError
  /-- a wait that is not modelled on its own ran out -/
  | responseTimeout
  | cmd (env : CmdEnv) (cmd : Cmd)
  /-- the end of the wait of a decoder start command -/
  | startFlushed (env : CmdEnv) (timedOut : Bool)

def handleEvent (event : Event) (inst : Inst) : Inst :=
  match event with
  | .gen1 response =>
      match inst.gen with
      | .gen1 => irisHfiGen1HandleResponse response inst
      | .gen2 => inst
  | .gen2 packets =>
      match inst.gen with
      | .gen1 => inst
      | .gen2 => irisHfiGen2HandleSessionResponse packets inst
  | .systemError => inst.enterError
  | .responseTimeout => inst.enterError
  | .cmd env cmd => (irisCmd env cmd inst).2
  | .startFlushed env timedOut =>
      if timedOut then inst.enterError else (irisVdecStartCmdFlushed env inst).2

def handleEvents (events : List Event) (inst : Inst) : Inst :=
  events.foldl (fun inst event => handleEvent event inst) inst

end NabuIris
