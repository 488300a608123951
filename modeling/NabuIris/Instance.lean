import Mathlib.Logic.Function.Basic
import NabuIris.Basic

/-!
# Instances (`iris_instance.h`, `iris_state.c`)

The fields of `struct iris_inst` that streaming and buffer completion read, the instance state
machine, and the calls that mem2mem and videobuf2 provide. `log` is not in the driver: it records
what passes between the driver and its two neighbours, videobuf2 and the firmware.
-/

namespace NabuIris

/-- `V4L2_BUF_TYPE_VIDEO_OUTPUT_MPLANE` and `V4L2_BUF_TYPE_VIDEO_CAPTURE_MPLANE`, with the driver's
buffers `BUF_INPUT` and `BUF_OUTPUT`. -/
inductive Plane
  | output
  | capture
deriving DecidableEq, Repr

inductive Gen
  | gen1
  | gen2
deriving DecidableEq, Repr

/-- `enum domain_type` -/
inductive Domain
  | encoder
  | decoder
deriving DecidableEq, Repr

inductive Codec
  | h264
  | hevc
  | vp9
deriving DecidableEq, Repr

/-- `enum vb2_buffer_state`, as given to `v4l2_m2m_buf_done` -/
inductive Vb2State
  | queued
  | done
  | error
deriving DecidableEq, Repr

/-- `enum iris_inst_state` -/
inductive InstState
  | deinit
  | init
  | inputStreaming
  | outputStreaming
  | streaming
  | error
deriving DecidableEq, Repr

/-! ### Flags -/

abbrev BufFlags := BitVec 32

def v4l2BufFlagKeyframe : BufFlags := 0x8
def v4l2BufFlagPframe : BufFlags := 0x10
def v4l2BufFlagBframe : BufFlags := 0x20
def v4l2BufFlagError : BufFlags := 0x40
def v4l2BufFlagLast : BufFlags := 0x100000

abbrev SubState := BitVec 8

def subFirstIpsc : SubState := 0x01
def subDrc : SubState := 0x02
def subDrcLast : SubState := 0x04
def subDrain : SubState := 0x08
def subDrainLast : SubState := 0x10
def subInputPause : SubState := 0x20
def subOutputPause : SubState := 0x40
def subLoadResources : SubState := 0x80

/-- `flags & mask`, as a condition -/
def hasFlag {w : Nat} (flags mask : BitVec w) : Bool := flags &&& mask ≠ 0

/-! ### Buffers -/

/-- `BUF_ATTR_*` -/
structure BufAttr where
  deferred : Bool
  queued : Bool
  dequeued : Bool
  bufferDone : Bool
deriving DecidableEq, Repr

structure IrisBuffer where
  deviceAddr : Nat
  dataOffset : Nat
  dataSize : Nat
  flags : BufFlags
  timestamp : BitVec 64
  attr : BufAttr
deriving DecidableEq, Repr

/-- What `iris_vb2_buffer_done` stores in a buffer that it completes as done. -/
structure Payload where
  /-- set for CAPTURE buffers -/
  bytesused : Option Nat
  flags : BufFlags
  timestamp : BitVec 64
deriving DecidableEq, Repr

inductive BufEvent
  /-- videobuf2 hands a buffer over in `iris_vb2_buf_queue` -/
  | handed (plane : Plane) (i : Nat)
  /-- the firmware gets a buffer -/
  | submitted (plane : Plane) (i : Nat)
  /-- the driver gives a buffer back in `v4l2_m2m_buf_done` -/
  | done (plane : Plane) (i : Nat) (state : Vb2State) (payload : Option Payload)
  /-- `iris_vdec_hold_output` returns `-EBUSY` -/
  | holdRefused (i : Nat)
deriving DecidableEq, Repr

structure Inst where
  gen : Gen
  domain : Domain
  codec : Codec
  legacyVpu5 : Bool
  splitMode : Bool
  sessionId : BitVec 32
  state : InstState
  subState : SubState
  /-- the mem2mem ready lists -/
  ready : Plane → List Nat
  buf : Plane → Nat → IrisBuffer
  /-- `flags` of the `vb2_v4l2_buffer` -/
  vbufFlags : Plane → Nat → BufFlags
  /-- `vb2_is_streaming` -/
  streaming : Plane → Bool
  hfiSessionOpened : Bool
  pendingOutput : Option Nat
  startStreamingRollbackType : Option Plane
  lastBufferDequeued : Bool
  streamoffPending : Bool
  /-- `v4l2_m2m_has_stopped` -/
  m2mStopped : Bool
  flushResponsesPending : BitVec 32
  corruptOutputDrops : Nat
  log : List BufEvent

namespace Inst

def setReady (inst : Inst) (plane : Plane) (ready : List Nat) : Inst :=
  { inst with ready := Function.update inst.ready plane ready }

def setBuf (inst : Inst) (plane : Plane) (i : Nat) (buf : IrisBuffer) : Inst :=
  { inst with
    buf := Function.update inst.buf plane (Function.update (inst.buf plane) i buf) }

def setVbufFlags (inst : Inst) (plane : Plane) (i : Nat) (flags : BufFlags) : Inst :=
  { inst with
    vbufFlags := Function.update inst.vbufFlags plane
      (Function.update (inst.vbufFlags plane) i flags) }

def setStreaming (inst : Inst) (plane : Plane) (streaming : Bool) : Inst :=
  { inst with streaming := Function.update inst.streaming plane streaming }

def record (inst : Inst) (event : BufEvent) : Inst := { inst with log := inst.log ++ [event] }

/-- `if (cond) change;` -/
def applyIf (cond : Bool) (change : Inst → Inst) (inst : Inst) : Inst :=
  if cond then change inst else inst

end Inst

/-! ### mem2mem and videobuf2 -/

def v4l2M2mBufQueue (plane : Plane) (i : Nat) (inst : Inst) : Inst :=
  inst.setReady plane (inst.ready plane ++ [i])

/-- Removal by index; the buffer that `v4l2_m2m_src_buf_remove` takes is the first one. -/
def v4l2M2mBufRemove (plane : Plane) (i : Nat) (inst : Inst) : Inst :=
  inst.setReady plane ((inst.ready plane).erase i)

def v4l2M2mBufDone (plane : Plane) (i : Nat) (state : Vb2State) (payload : Option Payload)
    (inst : Inst) : Inst :=
  inst.record (.done plane i state payload)

/-! ### `iris_state.c` -/

def irisAllowInstStateChange (state reqState : InstState) : Bool :=
  match state, reqState with
  | .init, .inputStreaming => true
  | .init, .outputStreaming => true
  | .init, .deinit => true
  | .inputStreaming, .init => true
  | .inputStreaming, .streaming => true
  | .inputStreaming, .deinit => true
  | .outputStreaming, .init => true
  | .outputStreaming, .streaming => true
  | .outputStreaming, .deinit => true
  | .streaming, .inputStreaming => true
  | .streaming, .outputStreaming => true
  | .streaming, .deinit => true
  | .deinit, .init => true
  | _, _ => false

def irisInstChangeState (requestState : InstState) (inst : Inst) : Int × Inst :=
  if inst.state = .error then (0, inst)
  else if inst.state = requestState then (0, inst)
  else if requestState = .error then (0, { inst with state := .error })
  else if !irisAllowInstStateChange inst.state requestState then (-einval, inst)
  else (0, { inst with state := requestState })

/-- `iris_inst_change_state(inst, IRIS_INST_ERROR)` -/
def Inst.enterError (inst : Inst) : Inst := (irisInstChangeState .error inst).2

def irisInstStateChangeStreamon (plane : Plane) (inst : Inst) : Int × Inst :=
  irisInstChangeState
    (match plane, inst.state with
      | .output, .init => .inputStreaming
      | .output, .outputStreaming => .streaming
      | .capture, .init => .outputStreaming
      | .capture, .inputStreaming => .streaming
      | _, _ => .error) inst

def irisInstStateChangeStreamoff (plane : Plane) (inst : Inst) : Int × Inst :=
  irisInstChangeState
    (match plane, inst.state with
      | .output, .inputStreaming => .init
      | .output, .streaming => .outputStreaming
      | .capture, .outputStreaming => .init
      | .capture, .streaming => .inputStreaming
      | _, _ => .error) inst

def irisInstAllowSubState (state : InstState) (subState : SubState) : Bool :=
  if subState = 0 then true
  else
    match state with
    | .init => hasFlag subState subLoadResources
    | .inputStreaming => hasFlag subState (subFirstIpsc ||| subDrc ||| subDrain ||| subInputPause)
    | .outputStreaming =>
        hasFlag subState (subDrcLast ||| subDrainLast ||| subOutputPause ||| subLoadResources)
    | .streaming =>
        hasFlag subState (subDrc ||| subDrain ||| subDrcLast ||| subDrainLast ||| subInputPause |||
          subOutputPause)
    | .deinit =>
        hasFlag subState (subDrc ||| subDrain ||| subDrcLast ||| subDrainLast ||| subInputPause |||
          subOutputPause)
    | .error => false

/-- The masks have the width of the sub-state, so the tests against its largest value are gone. -/
def irisInstChangeSubState (clearSubState setSubState : SubState) (inst : Inst) : Int × Inst :=
  if inst.state = .error then (0, inst)
  else if clearSubState = 0 ∧ setSubState = 0 then (0, inst)
  else if hasFlag clearSubState setSubState then (-einval, inst)
  else if !irisInstAllowSubState inst.state setSubState then (-einval, inst)
  else (0, { inst with subState := (inst.subState ||| setSubState) &&& ~~~clearSubState })

def irisInstSubStateChangeDrc (inst : Inst) : Int × Inst :=
  if hasFlag inst.subState subDrc then (-einval, inst)
  else if inst.state = .inputStreaming ∨ inst.state = .init then
    irisInstChangeSubState 0 (subFirstIpsc ||| subInputPause) inst
  else irisInstChangeSubState 0 (subDrc ||| subInputPause) inst

def irisInstSubStateChangeDrainLast (inst : Inst) : Int × Inst :=
  if hasFlag inst.subState subDrainLast then (-einval, inst)
  else if !hasFlag inst.subState subDrain then (-einval, inst)
  else irisInstChangeSubState 0 (subDrainLast ||| subOutputPause) inst

def irisInstSubStateChangeDrcLast (inst : Inst) : Int × Inst :=
  if hasFlag inst.subState subDrcLast then (-einval, inst)
  else if !hasFlag inst.subState subDrc || !hasFlag inst.subState subInputPause then
    (-einval, inst)
  else if hasFlag inst.subState subFirstIpsc then (0, inst)
  else irisInstChangeSubState 0 (subDrcLast ||| subOutputPause) inst

def irisInstSubStateChangePause (plane : Plane) (inst : Inst) : Int × Inst :=
  match plane with
  | .output =>
      if hasFlag inst.subState subDrc && !hasFlag inst.subState subDrcLast then (-einval, inst)
      else if hasFlag inst.subState subDrain && !hasFlag inst.subState subDrainLast then
        (-einval, inst)
      else irisInstChangeSubState 0 subInputPause inst
  | .capture => irisInstChangeSubState 0 subOutputPause inst

def irisDrcPending (inst : Inst) : Bool :=
  hasFlag inst.subState subDrc && hasFlag inst.subState subDrcLast

def irisDrainPending (inst : Inst) : Bool :=
  hasFlag inst.subState subDrain && hasFlag inst.subState subDrainLast

inductive Cmd
  | start
  | stop
deriving DecidableEq, Repr

def irisAllowCmd (cmd : Cmd) (inst : Inst) : Bool :=
  match cmd with
  | .start =>
      (inst.streaming .output || inst.streaming .capture) &&
        (irisDrcPending inst || irisDrainPending inst)
  | .stop => inst.streaming .output && inst.subState != subDrain

end NabuIris
