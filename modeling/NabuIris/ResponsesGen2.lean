import NabuIris.Buffers

/-!
# Responses of the second firmware generation (`iris_hfi_gen2_response.c`)

A response is a list of packets, handled in four passes: errors, information, properties, commands.
Of the properties only the picture type matters here. Validation of the header comes before: a
response that fails it is a system error.
-/

namespace NabuIris

/-! ### Packets -/

abbrev PictureBits := BitVec 32

def hfiGen2PictureKeyframe : PictureBits := 0x1 ||| 0x8 ||| 0x10 ||| 0x20
def hfiGen2PictureP : PictureBits := 0x2
def hfiGen2PictureB : PictureBits := 0x4
def hfiGen2PictureNoshow : PictureBits := 0x40

abbrev HfiBufFlags := BitVec 32

def hfiBufFwFlagLast : HfiBufFlags := 0x10000000
def hfiBufFwFlagPscLast : HfiBufFlags := 0x20000000

/-- `struct iris_hfi_buffer` -/
structure HfiBuffer where
  index : Nat
  baseAddress : Nat
  dataOffset : Nat
  dataSize : Nat
  flags : HfiBufFlags
  timestamp : BitVec 64
deriving DecidableEq, Repr

inductive HfiBufferType
  | bitstream
  | raw
  /-- an internal buffer, found in its list or not -/
  | internal (found : Bool)
deriving DecidableEq, Repr

inductive Gen2Info
  | dataCorrupt
  | bufferOverflow
  | drainLast
  | pscLast
  | other
deriving DecidableEq, Repr

inductive Gen2BufferPayload
  /-- no payload, or a buffer type or a port that is not valid -/
  | ignored
  /-- `iris_hfi_gen2_validate_packet_payload` fails -/
  | malformed
  | buffer (type : HfiBufferType) (buffer : HfiBuffer)
deriving DecidableEq, Repr

/-- What a packet says, by its range. `bitstream` tells `HFI_PORT_BITSTREAM` from other ports. -/
inductive Gen2Body
  | error
  | info (info : Gen2Info)
  | pictureType (bits : PictureBits)
  | close (success : Bool)
  | stop (port : Option Plane)
  | buffer (payload : Gen2BufferPayload)
  | settingsChange (bitstream : Bool) (unsupported : Bool)
  | drain (success : Bool)
deriving DecidableEq, Repr

structure Gen2Packet where
  /-- `HFI_FW_FLAGS_SESSION_ERROR` -/
  sessionError : Bool
  body : Gen2Body
deriving DecidableEq, Repr

/-- `struct iris_hfi_frame_info`, cleared for each response -/
structure FrameInfo where
  pictureType : PictureBits
  dataCorrupt : Bool
  overflow : Bool
deriving DecidableEq, Repr

def FrameInfo.cleared : FrameInfo := { pictureType := 0, dataCorrupt := false, overflow := false }

/-! ### Handlers -/

def irisHfiGen2GetDriverBufferFlags (info : FrameInfo) (hfiFlags : HfiBufFlags) : BufFlags :=
  let picture :=
    if hasFlag info.pictureType hfiGen2PictureNoshow then v4l2BufFlagError
    else if hasFlag info.pictureType hfiGen2PictureKeyframe then v4l2BufFlagKeyframe
    else if hasFlag info.pictureType hfiGen2PictureP then v4l2BufFlagPframe
    else if hasFlag info.pictureType hfiGen2PictureB then v4l2BufFlagBframe
    else 0
  picture ||| (if info.dataCorrupt || info.overflow then v4l2BufFlagError else 0) |||
    (if hasFlag hfiFlags (hfiBufFwFlagLast ||| hfiBufFwFlagPscLast) then v4l2BufFlagLast else 0)

def irisHfiGen2HandleInputBuffer (info : FrameInfo) (buffer : HfiBuffer) (inst : Inst) :
    Int × Inst :=
  let i := buffer.index
  let buf := inst.buf .output i
  if i ∉ inst.ready .output then (-einval, inst)
  else if !buf.attr.queued then (-einval, inst)
  else
    (0, inst.setBuf .output i
      { buf with
        flags := irisHfiGen2GetDriverBufferFlags info buffer.flags
        attr := { buf.attr with queued := false, dequeued := true } })

def irisHfiGen2HandleOutputBuffer (info : FrameInfo) (buffer : HfiBuffer) (inst : Inst) :
    Int × Inst :=
  orGoto (if hasFlag buffer.flags hfiBufFwFlagLast then irisInstSubStateChangeDrainLast inst
    else (0, inst)) (fun ret inst => (ret, inst)) fun inst =>
  orGoto (if hasFlag buffer.flags hfiBufFwFlagPscLast then irisInstSubStateChangeDrcLast inst
    else (0, inst)) (fun ret inst => (ret, inst)) fun inst =>
  let i := buffer.index
  let buf := inst.buf .capture i
  if i ∉ inst.ready .capture ∨ buf.deviceAddr ≠ buffer.baseAddress ∨
      buf.dataOffset ≠ buffer.dataOffset then (-einval, inst)
  else if !buf.attr.queued then (-einval, inst)
  else
    let flags := irisHfiGen2GetDriverBufferFlags info buffer.flags
    let empty := buffer.dataSize = 0 ∧ inst.state = .streaming ∧
      !hasFlag buffer.flags hfiBufFwFlagLast
    (0, inst.setBuf .capture i
      { buf with
        dataSize := buffer.dataSize
        timestamp := buffer.timestamp
        flags := if empty then flags ||| v4l2BufFlagError else flags
        attr := { buf.attr with queued := false, dequeued := true } })

/-- The loop of `iris_hfi_gen2_handle_dequeue_buffers` over the rest of a ready list. -/
def dequeueBuffers (plane : Plane) : List Nat → Inst → Inst
  | [], inst => inst
  | i :: rest, inst =>
      let buf := inst.buf plane i
      if !buf.attr.dequeued then dequeueBuffers plane rest inst
      else if buf.attr.bufferDone then
        dequeueBuffers plane rest
          (inst.setBuf plane i { buf with attr := { buf.attr with dequeued := false } })
      else
        dequeueBuffers plane rest (irisVb2BufferDone plane i (inst.setBuf plane i
          { buf with attr := { buf.attr with dequeued := false, bufferDone := true } })).2

def irisHfiGen2HandleDequeueBuffers (inst : Inst) : Inst :=
  let inst := dequeueBuffers .output (inst.ready .output) inst
  dequeueBuffers .capture (inst.ready .capture) inst

def irisHfiGen2HandleSessionBuffer (info : FrameInfo) (payload : Gen2BufferPayload)
    (inst : Inst) : Int × Inst :=
  match payload with
  | .ignored => (0, inst)
  | .malformed => (0, inst.enterError)
  | .buffer (.internal found) _ => (if found then 0 else -einval, inst)
  | .buffer .bitstream buffer =>
      match inst.domain with
      | .decoder => irisHfiGen2HandleInputBuffer info buffer inst
      | .encoder => irisHfiGen2HandleOutputBuffer info buffer inst
  | .buffer .raw buffer =>
      match inst.domain with
      | .decoder => irisHfiGen2HandleOutputBuffer info buffer inst
      | .encoder => irisHfiGen2HandleInputBuffer info buffer inst

def irisHfiGen2HandleSrcChange (bitstream unsupported : Bool) (inst : Inst) : Int × Inst :=
  if !bitstream then (0, inst)
  else
    orGoto (irisInstSubStateChangeDrc inst) (fun ret inst => (ret, inst)) fun inst =>
      (0, inst.applyIf unsupported Inst.enterError)

def irisHfiGen2HandleSessionCommand (info : FrameInfo) (body : Gen2Body) (inst : Inst) :
    Int × Inst :=
  match body with
  | .close success => (0, inst.applyIf (!success) Inst.enterError)
  -- the result of the pause is dropped by the caller of `iris_hfi_gen2_handle_session_stop`
  | .stop (some plane) => (0, (irisInstSubStateChangePause plane inst).2)
  | .buffer payload => irisHfiGen2HandleSessionBuffer info payload inst
  | .settingsChange bitstream unsupported => irisHfiGen2HandleSrcChange bitstream unsupported inst
  | .drain success =>
      if !success then (0, inst.enterError)
      else if hasFlag inst.subState subDrain then irisInstChangeSubState 0 subInputPause inst
      else (0, inst)
  | _ => (0, inst)

def irisHfiGen2HandleSessionInfo (info : Gen2Info) (inst : Inst) : Int × Inst :=
  match info with
  | .drainLast => irisInstSubStateChangeDrainLast inst
  | .pscLast => irisInstSubStateChangeDrcLast inst
  | _ => (0, inst)

/-! ### A response -/

/-- The entries of `range[]`. -/
inductive Gen2Pass
  | errors
  | infos
  | properties
  | commands
deriving DecidableEq, Repr

/-- The handler of a pass for one packet; `none` when the packet is not in its range. -/
def Gen2Pass.handle (pass : Gen2Pass) (info : FrameInfo) (body : Gen2Body) (inst : Inst) :
    Option (Int × Inst) :=
  match pass, body with
  | .errors, .error => some (0, inst.enterError)
  | .infos, .info event => some (irisHfiGen2HandleSessionInfo event inst)
  | .properties, .pictureType _ => some (0, inst)
  | .commands, .error => none
  | .commands, .info _ => none
  | .commands, .pictureType _ => none
  | .commands, body => some (irisHfiGen2HandleSessionCommand info body inst)
  | _, _ => none

/-- What a pass stores of a packet for the passes after it. -/
def Gen2Pass.note (pass : Gen2Pass) (body : Gen2Body) (info : FrameInfo) : FrameInfo :=
  match pass, body with
  | .infos, .info .dataCorrupt => { info with dataCorrupt := true }
  | .infos, .info .bufferOverflow => { info with overflow := true }
  | .properties, .pictureType bits => { info with pictureType := bits }
  | _, _ => info

def Gen2Pass.packet (pass : Gen2Pass) (state : FrameInfo × Inst) (packet : Gen2Packet) :
    FrameInfo × Inst :=
  let inst := state.2.applyIf packet.sessionError Inst.enterError
  match pass.handle state.1 packet.body inst with
  | none => (state.1, inst)
  | some (ret, inst) =>
      (pass.note packet.body state.1, inst.applyIf (ret ≠ 0) Inst.enterError)

def Gen2Packet.isBuffer (packet : Gen2Packet) : Bool :=
  match packet.body with
  | .buffer _ => true
  | _ => false

def irisHfiGen2HandleSessionResponse (packets : List Gen2Packet) (inst : Inst) : Inst :=
  let passes :=
    [Gen2Pass.errors, .infos, .properties, .commands].foldl
      (fun state pass => packets.foldl pass.packet state) (FrameInfo.cleared, inst)
  passes.2.applyIf (packets.any Gen2Packet.isBuffer) irisHfiGen2HandleDequeueBuffers

end NabuIris
