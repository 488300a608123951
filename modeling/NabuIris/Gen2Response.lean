import NabuIris.Gen2Message
import NabuIris.Lib.Passes
import NabuIris.SourceChange

/-!
# A session response of the second generation, as a whole (`iris_hfi_gen2_response.c`)

`ResponsesGen2`, `InternalBuffers` and `SourceChange` each follow one part of the instance. Here the
handlers of these modules act together on all of it, and a packet is what they find in the packet
buffer, with what lies behind it read as its payload.
-/

namespace NabuIris

open Lib Lib.Reading Gen2Message

def hfiFwFlagsSuccess : BitVec 32 := 0x1

def hfiPropNoOutput : BitVec 32 := 0x0300016a

def hfiInfoDataCorrupt : BitVec 32 := 0x06000002
def hfiInfoBufferOverflow : BitVec 32 := 0x06000004
def hfiInfoHfiFlagDrainLast : BitVec 32 := 0x06000006
def hfiInfoHfiFlagPscLast : BitVec 32 := 0x06000007

/-! ### Packets in the packet buffer -/

/-- The payload of a packet is read as words, or as a buffer. -/
structure ReceivedPacket extends BufferPacket where
  payload0 : U32
  payload1 : U32

def bufferAt (mem : Memory) (buffer : Nat) : HfiBufferPayload :=
  { type := (bufferType buffer).run mem
    index := (bufferIndex buffer).run mem
    baseAddress := (bufferBaseAddress buffer).run mem
    addrOffset := (u32 (buffer + 16)).run mem
    bufferSize := (u32 (buffer + 20)).run mem
    dataOffset := (bufferDataOffset buffer).run mem
    dataSize := (bufferDataSize buffer).run mem
    timestamp := (bufferTimestamp buffer).run mem
    flags := (bufferFlags buffer).run mem }

def receivedAt (mem : Memory) (pkt : Nat) : ReceivedPacket :=
  { size := (pktSize pkt).run mem
    type := (pktType pkt).run mem
    flags := (pktFlags pkt).run mem
    payloadInfo := (pktPayloadInfo pkt).run mem
    port := (pktPort pkt).run mem
    buffer := bufferAt mem (pkt + hfiPacketSize)
    payload0 := (pktPayload pkt 0).run mem
    payload1 := (pktPayload pkt 1).run mem }

/-- The walk of the handlers over the packets that are left. -/
def receivedPackets (mem : Memory) : Nat → Nat → List ReceivedPacket
  | 0, _ => []
  | n + 1, pkt =>
      receivedAt mem pkt :: receivedPackets mem n (pkt + ((pktSize pkt).run mem).toNat)

/-! ### The instance -/

/-- `struct iris_inst_hfi_gen2` -/
structure Gen2Instance where
  inst : Inst
  formats : Formats
  params : SubscriptionParams
  fwCaps : FwCap → U32
  buffers : InternalBuffers
  freed : List InternalBuffer
  info : FrameInfo
  /-- `hfi_frame_info.no_output` -/
  noOutput : Bool
  /-- `vb2_queue_error` was called for both queues -/
  queueError : Bool
  /-- how often `inst->completion` was completed -/
  completions : Nat
  /-- how many `V4L2_EVENT_SOURCE_CHANGE` were queued -/
  sourceChanges : Nat

namespace Gen2Instance

def call (f : Inst → Int × Inst) (s : Gen2Instance) : Int × Gen2Instance :=
  ((f s.inst).1, { s with inst := (f s.inst).2 })

def enterError (s : Gen2Instance) : Gen2Instance := { s with inst := s.inst.enterError }

def complete (s : Gen2Instance) : Gen2Instance := { s with completions := s.completions + 1 }

/-- What `SourceChange` follows of the instance. -/
def decoder (s : Gen2Instance) : Gen2Decoder :=
  { inst := s.inst, formats := s.formats, params := s.params, fwCaps := s.fwCaps }

def setDecoder (s : Gen2Instance) (dec : Gen2Decoder) : Gen2Instance :=
  { s with inst := dec.inst, formats := dec.formats, params := dec.params, fwCaps := dec.fwCaps }

/-- What `InternalBuffers` follows of the instance. -/
def internals (s : Gen2Instance) : InternalInst :=
  { inst := s.inst, buffers := s.buffers, freed := s.freed }

def setInternals (s : Gen2Instance) (t : InternalInst) : Gen2Instance :=
  { s with inst := t.inst, buffers := t.buffers, freed := t.freed }

/-! ### Handlers -/

def irisVb2QueueError (s : Gen2Instance) : Gen2Instance := { s with queueError := true }

def irisHfiGen2HandleSessionError (s : Gen2Instance) : Int × Gen2Instance :=
  (0, (irisVb2QueueError s).enterError)

def irisHfiGen2HandleSessionInfo (pkt : ReceivedPacket) (s : Gen2Instance) : Int × Gen2Instance :=
  if pkt.type = hfiInfoDataCorrupt then (0, { s with info := { s.info with dataCorrupt := true } })
  else if pkt.type = hfiInfoBufferOverflow then
    (0, { s with info := { s.info with overflow := true } })
  else if pkt.type = hfiInfoHfiFlagDrainLast then s.call irisInstSubStateChangeDrainLast
  else if pkt.type = hfiInfoHfiFlagPscLast then s.call irisInstSubStateChangeDrcLast
  else (0, s)

/-- The properties that go to `src_subcr_params`. -/
def subscribedProperties : List (U32 × SubscribedProperty) :=
  [(hfiPropBitstreamResolution, .bitstreamResolution), (hfiPropCropOffsets, .cropOffsets),
    (hfiPropLumaChromaBitDepth, .lumaChromaBitDepth), (hfiPropCodedFrames, .codedFrames),
    (hfiPropBufferFwMinOutputCount, .bufferFwMinOutputCount),
    (hfiPropPicOrderCntType, .picOrderCntType), (hfiPropSignalColorInfo, .signalColorInfo),
    (hfiPropProfile, .profile), (hfiPropLevel, .level), (hfiPropTier, .tier)]

def irisHfiGen2HandleSessionProperty (pkt : ReceivedPacket) (s : Gen2Instance) :
    Int × Gen2Instance :=
  if hasFlag pkt.flags hfiFwFlagsInformation then (0, s)
  else if pkt.type = hfiPropPictureType then
    (0, { s with info := { s.info with pictureType := pkt.payload0 } })
  else if pkt.type = hfiPropNoOutput then (0, { s with noOutput := true })
  else
    match subscribedProperties.lookup pkt.type with
    | some property =>
        (0, { s with params := s.params.set property pkt.payload0 pkt.payload1 })
    | none => (0, s)

def irisHfiGen2HandleSessionClose (pkt : ReceivedPacket) (s : Gen2Instance) : Gen2Instance :=
  if !hasFlag pkt.flags hfiFwFlagsSuccess then s.enterError else s.complete

def irisHfiGen2HandleSessionStop (pkt : ReceivedPacket) (s : Gen2Instance) : Int × Gen2Instance :=
  let pause :=
    if pkt.port = hfiPortRaw then s.call (irisInstSubStateChangePause .capture)
    else if pkt.port = hfiPortBitstream then s.call (irisInstSubStateChangePause .output)
    else (0, s)
  (pause.1, pause.2.complete)

def irisHfiGen2HandleSessionBuffer (pkt : ReceivedPacket) (s : Gen2Instance) :
    Option (Int × Gen2Instance) :=
  (s.internals.irisHfiGen2HandleSessionBuffer s.info pkt.toBufferPacket).map fun handled =>
    (handled.1, s.setInternals handled.2)

def irisHfiGen2HandleSessionDrain (pkt : ReceivedPacket) (s : Gen2Instance) : Int × Gen2Instance :=
  if !hasFlag pkt.flags hfiFwFlagsSuccess then (0, s.enterError)
  else if hasFlag s.inst.subState subDrain then s.call (irisInstChangeSubState 0 subInputPause)
  else (0, s)

def irisVdecSrcChange (s : Gen2Instance) : Gen2Instance :=
  if !s.inst.streaming .output then s else { s with sourceChanges := s.sourceChanges + 1 }

def irisHfiGen2HandleSrcChange (rules : OutputRules) (pkt : ReceivedPacket) (s : Gen2Instance) :
    Int × Gen2Instance :=
  if pkt.port ≠ hfiPortBitstream then (0, s)
  else
    let change := handleSrcChange rules s.decoder
    let s := s.setDecoder change.2
    if change.1 ≠ 0 then (change.1, s) else (0, irisVdecSrcChange s)

/-- The results of the close and of the stop handlers go nowhere. -/
def irisHfiGen2HandleSessionCommand (rules : OutputRules) (pkt : ReceivedPacket)
    (s : Gen2Instance) : Option (Int × Gen2Instance) :=
  if pkt.type = hfiCmdClose then some (0, irisHfiGen2HandleSessionClose pkt s)
  else if pkt.type = hfiCmdStop then some (0, (irisHfiGen2HandleSessionStop pkt s).2)
  else if pkt.type = hfiCmdBuffer then irisHfiGen2HandleSessionBuffer pkt s
  else if pkt.type = hfiCmdSettingsChange then some (irisHfiGen2HandleSrcChange rules pkt s)
  else if pkt.type = hfiCmdDrain then some (irisHfiGen2HandleSessionDrain pkt s)
  else some (0, s)

def irisHfiGen2InitSrcChangeParam (s : Gen2Instance) : Gen2Instance :=
  s.setDecoder (NabuIris.irisHfiGen2InitSrcChangeParam s.decoder)

end Gen2Instance

/-! ### The passes -/

/-- `begin` and `end` of `range[]` -/
def Gen2Pass.range : Gen2Pass → BitVec 32 × BitVec 32
  | .errors => (hfiSessionErrorBegin, hfiSessionErrorEnd)
  | .infos => (hfiInformationBegin, hfiInformationEnd)
  | .properties => (hfiPropBegin, hfiPropEnd)
  | .commands => (hfiCmdBegin, hfiCmdEnd)

/-- `handle` of `range[]` -/
def Gen2Pass.handler (rules : OutputRules) (pass : Gen2Pass) (pkt : ReceivedPacket)
    (s : Gen2Instance) : Option (Int × Gen2Instance) :=
  match pass with
  | .errors => some s.irisHfiGen2HandleSessionError
  | .infos => some (s.irisHfiGen2HandleSessionInfo pkt)
  | .properties => some (s.irisHfiGen2HandleSessionProperty pkt)
  | .commands => s.irisHfiGen2HandleSessionCommand rules pkt

def ReceivedPacket.changesSource (pkt : ReceivedPacket) : Bool :=
  pkt.type == hfiCmdSettingsChange && pkt.port == hfiPortBitstream

namespace Gen2Instance

/-- The loops over `range[]` and over the packets, on `ret` and the instance. -/
def sessionPasses (rules : OutputRules) :
    Passes Gen2Pass ReceivedPacket (Int × Gen2Instance) where
  within pass pkt := inRange pass.range pkt.type
  marked pkt := hasFlag pkt.flags hfiFwFlagsSessionError
  mark r := (r.1, r.2.irisHfiGen2HandleSessionError.2)
  handle pass pkt r := (pass.handler rules pkt r.2).map fun handled =>
    (handled.1, if handled.1 ≠ 0 then handled.2.enterError else handled.2)

/-- The instance before the passes. -/
def prepare (packets : List ReceivedPacket) (s : Gen2Instance) : Gen2Instance :=
  let s := { s with info := .cleared, noOutput := false }
  if packets.any ReceivedPacket.changesSource then s.irisHfiGen2InitSrcChangeParam else s

/-- `HFI_CMD_BUFFER` is in the range of the commands. -/
def dequeue (packets : List ReceivedPacket) (s : Gen2Instance) : Gen2Instance :=
  if packets.any fun pkt => pkt.type == hfiCmdBuffer then
    { s with inst := irisHfiGen2HandleDequeueBuffers s.inst }
  else s

def handlePackets (rules : OutputRules) (packets : List ReceivedPacket) (s : Gen2Instance) :
    Option (Int × Gen2Instance) :=
  ((sessionPasses rules).run [.errors, .infos, .properties, .commands] packets
    (0, s.prepare packets)).map fun r => (r.1, r.2.dequeue packets)

/-- `none` is a null pointer dereferenced in a handler. The response is for this instance, or for
another one, which then is not here. -/
def irisHfiGen2HandleSessionResponse (rules : OutputRules) (mem : Memory) (s : Gen2Instance) :
    Option (Int × Gen2Instance) :=
  if s.inst.sessionId ≠ hdrSessionId.run mem then some (-einval, s)
  else s.handlePackets rules
    (receivedPackets mem (hdrNumPackets.run mem).toNat hfiHeaderSize)

end Gen2Instance

end NabuIris
