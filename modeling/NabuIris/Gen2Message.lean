import Mathlib.Algebra.GroupWithZero.Nat
import NabuIris.InternalBuffers
import NabuIris.Lib.Reading

/-!
# What the second generation reads of a message (`iris_hfi_gen2_response.c`)

`core->response_packet` is 4096 bytes long; offsets here start at its first byte, and what lies
beyond is whatever the memory holds there. The functions read what those of the driver read, in
their order. What the driver makes of it is in `ResponsesGen2`, `SourceChange` and
`InternalBuffers`; of an instance only what decides a further read is left, in a `Gen2View`.
-/

namespace NabuIris.Gen2Message

open Lib Lib.Reading

def ifaceqCorePktSize : Nat := 4096

def irisFwVersionLength : Nat := 128

/-! ### Packet types and flags -/

def hfiCmdBegin : BitVec 32 := 0x01000000
def hfiCmdClose : BitVec 32 := 0x01000004
def hfiCmdStop : BitVec 32 := 0x01000006
def hfiCmdDrain : BitVec 32 := 0x01000007
def hfiCmdSettingsChange : BitVec 32 := 0x0100000c
def hfiCmdEnd : BitVec 32 := 0x01ffffff

def hfiPropBegin : BitVec 32 := 0x03000000
def hfiPropImageVersion : BitVec 32 := 0x03000001
def hfiPropBitstreamResolution : BitVec 32 := 0x03000103
def hfiPropCropOffsets : BitVec 32 := 0x03000105
def hfiPropProfile : BitVec 32 := 0x03000107
def hfiPropLevel : BitVec 32 := 0x03000108
def hfiPropTier : BitVec 32 := 0x03000109
def hfiPropLumaChromaBitDepth : BitVec 32 := 0x0300010f
def hfiPropCodedFrames : BitVec 32 := 0x03000120
def hfiPropBufferFwMinOutputCount : BitVec 32 := 0x03000124
def hfiPropPicOrderCntType : BitVec 32 := 0x03000128
def hfiPropSignalColorInfo : BitVec 32 := 0x03000155
def hfiPropPictureType : BitVec 32 := 0x03000162
def hfiPropEnd : BitVec 32 := 0x03ffffff

def hfiSessionErrorBegin : BitVec 32 := 0x04000000
def hfiSessionErrorEnd : BitVec 32 := 0x04ffffff
def hfiSystemErrorBegin : BitVec 32 := 0x05000000
def hfiSystemErrorEnd : BitVec 32 := 0x05ffffff
def hfiInformationBegin : BitVec 32 := 0x06000000
def hfiInformationEnd : BitVec 32 := 0x06ffffff

def hfiFwFlagsInformation : BitVec 32 := 0x2
def hfiFwFlagsSessionError : BitVec 32 := 0x4
def hfiFwFlagsSystemError : BitVec 32 := 0x8

/-- `packet->type > range[i].begin && packet->type < range[i].end` -/
def inRange (range : BitVec 32 × BitVec 32) (type : BitVec 32) : Bool :=
  range.1 < type && type < range.2

/-! ### Fields -/

def hdrSize : Reading (BitVec 32) := u32 0
def hdrSessionId : Reading (BitVec 32) := u32 4
def hdrNumPackets : Reading (BitVec 32) := u32 28

def pktSize (pkt : Nat) : Reading (BitVec 32) := u32 pkt
def pktType (pkt : Nat) : Reading (BitVec 32) := u32 (pkt + 4)
def pktFlags (pkt : Nat) : Reading (BitVec 32) := u32 (pkt + 8)
def pktPayloadInfo (pkt : Nat) : Reading (BitVec 32) := u32 (pkt + 12)
def pktPort (pkt : Nat) : Reading (BitVec 32) := u32 (pkt + 16)
def pktPayload (pkt i : Nat) : Reading (BitVec 32) := u32 (pkt + hfiPacketSize + 4 * i)

/-! ### Validation -/

def irisHfiGen2ValidatePacket (pkt : Nat) : Reading Int := do
  let size ← pktSize pkt
  if size = 0 then pure (-einval)
  else if size.toNat < hfiPacketSize then pure (-einval)
  else if ifaceqCorePktSize < pkt + size.toNat then pure (-einval)
  else pure 0

/-- The loop of `iris_hfi_gen2_validate_hdr_packet` over the packets that are left. -/
def validatePackets : Nat → Nat → Reading Int
  | 0, _ => pure 0
  | n + 1, pkt => do
      let ret ← irisHfiGen2ValidatePacket pkt
      if ret ≠ 0 then pure ret
      else do
        let size ← pktSize pkt
        validatePackets n (pkt + size.toNat)

def irisHfiGen2ValidateHdrPacket : Reading Int := do
  let size ← hdrSize
  if size.toNat < hfiHeaderSize + hfiPacketSize then pure (-einval)
  else do
    let numPackets ← hdrNumPackets
    validatePackets numPackets.toNat hfiHeaderSize

/-! ### Buffers -/

/-- A buffer in a mem2mem ready list. -/
structure ReadyBuffer where
  index : BitVec 32
  deviceAddr : BitVec 64
  dataOffset : BitVec 32
  queued : Bool

/-- What the handlers find in the instance when they come to a packet. -/
structure Gen2View where
  domain : Domain
  src : List ReadyBuffer
  dst : List ReadyBuffer
  /-- the addresses of the internal buffers of each type -/
  internal : BufType → List (BitVec 64)
  /-- the result of `iris_inst_sub_state_change_drain_last` -/
  drainLast : Int
  /-- the result of `iris_inst_sub_state_change_drc_last` -/
  drcLast : Int

def bufferType (buffer : Nat) : Reading (BitVec 32) := u32 buffer
def bufferIndex (buffer : Nat) : Reading (BitVec 32) := u32 (buffer + 4)
def bufferBaseAddress (buffer : Nat) : Reading (BitVec 64) := u64 (buffer + 8)
def bufferDataOffset (buffer : Nat) : Reading (BitVec 32) := u32 (buffer + 24)
def bufferDataSize (buffer : Nat) : Reading (BitVec 32) := u32 (buffer + 28)
def bufferTimestamp (buffer : Nat) : Reading (BitVec 64) := u64 (buffer + 32)
def bufferFlags (buffer : Nat) : Reading (BitVec 32) := u32 (buffer + 40)

/-- The search of `iris_hfi_gen2_handle_input_buffer`. -/
def findSource (buffer : Nat) : List ReadyBuffer → Reading (Option ReadyBuffer)
  | [] => pure none
  | buf :: rest => do
      let index ← bufferIndex buffer
      if buf.index = index then pure (some buf) else findSource buffer rest

/-- The search of `iris_hfi_gen2_handle_output_buffer`; `&&` stops at the first difference. -/
def findDestination (buffer : Nat) : List ReadyBuffer → Reading (Option ReadyBuffer)
  | [] => pure none
  | buf :: rest => do
      let index ← bufferIndex buffer
      if buf.index ≠ index then findDestination buffer rest
      else do
        let baseAddress ← bufferBaseAddress buffer
        if buf.deviceAddr ≠ baseAddress then findDestination buffer rest
        else do
          let dataOffset ← bufferDataOffset buffer
          if buf.dataOffset ≠ dataOffset then findDestination buffer rest else pure (some buf)

/-- The search of `iris_hfi_gen2_handle_release_internal_buffer`. -/
def findInternal (buffer : Nat) : List (BitVec 64) → Reading Bool
  | [] => pure false
  | addr :: rest => do
      let baseAddress ← bufferBaseAddress buffer
      if addr = baseAddress then pure true else findInternal buffer rest

def irisHfiGen2HandleInputBuffer (view : Gen2View) (buffer : Nat) : Reading Unit := do
  match ← findSource buffer view.src with
  | none => pure ()
  | some buf =>
      if !buf.queued then pure ()
      else do
        let _flags ← bufferFlags buffer
        pure ()

def irisHfiGen2HandleOutputBuffer (view : Gen2View) (buffer : Nat) : Reading Unit := do
  let flags ← bufferFlags buffer
  if hasFlag flags hfiBufFwFlagLast ∧ view.drainLast ≠ 0 then pure ()
  else if hasFlag flags hfiBufFwFlagPscLast ∧ view.drcLast ≠ 0 then pure ()
  else do
    match ← findDestination buffer view.dst with
    | none => pure ()
    | some buf =>
        if !buf.queued then pure ()
        else do
          let _dataOffset ← bufferDataOffset buffer
          let _dataSize ← bufferDataSize buffer
          let _timestamp ← bufferTimestamp buffer
          pure ()

/-- Nothing sets up the list head of the type 0, and nothing is read of a message before its list
is walked. -/
def irisHfiGen2HandleReleaseInternalBuffer (view : Gen2View) (buffer : Nat) : Reading Unit := do
  let type ← bufferType buffer
  match irisHfiGen2BufTypeToDriver view.domain type with
  | none => pure ()
  | some type => do
      let _found ← findInternal buffer (view.internal type)
      pure ()

/-- The end of `iris_hfi_gen2_handle_session_buffer`. -/
def dispatchBuffer (view : Gen2View) (type : BitVec 32) (buffer : Nat) : Reading Unit :=
  match view.domain with
  | .decoder =>
      if type = hfiBufferBitstream then irisHfiGen2HandleInputBuffer view buffer
      else if type = hfiBufferRaw then irisHfiGen2HandleOutputBuffer view buffer
      else irisHfiGen2HandleReleaseInternalBuffer view buffer
  | .encoder =>
      if type = hfiBufferRaw then irisHfiGen2HandleInputBuffer view buffer
      else if type = hfiBufferBitstream then irisHfiGen2HandleOutputBuffer view buffer
      else irisHfiGen2HandleReleaseInternalBuffer view buffer

def irisHfiGen2HandleSessionBuffer (view : Gen2View) (pkt : Nat) : Reading Unit := do
  let payloadInfo ← pktPayloadInfo pkt
  if payloadInfo = hfiPayloadNone then pure ()
  else do
    let type ← pktType pkt
    let size ← pktSize pkt
    if !irisHfiGen2ValidatePacketPayload size type payloadInfo then pure ()
    else do
      let buffer := pkt + hfiPacketSize
      let type ← bufferType buffer
      if !irisHfiGen2IsValidHfiBufferType type then pure ()
      else do
        let port ← pktPort pkt
        if !irisHfiGen2IsValidHfiPort port type then pure ()
        else dispatchBuffer view type buffer

/-! ### Session responses -/

def irisHfiGen2HandleSessionError (_ : Gen2View) (pkt : Nat) : Reading Unit := do
  let _type ← pktType pkt
  pure ()

def irisHfiGen2HandleSessionInfo (_ : Gen2View) (pkt : Nat) : Reading Unit := do
  let _type ← pktType pkt
  pure ()

/-- The properties of which the first word of the payload is stored. -/
def wordProperties : List (BitVec 32) :=
  [hfiPropBitstreamResolution, hfiPropLumaChromaBitDepth, hfiPropCodedFrames,
    hfiPropBufferFwMinOutputCount, hfiPropPicOrderCntType, hfiPropSignalColorInfo, hfiPropProfile,
    hfiPropLevel, hfiPropTier, hfiPropPictureType]

def irisHfiGen2HandleSessionProperty (_ : Gen2View) (pkt : Nat) : Reading Unit := do
  let flags ← pktFlags pkt
  if hasFlag flags hfiFwFlagsInformation then pure ()
  else do
    let type ← pktType pkt
    if type = hfiPropCropOffsets then do
      let _left ← pktPayload pkt 0
      let _right ← pktPayload pkt 1
      pure ()
    else if wordProperties.contains type then do
      let _value ← pktPayload pkt 0
      pure ()
    else pure ()

def irisHfiGen2HandleSessionCommand (view : Gen2View) (pkt : Nat) : Reading Unit := do
  let type ← pktType pkt
  if type = hfiCmdClose ∨ type = hfiCmdDrain then do
    let _flags ← pktFlags pkt
    pure ()
  else if type = hfiCmdStop ∨ type = hfiCmdSettingsChange then do
    let _port ← pktPort pkt
    pure ()
  else if type = hfiCmdBuffer then irisHfiGen2HandleSessionBuffer view pkt
  else pure ()

/-- The loop that looks for a settings change before the passes. -/
def settingsChange : Nat → Nat → Reading Bool
  | 0, _ => pure false
  | n + 1, pkt => do
      let type ← pktType pkt
      let port ← if type = hfiCmdSettingsChange then pktPort pkt else pure hfiPortNone
      if type = hfiCmdSettingsChange ∧ port = hfiPortBitstream then pure true
      else do
        let size ← pktSize pkt
        settingsChange n (pkt + size.toNat)

/-- `range[]` of `iris_hfi_gen2_handle_session_response` -/
def sessionRanges : List ((BitVec 32 × BitVec 32) × (Gen2View → Nat → Reading Unit)) :=
  [((hfiSessionErrorBegin, hfiSessionErrorEnd), irisHfiGen2HandleSessionError),
    ((hfiInformationBegin, hfiInformationEnd), irisHfiGen2HandleSessionInfo),
    ((hfiPropBegin, hfiPropEnd), irisHfiGen2HandleSessionProperty),
    ((hfiCmdBegin, hfiCmdEnd), irisHfiGen2HandleSessionCommand)]

/-- The body of the inner loop. -/
def sessionPacket (range : (BitVec 32 × BitVec 32) × (Gen2View → Nat → Reading Unit))
    (view : Gen2View) (pkt : Nat) : Reading Unit := do
  let flags ← pktFlags pkt
  if hasFlag flags hfiFwFlagsSessionError then irisHfiGen2HandleSessionError view pkt else pure ()
  let type ← pktType pkt
  if inRange range.1 type then range.2 view pkt else pure ()

/-- The inner loop over the packets that are left; `views` has one view for each of them. -/
def sessionPass (range : (BitVec 32 × BitVec 32) × (Gen2View → Nat → Reading Unit))
    (views : Nat → Gen2View) : Nat → Nat → Reading Unit
  | 0, _ => pure ()
  | n + 1, pkt => do
      sessionPacket range (views n) pkt
      let size ← pktSize pkt
      sessionPass range views n (pkt + size.toNat)

def sessionPasses (views : Nat → Gen2View) (numPackets : Nat) :
    List ((BitVec 32 × BitVec 32) × (Gen2View → Nat → Reading Unit)) → Reading Unit
  | [] => pure ()
  | range :: rest => do
      sessionPass range views numPackets hfiHeaderSize
      sessionPasses views numPackets rest

/-- `known` tells the sessions for which `iris_get_instance` finds an instance. -/
def irisHfiGen2HandleSessionResponse (known : BitVec 32 → Bool) (views : Nat → Gen2View) :
    Reading Unit := do
  let sessionId ← hdrSessionId
  if !known sessionId then pure ()
  else do
    let numPackets ← hdrNumPackets
    let _change ← settingsChange numPackets.toNat hfiHeaderSize
    sessionPasses views numPackets.toNat sessionRanges

/-! ### System responses -/

def irisHfiGen2HandleSystemError (pkt : Nat) : Reading Int := do
  let _type ← pktType pkt
  pure 0

def irisHfiGen2HandleImageVersionProperty (pkt : Nat) : Reading Int := do
  let size ← pktSize pkt
  let reqBytes := size - BitVec.ofNat 32 hfiPacketSize
  if reqBytes.toNat < irisFwVersionLength - 1 then pure (-einval)
  else do
    let _version ← bytes (irisFwVersionLength - 1) (pkt + hfiPacketSize)
    pure 0

def irisHfiGen2HandleSystemProperty (pkt : Nat) : Reading Int := do
  let type ← pktType pkt
  if type = hfiPropImageVersion then irisHfiGen2HandleImageVersionProperty pkt else pure 0

def irisHfiGen2HandleSystemInit (pkt : Nat) : Reading Int := do
  let _flags ← pktFlags pkt
  pure 0

/-- `range[]` of `iris_hfi_gen2_handle_system_response` -/
def systemRanges : List ((BitVec 32 × BitVec 32) × (Nat → Reading Int)) :=
  [((hfiSystemErrorBegin, hfiSystemErrorEnd), irisHfiGen2HandleSystemError),
    ((hfiPropBegin, hfiPropEnd), irisHfiGen2HandleSystemProperty),
    ((hfiCmdBegin, hfiCmdEnd), irisHfiGen2HandleSystemInit)]

/-- The body of the inner loop; `some ret` when the function returns `ret` there. -/
def systemPacket (range : (BitVec 32 × BitVec 32) × (Nat → Reading Int)) (pkt : Nat) :
    Reading (Option Int) := do
  let flags ← pktFlags pkt
  if hasFlag flags hfiFwFlagsSystemError then do
    let ret ← irisHfiGen2HandleSystemError pkt
    pure (some ret)
  else do
    let type ← pktType pkt
    if inRange range.1 type then do
      let ret ← range.2 pkt
      if ret ≠ 0 then pure (some ret)
      else if inRange (hfiSystemErrorBegin, hfiSystemErrorEnd) type then pure (some 0)
      else pure none
    else pure none

def systemPass (range : (BitVec 32 × BitVec 32) × (Nat → Reading Int)) :
    Nat → Nat → Reading (Option Int)
  | 0, _ => pure none
  | n + 1, pkt => do
      let ret ← systemPacket range pkt
      match ret with
      | some ret => pure (some ret)
      | none => do
          let size ← pktSize pkt
          systemPass range n (pkt + size.toNat)

def systemPasses (numPackets : Nat) :
    List ((BitVec 32 × BitVec 32) × (Nat → Reading Int)) → Reading Int
  | [] => pure 0
  | range :: rest => do
      let ret ← systemPass range numPackets hfiHeaderSize
      match ret with
      | some ret => pure ret
      | none => systemPasses numPackets rest

def irisHfiGen2HandleSystemResponse : Reading Int := do
  let numPackets ← hdrNumPackets
  systemPasses numPackets.toNat systemRanges

/-! ### The message -/

/-- A message that is not valid is a system error of which nothing more is read. -/
def irisHfiGen2HandleResponse (known : BitVec 32 → Bool) (views : Nat → Gen2View) :
    Reading Unit := do
  let ret ← irisHfiGen2ValidateHdrPacket
  if ret ≠ 0 then pure ()
  else do
    let sessionId ← hdrSessionId
    if sessionId = 0 then do
      let _ret ← irisHfiGen2HandleSystemResponse
      pure ()
    else irisHfiGen2HandleSessionResponse known views

end NabuIris.Gen2Message
