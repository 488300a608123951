import NabuIris.Gen2Build
import NabuIris.InternalBuffers
import NabuIris.SourceChange

/-!
# The commands of the second generation (`iris_hfi_gen2_command.c`, `iris_hfi_gen2_packet.c`)

Every command is built in the one buffer of its session and handed to the command queue. The state
keeps what was handed over, with the result. `none` is an access outside an object: a buffer that is
not there, a message that does not fit in it, or a store past the `payload` array on the stack.
-/

namespace NabuIris.Gen2Command

open Lib Lib.Reading Lib.Writing Gen2Message

/-! ### Words of the commands -/

def hfiCmdInit : U32 := 0x01000001
def hfiCmdPowerCollapse : U32 := 0x01000002
def hfiCmdOpen : U32 := 0x01000003
def hfiCmdStart : U32 := 0x01000005
def hfiCmdResume : U32 := 0x01000008
def hfiCmdSubscribeMode : U32 := 0x0100000b
def hfiCmdPause : U32 := 0x01000011

def hfiPropIntraFramePowerCollapse : U32 := 0x03000002
def hfiPropUbwcMaxChannels : U32 := 0x03000003
def hfiPropUbwcMalLength : U32 := 0x03000004
def hfiPropUbwcHbb : U32 := 0x03000005
def hfiPropUbwcBankSwzlLevel1 : U32 := 0x03000006
def hfiPropUbwcBankSwzlLevel2 : U32 := 0x03000007
def hfiPropUbwcBankSwzlLevel3 : U32 := 0x03000008
def hfiPropUbwcBankSpreading : U32 := 0x03000009
def hfiPropCodec : U32 := 0x03000100
def hfiPropColorFormat : U32 := 0x03000101
def hfiPropLinearStrideScanline : U32 := 0x03000104
def hfiPropFrameRate : U32 := 0x0300010c
def hfiPropCabacSession : U32 := 0x03000121
def hfiPropDecDefaultHeader : U32 := 0x03000168
def hfiPropNoOutput : U32 := 0x0300016a
def hfiPropRawResolution : U32 := 0x03000178
def hfiPropComvBufferCount : U32 := 0x03000193

def hfiModePortSettingsChange : U32 := 1
def hfiModeProperty : U32 := 2

def hfiVideoArchLx : U32 := 1
def hfiColorFmtNv12 : U32 := 1

def hfiHostFlagsNone : U32 := 0
def hfiHostFlagsResponseRequired : U32 := 0x2
def hfiHostFlagsNonDiscardable : U32 := 0x4
def hfiHostFlagsGetProperty : U32 := 0x8

def hfiPayloadU32Array : U32 := 0xb

/-- The size of `inst_hfi_gen2->packet`. -/
def packetAlloc : Nat := 4096

def wordPayload (words : List U32) : List (BitVec 8) :=
  words.flatMap fun w => [byteOf w 0, byteOf w 1, byteOf w 2, byteOf w 3]

/-! ### What the commands read and write -/

/-- What a command reads of `struct iris_inst`. -/
structure CommandInst where
  domain : Domain
  codec : Codec
  state : InstState
  sessionId : U32
  /-- `fmt_src->fmt.pix_mp`, and whether its pixel format is `V4L2_PIX_FMT_NV12` -/
  src : PixFormat
  srcNv12 : Bool
  dst : PixFormat
  dstNv12 : Bool
  crop : Rect
  compose : Rect
  /-- `buffers[BUF_OUTPUT].min_count` -/
  outputMinCount : U32
  frameRate : U32
  fwCaps : FwCap → U32

/-- The tables of `struct iris_platform_data`. -/
structure ParamTables where
  decInputDefault : List U32
  decInputHevc : List U32
  decInputVp9 : List U32
  decOutput : List U32
  encInput : List U32
  encOutput : List U32
  decInputProp : List U32
  decOutputPropAvc : List U32
  decOutputPropHevc : List U32
  decOutputPropVp9 : List U32
  numComv : U32

/-- A message as it was handed to `iris_hfi_queue_cmd_write`. -/
structure Written where
  message : Memory
  size : U32
  ret : Int

/-- `struct iris_inst_hfi_gen2`, the two counters of the core, and the messages. -/
structure Session where
  headerId : U32
  packetId : U32
  packet : Option Memory
  ipscPropertiesSet : Bool
  opscPropertiesSet : Bool
  srcSubcrParams : SubscriptionParams
  dstSubcrParams : SubscriptionParams
  written : List Written

/-- The result of the queue for each message that is handed over. -/
abbrev QueueEnv := Nat → Int

abbrev Call := Session → Option (Int × Session)

/-- `ret = call; if (ret) return ret; next` -/
def Call.thenCall (call next : Call) : Call := fun s =>
  (call s).bind fun (ret, s) => if ret ≠ 0 then some (ret, s) else next s

/-! ### Packets -/

/-- `iris_hfi_gen2_create_header` and `iris_hfi_gen2_create_packet` in the buffer of the session. -/
def irisHfiGen2PacketSessionCommand (pktType flags port sessionId payloadType : U32)
    (payload : List (BitVec 8)) (s : Session) : Option Session := do
  let mem ← s.packet
  if packetAlloc < hfiHeaderSize + hfiPacketSize + payload.length then none
  else
    let mem := irisHfiGen2CreateHeader sessionId s.headerId mem
    let mem := irisHfiGen2CreatePacket
      { type := pktType, flags, payloadInfo := payloadType, port, packetId := s.packetId, payload }
      mem
    some
      { s with packet := some mem, headerId := s.headerId + 1, packetId := s.packetId + 1 }

def irisHfiGen2PacketSessionProperty (inst : CommandInst) (pktType flags port payloadType : U32)
    (payload : List (BitVec 8)) : Session → Option Session :=
  irisHfiGen2PacketSessionCommand pktType flags port inst.sessionId payloadType payload

/-- `iris_hfi_queue_cmd_write(inst->core, packet, packet->size)` -/
def irisHfiQueueCmdWrite (env : QueueEnv) : Call := fun s => do
  let mem ← s.packet
  let ret := env s.written.length
  some (ret, { s with written := s.written ++ [⟨mem, wordAt mem 0, ret⟩] })

/-- A session command, built and handed over. -/
def sendCommand (env : QueueEnv) (pktType flags port sessionId payloadType : U32)
    (payload : List (BitVec 8)) : Call := fun s => do
  let s ← irisHfiGen2PacketSessionCommand pktType flags port sessionId payloadType payload s
  irisHfiQueueCmdWrite env s

/-! ### Properties -/

def irisHfiGen2GetPort (domain : Domain) (plane : Plane) : U32 :=
  match domain, plane with
  | .decoder, .output => hfiPortBitstream
  | .decoder, .capture => hfiPortRaw
  | .encoder, .output => hfiPortRaw
  | .encoder, .capture => hfiPortBitstream

/-- `payload` is an array of words at every caller. -/
def irisHfiGen2SessionSetProperty (env : QueueEnv) (inst : CommandInst)
    (packetType flag port payloadType : U32) (payload : List U32) : Call := fun s => do
  let s ← irisHfiGen2PacketSessionProperty inst packetType flag port payloadType
    (wordPayload payload) s
  irisHfiQueueCmdWrite env s

def irisHfiGen2SetRawResolution (env : QueueEnv) (inst : CommandInst) (plane : Plane) : Call :=
  irisHfiGen2SessionSetProperty env inst hfiPropRawResolution hfiHostFlagsNone
    (irisHfiGen2GetPort inst.domain plane) hfiPayload32Packed
    [inst.src.width <<< 16 ||| inst.src.height]

def irisHfiGen2SetBitstreamResolution (env : QueueEnv) (inst : CommandInst) (plane : Plane) :
    Call := fun s =>
  let port := irisHfiGen2GetPort inst.domain plane
  match inst.domain with
  | .decoder =>
      let resolution := inst.src.width <<< 16 ||| inst.src.height
      irisHfiGen2SessionSetProperty env inst hfiPropBitstreamResolution hfiHostFlagsNone port
        hfiPayloadU32 [resolution]
        { s with srcSubcrParams := { s.srcSubcrParams with bitstreamResolution := resolution } }
  | .encoder =>
      let codecAlign : U32 := if inst.codec = .hevc then 32 else 16
      let resolution :=
        align inst.dst.width codecAlign <<< 16 ||| align inst.dst.height codecAlign
      irisHfiGen2SessionSetProperty env inst hfiPropBitstreamResolution hfiHostFlagsNone port
        hfiPayload32Packed [resolution]
        { s with dstSubcrParams := { s.dstSubcrParams with bitstreamResolution := resolution } }

/-- Left, top, right and bottom; the CAPTURE plane of a decoder has a rectangle of its own. -/
def cropOffsets (inst : CommandInst) (plane : Plane) : U32 × U32 × U32 × U32 :=
  match inst.domain, plane with
  | .decoder, .capture =>
      (inst.compose.left, inst.compose.top, inst.dst.width - inst.compose.width,
        inst.dst.height - inst.compose.height)
  | _, _ =>
      (inst.crop.left, inst.crop.top, inst.src.width - inst.crop.width,
        inst.src.height - inst.crop.height)

/-- `FIELD_PREP(GENMASK(31, 16), high) | low` -/
def fieldPrep (high low : U32) : U32 := ((high <<< 16) &&& 0xffff0000) ||| low

def irisHfiGen2SetCropOffsets (env : QueueEnv) (inst : CommandInst) (plane : Plane) : Call :=
  fun s =>
    let (leftOffset, topOffset, rightOffset, bottomOffset) := cropOffsets inst plane
    let payload0 := fieldPrep leftOffset topOffset
    let payload1 := fieldPrep rightOffset bottomOffset
    irisHfiGen2SessionSetProperty env inst hfiPropCropOffsets hfiHostFlagsNone
      (irisHfiGen2GetPort inst.domain plane) hfiPayload64Packed [payload0, payload1]
      { s with
        srcSubcrParams :=
          { s.srcSubcrParams with cropOffsets0 := payload0, cropOffsets1 := payload1 } }

/-- A property whose value is one word that is also kept in `src_subcr_params`. -/
def setSrcParam (env : QueueEnv) (inst : CommandInst) (property port payloadType value : U32)
    (keep : SubscriptionParams → SubscriptionParams) : Call := fun s =>
  irisHfiGen2SessionSetProperty env inst property hfiHostFlagsNone port payloadType [value]
    { s with srcSubcrParams := keep s.srcSubcrParams }

def irisHfiGen2SetBitDepth (env : QueueEnv) (inst : CommandInst) (plane : Plane) : Call :=
  setSrcParam env inst hfiPropLumaChromaBitDepth (irisHfiGen2GetPort inst.domain plane)
    hfiPayloadU32 bitDepth8 fun params => { params with bitDepth := bitDepth8 }

def irisHfiGen2SetCodedFrames (env : QueueEnv) (inst : CommandInst) (plane : Plane) : Call :=
  let codedFrames : U32 :=
    if inst.fwCaps .codedFrames = codedFramesProgressive then hfiBitmaskFrameMbsOnlyFlag else 0
  setSrcParam env inst hfiPropCodedFrames (irisHfiGen2GetPort inst.domain plane)
    hfiPayloadU32 codedFrames fun params => { params with codedFrames }

def irisHfiGen2SetMinOutputCount (env : QueueEnv) (inst : CommandInst) (plane : Plane) : Call :=
  setSrcParam env inst hfiPropBufferFwMinOutputCount (irisHfiGen2GetPort inst.domain plane)
    hfiPayloadU32 inst.outputMinCount
    fun params => { params with fwMinCount := inst.outputMinCount }

def irisHfiGen2SetPictureOrderCount (env : QueueEnv) (inst : CommandInst) (plane : Plane) : Call :=
  setSrcParam env inst hfiPropPicOrderCntType (irisHfiGen2GetPort inst.domain plane)
    hfiPayloadU32 0 fun params => { params with picOrderCnt := 0 }

/-- The colour word of `iris_hfi_gen2_set_colorspace`: 3 is `HFI_MATRIX_COEFF_RESERVED`, 5 the
unspecified colour format, and `V4L2_QUANTIZATION_FULL_RANGE` is 1. -/
def colorInfoOf (color : Colorimetry) : U32 :=
  let described : Bool :=
    color.colorspace ≠ 0 ∨ color.ycbcrEnc ≠ 0 ∨ color.xferFunc ≠ 0
  let ranged : Bool := color.quantization ≠ 0
  irisHfiGen2GetColorInfo
    (if described then irisHfiGen2GetMatrixCoefficients color.ycbcrEnc else 3)
    (if described then irisHfiGen2GetTransferChar color.xferFunc else 0)
    (if described then irisHfiGen2GetColorPrimaries color.colorspace else 0)
    (if described then 1 else 0)
    (if ranged then (if color.quantization = 1 then 1 else 0) else 0)
    5
    (if described ∨ ranged then 1 else 0)

def irisHfiGen2SetColorspace (env : QueueEnv) (inst : CommandInst) (plane : Plane) : Call :=
  let colorInfo := colorInfoOf inst.src.color
  setSrcParam env inst hfiPropSignalColorInfo (irisHfiGen2GetPort inst.domain plane)
    hfiPayload32Packed colorInfo fun params => { params with colorInfo }

def irisHfiGen2SetProfile (env : QueueEnv) (inst : CommandInst) (_plane : Plane) : Call :=
  let profile := inst.fwCaps (.profile inst.codec)
  setSrcParam env inst hfiPropProfile (irisHfiGen2GetPort inst.domain .output) hfiPayloadU32Enum
    profile fun params => { params with profile }

def irisHfiGen2SetLevel (env : QueueEnv) (inst : CommandInst) (_plane : Plane) : Call :=
  let level := inst.fwCaps (.level inst.codec)
  setSrcParam env inst hfiPropLevel (irisHfiGen2GetPort inst.domain .output) hfiPayloadU32Enum
    level fun params => { params with level }

def irisHfiGen2SetTier (env : QueueEnv) (inst : CommandInst) (_plane : Plane) : Call :=
  let tier := inst.fwCaps .tier
  setSrcParam env inst hfiPropTier (irisHfiGen2GetPort inst.domain .output) hfiPayloadU32Enum
    tier fun params => { params with tier }

def irisHfiGen2SetColorformat (env : QueueEnv) (inst : CommandInst) (plane : Plane) : Call :=
  let nv12 :=
    match inst.domain with
    | .decoder => inst.dstNv12
    | .encoder => inst.srcNv12
  irisHfiGen2SessionSetProperty env inst hfiPropColorFormat hfiHostFlagsNone
    (irisHfiGen2GetPort inst.domain plane) hfiPayloadU32Enum [if nv12 then hfiColorFmtNv12 else 0]

/-- Nothing is sent for other formats. -/
def irisHfiGen2SetLinearStrideScanline (env : QueueEnv) (inst : CommandInst) (plane : Plane) :
    Call := fun s =>
  let (nv12, strideY, scanlineY) :=
    match inst.domain with
    | .decoder => (inst.dstNv12, inst.dst.width, inst.dst.height)
    | .encoder => (inst.srcNv12, align inst.src.width 128, align inst.src.height 32)
  let strideUv := strideY
  let scanlineUv := scanlineY / 2
  if !nv12 then some (0, s)
  else
    irisHfiGen2SessionSetProperty env inst hfiPropLinearStrideScanline hfiHostFlagsNone
      (irisHfiGen2GetPort inst.domain plane) hfiPayload64Packed
      [strideY <<< 16 ||| scanlineY, strideUv <<< 16 ||| scanlineUv] s

def irisHfiGen2SetFrameRate (env : QueueEnv) (inst : CommandInst) (_plane : Plane) : Call :=
  irisHfiGen2SessionSetProperty env inst hfiPropFrameRate hfiHostFlagsNone
    (irisHfiGen2GetPort inst.domain .capture) hfiPayloadQ16 [inst.frameRate <<< 16]

/-- `prop_type_handle_arr` -/
def propTypeHandles (env : QueueEnv) : List (U32 × (CommandInst → Plane → Call)) :=
  [(hfiPropRawResolution, irisHfiGen2SetRawResolution env),
    (hfiPropBitstreamResolution, irisHfiGen2SetBitstreamResolution env),
    (hfiPropCropOffsets, irisHfiGen2SetCropOffsets env),
    (hfiPropCodedFrames, irisHfiGen2SetCodedFrames env),
    (hfiPropLumaChromaBitDepth, irisHfiGen2SetBitDepth env),
    (hfiPropBufferFwMinOutputCount, irisHfiGen2SetMinOutputCount env),
    (hfiPropPicOrderCntType, irisHfiGen2SetPictureOrderCount env),
    (hfiPropSignalColorInfo, irisHfiGen2SetColorspace env),
    (hfiPropProfile, irisHfiGen2SetProfile env),
    (hfiPropLevel, irisHfiGen2SetLevel env),
    (hfiPropColorFormat, irisHfiGen2SetColorformat env),
    (hfiPropLinearStrideScanline, irisHfiGen2SetLinearStrideScanline env),
    (hfiPropTier, irisHfiGen2SetTier env),
    (hfiPropFrameRate, irisHfiGen2SetFrameRate env)]

def ParamTables.decInput (tables : ParamTables) : Codec → List U32
  | .h264 => tables.decInputDefault
  | .hevc => tables.decInputHevc
  | .vp9 => tables.decInputVp9

def ParamTables.configParams (tables : ParamTables) (inst : CommandInst) (plane : Plane) :
    List U32 :=
  match inst.domain, plane with
  | .decoder, .output => tables.decInput inst.codec
  | .decoder, .capture => tables.decOutput
  | .encoder, .output => tables.encInput
  | .encoder, .capture => tables.encOutput

/-- The loop over the table; a property without a handler is skipped. -/
def setConfigParams (env : QueueEnv) (inst : CommandInst) (plane : Plane) : List U32 → Call
  | [] => fun s => some (0, s)
  | param :: rest =>
      match (propTypeHandles env).find? fun entry => entry.1 == param with
      | none => setConfigParams env inst plane rest
      | some entry => (entry.2 inst plane).thenCall (setConfigParams env inst plane rest)

def irisHfiGen2SessionSetConfigParams (env : QueueEnv) (tables : ParamTables) (inst : CommandInst)
    (plane : Plane) : Call := fun s =>
  let configParams := tables.configParams inst plane
  if configParams = [] then some (-einval, s)
  else setConfigParams env inst plane configParams s

/-! ### Opening and closing -/

def codecWord : Domain → Codec → U32
  | .encoder, .h264 => 2
  | .decoder, .h264 => 1
  | .encoder, .hevc => 4
  | .decoder, .hevc => 3
  | _, .vp9 => 5

def irisHfiGen2SessionSetCodec (env : QueueEnv) (inst : CommandInst) : Call :=
  irisHfiGen2SessionSetProperty env inst hfiPropCodec hfiHostFlagsNone hfiPortNone
    hfiPayloadU32Enum [codecWord inst.domain inst.codec]

def irisHfiGen2SessionSetDefaultHeader (env : QueueEnv) (inst : CommandInst) : Call :=
  irisHfiGen2SessionSetProperty env inst hfiPropDecDefaultHeader hfiHostFlagsNone hfiPortBitstream
    hfiPayloadU32 [0]

/-- `allocated` is the result of `kzalloc`; a failed command frees the buffer again. -/
def irisHfiGen2SessionOpen (env : QueueEnv) (allocated : Bool) (inst : CommandInst) : Call :=
  fun s =>
    if inst.state ≠ .deinit then some (-ealready, s)
    else
      let s := { s with ipscPropertiesSet := false, opscPropertiesSet := false }
      if !allocated then some (-enomem, { s with packet := none })
      else
        let open_ : Call := sendCommand env hfiCmdOpen
          (hfiHostFlagsResponseRequired ||| hfiHostFlagsIntrRequired) hfiPortNone 0 hfiPayloadU32
          (wordPayload [inst.sessionId])
        let header : Call := fun s =>
          if inst.domain = .decoder then irisHfiGen2SessionSetDefaultHeader env inst s
          else some (0, s)
        let commands := open_.thenCall ((irisHfiGen2SessionSetCodec env inst).thenCall header)
        (commands { s with packet := some fun _ => 0 }).map fun (ret, s) =>
          if ret ≠ 0 then (ret, { s with packet := none }) else (0, s)

def irisHfiGen2SessionClose (env : QueueEnv) (inst : CommandInst) : Call := fun s =>
  if s.packet.isNone then some (-einval, s)
  else
    (sendCommand env hfiCmdClose
      (hfiHostFlagsResponseRequired ||| hfiHostFlagsIntrRequired ||| hfiHostFlagsNonDiscardable)
      hfiPortNone inst.sessionId hfiPayloadNone [] s).map fun (ret, s) =>
        (ret, { s with packet := none })

/-! ### Subscriptions -/

def irisHfiGen2SessionSubscribeMode (env : QueueEnv) (inst : CommandInst) (cmd : U32)
    (plane : Plane) (payload : List U32) : Call :=
  sendCommand env cmd (hfiHostFlagsResponseRequired ||| hfiHostFlagsIntrRequired)
    (irisHfiGen2GetPort inst.domain plane) inst.sessionId hfiPayloadU32Array (wordPayload payload)

/-- The `switch` of `iris_hfi_gen2_subscribe_change_param`: payload type and payload; a property
that is not listed is passed over. -/
def subscribedValue (params : SubscriptionParams) (propType : U32) : Option (U32 × List U32) :=
  if propType = hfiPropBitstreamResolution then some (hfiPayloadU32, [params.bitstreamResolution])
  else if propType = hfiPropCropOffsets then
    some (hfiPayload64Packed, [params.cropOffsets0, params.cropOffsets1])
  else if propType = hfiPropCodedFrames then some (hfiPayloadU32, [params.codedFrames])
  else if propType = hfiPropLumaChromaBitDepth then some (hfiPayloadU32, [params.bitDepth])
  else if propType = hfiPropBufferFwMinOutputCount then some (hfiPayloadU32, [params.fwMinCount])
  else if propType = hfiPropPicOrderCntType then some (hfiPayloadU32, [params.picOrderCnt])
  else if propType = hfiPropSignalColorInfo then some (hfiPayloadU32, [params.colorInfo])
  else if propType = hfiPropProfile then some (hfiPayloadU32, [params.profile])
  else if propType = hfiPropLevel then some (hfiPayloadU32, [params.level])
  else if propType = hfiPropTier then some (hfiPayloadU32, [params.tier])
  else none

/-- The loop that sends the parameters on the raw port. -/
def sendSubscribed (env : QueueEnv) (inst : CommandInst) (params : SubscriptionParams) :
    List U32 → Call
  | [] => fun s => some (0, s)
  | param :: rest =>
      match subscribedValue params param with
      | none => sendSubscribed env inst params rest
      | some (payloadType, payload) =>
          (irisHfiGen2SessionSetProperty env inst param hfiHostFlagsNone
            (irisHfiGen2GetPort inst.domain .capture) payloadType payload).thenCall
              (sendSubscribed env inst params rest)

def Session.propertiesSet (s : Session) : Plane → Bool
  | .output => s.ipscPropertiesSet
  | .capture => s.opscPropertiesSet

/-- The array is filled behind its first word, which names the mode. -/
def subscription (mode : U32) (properties : List U32) : Option (List U32) :=
  if 32 < properties.length + 1 then none else some (mode :: properties)

def irisHfiGen2SubscribeChangeParam (env : QueueEnv) (tables : ParamTables) (inst : CommandInst)
    (plane : Plane) : Call := fun s =>
  if inst.domain = .encoder then some (0, s)
  else if s.propertiesSet plane then some (0, s)
  else do
    let changeParam := tables.decInput inst.codec
    let payload ← subscription hfiModePortSettingsChange changeParam
    (irisHfiGen2SessionSubscribeMode env inst hfiCmdSubscribeMode plane payload).thenCall
      (match plane with
        | .output => fun s => some (0, { s with ipscPropertiesSet := true })
        | .capture => fun s =>
            (sendSubscribed env inst s.srcSubcrParams changeParam).thenCall
              (fun s => some (0, { s with opscPropertiesSet := true }))
              { s with dstSubcrParams := s.srcSubcrParams })
      s

def ParamTables.subscribeProp (tables : ParamTables) (codec : Codec) : Plane → List U32
  | .output => tables.decInputProp
  | .capture =>
      match codec with
      | .h264 => tables.decOutputPropAvc
      | .hevc => tables.decOutputPropHevc
      | .vp9 => tables.decOutputPropVp9

def irisHfiGen2SubscribeProperty (env : QueueEnv) (tables : ParamTables) (inst : CommandInst)
    (plane : Plane) : Call := fun s =>
  if inst.domain = .encoder then some (0, s)
  else do
    let payload ← subscription hfiModeProperty (tables.subscribeProp inst.codec plane)
    irisHfiGen2SessionSubscribeMode env inst hfiCmdSubscribeMode plane payload s

/-! ### Running -/

def irisHfiGen2SessionStart (env : QueueEnv) (tables : ParamTables) (inst : CommandInst)
    (plane : Plane) : Call :=
  (irisHfiGen2SubscribeChangeParam env tables inst plane).thenCall
    ((irisHfiGen2SubscribeProperty env tables inst plane).thenCall
      (sendCommand env hfiCmdStart (hfiHostFlagsResponseRequired ||| hfiHostFlagsIntrRequired)
        (irisHfiGen2GetPort inst.domain plane) inst.sessionId hfiPayloadNone []))

/-- `waitRet` is the result of `iris_wait_for_session_response`. -/
def irisHfiGen2SessionStop (env : QueueEnv) (waitRet : Int) (inst : CommandInst) (plane : Plane) :
    Call :=
  (sendCommand env hfiCmdStop
    (hfiHostFlagsResponseRequired ||| hfiHostFlagsIntrRequired ||| hfiHostFlagsNonDiscardable)
    (irisHfiGen2GetPort inst.domain plane) inst.sessionId hfiPayloadNone []).thenCall
      fun s => some (waitRet, s)

def irisHfiGen2SessionPause (env : QueueEnv) (inst : CommandInst) (plane : Plane) : Call :=
  sendCommand env hfiCmdPause (hfiHostFlagsResponseRequired ||| hfiHostFlagsIntrRequired)
    (irisHfiGen2GetPort inst.domain plane) inst.sessionId hfiPayloadNone []

/-- The two resumes, which name what they resume after. -/
def sessionResume (env : QueueEnv) (payload : U32) (inst : CommandInst) (plane : Plane) : Call :=
  sendCommand env hfiCmdResume (hfiHostFlagsResponseRequired ||| hfiHostFlagsIntrRequired)
    (irisHfiGen2GetPort inst.domain plane) inst.sessionId hfiPayloadU32 (wordPayload [payload])

def irisHfiGen2SessionResumeDrc (env : QueueEnv) (inst : CommandInst) (plane : Plane) : Call :=
  sessionResume env hfiCmdSettingsChange inst plane

def irisHfiGen2SessionResumeDrain (env : QueueEnv) (inst : CommandInst) (plane : Plane) : Call :=
  sessionResume env hfiCmdDrain inst plane

def irisHfiGen2SessionDrain (env : QueueEnv) (inst : CommandInst) (plane : Plane) : Call := fun s =>
  match plane with
  | .capture => some (0, s)
  | .output =>
      sendCommand env hfiCmdDrain
        (hfiHostFlagsResponseRequired ||| hfiHostFlagsIntrRequired ||| hfiHostFlagsNonDiscardable)
        (irisHfiGen2GetPort inst.domain plane) inst.sessionId hfiPayloadNone [] s

def irisSetNumComv (env : QueueEnv) (tables : ParamTables) (inst : CommandInst) : Call :=
  irisHfiGen2SessionSetProperty env inst hfiPropComvBufferCount hfiHostFlagsNone hfiPortBitstream
    hfiPayloadU32 [tables.numComv]

/-- The words of `struct iris_hfi_buffer`, with the five reserved ones. -/
def HfiBufferPayload.words (buffer : HfiBufferPayload) : List U32 :=
  [buffer.type, buffer.index, buffer.baseAddress.setWidth 32,
    (buffer.baseAddress >>> 32).setWidth 32, buffer.addrOffset, buffer.bufferSize,
    buffer.dataOffset, buffer.dataSize, buffer.timestamp.setWidth 32,
    (buffer.timestamp >>> 32).setWidth 32, buffer.flags, 0, 0, 0, 0, 0]

def sessionBuffer (env : QueueEnv) (flags : U32) (inst : CommandInst) (type : BufType)
    (hfiBuffer : HfiBufferPayload) : Call :=
  sendCommand env hfiCmdBuffer flags (irisHfiGen2GetPortFromBufType inst.domain type)
    inst.sessionId hfiPayloadStructure (wordPayload (HfiBufferPayload.words hfiBuffer))

def irisHfiGen2SessionQueueBuffer (env : QueueEnv) (tables : ParamTables) (inst : CommandInst)
    (buffer : InternalBuffer) : Call :=
  let comv : Call := fun s =>
    if buffer.type = .comv then irisSetNumComv env tables inst s else some (0, s)
  comv.thenCall (sessionBuffer env hfiHostFlagsIntrRequired inst buffer.type
    (irisHfiGen2GetBuffer inst.domain buffer))

def irisHfiGen2SessionReleaseBuffer (env : QueueEnv) (inst : CommandInst)
    (buffer : InternalBuffer) : Call :=
  let hfiBuffer := irisHfiGen2GetBuffer inst.domain buffer
  sessionBuffer env (hfiHostFlagsResponseRequired ||| hfiHostFlagsIntrRequired) inst buffer.type
    { hfiBuffer with flags := hfiBuffer.flags ||| hfiBufHostFlagRelease }

/-! ### Commands of the core -/

/-- What `iris_hfi_gen2_packet_sys_init` reads of `struct ubwc_config_data`. -/
structure UbwcConfig where
  maxChannels : U32
  malLength : U32
  highestBankBit : U32
  bankSwzlLevel : U32
  bankSwz2Level : U32
  bankSwz3Level : U32
  bankSpreading : U32
deriving DecidableEq, Repr

def numSysInitPackets : Nat := 8

def sysInitPktSize : Nat := hfiHeaderSize + numSysInitPackets * (hfiPacketSize + 4)

def sysIfpcPktSize : Nat := hfiHeaderSize + hfiPacketSize + 4

def sysNoPayloadPktSize : Nat := hfiHeaderSize + hfiPacketSize

/-- A packet of the core: `packet_id` counts on from packet to packet. -/
def corePacket (type flags payloadInfo packetId : U32) (payload : List U32) :
    Gen2Message.Gen2Packet :=
  { type, flags, payloadInfo, port := hfiPortNone, packetId, payload := wordPayload payload }

def irisHfiGen2PacketSysInit (config : UbwcConfig) (headerId packetId : U32) (hdr : Memory) :
    Memory :=
  let property (type : U32) (i value : U32) : Gen2Message.Gen2Packet :=
    corePacket type hfiHostFlagsNone hfiPayloadU32 (packetId + i) [value]
  createPackets
    [corePacket hfiCmdInit
        (hfiHostFlagsResponseRequired ||| hfiHostFlagsIntrRequired ||| hfiHostFlagsNonDiscardable)
        hfiPayloadU32 packetId [hfiVideoArchLx],
      property hfiPropUbwcMaxChannels 1 config.maxChannels,
      property hfiPropUbwcMalLength 2 config.malLength,
      property hfiPropUbwcHbb 3 config.highestBankBit,
      property hfiPropUbwcBankSwzlLevel1 4 config.bankSwzlLevel,
      property hfiPropUbwcBankSwzlLevel2 5 config.bankSwz2Level,
      property hfiPropUbwcBankSwzlLevel3 6 config.bankSwz3Level,
      property hfiPropUbwcBankSpreading 7 config.bankSpreading]
    (irisHfiGen2CreateHeader 0 headerId hdr)

def irisHfiGen2PacketImageVersion (headerId packetId : U32) (hdr : Memory) : Memory :=
  createPackets
    [corePacket hfiPropImageVersion
      (hfiHostFlagsResponseRequired ||| hfiHostFlagsIntrRequired ||| hfiHostFlagsGetProperty)
      hfiPayloadNone packetId []]
    (irisHfiGen2CreateHeader 0 headerId hdr)

def irisHfiGen2PacketSysInterframePowercollapse (headerId packetId : U32) (hdr : Memory) :
    Memory :=
  createPackets
    [corePacket hfiPropIntraFramePowerCollapse hfiHostFlagsNone hfiPayloadU32 packetId [1]]
    (irisHfiGen2CreateHeader 0 headerId hdr)

def irisHfiGen2PacketSysPcPrep (headerId packetId : U32) (hdr : Memory) : Memory :=
  createPackets [corePacket hfiCmdPowerCollapse hfiHostFlagsNone hfiPayloadNone packetId []]
    (irisHfiGen2CreateHeader 0 headerId hdr)

/-- `iris_hfi_gen2_sys_init` and the other commands of the core. -/
inductive CoreCommand
  | sysInit (config : UbwcConfig)
  | imageVersion
  | interframePowercollapse
  | pcPrep
deriving DecidableEq, Repr

namespace CoreCommand

/-- What is allocated for the message. -/
def allocated : CoreCommand → Nat
  | .sysInit _ => sysInitPktSize
  | .imageVersion => sysNoPayloadPktSize
  | .interframePowercollapse => sysIfpcPktSize
  | .pcPrep => sysNoPayloadPktSize

/-- The message that is handed to the queue, in memory that starts zeroed. -/
def message (headerId packetId : U32) : CoreCommand → Memory
  | .sysInit config => irisHfiGen2PacketSysInit config headerId packetId fun _ => 0
  | .imageVersion => irisHfiGen2PacketImageVersion headerId packetId fun _ => 0
  | .interframePowercollapse =>
      irisHfiGen2PacketSysInterframePowercollapse headerId packetId fun _ => 0
  | .pcPrep => irisHfiGen2PacketSysPcPrep headerId packetId fun _ => 0

end CoreCommand

/-! ### The command operations -/

/-- `iris_hfi_gen2_command_ops` for a session, and what the response handler leaves for them. -/
inductive SessionOp
  | open (allocated : Bool)
  | setConfigParams (plane : Plane)
  | setProperty (packetType flag port payloadType : U32) (payload : List U32)
  | start (plane : Plane)
  | queueBuf (buffer : InternalBuffer)
  | releaseBuf (buffer : InternalBuffer)
  | pause (plane : Plane)
  | resumeDrc (plane : Plane)
  | stop (waitRet : Int) (plane : Plane)
  | drain (plane : Plane)
  | resumeDrain (plane : Plane)
  | close
  | respond (params : SubscriptionParams)

/-- One operation, on the instance as it then is. -/
def sessionStep (env : QueueEnv) (tables : ParamTables) (s : Session)
    (op : CommandInst × SessionOp) : Option (Int × Session) :=
  match op.2 with
  | .open allocated => irisHfiGen2SessionOpen env allocated op.1 s
  | .setConfigParams plane => irisHfiGen2SessionSetConfigParams env tables op.1 plane s
  | .setProperty packetType flag port payloadType payload =>
      irisHfiGen2SessionSetProperty env op.1 packetType flag port payloadType payload s
  | .start plane => irisHfiGen2SessionStart env tables op.1 plane s
  | .queueBuf buffer => irisHfiGen2SessionQueueBuffer env tables op.1 buffer s
  | .releaseBuf buffer => irisHfiGen2SessionReleaseBuffer env op.1 buffer s
  | .pause plane => irisHfiGen2SessionPause env op.1 plane s
  | .resumeDrc plane => irisHfiGen2SessionResumeDrc env op.1 plane s
  | .stop waitRet plane => irisHfiGen2SessionStop env waitRet op.1 plane s
  | .drain plane => irisHfiGen2SessionDrain env op.1 plane s
  | .resumeDrain plane => irisHfiGen2SessionResumeDrain env op.1 plane s
  | .close => irisHfiGen2SessionClose env op.1 s
  | .respond params => some (0, { s with srcSubcrParams := params })

end NabuIris.Gen2Command
