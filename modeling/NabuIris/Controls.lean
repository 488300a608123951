import NabuIris.Gen1Properties
import NabuIris.Gen2Commands

/-!
# Controls (`iris_ctrls.c`)

A capability is an entry of a table of the platform that the instance copies. Some have a control of
the client; some have a function that tells the firmware. What the control framework checks of a
value before `s_ctrl` sees it is in `Cap.Allows`.
-/

namespace NabuIris.Controls

open Gen2Command Gen2Message

/-! ### Capabilities -/

/-- `enum platform_inst_fw_cap_type`, but for its last -/
inductive CapId
  | profileH264
  | profileHevc
  | profileVp9
  | levelH264
  | levelHevc
  | levelVp9
  | inputBufHostMaxCount
  | outputBufHostMaxCount
  | stage
  | pipe
  | poc
  | codedFrames
  | bitDepth
  | rapFrame
  | tier
  | headerMode
  | prependSpsppsToIdr
  | bitrate
  | bitratePeak
  | bitrateMode
  | frameSkipMode
  | frameRcEnable
  | gopSize
  | entropyMode
  | minFrameQpH264
  | minFrameQpHevc
  | maxFrameQpH264
  | maxFrameQpHevc
  | iFrameMinQpH264
  | iFrameMinQpHevc
  | pFrameMinQpH264
  | pFrameMinQpHevc
  | bFrameMinQpH264
  | bFrameMinQpHevc
  | iFrameMaxQpH264
  | iFrameMaxQpHevc
  | pFrameMaxQpH264
  | pFrameMaxQpHevc
  | bFrameMaxQpH264
  | bFrameMaxQpHevc
  | iFrameQpH264
  | iFrameQpHevc
  | pFrameQpH264
  | pFrameQpHevc
  | bFrameQpH264
  | bFrameQpHevc
deriving DecidableEq, Repr

/-- The loops over the array meet the capabilities in this order. -/
def CapId.all : List CapId :=
  [
    .profileH264, .profileHevc, .profileVp9, .levelH264, .levelHevc, .levelVp9,
    .inputBufHostMaxCount, .outputBufHostMaxCount, .stage, .pipe, .poc, .codedFrames,
    .bitDepth, .rapFrame, .tier, .headerMode, .prependSpsppsToIdr, .bitrate, .bitratePeak,
    .bitrateMode, .frameSkipMode, .frameRcEnable, .gopSize, .entropyMode, .minFrameQpH264,
    .minFrameQpHevc, .maxFrameQpH264, .maxFrameQpHevc, .iFrameMinQpH264, .iFrameMinQpHevc,
    .pFrameMinQpH264, .pFrameMinQpHevc, .bFrameMinQpH264, .bFrameMinQpHevc, .iFrameMaxQpH264,
    .iFrameMaxQpHevc, .pFrameMaxQpH264, .pFrameMaxQpHevc, .bFrameMaxQpH264, .bFrameMaxQpHevc,
    .iFrameQpH264, .iFrameQpHevc, .pFrameQpH264, .pFrameQpHevc, .bFrameQpH264, .bFrameQpHevc]

/-- The controls that stand for a capability: `V4L2_CID_MPEG_VIDEO_*`. -/
inductive CodecCtrl
  | h264Profile
  | hevcProfile
  | vp9Profile
  | h264Level
  | hevcLevel
  | vp9Level
  | hevcTier
  | headerMode
  | prependSpsppsToIdr
  | bitrate
  | bitratePeak
  | bitrateMode
  | frameSkipMode
  | frameRcEnable
  | gopSize
  | h264EntropyMode
  | h264MinQp
  | hevcMinQp
  | h264MaxQp
  | hevcMaxQp
  | h264IFrameMinQp
  | hevcIFrameMinQp
  | h264PFrameMinQp
  | hevcPFrameMinQp
  | h264BFrameMinQp
  | hevcBFrameMinQp
  | h264IFrameMaxQp
  | hevcIFrameMaxQp
  | h264PFrameMaxQp
  | hevcPFrameMaxQp
  | h264BFrameMaxQp
  | hevcBFrameMaxQp
  | h264IFrameQp
  | hevcIFrameQp
  | h264PFrameQp
  | hevcPFrameQp
  | h264BFrameQp
  | hevcBFrameQp
deriving DecidableEq, Repr

inductive CtrlId
  | codec (ctrl : CodecCtrl)
  | decDisplayDelay
  | decDisplayDelayEnable
  | minBuffersForCapture
  | minBuffersForOutput
  | other (id : U32)
deriving DecidableEq, Repr

def irisGetCapId : CtrlId → Option CapId
  | .codec .h264Profile => some .profileH264
  | .codec .hevcProfile => some .profileHevc
  | .codec .vp9Profile => some .profileVp9
  | .codec .h264Level => some .levelH264
  | .codec .hevcLevel => some .levelHevc
  | .codec .vp9Level => some .levelVp9
  | .codec .hevcTier => some .tier
  | .codec .headerMode => some .headerMode
  | .codec .prependSpsppsToIdr => some .prependSpsppsToIdr
  | .codec .bitrate => some .bitrate
  | .codec .bitratePeak => some .bitratePeak
  | .codec .bitrateMode => some .bitrateMode
  | .codec .frameSkipMode => some .frameSkipMode
  | .codec .frameRcEnable => some .frameRcEnable
  | .codec .gopSize => some .gopSize
  | .codec .h264EntropyMode => some .entropyMode
  | .codec .h264MinQp => some .minFrameQpH264
  | .codec .hevcMinQp => some .minFrameQpHevc
  | .codec .h264MaxQp => some .maxFrameQpH264
  | .codec .hevcMaxQp => some .maxFrameQpHevc
  | .codec .h264IFrameMinQp => some .iFrameMinQpH264
  | .codec .hevcIFrameMinQp => some .iFrameMinQpHevc
  | .codec .h264PFrameMinQp => some .pFrameMinQpH264
  | .codec .hevcPFrameMinQp => some .pFrameMinQpHevc
  | .codec .h264BFrameMinQp => some .bFrameMinQpH264
  | .codec .hevcBFrameMinQp => some .bFrameMinQpHevc
  | .codec .h264IFrameMaxQp => some .iFrameMaxQpH264
  | .codec .hevcIFrameMaxQp => some .iFrameMaxQpHevc
  | .codec .h264PFrameMaxQp => some .pFrameMaxQpH264
  | .codec .hevcPFrameMaxQp => some .pFrameMaxQpHevc
  | .codec .h264BFrameMaxQp => some .bFrameMaxQpH264
  | .codec .hevcBFrameMaxQp => some .bFrameMaxQpHevc
  | .codec .h264IFrameQp => some .iFrameQpH264
  | .codec .hevcIFrameQp => some .iFrameQpHevc
  | .codec .h264PFrameQp => some .pFrameQpH264
  | .codec .hevcPFrameQp => some .pFrameQpHevc
  | .codec .h264BFrameQp => some .bFrameQpH264
  | .codec .hevcBFrameQp => some .bFrameQpHevc
  | _ => none

def irisGetV4l2Id : CapId → Option CtrlId
  | .profileH264 => some (.codec .h264Profile)
  | .profileHevc => some (.codec .hevcProfile)
  | .profileVp9 => some (.codec .vp9Profile)
  | .levelH264 => some (.codec .h264Level)
  | .levelHevc => some (.codec .hevcLevel)
  | .levelVp9 => some (.codec .vp9Level)
  | .tier => some (.codec .hevcTier)
  | .headerMode => some (.codec .headerMode)
  | .prependSpsppsToIdr => some (.codec .prependSpsppsToIdr)
  | .bitrate => some (.codec .bitrate)
  | .bitratePeak => some (.codec .bitratePeak)
  | .bitrateMode => some (.codec .bitrateMode)
  | .frameSkipMode => some (.codec .frameSkipMode)
  | .frameRcEnable => some (.codec .frameRcEnable)
  | .gopSize => some (.codec .gopSize)
  | .entropyMode => some (.codec .h264EntropyMode)
  | .minFrameQpH264 => some (.codec .h264MinQp)
  | .minFrameQpHevc => some (.codec .hevcMinQp)
  | .maxFrameQpH264 => some (.codec .h264MaxQp)
  | .maxFrameQpHevc => some (.codec .hevcMaxQp)
  | .iFrameMinQpH264 => some (.codec .h264IFrameMinQp)
  | .iFrameMinQpHevc => some (.codec .hevcIFrameMinQp)
  | .pFrameMinQpH264 => some (.codec .h264PFrameMinQp)
  | .pFrameMinQpHevc => some (.codec .hevcPFrameMinQp)
  | .bFrameMinQpH264 => some (.codec .h264BFrameMinQp)
  | .bFrameMinQpHevc => some (.codec .hevcBFrameMinQp)
  | .iFrameMaxQpH264 => some (.codec .h264IFrameMaxQp)
  | .iFrameMaxQpHevc => some (.codec .hevcIFrameMaxQp)
  | .pFrameMaxQpH264 => some (.codec .h264PFrameMaxQp)
  | .pFrameMaxQpHevc => some (.codec .hevcPFrameMaxQp)
  | .bFrameMaxQpH264 => some (.codec .h264BFrameMaxQp)
  | .bFrameMaxQpHevc => some (.codec .hevcBFrameMaxQp)
  | .iFrameQpH264 => some (.codec .h264IFrameQp)
  | .iFrameQpHevc => some (.codec .hevcIFrameQp)
  | .pFrameQpH264 => some (.codec .h264PFrameQp)
  | .pFrameQpHevc => some (.codec .hevcPFrameQp)
  | .bFrameQpH264 => some (.codec .h264BFrameQp)
  | .bFrameQpHevc => some (.codec .hevcBFrameQp)
  | _ => none

/-- The functions of `cap->set` -/
inductive Setter
  | u32Enum
  | u32
  | stage
  | pipe
  | profile
  | level
  | headerModeGen2
  | bitrate
  | peakBitrate
  | bitrateModeGen2
  | entropyModeGen2
  | minQp
  | maxQp
  | frameQp
deriving DecidableEq, Repr

/-- `enum platform_inst_fw_cap_flags`, as far as it is used -/
structure CapFlags where
  dynamicAllowed : Bool := false
  menu : Bool := false
  inputPort : Bool := false
  outputPort : Bool := false
  clientSet : Bool := false
deriving DecidableEq, Repr

/-- `struct platform_inst_fw_cap`; an entry that is not filled has no `capId`. -/
structure Cap where
  capId : Option CapId := none
  min : Int := 0
  max : Int := 0
  stepOrMask : U64 := 0
  value : Int := 0
  hfiId : U32 := 0
  flags : CapFlags := {}
  set : Option Setter := none
deriving DecidableEq, Repr

/-- What `v4l2_ctrl` checks of a new value, for a control with the bounds of the capability: the
range, and for a menu that the item is not masked. -/
def Cap.Allows (cap : Cap) (value : Int) : Prop :=
  cap.min ≤ value ∧ value ≤ cap.max ∧ (cap.flags.menu → cap.stepOrMask.getLsbD value.toNat)

instance (cap : Cap) (value : Int) : Decidable (cap.Allows value) :=
  inferInstanceAs (Decidable (_ ∧ _ ∧ _))

/-! ### Tables -/

def hfiPropStage : U32 := 0x0300010a
def hfiPropPipe : U32 := 0x0300010b
def hfiPropBufferHostMaxCount : U32 := 0x03000123
def hfiPropRateControl : U32 := 0x0300012a
def hfiPropQpPacked : U32 := 0x0300012e
def hfiPropMinQpPacked : U32 := 0x0300012f
def hfiPropMaxQpPacked : U32 := 0x03000130
def hfiPropTotalBitrate : U32 := 0x0300013b
def hfiPropMaxGopFrames : U32 := 0x03000146
def hfiPropSeqHeaderMode : U32 := 0x03000149
def hfiPropDecStartFromRapFrame : U32 := 0x03000169
def hfiPropTotalPeakBitrate : U32 := 0x0300017c

/-- `BIT(a) | BIT(b) | ..` -/
def bits (items : List Nat) : U64 := items.foldl (fun mask item => mask ||| 1 <<< item) 0

def menuFlags : CapFlags := { outputPort := true, menu := true }

def dynamicFlags : CapFlags := { outputPort := true, inputPort := true, dynamicAllowed := true }

/-- A quantization parameter, from `MIN_QP_8BIT` to `MAX_QP`. -/
def qpCap (capId : CapId) (value : Int) : Cap :=
  { capId := some capId, min := 1, max := 51, stepOrMask := 1, value }

/-- `inst_fw_cap_sm8550_dec`, with the number of pipes; `inst_fw_cap_qcs8300_dec` has 2 for 4. -/
def instFwCapDec (pipes : Int) : List Cap :=
  [
    { capId := some .profileH264, min := 0, max := 17, stepOrMask := bits [0, 1, 2, 4, 17]
      value := 4, hfiId := hfiPropProfile, flags := menuFlags, set := some .u32Enum },
    { capId := some .profileHevc, min := 0, max := 1, stepOrMask := bits [0, 1]
      value := 0, hfiId := hfiPropProfile, flags := menuFlags, set := some .u32Enum },
    { capId := some .profileVp9, min := 0, max := 2, stepOrMask := bits [0, 2]
      value := 0, hfiId := hfiPropProfile, flags := menuFlags, set := some .u32Enum },
    { capId := some .levelH264, min := 0, max := 19, stepOrMask := bits (List.range 20)
      value := 18, hfiId := hfiPropLevel, flags := menuFlags, set := some .u32Enum },
    { capId := some .levelHevc, min := 0, max := 12, stepOrMask := bits (List.range 13)
      value := 11, hfiId := hfiPropLevel, flags := menuFlags, set := some .u32Enum },
    { capId := some .levelVp9, min := 0, max := 11, stepOrMask := bits (List.range 12)
      value := 11, hfiId := hfiPropLevel, flags := menuFlags, set := some .u32Enum },
    { capId := some .tier, min := 0, max := 1, stepOrMask := bits [0, 1]
      value := 1, hfiId := hfiPropTier, flags := menuFlags, set := some .u32Enum },
    { capId := some .inputBufHostMaxCount, min := 64, max := 256, stepOrMask := 1
      value := 64, hfiId := hfiPropBufferHostMaxCount, flags := { inputPort := true }
      set := some .u32 },
    { capId := some .stage, min := 1, max := 2, stepOrMask := 1
      value := 2, hfiId := hfiPropStage, set := some .stage },
    { capId := some .pipe, min := 1, max := pipes, stepOrMask := 1
      value := pipes, hfiId := hfiPropPipe, set := some .pipe },
    { capId := some .poc, min := 0, max := 2, stepOrMask := 1
      value := 1, hfiId := hfiPropPicOrderCntType },
    { capId := some .codedFrames, min := 0, max := 0, stepOrMask := 0
      value := 0, hfiId := hfiPropCodedFrames },
    { capId := some .bitDepth, min := 524296, max := 524296, stepOrMask := 1
      value := 524296, hfiId := hfiPropLumaChromaBitDepth },
    { capId := some .rapFrame, min := 0, max := 1, stepOrMask := 1
      value := 1, hfiId := hfiPropDecStartFromRapFrame, flags := { inputPort := true }
      set := some .u32 }]

/-- `inst_fw_cap_sm8550_enc` -/
def instFwCapSm8550Enc : List Cap :=
  [
    { capId := some .profileH264, min := 0, max := 17, stepOrMask := bits [0, 1, 2, 4, 17]
      value := 4, hfiId := hfiPropProfile, flags := menuFlags, set := some .profile },
    { capId := some .profileHevc, min := 0, max := 2, stepOrMask := bits [0, 1, 2]
      value := 0, hfiId := hfiPropProfile, flags := menuFlags, set := some .profile },
    { capId := some .levelH264, min := 0, max := 17, stepOrMask := bits (List.range 18)
      value := 14, hfiId := hfiPropLevel, flags := menuFlags, set := some .level },
    { capId := some .levelHevc, min := 0, max := 12, stepOrMask := bits (List.range 13)
      value := 7, hfiId := hfiPropLevel, flags := menuFlags, set := some .level },
    { capId := some .stage, min := 1, max := 2, stepOrMask := 1
      value := 2, hfiId := hfiPropStage, set := some .stage },
    { capId := some .headerMode, min := 0, max := 1, stepOrMask := bits [0, 1]
      value := 1, hfiId := hfiPropSeqHeaderMode, flags := menuFlags, set := some .headerModeGen2 },
    { capId := some .prependSpsppsToIdr, min := 0, max := 1, stepOrMask := 1
      value := 0 },
    { capId := some .bitrate, min := 1, max := 245000000, stepOrMask := 1
      value := 20000000, hfiId := hfiPropTotalBitrate, flags := dynamicFlags
      set := some .bitrate },
    { capId := some .bitratePeak, min := 1, max := 245000000, stepOrMask := 1
      value := 20000000, hfiId := hfiPropTotalPeakBitrate, flags := dynamicFlags
      set := some .peakBitrate },
    { capId := some .bitrateMode, min := 0, max := 1, stepOrMask := bits [0, 1]
      value := 0, hfiId := hfiPropRateControl, flags := menuFlags, set := some .bitrateModeGen2 },
    { capId := some .frameSkipMode, min := 0, max := 2, stepOrMask := bits [0, 1, 2]
      value := 0, flags := menuFlags },
    { capId := some .frameRcEnable, min := 0, max := 1, stepOrMask := 1
      value := 1 },
    { capId := some .gopSize, min := 0, max := 2147483647, stepOrMask := 1
      value := 59, hfiId := hfiPropMaxGopFrames, flags := dynamicFlags, set := some .u32 },
    { capId := some .entropyMode, min := 0, max := 1, stepOrMask := bits [0, 1]
      value := 1, hfiId := hfiPropCabacSession, flags := menuFlags, set := some .entropyModeGen2 },
    { qpCap .minFrameQpH264 1 with
      hfiId := hfiPropMinQpPacked, flags := { outputPort := true }, set := some .minQp },
    { qpCap .minFrameQpHevc 1 with
      hfiId := hfiPropMinQpPacked, flags := { outputPort := true }, set := some .minQp },
    { qpCap .maxFrameQpH264 51 with
      hfiId := hfiPropMaxQpPacked, flags := { outputPort := true }, set := some .maxQp },
    { qpCap .maxFrameQpHevc 51 with
      hfiId := hfiPropMaxQpPacked, flags := { outputPort := true }, set := some .maxQp },
    qpCap .iFrameMinQpH264 1,
    qpCap .iFrameMinQpHevc 1,
    qpCap .pFrameMinQpH264 1,
    qpCap .pFrameMinQpHevc 1,
    qpCap .bFrameMinQpH264 1,
    qpCap .bFrameMinQpHevc 1,
    qpCap .iFrameMaxQpH264 51,
    qpCap .iFrameMaxQpHevc 51,
    qpCap .pFrameMaxQpH264 51,
    qpCap .pFrameMaxQpHevc 51,
    qpCap .bFrameMaxQpH264 51,
    qpCap .bFrameMaxQpHevc 51,
    { qpCap .iFrameQpH264 20 with
      hfiId := hfiPropQpPacked, flags := dynamicFlags, set := some .frameQp },
    { qpCap .iFrameQpHevc 20 with
      hfiId := hfiPropQpPacked, flags := dynamicFlags, set := some .frameQp },
    { qpCap .pFrameQpH264 20 with
      hfiId := hfiPropQpPacked, flags := dynamicFlags, set := some .frameQp },
    { qpCap .pFrameQpHevc 20 with
      hfiId := hfiPropQpPacked, flags := dynamicFlags, set := some .frameQp },
    { qpCap .bFrameQpH264 20 with
      hfiId := hfiPropQpPacked, flags := dynamicFlags, set := some .frameQp },
    { qpCap .bFrameQpHevc 20 with
      hfiId := hfiPropQpPacked, flags := dynamicFlags, set := some .frameQp },
    { capId := some .inputBufHostMaxCount, min := 64, max := 256, stepOrMask := 1
      value := 64, hfiId := hfiPropBufferHostMaxCount, flags := { inputPort := true }
      set := some .u32 },
    { capId := some .outputBufHostMaxCount, min := 64, max := 256, stepOrMask := 1
      value := 64, hfiId := hfiPropBufferHostMaxCount, flags := { outputPort := true }
      set := some .u32 }]

/-- `inst_fw_cap_qcs8300_enc`: without the two last entries, and without any function. -/
def instFwCapQcs8300Enc : List Cap :=
  (instFwCapSm8550Enc.take 36).map fun cap => { cap with set := none }

/-- `HFI_PROPERTY_PARAM_WORK_MODE` -/
def hfiPropertyParamWorkMode : U32 := 0x1015
/-- `HFI_PROPERTY_PARAM_WORK_ROUTE` -/
def hfiPropertyParamWorkRoute : U32 := 0x1017

/-- `inst_fw_cap_sm8250_dec`, with the number of pipes; `inst_fw_cap_sm8150_dec` has 2 for 4. -/
def instFwCapGen1Dec (pipes : Int) : List Cap :=
  [
    { capId := some .pipe, min := 1, max := pipes, stepOrMask := 1
      value := pipes, hfiId := hfiPropertyParamWorkRoute, set := some .pipe },
    { capId := some .stage, min := 1, max := 2, stepOrMask := 1
      value := 2, hfiId := hfiPropertyParamWorkMode, set := some .stage }]

/-- The platforms of the second generation. -/
inductive Platform
  | sm8550
  | qcs8300
deriving DecidableEq, Repr

def Platform.instFwCaps : Platform → Domain → List Cap
  | .sm8550, .decoder => instFwCapDec 4
  | .sm8550, .encoder => instFwCapSm8550Enc
  | .qcs8300, .decoder => instFwCapDec 2
  | .qcs8300, .encoder => instFwCapQcs8300Enc

def storeCap (caps : CapId → Cap) (cap : Cap) : CapId → Cap :=
  match cap.capId with
  | none => caps
  | some id => Function.update caps id cap

/-- The array of the core starts zeroed, and an entry is stored where its `cap_id` says. -/
def irisSessionInitCaps (table : List Cap) : CapId → Cap :=
  table.foldl storeCap fun _ => {}

/-! ### An instance -/

/-- What is handed to `session_set_property`; no flags are given. -/
structure PropertyCall where
  hfiId : U32
  port : U32
  payloadType : U32
  words : List U32
deriving DecidableEq, Repr

def PropertyCall.op (call : PropertyCall) : Gen2Command.SessionOp :=
  .setProperty call.hfiId hfiHostFlagsNone call.port call.payloadType call.words

structure CtrlInst where
  domain : Domain
  codec : Codec
  legacyVpu5 : Bool
  /-- of `fmt_src` -/
  width : U32
  height : U32
  /-- `vb2_is_streaming` of the source queue and of the destination queue -/
  srcStreaming : Bool
  dstStreaming : Bool
  displayDelay : U32
  displayDelayEnable : Bool
  hfiRcType : U32
  fwCaps : CapId → Cap
  calls : List PropertyCall

/-- `iris_vdec_inst_init` and `iris_venc_inst_init`, as far as they fill the capabilities -/
def instInit (platform : Platform) (domain : Domain) : CtrlInst where
  domain
  codec := .h264
  legacyVpu5 := false
  width := 320
  height := 240
  srcStreaming := false
  dstStreaming := false
  displayDelay := 0
  displayDelayEnable := false
  hfiRcType := 0
  fwCaps := irisSessionInitCaps (platform.instFwCaps domain)
  calls := []

/-! ### Creating the controls -/

/-- A control that is handed to the framework: a menu with the items that are masked, or a value
with a step. -/
inductive NewCtrl
  | menu (id : CtrlId) (max : Int) (skipMask : U64) (default : Int)
  | std (id : CtrlId) (sCtrl : Bool) (min max : Int) (step : U64) (default : Int)
deriving DecidableEq, Repr

def Cap.newCtrl (cap : Cap) (id : CtrlId) : NewCtrl :=
  if cap.flags.menu then .menu id cap.max (~~~cap.stepOrMask) cap.value
  else .std id true cap.min cap.max cap.stepOrMask cap.value

/-- The first loop of `iris_ctrls_init`. -/
def numCtrls (fwCaps : CapId → Cap) : Nat :=
  (CapId.all.filter fun idx => ((fwCaps idx).capId.bind irisGetV4l2Id).isSome).length

/-- The second loop: the controls created so far, and whether it runs to its end. `created` is what
the framework makes of each. -/
def newCtrls (created : NewCtrl → Bool) (fwCaps : CapId → Cap) (numCtrls : Nat) :
    List CapId → List NewCtrl → List NewCtrl × Bool
  | [], ctrls => (ctrls, true)
  | idx :: rest, ctrls =>
      match (fwCaps idx).capId.bind irisGetV4l2Id with
      | none => newCtrls created fwCaps numCtrls rest ctrls
      | some id =>
          if numCtrls ≤ ctrls.length then (ctrls, false)
          else
            let ctrl := (fwCaps idx).newCtrl id
            if !created ctrl then (ctrls, false)
            else newCtrls created fwCaps numCtrls rest (ctrls ++ [ctrl])

def handlerCtrls (inst : CtrlInst) : Nat :=
  numCtrls inst.fwCaps + 1 + if inst.domain = .decoder ∧ inst.legacyVpu5 then 2 else 0

/-- The controls that no capability stands behind. -/
def lastCtrls (inst : CtrlInst) : List NewCtrl :=
  match inst.domain with
  | .decoder =>
      .std .minBuffersForCapture false 1 32 1 4 ::
        if inst.legacyVpu5 then
          [.std .decDisplayDelay true 0 16383 1 0, .std .decDisplayDelayEnable true 0 1 1 0]
        else []
  | .encoder => [.std .minBuffersForOutput false 1 32 1 4]

/-- The result and the controls of the handler, which has none left after an error. `handlerInit` is
the result of `v4l2_ctrl_handler_init`; the framework keeps the first error of a control that is not
created in `ctrl_handler.error`. -/
def irisCtrlsInit (handlerInit : Int) (created : NewCtrl → Bool) (error : Int) (inst : CtrlInst) :
    Int × List NewCtrl :=
  if handlerInit ≠ 0 then (handlerInit, [])
  else
    match newCtrls created inst.fwCaps (numCtrls inst.fwCaps) CapId.all [] with
    | (_, false) => (-einval, [])
    | (ctrls, true) =>
        if (lastCtrls inst).any fun ctrl => !created ctrl then (error, [])
        else (0, ctrls ++ lastCtrls inst)

/-! ### Telling the firmware -/

namespace CtrlInst

def value (inst : CtrlInst) (id : CapId) : Int := (inst.fwCaps id).value

/-- The assignment of a 64-bit value to a `u32`. -/
def word (inst : CtrlInst) (id : CapId) : U32 := BitVec.ofInt 32 (inst.value id)

def clientSet (inst : CtrlInst) (id : CapId) : Bool := (inst.fwCaps id).flags.clientSet

def store (inst : CtrlInst) (id : CapId) (value : Int) : CtrlInst :=
  { inst with fwCaps := Function.update inst.fwCaps id { inst.fwCaps id with value } }

end CtrlInst

def irisGetPortInfo (inst : CtrlInst) (id : CapId) : U32 :=
  let flags := (inst.fwCaps id).flags
  match inst.domain with
  | .decoder =>
      if flags.inputPort then hfiPortBitstream
      else if flags.outputPort then hfiPortRaw
      else hfiPortNone
  | .encoder =>
      if flags.inputPort then hfiPortRaw
      else if flags.outputPort then hfiPortBitstream
      else hfiPortNone

/-- `session_set_property` with one word; nobody looks at its result. -/
def setProperty (inst : CtrlInst) (hfiId : U32) (id : CapId) (payloadType word : U32) : CtrlInst :=
  { inst with
    calls := inst.calls ++
      [{ hfiId, port := irisGetPortInfo inst id, payloadType, words := [word] }] }

def hfiOf (inst : CtrlInst) (id : CapId) : U32 := (inst.fwCaps id).hfiId

def irisSetU32Enum (id : CapId) (inst : CtrlInst) : CtrlInst :=
  setProperty inst (hfiOf inst id) id hfiPayloadU32Enum (inst.word id)

def irisSetU32 (id : CapId) (inst : CtrlInst) : CtrlInst :=
  setProperty inst (hfiOf inst id) id hfiPayloadU32 (inst.word id)

def irisSetStage (id : CapId) (inst : CtrlInst) : CtrlInst :=
  let small : Bool :=
    inst.domain == .decoder && Gen1Properties.irisResIsLessThan inst.width inst.height 1280 720
  setProperty inst (hfiOf inst id) id hfiPayloadU32 (if small then 1 else 2)

def irisSetPipe (id : CapId) (inst : CtrlInst) : CtrlInst :=
  setProperty inst (hfiOf inst id) id hfiPayloadU32 (inst.word .pipe)

/-- The profile and the level of the codec, where HEVC stands for every other. -/
def setOfCodec (h264 hevc id : CapId) (inst : CtrlInst) : CtrlInst :=
  let source := if inst.codec = .h264 then h264 else hevc
  setProperty inst (hfiOf inst source) id hfiPayloadU32Enum (inst.word source)

def irisSetProfile : CapId → CtrlInst → CtrlInst := setOfCodec .profileH264 .profileHevc

def irisSetLevel : CapId → CtrlInst → CtrlInst := setOfCodec .levelH264 .levelHevc

def hfiSeqHeaderSeperateFrame : U32 := 1
def hfiSeqHeaderJoinedWith1stFrame : U32 := 2
def hfiSeqHeaderPrefixWithSyncFrame : U32 := 4

def irisSetHeaderModeGen2 (id : CapId) (inst : CtrlInst) : CtrlInst :=
  let hfiVal :=
    if inst.word .prependSpsppsToIdr ≠ 0 then hfiSeqHeaderPrefixWithSyncFrame
    else if inst.word id = 1 then hfiSeqHeaderJoinedWith1stFrame
    else hfiSeqHeaderSeperateFrame
  setProperty inst (hfiOf inst id) id hfiPayloadU32Enum hfiVal

/-- The bound for HEVC is overwritten. -/
def irisSetBitrate (id : CapId) (inst : CtrlInst) : CtrlInst :=
  let maxBitrate :=
    if inst.word .entropyMode = Gen1Properties.entropyModeCabac then Gen1Properties.cabacMaxBitrate
    else Gen1Properties.cavlcMaxBitrate
  let bitrate := inst.word id
  setProperty inst (hfiOf inst id) id hfiPayloadU32
    (if maxBitrate < bitrate then maxBitrate else bitrate)

/-- `V4L2_MPEG_VIDEO_BITRATE_MODE_CBR` -/
def bitrateModeCbr : U32 := 1

def irisSetPeakBitrate (id : CapId) (inst : CtrlInst) : CtrlInst :=
  if inst.word .bitrateMode ≠ bitrateModeCbr then inst
  else
    let bitrate := inst.word .bitrate
    let peakBitrate :=
      if inst.clientSet id then if inst.word id < bitrate then bitrate else inst.word id
      else bitrate
    setProperty (inst.store id peakBitrate.toNat) (hfiOf inst id) id hfiPayloadU32 peakBitrate

def hfiRcVbrCfr : U32 := 0
def hfiRcCbrCfr : U32 := 1
def hfiRcCq : U32 := 2
def hfiRcOff : U32 := 3
def hfiRcCbrVfr : U32 := 4

def irisSetBitrateModeGen2 (id : CapId) (inst : CtrlInst) : CtrlInst :=
  let rcMode :=
    if inst.word .frameRcEnable = 0 then hfiRcOff
    else
      match (inst.word .bitrateMode).toNat with
      | 0 => hfiRcVbrCfr
      | 1 => if inst.word .frameSkipMode ≠ 0 then hfiRcCbrVfr else hfiRcCbrCfr
      | 2 => hfiRcCq
      | _ => 0
  setProperty { inst with hfiRcType := rcMode } (hfiOf inst id) id hfiPayloadU32Enum rcMode

/-- `V4L2_MPEG_VIDEO_H264_PROFILE_BASELINE` and `.._CONSTRAINED_BASELINE` are 0 and 1, and so are
`V4L2_MPEG_VIDEO_H264_ENTROPY_MODE_CAVLC` and `.._CABAC`. -/
def irisSetEntropyModeGen2 (id : CapId) (inst : CtrlInst) : CtrlInst :=
  if inst.codec ≠ .h264 then inst
  else
    let baseline : Bool := inst.word .profileH264 = 0 ∨ inst.word .profileH264 = 1
    let entropyMode : U32 := if baseline then 0 else inst.word id
    setProperty (inst.store id entropyMode.toNat) (hfiOf inst id) id hfiPayloadU32 entropyMode

/-- The quantization parameters of the three types of frames, and the one of all frames. -/
structure QpCaps where
  frame : CapId
  i : CapId
  p : CapId
  b : CapId

def minQpCaps : Codec → QpCaps
  | .h264 => ⟨.minFrameQpH264, .iFrameMinQpH264, .pFrameMinQpH264, .bFrameMinQpH264⟩
  | _ => ⟨.minFrameQpHevc, .iFrameMinQpHevc, .pFrameMinQpHevc, .bFrameMinQpHevc⟩

def maxQpCaps : Codec → QpCaps
  | .h264 => ⟨.maxFrameQpH264, .iFrameMaxQpH264, .pFrameMaxQpH264, .bFrameMaxQpH264⟩
  | _ => ⟨.maxFrameQpHevc, .iFrameMaxQpHevc, .pFrameMaxQpHevc, .bFrameMaxQpHevc⟩

def packQp (i p b enable : U32) : U32 := i ||| p <<< 8 ||| b <<< 16 ||| enable <<< 24

/-- `i | p << 1 | b << 2` -/
def qpEnable (i p b : Bool) : U32 :=
  (if i then 1 else 0) ||| (if p then 1 else 0) <<< 1 ||| (if b then 1 else 0) <<< 2

/-- Both bounds: what is set for all frames is set for each type. -/
def setQpBound (pick : Int → Int → Int) (caps : QpCaps) (id : CapId) (inst : CtrlInst) : CtrlInst :=
  let enabled (type : CapId) : Bool := inst.clientSet caps.frame || inst.clientSet type
  let qp (type : CapId) : U32 := BitVec.ofInt 32 (pick (inst.value type) (inst.value caps.frame))
  let clientQpEnable := qpEnable (enabled caps.i) (enabled caps.p) (enabled caps.b)
  if clientQpEnable = 0 then inst
  else
    setProperty inst (hfiOf inst id) id hfiPayload32Packed
      (packQp (qp caps.i) (qp caps.p) (qp caps.b) clientQpEnable)

def irisSetMinQp (id : CapId) (inst : CtrlInst) : CtrlInst :=
  setQpBound max (minQpCaps inst.codec) id inst

def irisSetMaxQp (id : CapId) (inst : CtrlInst) : CtrlInst :=
  setQpBound min (maxQpCaps inst.codec) id inst

def irisSetFrameQp (id : CapId) (inst : CtrlInst) : CtrlInst :=
  let (i, p, b) : CapId × CapId × CapId :=
    if inst.codec = .h264 then (.iFrameQpH264, .pFrameQpH264, .bFrameQpH264)
    else (.iFrameQpHevc, .pFrameQpHevc, .bFrameQpHevc)
  let off : Bool := inst.hfiRcType = hfiRcOff
  if inst.dstStreaming ∧ !off then inst
  else
    let clientQpEnable :=
      qpEnable (off || inst.clientSet i) (off || inst.clientSet p) (off || inst.clientSet b)
    if clientQpEnable = 0 then inst
    else
      setProperty inst (hfiOf inst id) id hfiPayload32Packed
        (packQp (inst.word i) (inst.word p) (inst.word b) clientQpEnable)

def Setter.run : Setter → CapId → CtrlInst → CtrlInst
  | .u32Enum => irisSetU32Enum
  | .u32 => irisSetU32
  | .stage => irisSetStage
  | .pipe => irisSetPipe
  | .profile => irisSetProfile
  | .level => irisSetLevel
  | .headerModeGen2 => irisSetHeaderModeGen2
  | .bitrate => irisSetBitrate
  | .peakBitrate => irisSetPeakBitrate
  | .bitrateModeGen2 => irisSetBitrateModeGen2
  | .entropyModeGen2 => irisSetEntropyModeGen2
  | .minQp => irisSetMinQp
  | .maxQp => irisSetMaxQp
  | .frameQp => irisSetFrameQp

/-- `cap[id].set(inst, id)`, if there is one -/
def applyCap (inst : CtrlInst) (id : CapId) : CtrlInst :=
  match (inst.fwCaps id).set with
  | none => inst
  | some set => set.run id inst

/-- `configRet` is the result of `session_set_config_params`. -/
def irisSetProperties (configRet : Int) (inst : CtrlInst) : Int × CtrlInst :=
  if configRet ≠ 0 then (configRet, inst)
  else
    (0, CapId.all.foldl
      (fun inst id => if (inst.fwCaps id).capId.isSome then applyCap inst id else inst) inst)

/-! ### A new value -/

def irisOpSCtrl (id : CtrlId) (val : Int) (inst : CtrlInst) : Int × CtrlInst :=
  match id with
  | .decDisplayDelay =>
      if inst.domain ≠ .decoder ∨ inst.srcStreaming then (-einval, inst)
      else (0, { inst with displayDelay := BitVec.ofInt 32 val })
  | .decDisplayDelayEnable =>
      if inst.domain ≠ .decoder ∨ inst.srcStreaming then (-einval, inst)
      else (0, { inst with displayDelayEnable := val ≠ 0 })
  | _ =>
      match irisGetCapId id with
      | none => (-einval, inst)
      | some capId =>
          let cap := inst.fwCaps capId
          if inst.srcStreaming ∧ !cap.flags.dynamicAllowed then (-einval, inst)
          else
            let inst : CtrlInst :=
              { inst with
                fwCaps := Function.update inst.fwCaps capId
                  { cap with value := val, flags := { cap.flags with clientSet := true } } }
            (0, if inst.srcStreaming then applyCap inst capId else inst)

/-- What the rest of the driver changes between. -/
structure Surroundings where
  codec : Codec
  width : U32
  height : U32
  srcStreaming : Bool
  dstStreaming : Bool

/-- `fw_caps` in `iris_hfi_gen2_read_input_subcr_params` -/
def readInputSubcrParams (params : SubscriptionParams) (inst : CtrlInst) : CtrlInst :=
  let (profile, level) : CapId × CapId :=
    match inst.codec with
    | .hevc => (.profileHevc, .levelHevc)
    | .vp9 => (.profileVp9, .levelVp9)
    | .h264 => (.profileH264, .levelH264)
  (((inst.store profile params.profile.toNat).store level params.level.toNat).store .poc
    params.picOrderCnt.toNat).store .tier params.tier.toNat

inductive CtrlOp
  | sCtrl (id : CtrlId) (val : Int)
  | setProperties (configRet : Int)
  | sourceChange (params : SubscriptionParams)
  | surround (surroundings : Surroundings)

def ctrlStep (inst : CtrlInst) : CtrlOp → CtrlInst
  | .sCtrl id val => (irisOpSCtrl id val inst).2
  | .setProperties configRet => (irisSetProperties configRet inst).2
  | .sourceChange params => readInputSubcrParams params inst
  | .surround surroundings =>
      { inst with
        codec := surroundings.codec
        width := surroundings.width
        height := surroundings.height
        srcStreaming := surroundings.srcStreaming
        dstStreaming := surroundings.dstStreaming }

end NabuIris.Controls
