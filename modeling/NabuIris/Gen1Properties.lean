import NabuIris.Frequency
import NabuIris.InternalPools
import NabuIris.Lib.Writing

/-!
# Properties of the first generation (`iris_hfi_gen1_command.c`, `iris_ctrls.c`)

How a packet that sets a property is built and sent, and every place that sets one. A structure of
the firmware interface is the list of its words. Offsets start at the packet. `calls` is not in the
driver: it records the calls of `hfi_gen1_set_property`. What a call returns when a set function of
a control ignores it is in the log only.
-/

namespace NabuIris.Gen1Properties

open Lib Lib.Reading Lib.Writing

def erange : Int := 34
def eopnotsupp : Int := 95

/-- `HFI_PROPERTY_PARAM_*` and `HFI_PROPERTY_CONFIG_*`, as far as a caller or a table names them -/
inductive Property
  /-- the `hfi_id` of an entry that leaves it out -/
  | absent
  | frameSize
  | uncompressedPlaneActualInfo
  | uncompressedFormatSelect
  | profileLevelCurrent
  | workMode
  | workRoute
  | frameRate
  | videocoresUsage
  | bufferCountActual
  | uncompressedPlaneActualConstraintsInfo
  | bufferAllocMode
  | bufferSizeActual
  | vdecMultiStream
  | vdecOutputOrder
  | vencH264EntropyControl
  | vencRateControl
  | vencSessionQpRangeV2
  | vencTargetBitrate
  | vencIntraPeriod
  | vencSyncFrameSequenceHeader
deriving DecidableEq, Repr

def Property.id : Property → U32
  | .absent => 0
  | .frameSize => 0x1001
  | .uncompressedPlaneActualInfo => 0x1002
  | .uncompressedFormatSelect => 0x1003
  | .profileLevelCurrent => 0x1005
  | .workMode => 0x1015
  | .workRoute => 0x1017
  | .frameRate => 0x2001
  | .videocoresUsage => 0x2002
  | .bufferCountActual => 0x201001
  | .uncompressedPlaneActualConstraintsInfo => 0x201002
  | .bufferAllocMode => 0x201008
  | .bufferSizeActual => 0x20100c
  | .vdecMultiStream => 0x1003001
  | .vdecOutputOrder => 0x1203005
  | .vencH264EntropyControl => 0x2005002
  | .vencRateControl => 0x2005004
  | .vencSessionQpRangeV2 => 0x2005009
  | .vencTargetBitrate => 0x2006001
  | .vencIntraPeriod => 0x2006003
  | .vencSyncFrameSequenceHeader => 0x2006008

def hfiCmdSessionSetProperty : U32 := 0x11001

def hfiBufferInput : U32 := 0x1
def hfiBufferOutput : U32 := 0x2
def hfiBufferOutput2 : U32 := 0x3

def hfiOutputOrderDisplay : U32 := 0x1000001
def hfiOutputOrderDecode : U32 := 0x1000002

def hfiRateControlOff : U32 := 0x1000001
def hfiRateControlVbrVfr : U32 := 0x1000002
def hfiRateControlVbrCfr : U32 := 0x1000003
def hfiRateControlCbrVfr : U32 := 0x1000004
def hfiRateControlCbrCfr : U32 := 0x1000005
def hfiRateControlCq : U32 := 0x1000008

def hfiH264EntropyCavlc : U32 := 0x1
def hfiH264EntropyCabac : U32 := 0x2

/-- `sizeof(struct hfi_session_set_property_pkt)`; `data` starts behind it. -/
def setPropertyPktSize : Nat := 16

/-! ### The packet -/

/-- The words that a branch stores, counted from `prop_data`, and the size of its structure. -/
abbrev PropData := List (Nat × U32) × Nat

def constraintsData (p010 : Bool) : PropData :=
  let strideMultiple := if p010 then 256 else 128
  ([(0, hfiBufferOutput2), (1, 2), (2, strideMultiple), (3, 8192), (4, 32), (5, 256),
    (6, strideMultiple), (7, 8192), (8, 16), (9, 256)], 40)

/-- `struct hfi_quantization_range_v2`: its two halves have six words each. -/
def qpRangeData (minQp maxQp : U32) : Except Int PropData :=
  let packed (qp : U32) : U32 :=
    let low := qp &&& 0xff
    low ||| (low <<< 8) ||| (low <<< 16)
  if 0xff < minQp ∨ 0xff < maxQp then .error (-erange)
  else
    .ok ([(1, 0xff), (7, 0xff), (0, packed minQp), (6, packed maxQp), (2, 7), (8, 7)], 64)

/-- The branches of the builder; `pdata i` is the word `i` of the payload. -/
def propData (p010 : Bool) (pdata : Nat → U32) : Property → Except Int PropData
  | .frameSize => .ok ([(0, pdata 0), (2, pdata 2), (1, pdata 1)], 12)
  | .videocoresUsage => .ok ([(0, pdata 0)], 4)
  | .uncompressedFormatSelect => .ok ([(0, pdata 0), (1, pdata 1)], 8)
  | .uncompressedPlaneActualConstraintsInfo => .ok (constraintsData p010)
  | .bufferCountActual => .ok ([(0, pdata 0), (1, pdata 1), (2, pdata 2)], 12)
  | .vdecMultiStream => .ok ([(0, pdata 0), (1, pdata 1)], 8)
  | .vdecOutputOrder =>
      if pdata 0 ≠ hfiOutputOrderDecode ∧ pdata 0 ≠ hfiOutputOrderDisplay then .error (-einval)
      else .ok ([(0, pdata 0)], 4)
  | .bufferSizeActual => .ok ([(1, pdata 1), (0, pdata 0)], 8)
  | .workRoute => .ok ([(0, pdata 0)], 4)
  | .workMode => .ok ([(0, pdata 0)], 4)
  | .profileLevelCurrent =>
      .ok ([(1, pdata 1), (0, pdata 0)] ++ (if pdata 0 = 0 then [(0, 4)] else []) ++
        (if pdata 1 = 0 then [(1, 1)] else []), 8)
  | .vencSyncFrameSequenceHeader => .ok ([(0, pdata 0)], 4)
  | .vencTargetBitrate => .ok ([(0, pdata 0), (1, 0)], 8)
  | .vencIntraPeriod => .ok ([(0, pdata 0), (1, pdata 1)], 8)
  | .vencRateControl =>
      if [hfiRateControlOff, hfiRateControlCbrCfr, hfiRateControlCbrVfr, hfiRateControlVbrCfr,
          hfiRateControlVbrVfr, hfiRateControlCq].contains (pdata 0) then
        .ok ([(0, pdata 0)], 4)
      else .error (-einval)
  | .vencH264EntropyControl =>
      .ok ([(0, pdata 0)] ++ (if pdata 0 = hfiH264EntropyCabac then [(1, 1)] else []), 8)
  | .vencSessionQpRangeV2 => qpRangeData (pdata 0) (pdata 6)
  | .frameRate => .ok ([(0, pdata 0), (1, pdata 1)], 8)
  | .uncompressedPlaneActualInfo =>
      .ok ([(0, pdata 0), (1, pdata 1), (2, pdata 2), (3, pdata 3)] ++
        (if 1 < pdata 1 then [(4, pdata 4), (5, pdata 5)] else []), 24)
  | .absent | .bufferAllocMode => .error (-einval)

/-- The result, and the stores to the packet in their order: an offset and the word. -/
def irisHfiGen1PacketSessionSetProperty (sessionId : U32) (p010 : Bool) (ptype : Property)
    (pdata : Nat → U32) : Int × List (Nat × U32) :=
  let header :=
    [(0, BitVec.ofNat 32 setPropertyPktSize), (4, hfiCmdSessionSetProperty), (8, sessionId),
      (12, 1), (16, ptype.id)]
  match propData p010 pdata ptype with
  | .error ret => (ret, header)
  | .ok (words, size) =>
      (0, header ++ words.map (fun word => (20 + 4 * word.1, word.2)) ++
        [(0, BitVec.ofNat 32 (setPropertyPktSize + (4 + size)))])

/-! ### Instances -/

/-- `enum platform_inst_fw_cap_type`, the entries of the tables, in the order of the enumeration -/
inductive FwCap
  | profileH264
  | profileHevc
  | levelH264
  | levelHevc
  | stage
  | pipe
  | headerMode
  | bitrate
  | bitrateMode
  | frameSkipMode
  | frameRcEnable
  | gopSize
  | entropyMode
  | minFrameQpH264
  | minFrameQpHevc
  | maxFrameQpH264
  | maxFrameQpHevc
deriving DecidableEq, Repr

/-- A call of `hfi_gen1_set_property`, with what it reads of its instance. -/
structure PropertyCall where
  ptype : Property
  /-- the words of `payload`, `payload_size` bytes in all -/
  payload : List U32
  sessionId : U32
  p010 : Bool
  /-- `kzalloc` has given a packet. -/
  allocated : Bool
deriving DecidableEq, Repr

structure PropertyInst where
  base : Gen1Message.Gen1Inst
  hfiCoreId : U32
  frameRate : U32
  /-- the pixel format of `fmt_src` of an encoder is NV12 -/
  srcNv12 : Bool
  displayDelayEnable : Bool
  displayDelay : U32
  /-- `fw_caps[cap].value`; the controls take no negative ones. -/
  capValue : FwCap → U32
  calls : List PropertyCall

/-- What core selection reads of another instance. -/
structure OtherSession where
  hfiSessionOpened : Bool
  domain : Domain
  frameRate : U32
  operatingRate : U32
  /-- `iris_get_mbpf` -/
  mbpf : U32
  hfiCoreId : U32
deriving DecidableEq, Repr

structure PropertyEnv where
  numVppPipe : U32
  others : List OtherSession
  /-- `iris_vpu_buf_size` -/
  calculated : BufType → U32
  /-- whether the call at a position of the log gets memory, and its `iris_hfi_queue_cmd_write` -/
  kzalloc : Nat → Bool
  queueRet : Nat → Int
  /-- `iris_hfi_gen1_get_buffer_requirements`, with the responses that come in meanwhile -/
  requirements : Gen1Message.Gen1Inst → Int × Gen1Message.Gen1Inst

namespace PropertyCall

def packetSize (call : PropertyCall) : Nat := setPropertyPktSize + 4 + 4 * call.payload.length

def built (call : PropertyCall) : Int × List (Nat × U32) :=
  irisHfiGen1PacketSessionSetProperty call.sessionId call.p010 call.ptype (call.payload.getD · 0)

/-- `pkt->shdr.hdr.size` of the packet that is built in zeroed memory -/
def hdrSize (call : PropertyCall) : Nat := (wordAt (storeWords call.built.2 fun _ => 0) 0).toNat

end PropertyCall

/-- `ret = call; if (ret) return ret; next` -/
def orReturn (call : Int × PropertyInst) (next : PropertyInst → Int × PropertyInst) :
    Int × PropertyInst :=
  orGoto call (fun ret s => (ret, s)) next

/-! ### Setting a property -/

def hfiGen1SetProperty (env : PropertyEnv) (ptype : Property) (payload : List U32)
    (s : PropertyInst) : Int × PropertyInst :=
  let k := s.calls.length
  let call : PropertyCall :=
    { ptype
      payload
      sessionId := s.base.inst.sessionId
      p010 := s.base.formats.rawFormat == .p010
      allocated := env.kzalloc k }
  let s := { s with calls := s.calls ++ [call] }
  if !call.allocated then (-enomem, s)
  else if call.built.1 = -eopnotsupp then (0, s)
  else orReturn (call.built.1, s) fun s => (env.queueRet k, s)

/-- Calls in order, as far as they succeed. -/
def setEach (env : PropertyEnv) (ptype : Property) :
    List (List U32) → PropertyInst → Int × PropertyInst
  | [], s => (0, s)
  | payload :: rest, s =>
      orReturn (hfiGen1SetProperty env ptype payload s) (setEach env ptype rest)

/-! ### The handlers -/

/-- `struct hfi_framesize` -/
def framesize (bufferType : U32) (f : PixFormat) : List U32 := [bufferType, f.width, f.height]

def irisHfiGen1SetResolution (env : PropertyEnv) (s : PropertyInst) : Int × PropertyInst :=
  let formats := s.base.formats
  let output := if s.base.inst.domain = .decoder then hfiBufferOutput2 else hfiBufferOutput
  setEach env .frameSize
    ((if irisDrcPending s.base.inst then [] else [framesize hfiBufferInput formats.src]) ++
      [framesize output formats.dst]) s

def hfiCoreId1 : U32 := 1
def hfiCoreId2 : U32 := 2

/-- The load that the other decoders put on a core. -/
def coreLoad (core : U32) (others : List OtherSession) : BitVec 64 :=
  others.foldl
    (fun load other =>
      if !other.hfiSessionOpened ∨ other.domain ≠ .decoder ∨ other.hfiCoreId ≠ core then load
      else
        let fps :=
          if other.frameRate < other.operatingRate then other.operatingRate else other.frameRate
        let fps := if fps = maximumFps then defaultFps else fps
        let fps := if fps < 1 then 1 else fps
        load + other.mbpf.signExtend 64 * fps.setWidth 64)
    0

def irisHfiGen1DecideCore (env : PropertyEnv) (s : PropertyInst) : Int × PropertyInst :=
  let newAssignment := s.hfiCoreId = 0
  let core :=
    if s.hfiCoreId ≠ 0 then s.hfiCoreId
    else if s.base.inst.legacyVpu5 ∧ 1 < env.numVppPipe ∧
        coreLoad hfiCoreId2 env.others < coreLoad hfiCoreId1 env.others then hfiCoreId2
    else hfiCoreId1
  orGoto (hfiGen1SetProperty env .videocoresUsage [core] { s with hfiCoreId := core })
    (fun ret s => (ret, if newAssignment then { s with hfiCoreId := 0 } else s)) fun s => (0, s)

def hfiColorFormatNv12 : U32 := 0x2
def hfiColorFormatNv12Ubwc : U32 := 0x8002
def hfiColorFormatYuv420Tp10Ubwc : U32 := 0xc002
def hfiColorFormatP010 : U32 := 0x4003

/-- `struct hfi_uncompressed_format_select` -/
def irisHfiGen1SetRawFormat (env : PropertyEnv) (s : PropertyInst) : Int × PropertyInst :=
  let p010 : Bool := s.base.formats.rawFormat == .p010
  let linear := if p010 then hfiColorFormatP010 else hfiColorFormatNv12
  setEach env .uncompressedFormatSelect
    (match s.base.inst.domain with
    | .decoder =>
        if s.base.inst.splitMode then
          [[hfiBufferOutput, if p010 then hfiColorFormatYuv420Tp10Ubwc else hfiColorFormatNv12Ubwc],
            [hfiBufferOutput2, linear]]
        else [[hfiBufferOutput, linear]]
    | .encoder => [[hfiBufferInput, if s.srcNv12 then hfiColorFormatNv12 else 0]]) s

/-- `struct hfi_uncompressed_plane_actual_constraints_info` -/
def irisHfiGen1SetFormatConstraints (env : PropertyEnv) (s : PropertyInst) : Int × PropertyInst :=
  let strideMultiple := if s.base.formats.rawFormat = .p010 then 256 else 128
  hfiGen1SetProperty env .uncompressedPlaneActualConstraintsInfo
    [hfiBufferOutput2, 2, strideMultiple, 8192, 32, 256, strideMultiple, 8192, 16, 256] s

/-- `struct hfi_buffer_count_actual` -/
def bufferCountActual (type count : U32) : List U32 := [type, count, count]

def irisHfiGen1SetNumBufs (env : PropertyEnv) (s : PropertyInst) : Int × PropertyInst :=
  let maxFrame := BitVec.ofNat 32 videoMaxFrame
  setEach env .bufferCountActual
    ([bufferCountActual hfiBufferInput maxFrame, bufferCountActual hfiBufferOutput maxFrame] ++
      if s.base.inst.domain = .decoder ∧ s.base.inst.splitMode then
        [bufferCountActual hfiBufferOutput2 (irisVpuBufCount s.base .dpb)]
      else []) s

/-- `struct hfi_multi_stream` -/
def irisHfiGen1SetMultistream (env : PropertyEnv) (s : PropertyInst) : Int × PropertyInst :=
  setEach env .vdecMultiStream
    (if s.base.inst.splitMode then [[hfiBufferOutput2, 1], [hfiBufferOutput, 0]]
    else [[hfiBufferOutput, 1], [hfiBufferOutput2, 0]]) s

/-- `struct hfi_buffer_size_actual` -/
def irisHfiGen1SetBufsize (env : PropertyEnv) (s : PropertyInst) : Int × PropertyInst :=
  let outputSize := s.base.formats.outputSize
  setEach env .bufferSizeActual
    (if s.base.inst.splitMode then
      [[hfiBufferOutput, env.calculated .dpb], [hfiBufferOutput2, outputSize]]
    else [[hfiBufferOutput, outputSize], [hfiBufferOutput2, 0]]) s

/-- `struct hfi_framerate` -/
def irisHfiGen1SetFrameRate (env : PropertyEnv) (plane : Plane) (s : PropertyInst) :
    Int × PropertyInst :=
  match plane with
  | .output => (0, s)
  | .capture => hfiGen1SetProperty env .frameRate [hfiBufferOutput, s.frameRate <<< 16] s

/-- `struct hfi_uncompressed_plane_actual_info` -/
def irisHfiGen1SetStride (env : PropertyEnv) (s : PropertyInst) : Int × PropertyInst :=
  let f := s.base.formats.src
  hfiGen1SetProperty env .uncompressedPlaneActualInfo
    [hfiBufferInput, 2, align f.width 128, align f.height 32, align f.width 128,
      align f.height 32 / 2] s

/-! ### Configuration -/

/-- The size of a DPB that is sent before `SESSION_CONTINUE`. -/
def PropertyInst.dpbSizeActual (env : PropertyEnv) (s : PropertyInst) : U32 :=
  if s.base.fwBufferSizes .dpb ≠ 0 then s.base.fwBufferSizes .dpb else env.calculated .dpb

def irisHfiGen1SetFirstCaptureConfig (env : PropertyEnv) (s : PropertyInst) : Int × PropertyInst :=
  let format : Int × PropertyInst :=
    if s.base.formats.captureFormatChanged then
      orReturn (irisHfiGen1SetRawFormat env s) fun s =>
        orReturn (irisHfiGen1SetFormatConstraints env s) fun s =>
          (0, { s with base := { s.base with formats.captureFormatChanged := false } })
    else (0, s)
  orReturn format fun s =>
    let dpbCount := irisVpuBufCount s.base .dpb
    let output2Count := s.base.numBuffers
    if dpbCount = 0 ∨ output2Count = 0 then (-einval, s)
    else
      let answered := env.requirements s.base
      orReturn (answered.1, { s with base := answered.2 }) fun s =>
        orReturn (hfiGen1SetProperty env .frameSize
          (framesize hfiBufferOutput2 s.base.formats.src) s) fun s =>
        orReturn (hfiGen1SetProperty env .bufferCountActual
          (bufferCountActual hfiBufferOutput2 output2Count) s) fun s =>
        orReturn (hfiGen1SetProperty env .bufferSizeActual
          [hfiBufferOutput2, s.base.formats.outputSize] s) fun s =>
        orReturn (hfiGen1SetProperty env .bufferSizeActual
          [hfiBufferOutput, s.dpbSizeActual env] s) fun s =>
        hfiGen1SetProperty env .bufferCountActual (bufferCountActual hfiBufferOutput dpbCount) s

/-- `vdec_prop_type_handle_inp_arr`, `vdec_prop_type_handle_out_arr`,
`venc_prop_type_handle_inp_arr` -/
def propTypeHandle (env : PropertyEnv) (plane : Plane) :
    Domain → Property → Option (PropertyInst → Int × PropertyInst)
  | .decoder, .frameSize => some (irisHfiGen1SetResolution env)
  | .decoder, .videocoresUsage =>
      if plane = .output then some (irisHfiGen1DecideCore env) else none
  | .decoder, .uncompressedFormatSelect => some (irisHfiGen1SetRawFormat env)
  | .decoder, .uncompressedPlaneActualConstraintsInfo =>
      some (irisHfiGen1SetFormatConstraints env)
  | .decoder, .bufferCountActual => some (irisHfiGen1SetNumBufs env)
  | .decoder, .vdecMultiStream => some (irisHfiGen1SetMultistream env)
  | .decoder, .bufferSizeActual => some (irisHfiGen1SetBufsize env)
  | .encoder, .frameRate => some (irisHfiGen1SetFrameRate env plane)
  | .encoder, .uncompressedPlaneActualInfo => some (irisHfiGen1SetStride env)
  | .encoder, .frameSize => some (irisHfiGen1SetResolution env)
  | .encoder, .uncompressedFormatSelect => some (irisHfiGen1SetRawFormat env)
  | .encoder, .bufferCountActual => some (irisHfiGen1SetNumBufs env)
  | _, _ => none

/-- `sm8250_vdec_input_config_param_default`, `sm8250_venc_input_config_param` -/
def configParams : Domain → List Property
  | .decoder =>
      [.videocoresUsage, .uncompressedFormatSelect, .uncompressedPlaneActualConstraintsInfo,
        .bufferCountActual, .vdecMultiStream, .frameSize, .bufferSizeActual, .bufferAllocMode]
  | .encoder =>
      [.frameRate, .uncompressedPlaneActualInfo, .frameSize, .uncompressedFormatSelect,
        .bufferCountActual]

/-- The loop over the configuration parameters. -/
def setConfigParams (env : PropertyEnv) (plane : Plane) (domain : Domain) :
    List Property → PropertyInst → Int × PropertyInst
  | [], s => (0, s)
  | ptype :: rest, s =>
      match propTypeHandle env plane domain ptype with
      | some handle => orReturn (handle s) (setConfigParams env plane domain rest)
      | none => setConfigParams env plane domain rest s

def irisHfiGen1SessionSetConfigParams (env : PropertyEnv) (plane : Plane) (s : PropertyInst) :
    Int × PropertyInst :=
  let inst := s.base.inst
  if inst.domain = .decoder ∧ plane = .capture ∧
      (inst.legacyVpu5 ∧ inst.codec = .h264 ∨ inst.codec = .hevc ∨ inst.codec = .vp9) ∧
      (inst.legacyVpu5 ∨ hasFlag inst.subState subFirstIpsc) then
    irisHfiGen1SetFirstCaptureConfig env s
  else
    orReturn (setConfigParams env plane inst.domain (configParams inst.domain) s) fun s =>
      match plane with
      | .output =>
          let answered := env.requirements s.base
          (answered.1, { s with base := answered.2 })
      | .capture => (0, s)

/-! ### Capabilities -/

/-- `fw_caps[cap].hfi_id` -/
def FwCap.hfiId : FwCap → Property
  | .profileH264 | .profileHevc | .levelH264 | .levelHevc => .profileLevelCurrent
  | .stage => .workMode
  | .pipe => .workRoute
  | .headerMode => .vencSyncFrameSequenceHeader
  | .bitrate => .vencTargetBitrate
  | .bitrateMode => .vencRateControl
  | .frameSkipMode | .frameRcEnable => .absent
  | .gopSize => .vencIntraPeriod
  | .entropyMode => .vencH264EntropyControl
  | .minFrameQpH264 | .minFrameQpHevc | .maxFrameQpH264 | .maxFrameQpHevc => .vencSessionQpRangeV2

def irisResIsLessThan (width height refWidth refHeight : U32) : Bool :=
  let maxSide := if refWidth < refHeight then refHeight else refWidth
  numMbsPerFrame height width < numMbsPerFrame refHeight refWidth ∧ width < maxSide ∧
    height < maxSide

def irisSetStage (env : PropertyEnv) (cap : FwCap) (s : PropertyInst) : Int × PropertyInst :=
  let f := s.base.formats.src
  let small : Bool :=
    s.base.inst.domain == .decoder && irisResIsLessThan f.width f.height 1280 720
  hfiGen1SetProperty env cap.hfiId [if small then 1 else 2] s

def irisSetPipe (env : PropertyEnv) (cap : FwCap) (s : PropertyInst) : Int × PropertyInst :=
  hfiGen1SetProperty env cap.hfiId [s.capValue .pipe] s

/-- `V4L2_MPEG_VIDEO_H264_PROFILE_*` -/
def h264Profile (value : U32) : Option U32 :=
  match value.toNat with
  | 0 => some 0x1
  | 2 => some 0x2
  | 4 => some 0x4
  | 15 => some 0x8
  | 16 => some 0x10
  | 1 => some 0x20
  | 17 => some 0x40
  | _ => none

/-- `V4L2_MPEG_VIDEO_HEVC_PROFILE_*` -/
def hevcProfile (value : U32) : Option U32 :=
  match value.toNat with
  | 0 => some 0x1
  | 2 => some 0x2
  | 1 => some 0x4
  | _ => none

/-- `BIT(nr)`, an `unsigned long`, in a `u32` -/
def bit (nr : U32) : U32 := ((1 : BitVec 64) <<< nr.toNat).setWidth 32

/-- `struct hfi_profile_level` -/
def irisSetProfileLevelGen1 (env : PropertyEnv) (cap : FwCap) (s : PropertyInst) :
    Int × PropertyInst :=
  let h264 := s.base.inst.codec = .h264
  let profile :=
    if h264 then h264Profile (s.capValue .profileH264) else hevcProfile (s.capValue .profileHevc)
  let level := if h264 then s.capValue .levelH264 else s.capValue .levelHevc
  match profile with
  | none => (-einval, s)
  | some profile => hfiGen1SetProperty env cap.hfiId [profile, bit level] s

/-- `V4L2_MPEG_VIDEO_HEADER_MODE_SEPARATE` is 0. -/
def irisSetHeaderModeGen1 (env : PropertyEnv) (cap : FwCap) (s : PropertyInst) :
    Int × PropertyInst :=
  hfiGen1SetProperty env cap.hfiId [if s.capValue cap = 0 then 0 else 1] s

def cabacMaxBitrate : U32 := 160000000
def cavlcMaxBitrate : U32 := 220000000

/-- `V4L2_MPEG_VIDEO_H264_ENTROPY_MODE_CABAC` -/
def entropyModeCabac : U32 := 1

def irisSetBitrate (env : PropertyEnv) (cap : FwCap) (s : PropertyInst) : Int × PropertyInst :=
  let bitrate := s.capValue cap
  let maxBitrate :=
    if s.capValue .entropyMode = entropyModeCabac then cabacMaxBitrate else cavlcMaxBitrate
  hfiGen1SetProperty env cap.hfiId [if maxBitrate < bitrate then maxBitrate else bitrate] s

/-- `struct hfi_intra_period` -/
def irisSetGopSizeGen1 (env : PropertyEnv) (cap : FwCap) (s : PropertyInst) : Int × PropertyInst :=
  let gopSize := s.capValue cap
  hfiGen1SetProperty env cap.hfiId [if gopSize ≠ 0 then gopSize - 1 else 0, 0] s

/-- `V4L2_MPEG_VIDEO_BITRATE_MODE_*` are 0 for VBR, 1 for CBR and 2 for CQ. -/
def irisSetBitrateModeGen1 (env : PropertyEnv) (cap : FwCap) (s : PropertyInst) :
    Int × PropertyInst :=
  let frameSkip := s.capValue .frameSkipMode ≠ 0
  let rcMode :=
    if s.capValue .frameRcEnable = 0 then hfiRateControlOff
    else
      match (s.capValue .bitrateMode).toNat with
      | 0 => if frameSkip then hfiRateControlVbrVfr else hfiRateControlVbrCfr
      | 1 => if frameSkip then hfiRateControlCbrVfr else hfiRateControlCbrCfr
      | 2 => hfiRateControlCq
      | _ => 0
  hfiGen1SetProperty env cap.hfiId [rcMode] s

def irisSetEntropyModeGen1 (env : PropertyEnv) (cap : FwCap) (s : PropertyInst) :
    Int × PropertyInst :=
  if s.base.inst.codec ≠ .h264 then (0, s)
  else
    hfiGen1SetProperty env cap.hfiId
      [if s.capValue cap = 0 then hfiH264EntropyCavlc else hfiH264EntropyCabac] s

/-- `struct hfi_quantization_range_v2`. Only the two words that are set here are ever read. -/
def irisSetQpRange (env : PropertyEnv) (cap : FwCap) (s : PropertyInst) : Int × PropertyInst :=
  let hevc := s.base.inst.codec = .hevc
  let minQp := if hevc then s.capValue .minFrameQpHevc else s.capValue .minFrameQpH264
  let maxQp := if hevc then s.capValue .maxFrameQpHevc else s.capValue .maxFrameQpH264
  hfiGen1SetProperty env cap.hfiId [minQp, 0, 0, 0, 0, 0, maxQp, 0, 0, 0, 0, 0, 0, 0, 0, 0] s

/-- `inst_fw_cap_sm8250_dec` and `inst_fw_cap_sm8150_dec`, `inst_fw_cap_sm8250_enc`; the loop over
`fw_caps` meets them in the order of the enumeration. -/
def instFwCaps : Domain → List FwCap
  | .decoder => [.stage, .pipe]
  | .encoder =>
      [.profileH264, .profileHevc, .levelH264, .levelHevc, .stage, .headerMode, .bitrate,
        .bitrateMode, .frameSkipMode, .frameRcEnable, .gopSize, .entropyMode, .minFrameQpH264,
        .minFrameQpHevc, .maxFrameQpH264, .maxFrameQpHevc]

def FwCap.set (env : PropertyEnv) (cap : FwCap) : Option (PropertyInst → Int × PropertyInst) :=
  match cap with
  | .profileH264 | .profileHevc | .levelH264 | .levelHevc => some (irisSetProfileLevelGen1 env cap)
  | .stage => some (irisSetStage env cap)
  | .pipe => some (irisSetPipe env cap)
  | .headerMode => some (irisSetHeaderModeGen1 env cap)
  | .bitrate => some (irisSetBitrate env cap)
  | .bitrateMode => some (irisSetBitrateModeGen1 env cap)
  | .frameSkipMode | .frameRcEnable => none
  | .gopSize => some (irisSetGopSizeGen1 env cap)
  | .entropyMode => some (irisSetEntropyModeGen1 env cap)
  | .minFrameQpH264 | .minFrameQpHevc | .maxFrameQpH264 | .maxFrameQpHevc =>
      some (irisSetQpRange env cap)

/-- A call of `set`, if there is one; nobody looks at its result. -/
def applyCap (env : PropertyEnv) (s : PropertyInst) (cap : FwCap) : PropertyInst :=
  match cap.set env with
  | some set => (set s).2
  | none => s

def irisSetProperties (env : PropertyEnv) (plane : Plane) (s : PropertyInst) : Int × PropertyInst :=
  orReturn (irisHfiGen1SessionSetConfigParams env plane s) fun s =>
    (0, (instFwCaps s.base.inst.domain).foldl (applyCap env) s)

/-! ### Callers -/

/-- `CAP_FLAG_DYNAMIC_ALLOWED` -/
def FwCap.dynamicAllowed (cap : FwCap) : Bool := cap == .bitrate

/-- For a control that the instance has. -/
def irisOpSCtrl (env : PropertyEnv) (cap : FwCap) (val : U32) (s : PropertyInst) :
    Int × PropertyInst :=
  let streaming := s.base.inst.streaming .output
  if streaming ∧ !cap.dynamicAllowed then (-einval, s)
  else
    let s := { s with capValue := Function.update s.capValue cap val }
    (0, if streaming then applyCap env s cap else s)

/-- `iris_vdec_streamon_input`, as far as it sets properties -/
def irisVdecStreamonInput (env : PropertyEnv) (s : PropertyInst) : Int × PropertyInst :=
  orReturn (irisSetProperties env .output { s with frameRate := maximumFps }) fun s =>
    if s.base.inst.legacyVpu5 ∧ s.displayDelayEnable ∧ s.displayDelay = 0 then
      hfiGen1SetProperty env .vdecOutputOrder [hfiOutputOrderDecode] s
    else (0, s)

/-- `iris_process_streamon_output`, as far as it sets properties -/
def irisProcessStreamonOutput (env : PropertyEnv) (s : PropertyInst) : Int × PropertyInst :=
  if s.base.inst.domain = .decoder ∧ hasFlag s.base.inst.subState subInputPause then
    orReturn (irisSetStage env .stage s) (irisSetPipe env .pipe)
  else (0, s)

/-- The functions of the driver that set properties. -/
inductive PropertyCaller
  | vdecStreamonInput
  /-- `iris_vdec_streamon_output` -/
  | vdecStreamonOutput
  /-- `iris_venc_streamon_input` and `iris_venc_streamon_output` -/
  | vencStreamon (plane : Plane)
  | processStreamonOutput
  | sCtrl (cap : FwCap) (val : U32)
deriving DecidableEq, Repr

def PropertyCaller.run (env : PropertyEnv) : PropertyCaller → PropertyInst → Int × PropertyInst
  | .vdecStreamonInput => irisVdecStreamonInput env
  | .vdecStreamonOutput => irisHfiGen1SessionSetConfigParams env .capture
  | .vencStreamon plane => irisSetProperties env plane
  | .processStreamonOutput => irisProcessStreamonOutput env
  | .sCtrl cap val => irisOpSCtrl env cap val

/-- A call from outside, and what the rest of the driver has made of the instance before it. -/
structure PropertyStep where
  between : PropertyInst → PropertyInst
  env : PropertyEnv
  caller : PropertyCaller

def PropertyStep.apply (s : PropertyInst) (step : PropertyStep) : PropertyInst :=
  (step.caller.run step.env { step.between s with calls := s.calls }).2

/-- All calls of `hfi_gen1_set_property` for an instance that starts as `s`. -/
def propertyCalls (steps : List PropertyStep) (s : PropertyInst) : List PropertyCall :=
  (steps.foldl PropertyStep.apply { s with calls := [] }).calls

end NabuIris.Gen1Properties
