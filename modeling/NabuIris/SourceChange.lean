import NabuIris.Instance

/-!
# Source changes (`iris_hfi_gen1_response.c`, `iris_hfi_gen2_response.c`, `iris_hfi_gen2_packet.c`)

The formats of an instance, and what the firmware's source-change messages make of them. The second
generation keeps the parameters of a change in a packed form, which it fills from the instance
before a message and reads back into it afterwards.
-/

namespace NabuIris

abbrev U32 := BitVec 32

def align (n a : U32) : U32 := (n + (a - 1)) &&& ~~~(a - 1)

/-! ### Formats -/

structure Colorimetry where
  colorspace : U32
  xferFunc : U32
  ycbcrEnc : U32
  quantization : U32
deriving DecidableEq, Repr

/-- The defaults of all four fields are `0`. -/
def Colorimetry.default : Colorimetry :=
  { colorspace := 0, xferFunc := 0, ycbcrEnc := 0, quantization := 0 }

/-- `struct v4l2_pix_format_mplane`, with its one plane -/
structure PixFormat where
  width : U32
  height : U32
  bytesperline : U32
  sizeimage : U32
  color : Colorimetry
deriving DecidableEq, Repr

/-- `V4L2_PIX_FMT_NV12` and `V4L2_PIX_FMT_P010` -/
inductive RawFormat
  | nv12
  | p010
deriving DecidableEq, Repr

@[ext]
structure Rect where
  left : U32
  top : U32
  width : U32
  height : U32
deriving DecidableEq, Repr

/-- The formats of an instance and what depends on them. -/
structure Formats where
  /-- `fmt_src` -/
  src : PixFormat
  /-- `fmt_dst` -/
  dst : PixFormat
  /-- the pixel format of `fmt_dst` of a decoder -/
  rawFormat : RawFormat
  crop : Rect
  fwMinCount : U32
  /-- `buffers[BUF_OUTPUT].min_count` -/
  outputMinCount : U32
  /-- `buffers[BUF_OUTPUT].size` -/
  outputSize : U32
  captureFormatChanged : Bool
  interlaced : Bool
deriving DecidableEq, Repr

/-- `iris_get_buffer_size` and `iris_vpu_buf_count` for `BUF_OUTPUT`. -/
structure OutputRules where
  size : Formats → U32
  count : Formats → U32

def irisVdecRawStride (width : U32) (format : RawFormat) : U32 :=
  match format with
  | .p010 => align (width * 2) 256
  | .nv12 => align width 128

/-- `dst_q->min_reqbufs_allocation` and the control follow the count. -/
def Formats.setOutput (rules : OutputRules) (formats : Formats) : Formats :=
  { formats with
    outputMinCount := rules.count formats
    outputSize := formats.dst.sizeimage }

/-! ### Colour descriptions (`iris_hfi_common.c`) -/

/-- One of the two tables that relate a V4L2 code to an HFI code. -/
def lookupCode (table : List (U32 × U32)) (fallback code : U32) : U32 :=
  ((table.find? fun entry => entry.1 == code).map Prod.snd).getD fallback

/-- The case for `DCI_P3` has the two codes the other way round. -/
def irisHfiGetV4l2ColorPrimaries : U32 → U32 :=
  lookupCode [(0, 0), (1, 3), (4, 5), (5, 6), (6, 1), (7, 2), (9, 10), (12, 11)] 0

def irisHfiGetV4l2TransferChar : U32 → U32 :=
  lookupCode [(0, 0), (1, 1), (7, 4), (13, 2), (16, 7)] 0

def irisHfiGetV4l2MatrixCoefficients : U32 → U32 :=
  lookupCode [(3, 0), (1, 2), (5, 3), (6, 1), (7, 8), (9, 6), (10, 7)] 0

/-- The colour description of a source change, for both generations. -/
def describedColor (colorInfo : U32) : Colorimetry :=
  let matrixCoeff := colorInfo &&& 0xff
  let transferChar := (colorInfo &&& 0xff00) >>> 8
  let primaries := (colorInfo &&& 0xff0000) >>> 16
  let colourDescriptionPresentFlag := (colorInfo &&& 0x1000000) >>> 24
  let fullRange := (colorInfo &&& 0x2000000) >>> 25
  let videoSignalTypePresentFlag := (colorInfo &&& 0x20000000) >>> 29
  if videoSignalTypePresentFlag = 0 then .default
  else
    let quantization : U32 := if fullRange ≠ 0 then 1 else 2
    if colourDescriptionPresentFlag = 0 then { Colorimetry.default with quantization }
    else
      { colorspace := irisHfiGetV4l2ColorPrimaries primaries
        xferFunc := irisHfiGetV4l2TransferChar transferChar
        ycbcrEnc := irisHfiGetV4l2MatrixCoefficients matrixCoeff
        quantization }

/-! ### The first generation -/

def hfiBitDepth8 : U32 := 0x0
def hfiBitDepth10 : U32 := 0x20002

/-- The fields of `struct hfi_event_data` that a sequence change uses. -/
structure HfiEventData where
  width : U32
  height : U32
  bitDepth : U32
  picStruct : U32
  colourSpace : U32
  bufCount : U32
  inputCrop : Rect
deriving DecidableEq, Repr

/-- The formats that `iris_hfi_gen1_read_changed_params` leaves. -/
def irisHfiGen1ReadChangedParams (rules : OutputRules) (legacyVpu5 : Bool) (event : HfiEventData)
    (formats : Formats) : Formats :=
  let toP010 : Bool :=
    legacyVpu5 && event.bitDepth == hfiBitDepth10 && formats.rawFormat != .p010
  let rawFormat := if toP010 then .p010 else formats.rawFormat
  let color := describedColor event.colourSpace
  let sized : Formats :=
    { formats with
      rawFormat
      captureFormatChanged := formats.captureFormatChanged || toP010
      src := { formats.src with width := event.width, height := event.height }
      dst := { formats.dst with
        width := align event.width 128
        height := align event.height 32
        bytesperline := irisVdecRawStride event.width rawFormat } }
  let described : Formats :=
    { sized with
      src := { sized.src with color }
      dst := { sized.dst with color, sizeimage := rules.size sized }
      crop :=
        if 0 < event.inputCrop.width ∧ 0 < event.inputCrop.height then event.inputCrop
        else { left := 0, top := 0, width := event.width, height := event.height }
      fwMinCount := event.bufCount }
  { described.setOutput rules with interlaced := event.picStruct = 0 }

/-- The bit depth does not go with the CAPTURE format. -/
def unsupportedContent (event : HfiEventData) (formats : Formats) : Bool :=
  (event.bitDepth != hfiBitDepth8 && event.bitDepth != hfiBitDepth10) ||
    (event.bitDepth == hfiBitDepth10 && formats.rawFormat != .p010)

/-! ### The second generation -/

/-- The entries of `fw_caps` that a source change uses. -/
inductive FwCap
  | profile (codec : Codec)
  | level (codec : Codec)
  | poc
  | tier
  | bitDepth
  | codedFrames
deriving DecidableEq, Repr

def bitDepth8 : U32 := 0x80008
def codedFramesProgressive : U32 := 0
def hfiBitmaskFrameMbsOnlyFlag : U32 := 1

/-- `struct hfi_subscription_params` -/
structure SubscriptionParams where
  bitstreamResolution : U32
  cropOffsets0 : U32
  cropOffsets1 : U32
  bitDepth : U32
  codedFrames : U32
  fwMinCount : U32
  picOrderCnt : U32
  colorInfo : U32
  profile : U32
  level : U32
  tier : U32
deriving DecidableEq, Repr

/-- A decoder of the second generation, with the formats that its source changes negotiate. -/
structure Gen2Decoder where
  inst : Inst
  formats : Formats
  /-- `src_subcr_params` -/
  params : SubscriptionParams
  fwCaps : FwCap → U32

def irisHfiGen2GetColorPrimaries : U32 → U32 :=
  lookupCode [(0, 0), (3, 1), (5, 4), (6, 5), (1, 6), (2, 7), (10, 9), (12, 11)] 0

def irisHfiGen2GetTransferChar : U32 → U32 :=
  lookupCode [(0, 0), (1, 1), (4, 7), (2, 13), (7, 16)] 0

def irisHfiGen2GetMatrixCoefficients : U32 → U32 :=
  lookupCode [(0, 3), (2, 1), (4, 1), (3, 5), (1, 6), (8, 7), (6, 9), (7, 10)] 3

def irisHfiGen2GetColorInfo (matrixCoeff transferChar primaries colourDescriptionPresentFlag
    fullRange videoFormat videoSignalTypePresentFlag : U32) : U32 :=
  (matrixCoeff &&& 0xff) ||| ((transferChar <<< 8) &&& 0xff00) |||
    ((primaries <<< 16) &&& 0xff0000) ||| ((colourDescriptionPresentFlag <<< 24) &&& 0x1000000) |||
    ((fullRange <<< 25) &&& 0x2000000) ||| ((videoFormat <<< 26) &&& 0x1c000000) |||
    ((videoSignalTypePresentFlag <<< 29) &&& 0x20000000)

/-- Both flags that say whether a colour description is present are `0` here. -/
def irisHfiGen2InitSrcChangeParam (dec : Gen2Decoder) : Gen2Decoder :=
  let src := dec.formats.src
  let crop := dec.formats.crop
  let bottomOffset := src.height - crop.height
  let rightOffset := src.width - crop.width
  let color := dec.formats.dst.color
  { dec with
    params :=
      { dec.params with
        bitstreamResolution := src.width <<< 16 ||| src.height
        cropOffsets0 := crop.left <<< 16 ||| crop.top
        cropOffsets1 := rightOffset <<< 16 ||| bottomOffset
        fwMinCount := dec.formats.outputMinCount
        colorInfo := irisHfiGen2GetColorInfo (irisHfiGen2GetMatrixCoefficients color.ycbcrEnc)
          (irisHfiGen2GetTransferChar color.xferFunc)
          (irisHfiGen2GetColorPrimaries color.colorspace) 0
          (if color.quantization = 1 then 1 else 0) 0 0
        profile := dec.fwCaps (.profile dec.inst.codec)
        level := dec.fwCaps (.level dec.inst.codec)
        picOrderCnt := dec.fwCaps .poc
        bitDepth := dec.fwCaps .bitDepth
        codedFrames :=
          if dec.fwCaps .codedFrames = codedFramesProgressive then hfiBitmaskFrameMbsOnlyFlag
          else 0 } }

/-- The formats that `iris_hfi_gen2_read_input_subcr_params` leaves. -/
def subscribedFormats (rules : OutputRules) (params : SubscriptionParams) (formats : Formats) :
    Formats :=
  let width := (params.bitstreamResolution &&& 0xffff0000) >>> 16
  let height := params.bitstreamResolution &&& 0xffff
  let color := describedColor params.colorInfo
  let top := params.cropOffsets0 &&& 0xffff
  let left := (params.cropOffsets0 >>> 16) &&& 0xffff
  let sized : Formats :=
    { formats with
      src := { formats.src with width, height }
      dst := { formats.dst with
        width := align width 128
        height := align height 32
        bytesperline := align width 128 } }
  Formats.setOutput rules
    { sized with
      src := { sized.src with color }
      dst := { sized.dst with color, sizeimage := rules.size sized }
      crop :=
        { left
          top
          width := width - ((params.cropOffsets1 >>> 16) &&& 0xffff) - left
          height := height - (params.cropOffsets1 &&& 0xffff) - top }
      fwMinCount := params.fwMinCount }

def irisHfiGen2ReadInputSubcrParams (rules : OutputRules) (dec : Gen2Decoder) : Gen2Decoder :=
  let params := dec.params
  let caps := Function.update (Function.update (Function.update (Function.update dec.fwCaps
    (.profile dec.inst.codec) params.profile) (.level dec.inst.codec) params.level)
    .poc params.picOrderCnt) .tier params.tier
  let unsupported : Bool :=
    params.bitDepth ≠ bitDepth8 ∨ params.codedFrames &&& hfiBitmaskFrameMbsOnlyFlag = 0
  { dec with
    formats := subscribedFormats rules params dec.formats
    fwCaps := caps
    inst := dec.inst.applyIf unsupported Inst.enterError }

/-- `iris_hfi_gen2_handle_src_change` on the bitstream port. -/
def handleSrcChange (rules : OutputRules) (dec : Gen2Decoder) : Int × Gen2Decoder :=
  let drc := irisInstSubStateChangeDrc dec.inst
  if drc.1 ≠ 0 then (drc.1, { dec with inst := drc.2 })
  else (0, irisHfiGen2ReadInputSubcrParams rules { dec with inst := drc.2 })

/-- The properties that a source change subscribes to. -/
inductive SubscribedProperty
  | bitstreamResolution
  | cropOffsets
  | lumaChromaBitDepth
  | codedFrames
  | bufferFwMinOutputCount
  | picOrderCntType
  | signalColorInfo
  | profile
  | level
  | tier
deriving DecidableEq, Repr

/-- `iris_hfi_gen2_handle_session_property` -/
def SubscriptionParams.set (params : SubscriptionParams) (property : SubscribedProperty)
    (payload0 payload1 : U32) : SubscriptionParams :=
  match property with
  | .bitstreamResolution => { params with bitstreamResolution := payload0 }
  | .cropOffsets => { params with cropOffsets0 := payload0, cropOffsets1 := payload1 }
  | .lumaChromaBitDepth => { params with bitDepth := payload0 }
  | .codedFrames => { params with codedFrames := payload0 }
  | .bufferFwMinOutputCount => { params with fwMinCount := payload0 }
  | .picOrderCntType => { params with picOrderCnt := payload0 }
  | .signalColorInfo => { params with colorInfo := payload0 }
  | .profile => { params with profile := payload0 }
  | .level => { params with level := payload0 }
  | .tier => { params with tier := payload0 }

/-- A packet of a source-change message. -/
inductive SrcChangePacket
  /-- `HFI_CMD_SETTINGS_CHANGE`, on the bitstream port or on another one -/
  | settingsChange (bitstream : Bool)
  /-- `information` is `HFI_FW_FLAGS_INFORMATION` -/
  | property (subscribed : SubscribedProperty) (information : Bool) (payload0 payload1 : U32)
deriving DecidableEq, Repr

def SrcChangePacket.handleProperty (packet : SrcChangePacket) (dec : Gen2Decoder) : Gen2Decoder :=
  match packet with
  | .property _ true _ _ => dec
  | .property subscribed false payload0 payload1 =>
      { dec with params := dec.params.set subscribed payload0 payload1 }
  | .settingsChange _ => dec

def SrcChangePacket.handleCommand (rules : OutputRules) (packet : SrcChangePacket)
    (dec : Gen2Decoder) : Gen2Decoder :=
  match packet with
  | .settingsChange true =>
      let change := handleSrcChange rules dec
      { change.2 with inst := change.2.inst.applyIf (change.1 ≠ 0) Inst.enterError }
  | _ => dec

/-- What `iris_hfi_gen2_handle_session_response` makes of a source-change message. A packet with
`HFI_FW_FLAGS_SESSION_ERROR` has put the instance into the error state before its commands. -/
def handleSrcChangeMessage (rules : OutputRules) (sessionError : Bool)
    (packets : List SrcChangePacket) (dec : Gen2Decoder) : Gen2Decoder :=
  let dec :=
    if packets.contains (.settingsChange true) then irisHfiGen2InitSrcChangeParam dec else dec
  let dec := { dec with inst := dec.inst.applyIf sessionError Inst.enterError }
  let dec := packets.foldl (fun dec packet => packet.handleProperty dec) dec
  packets.foldl (fun dec packet => packet.handleCommand rules dec) dec

end NabuIris
