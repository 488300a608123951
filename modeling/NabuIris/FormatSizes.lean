import NabuIris.Admission

/-!
# Buffer sizes (`iris_buffer.c`, `iris_vdec.c`, `iris_venc.c`, `iris_vb2.c`, `iris_ctrls.c`)

What S_FMT negotiates: the geometry and the `sizeimage` of the two queues of an instance, and the
check that every buffer passes before it is queued, which asks for the size anew. The colours that
come along with a format are left out; what the CAPTURE queue of a decoder needs in buffers is the
parameter `count`.
-/

namespace NabuIris.FormatSizes

/-! ### Platforms -/

/-- The entries of `iris_dt_match`. -/
inductive Platform
  | qcs8300
  | sm8150
  | sm8250
  | sm8550
  | sm8650
deriving DecidableEq, Repr

namespace Platform

def instCaps : Platform → InstCaps
  | .qcs8300 =>
      { minFrameWidth := 96, maxFrameWidth := 4096, minFrameHeight := 96, maxFrameHeight := 4096 }
  | .sm8250 =>
      { minFrameWidth := 128, maxFrameWidth := 8192, minFrameHeight := 128, maxFrameHeight := 8192 }
  | _ =>
      { minFrameWidth := 96, maxFrameWidth := 8192, minFrameHeight := 96, maxFrameHeight := 8192 }

/-- `inst_caps->max_mbpf` -/
def maxMbpf : Platform → U32
  | .qcs8300 => 4096 * 2176 / 256
  | .sm8150 => 138240
  | .sm8250 => 138240
  | .sm8550 => 8192 * 4352 / 256
  | .sm8650 => 8192 * 4352 / 256

/-- `core_arch`; the platforms of the first generation leave it out. -/
def coreArch : Platform → U32
  | .sm8150 => 0
  | .sm8250 => 0
  | _ => 1

def gen : Platform → Gen
  | .sm8150 => .gen1
  | .sm8250 => .gen1
  | _ => .gen2

def legacyVpu5 (platform : Platform) : Bool := platform == .sm8150

def irisVdecP010Supported (platform : Platform) : Bool := platform.coreArch == 0

end Platform

/-! ### Instances -/

/-- `vb2_is_busy` and `vb2_is_streaming` -/
structure VideoQueue where
  busy : Bool
  streaming : Bool
deriving DecidableEq, Repr

/-- An instance, with what the sizes of its buffers and their negotiation read. -/
structure FormatInst extends LoadInst where
  /-- `fw_caps[BITRATE_MODE].value` -/
  bitrateMode : Int
  /-- `fw_caps[FRAME_RC_ENABLE].value` -/
  frameRc : Int
  /-- `IRIS_INST_SUB_DRC` -/
  drc : Bool
  queue : Plane → VideoQueue

def FormatInst.format (inst : FormatInst) : Plane → PixFormat
  | .output => inst.formats.src
  | .capture => inst.formats.dst

/-! ### Sizes -/

def numMbs4K : U32 := divRoundUp16 4096 * divRoundUp16 2304

/-- `iris_yuv_buffer_size_nv12` and `iris_yuv_buffer_size_p010`, for lines of `lineBytes`. -/
def irisYuvBufferSize (lineBytes height : U32) : U32 :=
  let yStride := align lineBytes 128
  let uvStride := align lineBytes 128
  let yScanlines := align height 32
  let uvScanlines := align ((height + 1) >>> 1) 16
  let yPlane := yStride * yScanlines
  let uvPlane := uvStride * uvScanlines
  align (yPlane + uvPlane) 4096

def irisYuvBufferSizeNv12 (f : PixFormat) : U32 := irisYuvBufferSize f.width f.height

def irisYuvBufferSizeP010 (f : PixFormat) : U32 := irisYuvBufferSize (f.width * 2) f.height

def irisDecBitstreamBufferSize (platform : Platform) (inst : LoadInst) : U32 :=
  let numMbs := irisGetMbpf inst
  let baseResMbs := if numMbs4K < numMbs then platform.maxMbpf else numMbs4K
  let divFactor := if numMbs4K < numMbs then 4 else if inst.codec = .vp9 then 1 else 2
  let frameSize := baseResMbs * (16 * 16) * 3 / 2 / divFactor
  align frameSize 4096

/-- `V4L2_MPEG_VIDEO_BITRATE_MODE_CQ` -/
def bitrateModeCq : Int := 2

def irisEncBitstreamBufferSize (inst : FormatInst) : U32 :=
  let f := inst.formats.dst
  let alignedWidth := align f.width 32
  let alignedHeight := align f.height 32
  let bitstreamSize := alignedWidth * alignedHeight * 3
  let yuvSize := (alignedWidth * alignedHeight * 3) >>> 1
  let bitstreamSize :=
    if 4096 * 2176 < alignedWidth * alignedHeight then bitstreamSize >>> 3
    else if 1280 * 720 < alignedWidth * alignedHeight then bitstreamSize >>> 2
    else bitstreamSize
  let bitstreamSize :=
    if (inst.frameRc = 0 ∨ inst.bitrateMode = bitrateModeCq) ∧ bitstreamSize < yuvSize then
      bitstreamSize <<< 1
    else bitstreamSize
  align bitstreamSize 4096

/-- `iris_get_buffer_size` of a decoder for `BUF_OUTPUT` -/
def irisRawBufferSize (formats : Formats) : U32 :=
  match formats.rawFormat with
  | .p010 => irisYuvBufferSizeP010 formats.dst
  | .nv12 => irisYuvBufferSizeNv12 formats.dst

/-- `iris_get_buffer_size` for `BUF_INPUT` and `BUF_OUTPUT`. Its result has type `int`. -/
def irisGetBufferSize (platform : Platform) (inst : FormatInst) (plane : Plane) : U32 :=
  match inst.domain, plane with
  | .decoder, .output => irisDecBitstreamBufferSize platform inst.toLoadInst
  | .decoder, .capture => irisRawBufferSize inst.formats
  | .encoder, .output => irisYuvBufferSizeNv12 inst.formats.src
  | .encoder, .capture => irisEncBitstreamBufferSize inst

/-! ### Opening -/

def minBuffers : U32 := 4
def defaultWidth : U32 := 320
def defaultHeight : U32 := 240

/-- An instance as `kzalloc` leaves it, but for its domain. -/
def FormatInst.allocated (domain : Domain) : FormatInst :=
  let zero : PixFormat :=
    { width := 0, height := 0, bytesperline := 0, sizeimage := 0, color := .default }
  { domain
    codec := .h264
    formats :=
      { src := zero
        dst := zero
        rawFormat := .nv12
        crop := { left := 0, top := 0, width := 0, height := 0 }
        fwMinCount := 0
        outputMinCount := 0
        outputSize := 0
        captureFormatChanged := false
        interlaced := false }
    hfiSessionOpened := false
    coreLoadReserved := false
    coreLoadRejected := false
    admissionFrameRate := 0
    bitrateMode := 0
    frameRc := 0
    drc := false
    queue := fun _ => { busy := false, streaming := false } }

def irisVdecInstInit (platform : Platform) (count : Formats → U32) : FormatInst :=
  let inst := FormatInst.allocated .decoder
  let inst : FormatInst :=
    { inst with
      formats.fwMinCount := if platform.legacyVpu5 then 0 else minBuffers
      formats.src.width := defaultWidth
      formats.src.height := defaultHeight }
  let inst : FormatInst :=
    { inst with
      formats.src.sizeimage := irisGetBufferSize platform inst .output
      formats.dst.width := align defaultWidth 128
      formats.dst.height := align defaultHeight 32
      formats.dst.bytesperline := align defaultWidth 128 }
  let inst : FormatInst :=
    { inst with formats.dst.sizeimage := irisGetBufferSize platform inst .capture }
  { inst with
    formats.outputMinCount := count inst.formats
    formats.outputSize := inst.formats.dst.sizeimage }

/-- The sizes are computed before the controls get their defaults, VBR and frame-level control. -/
def irisVencInstInit (platform : Platform) (count : Formats → U32) : FormatInst :=
  let inst := FormatInst.allocated .encoder
  let inst : FormatInst :=
    { inst with formats.dst.width := defaultWidth, formats.dst.height := defaultHeight }
  let inst : FormatInst :=
    { inst with formats.dst.sizeimage := irisGetBufferSize platform inst .capture }
  let inst : FormatInst :=
    { inst with
      formats.outputMinCount := count inst.formats
      formats.outputSize := inst.formats.dst.sizeimage
      formats.src.width := defaultWidth
      formats.src.height := defaultHeight
      formats.src.bytesperline := align defaultWidth 128 }
  { inst with
    formats.src.sizeimage := irisGetBufferSize platform inst .output
    formats.crop := { left := 0, top := 0, width := defaultWidth, height := defaultHeight }
    frameRc := 1 }

/-- A file that has just been opened. -/
def FormatInst.opened (platform : Platform) (count : Formats → U32) : Domain → FormatInst
  | .decoder => irisVdecInstInit platform count
  | .encoder => irisVencInstInit platform count

/-! ### TRY_FMT and S_FMT -/

/-- `V4L2_PIX_FMT_*`; `other` is a code that the driver does not know. -/
inductive PixelFormat
  | nv12
  | p010
  | coded (codec : Codec)
  | other (fourcc : U32)
deriving DecidableEq, Repr

def PixelFormat.raw : RawFormat → PixelFormat
  | .nv12 => .nv12
  | .p010 => .p010

/-- `struct v4l2_format` of a request -/
structure FmtRequest where
  type : Plane
  pixelformat : PixelFormat
  width : U32
  height : U32
deriving DecidableEq, Repr

def irisVdecTryFmt (platform : Platform) (inst : FormatInst) (f : FmtRequest) : FmtRequest :=
  let caps := platform.instCaps
  let src := inst.formats.src
  let dst := inst.formats.dst
  match f.type with
  | .output =>
      let f :=
        match f.pixelformat with
        | .coded _ => f
        | _ => { f with width := src.width, height := src.height, pixelformat := .coded inst.codec }
      { f with
        width := clamp f.width caps.minFrameWidth caps.maxFrameWidth
        height := clamp f.height caps.minFrameHeight caps.maxFrameHeight }
  | .capture =>
      let f :=
        if f.pixelformat ≠ .nv12 ∧ (f.pixelformat ≠ .p010 ∨ !platform.irisVdecP010Supported) then
          { f with
            pixelformat := .raw inst.formats.rawFormat
            width := dst.width
            height := dst.height }
        else f
      if (inst.queue .output).streaming then { f with height := src.height, width := src.width }
      else f

/-- The queue of the bitstream. Its size is computed before the crop rectangle is set. -/
def FormatInst.setCoded (platform : Platform) (codec : Codec) (width height : U32)
    (inst : FormatInst) : FormatInst :=
  let codecAlign : U32 := if codec = .hevc then 32 else 16
  let inst : FormatInst :=
    { inst with
      codec
      formats.src.width := align width codecAlign
      formats.src.height := align height codecAlign
      formats.src.bytesperline := 0 }
  let inst : FormatInst :=
    { inst with
      formats.src.sizeimage := irisGetBufferSize platform inst .output
      formats.dst.width := align width 128
      formats.dst.height := align height 32
      formats.dst.bytesperline := irisVdecRawStride width inst.formats.rawFormat }
  { inst with
    formats.dst.sizeimage := irisGetBufferSize platform inst .capture
    formats.outputSize := irisGetBufferSize platform inst .capture
    formats.crop := { left := 0, top := 0, width, height } }

/-- The queue of the decoded frames. -/
def FormatInst.setRaw (platform : Platform) (count : Formats → U32) (rawFormat : RawFormat)
    (width height : U32) (inst : FormatInst) : FormatInst :=
  let inst : FormatInst :=
    { inst with
      formats.rawFormat := rawFormat
      formats.dst.width := align width 128
      formats.dst.height := align height 32
      formats.dst.bytesperline := irisVdecRawStride width rawFormat }
  let inst : FormatInst :=
    { inst with formats.dst.sizeimage := irisGetBufferSize platform inst .capture }
  { inst with
    formats.outputMinCount := count inst.formats
    formats.outputSize := inst.formats.dst.sizeimage
    formats.crop := { left := 0, top := 0, width, height } }

def irisVdecSFmt (platform : Platform) (count : Formats → U32) (f : FmtRequest)
    (inst : FormatInst) : Int × FormatInst :=
  if (inst.queue f.type).busy then (-ebusy, inst)
  else
    let f := irisVdecTryFmt platform inst f
    match f.type, f.pixelformat with
    | .output, .coded codec => (0, inst.setCoded platform codec f.width f.height)
    | .capture, .nv12 => (0, inst.setRaw platform count .nv12 f.width f.height)
    | .capture, .p010 =>
        if platform.irisVdecP010Supported then
          (0, inst.setRaw platform count .p010 f.width f.height)
        else (-einval, inst)
    | _, _ => (-einval, inst)

/-- An encoder knows H.264 and HEVC. -/
def PixelFormat.vencCodec : PixelFormat → Option Codec
  | .coded .h264 => some .h264
  | .coded .hevc => some .hevc
  | _ => none

def irisVencTryFmt (inst : FormatInst) (f : FmtRequest) : FmtRequest :=
  let src := inst.formats.src
  let dst := inst.formats.dst
  match f.type with
  | .output =>
      if f.pixelformat ≠ .nv12 then
        { f with width := src.width, height := src.height, pixelformat := .nv12 }
      else f
  | .capture =>
      if f.pixelformat.vencCodec = none then
        { f with width := dst.width, height := dst.height, pixelformat := .coded inst.codec }
      else f

/-- The queue of the encoded frames, whose dimensions stay. -/
def FormatInst.setEncoded (platform : Platform) (codec : Codec) (inst : FormatInst) : FormatInst :=
  let size := irisGetBufferSize platform inst .capture
  { inst with
    codec
    formats.dst.bytesperline := 0
    formats.dst.sizeimage := size
    formats.outputSize := size }

def irisVencSFmtOutput (platform : Platform) (f : FmtRequest) (inst : FormatInst) :
    Int × FormatInst :=
  let f := irisVencTryFmt inst f
  match f.pixelformat.vencCodec with
  | none => (-einval, inst)
  | some codec => (0, inst.setEncoded platform codec)

/-- `fmt_dst` as a request -/
def FormatInst.dstRequest (inst : FormatInst) : FmtRequest :=
  { type := .capture
    pixelformat := .coded inst.codec
    width := inst.formats.dst.width
    height := inst.formats.dst.height }

/-- The queue of the frames to encode, whose dimensions the CAPTURE format takes over. -/
def FormatInst.setFrame (platform : Platform) (width height : U32) (inst : FormatInst) :
    FormatInst :=
  let inst : FormatInst :=
    { inst with
      formats.src.width := width
      formats.src.height := height
      formats.src.bytesperline := align width 128 }
  { inst with
    formats.src.sizeimage := irisGetBufferSize platform inst .output
    formats.dst.width := width
    formats.dst.height := height }

def FormatInst.setCrop (width height : U32) (inst : FormatInst) : FormatInst :=
  { inst with formats.crop := { left := 0, top := 0, width, height } }

def irisVencSFmtInput (platform : Platform) (f : FmtRequest) (inst : FormatInst) :
    Int × FormatInst :=
  let f := irisVencTryFmt inst f
  if f.pixelformat ≠ .nv12 then (-einval, inst)
  else
    let framed := inst.setFrame platform f.width f.height
    if f.width ≠ inst.formats.crop.width ∨ f.height ≠ inst.formats.crop.height then
      let cropped := framed.setCrop f.width f.height
      (0, (irisVencSFmtOutput platform cropped.dstRequest cropped).2)
    else (0, framed)

def irisVencSFmt (platform : Platform) (f : FmtRequest) (inst : FormatInst) : Int × FormatInst :=
  if (inst.queue f.type).busy then (-ebusy, inst)
  else
    match f.type with
    | .output => irisVencSFmtInput platform f inst
    | .capture => irisVencSFmtOutput platform f inst

/-- `iris_s_fmt_vid_mplane` -/
def irisSFmt (platform : Platform) (count : Formats → U32) (f : FmtRequest) (inst : FormatInst) :
    Int × FormatInst :=
  match inst.domain with
  | .decoder => irisVdecSFmt platform count f inst
  | .encoder => irisVencSFmt platform f inst

def irisVencSSelection (platform : Platform) (width height : U32) (inst : FormatInst) :
    Int × FormatInst :=
  if inst.formats.src.width < width ∨ inst.formats.src.height < height then (-einval, inst)
  else
    let cropped : FormatInst := inst.setCrop width height
    let cropped : FormatInst :=
      { cropped with formats.dst.width := width, formats.dst.height := height }
    irisVencSFmtOutput platform cropped.dstRequest cropped

/-! ### Controls -/

/-- The controls that a size reads; both are off the list of those that may change while the OUTPUT
queue streams. -/
inductive SizeControl
  /-- `V4L2_CID_MPEG_VIDEO_BITRATE_MODE`: CBR instead of VBR -/
  | bitrateMode
  /-- `V4L2_CID_MPEG_VIDEO_FRAME_RC_ENABLE` -/
  | frameRc
deriving DecidableEq, Repr

def irisOpSCtrl (control : SizeControl) (value : Bool) (inst : FormatInst) : Int × FormatInst :=
  if (inst.queue .output).streaming then (-einval, inst)
  else
    match control with
    | .bitrateMode => (0, { inst with bitrateMode := if value then 1 else 0 })
    | .frameRc => (0, { inst with frameRc := if value then 1 else 0 })

/-! ### Buffers -/

/-- `enum v4l2_field` -/
inductive Field
  | any
  | none
  | other
deriving DecidableEq, Repr

/-- `iris_vb2_buf_prepare`: an `unsigned long` is compared with an `int`. -/
def irisVb2BufPrepare (platform : Platform) (inst : FormatInst) (plane : Plane) (field : Field)
    (planeSize : U32) : Int :=
  if plane = .output ∧ field = .other then -einval
  else if inst.drc then 0
  else if planeSize.zeroExtend 64 < (irisGetBufferSize platform inst plane).signExtend 64 then
    -einval
  else 0

/-! ### Runs -/

/-- `armed` says of a source change that the instance is past its first one, so that it sets
`IRIS_INST_SUB_DRC`. -/
inductive FormatOp
  | sFmt (f : FmtRequest)
  /-- S_SELECTION of an encoder -/
  | sSelection (width height : U32)
  /-- S_CTRL of an encoder -/
  | sCtrl (control : SizeControl) (value : Bool)
  | reqbufs (plane : Plane) (busy : Bool)
  | streamon (plane : Plane)
  | streamoff (plane : Plane)
  | gen1SeqChanged (event : HfiEventData) (armed : Bool)
  /-- the visible rectangle of a VP9 frame -/
  | gen1Vp9Resize (crop : Rect)
  | gen2SrcChange (params : SubscriptionParams) (armed : Bool)
  /-- STREAMON on the CAPTURE queue or a START command ends a source change -/
  | drcDone

def FormatInst.setQueue (plane : Plane) (queue : VideoQueue) (inst : FormatInst) : FormatInst :=
  { inst with queue := Function.update inst.queue plane queue }

/-- A source change is for a decoder that is not in one already. -/
def FormatInst.expects (platform : Platform) (gen : Gen) (inst : FormatInst) : Bool :=
  inst.domain == .decoder && platform.gen == gen && !inst.drc

/-- `iris_hfi_gen1_event_vp9_resize` and what guards it. -/
def FormatInst.shrinks (platform : Platform) (crop : Rect) (inst : FormatInst) : Bool :=
  inst.expects platform .gen1 && platform.legacyVpu5 && inst.codec == .vp9 &&
    inst.formats.fwMinCount != 0 && crop.width != 0 && crop.height != 0 &&
    (crop.width < inst.formats.crop.width || crop.height < inst.formats.crop.height)

def applyFormat (platform : Platform) (count : Formats → U32) (inst : FormatInst) :
    FormatOp → FormatInst
  | .sFmt f => (irisSFmt platform count f inst).2
  | .sSelection width height =>
      if inst.domain = .encoder then (irisVencSSelection platform width height inst).2 else inst
  | .sCtrl control value =>
      if inst.domain = .encoder then (irisOpSCtrl control value inst).2 else inst
  | .reqbufs plane busy =>
      let queue := inst.queue plane
      if queue.streaming then inst else inst.setQueue plane { queue with busy }
  | .streamon plane =>
      let queue := inst.queue plane
      inst.setQueue plane { queue with streaming := queue.streaming || queue.busy }
  | .streamoff plane => inst.setQueue plane { inst.queue plane with streaming := false }
  | .gen1SeqChanged event armed =>
      if inst.expects platform .gen1 then
        { inst with
          formats := irisHfiGen1ReadChangedParams { size := irisRawBufferSize, count }
            platform.legacyVpu5 event inst.formats
          drc := armed }
      else inst
  | .gen1Vp9Resize crop =>
      if inst.shrinks platform crop then { inst with formats.crop := crop } else inst
  | .gen2SrcChange params armed =>
      if inst.expects platform .gen2 then
        { inst with
          formats := subscribedFormats { size := irisRawBufferSize, count } params inst.formats
          drc := armed }
      else inst
  | .drcDone => { inst with drc := false }

def formatsAfter (platform : Platform) (count : Formats → U32) (inst : FormatInst)
    (ops : List FormatOp) : FormatInst :=
  ops.foldl (applyFormat platform count) inst

end NabuIris.FormatSizes
