import NabuIris.FormatSizes

/-!
# TRY_FMT and S_FMT of a decoder (`iris_vdec.c`)

The two calls with all that they return of a format. TRY_FMT leaves `plane_fmt[0]` as the request
has it; S_FMT copies the format of its queue over the request.
-/

namespace NabuIris.DecoderFormats

open FormatSizes

/-- `struct v4l2_format`, with `plane_fmt[0]` -/
structure V4l2Format extends FmtRequest where
  bytesperline : U32
  sizeimage : U32
deriving DecidableEq, Repr

def irisVdecTryFmt (platform : Platform) (inst : FormatInst) (f : V4l2Format) : V4l2Format :=
  { f with toFmtRequest := FormatSizes.irisVdecTryFmt platform inst f.toFmtRequest }

/-- `*inst->fmt_src` and `*inst->fmt_dst` -/
def queueFormat (inst : FormatInst) (type : Plane) : V4l2Format where
  type := type
  pixelformat :=
    match type with
    | .output => .coded inst.codec
    | .capture => .raw inst.formats.rawFormat
  width := (inst.format type).width
  height := (inst.format type).height
  bytesperline := (inst.format type).bytesperline
  sizeimage := (inst.format type).sizeimage

structure SFmtAnswer where
  ret : Int
  /-- the format in the argument -/
  f : V4l2Format
  inst : FormatInst

def irisVdecSFmt (platform : Platform) (count : Formats → U32) (f : V4l2Format)
    (inst : FormatInst) : SFmtAnswer :=
  if (inst.queue f.type).busy then { ret := -ebusy, f, inst }
  else
    let (ret, after) := FormatSizes.irisVdecSFmt platform count f.toFmtRequest inst
    { ret
      f := if ret ≠ 0 then irisVdecTryFmt platform inst f else queueFormat after f.type
      inst := after }

/-! ### What a request comes down to -/

/-- The queue knows the pixel format. -/
def knownFormat (platform : Platform) (f : FmtRequest) : Bool :=
  match f.type, f.pixelformat with
  | .output, .coded _ => true
  | .capture, .nv12 => true
  | .capture, .p010 => platform.irisVdecP010Supported
  | _, _ => false

def askedWidth (platform : Platform) (inst : FormatInst) (f : FmtRequest) : U32 :=
  match f.type with
  | .output =>
      clamp (if knownFormat platform f then f.width else inst.formats.src.width)
        platform.instCaps.minFrameWidth platform.instCaps.maxFrameWidth
  | .capture =>
      if (inst.queue .output).streaming then inst.formats.src.width
      else if knownFormat platform f then f.width else inst.formats.dst.width

def askedHeight (platform : Platform) (inst : FormatInst) (f : FmtRequest) : U32 :=
  match f.type with
  | .output =>
      clamp (if knownFormat platform f then f.height else inst.formats.src.height)
        platform.instCaps.minFrameHeight platform.instCaps.maxFrameHeight
  | .capture =>
      if (inst.queue .output).streaming then inst.formats.src.height
      else if knownFormat platform f then f.height else inst.formats.dst.height

end NabuIris.DecoderFormats
