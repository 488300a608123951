import NabuIris.FormatSizes

/-!
# The formats of an encoder (`iris_venc.c`)

An encoder with the sizes that it keeps of both queues, and the calls that set its geometry. What
`FormatSizes` leaves out is `buffers[BUF_INPUT].size`, which is written between two steps of S_FMT.
-/

namespace NabuIris.EncoderFormats

open FormatSizes

structure EncoderInst extends FormatInst where
  /-- `buffers[BUF_INPUT].size` -/
  inputSize : U32

/-- A call that leaves `buffers[BUF_INPUT].size`. -/
def EncoderInst.call (call : FormatInst → Int × FormatInst) (inst : EncoderInst) :
    Int × EncoderInst :=
  let (ret, after) := call inst.toFormatInst
  (ret, { inst with toFormatInst := after })

def irisVencInstInit (platform : Platform) (count : Formats → U32) : EncoderInst :=
  let inst := FormatSizes.irisVencInstInit platform count
  { toFormatInst := inst, inputSize := inst.formats.src.sizeimage }

def irisVencSFmtInput (platform : Platform) (f : FmtRequest) (inst : EncoderInst) :
    Int × EncoderInst :=
  let f := irisVencTryFmt inst.toFormatInst f
  if f.pixelformat ≠ .nv12 then (-einval, inst)
  else
    let framed : EncoderInst :=
      { inst with toFormatInst := inst.setFrame platform f.width f.height }
    let framed : EncoderInst := { framed with inputSize := framed.formats.src.sizeimage }
    if f.width ≠ inst.formats.crop.width ∨ f.height ≠ inst.formats.crop.height then
      let cropped : EncoderInst :=
        { framed with toFormatInst := framed.setCrop f.width f.height }
      (0, (cropped.call (irisVencSFmtOutput platform cropped.dstRequest)).2)
    else (0, framed)

def irisVencSFmt (platform : Platform) (f : FmtRequest) (inst : EncoderInst) : Int × EncoderInst :=
  if (inst.queue f.type).busy then (-ebusy, inst)
  else
    match f.type with
    | .output => irisVencSFmtInput platform f inst
    | .capture => inst.call (irisVencSFmtOutput platform f)

/-- Without `buffers[BUF_INPUT].size` it is the S_FMT of `FormatSizes`. -/
theorem irisVencSFmt_toFormatInst (platform : Platform) (f : FmtRequest) (inst : EncoderInst) :
    FormatSizes.irisVencSFmt platform f inst.toFormatInst =
      ((irisVencSFmt platform f inst).1, (irisVencSFmt platform f inst).2.toFormatInst) := by
  unfold irisVencSFmt FormatSizes.irisVencSFmt
  by_cases hbusy : (inst.queue f.type).busy = true
  · rw [if_pos hbusy, if_pos hbusy]
  · rw [if_neg hbusy, if_neg hbusy]
    cases f.type with
    | capture => rfl
    | output =>
        simp only [irisVencSFmtInput, FormatSizes.irisVencSFmtInput]
        split_ifs <;> rfl

/-- `V4L2_SEL_TGT_*` -/
inductive SelectionTarget
  | crop
  | other
deriving DecidableEq, Repr

/-- `struct v4l2_selection` -/
structure SelectionRequest where
  type : Plane
  target : SelectionTarget
  r : Rect
deriving DecidableEq, Repr

def irisVencSSelection (platform : Platform) (s : SelectionRequest) (inst : EncoderInst) :
    Int × EncoderInst :=
  if s.type ≠ .output then (-einval, inst)
  else
    match s.target with
    | .crop => inst.call (FormatSizes.irisVencSSelection platform s.r.width s.r.height)
    | .other => (-einval, inst)

/-! ### Runs -/

inductive EncoderCall
  | sFmt (f : FmtRequest)
  | sSelection (s : SelectionRequest)
  /-- what else becomes of the two queues: REQBUFS, STREAMON, STREAMOFF -/
  | queues (queue : Plane → VideoQueue)

def applyCall (platform : Platform) (inst : EncoderInst) : EncoderCall → EncoderInst
  | .sFmt f => (irisVencSFmt platform f inst).2
  | .sSelection s => (irisVencSSelection platform s inst).2
  | .queues queue => { inst with queue }

def callsAfter (platform : Platform) (inst : EncoderInst) (calls : List EncoderCall) :
    EncoderInst :=
  calls.foldl (applyCall platform) inst

/-- An encoder that has been opened, with controls that may have been set since. -/
def EncoderInst.opened (platform : Platform) (count : Formats → U32) (bitrateMode frameRc : Int) :
    EncoderInst :=
  { irisVencInstInit platform count with bitrateMode, frameRc }

end NabuIris.EncoderFormats
