import NabuIris.Admission
import NabuIris.Gen1Message

/-!
# The visible rectangle (`iris_vb2.c`, `iris_vidc.c`)

G_SELECTION on a decoder reports the rectangle that was recorded in a CAPTURE buffer when it was
filled and published when it was dequeued, or the one of the instance. A `SelectionCall` is what can
change either of them. What the other functions of the driver do to an instance in between is a
parameter: they read and write no rectangle.
-/

namespace NabuIris

open Lib

/-- How a buffer is allocated. -/
def Rect.zero : Rect := { left := 0, top := 0, width := 0, height := 0 }

/-- `!crop->width || !crop->height` -/
def Rect.empty (rect : Rect) : Bool := rect.width == 0 || rect.height == 0

/-- An instance of either generation, with its visible rectangles. -/
structure CropInst where
  base : Gen1Message.Gen1Inst
  dqbufCrop : Rect
  dqbufCropValid : Bool

/-- What another function makes of an instance, which stays the instance that it is. -/
def Inst.perform (body : Inst → Inst) (inst : Inst) : Inst :=
  { body inst with
    gen := inst.gen
    domain := inst.domain
    codec := inst.codec
    legacyVpu5 := inst.legacyVpu5 }

/-! ### `iris_vb2.c`, `iris_vidc.c` -/

def irisVb2BufFinish (plane : Plane) (i : Nat) (s : CropInst) : CropInst :=
  if plane ≠ .capture then s
  else if s.base.inst.domain ≠ .decoder then s
  else
    let crop := s.base.bufCrop i
    if crop.empty then s else { s with dqbufCrop := crop, dqbufCropValid := true }

/-- `V4L2_SEL_TGT_*` -/
inductive SelTarget
  | crop
  | cropDefault
  | cropBounds
  | compose
  | composeDefault
  | composeBounds
  | composePadded
  | nativeSize
deriving DecidableEq, Repr

def irisGSelection (plane : Plane) (target : SelTarget) (s : CropInst) : Except Int Rect :=
  let crop := s.base.formats.crop
  let src := s.base.formats.src
  match s.base.inst.domain, plane with
  | .decoder, .output => .error (-einval)
  | .encoder, .capture => .error (-einval)
  | .decoder, .capture =>
      match target with
      | .nativeSize => .error (-einval)
      | _ => .ok (if s.dqbufCropValid then s.dqbufCrop else crop)
  | .encoder, .output =>
      match target with
      | .cropBounds => .ok { crop with width := src.width, height := src.height }
      | .cropDefault => .ok { crop with width := src.width, height := src.height }
      | .crop => .ok crop
      | _ => .error (-einval)

/-! ### Runs -/

/-- S_FMT on a decoder. A queue with buffers refuses it. -/
inductive SetFormat
  | output (codec : Option Codec) (width height : U32)
  | capture (format : Option RawFormat) (srcStreaming : Bool) (width height : U32)
deriving DecidableEq, Repr

def SetFormat.change : SetFormat → FormatChange
  | .output codec width height => .vdecOutput codec width height
  | .capture format srcStreaming width height => .vdecCapture format srcStreaming width height

inductive SelectionCall
  /-- any other function of the driver, or a message that neither ends a frame nor is an event -/
  | driver (body : Inst → Inst)
  /-- STREAMON on the CAPTURE queue, or a START command that goes on after a source change -/
  | restart (body : Inst → Inst)
  /-- new CAPTURE buffers -/
  | reqbufs (body : Inst → Inst)
  /-- a CAPTURE buffer is handed over -/
  | qbuf (i : Nat) (body : Inst → Inst)
  /-- userspace dequeues a CAPTURE buffer -/
  | dqbuf (i : Nat)
  /-- STREAMOFF takes a CAPTURE buffer from the queue -/
  | cancel (i : Nat)
  | sFmt (change : SetFormat)
  | ftbDone (env : Gen1Message.Gen1Env) (mem : Memory)
  | eventNotify (env : Gen1Message.Gen1Env) (mem : Memory)
  /-- a CAPTURE buffer comes back from a firmware of the second generation -/
  | fillDone (i : Nat) (filled : Bool) (body : Inst → Inst)
  /-- a source change of the second generation -/
  | srcChange (params : SubscriptionParams) (body : Inst → Inst)

namespace CropInst

def onInst (body : Inst → Inst) (s : CropInst) : CropInst :=
  { s with base := { s.base with inst := s.base.inst.perform body } }

def setFormats (rules : OutputRules) (limits : AdmissionLimits) (change : FormatChange)
    (s : CropInst) : CropInst :=
  let load := change.apply rules limits
    { domain := s.base.inst.domain
      codec := s.base.inst.codec
      formats := s.base.formats
      hfiSessionOpened := s.base.inst.hfiSessionOpened
      coreLoadReserved := false
      coreLoadRejected := false
      admissionFrameRate := 0 }
  { s with
    base :=
      { s.base with
        inst := { s.base.inst with codec := load.codec }
        formats := load.formats } }

end CropInst

def applySelection (rules : OutputRules) (limits : AdmissionLimits) (s : CropInst) :
    SelectionCall → CropInst
  | .driver body => s.onInst body
  | .restart body => s.onInst body
  | .reqbufs body =>
      let s := s.onInst body
      { s with base := { s.base with bufCrop := fun _ => .zero } }
  | .qbuf _ body => s.onInst body
  | .dqbuf i => irisVb2BufFinish .capture i s
  | .cancel i => irisVb2BufFinish .capture i s
  | .sFmt change => s.setFormats rules limits change.change
  | .ftbDone env mem =>
      if s.base.inst.gen = .gen1 then
        { s with base := ((Gen1Message.irisHfiGen1SessionFtbDone env s.base).run mem).2 }
      else s
  | .eventNotify env mem =>
      if s.base.inst.gen = .gen1 then
        { s with base := ((Gen1Message.irisHfiGen1SessionEventNotify env s.base).run mem).2 }
      else s
  | .fillDone _ _ body => if s.base.inst.gen = .gen2 then s.onInst body else s
  | .srcChange params body =>
      if s.base.inst.gen = .gen2 then
        (s.setFormats rules limits (.gen2SrcChange params)).onInst body
      else s

def selectionAfter (rules : OutputRules) (limits : AdmissionLimits) (s : CropInst)
    (calls : List SelectionCall) : CropInst :=
  calls.foldl (applySelection rules limits) s

end NabuIris
