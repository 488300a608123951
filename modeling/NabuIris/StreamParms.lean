import NabuIris.InputRate
import NabuIris.VideoCores

/-!
# The rates of an encoder (`iris_venc.c`)

S_PARM sets the rate of one queue from the time of a frame. The rate is admitted at once where the
queue streams; `streaming` is `vb2_is_streaming` of the two queues.
-/

namespace NabuIris

namespace FormatSizes.Platform

/-- `inst_caps->max_operating_rate` and `inst_caps->max_frame_rate` -/
def maxRate (_ : Platform) : Plane → U32
  | .output => maximumFps
  | .capture => maximumFps

end FormatSizes.Platform

namespace VideoCores

open FormatSizes (Platform)

def usecPerSec : U64 := 1000000

/-- `struct v4l2_fract` -/
structure Fract where
  numerator : U32
  denominator : U32
deriving DecidableEq, Repr

/-- `struct v4l2_streamparm` -/
structure StreamParm where
  type : Plane
  timeperframe : Fract
  /-- `V4L2_CAP_TIMEPERFRAME` -/
  capability : Bool
deriving DecidableEq, Repr

/-- A zero stands for the default. -/
def Fract.filled (timeperframe : Fract) : Fract where
  numerator := if timeperframe.numerator = 0 then 1 else timeperframe.numerator
  denominator := if timeperframe.denominator = 0 then defaultFps else timeperframe.denominator

/-- What S_PARM returns in its argument. -/
def StreamParm.filled (s : StreamParm) : StreamParm :=
  { s with timeperframe := s.timeperframe.filled, capability := true }

def StreamParm.usPerFrame (s : StreamParm) : U64 :=
  let timeperframe := s.filled.timeperframe
  doDiv (timeperframe.numerator.setWidth 64 * usecPerSec) timeperframe.denominator

/-- `operating_rate` is the rate of the OUTPUT queue, `frame_rate` that of the CAPTURE queue. -/
def StreamInst.rate (inst : StreamInst) : Plane → U32
  | .output => inst.operatingRate
  | .capture => inst.frameRate

def StreamInst.setRate (inst : StreamInst) (type : Plane) (rate : U32) : StreamInst :=
  match type with
  | .output => { inst with operatingRate := rate }
  | .capture => { inst with frameRate := rate }

/-- The checks that follow the assignment. -/
def checkStreaming (streaming : Bool) (i : Nat) (core : StreamCore) : Int :=
  if !streaming then 0
  else if irisCheckCoreMbpf i core ≠ 0 then irisCheckCoreMbpf i core
  else irisCheckCoreMbps i core

/-- `do_div` takes the lower 32 bits of its divisor. Where they are zero it leaves zero, as a
division of arm64 does. -/
def irisVencSParam (streaming : Plane → Bool) (i : Nat) (s : StreamParm) (core : StreamCore) :
    Int × StreamCore :=
  let inst := core.inst i
  if s.usPerFrame = 0 then (-einval, core)
  else
    let fps := doDiv usecPerSec (s.usPerFrame.setWidth 32)
    let reset := core.setInst i (inst.setRate s.type defaultFps)
    if (core.platform.maxRate s.type).setWidth 64 < fps then (-enomem, reset)
    else
      let rated := core.setInst i (inst.setRate s.type (fps.setWidth 32))
      let ret := checkStreaming (streaming s.type) i rated
      if ret ≠ 0 then (ret, reset) else (0, rated)

def irisVencGParam (inst : StreamInst) (type : Plane) : StreamParm where
  type := type
  timeperframe := { numerator := 1, denominator := inst.rate type }
  capability := true

def irisSParm (streaming : Plane → Bool) (i : Nat) (s : StreamParm) (core : StreamCore) :
    Int × StreamCore :=
  if (core.inst i).domain = .encoder then irisVencSParam streaming i s core else (-einval, core)

/-! ### Runs -/

inductive ParmOp
  /-- `iris_venc_inst_init`; the formats and the session come with the instance. -/
  | openEncoder (i : Nat) (load : LoadInst)
  | sParm (streaming : Plane → Bool) (i : Nat) (s : StreamParm)
  /-- what else becomes of the formats and the session of an instance -/
  | change (i : Nat) (load : LoadInst)
  | close (i : Nat)

def StreamInst.encoder (load : LoadInst) : StreamInst where
  toLoadInst := { load with domain := .encoder }
  frameRate := defaultFps
  operatingRate := defaultFps
  hfiCoreId := 0

def applyParm (core : StreamCore) : ParmOp → StreamCore
  | .openEncoder i load =>
      if i ∈ core.instances then core
      else { core.setInst i (.encoder load) with instances := core.instances ++ [i] }
  | .sParm streaming i s => if i ∈ core.instances then (irisSParm streaming i s core).2 else core
  | .change i load =>
      core.setInst i
        { core.inst i with toLoadInst := { load with domain := (core.inst i).domain } }
  | .close i => { core with instances := core.instances.erase i }

/-- A core without instances. -/
def StreamCore.empty (platform : Platform) (inst : Nat → StreamInst) : StreamCore where
  platform := platform
  instances := []
  inst := inst

def parmsAfter (core : StreamCore) (ops : List ParmOp) : StreamCore := ops.foldl applyParm core

end VideoCores

end NabuIris
