import NabuIris.Frequency
import NabuIris.Lib.Hysteresis

/-!
# The input rate of a decoder (`iris_vdec.c`)

What QBUF measures of the input queue, and the frame rate it votes for. `windows` is not in the
driver: it lists the windows closed since the input queue was last started, the latest first.
-/

namespace NabuIris

open Lib

def nsecPerSec : U64 := 1000000000

structure InputRate where
  inputTimestampValid : Bool
  lastInputTimestamp : U64
  lastBufNs : U64
  rateMinTimestamp : U64
  rateMaxTimestamp : U64
  frameCounter : U32
  frameRate : U32
  frameRateDownCount : U32
deriving DecidableEq, Repr

/-- `clamp_t(u32, val, lo, hi)` -/
def clampU32 (val lo hi : U32) : U32 :=
  let raised := if val < lo then lo else val
  if hi < raised then hi else raised

/-- `div64_u64(n + d - 1, d)`, assigned to a `u32` -/
def divRoundUp64 (n d : U64) : U32 := ((n + d - 1) / d).setWidth 32

/-- `do_div`, whose divisor has 32 bits -/
def doDiv (n : U64) (base : U32) : U64 := n / base.setWidth 64

def divRoundUpUll (n d : U64) : U64 := doDiv (n + d - 1) (d.setWidth 32)

def iris1Max4KMbpf : U32 := numMbsPerFrame 2176 4096

namespace InputRate

/-- `iris_vdec_inst_init`, behind `kzalloc` -/
def irisVdecInstInit : InputRate where
  inputTimestampValid := false
  lastInputTimestamp := 0
  lastBufNs := 0
  rateMinTimestamp := 0
  rateMaxTimestamp := 0
  frameCounter := 0
  frameRate := maximumFps
  frameRateDownCount := 0

def irisVdecResetRateWindow (inst : InputRate) : InputRate :=
  { inst with
    lastBufNs := 0
    rateMinTimestamp := 0
    rateMaxTimestamp := 0
    frameCounter := 0 }

/-- The window starts over when the properties and the buffers of the queue are `prepared`; a start
that fails on the way leaves it open. -/
def irisVdecStreamonInput (prepared : Bool) (inst : InputRate) : InputRate :=
  let inst :=
    { inst with
      inputTimestampValid := false
      frameRate := maximumFps
      frameRateDownCount := 0 }
  if prepared then irisVdecResetRateWindow inst else inst

def irisVdecTrackInputTimestamp (legacyVpu5 : Bool) (timestamp : U64) (inst : InputRate) :
    InputRate :=
  if !legacyVpu5 then inst
  else
    let delta :=
      if inst.lastInputTimestamp < timestamp then timestamp - inst.lastInputTimestamp
      else inst.lastInputTimestamp - timestamp
    let inst :=
      if inst.inputTimestampValid && nsecPerSec < delta then irisVdecResetRateWindow inst else inst
    { inst with lastInputTimestamp := timestamp, inputTimestampValid := true }

/-- The frame that opens a window or widens its span. -/
def countFrame (curBufNs timestamp : U64) (inst : InputRate) : InputRate :=
  let inst :=
    if inst.frameCounter = 0 then
      { inst with
        lastBufNs := curBufNs
        rateMinTimestamp := timestamp
        rateMaxTimestamp := timestamp }
    else
      { inst with
        rateMinTimestamp :=
          if timestamp < inst.rateMinTimestamp then timestamp else inst.rateMinTimestamp
        rateMaxTimestamp :=
          if inst.rateMaxTimestamp < timestamp then timestamp else inst.rateMaxTimestamp }
  { inst with frameCounter := inst.frameCounter + 1 }

/-- `frame_counter - 1` intervals, in nanoseconds -/
def intervals (inst : InputRate) : U64 := (inst.frameCounter - 1).setWidth 64 * nsecPerSec

def timestampDeltaNs (inst : InputRate) : U64 := inst.rateMaxTimestamp - inst.rateMinTimestamp

/-- Only the legacy platform measures the timestamps. -/
def takesTimestamps (legacyVpu5 : Bool) (inst : InputRate) : Bool :=
  legacyVpu5 && inst.timestampDeltaNs != 0 && 1 < inst.frameCounter

/-- `measured_fps` of a window that has lasted for `deltaNs` -/
def measuredFps (legacyVpu5 : Bool) (deltaNs : U64) (inst : InputRate) : U32 :=
  let qbufFps := divRoundUp64 inst.intervals deltaNs
  let timestampFps :=
    if inst.takesTimestamps legacyVpu5 then divRoundUp64 inst.intervals inst.timestampDeltaNs else 0
  let measuredFps := if qbufFps < timestampFps then timestampFps else qbufFps
  clampU32 measuredFps 1 maximumFps

def irisVdecGetAdmissionFps (load : LoadInst) (inst : InputRate) : U32 :=
  if 1 < inst.frameCounter ∧ inst.rateMinTimestamp < inst.rateMaxTimestamp then
    clampU32 ((divRoundUpUll inst.intervals inst.timestampDeltaNs).setWidth 32) 1 maximumFps
  else if iris1Max4KMbpf.slt (irisGetMbpf load) then 30
  else 60

/-- `target_fps` of a window that has lasted for `deltaNs` -/
def targetFps (legacyVpu5 : Bool) (deltaNs : U64) (inst : InputRate) : U32 :=
  let measuredFps := inst.measuredFps legacyVpu5 deltaNs
  clampU32 ((measuredFps * 11 + 10 - 1) / 10) defaultFps maximumFps

def vote (targetFps : U32) (inst : InputRate) : InputRate :=
  if inst.frameRate = maximumFps ∨ inst.frameRate ≤ targetFps then
    { inst with frameRate := targetFps, frameRateDownCount := 0 }
  else
    let inst := { inst with frameRateDownCount := inst.frameRateDownCount + 1 }
    if 3 ≤ inst.frameRateDownCount then
      { inst with frameRate := targetFps, frameRateDownCount := 0 }
    else inst

/-- `iris_vdec_qbuf` of an input, with the target of the window that it closes. A deferred buffer is
not measured. -/
def irisVdecQbuf (legacyVpu5 streaming : Bool) (curBufNs timestamp : U64) (inst : InputRate) :
    InputRate × Option U32 :=
  if !streaming then (inst, none)
  else
    let inst := irisVdecTrackInputTimestamp legacyVpu5 timestamp inst
    let inst := countFrame curBufNs timestamp inst
    let deltaNs := curBufNs - inst.lastBufNs
    if deltaNs < nsecPerSec then (inst, none)
    else
      let target := targetFps legacyVpu5 deltaNs inst
      (irisVdecResetRateWindow (vote target inst), some target)

end InputRate

/-! ### Runs -/

inductive RateOp
  | streamonInput (prepared : Bool)
  | qbuf (streaming : Bool) (curBufNs timestamp : U64)
deriving DecidableEq, Repr

structure RateRun where
  inst : InputRate
  windows : List (Hysteresis.Window Nat)

namespace RateRun

def opened : RateRun where
  inst := .irisVdecInstInit
  windows := []

def apply (legacyVpu5 : Bool) (s : RateRun) : RateOp → RateRun
  | .streamonInput prepared => { inst := s.inst.irisVdecStreamonInput prepared, windows := [] }
  | .qbuf streaming curBufNs timestamp =>
      let (inst, target) := s.inst.irisVdecQbuf legacyVpu5 streaming curBufNs timestamp
      match target with
      | none => { s with inst }
      | some target =>
          { inst
            windows :=
              ⟨s.inst.frameRate.toNat, target.toNat, inst.frameRate.toNat⟩ :: s.windows }

end RateRun

/-! ### Measurement windows -/

structure MeasuredFrame where
  curBufNs : U64
  timestamp : U64
deriving DecidableEq, Repr

/-- A window as it closes: its frames, the latest first, and what they are measured with. -/
structure ClosedWindow where
  frames : List MeasuredFrame
  inst : InputRate
  deltaNs : U64
deriving DecidableEq, Repr

/-- A run with its windows. `frames` lists the frames since `frame_counter` was 0, the latest
first. -/
structure MeasureRun where
  inst : InputRate
  frames : List MeasuredFrame
  closed : List ClosedWindow
deriving DecidableEq, Repr

namespace MeasureRun

def opened : MeasureRun where
  inst := .irisVdecInstInit
  frames := []
  closed := []

/-- A frame behind a jump of the timestamps starts over. -/
def framesWith (legacyVpu5 : Bool) (curBufNs timestamp : U64) (s : MeasureRun) :
    List MeasuredFrame :=
  ⟨curBufNs, timestamp⟩ ::
    if (s.inst.irisVdecTrackInputTimestamp legacyVpu5 timestamp).frameCounter = 0 then []
    else s.frames

def apply (legacyVpu5 : Bool) (s : MeasureRun) : RateOp → MeasureRun
  | .streamonInput prepared =>
      { s with
        inst := s.inst.irisVdecStreamonInput prepared
        frames := if prepared then [] else s.frames }
  | .qbuf streaming curBufNs timestamp =>
      if !streaming then s
      else
        let counted := (s.inst.irisVdecTrackInputTimestamp legacyVpu5 timestamp).countFrame
          curBufNs timestamp
        let frames := s.framesWith legacyVpu5 curBufNs timestamp
        let (inst, target) := s.inst.irisVdecQbuf legacyVpu5 streaming curBufNs timestamp
        match target with
        | none => { s with inst, frames := if inst.frameCounter = 0 then [] else frames }
        | some _ =>
            { inst
              frames := []
              closed := ⟨frames, counted, curBufNs - counted.lastBufNs⟩ :: s.closed }

end MeasureRun

end NabuIris
