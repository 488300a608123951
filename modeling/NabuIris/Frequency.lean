import NabuIris.Clocks
import NabuIris.FormatSizes

/-!
# The clock rate of a stream (`iris_vpu2.c`, `iris_power.c`)

What `calc_freq` makes of the resolution, the frame rate and the largest input of an instance. The
integers have the widths of the source: `u32` for the rates and the capabilities, 64 bits for
`unsigned long` and `size_t`.
-/

namespace NabuIris

def defaultFps : U32 := 30

def maximumFps : U32 := 480

namespace FormatSizes.Platform

/-- `inst_caps->mb_cycles_vsp`; the platforms of the second generation leave it out. -/
def mbCyclesVsp : Platform → U32
  | .sm8150 => 10
  | .sm8250 => 25
  | _ => 0

/-- `inst_caps->mb_cycles_vpp` -/
def mbCyclesVpp (_ : Platform) : U32 := 200

end FormatSizes.Platform

open FormatSizes (Platform)

structure RateInst extends LoadInst where
  frameRate : U32

def irisGetOperatingFps (inst : RateInst) : U32 :=
  if inst.frameRate = 0 then defaultFps else inst.frameRate

/-- Both products with a number of cycles have 32 bits, and are widened when they are assigned. -/
def irisVpu2CalcFreq (platform : Platform) (inst : RateInst) (dataSize : U64) : U64 :=
  let fps := irisGetOperatingFps inst
  let mbpf := irisGetMbpf inst.toLoadInst
  let mbsPerSecond := mbpf * fps
  let vppFreq := (mbsPerSecond * platform.mbCyclesVpp).setWidth 64
  let vppFreq := vppFreq + vppFreq / 20
  let vspFreq := (mbsPerSecond * platform.mbCyclesVsp).setWidth 64
  let vspFreq := vspFreq + fps.setWidth 64 * dataSize * 8 * 10 / 7
  if vspFreq < vppFreq then vppFreq else vspFreq

end NabuIris
