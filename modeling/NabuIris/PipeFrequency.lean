import NabuIris.Admission
import NabuIris.Controls

/-!
# The clock rate of a stream on several pipes (`iris_vpu3x.c`)

The number of pipes and the stage are capabilities. `none` is a division by zero.
-/

namespace NabuIris.Controls

/-- `mb_cycles_vpp`, `mb_cycles_fw` and `mb_cycles_fw_vpp` of `inst_caps` -/
structure CycleCaps where
  vpp : U32
  fw : U32
  fwVpp : U32

def Platform.cycleCaps : Platform → CycleCaps
  | .sm8550 => ⟨200, 489583, 66234⟩
  | .qcs8300 => ⟨200, 326389, 44156⟩

/-- `mult_frac`, in the type of its first argument -/
def multFrac (x n d : U32) : Option U32 :=
  if d = 0 then none else some (x / d * n + x % d * n / d)

def irisVpu3xCalculateFrequency (caps : CycleCaps) (fwCaps : CapId → Cap) (inst : LoadInst)
    (dataSize : U64) : Option U64 := do
  let fps : U32 := 30
  let mbpf := irisGetMbpf inst
  let mbsPerSecond := mbpf * fps
  let fwCycles := (fps * caps.fw).setWidth 64
  let fwVppCycles := (fps * caps.fwVpp).setWidth 64
  let vppCycles ← multFrac mbsPerSecond caps.vpp (BitVec.ofInt 32 (fwCaps .pipe).value)
  let vppCycles := vppCycles.setWidth 64
  let overhead := vppCycles / 20
  let vppCycles := vppCycles + if overhead < fwVppCycles then fwVppCycles else overhead
  let vppCycles :=
    if 1 < (fwCaps .pipe).value then vppCycles + vppCycles * 59 / 1000 else vppCycles
  let vspCycles := fps.setWidth 64 * dataSize * 8
  let vspCycles := vspCycles / 2
  let vspCycles := vspCycles * 21 / 20
  -- `STAGE_1`
  let vspCycles := if (fwCaps .stage).value = 1 then vspCycles * 3 else vspCycles
  let cycles := if vppCycles < vspCycles then vspCycles else vppCycles
  some (if cycles < fwCycles then fwCycles else cycles)

end NabuIris.Controls
