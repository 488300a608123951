import NabuIris.Frequency

/-!
# The two video cores (`iris_utils.c`, `iris_vb2.c`, `iris_common.c`, `iris_hfi_gen1_command.c`)

The checks that STREAMON makes of a core, the session it opens, and the video core that the firmware
decodes the session on. Each operation is one call, whose sections under `core->lock` are not
interrupted by another.
-/

namespace NabuIris

/-! ### Platforms -/

namespace FormatSizes.Platform

def numVppPipe : Platform → U32
  | .qcs8300 => 2
  | .sm8150 => 2
  | _ => 4

def maxCoreMbpf : Platform → U32
  | .qcs8300 => 4096 * 2176 / 256 * 4
  | .sm8150 => numMbs8K
  | .sm8250 => numMbs8K
  | _ => numMbs8K * 2

def maxCoreMbps : Platform → U32
  | .qcs8300 => 3840 * 2176 / 256 * 120
  | .sm8150 => 3840 * 2176 / 256 * 120
  | _ => 7680 * 4320 / 256 * 60

def limits (platform : Platform) : AdmissionLimits where
  caps := platform.instCaps
  maxSessionCount := 16
  maxCoreMbpf := platform.maxCoreMbpf
  maxCoreMbps := platform.maxCoreMbps
  legacyVpu5 := platform.legacyVpu5
  p010Supported := platform.irisVdecP010Supported

example : limits .sm8150 = sm8150Limits := rfl

end FormatSizes.Platform

namespace VideoCores

open FormatSizes (Platform)

/-! ### Instances -/

structure StreamInst extends RateInst where
  operatingRate : U32
  hfiCoreId : U32

structure StreamCore where
  platform : Platform
  /-- the list `instances` -/
  instances : List Nat
  inst : Nat → StreamInst

namespace StreamCore

def setInst (core : StreamCore) (i : Nat) (inst : StreamInst) : StreamCore :=
  { core with inst := Function.update core.inst i inst }

section

variable {core : StreamCore} {i : Nat} {inst : StreamInst}

theorem inst_setInst_self : (core.setInst i inst).inst i = inst := Function.update_self ..

theorem inst_setInst_of_ne {k : Nat} (hne : k ≠ i) : (core.setInst i inst).inst k = core.inst k :=
  Function.update_of_ne hne ..

/-- What holds of the new instance and of the others. -/
theorem setInst_rule {P : Nat → StreamInst → Prop} (hself : P i inst)
    (hother : ∀ k, k ≠ i → P k (core.inst k)) (k : Nat) : P k ((core.setInst i inst).inst k) := by
  by_cases hki : k = i
  · subst hki
    rw [inst_setInst_self]
    exact hself
  · rw [inst_setInst_of_ne hki]
    exact hother k hki

end

/-- What admission reads of a core. -/
def admission (core : StreamCore) : AdmissionCore where
  limits := core.platform.limits
  instances := core.instances
  inst k := (core.inst k).toLoadInst

end StreamCore

/-! ### Checks -/

/-- `max(frame_rate, operating_rate)` -/
def StreamInst.fps (inst : StreamInst) : U32 :=
  if inst.frameRate < inst.operatingRate then inst.operatingRate else inst.frameRate

/-- The loops of `iris_check_core_mbpf` and `iris_check_core_mbps`, over the instance and the others
with a session. -/
def totalOf (weight : StreamInst → U32) (i : Nat) (core : StreamCore) : U32 :=
  core.instances.foldl
    (fun total k =>
      if k ≠ i ∧ !(core.inst k).hfiSessionOpened then total else total + weight (core.inst k))
    0

def irisCheckCoreMbpf (i : Nat) (core : StreamCore) : Int :=
  if core.platform.maxCoreMbpf < totalOf (fun inst => irisGetMbpf inst.toLoadInst) i core then
    -enomem
  else 0

def irisCheckCoreMbps (i : Nat) (core : StreamCore) : Int :=
  if core.platform.maxCoreMbps <
      totalOf (fun inst => irisGetMbpf inst.toLoadInst * inst.fps) i core then
    -enomem
  else 0

def irisCheckInstMbpf (platform : Platform) (inst : LoadInst) : Int :=
  if platform.maxMbpf < irisGetMbpf inst then -enomem else 0

def irisCheckResolutionSupported (caps : InstCaps) (inst : LoadInst) : Int :=
  let src := inst.formats.src
  if ¬(caps.minFrameWidth ≤ src.width ∧ src.width ≤ caps.maxFrameWidth) ∨
      ¬(caps.minFrameHeight ≤ src.height ∧ src.height ≤ caps.maxFrameHeight) then
    -einval
  else 0

def irisCheckSessionSupported (i : Nat) (core : StreamCore) : Int :=
  if i ∉ core.instances then -einval
  else if irisCheckCoreMbpf i core ≠ 0 then irisCheckCoreMbpf i core
  else if irisCheckInstMbpf core.platform (core.inst i).toLoadInst ≠ 0 then
    irisCheckInstMbpf core.platform (core.inst i).toLoadInst
  else irisCheckResolutionSupported core.platform.instCaps (core.inst i).toLoadInst

/-! ### Sessions -/

/-- The label `release_slot` of `iris_hfi_session_open`, which clears what `iris_hfi_session_close`
clears. -/
def StreamInst.released (inst : StreamInst) : StreamInst :=
  { inst with toLoadInst := inst.toLoadInst.closed, hfiCoreId := 0 }

/-- `initRet` is what becomes of SESSION_INIT. -/
def irisHfiSessionOpen (i : Nat) (initRet : Int) (core : StreamCore) : Int × StreamCore :=
  if (core.inst i).hfiSessionOpened then (0, core)
  else
    let (ret, admission) := irisHfiSessionOpenSection i core.admission
    if ret ≠ 0 then (ret, core)
    else if initRet ≠ 0 then (initRet, core.setInst i (core.inst i).released)
    else (0, core.setInst i { core.inst i with toLoadInst := admission.inst i })

/-- `iris_vb2_start_streaming` up to the session, for either queue. -/
def irisVb2StartSession (i : Nat) (initRet : Int) (core : StreamCore) : Int × StreamCore :=
  let ret := irisCheckSessionSupported i core
  if ret ≠ 0 then (ret, core) else irisHfiSessionOpen i initRet core

/-! ### Video cores -/

def hfiCoreId1 : U32 := 1

def hfiCoreId2 : U32 := 2

def StreamInst.onCore (inst : StreamInst) (mask : U32) : StreamInst :=
  { inst with hfiCoreId := mask }

/-- The rate that `iris_hfi_gen1_decide_core` weighs a session with. A session is at `MAXIMUM_FPS`
until its first window is measured. -/
def StreamInst.coreFps (inst : StreamInst) : U32 :=
  let fps := if inst.fps = maximumFps then defaultFps else inst.fps
  if fps < 1 then 1 else fps

/-- `core1_load` and `core2_load` -/
def coreLoads (i : Nat) (core : StreamCore) : U64 × U64 :=
  core.instances.foldl
    (fun loads k =>
      let inst := core.inst k
      if k = i ∨ !inst.hfiSessionOpened ∨ inst.domain ≠ .decoder then loads
      else
        let load := (irisGetMbpf inst.toLoadInst).signExtend 64 * inst.coreFps.zeroExtend 64
        if inst.hfiCoreId = hfiCoreId1 then (loads.1 + load, loads.2)
        else if inst.hfiCoreId = hfiCoreId2 then (loads.1, loads.2 + load)
        else loads)
    (0, 0)

/-- The first section of `iris_hfi_gen1_decide_core`. -/
def assignCore (i : Nat) (core : StreamCore) : StreamCore :=
  let inst := core.inst i
  if inst.hfiCoreId ≠ 0 then core
  else
    let loads := coreLoads i core
    let second := core.platform.legacyVpu5 ∧ 1 < core.platform.numVppPipe ∧ loads.2 < loads.1
    core.setInst i (inst.onCore (if second then hfiCoreId2 else hfiCoreId1))

/-- The second section, after a failed command. -/
def unassignCore (i : Nat) (mask : U32) (core : StreamCore) : StreamCore :=
  let inst := core.inst i
  if inst.hfiCoreId = mask then core.setInst i (inst.onCore 0) else core

/-- `setRet` is what `hfi_gen1_set_property` returns. -/
def irisHfiGen1DecideCore (i : Nat) (setRet : Int) (core : StreamCore) : Int × StreamCore :=
  let newAssignment := (core.inst i).hfiCoreId = 0
  let assigned := assignCore i core
  let mask := (assigned.inst i).hfiCoreId
  if setRet ≠ 0 ∧ newAssignment then (setRet, unassignCore i mask assigned) else (setRet, assigned)

/-! ### Runs -/

inductive StreamOnOp
  /-- STREAMON of a queue, up to its commands -/
  | start (i : Nat) (initRet : Int)
  | decideCore (i : Nat) (setRet : Int)

/-- A command is sent for a decoder with a session. -/
def StreamCore.apply (core : StreamCore) : StreamOnOp → StreamCore
  | .start i initRet => (irisVb2StartSession i initRet core).2
  | .decideCore i setRet =>
      if i ∈ core.instances ∧ (core.inst i).hfiSessionOpened ∧ (core.inst i).domain = .decoder then
        (irisHfiGen1DecideCore i setRet core).2
      else core

def StreamCore.run (core : StreamCore) (ops : List StreamOnOp) : StreamCore :=
  ops.foldl StreamCore.apply core

end VideoCores

end NabuIris
