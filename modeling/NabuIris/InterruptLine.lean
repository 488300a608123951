import NabuIris.Power

/-!
# The interrupt line (`iris_hfi_common.c`, `iris_vpu_common.c`, `iris_probe.c`)

`iris_probe` leaves the line disabled. A power-on enables it, a power-off disables it, and so does
the hard handler until the threaded one is through; a watchdog interrupt stays disabled for the
power-off that it brings about. Hard handler, threaded handler and the holders of `core->lock` run
in any order.
-/

namespace NabuIris

/-- Where `iris_hfi_isr_handler` stands. -/
inductive IrqThread
  | idle
  /-- about to take `core->lock` -/
  | entered
  /-- past `iris_vpu_clear_interrupt` -/
  | cleared
  /-- `iris_vpu_watchdog` returned zero -/
  | enabling
deriving DecidableEq, Repr

structure InterruptLine where
  core : Core
  /-- `disable_irq` calls that no `enable_irq` has taken back -/
  depth : Nat
  /-- `enable_irq` calls that found the line enabled -/
  unbalanced : Nat
  /-- the thread has been woken and has not started -/
  woken : Bool
  thread : IrqThread

/-- `mask` of `iris_vpu_clear_interrupt` -/
def interruptMask (legacyVpu5 : Bool) : UInt32 :=
  0x4 ||| 0x40000000 ||| if legacyVpu5 then 0x10 else 0x8

/-- `status` is what the status register reads. -/
def irisVpuClearInterrupt (status : UInt32) (core : Core) : Core :=
  if status &&& interruptMask core.platformData.legacyVpu5 ≠ 0 then
    { core with intrStatus := core.intrStatus ||| status }
  else core

/-- `iris_vpu_watchdog(core, core->intr_status)` -/
def Core.watchdog (core : Core) : Bool :=
  irisVpuWatchdog core.platformData.legacyVpu5 core.intrStatus

namespace InterruptLine

def enableIrq (line : InterruptLine) : InterruptLine :=
  if line.depth = 0 then { line with unbalanced := line.unbalanced + 1 }
  else { line with depth := line.depth - 1 }

def disableIrqNosync (line : InterruptLine) : InterruptLine :=
  { line with depth := line.depth + 1 }

/-- A handler has disabled the line and the thread is not through. -/
def underway (line : InterruptLine) : Bool := line.woken || line.thread != .idle

/-- The line as `iris_probe` leaves it. -/
def probed (core : Core) : InterruptLine where
  core := core
  depth := 1
  unbalanced := 0
  woken := false
  thread := .idle

/-! ### Power -/

def powerOn (env : Env) (line : InterruptLine) : InterruptLine :=
  let on := irisVpuPowerOn env line.core
  let line := { line with core := on.2 }
  if on.1 = 0 then line.enableIrq else line

def powerOff (env : Env) (line : InterruptLine) : InterruptLine :=
  if !line.core.vpuPowered then line
  else
    let line := { line with core := irisVpuPowerOff env line.core }
    if line.core.watchdog then line else line.disableIrqNosync

/-! ### The two handlers -/

/-- The legacy core signals a level, which is cleared at once. -/
def irisHfiIsr (status : UInt32) (line : InterruptLine) : InterruptLine :=
  let line := line.disableIrqNosync
  let core :=
    if line.core.platformData.legacyVpu5 then irisVpuClearInterrupt status line.core else line.core
  { line with core := core, woken := true }

/-- The section of `iris_hfi_isr_handler` under `core->lock`. -/
def isrClear (status : UInt32) (line : InterruptLine) : InterruptLine :=
  let core :=
    if line.core.platformData.legacyVpu5 then line.core else irisVpuClearInterrupt status line.core
  { line with core := core, thread := .cleared }

/-- What `iris_hfi_isr_handler` asks once the messages are handled. -/
def isrCheck (line : InterruptLine) : InterruptLine :=
  { line with thread := if line.core.watchdog then .idle else .enabling }

end InterruptLine

/-- A change of the core that power control takes no part in. -/
structure CoreChange where
  change : Core → Core
  platformData : ∀ core, (change core).platformData = core.platformData
  vpuPowered : ∀ core, (change core).vpuPowered = core.vpuPowered
  intrStatus : ∀ core, (change core).intrStatus = core.intrStatus

inductive LineOp
  | powerOn (env : Env)
  | powerOff (env : Env)
  | other (section_ : CoreChange)
  /-- the device raises its line -/
  | interrupt (status : UInt32)
  | threadStart
  | threadClear (status : UInt32)
  | threadCheck
  | threadEnable

namespace InterruptLine

/-- A disabled line raises no interrupt, and a step of the thread runs where the thread stands. -/
def apply (line : InterruptLine) : LineOp → InterruptLine
  | .powerOn env => line.powerOn env
  | .powerOff env => line.powerOff env
  | .other section_ => { line with core := section_.change line.core }
  | .interrupt status => if line.depth = 0 then line.irisHfiIsr status else line
  | .threadStart =>
      if line.woken ∧ line.thread = .idle then { line with woken := false, thread := .entered }
      else line
  | .threadClear status => if line.thread = .entered then line.isrClear status else line
  | .threadCheck => if line.thread = .cleared then line.isrCheck else line
  | .threadEnable =>
      if line.thread = .enabling then { line with thread := .idle }.enableIrq else line

def after (line : InterruptLine) (ops : List LineOp) : InterruptLine := ops.foldl apply line

end InterruptLine

end NabuIris
