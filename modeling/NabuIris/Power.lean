import NabuIris.Core

/-!
# Power control (`iris_resources.c`, `iris_vpu_common.c`, `iris_vpu3x.c`)

Every call that leaves the driver has a name, `ExtCall`, and an environment gives its return value.
The driver's functions are functions of the environment and the core. An error label is a local
function that undoes one step and continues with the label below it.
-/

namespace NabuIris

open Lib

/-- The calls whose result bring-up, teardown and power collapse read. -/
inductive ExtCall
  | setIccBw
  | ctrlOpp
  | ctrlGet
  | resetAssert (i : Nat)
  | resetDeassert (i : Nat)
  | bulkReset
  | clkEnable (clkType : ClkType)
  | hwOpp
  | hwGet
  | auxGet
  | vcodecSwControl
  | vcodecHwControl
  | genpdHwmode
  | oppRate
  | ctrlDisableOpp
  | hwDisableOpp
  | cpuNocPoll
  | debugBridgePoll
  | aonSparePoll
  | allocQueueTable
  | allocSfr
  | loadFwToMemory
  | memProtect
  | hwStateResume
  | hwStateSuspend
  | bootFirmware
  | hfiCoreInit
  | sysResponse
  | preparePc
  | interframePowercollapse
deriving DecidableEq, Repr

abbrev Env := ExtCall → Int

/-- Every call succeeds. -/
def okEnv : Env := fun _ => 0

/-- The interconnect vote fails. -/
def noIccEnv : Env := fun call => if call = .setIccBw then -eio else 0

/-! ### `iris_resources.c` -/

def pmRuntimePutSync (domain : PowerDomain) (core : Core) : Core := core.release (.domain domain)

/-- `pm_runtime_get_sync` counts the reference also when resuming fails. -/
def pmRuntimeGetSync (ret : Int) (domain : PowerDomain) (core : Core) : Int × Core :=
  (ret, core.acquire (.domain domain))

def pmRuntimeResumeAndGet (ret : Int) (domain : PowerDomain) (core : Core) : Int × Core :=
  if ret < 0 then (ret, core) else (0, core.acquire (.domain domain))

def irisEnablePowerDomains (opp get : Int) (domain : PowerDomain) (core : Core) : Int × Core :=
  if opp ≠ 0 then (opp, core) else pmRuntimeGetSync get domain core

def irisDisablePowerDomains (opp : Int) (domain : PowerDomain) (core : Core) : Core :=
  if opp ≠ 0 then core else pmRuntimePutSync domain core

def irisGetClkByType (core : Core) (clkType : ClkType) : Option Clk :=
  (core.platformData.clkTbl.find? fun entry =>
    entry.1 = clkType && core.clockTbl.contains entry.2).map Prod.snd

def irisPrepareEnableClock (env : Env) (clkType : ClkType) (core : Core) : Int × Core :=
  match irisGetClkByType core clkType with
  | none => (-einval, core)
  | some clk =>
      if env (.clkEnable clkType) ≠ 0 then (env (.clkEnable clkType), core)
      else (0, core.acquire (.clk clk))

def irisDisableUnprepareClock (clkType : ClkType) (core : Core) : Core :=
  match irisGetClkByType core clkType with
  | none => core
  | some clk => core.release (.clk clk)

/-! ### Power-off -/

def irisVpuWatchdog (legacyVpu5 : Bool) (intrStatus : UInt32) : Bool :=
  intrStatus &&& (if legacyVpu5 then 0x10 else 0x8) ≠ 0

def irisVpuPowerOffController (env : Env) (core : Core) : Core :=
  let pd := core.platformData
  if pd.legacyVpu5 then
    let core := irisDisableUnprepareClock .ctrl core
    let core := irisDisableUnprepareClock .axi core
    let core := if pd.deferVcodecPower then irisDisableUnprepareClock .bus core else core
    pmRuntimePutSync .ctrl core
  else
    -- the register handshakes before `disable_power` only choose how soon it is reached
    let core := irisDisableUnprepareClock .ctrl core
    let core := irisDisableUnprepareClock .axi core
    let core := if pd.deferVcodecPower then irisDisableUnprepareClock .bus core else core
    irisDisablePowerDomains (env .ctrlDisableOpp) .ctrl core

/-- Unlike `iris_vpu_power_off_controller`, a failed handshake jumps past the disabling of the
controller clock. -/
def irisVpu33PowerOffController (env : Env) (core : Core) : Core :=
  let disablePower (core : Core) : Core :=
    irisDisableUnprepareClock .axi (irisDisablePowerDomains (env .ctrlDisableOpp) .ctrl core)
  if env .cpuNocPoll ≠ 0 then disablePower core
  else if env .debugBridgePoll ≠ 0 then disablePower core
  else if env .aonSparePoll ≠ 0 then disablePower core
  else disablePower (irisDisableUnprepareClock .ctrl core)

/-- `aux_pd_dev` is not `NULL` -/
def PlatformData.auxPdDev (pd : PlatformData) : Bool :=
  pd.deferVcodecPower && decide (2 < pd.pmdomainTblSize)

/-- Also what `iris_vpu3_power_off_hardware` and `iris_vpu33_power_off_hardware` end in, whatever
their register handshakes return. -/
def irisVpuPowerOffHw (env : Env) (core : Core) : Core :=
  let pd := core.platformData
  let core :=
    if pd.useVcodecHwControl && !pd.deferVcodecPower then
      irisDisableUnprepareClock .hw core
    else if pd.deferVcodecPower then
      let core := if pd.auxPdDev then irisDisableUnprepareClock .auxHw core else core
      let core := irisDisableUnprepareClock .hw core
      let core := if pd.auxPdDev then irisDisableUnprepareClock .auxHwAxi core else core
      irisDisableUnprepareClock .hwAxi core
    else
      irisDisableUnprepareClock .hw core
  if pd.deferVcodecPower then
    let core := if pd.auxPdDev then pmRuntimePutSync .auxHw core else core
    pmRuntimePutSync .hw core
  else
    irisDisablePowerDomains (env .hwDisableOpp) .hw core

def VpuOps.powerOffController (ops : VpuOps) (env : Env) (core : Core) : Core :=
  match ops with
  | .vpu2 => irisVpuPowerOffController env core
  | .vpu3 => irisVpuPowerOffController env core
  | .vpu33 => irisVpu33PowerOffController env core

def irisVpuPowerOff (env : Env) (core : Core) : Core :=
  if !core.vpuPowered then
    core
  else
    let core := { core with vpuPowered := false }
    let core :=
      if core.llccActive then { core with llccActive := false, syscacheSet := false } else core
    let core := irisVpuPowerOffHw env core
    let core := core.platformData.vpuOps.powerOffController env core
    if irisVpuWatchdog core.platformData.legacyVpu5 core.intrStatus then core
    else core.release .irq

/-! ### Power-on -/

/-- The assert and deassert of each reset line, up to the first failure. -/
def resetControls (env : Env) : List Nat → Int
  | [] => 0
  | i :: lines =>
      if env (.resetAssert i) ≠ 0 then env (.resetAssert i)
      else if env (.resetDeassert i) ≠ 0 then env (.resetDeassert i)
      else resetControls env lines

def irisVpuPowerOnController (env : Env) (core : Core) : Int × Core :=
  let pd := core.platformData
  let errDisablePower (ret : Int) (core : Core) : Int × Core :=
    (ret, if pd.deferVcodecPower then pmRuntimePutSync .ctrl core
      else irisDisablePowerDomains (env .ctrlDisableOpp) .ctrl core)
  let errDisableBusClock (ret : Int) (core : Core) : Int × Core :=
    errDisablePower ret
      (if pd.deferVcodecPower then irisDisableUnprepareClock .bus core else core)
  let errDisableClock (ret : Int) (core : Core) : Int × Core :=
    errDisableBusClock ret (irisDisableUnprepareClock .axi core)
  let get :=
    if pd.deferVcodecPower then pmRuntimeGetSync (env .ctrlGet) .ctrl core
    else irisEnablePowerDomains (env .ctrlOpp) (env .ctrlGet) .ctrl core
  if get.1 < 0 then get else
  let reset :=
    if pd.deferVcodecPower then resetControls env (List.range pd.clkRstTblSize)
    else env .bulkReset
  orGoto (reset, get.2) errDisablePower fun core =>
  orGoto (if pd.deferVcodecPower then irisPrepareEnableClock env .bus core else (0, core))
    errDisablePower fun core =>
  orGoto (irisPrepareEnableClock env .axi core) errDisableBusClock fun core =>
  orGoto (irisPrepareEnableClock env .ctrl core) errDisableClock fun core =>
  (0, core)

def irisVpuPowerOnHw (env : Env) (core : Core) : Int × Core :=
  let pd := core.platformData
  let swControl := pd.useVcodecHwControl && !pd.deferVcodecPower
  let errDisablePower (ret : Int) (core : Core) : Int × Core :=
    (ret, if pd.deferVcodecPower then pmRuntimePutSync .hw core
      else irisDisablePowerDomains (env .hwDisableOpp) .hw core)
  let errDisableAuxPower (ret : Int) (core : Core) : Int × Core :=
    errDisablePower ret (if pd.auxPdDev then pmRuntimePutSync .auxHw core else core)
  let errDisableHwAxiClock (ret : Int) (core : Core) : Int × Core :=
    errDisableAuxPower ret
      (if pd.deferVcodecPower then irisDisableUnprepareClock .hwAxi core else core)
  let errDisableAuxHwAxiClock (ret : Int) (core : Core) : Int × Core :=
    errDisableHwAxiClock ret
      (if pd.deferVcodecPower then irisDisableUnprepareClock .auxHwAxi core else core)
  let errDisableClock (ret : Int) (core : Core) : Int × Core :=
    errDisableAuxHwAxiClock ret (irisDisableUnprepareClock .hw
      (if pd.auxPdDev then irisDisableUnprepareClock .auxHw core else core))
  orGoto
    (if pd.deferVcodecPower then pmRuntimeResumeAndGet (env .hwGet) .hw core
      else irisEnablePowerDomains (env .hwOpp) (env .hwGet) .hw core)
    Prod.mk fun core =>
  orGoto (if pd.auxPdDev then pmRuntimeResumeAndGet (env .auxGet) .auxHw core else (0, core))
    errDisablePower fun core =>
  orGoto (if pd.deferVcodecPower then irisPrepareEnableClock env .hwAxi core else (0, core))
    errDisableAuxPower fun core =>
  orGoto (if pd.deferVcodecPower then irisPrepareEnableClock env .auxHwAxi core else (0, core))
    errDisableHwAxiClock fun core =>
  orGoto (if swControl then env .vcodecSwControl else 0, core) errDisableAuxHwAxiClock fun core =>
  orGoto (irisPrepareEnableClock env .hw core) errDisableAuxHwAxiClock fun core =>
  orGoto (if pd.auxPdDev then irisPrepareEnableClock env .auxHw core else (0, core))
    errDisableClock fun core =>
  orGoto
    (if swControl then env .vcodecHwControl
      else if pd.deferVcodecPower then 0
      else env .genpdHwmode, core)
    errDisableClock fun core =>
  (0, core)

def irisVpuPowerOn (env : Env) (core : Core) : Int × Core :=
  let core := { core with vpuPowered := true }
  let pd := core.platformData
  let errPowerOffCtrl (ret : Int) (core : Core) : Int × Core :=
    (ret, irisVpuPowerOffController env core)
  orGoto (env .setIccBw, core) Prod.mk fun core =>
  orGoto (irisVpuPowerOnController env core) Prod.mk fun core =>
  orGoto (if pd.deferVcodecPower then (0, core) else irisVpuPowerOnHw env core)
    errPowerOffCtrl fun core =>
  orGoto (env .oppRate, core) errPowerOffCtrl fun core =>
  orGoto (if pd.deferVcodecPower then irisVpuPowerOnHw env core else (0, core))
    errPowerOffCtrl fun core =>
  (0, { core with intrStatus := 0 }.acquire .irq)

end NabuIris
