import NabuIris.Power

/-!
# Bring-up, teardown and power collapse (`iris_core.c`, `iris_firmware.c`, `iris_hfi_common.c`)

The sections of `iris_core_init` and `iris_core_deinit` that hold `core->lock` are functions of
their own, since other threads run between them and what follows.
-/

namespace NabuIris

open Lib

/-! ### Queues and firmware -/

/-- When the SFR buffer cannot be allocated the table is freed, but `iface_q_table_vaddr` keeps its
value. -/
def irisHfiQueuesInit (env : Env) (core : Core) : Int × Core :=
  if env .allocQueueTable ≠ 0 then (-enomem, { core with ifaceQTable := false })
  else if env .allocSfr ≠ 0 then (-enomem, { core with ifaceQTable := true })
  else (0, { core with ifaceQTable := true })

def irisHfiQueuesDeinit (core : Core) : Core :=
  if !core.ifaceQTable then core else { core with ifaceQTable := false }

def irisFwUnload (core : Core) : Core := { core with fwLoaded := false }

def irisFwLoad (env : Env) (core : Core) : Int × Core :=
  if env .loadFwToMemory ≠ 0 then (-enomem, core)
  else if env .memProtect ≠ 0 then (env .memProtect, irisFwUnload core)
  else (0, { core with fwLoaded := true })

/-! ### `iris_core.c` -/

def irisCoreDeinitSection (env : Env) (core : Core) : Core :=
  let core := irisFwUnload core
  let core := irisVpuPowerOff env core
  let core := irisHfiQueuesDeinit core
  { core with vpuSuspended := false, state := .deinit }

def irisCoreDeinit (env : Env) (core : Core) : Core :=
  if core.state = .deinit then core else irisCoreDeinitSection env core

/-- The locked section of `iris_core_init`: `some ret` when the function returns `ret` from it,
`none` when the firmware was booted and its answer to `SYS_INIT` is awaited next. -/
def irisCoreInitSection (env : Env) (core : Core) : Option Int × Core :=
  let error (ret : Int) (core : Core) : Option Int × Core :=
    (some ret, { core with state := .deinit })
  let errorQueueDeinit (ret : Int) (core : Core) : Option Int × Core :=
    error ret (irisHfiQueuesDeinit core)
  let errorPowerOff (ret : Int) (core : Core) : Option Int × Core :=
    errorQueueDeinit ret (irisVpuPowerOff env core)
  let errorUnloadFw (ret : Int) (core : Core) : Option Int × Core :=
    errorPowerOff ret (irisFwUnload core)
  if core.state = .init then (some 0, core)
  else if core.state = .error then error (-einval) core
  else
  orGoto (irisHfiQueuesInit env { core with state := .init }) error fun core =>
  orGoto (irisVpuPowerOn env core) errorQueueDeinit fun core =>
  orGoto (irisFwLoad env core) errorPowerOff fun core =>
  orGoto (if core.platformData.legacyVpu5 then env .hwStateResume else 0, core)
    errorUnloadFw fun core =>
  orGoto (env .bootFirmware, core) errorUnloadFw fun core =>
  orGoto (env .hfiCoreInit, core) errorUnloadFw fun core =>
  (none, core)

def irisWaitForSystemResponse (env : Env) (core : Core) : Int × Core :=
  if core.state = .error then (-eio, core)
  else if env .sysResponse ≠ 0 then (-etimedout, { core with state := .error })
  else (0, core)

def irisCoreInit (env : Env) (core : Core) : Int × Core :=
  match irisCoreInitSection env core with
  | (some ret, core) => (ret, core)
  | (none, core) => irisWaitForSystemResponse env core

def irisCoreRecover (deinitEnv initEnv : Env) (core : Core) : Int × Core :=
  irisCoreInit initEnv (irisCoreDeinit deinitEnv core)

/-! ### Power collapse and system sleep -/

def irisPcEnter (env : Env) (core : Core) : Int × Core :=
  if env .preparePc ≠ 0 then (env .preparePc, core)
  else if env .hwStateSuspend ≠ 0 then (env .hwStateSuspend, core)
  else (0, { irisVpuPowerOff env core with vpuSuspended := true })

/-- The part of `iris_pc_exit` and `iris_hfi_pm_resume` that powers the VPU up again. -/
def irisResumeFromCollapse (env : Env) (core : Core) : Int × Core :=
  let error (_ : Int) (core : Core) : Int × Core := (-ebusy, core)
  let errPowerOff (ret : Int) (core : Core) : Int × Core :=
    error ret (irisVpuPowerOff env core)
  orGoto (irisVpuPowerOn env core) error fun core =>
  orGoto (env .hwStateResume, core) errPowerOff fun core =>
  orGoto (env .bootFirmware, core) errPowerOff fun core =>
  orGoto (if core.platformData.legacyVpu5 then 0 else env .interframePowercollapse, core)
    errPowerOff fun core =>
  (0, { core with vpuSuspended := false })

def irisPcExit (env : Env) (core : Core) : Int × Core :=
  if !core.vpuSuspended then (0, core) else irisResumeFromCollapse env core

def irisPcResume (env : Env) (powerCollapse : Bool) (core : Core) : Int × Core :=
  if !core.platformData.legacyVpu5 || !powerCollapse then (0, core)
  else if core.vpuSuspended then irisPcExit env core
  else (0, core)

def irisPcHandler (env : Env) (core : Core) : Core :=
  if !core.vpuSuspended && core.instances == 0 then (irisPcEnter env core).2 else core

def irisHfiPmSuspend (env : Env) (core : Core) : Int × Core :=
  if core.instances ≠ 0 then (0, core)
  else if core.vpuSuspended then (0, core)
  else if env .preparePc ≠ 0 then
    if core.platformData.legacyVpu5 then (0, core) else (-eagain, core)
  else if env .hwStateSuspend ≠ 0 then (env .hwStateSuspend, core)
  else (0, { irisVpuPowerOff env core with vpuSuspended := true })

def irisHfiPmResume (env : Env) (core : Core) : Int × Core :=
  if !core.vpuSuspended then (0, core) else irisResumeFromCollapse env core

def irisPmSuspend (env : Env) (core : Core) : Int × Core :=
  if core.state ≠ .init then (0, core) else irisHfiPmSuspend env core

def irisPmResume (env : Env) (core : Core) : Int × Core :=
  if core.state ≠ .init then (0, core) else irisHfiPmResume env core

end NabuIris
