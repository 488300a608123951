import NabuIris.Instance
import NabuIris.Lifecycle

/-!
# Opening a device node (`iris_vidc.c`)

`iris_open` run from start to end, with the calls that initialise the core recorded.
-/

namespace NabuIris

inductive OpenCall
  | coreInit
  | coreRecover
deriving DecidableEq, Repr

/-- The module parameters, the device node and what the calls of `iris_open` return. -/
structure OpenEnv where
  allowFwBoot : Bool
  vdevName : String
  pmGet : Int
  powerCollapse : Bool
  pcResume : Env
  /-- teardown and bring-up of the restart after a failed resume -/
  restartDeinit : Env
  restartInit : Env
  coreInit : Env
  recoverDeinit : Env
  recoverInit : Env
  getInstance : Bool
  m2mInit : Bool
  m2mCtxInit : Bool
  instInit : Int

structure OpenResult where
  ret : Int
  core : Core
  calls : List OpenCall
  /-- the instance handed out -/
  inst : Option Domain
  /-- the runtime PM reference is kept -/
  pmHeld : Bool

def OpenResult.fail (ret : Int) (core : Core) (calls : List OpenCall) : OpenResult where
  ret := ret
  core := core
  calls := calls
  inst := none
  pmHeld := false

def sessionType (vdevName : String) : Option Domain :=
  if vdevName = "qcom-iris-decoder" then some .decoder
  else if vdevName = "qcom-iris-encoder" then some .encoder
  else none

def irisAddSession (core : Core) : Core := { core with instances := core.instances + 1 }

/-- `iris_open` from `get_instance` on. -/
def irisOpenInstance (env : OpenEnv) (domain : Domain) (core : Core) (calls : List OpenCall) :
    OpenResult :=
  if !env.getInstance then .fail (-enomem) core calls
  else if !env.m2mInit then .fail (-einval) core calls
  else if !env.m2mCtxInit then .fail (-einval) core calls
  else if env.instInit ≠ 0 then .fail env.instInit core calls
  else
    { ret := 0, core := irisAddSession core, calls := calls, inst := some domain, pmHeld := true }

/-- The restart of a core that does not come back from its power collapse; its result only ends up
in the log. -/
def irisOpenResume (env : OpenEnv) (core : Core) : Core × List OpenCall :=
  let resume := irisPcResume env.pcResume env.powerCollapse core
  if resume.1 ≠ 0 then
    ((irisCoreRecover env.restartDeinit env.restartInit
      { resume.2 with recoveryPending := false }).2, [.coreRecover])
  else
    (resume.2, [])

def irisOpenCoreInit (env : OpenEnv) (core : Core) (calls : List OpenCall) :
    (Int × Core) × List OpenCall :=
  let init := irisCoreInit env.coreInit core
  if init.1 ≠ 0 ∧ init.2.state = .error then
    (irisCoreRecover env.recoverDeinit env.recoverInit { init.2 with recoveryPending := false },
      calls ++ [.coreInit, .coreRecover])
  else
    (init, calls ++ [.coreInit])

def irisOpen (env : OpenEnv) (core : Core) : OpenResult :=
  if !env.allowFwBoot then .fail (-eacces) core []
  else
    match sessionType env.vdevName with
    | none => .fail (-einval) core []
    | some domain =>
        if env.pmGet < 0 then .fail env.pmGet core []
        else
          let resume := irisOpenResume env core
          let init := irisOpenCoreInit env resume.1 resume.2
          if init.1.1 ≠ 0 then .fail init.1.1 init.1.2 init.2
          else irisOpenInstance env domain init.1.2 init.2

end NabuIris
