import NabuIris.Lib.Threads
import NabuIris.Open

/-!
# References to the device (`iris_core.c`, `iris_hfi_queue.c`, `iris_vidc.c`)

The functions that resume the device and let it go again, as programs of any number of threads: one
section for each runtime PM call, for each stretch that holds `core->lock`, and for each access to
`core->state` outside it. Every put drops one reference, however it suspends the device.
-/

namespace NabuIris

open Lib

structure PmCore where
  core : Core
  /-- `power.usage_count` of the device -/
  usageCount : Nat
  /-- files that `iris_open` has handed out and that are not being closed -/
  files : Nat

/-- The sections of a program. -/
inductive PmSection
  /-- what the core becomes under `core->lock`, or by an access outside it -/
  | core (change : Core → Core)
  /-- a `pm_runtime_resume_and_get` that returns `ret` -/
  | resume (ret : Int)
  /-- a put; `ret` is what the resume before it returned -/
  | put (ret : Int)
  /-- `iris_open` hands a file out with its session -/
  | handOut
  /-- a file is released -/
  | release

/-- A resume takes a reference only when it succeeds. A put that finds no reference leaves the count
at zero: `rpm_drop_usage_count` takes the decrement back. -/
def PmSection.effect : PmSection → PmCore → PmCore
  | .core change, s => { s with core := change s.core }
  | .resume ret, s => if ret < 0 then s else { s with usageCount := s.usageCount + 1 }
  | .put _, s => { s with usageCount := s.usageCount - 1 }
  | .handOut, s => { s with core := irisAddSession s.core, files := s.files + 1 }
  | .release, s => { s with files := s.files - 1 }

abbrev PmProg := Prog PmCore PmSection

namespace RuntimePm

/-- A call under `core->lock`. -/
def locked {α : Type} (call : Core → α × Core) : PmProg α :=
  .act (.core fun core => (call core).2) fun s => (call s.core).1

def coreState : PmProg CoreState := .act (.core id) fun s => s.core.state

def setCore (change : Core → Core) : PmProg Unit := .act (.core change) fun _ => ()

def pmRuntimeResumeAndGet (ret : Int) : PmProg Int := .act (.resume ret) fun _ => ret

def pmRuntimePut (ret : Int) : PmProg Unit := .act (.put ret) fun _ => ()

/-! ### `iris_hfi_queue.c` -/

structure CmdWriteEnv where
  pmGet : Int
  queueWrite : Int

def irisHfiQueueCmdWriteLocked (queueWrite : Int) (core : Core) : Int × Core :=
  if core.state = .error ∨ core.state = .deinit then (-einval, core)
  else if queueWrite ≠ 0 then (-enodata, core)
  else (0, core)

def irisHfiQueueCmdWrite (env : CmdWriteEnv) : PmProg Int := do
  let held ← pmRuntimeResumeAndGet env.pmGet
  if held < 0 then
    pmRuntimePut held
    pure held
  else
    let ret ← locked (irisHfiQueueCmdWriteLocked env.queueWrite)
    pmRuntimePut held
    pure ret

/-! ### `iris_core.c` -/

structure DeinitEnv where
  pmGet : Int
  env : Env

def irisCoreDeinit (env : DeinitEnv) : PmProg Unit := do
  let state ← coreState
  if state = .deinit then
    pure ()
  else
    let held ← pmRuntimeResumeAndGet env.pmGet
    setCore (irisCoreDeinitSection env.env)
    pmRuntimePut held

def irisWaitForSystemResponse (env : Env) : PmProg Int := do
  let state ← coreState
  if state = .error then
    pure (-eio)
  else if env .sysResponse ≠ 0 then
    setCore fun core => { core with state := .error }
    pure (-etimedout)
  else
    pure 0

def irisCoreInit (env : Env) : PmProg Int := do
  let returned ← locked (irisCoreInitSection env)
  match returned with
  | some ret => pure ret
  | none => irisWaitForSystemResponse env

def irisCoreRecover (deinitEnv : DeinitEnv) (initEnv : Env) : PmProg Int := do
  irisCoreDeinit deinitEnv
  irisCoreInit initEnv

structure RecoverEnv where
  /-- one of the instances has a session -/
  busy : Bool
  deinit : DeinitEnv
  init : Env

def irisRunPendingCoreRecovery (env : RecoverEnv) : PmProg Unit := do
  let recover ← locked fun core =>
    if !core.recoveryPending then (false, core)
    else if env.busy then (false, core)
    else (true, { core with recoveryPending := false })
  if recover then
    let _ ← irisCoreRecover env.deinit env.init
    pure ()
  else
    pure ()

/-! ### `iris_vidc.c` -/

/-- The resumes inside the two restarts of `iris_open`, beside all the rest. -/
structure PmOpenEnv extends OpenEnv where
  restartPmGet : Int
  recoverPmGet : Int

/-- The restart of a core that does not come back from its power collapse. -/
def irisOpenResume (env : PmOpenEnv) : PmProg Unit := do
  let ret ← locked (irisPcResume env.pcResume env.powerCollapse)
  if ret ≠ 0 then
    setCore fun core => { core with recoveryPending := false }
    let _ ← irisCoreRecover ⟨env.restartPmGet, env.restartDeinit⟩ env.restartInit
    pure ()
  else
    pure ()

def irisOpenCoreInit (env : PmOpenEnv) : PmProg Int := do
  let ret ← irisCoreInit env.coreInit
  let state ← coreState
  if ret ≠ 0 ∧ state = .error then
    setCore fun core => { core with recoveryPending := false }
    irisCoreRecover ⟨env.recoverPmGet, env.recoverDeinit⟩ env.recoverInit
  else
    pure ret

/-- `iris_open` from `get_instance` on; the file is handed out with the session. -/
def irisOpenInstance (env : PmOpenEnv) (held : Int) : PmProg Int :=
  let fail (ret : Int) : PmProg Int := do
    pmRuntimePut held
    pure ret
  if !env.getInstance then fail (-enomem)
  else if !env.m2mInit then fail (-einval)
  else if !env.m2mCtxInit then fail (-einval)
  else if env.instInit ≠ 0 then fail env.instInit
  else .act .handOut fun _ => 0

def irisOpen (env : PmOpenEnv) : PmProg Int :=
  if !env.allowFwBoot then pure (-eacces)
  else
    match sessionType env.vdevName with
    | none => pure (-einval)
    | some _ => do
        let held ← pmRuntimeResumeAndGet env.pmGet
        if held < 0 then
          pure held
        else
          irisOpenResume env
          let ret ← irisOpenCoreInit env
          if ret ≠ 0 then
            pmRuntimePut held
            pure ret
          else
            irisOpenInstance env held

def irisRemoveSession (core : Core) : Core := { core with instances := core.instances - 1 }

structure CloseEnv where
  /-- the commands that the queues being released and `iris_hfi_session_close` send -/
  commands : List CmdWriteEnv
  recover : RecoverEnv

/-- `iris_close`, which is called once for each file that was handed out. The reference that it
puts is the one that `iris_open` got. -/
def irisClose (env : CloseEnv) : PmProg Unit := do
  let released ← .act .release fun s => decide (0 < s.files)
  if released then
    .each (fun command => do let _ ← irisHfiQueueCmdWrite command; pure ()) env.commands
    setCore irisRemoveSession
    irisRunPendingCoreRecovery env.recover
    pmRuntimePut 0
  else
    pure ()

/-! ### Runs -/

/-- What changes the core beside these functions. -/
inductive CoreEvent
  | pmSuspend (env : Env)
  | pmResume (env : Env)
  | pcHandler (env : Env)
  | systemError
  | requestRecovery

def CoreEvent.apply : CoreEvent → Core → Core
  | .pmSuspend env, core => (irisPmSuspend env core).2
  | .pmResume env, core => (irisPmResume env core).2
  | .pcHandler env, core => irisPcHandler env core
  | .systemError, core => { core with state := .error }
  | .requestRecovery, core => { core with recoveryPending := true }

inductive PmOp
  | openFile (env : PmOpenEnv)
  | closeFile (env : CloseEnv)
  | cmdWrite (env : CmdWriteEnv)
  | coreDeinit (env : DeinitEnv)
  | coreRecover (deinitEnv : DeinitEnv) (initEnv : Env)
  | coreEvent (event : CoreEvent)

def PmOp.body : PmOp → PmProg Unit
  | .openFile env => do let _ ← irisOpen env; pure ()
  | .closeFile env => irisClose env
  | .cmdWrite env => do let _ ← irisHfiQueueCmdWrite env; pure ()
  | .coreDeinit env => irisCoreDeinit env
  | .coreRecover deinitEnv initEnv => do let _ ← irisCoreRecover deinitEnv initEnv; pure ()
  | .coreEvent event => setCore event.apply

abbrev PmRun := Pool PmCore PmSection

def runs (core : Core) (usageCount : Nat) (moves : List (PoolMove PmOp)) : PmRun :=
  Pool.runs PmSection.effect PmOp.body { core := core, usageCount := usageCount, files := 0 } moves

end RuntimePm

end NabuIris
