import NabuIris.Admission
import NabuIris.CoreThreads

/-!
# The driver at large

Open files, their sessions, the workers and system sleep, run by any number of threads around the
threads that bring the core up and down. A step is a section that holds `core->lock`, a run of the
power-collapse worker, or one unlocked access to a field that others change. Calls on one instance
are not serialised here, although `inst->lock` does that. `requested` is not in the driver: it is
the boot of the firmware that was in progress when recovery was last requested.
-/

namespace NabuIris

/-- What a thread does after `iris_run_pending_core_recovery` or `iris_hfi_session_close`. -/
inductive Next
  | done
  | sessionOpen (i : Nat)
  | removeSession (i : Nat)
  | pcSchedule
deriving DecidableEq, Repr

/-- What a thread does besides bringing the core up and down. -/
inductive Mode
  | idle
  /-- `iris_pc_resume` has cancelled `pc_work` -/
  | pcResume
  | pcResumeFailed
  /-- `iris_open` is in `iris_core_init` or in `iris_core_recover` -/
  | opening
  /-- `iris_open` has found the core in `ERROR` -/
  | coreErrored
  /-- `iris_run_pending_core_recovery` -/
  | pendingCheck (next : Next)
  | recovering (next : Next)
  /-- `iris_sys_error_handler` -/
  | sysError
  /-- `iris_hfi_session_open` is about to reserve a slot -/
  | sessionOpen (i : Nat)
  | sessionInit (i : Nat)
  | releaseSlot (i : Nat)
  /-- `iris_hfi_session_close` -/
  | sessionEnd (i : Nat) (next : Next)
  | cleanup (i : Nat) (failed : Bool) (next : Next)
  | closeFailed (next : Next)
  | removeSession (i : Nat)
  | pcSchedule
deriving DecidableEq, Repr

def Next.mode : Next → Mode
  | .done => .idle
  | .sessionOpen i => .sessionOpen i
  | .removeSession i => .removeSession i
  | .pcSchedule => .pcSchedule

/-- The thread is in `iris_core_init` or in `iris_core_recover`. -/
def Mode.InCore : Mode → Prop
  | .opening => True
  | .recovering _ => True
  | .sysError => True
  | _ => False

structure Driver where
  base : System
  load : AdmissionCore
  mode : Nat → Mode
  powerCollapse : Bool
  pcWorkQueued : Bool
  sysErrorQueued : Bool
  requested : Option Nat

inductive DriverAction
  | core (action : Action)
  | openStart (thread : Nat)
  | pcResume (thread : Nat)
  | clearPending (thread : Nat)
  | seeError (thread : Nat)
  | handOut (thread i : Nat)
  | openEnd (thread : Nat)
  | sessionOpen (thread i : Nat)
  | pendingCheck (thread : Nat)
  | recovered (thread : Nat)
  | reserveSlot (thread : Nat)
  | sessionInit (thread : Nat)
  | releaseSlot (thread : Nat)
  | sessionClose (thread i : Nat)
  | sessionEnd (thread : Nat)
  | cleanup (thread : Nat)
  | closeFailed (thread : Nat)
  | removeSession (thread : Nat)
  | pcSchedule (thread : Nat)
  | requestRecovery
  | systemError
  | sysErrorStart (thread : Nat)
  | sysErrorEnd (thread : Nat)
  | pcHandler
  | pmSuspend
  | pmResume
  | setPowerCollapse (value : Bool)
  | admission (op : AdmissionOp)

namespace Driver

/-- No thread is in the driver. -/
def start (core : Core) (load : AdmissionCore) : Driver where
  base := .start core
  load := load
  mode := fun _ => .idle
  powerCollapse := true
  pcWorkQueued := false
  sysErrorQueued := false
  requested := none

def setMode (s : Driver) (thread : Nat) (mode : Mode) : Driver :=
  { s with mode := Function.update s.mode thread mode }

def setPhase (s : Driver) (thread : Nat) (phase : Phase) : Driver :=
  { s with base := s.base.setPhase thread phase }

def setCore (s : Driver) (core : Core) : Driver := { s with base := s.base.setCore core }

def admission (rules : OutputRules) (s : Driver) (op : AdmissionOp) : Driver :=
  { s with load := applyAdmission rules s.load op }

/-- `iris_request_core_recovery` -/
def requestRecovery (s : Driver) : Driver :=
  { s.setCore { s.base.core with recoveryPending := true } with requested := some s.base.boot }

def clearPending (s : Driver) : Driver :=
  s.setCore { s.base.core with recoveryPending := false }

/-- `iris_pc_schedule` -/
def pcSchedule (s : Driver) : Driver :=
  if !s.base.core.platformData.legacyVpu5 || !s.powerCollapse || s.base.core.instances != 0 then s
  else { s with pcWorkQueued := true }

/-- `iris_pc_handler` -/
def pcHandler (env : Env) (s : Driver) : Driver :=
  let s := { s with pcWorkQueued := false }.setCore (irisPcHandler env s.base.core)
  if !s.base.core.vpuSuspended then s.pcSchedule else s

/-- `iris_pm_resume` -/
def pmResume (env : Env) (s : Driver) : Driver :=
  let resume := irisPmResume env s.base.core
  let resumed := s.base.core.vpuSuspended && !resume.2.vpuSuspended
  if resumed then (s.setCore resume.2).pcSchedule else s.setCore resume.2

/-- `hfi_session_opened` of an instance on the list. -/
def HasSession (s : Driver) : Prop :=
  ∃ i ∈ s.load.instances, (s.load.inst i).hfiSessionOpened = true

instance (s : Driver) : Decidable s.HasSession :=
  inferInstanceAs (Decidable (∃ i ∈ s.load.instances, _))

end Driver

namespace Action

/-- The thread that makes a step in `iris_core_init` or `iris_core_recover`. -/
def thread : Action → Option Nat
  | .call i | .initSection i | .lookAtState i | .wake i | .timeout i | .markError i => some i
  | .returnZero i | .returnError i | .deinitSection i | .handOut i | .openFail i => some i
  | .readResponse | .handleResponse | .systemError => none

/-- The steps that are not made by the driver around it. -/
def Inner (s : System) : Action → Prop
  | .call _ | .handOut _ | .openFail _ | .systemError => False
  | .returnError i => s.phase i = .failing .opening → s.core.state ≠ .error
  | _ => True

/-- `iris_core_deinit` cancels `pc_work`. -/
def CancelsWork : Action → Bool
  | .deinitSection _ => true
  | _ => false

end Action

/-- The calls that change what is admitted of an instance and nothing else. -/
def AdmissionOp.OnLoad : AdmissionOp → Prop
  | .reserve .. | .release _ | .setFormat .. => True
  | _ => False

open Driver in
inductive DriverStep (rules : OutputRules) : Driver → DriverAction → Driver → Prop
  | core {s : Driver} {a : Action} {base : System} :
      (∀ t, a.thread = some t → (s.mode t).InCore) → a.Inner s.base → Step s.base a base →
      DriverStep rules s (.core a)
        { s with base := base, pcWorkQueued := s.pcWorkQueued && !a.CancelsWork }
  -- `iris_open`
  | openAwake {s : Driver} {t : Nat} :
      s.mode t = .idle → (s.base.core.platformData.legacyVpu5 = false ∨ s.powerCollapse = false) →
      DriverStep rules s (.openStart t) ((s.setPhase t (.initEntry .opening)).setMode t .opening)
  | openCancel {s : Driver} {t : Nat} :
      s.mode t = .idle → s.base.core.platformData.legacyVpu5 = true → s.powerCollapse = true →
      DriverStep rules s (.openStart t) ({ s with pcWorkQueued := false }.setMode t .pcResume)
  | resumed {s : Driver} {t : Nat} {env : Env} {core : Core} :
      s.mode t = .pcResume → irisPcResume env true s.base.core = (0, core) →
      DriverStep rules s (.pcResume t)
        (((s.setCore core).setPhase t (.initEntry .opening)).setMode t .opening)
  | notResumed {s : Driver} {t : Nat} {env : Env} {ret : Int} {core : Core} :
      s.mode t = .pcResume → irisPcResume env true s.base.core = (ret, core) → ret ≠ 0 →
      DriverStep rules s (.pcResume t) ((s.setCore core).setMode t .pcResumeFailed)
  | restart {s : Driver} {t : Nat} :
      s.mode t = .pcResumeFailed →
      DriverStep rules s (.clearPending t)
        ((s.clearPending.setPhase t (.deinitEntry .openRestart)).setMode t .opening)
  | seeError {s : Driver} {t : Nat} :
      s.mode t = .opening → s.base.phase t = .failing .opening → s.base.core.state = .error →
      DriverStep rules s (.seeError t) (s.setMode t .coreErrored)
  | powerCycle {s : Driver} {t : Nat} :
      s.mode t = .coreErrored →
      DriverStep rules s (.clearPending t)
        ((s.clearPending.setPhase t (.deinitEntry .openRecover)).setMode t .opening)
  | handOut {s : Driver} {t i : Nat} {domain : Domain} :
      s.mode t = .opening → s.base.phase t = .opened → i ∉ s.load.instances →
      DriverStep rules s (.handOut t i)
        ((((s.setCore (irisAddSession s.base.core)).admission rules (.add i domain)).setPhase t
          .idle).setMode t .idle)
  | instanceFail {s : Driver} {t : Nat} :
      s.mode t = .opening → s.base.phase t = .opened →
      DriverStep rules s (.openEnd t) ((s.setPhase t .idle).setMode t .idle)
  | coreFail {s : Driver} {t : Nat} :
      s.mode t = .opening → s.base.phase t = .idle →
      DriverStep rules s (.openEnd t) (s.setMode t .idle)
  -- `iris_hfi_session_open`
  | sessionOpen {s : Driver} {t i : Nat} :
      s.mode t = .idle → i ∈ s.load.instances → (s.load.inst i).hfiSessionOpened = false →
      DriverStep rules s (.sessionOpen t i) (s.setMode t (.pendingCheck (.sessionOpen i)))
  | admitted {s : Driver} {t i : Nat} :
      s.mode t = .sessionOpen i → (irisHfiSessionOpenSection i s.load).1 = 0 →
      DriverStep rules s (.reserveSlot t)
        ((s.admission rules (.sessionOpen i)).setMode t (.sessionInit i))
  | refused {s : Driver} {t i : Nat} :
      s.mode t = .sessionOpen i → (irisHfiSessionOpenSection i s.load).1 ≠ 0 →
      DriverStep rules s (.reserveSlot t) (s.setMode t .idle)
  | sessionInitDone {s : Driver} {t i : Nat} :
      s.mode t = .sessionInit i → DriverStep rules s (.sessionInit t) (s.setMode t .idle)
  | sessionInitFailed {s : Driver} {t i : Nat} :
      s.mode t = .sessionInit i →
      DriverStep rules s (.sessionInit t) (s.requestRecovery.setMode t (.releaseSlot i))
  | releaseSlot {s : Driver} {t i : Nat} :
      s.mode t = .releaseSlot i →
      DriverStep rules s (.releaseSlot t) ((s.admission rules (.releaseSlot i)).setMode t .idle)
  -- `iris_run_pending_core_recovery`
  | notPending {s : Driver} {t : Nat} {next : Next} :
      s.mode t = .pendingCheck next → s.base.core.recoveryPending = false →
      DriverStep rules s (.pendingCheck t) (s.setMode t next.mode)
  | busy {s : Driver} {t : Nat} {next : Next} :
      s.mode t = .pendingCheck next → s.HasSession →
      DriverStep rules s (.pendingCheck t) (s.setMode t next.mode)
  | recover {s : Driver} {t : Nat} {next : Next} :
      s.mode t = .pendingCheck next → s.base.core.recoveryPending = true → ¬s.HasSession →
      DriverStep rules s (.pendingCheck t)
        ((s.clearPending.setPhase t (.deinitEntry .coreRecover)).setMode t (.recovering next))
  | recovered {s : Driver} {t : Nat} {next : Next} :
      s.mode t = .recovering next → s.base.phase t = .idle →
      DriverStep rules s (.recovered t) (s.setMode t next.mode)
  -- `iris_hfi_session_close` and `iris_close`
  | sessionClose {s : Driver} {t i : Nat} {next : Next} :
      s.mode t = .idle → i ∈ s.load.instances → (next = .done ∨ next = .removeSession i) →
      (s.load.inst i).hfiSessionOpened = true →
      DriverStep rules s (.sessionClose t i) (s.setMode t (.sessionEnd i next))
  | noSession {s : Driver} {t i : Nat} {next : Next} :
      s.mode t = .idle → i ∈ s.load.instances → (next = .done ∨ next = .removeSession i) →
      (s.load.inst i).hfiSessionOpened = false →
      DriverStep rules s (.sessionClose t i)
        ((s.admission rules (.sessionClose i)).setMode t next.mode)
  | sessionEnd {s : Driver} {t i : Nat} {next : Next} {failed : Bool} :
      s.mode t = .sessionEnd i next →
      DriverStep rules s (.sessionEnd t) (s.setMode t (.cleanup i failed next))
  | cleanup {s : Driver} {t i : Nat} {next : Next} {failed : Bool} :
      s.mode t = .cleanup i failed next →
      DriverStep rules s (.cleanup t)
        ((s.admission rules (.releaseSlot i)).setMode t
          (if failed then .closeFailed next else next.mode))
  | closeFailed {s : Driver} {t : Nat} {next : Next} :
      s.mode t = .closeFailed next →
      DriverStep rules s (.closeFailed t) (s.requestRecovery.setMode t next.mode)
  | removeSession {s : Driver} {t i : Nat} :
      s.mode t = .removeSession i → i ∈ s.load.instances →
      DriverStep rules s (.removeSession t)
        (((s.setCore { s.base.core with instances := s.base.core.instances - 1 }).admission rules
          (.remove i)).setMode t (.pendingCheck .pcSchedule))
  | pcSchedule {s : Driver} {t : Nat} :
      s.mode t = .pcSchedule → DriverStep rules s (.pcSchedule t) (s.pcSchedule.setMode t .idle)
  -- the firmware and the workers
  | requestRecovery {s : Driver} : DriverStep rules s .requestRecovery s.requestRecovery
  | systemError {s : Driver} :
      DriverStep rules s .systemError
        { s.setCore { s.base.core with state := .error } with sysErrorQueued := true }
  | sysErrorStart {s : Driver} {t : Nat} :
      s.mode t = .idle → s.sysErrorQueued = true →
      DriverStep rules s (.sysErrorStart t)
        (({ s with sysErrorQueued := false }.setPhase t (.deinitEntry .coreRecover)).setMode t
          .sysError)
  | sysErrorEnd {s : Driver} {t : Nat} :
      s.mode t = .sysError → s.base.phase t = .idle →
      DriverStep rules s (.sysErrorEnd t) (s.clearPending.setMode t .idle)
  | pcHandler {s : Driver} {env : Env} :
      s.pcWorkQueued = true → DriverStep rules s .pcHandler (s.pcHandler env)
  | pmSuspend {s : Driver} {env : Env} :
      DriverStep rules s .pmSuspend (s.setCore (irisPmSuspend env s.base.core).2)
  | pmResume {s : Driver} {env : Env} : DriverStep rules s .pmResume (s.pmResume env)
  -- user space
  | setPowerCollapse {s : Driver} {value : Bool} :
      DriverStep rules s (.setPowerCollapse value) { s with powerCollapse := value }
  | admission {s : Driver} {op : AdmissionOp} :
      op.OnLoad → DriverStep rules s (.admission op) (s.admission rules op)

end NabuIris
