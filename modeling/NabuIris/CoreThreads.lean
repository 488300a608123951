import Mathlib.Logic.Function.Basic
import NabuIris.Open

/-!
# Threads that bring the core up and down

`iris_open`, `iris_core_init` and `iris_core_recover` as called by any number of threads, together
with the thread that handles the firmware's responses. A step is a section that holds `core->lock`
or one unlocked access to `core->state` or `core_init_done`. `boot` and `accepted` are not in the
driver: they say which boot of the firmware is in progress and whether the driver has accepted its
answer to `SYS_INIT`.
-/

namespace NabuIris

/-- The call that an `iris_core_init` or `iris_core_recover` is part of. -/
inductive Caller
  | coreInit
  | coreRecover
  | opening
  /-- the restart in `iris_open` after a failed resume -/
  | openRestart
  /-- the power cycle in `iris_open` of a core that is in `ERROR` -/
  | openRecover
deriving DecidableEq, Repr

/-- Where a thread is. -/
inductive Phase
  | idle
  | initEntry (caller : Caller)
  | waitEntry (caller : Caller)
  | waiting (caller : Caller)
  | timedOut (caller : Caller)
  /-- `iris_core_init` is about to return `0` -/
  | succeeding (caller : Caller)
  /-- `iris_core_init` is about to return an error -/
  | failing (caller : Caller)
  | deinitEntry (caller : Caller)
  | deinitLock (caller : Caller)
  /-- `iris_open` has an initialised core -/
  | opened
deriving DecidableEq, Repr

inductive Action
  | call (i : Nat)
  | initSection (i : Nat)
  | lookAtState (i : Nat)
  | wake (i : Nat)
  | timeout (i : Nat)
  | markError (i : Nat)
  | returnZero (i : Nat)
  | returnError (i : Nat)
  | deinitSection (i : Nat)
  | handOut (i : Nat)
  | openFail (i : Nat)
  | readResponse
  | handleResponse
  | systemError
deriving DecidableEq, Repr

structure System where
  core : Core
  /-- `core_init_done.done` -/
  done : Nat
  boot : Nat
  accepted : Bool
  /-- a response to `SYS_INIT` that was read but not handled: its boot, and whether it succeeded -/
  response : Option (Nat × Bool)
  phase : Nat → Phase

namespace System

def start (core : Core) : System where
  core := core
  done := 0
  boot := 0
  accepted := false
  response := none
  phase := fun _ => .idle

def setPhase (s : System) (i : Nat) (phase : Phase) : System :=
  { s with phase := Function.update s.phase i phase }

def setCore (s : System) (core : Core) : System := { s with core := core }

/-- The boot in progress has answered, and the driver has accepted the answer. -/
def Accepted (s : System) : Prop := s.core.fwLoaded = true ∧ s.accepted = true

end System

/-- What follows an `iris_core_init` that returned `0`. -/
def Caller.afterZero : Caller → Phase
  | .coreInit => .idle
  | .coreRecover => .idle
  | .opening => .opened
  | .openRestart => .initEntry .opening
  | .openRecover => .opened

/-- What follows one that returned an error, unless `iris_open` power-cycles the core. -/
def Caller.afterError : Caller → Phase
  | .coreInit => .idle
  | .coreRecover => .idle
  | .opening => .idle
  | .openRestart => .initEntry .opening
  | .openRecover => .idle

inductive Step : System → Action → System → Prop
  | callCoreInit {s : System} {i : Nat} :
      s.phase i = .idle → Step s (.call i) (s.setPhase i (.initEntry .coreInit))
  | callCoreRecover {s : System} {i : Nat} :
      s.phase i = .idle → Step s (.call i) (s.setPhase i (.deinitEntry .coreRecover))
  | openResumed {s : System} {i : Nat} {env : Env} {powerCollapse : Bool} {core : Core} :
      s.phase i = .idle → irisPcResume env powerCollapse s.core = (0, core) →
      Step s (.call i) ((s.setCore core).setPhase i (.initEntry .opening))
  | openRestarted {s : System} {i : Nat} {env : Env} {powerCollapse : Bool} {ret : Int}
      {core : Core} :
      s.phase i = .idle → irisPcResume env powerCollapse s.core = (ret, core) → ret ≠ 0 →
      Step s (.call i) ((s.setCore { core with recoveryPending := false }).setPhase i
        (.deinitEntry .openRestart))
  | booted {s : System} {i : Nat} {caller : Caller} {env : Env} {core : Core} :
      s.phase i = .initEntry caller → irisCoreInitSection env s.core = (none, core) →
      Step s (.initSection i)
        ({ s with core := core, boot := s.boot + 1, accepted := false }.setPhase i
          (.waitEntry caller))
  | notBooted {s : System} {i : Nat} {caller : Caller} {env : Env} {ret : Int} {core : Core} :
      s.phase i = .initEntry caller → irisCoreInitSection env s.core = (some ret, core) →
      Step s (.initSection i)
        ((s.setCore core).setPhase i (if ret = 0 then .succeeding caller else .failing caller))
  | waitRefused {s : System} {i : Nat} {caller : Caller} :
      s.phase i = .waitEntry caller → s.core.state = .error →
      Step s (.lookAtState i) (s.setPhase i (.failing caller))
  | waitStarted {s : System} {i : Nat} {caller : Caller} :
      s.phase i = .waitEntry caller → s.core.state ≠ .error →
      Step s (.lookAtState i) (s.setPhase i (.waiting caller))
  | wake {s : System} {i : Nat} {caller : Caller} :
      s.phase i = .waiting caller → 0 < s.done →
      Step s (.wake i) ({ s with done := s.done - 1 }.setPhase i (.succeeding caller))
  | timeout {s : System} {i : Nat} {caller : Caller} :
      s.phase i = .waiting caller → s.done = 0 →
      Step s (.timeout i) (s.setPhase i (.timedOut caller))
  | markError {s : System} {i : Nat} {caller : Caller} :
      s.phase i = .timedOut caller →
      Step s (.markError i)
        ((s.setCore { s.core with state := .error }).setPhase i (.failing caller))
  | returnZero {s : System} {i : Nat} {caller : Caller} :
      s.phase i = .succeeding caller → Step s (.returnZero i) (s.setPhase i caller.afterZero)
  | returnError {s : System} {i : Nat} {caller : Caller} :
      s.phase i = .failing caller → ¬ (caller = .opening ∧ s.core.state = .error) →
      Step s (.returnError i) (s.setPhase i caller.afterError)
  | powerCycle {s : System} {i : Nat} :
      s.phase i = .failing .opening → s.core.state = .error →
      Step s (.returnError i)
        ((s.setCore { s.core with recoveryPending := false }).setPhase i
          (.deinitEntry .openRecover))
  | deinitSkipped {s : System} {i : Nat} {caller : Caller} :
      s.phase i = .deinitEntry caller → s.core.state = .deinit →
      Step s (.lookAtState i) (s.setPhase i (.initEntry caller))
  | deinitStarted {s : System} {i : Nat} {caller : Caller} :
      s.phase i = .deinitEntry caller → s.core.state ≠ .deinit →
      Step s (.lookAtState i) (s.setPhase i (.deinitLock caller))
  | deinitSection {s : System} {i : Nat} {caller : Caller} {env : Env} :
      s.phase i = .deinitLock caller →
      Step s (.deinitSection i)
        ((s.setCore (irisCoreDeinitSection env s.core)).setPhase i (.initEntry caller))
  | handOut {s : System} {i : Nat} :
      s.phase i = .opened →
      Step s (.handOut i) ((s.setCore (irisAddSession s.core)).setPhase i .idle)
  | openFail {s : System} {i : Nat} :
      s.phase i = .opened → Step s (.openFail i) (s.setPhase i .idle)
  | readResponse {s : System} {success : Bool} :
      s.core.state = .init → s.response = none →
      Step s .readResponse { s with response := some (s.boot, success) }
  | initDone {s : System} {boot : Nat} :
      s.response = some (boot, true) →
      Step s .handleResponse
        { s with
          response := none
          done := s.done + 1
          accepted := s.accepted || decide (boot = s.boot) }
  | initFailed {s : System} {boot : Nat} :
      s.response = some (boot, false) →
      Step s .handleResponse
        { s with response := none, core := { s.core with state := .error } }
  | systemError {s : System} :
      Step s .systemError (s.setCore { s.core with state := .error })

end NabuIris
