import NabuIris.CoreThreads
import NabuIris.Proof.OpenRecovery

/-!
# Firmware readiness

`core->state` is `INIT` before the firmware has answered, and `core_init_done` counts the answers
of all boots. The core is ready when `iris_core_init` returns `0` and when `iris_open` hands out an
instance in every run in which nobody enters `iris_core_init` between a boot and its answer, and
nobody tears down or boots while an answer, or an opener that relies on one, is under way.
-/

namespace NabuIris

open Lib

namespace Phase

/-- `iris_core_init` has decided to return `0`, or has returned it to `iris_open`. -/
def Succeeded : Phase → Prop
  | .succeeding _ => True
  | .opened => True
  | _ => False

end Phase

namespace System

/-- No accepted answer is pending, and no thread relies on one. -/
structure Quiet (s : System) : Prop where
  done : s.done = 0
  response : ∀ boot, s.response ≠ some (boot, true)
  phase : ∀ i, ¬ (s.phase i).Succeeded

/-- The invariant. Every pending answer is one of the boot in progress, and the threads that rely on
an answer rely on that of the boot in progress. -/
structure Readiness (s : System) : Prop where
  live : s.core.state = .init → s.core.fwLoaded = true
  response : ∀ boot, s.response = some (boot, true) → boot = s.boot ∧ s.core.fwLoaded = true
  done : 0 < s.done → s.Accepted
  phase : ∀ i, (s.phase i).Succeeded → s.Accepted

end System

/-- The condition on a step. `iris_core_init` finds a core in `INIT` only when the boot in progress
was answered; a core is booted or torn down only when things are quiet. -/
def Action.Ok (s : System) : Action → Prop
  | .initSection _ =>
      (s.core.state = .init → s.Accepted) ∧ (s.core.state = .deinit → s.Quiet)
  | .deinitSection _ => s.Quiet
  | _ => True

/-- `iris_core_init` returns `0`, or `iris_open` hands out an instance. -/
def Action.Relies : Action → Prop
  | .returnZero _ => True
  | .handOut _ => True
  | _ => False

namespace System.Readiness

variable {s : System}

theorem start {core : Core} (hstate : core.state = .deinit) : (System.start core).Readiness where
  live hinit := absurd (hstate.symm.trans hinit) (by decide)
  response _ hresponse := by simp [System.start] at hresponse
  done hdone := absurd hdone (by simp [System.start])
  phase _ hphase := hphase.elim

theorem setPhase (hready : s.Readiness) (i : Nat) {phase : Phase}
    (hphase : phase.Succeeded → s.Accepted) : (s.setPhase i phase).Readiness where
  live := hready.live
  response := hready.response
  done := hready.done
  phase j hj := by
    by_cases heq : j = i
    · subst heq
      simp only [System.setPhase, Function.update_self] at hj
      exact hphase hj
    · simp only [System.setPhase, Function.update_of_ne heq] at hj
      exact hready.phase j hj

/-- A step that neither enters `INIT` nor touches the firmware image. -/
theorem setCore (hready : s.Readiness) {core : Core}
    (hstate : core.state = .init → s.core.state = .init)
    (hfw : core.fwLoaded = s.core.fwLoaded) : (s.setCore core).Readiness where
  live hinit := hfw.trans (hready.live (hstate hinit))
  response boot hresponse :=
    ⟨(hready.response boot hresponse).1, hfw.trans (hready.response boot hresponse).2⟩
  done hdone := ⟨hfw.trans (hready.done hdone).1, (hready.done hdone).2⟩
  phase i hphase := ⟨hfw.trans (hready.phase i hphase).1, (hready.phase i hphase).2⟩

theorem setError (hready : s.Readiness) :
    (s.setCore { s.core with state := .error }).Readiness :=
  hready.setCore (fun hinit => by simp at hinit) rfl

/-- When things are quiet the invariant is about the core alone. -/
theorem of_quiet (hquiet : s.Quiet) (hlive : s.core.state = .init → s.core.fwLoaded = true) :
    s.Readiness where
  live := hlive
  response boot hresponse := absurd hresponse (hquiet.response boot)
  done hdone := absurd hquiet.done (Nat.ne_of_gt hdone)
  phase i hphase := absurd hphase (hquiet.phase i)

end System.Readiness

/-! ### The locked sections -/

variable {env : Env} {core core' : Core}

theorem irisCoreInitSection_booted (hsection : irisCoreInitSection env core = (none, core')) :
    core.state = .deinit ∧ core'.state = .init ∧ core'.fwLoaded = true := by
  have hinit := irisCoreInitSection_none hsection
  have hspec := irisCoreInitSection_spec env core
  rw [hsection] at hspec
  cases hspec with
  | booted hstate _ _ hload _ _ _ =>
      refine ⟨hstate, hinit, ?_⟩
      unfold irisFwLoad at hload
      split_ifs at hload with hmemory hprotect
      · exact absurd (Prod.mk.inj hload).1 (by decide)
      · exact absurd (Prod.mk.inj hload).1 hprotect
      · rw [← (Prod.mk.inj hload).2]

theorem irisCoreInitSection_notBooted {ret : Int}
    (hsection : irisCoreInitSection env core = (some ret, core')) :
    (ret = 0 → core.state = .init) ∧ (core.state = .init → core' = core) ∧
      (core.state = .error → core' = core.deinitialised) ∧
      (core.state ≠ .init → core'.state = .deinit) := by
  have hspec := irisCoreInitSection_spec env core
  rw [hsection] at hspec
  cases hspec with
  | already hinit =>
      exact ⟨fun _ => hinit, fun _ => rfl,
        fun herror => absurd (hinit.symm.trans herror) (by decide), fun hne => absurd hinit hne⟩
  | refused herror =>
      exact ⟨fun hret => absurd hret (by decide),
        fun hinit => absurd (herror.symm.trans hinit) (by decide), fun _ => rfl, fun _ => rfl⟩
  | noQueues hstate _ hret =>
      exact ⟨fun hzero => absurd hzero hret,
        fun hinit => absurd (hstate.symm.trans hinit) (by decide),
        fun herror => absurd (hstate.symm.trans herror) (by decide), fun _ => rfl⟩
  | noPower hstate _ _ hret =>
      exact ⟨fun hzero => absurd hzero hret,
        fun hinit => absurd (hstate.symm.trans hinit) (by decide),
        fun herror => absurd (hstate.symm.trans herror) (by decide), fun _ => rfl⟩
  | noFirmware hstate _ _ _ hret =>
      exact ⟨fun hzero => absurd hzero hret,
        fun hinit => absurd (hstate.symm.trans hinit) (by decide),
        fun herror => absurd (hstate.symm.trans herror) (by decide), fun _ => rfl⟩
  | noBoot hstate _ _ _ hret _ =>
      exact ⟨fun hzero => absurd hzero hret,
        fun hinit => absurd (hstate.symm.trans hinit) (by decide),
        fun herror => absurd (hstate.symm.trans herror) (by decide), fun _ => rfl⟩

/-! ### Steps -/

/-- **One step** that meets its condition keeps the invariant. -/
theorem Step.readiness {s t : System} {a : Action} (hstep : Step s a t) (hok : a.Ok s)
    (hready : s.Readiness) : t.Readiness := by
  cases hstep with
  | callCoreInit _ => exact hready.setPhase _ False.elim
  | callCoreRecover _ => exact hready.setPhase _ False.elim
  | @openResumed i env powerCollapse core _ hresume =>
      have hframe := irisPcResume_frame env powerCollapse s.core
      rw [hresume] at hframe
      exact (hready.setCore (fun hinit => hframe.1.symm.trans hinit) hframe.2.1).setPhase _
        False.elim
  | @openRestarted i env powerCollapse ret core _ hresume _ =>
      have hframe := irisPcResume_frame env powerCollapse s.core
      rw [hresume] at hframe
      have hcore : (s.setCore { core with recoveryPending := false }).Readiness :=
        hready.setCore (fun hinit => hframe.1.symm.trans hinit) hframe.2.1
      exact hcore.setPhase _ False.elim
  | @booted i caller env core _ hsection =>
      obtain ⟨hstate, hinit, hfw⟩ := irisCoreInitSection_booted hsection
      have hquiet := hok.2 hstate
      have hbooted : ({ s with core := core, boot := s.boot + 1, accepted := false } :
          System).Readiness :=
        .of_quiet ⟨hquiet.done, hquiet.response, hquiet.phase⟩ fun _ => hfw
      exact hbooted.setPhase _ False.elim
  | @notBooted i caller env ret core _ hsection =>
      obtain ⟨hzero, hsame, hrefused, hdeinit⟩ := irisCoreInitSection_notBooted hsection
      have hcore : (s.setCore core).Readiness := by
        cases hstate : s.core.state with
        | init =>
            rw [hsame hstate]
            exact hready
        | error =>
            rw [hrefused hstate]
            exact hready.setCore (fun hinit => absurd hinit (by simp [Core.deinitialised])) rfl
        | deinit =>
            have hquiet := hok.2 hstate
            refine .of_quiet ⟨hquiet.done, hquiet.response, hquiet.phase⟩ fun hinit => ?_
            have hnot := hdeinit (by simp [hstate])
            exact absurd (hnot.symm.trans hinit) (by decide)
      refine hcore.setPhase _ fun hsucceeded => ?_
      split_ifs at hsucceeded with hret
      · have hinit := hzero hret
        rw [hsame hinit]
        exact hok.1 hinit
      · exact hsucceeded.elim
  | waitRefused _ _ => exact hready.setPhase _ False.elim
  | waitStarted _ _ => exact hready.setPhase _ False.elim
  | wake _ hdone =>
      have haccepted := hready.done hdone
      have hwoken : ({ s with done := s.done - 1 } : System).Readiness :=
        ⟨hready.live, hready.response, fun _ => haccepted, hready.phase⟩
      exact hwoken.setPhase _ fun _ => haccepted
  | timeout _ _ => exact hready.setPhase _ False.elim
  | markError _ => exact hready.setError.setPhase _ False.elim
  | @returnZero i caller hphase =>
      refine hready.setPhase _ fun _ => hready.phase i ?_
      rw [hphase]
      trivial
  | @returnError i caller _ _ =>
      refine hready.setPhase _ fun hsucceeded => ?_
      cases caller <;> exact hsucceeded.elim
  | powerCycle _ _ =>
      have hcore : (s.setCore { s.core with recoveryPending := false }).Readiness :=
        hready.setCore id rfl
      exact hcore.setPhase _ False.elim
  | deinitSkipped _ _ => exact hready.setPhase _ False.elim
  | deinitStarted _ _ => exact hready.setPhase _ False.elim
  | @deinitSection i caller env _ =>
      have hcore : (s.setCore (irisCoreDeinitSection env s.core)).Readiness := by
        refine .of_quiet ⟨hok.done, hok.response, hok.phase⟩ fun hinit => ?_
        have hdeinit := (irisCoreDeinitSection_released env s.core).2
        exact absurd (hdeinit.symm.trans hinit) (by decide)
      exact hcore.setPhase _ False.elim
  | handOut _ =>
      have hcore : (s.setCore (irisAddSession s.core)).Readiness := hready.setCore id rfl
      exact hcore.setPhase _ False.elim
  | openFail _ => exact hready.setPhase _ False.elim
  | @readResponse success hstate _ =>
      refine ⟨hready.live, fun boot hresponse => ?_, hready.done, hready.phase⟩
      obtain ⟨rfl, -⟩ := Prod.mk.inj (Option.some.inj hresponse)
      exact ⟨rfl, hready.live hstate⟩
  | @initDone boot hresponse =>
      obtain ⟨rfl, hfw⟩ := hready.response boot hresponse
      have haccepted : s.core.fwLoaded = true ∧ (s.accepted || decide (s.boot = s.boot)) = true :=
        ⟨hfw, by simp⟩
      refine ⟨hready.live, fun _ hnone => ?_, fun _ => haccepted, fun _ _ => haccepted⟩
      exact absurd hnone (by simp)
  | @initFailed boot hresponse =>
      refine ⟨fun hinit => absurd hinit (by simp), fun _ hnone => absurd hnone (by simp),
        hready.done, hready.phase⟩
  | systemError => exact hready.setError

/-- A thread that relies on an answer has seen `iris_core_init` succeed. -/
theorem Step.accepted_of_relies {s t : System} {a : Action} (hstep : Step s a t)
    (hrelies : a.Relies) (hready : s.Readiness) : s.Accepted := by
  cases hstep with
  | @returnZero i caller hphase =>
      refine hready.phase i ?_
      rw [hphase]
      trivial
  | @handOut i hphase =>
      refine hready.phase i ?_
      rw [hphase]
      trivial
  | _ => exact hrelies.elim

/-- **Firmware readiness.** In a run whose steps meet their conditions, `iris_core_init` returns `0`
and `iris_open` hands out an instance only when the boot in progress was answered. -/
theorem returns_after_answer {core : Core} (hstate : core.state = .deinit) {acts : List Action}
    {s t : System} {a : Action}
    (hrun : Run (guarded Step fun s a => a.Ok s) (System.start core) acts s) (hstep : Step s a t)
    (hrelies : a.Relies) : s.Accepted := by
  have hready : s.Readiness := by
    refine hrun.invariant (fun s a t hready hstep => ?_) (System.Readiness.start hstate)
    exact hstep.2.readiness hstep.1 hready
  exact hstep.accepted_of_relies hrelies hready

/-! ### A boot, and a second opener -/

/-- The SM8150 core once its first `iris_core_init` waits for the firmware. -/
def sm8150Booted : Core := (irisCoreInitSection okEnv sm8150Core).2

theorem sm8150_boots : irisCoreInitSection okEnv sm8150Core = (none, sm8150Booted) := by
  have hsucceeds : CoreInitSucceeds okEnv sm8150Core :=
    ((openEnvOf_restSucceeds okEnv ⟨rfl, rfl⟩).restart)
  have hpd : sm8150Core.platformData.WellFormed :=
    wellFormed_of_mem_irisDtMatch (by simp [irisDtMatch, sm8150Core, Core.probed])
  exact Prod.ext (irisCoreInitSection_of_deinit hpd rfl hsucceeds) rfl

theorem sm8150Booted_state : sm8150Booted.state = .init := irisCoreInitSection_none sm8150_boots

/-- The system of a thread about to make the first `iris_core_init`. -/
def sm8150Calling : System := (System.start sm8150Core).setPhase 0 (.initEntry .coreInit)

theorem sm8150Calling_quiet : sm8150Calling.Quiet := by
  refine ⟨rfl, fun _ hresponse => (nomatch hresponse), fun i hphase => ?_⟩
  by_cases heq : i = 0
  · subst heq
    exact hphase
  · simp [sm8150Calling, System.setPhase, System.start, Function.update_of_ne heq,
      Phase.Succeeded] at hphase

theorem returns_after_answer_boot :
    ∃ s t, Run Step (System.start sm8150Core)
      [.call 0, .initSection 0, .lookAtState 0, .readResponse, .handleResponse, .wake 0] s ∧
      Step s (.returnZero 0) t ∧ s.Accepted := by
  have hbootOk : Action.Ok sm8150Calling (.initSection 0) :=
    ⟨fun hinit => absurd hinit (by decide), fun _ => sm8150Calling_quiet⟩
  have hstarted : sm8150Booted.state ≠ .error := by simp [sm8150Booted_state]
  have hrun : ∃ s, Run (guarded Step fun s a => a.Ok s) (System.start sm8150Core)
      [.call 0, .initSection 0, .lookAtState 0, .readResponse, .handleResponse, .wake 0] s ∧
      s.phase 0 = .succeeding .coreInit :=
    ⟨_, .cons ⟨trivial, .callCoreInit rfl⟩
      (.cons ⟨hbootOk, .booted rfl sm8150_boots⟩
      (.cons ⟨trivial, .waitStarted rfl hstarted⟩
      (.cons ⟨trivial, @Step.readResponse _ true sm8150Booted_state rfl⟩
      (.cons ⟨trivial, .initDone rfl⟩
      (.cons ⟨trivial, .wake rfl (Nat.succ_pos 0)⟩ (.nil _)))))), rfl⟩
  obtain ⟨s, hrun, hphase⟩ := hrun
  exact ⟨s, _, hrun.mono fun _ _ _ hstep => hstep.2, .returnZero hphase,
    returns_after_answer rfl hrun (.returnZero hphase) trivial⟩

/-- A second opener finds `INIT` while the first one waits for the firmware. -/
theorem not_returns_after_answer :
    ¬ ∀ (acts : List Action) (s t : System) (a : Action),
      Run Step (System.start sm8150Core) acts s → Step s a t → a.Relies → s.Accepted := by
  intro haccepted
  have hresume : irisPcResume okEnv false sm8150Booted = (0, sm8150Booted) := by
    simp [irisPcResume]
  have hinit : irisCoreInitSection okEnv sm8150Booted = (some 0, sm8150Booted) := by
    simp [irisCoreInitSection, sm8150Booted_state]
  have hrun : Run Step (System.start sm8150Core)
      [.call 0, .initSection 0, .call 1, .initSection 1, .returnZero 1] _ :=
    .cons (Step.callCoreInit rfl)
    (.cons (Step.booted rfl sm8150_boots)
    (.cons (Step.openResumed rfl hresume)
    (.cons (Step.notBooted rfl hinit)
    (.cons (Step.returnZero rfl) (.nil _)))))
  have hready := haccepted _ _ _ (.handOut 1) hrun (Step.handOut rfl) trivial
  exact absurd hready.2 (by decide)

end NabuIris
