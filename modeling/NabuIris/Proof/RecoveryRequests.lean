import NabuIris.Proof.DeferredRecovery

/-!
# What becomes of a recovery request

From a request on, and until the firmware is booted again, recovery is pending, the core is not in
`INIT`, or a thread that has taken the request is on its way to power the core off. The worker that
handles a system error is the exception: it drops a request made since its own power cycle.
-/

namespace NabuIris

open Lib

namespace Driver

/-- The invariant. -/
structure KeepsRequests (s : Driver) : Prop where
  past : ∀ boot, s.requested = some boot → boot ≤ s.base.boot
  kept : ∀ boot, s.requested = some boot →
    s.base.core.recoveryPending = true ∨ s.base.core.state ≠ .init ∨
      (∃ t, (s.base.phase t).PowerOffDue) ∨ boot < s.base.boot

end Driver

/-- The condition on a step: the worker drops no request that nobody has acted on. -/
def DriverAction.KeepsRequest (s : Driver) : DriverAction → Prop
  | .sysErrorEnd _ => s.requested = some s.base.boot → s.base.core.state ≠ .init
  | _ => True

/-! ### Steps -/

/-- A step of a thread on its way to power the core off keeps it there, or leaves `INIT`. -/
theorem Step.powerOff {b b' : System} {a : Action} (hstep : Step b a b') (hinner : a.Inner b)
    {t : Nat} (hdue : (b.phase t).PowerOffDue) :
    (b'.phase t).PowerOffDue ∨ b'.core.state ≠ .init := by
  rcases (hstep.inner_frame hinner).phase t with hsame | hthread
  · rw [hsame]
    exact .inl hdue
  cases hstep with
  | deinitSkipped _ hstate =>
      refine .inr fun hinit => ?_
      exact absurd (hstate.symm.trans hinit) (by decide)
  | deinitStarted =>
      cases hthread
      rw [System.setPhase_self]
      exact .inl trivial
  | deinitSection => exact .inr nofun
  | readResponse | initDone | initFailed => exact absurd hthread nofun
  | handOut hphase | openFail hphase | returnZero hphase | powerCycle hphase =>
      cases hthread
      rw [hphase] at hdue
      exact hdue.elim
  | callCoreInit | callCoreRecover | openResumed | openRestarted => exact hinner.elim
  | systemError => exact hinner.elim
  | booted hphase | notBooted hphase | waitRefused hphase | waitStarted hphase | wake hphase
  | timeout hphase | markError hphase | returnError hphase =>
      cases hthread
      rw [hphase] at hdue
      exact hdue.elim

namespace Driver.KeepsRequests

variable {s s' : Driver}

theorem start (core : Core) (load : AdmissionCore) : (Driver.start core load).KeepsRequests where
  past _ hrequested := nomatch hrequested
  kept _ hrequested := nomatch hrequested

theorem frame (hinv : s.KeepsRequests) (hrequested : s'.requested = s.requested)
    (hboot : s'.base.boot = s.base.boot)
    (hpending : s.base.core.recoveryPending = true → s'.base.core.recoveryPending = true)
    (hstate : s'.base.core.state = .init → s.base.core.state = .init)
    (hdue : ∀ t, (s.base.phase t).PowerOffDue → (s'.base.phase t).PowerOffDue) :
    s'.KeepsRequests := by
  constructor
  · intro boot hboot'
    rw [hrequested] at hboot'
    exact (hinv.past boot hboot').trans_eq hboot.symm
  · intro boot hboot'
    rw [hrequested] at hboot'
    rcases hinv.kept boot hboot' with hpend | hne | ⟨t, ht⟩ | hlt
    · exact .inl (hpending hpend)
    · exact .inr (.inl fun hinit => hne (hstate hinit))
    · exact .inr (.inr (.inl ⟨t, hdue t ht⟩))
    · exact .inr (.inr (.inr (hlt.trans_eq hboot.symm)))

/-- A thread that takes the request goes on to power the core off. -/
theorem take (hinv : s.KeepsRequests) {t : Nat} {phase : Phase}
    (hrequested : s'.requested = s.requested) (hboot : s'.base.boot = s.base.boot)
    (hphase : s'.base.phase = Function.update s.base.phase t phase) (hdue : phase.PowerOffDue) :
    s'.KeepsRequests := by
  constructor
  · intro boot hboot'
    rw [hrequested] at hboot'
    exact (hinv.past boot hboot').trans_eq hboot.symm
  · refine fun _ _ => .inr (.inr (.inl ⟨t, ?_⟩))
    rwa [hphase, Function.update_self]

theorem setMode (hinv : s.KeepsRequests) (t : Nat) (mode : Mode) :
    (s.setMode t mode).KeepsRequests :=
  hinv.frame rfl rfl id id fun _ => id

theorem admission (hinv : s.KeepsRequests) (rules : OutputRules) (op : AdmissionOp) :
    (s.admission rules op).KeepsRequests :=
  hinv.frame rfl rfl id id fun _ => id

theorem setPhase (hinv : s.KeepsRequests) {t : Nat} (phase : Phase)
    (hphase : ¬(s.base.phase t).PowerOffDue) : (s.setPhase t phase).KeepsRequests := by
  refine hinv.frame rfl rfl id id fun u hu => ?_
  have hne : u ≠ t := by
    rintro rfl
    exact hphase hu
  rwa [Driver.setPhase, System.setPhase_ne hne]

theorem setCore (hinv : s.KeepsRequests) {core : Core}
    (hpending : core.recoveryPending = s.base.core.recoveryPending)
    (hstate : core.state = .init → s.base.core.state = .init) : (s.setCore core).KeepsRequests :=
  hinv.frame rfl rfl (fun hpend => hpending.trans hpend) hstate fun _ => id

theorem requestRecovery (s : Driver) : s.requestRecovery.KeepsRequests where
  past boot hrequested := by
    cases hrequested
    exact le_rfl
  kept _ _ := .inl rfl

theorem core {a : Action} {b : System} (hinv : s.KeepsRequests) (hinner : a.Inner s.base)
    (hstep : Step s.base a b) (queued : Bool) :
    ({ s with base := b, pcWorkQueued := queued } : Driver).KeepsRequests := by
  have hframe := hstep.inner_frame hinner
  constructor
  · exact fun boot hrequested => (hinv.past boot hrequested).trans hframe.boot
  · intro boot hrequested
    by_cases hinit : b.core.state = .init
    · rcases hinv.kept boot hrequested with hpend | hne | ⟨t, ht⟩ | hlt
      · exact .inl (hframe.recoveryPending.trans hpend)
      · have hbooted : s.base.boot < b.boot :=
          (hframe.state hinit).resolve_left hne
        exact .inr (.inr (.inr ((hinv.past boot hrequested).trans_lt hbooted)))
      · rcases hstep.powerOff hinner ht with hdue | hleft
        · exact .inr (.inr (.inl ⟨t, hdue⟩))
        · exact absurd hinit hleft
      · exact .inr (.inr (.inr (hlt.trans_le hframe.boot)))
    · exact .inr (.inl hinit)

end Driver.KeepsRequests

theorem DriverStep.keepsRequests {rules : OutputRules} {s s' : Driver} {a : DriverAction}
    (hstep : DriverStep rules s a s') (hok : a.KeepsRequest s) (hcore : s.InCoreOnly)
    (hinv : s.KeepsRequests) : s'.KeepsRequests := by
  cases hstep with
  | core _ hinner hbase => exact hinv.core hinner hbase _
  | openAwake hmode => exact (hinv.setPhase _ (hcore.notDue hmode id)).setMode _ _
  | @resumed t env core hmode hresume =>
      have hframe := AwakeFrame.pcResume env true s.base.core
      have hstate := (irisPcResume_frame env true s.base.core).1
      rw [hresume] at hframe hstate
      refine ((hinv.setCore hframe.recoveryPending ?_).setPhase _ ?_).setMode _ _
      · exact fun hinit => hstate.symm.trans hinit
      · exact hcore.notDue hmode id
  | @notResumed t env ret core hmode hresume =>
      have hframe := AwakeFrame.pcResume env true s.base.core
      have hstate := (irisPcResume_frame env true s.base.core).1
      rw [hresume] at hframe hstate
      exact (hinv.setCore hframe.recoveryPending fun hinit => hstate.symm.trans hinit).setMode _ _
  | restart | powerCycle | recover | sysErrorStart => exact hinv.take rfl rfl rfl trivial
  | handOut _ hphase =>
      have hadded : (s.setCore (irisAddSession s.base.core)).KeepsRequests := hinv.setCore rfl id
      refine ((hadded.admission rules _).setPhase _ ?_).setMode _ _
      rw [Driver.admission, Driver.setCore, System.setCore, hphase]
      exact id
  | instanceFail _ hphase =>
      refine (hinv.setPhase _ ?_).setMode _ _
      rw [hphase]
      exact id
  | seeError | coreFail | openCancel | sessionOpen | refused | sessionInitDone | notPending | busy
  | sessionClose | sessionEnd | recovered | admitted | releaseSlot | noSession | cleanup
  | removeSession | setPowerCollapse | admission =>
      exact hinv.frame rfl rfl id id fun _ => id
  | sessionInitFailed | closeFailed =>
      exact (Driver.KeepsRequests.requestRecovery s).setMode _ _
  | requestRecovery => exact .requestRecovery s
  | systemError => exact hinv.frame rfl rfl id (by rintro ⟨⟩) fun _ => id
  | sysErrorEnd =>
      constructor
      · exact hinv.past
      · intro boot hrequested
        rcases (hinv.past boot hrequested).lt_or_eq with hlt | rfl
        · exact .inr (.inr (.inr hlt))
        · exact .inr (.inl (hok hrequested))
  | pcSchedule =>
      obtain ⟨hbase, -, -, hrequested⟩ := s.pcSchedule_frame
      have hquiet : s.pcSchedule.KeepsRequests := by
        apply hinv.frame hrequested <;> rw [hbase]
        · exact id
        · exact id
        · exact fun _ => id
      exact hquiet.setMode _ _
  | @pcHandler env =>
      obtain ⟨hbase, -, -, hrequested⟩ := s.pcHandler_frame env
      obtain ⟨hframe, -, hstate⟩ := irisPcHandler_frame env s.base.core
      apply hinv.frame hrequested <;> rw [hbase, System.setCore]
      · exact fun hpend => hframe.recoveryPending.trans hpend
      · exact fun hinit => hstate.symm.trans hinit
      · exact fun _ => id
  | @pmSuspend env =>
      obtain ⟨hframe, -, hstate⟩ := irisPmSuspend_frame env s.base.core
      exact hinv.setCore hframe.recoveryPending fun hinit => hstate.symm.trans hinit
  | @pmResume env =>
      obtain ⟨hbase, -, -, hrequested⟩ := s.pmResume_frame env
      have hframe := AwakeFrame.pmResume env s.base.core
      have hstate := irisPmResume_state env s.base.core
      apply hinv.frame hrequested <;> rw [hbase, System.setCore]
      · exact fun hpend => hframe.recoveryPending.trans hpend
      · exact fun hinit => hstate.symm.trans hinit
      · exact fun _ => id

/-- The condition is needed: a request that is dropped while nobody powers the core off is lost. -/
theorem sysErrorEnd_drops {rules : OutputRules} {s : Driver} {t : Nat}
    (hmode : s.mode t = .sysError) (hphase : s.base.phase t = .idle)
    (hinit : s.base.core.state = .init) (hdue : ∀ u, ¬(s.base.phase u).PowerOffDue) :
    ∃ s', DriverStep rules s (.sysErrorEnd t) s' ∧ s'.requested = s.requested ∧
      s'.base.core.recoveryPending = false ∧ s'.base.core.state = .init ∧
      ∀ u, ¬(s'.base.phase u).PowerOffDue :=
  ⟨_, .sysErrorEnd hmode hphase, rfl, rfl, hinit, hdue⟩

/-- **No recovery request is lost** unless the worker that handles a system error drops it. -/
theorem recovery_request_kept {rules : OutputRules} {core : Core} {load : AdmissionCore}
    {acts : List DriverAction} {s : Driver} {boot : Nat}
    (hrun : Run (guarded (DriverStep rules) fun s a => a.KeepsRequest s) (.start core load) acts s)
    (hrequested : s.requested = some boot) :
    s.base.core.recoveryPending = true ∨ s.base.core.state ≠ .init ∨
      (∃ t, (s.base.phase t).PowerOffDue) ∨ boot < s.base.boot := by
  have hinv : s.InCoreOnly ∧ s.KeepsRequests :=
    @Run.invariant _ _ _ (fun s => s.InCoreOnly ∧ s.KeepsRequests)
      (fun _ _ _ hinv hstep =>
        ⟨hstep.2.inCoreOnly hinv.1, hstep.2.keepsRequests hstep.1 hinv.1 hinv.2⟩) _ _ _ hrun
      ⟨.start core load, .start core load⟩
  exact hinv.2.kept boot hrequested

theorem recovery_request_kept_first :
    firstRecovers.base.core.recoveryPending = true ∨ firstRecovers.base.core.state ≠ .init ∨
      (∃ t, (firstRecovers.base.phase t).PowerOffDue) ∨ 0 < firstRecovers.base.boot := by
  refine @recovery_request_kept flatRules sm8150Booted twoDecoders.load
    [.requestRecovery, .sessionOpen 0 0, .pendingCheck 0] firstRecovers 0 ?_ rfl
  exact firstRecovers_reached fun _ => ⟨trivial, trivial, trivial⟩

/-- A thread that has taken the request but not yet powered the core off leaves it in `INIT` with
nothing pending. -/
theorem recovery_request_taken :
    ¬∀ (rules : OutputRules) (core : Core) (load : AdmissionCore) (acts : List DriverAction)
      (s : Driver), Run (DriverStep rules) (.start core load) acts s →
      s.requested = some s.base.boot →
      s.base.core.recoveryPending = true ∨ s.base.core.state ≠ .init := by
  intro hall
  have hrun : Run (guarded (DriverStep flatRules) fun _ _ => True) twoDecoders _ firstRecovers :=
    firstRecovers_reached fun _ => ⟨trivial, trivial, trivial⟩
  rcases hall flatRules _ _ _ firstRecovers (hrun.mono fun _ _ _ hstep => hstep.2) rfl with
    hpending | hstate
  · exact absurd hpending (by decide)
  · exact hstate firstRecovers_state

end NabuIris
