import NabuIris.Lib.Run
import NabuIris.Proof.AdmissionBudget
import NabuIris.Proof.DriverFrame

/-!
# Deferred recovery and live sessions

`iris_run_pending_core_recovery` looks for open sessions in one section and powers the core off in
another. No session is open in the second in every run in which no slot is reserved between the
two.
-/

namespace NabuIris

open Lib

namespace Driver

/-- `iris_run_pending_core_recovery` has decided to power the core off and has not done so. -/
def PoweringOff (s : Driver) (t : Nat) : Prop :=
  (∃ next, s.mode t = .recovering next) ∧ (s.base.phase t).PowerOffDue

/-- The invariant. -/
def Spares (s : Driver) : Prop := ∀ t, s.PoweringOff t → ¬s.HasSession

end Driver

/-- The condition on a step. -/
def DriverAction.Spares (s : Driver) : DriverAction → Prop
  | .reserveSlot _ => ∀ t, ¬s.PoweringOff t
  | _ => True

/-! ### Sessions -/

theorem AdmissionCore.session_setInst {core : AdmissionCore} {i k : Nat} {inst : LoadInst}
    (hopened : ((core.setInst i inst).inst k).hfiSessionOpened = true)
    (hinst : inst.hfiSessionOpened = true → (core.inst i).hfiSessionOpened = true) :
    (core.inst k).hfiSessionOpened = true := by
  by_cases hk : k = i
  · subst hk
    simp only [AdmissionCore.setInst, Function.update_self] at hopened
    exact hinst hopened
  · simpa only [AdmissionCore.setInst, Function.update_of_ne hk] using hopened

/-- Only `iris_hfi_session_open` opens a session. -/
theorem Driver.HasSession.of_admission {rules : OutputRules} {s : Driver} {op : AdmissionOp}
    (hop : ∀ i, op ≠ .sessionOpen i) (hsession : (s.admission rules op).HasSession) :
    s.HasSession := by
  obtain ⟨k, hmem, hopened⟩ := hsession
  simp only [Driver.admission] at hmem hopened
  cases op with
  | sessionOpen i => exact absurd rfl (hop i)
  | add i domain =>
      simp only [applyAdmission] at hmem hopened
      split_ifs at hmem hopened with hin
      · exact ⟨k, hmem, hopened⟩
      · have hk := AdmissionCore.session_setInst hopened fun h => absurd h Bool.false_ne_true
        rcases List.mem_append.1 hmem with hold | hnew
        · exact ⟨k, hold, hk⟩
        · obtain rfl := List.mem_singleton.1 hnew
          simp [AdmissionCore.setInst, LoadInst.opened] at hopened
  | remove i => exact ⟨k, List.mem_of_mem_erase hmem, hopened⟩
  | reserve i rate =>
      simp only [applyAdmission, irisReserveCoreLoad] at hmem hopened
      split_ifs at hmem hopened
      all_goals first
        | exact ⟨k, hmem, hopened⟩
        | exact ⟨k, hmem, AdmissionCore.session_setInst hopened id⟩
  | setFormat i change =>
      simp only [applyAdmission] at hmem hopened
      split_ifs at hmem hopened
      · refine ⟨k, hmem, AdmissionCore.session_setInst hopened fun hinst => ?_⟩
        rwa [(change.apply_frame rules s.load.limits (s.load.inst i)).1] at hinst
      · exact ⟨k, hmem, hopened⟩
  | release i | releaseSlot i | sessionClose i =>
      simp only [applyAdmission, irisReleaseCoreLoad, irisHfiSessionCloseSection] at hmem hopened
      split_ifs at hmem hopened
      all_goals first
        | exact ⟨k, hmem, hopened⟩
        | exact ⟨k, hmem, AdmissionCore.session_setInst hopened id⟩
        | exact ⟨k, hmem, AdmissionCore.session_setInst hopened fun h =>
            absurd h Bool.false_ne_true⟩

namespace Driver

variable {s s' : Driver} {t : Nat}

/-! ### Steps -/

/-- What a thread does while it is not about to power the core off. -/
theorem Spares.frame (hinv : s.Spares) {mode : Mode}
    (hsession : s'.HasSession → s.HasSession) (hphase : s'.base.phase = s.base.phase)
    (hmode : s'.mode = Function.update s.mode t mode) (hdue : ¬(s.base.phase t).PowerOffDue) :
    s'.Spares := by
  rintro u ⟨hrecovering, hu⟩ hlive
  rw [hphase] at hu
  have hne : u ≠ t := by
    rintro rfl
    exact hdue hu
  rw [hmode, Function.update_of_ne hne] at hrecovering
  exact hinv u ⟨hrecovering, hu⟩ (hsession hlive)

theorem Spares.enter (hinv : s.Spares) {mode : Mode} {phase : Phase}
    (hsession : s'.HasSession → s.HasSession)
    (hphase : s'.base.phase = Function.update s.base.phase t phase)
    (hmode : s'.mode = Function.update s.mode t mode)
    (hnone : phase.PowerOffDue → (∃ next, mode = .recovering next) → ¬s.HasSession) :
    s'.Spares := by
  rintro u ⟨hrecovering, hu⟩ hlive
  by_cases hut : u = t
  · subst hut
    rw [hmode, Function.update_self] at hrecovering
    rw [hphase, Function.update_self] at hu
    exact hnone hu hrecovering (hsession hlive)
  · rw [hmode, Function.update_of_ne hut] at hrecovering
    rw [hphase, Function.update_of_ne hut] at hu
    exact hinv u ⟨hrecovering, hu⟩ (hsession hlive)

theorem Spares.quiet (hinv : s.Spares) (hsession : s'.HasSession → s.HasSession)
    (hphase : s'.base.phase = s.base.phase) (hmode : s'.mode = s.mode) : s'.Spares := by
  rintro u ⟨hrecovering, hu⟩ hlive
  rw [hmode] at hrecovering
  rw [hphase] at hu
  exact hinv u ⟨hrecovering, hu⟩ (hsession hlive)

end Driver

/-- A step keeps the invariant if it reserves no slot at the wrong time. -/
theorem DriverStep.spares {rules : OutputRules} {s s' : Driver} {a : DriverAction}
    (hstep : DriverStep rules s a s') (hok : a.Spares s) (hcore : s.InCoreOnly)
    (hinv : s.Spares) : s'.Spares := by
  cases hstep with
  | core _ hinner hbase =>
      rintro u ⟨hrecovering, hu⟩
      exact hinv u ⟨hrecovering, hbase.powerOffDue hinner hu⟩
  | openAwake | resumed | restart | powerCycle | instanceFail | sysErrorStart =>
      exact hinv.enter id rfl rfl nofun
  | handOut => exact hinv.enter (.of_admission nofun) rfl rfl nofun
  | recover _ _ hnone => exact hinv.enter id rfl rfl fun _ _ => hnone
  | seeError _ hphase | coreFail _ hphase | recovered _ hphase | sysErrorEnd _ hphase =>
      refine hinv.frame id rfl rfl ?_
      rw [hphase]
      exact id
  | openCancel hmode | notResumed hmode | sessionOpen hmode | refused hmode
  | sessionInitDone hmode | sessionInitFailed hmode | notPending hmode | busy hmode
  | sessionClose hmode | sessionEnd hmode | closeFailed hmode =>
      exact hinv.frame id rfl rfl (hcore.notDue hmode id)
  | releaseSlot hmode | noSession hmode | cleanup hmode | removeSession hmode =>
      exact hinv.frame (.of_admission nofun) rfl rfl (hcore.notDue hmode id)
  | @admitted t i hmode =>
      rintro u ⟨⟨next, hrecovering⟩, hu⟩ -
      have hne : u ≠ t := by
        rintro rfl
        exact hcore.notDue hmode id hu
      simp only [Driver.setMode, Driver.admission, Function.update_of_ne hne] at hrecovering
      exact hok u ⟨⟨next, hrecovering⟩, hu⟩
  | pcSchedule hmode =>
      obtain ⟨hbase, hmodes, hload, -⟩ := s.pcSchedule_frame
      have hquiet : s.pcSchedule.Spares := by
        refine hinv.quiet (fun hlive => ?_) (congrArg System.phase hbase) hmodes
        simpa only [Driver.HasSession, hload] using hlive
      refine hquiet.frame id rfl rfl ?_
      rw [hbase]
      exact hcore.notDue hmode id
  | requestRecovery | systemError | pmSuspend | setPowerCollapse => exact hinv.quiet id rfl rfl
  | @pcHandler env =>
      obtain ⟨hbase, hmodes, hload, -⟩ := s.pcHandler_frame env
      refine hinv.quiet (fun hlive => ?_) (by rw [hbase, System.setCore]) hmodes
      simpa only [Driver.HasSession, hload] using hlive
  | @pmResume env =>
      obtain ⟨hbase, hmodes, hload, -⟩ := s.pmResume_frame env
      refine hinv.quiet (fun hlive => ?_) (by rw [hbase, System.setCore]) hmodes
      simpa only [Driver.HasSession, hload] using hlive
  | @admission op hop =>
      refine hinv.quiet (.of_admission ?_) rfl rfl
      rintro i rfl
      exact hop

/-- **Deferred recovery.** In a run in which no slot is reserved while a thread has decided to power
the core off for a recovery request and has not done so, no session is open when it does. -/
theorem deferred_recovery_spares_sessions {rules : OutputRules} {core : Core} {load : AdmissionCore}
    {acts : List DriverAction} {s s' : Driver} {t : Nat} {next : Next}
    (hrun : Run (guarded (DriverStep rules) fun s a => a.Spares s) (.start core load) acts s)
    (hmode : s.mode t = .recovering next)
    (hoff : DriverStep rules s (.core (.deinitSection t)) s') : ¬s.HasSession := by
  have hinv : s.InCoreOnly ∧ s.Spares :=
    @Run.invariant _ _ _ (fun s => s.InCoreOnly ∧ s.Spares)
      (fun _ _ _ hinv hstep =>
        ⟨hstep.2.inCoreOnly hinv.1, hstep.2.spares hstep.1 hinv.1 hinv.2⟩) _ _ _ hrun
      ⟨.start core load, fun _ hpowering => hpowering.2.elim⟩
  refine hinv.2 t ⟨⟨next, hmode⟩, ?_⟩
  cases hoff with
  | core _ _ hbase =>
      cases hbase with
      | deinitSection hphase =>
          rw [hphase]
          trivial

/-! ### Two decoders -/

def flatRules : OutputRules := { size := fun _ => 115200, count := fun _ => 4 }

/-- An SM8150 core with two decoders open, neither of which has a session. -/
def twoDecoders : Driver :=
  .start sm8150Booted
    (admissionAfter flatRules (.start flatRules sm8150Limits) [.add 0 .decoder, .add 1 .decoder])

/-- Recovery was requested, and the first decoder asks for a session: its thread has decided to
power the core off. -/
def firstRecovers : Driver :=
  ((twoDecoders.requestRecovery.setMode 0 (.pendingCheck (.sessionOpen 0))).clearPending.setPhase 0
    (.deinitEntry .coreRecover)).setMode 0 (.recovering (.sessionOpen 0))

/-- The second decoder opens a session. -/
def secondOpens (s : Driver) : Driver :=
  ((((s.setMode 1 (.pendingCheck (.sessionOpen 1))).setMode 1 (.sessionOpen 1)).admission flatRules
    (.sessionOpen 1)).setMode 1 (.sessionInit 1))

theorem firstRecovers_reached {cond : Driver → DriverAction → Prop}
    (hcond : ∀ s, cond s .requestRecovery ∧ cond s (.sessionOpen 0 0) ∧ cond s (.pendingCheck 0)) :
    Run (guarded (DriverStep flatRules) cond) twoDecoders
      [.requestRecovery, .sessionOpen 0 0, .pendingCheck 0] firstRecovers := by
  refine .cons ⟨(hcond _).1, .requestRecovery⟩ ?_
  refine .cons ⟨(hcond _).2.1, .sessionOpen rfl (by decide) rfl⟩ ?_
  refine .cons ⟨(hcond _).2.2, .recover rfl rfl ?_⟩ (.nil _)
  decide

theorem secondOpens_reached :
    Run (DriverStep flatRules) firstRecovers
      [.sessionOpen 1 1, .pendingCheck 1, .reserveSlot 1] (secondOpens firstRecovers) := by
  refine .cons (.sessionOpen rfl (by decide) rfl) ?_
  refine .cons (.notPending rfl rfl) ?_
  refine .cons (.admitted rfl ?_) (.nil _)
  decide

/-- The thread of the first decoder finds the core in `INIT` and powers it off. -/
theorem poweredOff {s : Driver} (hmode : s.mode 0 = .recovering (.sessionOpen 0))
    (hphase : s.base.phase 0 = .deinitEntry .coreRecover) (hstate : s.base.core.state = .init) :
    DriverStep flatRules s (.core (.lookAtState 0)) (s.setPhase 0 (.deinitLock .coreRecover)) ∧
      ∃ s', DriverStep flatRules (s.setPhase 0 (.deinitLock .coreRecover))
        (.core (.deinitSection 0)) s' := by
  have hcore : ∀ u, some 0 = some u → (s.mode u).InCore := by
    rintro u ⟨⟩
    rw [hmode]
    trivial
  constructor
  · have hne : s.base.core.state ≠ .deinit := by
      rw [hstate]
      decide
    have hstep : DriverStep flatRules s (.core (.lookAtState 0))
        { s with base := s.base.setPhase 0 (.deinitLock .coreRecover)
                 pcWorkQueued := s.pcWorkQueued && true } :=
      .core hcore trivial (.deinitStarted hphase hne)
    rwa [Bool.and_true] at hstep
  · exact ⟨_, .core hcore trivial
      (@Step.deinitSection _ 0 _ (fun _ => 0) (System.setPhase_self ..))⟩

theorem firstRecovers_state : firstRecovers.base.core.state = .init := sm8150Booted_state

theorem deferred_recovery_spares_sessions_first :
    ¬(firstRecovers.setPhase 0 (.deinitLock .coreRecover)).HasSession := by
  obtain ⟨hlook, _, hoff⟩ := @poweredOff firstRecovers rfl rfl firstRecovers_state
  have hfirst : Run (guarded (DriverStep flatRules) fun s a => a.Spares s) twoDecoders _
      firstRecovers := firstRecovers_reached fun _ => ⟨trivial, trivial, trivial⟩
  have hrun := hfirst.snoc (a := DriverAction.core _) ⟨trivial, hlook⟩
  exact deferred_recovery_spares_sessions hrun rfl hoff

/-- The second decoder opens its session between the two sections. -/
theorem deferred_recovery_hits_session :
    ¬∀ (rules : OutputRules) (core : Core) (load : AdmissionCore) (acts : List DriverAction)
      (s s' : Driver) (t : Nat) (next : Next),
      Run (DriverStep rules) (.start core load) acts s → s.mode t = .recovering next →
      DriverStep rules s (.core (.deinitSection t)) s' → ¬s.HasSession := by
  intro hall
  have hstate : (secondOpens firstRecovers).base.core.state = .init := firstRecovers_state
  obtain ⟨hlook, s', hoff⟩ := @poweredOff (secondOpens firstRecovers) rfl rfl hstate
  have hfirst : Run (guarded (DriverStep flatRules) fun _ _ => True) twoDecoders _ firstRecovers :=
    firstRecovers_reached fun _ => ⟨trivial, trivial, trivial⟩
  have hrun := ((hfirst.mono fun _ _ _ hstep => hstep.2).append secondOpens_reached).snoc hlook
  exact hall flatRules _ _ _ _ s' 0 _ hrun rfl hoff (by decide)

end NabuIris
