import NabuIris.Driver
import NabuIris.Proof.OpenRecovery
import NabuIris.Proof.Readiness

/-!
# What bring-up, teardown and power collapse leave alone

None of them touches a recovery request or the list of instances. Only a collapse sets
`vpu_suspended`, and a thread in `iris_core_init` or `iris_core_recover` reaches `INIT` only by
booting the firmware.
-/

namespace NabuIris

variable {env : Env} {core core' core'' : Core}

/-! ### The core -/

structure FilesFrame (core core' : Core) : Prop where
  platformData : core'.platformData = core.platformData
  recoveryPending : core'.recoveryPending = core.recoveryPending
  instances : core'.instances = core.instances

/-- The VPU is not put to sleep either. -/
structure AwakeFrame (core core' : Core) : Prop extends FilesFrame core core' where
  vpuSuspended : core'.vpuSuspended = true → core.vpuSuspended = true

theorem FilesFrame.trans (hfirst : FilesFrame core core') (hsecond : FilesFrame core' core'') :
    FilesFrame core core'' where
  platformData := hsecond.platformData.trans hfirst.platformData
  recoveryPending := hsecond.recoveryPending.trans hfirst.recoveryPending
  instances := hsecond.instances.trans hfirst.instances

namespace AwakeFrame

theorem refl (core : Core) : AwakeFrame core core := ⟨⟨rfl, rfl, rfl⟩, id⟩

theorem trans (hfirst : AwakeFrame core core') (hsecond : AwakeFrame core' core'') :
    AwakeFrame core core'' :=
  ⟨hfirst.toFilesFrame.trans hsecond.toFilesFrame,
    fun hsuspended => hfirst.vpuSuspended (hsecond.vpuSuspended hsuspended)⟩

theorem of_power (hframe : PowerFrame core core') : AwakeFrame core core' :=
  ⟨⟨hframe.platformData, hframe.recoveryPending, hframe.instances⟩,
    fun hsuspended => hframe.vpuSuspended ▸ hsuspended⟩

theorem powerOff (env : Env) (core : Core) : AwakeFrame core (irisVpuPowerOff env core) :=
  of_power (irisVpuPowerOff_frame env core).1

theorem queuesDeinit (core : Core) : AwakeFrame core (irisHfiQueuesDeinit core) := by
  unfold irisHfiQueuesDeinit
  split_ifs
  · exact refl core
  · exact ⟨⟨rfl, rfl, rfl⟩, id⟩

theorem queuesInit {ret : Int} (hqueues : irisHfiQueuesInit env core = (ret, core')) :
    AwakeFrame core core' := by
  unfold irisHfiQueuesInit at hqueues
  split_ifs at hqueues <;> rw [← (Prod.mk.inj hqueues).2] <;> exact ⟨⟨rfl, rfl, rfl⟩, id⟩

theorem fwLoad {ret : Int} (hload : irisFwLoad env core = (ret, core')) :
    AwakeFrame core core' := by
  unfold irisFwLoad at hload
  split_ifs at hload <;> rw [← (Prod.mk.inj hload).2] <;> exact ⟨⟨rfl, rfl, rfl⟩, id⟩

theorem powerOn {ret : Int} (hpower : irisVpuPowerOn env core = (ret, core')) :
    AwakeFrame core core' := by
  have hframe := (irisVpuPowerOn_frame env core).1
  rw [hpower] at hframe
  exact of_power hframe

theorem initSection (env : Env) (core : Core) :
    AwakeFrame core (irisCoreInitSection env core).2 := by
  have hspec := irisCoreInitSection_spec env core
  revert hspec
  generalize irisCoreInitSection env core = result
  intro hspec
  have hinitialising : AwakeFrame core core.initialising := ⟨⟨rfl, rfl, rfl⟩, id⟩
  have hdeinit : ∀ last : Core, AwakeFrame last last.deinitialised :=
    fun last => ⟨⟨rfl, rfl, rfl⟩, id⟩
  cases hspec with
  | already => exact refl core
  | refused => exact hdeinit core
  | noQueues _ hqueues => exact (hinitialising.trans (queuesInit hqueues)).trans (hdeinit _)
  | noPower _ hqueues hpower =>
      have hon := (hinitialising.trans (queuesInit hqueues)).trans (powerOn hpower)
      exact (hon.trans (queuesDeinit _)).trans (hdeinit _)
  | noFirmware _ hqueues hpower hload =>
      have hon := (hinitialising.trans (queuesInit hqueues)).trans (powerOn hpower)
      have hoff := (hon.trans (fwLoad hload)).trans (powerOff env _)
      exact (hoff.trans (queuesDeinit _)).trans (hdeinit _)
  | noBoot _ hqueues hpower hload =>
      have hon := (hinitialising.trans (queuesInit hqueues)).trans (powerOn hpower)
      have hunload : ∀ last : Core, AwakeFrame last (irisFwUnload last) :=
        fun last => ⟨⟨rfl, rfl, rfl⟩, id⟩
      have hoff := ((hon.trans (fwLoad hload)).trans (hunload _)).trans (powerOff env _)
      exact (hoff.trans (queuesDeinit _)).trans (hdeinit _)
  | booted _ hqueues hpower hload =>
      exact ((hinitialising.trans (queuesInit hqueues)).trans (powerOn hpower)).trans (fwLoad hload)

theorem deinitSection (env : Env) (core : Core) :
    FilesFrame core (irisCoreDeinitSection env core) := by
  have hunload : AwakeFrame core (irisFwUnload core) := ⟨⟨rfl, rfl, rfl⟩, id⟩
  have hoff := (hunload.trans (powerOff env _)).trans (queuesDeinit _)
  exact ⟨hoff.platformData, hoff.recoveryPending, hoff.instances⟩

theorem resumeFromCollapse (env : Env) (core : Core) :
    AwakeFrame core (irisResumeFromCollapse env core).2 ∧
      ((irisResumeFromCollapse env core).1 = 0 →
        (irisResumeFromCollapse env core).2.vpuSuspended = false) := by
  have hspec := irisResumeFromCollapse_spec env core
  revert hspec
  generalize irisResumeFromCollapse env core = result
  intro hspec
  cases hspec with
  | noPower hpower => exact ⟨powerOn hpower, fun hret => absurd hret (by decide : -ebusy ≠ 0)⟩
  | noBoot hpower =>
      exact ⟨(powerOn hpower).trans (powerOff env _), fun hret =>
        absurd hret (by decide : -ebusy ≠ 0)⟩
  | resumed hpower =>
      have hon := powerOn hpower
      exact ⟨⟨⟨hon.platformData, hon.recoveryPending, hon.instances⟩,
        nofun⟩, fun _ => rfl⟩

theorem pcResume (env : Env) (powerCollapse : Bool) (core : Core) :
    AwakeFrame core (irisPcResume env powerCollapse core).2 := by
  unfold irisPcResume irisPcExit
  split_ifs
  · exact refl core
  · exact refl core
  · exact (resumeFromCollapse env core).1
  · exact refl core

theorem pmResume (env : Env) (core : Core) : AwakeFrame core (irisPmResume env core).2 := by
  unfold irisPmResume irisHfiPmResume
  split_ifs
  · exact refl core
  · exact refl core
  · exact (resumeFromCollapse env core).1

end AwakeFrame

/-- On the platforms that take part in power collapse, `iris_pc_resume` wakes the VPU or fails. -/
theorem irisPcResume_awake (hlegacy : core.platformData.legacyVpu5 = true)
    (hresume : irisPcResume env true core = (0, core')) : core'.vpuSuspended = false := by
  have hret : (irisPcResume env true core).1 = 0 := congrArg Prod.fst hresume
  have hcore : (irisPcResume env true core).2 = core' := congrArg Prod.snd hresume
  rw [← hcore]
  revert hret
  cases hsuspended : core.vpuSuspended with
  | false => simp [irisPcResume, hlegacy, hsuspended]
  | true =>
      simp only [irisPcResume, irisPcExit, hlegacy, hsuspended]
      exact (AwakeFrame.resumeFromCollapse env core).2

/-- Power is collapsed only without instances. -/
theorem FilesFrame.collapse (env : Env) (core : Core) :
    FilesFrame core { irisVpuPowerOff env core with vpuSuspended := true } := by
  have hoff := AwakeFrame.powerOff env core
  exact ⟨hoff.platformData, hoff.recoveryPending, hoff.instances⟩

theorem irisPcHandler_frame (env : Env) (core : Core) :
    FilesFrame core (irisPcHandler env core) ∧
      (core.instances ≠ 0 → irisPcHandler env core = core) ∧
      (irisPcHandler env core).state = core.state := by
  have hstate := (irisVpuPowerOff_frame env core).1.state
  refine ⟨?_, fun hfiles => ?_, ?_⟩
  · unfold irisPcHandler irisPcEnter
    split_ifs
    · exact (AwakeFrame.refl core).toFilesFrame
    · exact (AwakeFrame.refl core).toFilesFrame
    · exact .collapse env core
    · exact (AwakeFrame.refl core).toFilesFrame
  · simp [irisPcHandler, hfiles]
  · unfold irisPcHandler irisPcEnter
    split_ifs
    · rfl
    · rfl
    · exact hstate
    · rfl

theorem irisPmSuspend_frame (env : Env) (core : Core) :
    FilesFrame core (irisPmSuspend env core).2 ∧
      (core.instances ≠ 0 → (irisPmSuspend env core).2 = core) ∧
      (irisPmSuspend env core).2.state = core.state := by
  have hstate := (irisVpuPowerOff_frame env core).1.state
  refine ⟨?_, fun hfiles => ?_, ?_⟩
  · unfold irisPmSuspend irisHfiPmSuspend
    split_ifs
    all_goals first | exact (AwakeFrame.refl core).toFilesFrame | exact .collapse env core
  · unfold irisPmSuspend irisHfiPmSuspend
    rw [if_pos hfiles]
    split_ifs <;> rfl
  · unfold irisPmSuspend irisHfiPmSuspend
    split_ifs
    all_goals first | rfl | exact hstate

theorem irisPmResume_state (env : Env) (core : Core) :
    (irisPmResume env core).2.state = core.state := by
  unfold irisPmResume irisHfiPmResume
  split_ifs
  · rfl
  · rfl
  · exact (irisResumeFromCollapse_frame env core).1

/-! ### Threads in `iris_core_init` and `iris_core_recover` -/

namespace Phase

/-- On the way to the section of `iris_core_deinit`. -/
def PowerOffDue : Phase → Prop
  | .deinitEntry _ => True
  | .deinitLock _ => True
  | _ => False

end Phase

namespace System

theorem setPhase_self (s : System) (t : Nat) (phase : Phase) :
    (s.setPhase t phase).phase t = phase := Function.update_self ..

theorem setPhase_ne {s : System} {t u : Nat} {phase : Phase} (hne : u ≠ t) :
    (s.setPhase t phase).phase u = s.phase u := Function.update_of_ne hne ..

end System

/-- What a step of such a thread does to the rest. -/
structure InnerFrame (b : System) (a : Action) (b' : System) : Prop
    extends FilesFrame b.core b'.core where
  vpuSuspended : b'.core.vpuSuspended = true → b.core.vpuSuspended = true
  boot : b.boot ≤ b'.boot
  state : b'.core.state = .init → b.core.state = .init ∨ b.boot < b'.boot
  phase : ∀ t, b'.phase t = b.phase t ∨ a.thread = some t

theorem InnerFrame.setPhase {b b' : System} {a : Action} {t : Nat} {phase : Phase}
    (hthread : a.thread = some t) (hcore : AwakeFrame b.core b'.core) (hboot : b.boot ≤ b'.boot)
    (hstate : b'.core.state = .init → b.core.state = .init ∨ b.boot < b'.boot)
    (hphase : b'.phase = b.phase) : InnerFrame b a (b'.setPhase t phase) where
  toFilesFrame := hcore.toFilesFrame
  vpuSuspended := hcore.vpuSuspended
  boot := hboot
  state := hstate
  phase := by
    intro u
    by_cases hu : u = t
    · subst hu
      exact .inr hthread
    · exact .inl ((System.setPhase_ne hu).trans (congrFun hphase u))

theorem Step.inner_frame {b b' : System} {a : Action} (hstep : Step b a b') (hinner : a.Inner b) :
    InnerFrame b a b' := by
  have hsame := AwakeFrame.refl b.core
  have herror : AwakeFrame b.core { b.core with state := .error } := ⟨⟨rfl, rfl, rfl⟩, id⟩
  cases hstep with
  | callCoreInit => exact hinner.elim
  | callCoreRecover => exact hinner.elim
  | openResumed => exact hinner.elim
  | openRestarted => exact hinner.elim
  | handOut => exact hinner.elim
  | openFail => exact hinner.elim
  | systemError => exact hinner.elim
  | powerCycle hphase hstate => exact absurd hstate (hinner hphase)
  | booted _ hsection =>
      have hframe := AwakeFrame.initSection ‹Env› b.core
      rw [hsection] at hframe
      exact .setPhase rfl hframe (Nat.le_succ _) (fun _ => .inr (Nat.lt_succ_self _)) rfl
  | notBooted _ hsection =>
      have hframe := AwakeFrame.initSection ‹Env› b.core
      have hspec := irisCoreInitSection_notBooted hsection
      rw [hsection] at hframe
      refine .setPhase rfl hframe le_rfl (fun hinit => .inl ?_) rfl
      by_contra hne
      exact absurd ((hspec.2.2.2 hne).symm.trans hinit) (by decide)
  | waitRefused => exact .setPhase rfl hsame le_rfl .inl rfl
  | waitStarted => exact .setPhase rfl hsame le_rfl .inl rfl
  | wake => exact .setPhase rfl hsame le_rfl .inl rfl
  | timeout => exact .setPhase rfl hsame le_rfl .inl rfl
  | markError =>
      exact .setPhase rfl herror le_rfl nofun rfl
  | returnZero => exact .setPhase rfl hsame le_rfl .inl rfl
  | returnError => exact .setPhase rfl hsame le_rfl .inl rfl
  | deinitSkipped => exact .setPhase rfl hsame le_rfl .inl rfl
  | deinitStarted => exact .setPhase rfl hsame le_rfl .inl rfl
  | deinitSection =>
      have hframe := AwakeFrame.deinitSection ‹Env› b.core
      exact .setPhase rfl ⟨hframe, nofun⟩ le_rfl
        nofun rfl
  | readResponse =>
      exact ⟨hsame.toFilesFrame, hsame.vpuSuspended, le_rfl, .inl, fun _ => .inl rfl⟩
  | initDone => exact ⟨hsame.toFilesFrame, hsame.vpuSuspended, le_rfl, .inl, fun _ => .inl rfl⟩
  | initFailed =>
      exact ⟨herror.toFilesFrame, herror.vpuSuspended, le_rfl,
        nofun, fun _ => .inl rfl⟩

/-- Such a thread is on the way to the section of `iris_core_deinit` only if it was before. -/
theorem Step.powerOffDue {b b' : System} {a : Action} (hstep : Step b a b') (hinner : a.Inner b)
    {t : Nat} (hdue : (b'.phase t).PowerOffDue) : (b.phase t).PowerOffDue := by
  rcases (hstep.inner_frame hinner).phase t with hsame | hthread
  · rwa [hsame] at hdue
  cases hstep with
  | callCoreInit => exact hinner.elim
  | callCoreRecover => exact hinner.elim
  | openResumed => exact hinner.elim
  | openRestarted => exact hinner.elim
  | handOut => exact hinner.elim
  | openFail => exact hinner.elim
  | systemError => exact hinner.elim
  | powerCycle hphase hstate => exact absurd hstate (hinner hphase)
  | deinitStarted hphase =>
      cases hthread
      rw [hphase]
      trivial
  | returnZero =>
      cases hthread
      rw [System.setPhase_self] at hdue
      cases ‹Caller› <;> exact hdue.elim
  | returnError =>
      cases hthread
      rw [System.setPhase_self] at hdue
      cases ‹Caller› <;> exact hdue.elim
  | notBooted =>
      cases hthread
      rw [System.setPhase_self] at hdue
      split_ifs at hdue <;> exact hdue.elim
  | readResponse | initDone | initFailed => exact absurd hthread nofun
  | _ =>
      cases hthread
      rw [System.setPhase_self] at hdue
      exact hdue.elim

/-! ### The driver around them -/

namespace Driver

variable {s s' : Driver} {t : Nat}

@[simp]
theorem setMode_self (s : Driver) (t : Nat) (mode : Mode) : (s.setMode t mode).mode t = mode :=
  Function.update_self ..

theorem pcSchedule_frame (s : Driver) :
    s.pcSchedule.base = s.base ∧ s.pcSchedule.mode = s.mode ∧ s.pcSchedule.load = s.load ∧
      s.pcSchedule.requested = s.requested := by
  unfold pcSchedule
  split_ifs <;> exact ⟨rfl, rfl, rfl, rfl⟩

theorem pcHandler_frame (env : Env) (s : Driver) :
    (s.pcHandler env).base = s.base.setCore (irisPcHandler env s.base.core) ∧
      (s.pcHandler env).mode = s.mode ∧ (s.pcHandler env).load = s.load ∧
      (s.pcHandler env).requested = s.requested := by
  unfold pcHandler
  simp only
  split_ifs
  · exact pcSchedule_frame _
  · exact ⟨rfl, rfl, rfl, rfl⟩

theorem pmResume_frame (env : Env) (s : Driver) :
    (s.pmResume env).base = s.base.setCore (irisPmResume env s.base.core).2 ∧
      (s.pmResume env).mode = s.mode ∧ (s.pmResume env).load = s.load ∧
      (s.pmResume env).requested = s.requested := by
  unfold pmResume
  simp only
  split_ifs
  · exact pcSchedule_frame _
  · exact ⟨rfl, rfl, rfl, rfl⟩

/-- Only threads in `iris_core_recover` are on the way to the section of `iris_core_deinit`. -/
def InCoreOnly (s : Driver) : Prop := ∀ t, (s.base.phase t).PowerOffDue → (s.mode t).InCore

theorem InCoreOnly.notDue (hinv : s.InCoreOnly) {mode : Mode} (hmode : s.mode t = mode)
    (hcore : ¬mode.InCore) : ¬(s.base.phase t).PowerOffDue :=
  fun hdue => hcore (hmode ▸ hinv t hdue)

/-- A thread that is not on its way there. -/
theorem InCoreOnly.frame (hinv : s.InCoreOnly) {mode : Mode} (hphase : s'.base.phase = s.base.phase)
    (hmode : s'.mode = Function.update s.mode t mode) (hdue : ¬(s.base.phase t).PowerOffDue) :
    s'.InCoreOnly := by
  intro u hu
  rw [hphase] at hu
  have hne : u ≠ t := by
    rintro rfl
    exact hdue hu
  rw [hmode, Function.update_of_ne hne]
  exact hinv u hu

theorem InCoreOnly.enter (hinv : s.InCoreOnly) {mode : Mode} {phase : Phase}
    (hphase : s'.base.phase = Function.update s.base.phase t phase)
    (hmode : s'.mode = Function.update s.mode t mode) (hcore : phase.PowerOffDue → mode.InCore) :
    s'.InCoreOnly := by
  intro u hu
  by_cases hut : u = t
  · subst hut
    rw [hmode, Function.update_self]
    rw [hphase, Function.update_self] at hu
    exact hcore hu
  · rw [hmode, Function.update_of_ne hut]
    rw [hphase, Function.update_of_ne hut] at hu
    exact hinv u hu

theorem InCoreOnly.quiet (hinv : s.InCoreOnly) (hphase : s'.base.phase = s.base.phase)
    (hmode : s'.mode = s.mode) : s'.InCoreOnly := by
  rw [InCoreOnly, hphase, hmode]
  exact hinv

theorem InCoreOnly.start (core : Core) (load : AdmissionCore) :
    (Driver.start core load).InCoreOnly :=
  fun _ hdue => hdue.elim

end Driver

theorem DriverStep.inCoreOnly {rules : OutputRules} {s s' : Driver} {a : DriverAction}
    (hstep : DriverStep rules s a s') (hinv : s.InCoreOnly) : s'.InCoreOnly := by
  cases hstep with
  | core _ hinner hbase => exact fun u hu => hinv u (hbase.powerOffDue hinner hu)
  | openAwake | resumed | restart | powerCycle | recover | sysErrorStart =>
      exact hinv.enter rfl rfl fun _ => trivial
  | handOut | instanceFail => exact hinv.enter rfl rfl fun hdue => hdue.elim
  | openCancel hmode | notResumed hmode | sessionOpen hmode | admitted hmode | refused hmode
  | sessionInitDone hmode | sessionInitFailed hmode | releaseSlot hmode | notPending hmode
  | busy hmode | sessionClose hmode | noSession hmode | sessionEnd hmode | cleanup hmode
  | closeFailed hmode | removeSession hmode =>
      exact hinv.frame rfl rfl (hinv.notDue hmode id)
  | seeError _ hphase | coreFail _ hphase | recovered _ hphase | sysErrorEnd _ hphase =>
      refine hinv.frame rfl rfl ?_
      rw [hphase]
      exact id
  | pcSchedule hmode =>
      obtain ⟨hbase, hmodes, -, -⟩ := s.pcSchedule_frame
      have hquiet : s.pcSchedule.InCoreOnly := hinv.quiet (congrArg System.phase hbase) hmodes
      refine hquiet.frame rfl rfl ?_
      rw [hbase]
      exact hinv.notDue hmode id
  | requestRecovery | systemError | pmSuspend | setPowerCollapse | admission =>
      exact hinv.quiet rfl rfl
  | @pcHandler env =>
      obtain ⟨hbase, hmodes, -, -⟩ := s.pcHandler_frame env
      exact hinv.quiet (by rw [hbase, System.setCore]) hmodes
  | @pmResume env =>
      obtain ⟨hbase, hmodes, -, -⟩ := s.pmResume_frame env
      exact hinv.quiet (by rw [hbase, System.setCore]) hmodes

end NabuIris
