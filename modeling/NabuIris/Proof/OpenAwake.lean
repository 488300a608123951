import NabuIris.Proof.DeferredRecovery

/-!
# Power collapse and open files

On legacy VPU5 the VPU is awake while a file is open in every run in which `iris_open` does not skip
its resume of a collapsed VPU, nothing collapses the VPU between the resume of an `iris_open` and
the moment its instance is on the list, and the restart after a failed resume powers the core off.
-/

namespace NabuIris

open Lib

namespace Phase

/-- In the restart after a failed resume, before the core is powered off. -/
def Restarting : Phase → Prop
  | .deinitEntry caller => caller = .openRestart
  | .deinitLock caller => caller = .openRestart
  | _ => False

theorem Restarting.powerOffDue {phase : Phase} (hrestarting : phase.Restarting) :
    phase.PowerOffDue := by
  cases phase <;> trivial

end Phase

/-- In `iris_open`, past its `iris_pc_resume`. -/
def Mode.Opens : Mode → Prop
  | .opening => True
  | .coreErrored => True
  | _ => False

theorem Next.not_opens (next : Next) : ¬next.mode.Opens := by
  cases next <;> exact id

namespace Driver

/-- `iris_open` has resumed the VPU and its instance is not on the list yet. -/
def Resumed (s : Driver) (t : Nat) : Prop := (s.mode t).Opens ∧ ¬(s.base.phase t).Restarting

/-- The invariant. -/
structure Awake (s : Driver) : Prop where
  legacy : s.base.core.platformData.legacyVpu5 = true
  count : s.base.core.instances = s.load.instances.length
  files : s.base.core.instances ≠ 0 → s.base.core.vpuSuspended = false
  resumed : ∀ t, s.Resumed t → s.base.core.vpuSuspended = false

/-- Nothing is about to be put on an empty list. -/
def NoneResumed (s : Driver) : Prop := s.base.core.instances = 0 → ∀ t, ¬s.Resumed t

end Driver

/-- The condition on a step. -/
def DriverAction.Awake (s : Driver) : DriverAction → Prop
  | .openStart _ => s.powerCollapse = false → s.base.core.vpuSuspended = false
  | .pcHandler => s.NoneResumed
  | .pmSuspend => s.NoneResumed
  | .core (.lookAtState t) =>
      s.base.phase t = .deinitEntry .openRestart → s.base.core.state = .deinit →
        s.base.core.vpuSuspended = false
  | _ => True

/-! ### Steps -/

/-- A thread gets past the restart only when the VPU is awake. -/
theorem Step.restarting {b b' : System} {a : Action} (hstep : Step b a b') (hinner : a.Inner b)
    (hskip : ∀ t, a = .lookAtState t → b.phase t = .deinitEntry .openRestart →
      b.core.state = .deinit → b.core.vpuSuspended = false)
    {t : Nat} (hrestarting : (b.phase t).Restarting) :
    (b'.phase t).Restarting ∨ b'.core.vpuSuspended = false := by
  rcases (hstep.inner_frame hinner).phase t with hsame | hthread
  · rw [hsame]
    exact .inl hrestarting
  cases hstep with
  | deinitSkipped hphase hstate =>
      cases hthread
      rw [hphase] at hrestarting
      cases hrestarting
      exact .inr (hskip _ rfl hphase hstate)
  | deinitStarted hphase =>
      cases hthread
      rw [hphase] at hrestarting
      rw [System.setPhase_self]
      exact .inl hrestarting
  | deinitSection => exact .inr rfl
  | readResponse | initDone | initFailed => exact absurd hthread nofun
  | callCoreInit | callCoreRecover | openResumed | openRestarted => exact hinner.elim
  | systemError => exact hinner.elim
  | handOut hphase | openFail hphase | returnZero hphase | powerCycle hphase | booted hphase
  | notBooted hphase | waitRefused hphase | waitStarted hphase | wake hphase | timeout hphase
  | markError hphase | returnError hphase =>
      cases hthread
      rw [hphase] at hrestarting
      exact hrestarting.elim

namespace Driver

variable {s s' : Driver} {t : Nat}

theorem Resumed.of_mode {mode : Mode} {u : Nat} (hresumed : s'.Resumed u)
    (hphase : s'.base.phase = s.base.phase) (hmode : s'.mode = Function.update s.mode t mode)
    (hopens : mode.Opens → (s.mode t).Opens) : s.Resumed u := by
  obtain ⟨hu, hrestarting⟩ := hresumed
  rw [hphase] at hrestarting
  by_cases hut : u = t
  · subst hut
    rw [hmode, Function.update_self] at hu
    exact ⟨hopens hu, hrestarting⟩
  · rw [hmode, Function.update_of_ne hut] at hu
    exact ⟨hu, hrestarting⟩

theorem Resumed.of_enter {mode : Mode} {phase : Phase} {u : Nat} (hresumed : s'.Resumed u)
    (hphase : s'.base.phase = Function.update s.base.phase t phase)
    (hmode : s'.mode = Function.update s.mode t mode) :
    s.Resumed u ∨ (u = t ∧ mode.Opens ∧ ¬phase.Restarting) := by
  obtain ⟨hu, hrestarting⟩ := hresumed
  by_cases hut : u = t
  · subst hut
    rw [hmode, Function.update_self] at hu
    rw [hphase, Function.update_self] at hrestarting
    exact .inr ⟨rfl, hu, hrestarting⟩
  · rw [hmode, Function.update_of_ne hut] at hu
    rw [hphase, Function.update_of_ne hut] at hrestarting
    exact .inl ⟨hu, hrestarting⟩

namespace Awake

theorem start {pd : PlatformData} {tbl : List Clk} {base : Resource → Int} (rules : OutputRules)
    (limits : AdmissionLimits) (hlegacy : pd.legacyVpu5 = true) :
    (Driver.start (.probed pd tbl base) (.start rules limits)).Awake where
  legacy := hlegacy
  count := rfl
  files hfiles := absurd rfl hfiles
  resumed _ hresumed := hresumed.1.elim

/-- What neither opens nor closes a file nor puts the VPU to sleep. -/
theorem frame (hinv : s.Awake) (hpd : s'.base.core.platformData = s.base.core.platformData)
    (hinstances : s'.base.core.instances = s.base.core.instances)
    (hlist : s'.load.instances = s.load.instances)
    (hasleep : s'.base.core.vpuSuspended = true → s.base.core.vpuSuspended = true)
    (hresumed : ∀ u, s'.Resumed u → s.Resumed u ∨ s'.base.core.vpuSuspended = false) :
    s'.Awake := by
  have hawake : s.base.core.vpuSuspended = false → s'.base.core.vpuSuspended = false := by
    intro hbefore
    by_contra hsuspended
    rw [hasleep (by simpa using hsuspended)] at hbefore
    exact absurd hbefore (by decide)
  constructor
  · rw [hpd]
    exact hinv.legacy
  · rw [hinstances, hlist]
    exact hinv.count
  · rw [hinstances]
    exact fun hfiles => hawake (hinv.files hfiles)
  · exact fun u hu => (hresumed u hu).elim (fun hbefore => hawake (hinv.resumed u hbefore)) id

/-- A thread that does not get past the resume of an `iris_open`. -/
theorem thread (hinv : s.Awake) {mode : Mode} (hcore : AwakeFrame s.base.core s'.base.core)
    (hlist : s'.load.instances = s.load.instances) (hphase : s'.base.phase = s.base.phase)
    (hmode : s'.mode = Function.update s.mode t mode) (hopens : mode.Opens → (s.mode t).Opens) :
    s'.Awake :=
  hinv.frame hcore.platformData hcore.instances hlist hcore.vpuSuspended
    fun _ hu => .inl (hu.of_mode hphase hmode hopens)

theorem quiet (hinv : s.Awake) (hcore : AwakeFrame s.base.core s'.base.core)
    (hlist : s'.load.instances = s.load.instances) (hphase : s'.base.phase = s.base.phase)
    (hmode : s'.mode = s.mode) : s'.Awake := by
  refine hinv.frame hcore.platformData hcore.instances hlist hcore.vpuSuspended fun u hu => .inl ?_
  obtain ⟨hopens, hrestarting⟩ := hu
  rw [hmode] at hopens
  rw [hphase] at hrestarting
  exact ⟨hopens, hrestarting⟩

theorem core {a : Action} {b : System} (hinv : s.Awake) (hinner : a.Inner s.base)
    (hok : DriverAction.Awake s (.core a)) (hstep : Step s.base a b) (queued : Bool) :
    ({ s with base := b, pcWorkQueued := queued } : Driver).Awake := by
  have hframe := hstep.inner_frame hinner
  refine hinv.frame hframe.platformData hframe.instances rfl hframe.vpuSuspended ?_
  rintro t ⟨hmode, hphase⟩
  by_cases hrestarting : (s.base.phase t).Restarting
  · refine .inr ((hstep.restarting hinner ?_ hrestarting).resolve_left hphase)
    rintro u rfl
    exact hok
  · exact .inl ⟨hmode, hrestarting⟩

/-- Nobody has an open file, or relies on the VPU being awake. -/
theorem collapse (hinv : s.Awake) {last : Core} (hnone : s.NoneResumed)
    (hframe : FilesFrame s.base.core last)
    (hfiles : s.base.core.instances ≠ 0 → last = s.base.core) : (s.setCore last).Awake := by
  by_cases hempty : s.base.core.instances = 0
  · constructor
    · exact (congrArg _ hframe.platformData).trans hinv.legacy
    · exact hframe.instances.trans hinv.count
    · exact fun hopen => absurd (hframe.instances.trans hempty) hopen
    · exact fun u hu => absurd hu (hnone hempty u)
  · rw [hfiles hempty]
    exact hinv

end Awake

end Driver

theorem DriverStep.awake {rules : OutputRules} {s s' : Driver} {a : DriverAction}
    (hstep : DriverStep rules s a s') (hok : a.Awake s) (hcore : s.InCoreOnly)
    (hinv : s.Awake) : s'.Awake := by
  have hsame := AwakeFrame.refl s.base.core
  cases hstep with
  | core _ hinner hbase => exact hinv.core hinner hok hbase _
  | openAwake _ hskip =>
      have hawake : s.base.core.vpuSuspended = false :=
        hskip.elim (fun hnew => absurd (hinv.legacy.symm.trans hnew) (by decide)) hok
      exact hinv.frame rfl rfl rfl id fun _ _ => .inr hawake
  | @resumed t env core _ hresume =>
      have hframe := AwakeFrame.pcResume env true s.base.core
      rw [hresume] at hframe
      have hawake := irisPcResume_awake hinv.legacy hresume
      exact hinv.frame hframe.platformData hframe.instances rfl hframe.vpuSuspended
        fun _ _ => .inr hawake
  | @notResumed t env ret core _ hresume =>
      have hframe := AwakeFrame.pcResume env true s.base.core
      rw [hresume] at hframe
      exact hinv.thread hframe rfl rfl rfl (by rintro ⟨⟩)
  | restart =>
      refine hinv.frame rfl rfl rfl id fun u hu => .inl ?_
      refine (hu.of_enter rfl rfl).resolve_right ?_
      exact fun hboth => hboth.2.2 rfl
  | @powerCycle t hmode =>
      refine hinv.frame rfl rfl rfl id fun u hu => .inl ?_
      rcases hu.of_enter rfl rfl with hbefore | ⟨rfl, -, -⟩
      · exact hbefore
      · refine ⟨?_, fun hrestarting => hcore.notDue hmode id hrestarting.powerOffDue⟩
        rw [hmode]
        trivial
  | seeError hmode =>
      refine hinv.thread hsame rfl rfl rfl fun _ => ?_
      rw [hmode]
      trivial
  | @handOut t i domain hmode hphase hnew =>
      have hawake : s.base.core.vpuSuspended = false := by
        refine hinv.resumed t ⟨?_, ?_⟩
        · rw [hmode]
          trivial
        · rw [hphase]
          exact id
      refine ⟨hinv.legacy, ?_, fun _ => hawake, fun _ _ => hawake⟩
      calc s.base.core.instances + 1 = s.load.instances.length + 1 := congrArg (· + 1) hinv.count
        _ = (s.load.instances ++ [i]).length := by rw [List.length_append, List.length_singleton]
        _ = (applyAdmission rules s.load (.add i domain)).instances.length := by
          rw [applyAdmission, if_neg hnew]
  | @removeSession t i hmode hmem =>
      refine ⟨hinv.legacy, ?_, fun hfiles => ?_, fun u hu => ?_⟩
      · calc s.base.core.instances - 1 = s.load.instances.length - 1 :=
            congrArg (· - 1) hinv.count
          _ = (s.load.instances.erase i).length := (List.length_erase_of_mem hmem).symm
      · refine hinv.files fun hempty => hfiles ?_
        exact congrArg (· - 1) hempty
      · exact hinv.resumed u (hu.of_mode rfl rfl (by rintro ⟨⟩))
  | instanceFail | recover | sysErrorStart =>
      refine hinv.frame rfl rfl rfl id fun u hu => .inl ?_
      exact (hu.of_enter rfl rfl).resolve_right fun hboth => hboth.2.1
  | openCancel | coreFail | sessionOpen | refused | sessionInitDone | sessionClose | sessionEnd =>
      exact hinv.thread hsame rfl rfl rfl (by rintro ⟨⟩)
  | sessionInitFailed | sysErrorEnd =>
      exact hinv.frame rfl rfl rfl id fun u hu => .inl (hu.of_mode rfl rfl (by rintro ⟨⟩))
  | closeFailed =>
      exact hinv.frame rfl rfl rfl id fun u hu =>
        .inl (hu.of_mode rfl rfl fun hopens => absurd hopens (Next.not_opens _))
  | notPending | busy | recovered =>
      exact hinv.thread hsame rfl rfl rfl fun hopens => absurd hopens (Next.not_opens _)
  | admitted | releaseSlot =>
      refine hinv.thread hsame (instances_applyAdmission _ _ ?_ ?_) rfl rfl (by rintro ⟨⟩)
      · rintro _ _ ⟨⟩
      · rintro _ ⟨⟩
  | noSession =>
      refine hinv.thread hsame (instances_applyAdmission _ _ ?_ ?_) rfl rfl ?_
      · rintro _ _ ⟨⟩
      · rintro _ ⟨⟩
      · exact fun hopens => absurd hopens (Next.not_opens _)
  | @cleanup t i next failed hmode =>
      refine hinv.thread hsame (instances_applyAdmission _ _ ?_ ?_) rfl rfl ?_
      · rintro _ _ ⟨⟩
      · rintro _ ⟨⟩
      · cases failed with
        | true => rintro ⟨⟩
        | false => exact fun hopens => absurd hopens next.not_opens
  | requestRecovery | systemError | setPowerCollapse =>
      exact hinv.frame rfl rfl rfl id fun _ hu => .inl hu
  | @admission op hop =>
      refine hinv.frame rfl rfl (instances_applyAdmission _ _ ?_ ?_) id fun _ hu => .inl hu
      · rintro i domain rfl
        exact hop
      · rintro i rfl
        exact hop
  | pcSchedule =>
      obtain ⟨hbase, hmodes, hload, -⟩ := s.pcSchedule_frame
      have hquiet : s.pcSchedule.Awake :=
        hinv.quiet (hbase ▸ hsame) (congrArg AdmissionCore.instances hload)
          (congrArg System.phase hbase) hmodes
      exact hquiet.thread (.refl _) rfl rfl rfl (by rintro ⟨⟩)
  | @pcHandler env =>
      obtain ⟨hbase, hmodes, hload, -⟩ := s.pcHandler_frame env
      obtain ⟨hframe, hfiles, -⟩ := irisPcHandler_frame env s.base.core
      have hcollapse := hinv.collapse hok hframe hfiles
      refine hcollapse.quiet ?_ (congrArg AdmissionCore.instances hload) ?_ hmodes
      · rw [hbase]
        exact .refl _
      · rw [hbase, Driver.setCore]
  | @pmSuspend env =>
      obtain ⟨hframe, hfiles, -⟩ := irisPmSuspend_frame env s.base.core
      exact hinv.collapse hok hframe hfiles
  | @pmResume env =>
      obtain ⟨hbase, hmodes, hload, -⟩ := s.pmResume_frame env
      refine hinv.quiet ?_ (congrArg AdmissionCore.instances hload) ?_ hmodes
      · rw [hbase]
        exact .pmResume env s.base.core
      · rw [hbase, System.setCore]

/-- **Power collapse.** On legacy VPU5 the VPU is awake while a file is open, in every run whose
steps meet the condition. -/
theorem open_file_awake {rules : OutputRules} {limits : AdmissionLimits} {pd : PlatformData}
    {tbl : List Clk} {base : Resource → Int} {acts : List DriverAction} {s : Driver}
    (hlegacy : pd.legacyVpu5 = true)
    (hrun : Run (guarded (DriverStep rules) fun s a => a.Awake s)
      (.start (.probed pd tbl base) (.start rules limits)) acts s)
    (hopen : s.load.instances ≠ []) : s.base.core.vpuSuspended = false := by
  have hinv : s.InCoreOnly ∧ s.Awake :=
    @Run.invariant _ _ _ (fun s => s.InCoreOnly ∧ s.Awake)
      (fun _ _ _ hinv hstep =>
        ⟨hstep.2.inCoreOnly hinv.1, hstep.2.awake hstep.1 hinv.1 hinv.2⟩) _ _ _ hrun
      ⟨.start _ _, .start rules limits hlegacy⟩
  refine hinv.2.files ?_
  rw [hinv.2.count]
  exact fun hempty => hopen (List.length_eq_zero_iff.1 hempty)

/-! ### The first file -/

def oneFile : AdmissionCore :=
  admissionAfter flatRules (.start flatRules sm8150Limits) [.add 0 .decoder]

theorem opened_reached : ∃ s,
    Run (guarded (DriverStep flatRules) fun s a => a.Awake s)
      (.start sm8150Core (.start flatRules sm8150Limits))
      [.openStart 0, .pcResume 0, .core (.initSection 0), .core (.lookAtState 0),
        .core .readResponse, .core .handleResponse, .core (.wake 0), .core (.returnZero 0),
        .handOut 0 0] s ∧
      s.mode 0 = .idle ∧ s.load = oneFile ∧ s.powerCollapse = true ∧
      s.base.core = irisAddSession sm8150Booted := by
  have hopening : ∀ {s : Driver} {a : Action}, a.thread = some 0 → s.mode 0 = .opening →
      ∀ u, a.thread = some u → (s.mode u).InCore := by
    intro s a hthread hmode u hu
    obtain rfl : 0 = u := Option.some.inj (hthread.symm.trans hu)
    rw [hmode]
    trivial
  have hstarted : sm8150Booted.state ≠ .error := by simp [sm8150Booted_state]
  exact ⟨_, .cons ⟨nofun, .openCancel rfl rfl rfl⟩
    (.cons ⟨trivial, @DriverStep.resumed _ _ 0 okEnv _ rfl rfl⟩
    (.cons ⟨trivial, @DriverStep.core _ _ (.initSection 0) _ (hopening rfl rfl) trivial
      (.booted rfl sm8150_boots)⟩
    (.cons ⟨nofun, @DriverStep.core _ _ (.lookAtState 0) _ (hopening rfl rfl) trivial
      (.waitStarted rfl hstarted)⟩
    (.cons ⟨trivial, @DriverStep.core _ _ .readResponse _ nofun trivial
      (@Step.readResponse _ true sm8150Booted_state rfl)⟩
    (.cons ⟨trivial, @DriverStep.core _ _ .handleResponse _ nofun trivial (.initDone rfl)⟩
    (.cons ⟨trivial, @DriverStep.core _ _ (.wake 0) _ (hopening rfl rfl) trivial
      (.wake rfl (Nat.succ_pos 0))⟩
    (.cons ⟨trivial, @DriverStep.core _ _ (.returnZero 0) _ (hopening rfl rfl) trivial
      (.returnZero rfl)⟩
    (.cons ⟨trivial, @DriverStep.handOut _ _ 0 0 .decoder rfl rfl (by decide)⟩
    (.nil _))))))))), rfl, rfl, rfl, rfl⟩

/-- The only file is closed, and the worker is due. -/
theorem closed_reached : ∃ s acts,
    Run (DriverStep flatRules) (.start sm8150Core (.start flatRules sm8150Limits)) acts s ∧
      s.mode 0 = .idle ∧ s.load.instances = [] ∧ s.pcWorkQueued = true ∧
      s.base.core = sm8150Booted := by
  obtain ⟨⟨⟨core, done, boot, accepted, response, phase⟩, load, mode, param, queued, error,
    request⟩, hrun, hmode, rfl, rfl, rfl⟩ := opened_reached
  have hfile : 0 ∈ oneFile.instances := by decide
  have hclosed : 0 ∈ (applyAdmission flatRules oneFile (.sessionClose 0)).instances := by decide
  exact ⟨_, _, (hrun.mono fun _ _ _ hstep => hstep.2).append
    (.cons (@DriverStep.noSession _ _ 0 0 (.removeSession 0) hmode hfile (.inr rfl) rfl)
    (.cons (.removeSession (Driver.setMode_self ..) hclosed)
    (.cons (.notPending (Driver.setMode_self ..) rfl)
    (.cons (.pcSchedule (Driver.setMode_self ..)) (.nil _))))), Driver.setMode_self .., rfl, rfl,
    rfl⟩

theorem open_file_awake_first :
    ∃ s : Driver, s.load.instances ≠ [] ∧ s.base.core.vpuSuspended = false := by
  obtain ⟨s, hrun, -, hload, -, -⟩ := opened_reached
  have hopen : s.load.instances ≠ [] := by
    rw [hload]
    decide
  exact ⟨s, hopen, @open_file_awake flatRules sm8150Limits sm8150Data sm8150Clocks (fun _ => 0) _ s
    rfl hrun hopen⟩

/-! ### Opening without a resume -/

theorem System.setPhase_setPhase (s : System) (t : Nat) (phase phase' : Phase) :
    (s.setPhase t phase).setPhase t phase' = s.setPhase t phase' := by
  simp only [System.setPhase, Function.update_idem]

/-- A step of an `iris_open` that initialises the core. -/
theorem DriverStep.opener {rules : OutputRules} {s : Driver} {t : Nat} {a : Action}
    {phase phase' : Phase} (hthread : a.thread = some t) (hwork : a.CancelsWork = false)
    (hinner : a.Inner (s.base.setPhase t phase))
    (hstep : Step (s.base.setPhase t phase) a (s.base.setPhase t phase')) :
    DriverStep rules ((s.setPhase t phase).setMode t .opening) (.core a)
      ((s.setPhase t phase').setMode t .opening) := by
  have hcore : ∀ u, a.thread = some u →
      (((s.setPhase t phase).setMode t .opening).mode u).InCore := by
    intro u hu
    obtain rfl : t = u := Option.some.inj (hthread.symm.trans hu)
    simp only [Driver.setMode, Function.update_self]
    trivial
  have hcores := @DriverStep.core rules _ _ _ hcore hinner hstep
  rw [hwork, Bool.not_false, Bool.and_true] at hcores
  exact hcores

/-- With `power_collapse` off `iris_open` leaves a collapsed VPU as it is. -/
theorem openAwake_reached {rules : OutputRules} {s : Driver} {t i : Nat} {domain : Domain}
    (hmode : s.mode t = .idle) (hparam : s.powerCollapse = false)
    (hinit : s.base.core.state = .init) (hnew : i ∉ s.load.instances) :
    ∃ s', Run (DriverStep rules) s
        [.openStart t, .core (.initSection t), .core (.returnZero t), .handOut t i] s' ∧
      s'.load.instances ≠ [] ∧ s'.base.core.vpuSuspended = s.base.core.vpuSuspended := by
  have hsection : irisCoreInitSection okEnv s.base.core = (some 0, s.base.core) := by
    simp [irisCoreInitSection, hinit]
  have hstart : DriverStep rules s (.openStart t) _ := .openAwake hmode (.inr hparam)
  have hinitSection : Step (s.base.setPhase t (.initEntry .opening)) (.initSection t)
      (s.base.setPhase t (.succeeding .opening)) := by
    have hsame : (s.base.setPhase t (.initEntry .opening)).setCore s.base.core =
        s.base.setPhase t (.initEntry .opening) := rfl
    have hstep := Step.notBooted (s.base.setPhase_self t (.initEntry .opening)) hsection
    rwa [if_pos rfl, hsame, System.setPhase_setPhase] at hstep
  have hreturn : Step (s.base.setPhase t (.succeeding .opening)) (.returnZero t)
      (s.base.setPhase t .opened) := by
    have hstep := Step.returnZero (s.base.setPhase_self t (.succeeding .opening))
    rwa [System.setPhase_setPhase] at hstep
  have hhand : DriverStep rules ((s.setPhase t .opened).setMode t .opening) (.handOut t i) _ :=
    @DriverStep.handOut _ _ _ _ domain (Function.update_self ..) (System.setPhase_self ..) hnew
  refine ⟨_, .cons hstart (.cons (.opener rfl rfl trivial hinitSection) (.cons
    (.opener rfl rfl trivial hreturn) (.cons hhand (.nil _)))), ?_, rfl⟩
  have hadd : (applyAdmission rules s.load (.add i domain)).instances =
      s.load.instances ++ [i] := by
    rw [applyAdmission, if_neg hnew]
  show (applyAdmission rules s.load (.add i domain)).instances ≠ []
  rw [hadd]
  exact List.append_ne_nil_of_right_ne_nil _ (List.cons_ne_nil _ _)

/-- The worker collapses an idle VPU. -/
theorem irisPcHandler_collapses {core : Core} (hawake : core.vpuSuspended = false)
    (hempty : core.instances = 0) :
    (irisPcHandler okEnv core).vpuSuspended = true := by
  simp [irisPcHandler, irisPcEnter, hawake, hempty, okEnv]

/-- `power_collapse` is switched off while the VPU is collapsed. -/
theorem open_file_asleep :
    ¬∀ (rules : OutputRules) (limits : AdmissionLimits) (pd : PlatformData) (tbl : List Clk)
      (base : Resource → Int) (acts : List DriverAction) (s : Driver), pd.legacyVpu5 = true →
      Run (DriverStep rules) (.start (.probed pd tbl base) (.start rules limits)) acts s →
      s.load.instances ≠ [] → s.base.core.vpuSuspended = false := by
  intro hall
  obtain ⟨s, acts, hrun, hmode, hempty, hqueued, hcore⟩ := closed_reached
  obtain ⟨hbase, hmodes, hload, -⟩ := s.pcHandler_frame okEnv
  have hcollapse : DriverStep flatRules s .pcHandler (s.pcHandler okEnv) := .pcHandler hqueued
  have hflip : DriverStep flatRules (s.pcHandler okEnv) (.setPowerCollapse false) _ :=
    .setPowerCollapse
  have hcore' : (s.pcHandler okEnv).base.core = irisPcHandler okEnv sm8150Booted := by
    rw [hbase, hcore, System.setCore]
  have hinit : (s.pcHandler okEnv).base.core.state = .init := by
    rw [hcore', (irisPcHandler_frame okEnv sm8150Booted).2.2, sm8150Booted_state]
  obtain ⟨s', hopen, hfile, hleft⟩ :=
    @openAwake_reached flatRules { s.pcHandler okEnv with powerCollapse := false } 0 0 .decoder
      (by rw [hmodes, hmode]) rfl hinit (by simp [hload, hempty])
  have hrun' := ((hrun.snoc hcollapse).snoc hflip).append hopen
  have hawake :=
    hall flatRules sm8150Limits sm8150Data sm8150Clocks (fun _ => 0) _ s' rfl hrun' hfile
  have hasleep : (s.pcHandler okEnv).base.core.vpuSuspended = true := by
    rw [hcore']
    exact irisPcHandler_collapses rfl rfl
  rw [hleft] at hawake
  exact absurd (hasleep.symm.trans hawake) (by decide)

end NabuIris
