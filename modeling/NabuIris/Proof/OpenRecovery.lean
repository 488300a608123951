import NabuIris.Open
import NabuIris.Proof.CoreResources

/-!
# Opening an errored core

`iris_core_init` turns `ERROR` into `DEINIT` before `iris_open` looks at the state, so the power
cycle that is there for errored cores is not run. An open of an errored core recovers it only when
another failure comes first: that of resuming from a power collapse.
-/

namespace NabuIris

open Lib

/-- Every call of an `iris_core_init` that starts from `DEINIT` succeeds. -/
structure CoreInitSucceeds (env : Env) (core : Core) : Prop where
  allocQueueTable : env .allocQueueTable = 0
  allocSfr : env .allocSfr = 0
  powerOn : PowerOnSucceeds env core
  firmware : ∀ legacyVpu5, ¬ FirmwareFails legacyVpu5 env
  sysResponse : env .sysResponse = 0

/-- Every call of `iris_open` succeeds, apart from those of the first `iris_core_init` and of the
resume from a power collapse. -/
structure OpenEnv.RestSucceeds (env : OpenEnv) (core : Core) : Prop where
  allowFwBoot : env.allowFwBoot = true
  vdevName : (sessionType env.vdevName).isSome
  pmGet : 0 ≤ env.pmGet
  restart : CoreInitSucceeds env.restartInit core
  recover : CoreInitSucceeds env.recoverInit core
  getInstance : env.getInstance = true
  m2mInit : env.m2mInit = true
  m2mCtxInit : env.m2mCtxInit = true
  instInit : env.instInit = 0

/-- The calls of a resume from power collapse succeed. -/
def ResumeSucceeds (env : Env) (core : Core) : Prop :=
  PowerOnSucceeds env core ∧ ¬ ResumeFails core.platformData.legacyVpu5 env

variable {env : Env} {core core' : Core}

theorem CoreInitSucceeds.congr (hsucceeds : CoreInitSucceeds env core)
    (hon : OnPlatform core.platformData core.clockTbl core') : CoreInitSucceeds env core' where
  allocQueueTable := hsucceeds.allocQueueTable
  allocSfr := hsucceeds.allocSfr
  powerOn := hsucceeds.powerOn.congr hon.1 hon.2
  firmware := hsucceeds.firmware
  sysResponse := hsucceeds.sysResponse

/-- **A bring-up whose calls succeed** ends in the wait for the firmware. -/
theorem irisCoreInitSection_of_deinit (hpd : core.platformData.WellFormed)
    (hstate : core.state = .deinit) (hsucceeds : CoreInitSucceeds env core) :
    (irisCoreInitSection env core).1 = none := by
  have hpower := @irisVpuPowerOn_eq env { core.initialising with ifaceQTable := true } hpd
    (hsucceeds.powerOn.congr rfl rfl)
  have hon : ∀ {core₁ core₂ : Core} {ret : Int},
      irisHfiQueuesInit env core.initialising = (0, core₁) →
      irisVpuPowerOn env core₁ = (ret, core₂) → ret = 0 := by
    intro core₁ core₂ ret hqueues hon
    obtain ⟨-, -, rfl⟩ := irisHfiQueuesInit_zero hqueues
    rw [hpower] at hon
    exact (Prod.mk.inj hon).1.symm
  have hspec := irisCoreInitSection_spec env core
  revert hspec
  generalize irisCoreInitSection env core = result
  intro hspec
  cases hspec with
  | already hinit => exact absurd (hstate.symm.trans hinit) (by decide)
  | refused herror => exact absurd (hstate.symm.trans herror) (by decide)
  | noQueues _ hqueues hret =>
      simp only [irisHfiQueuesInit, hsucceeds.allocQueueTable, hsucceeds.allocSfr, ne_eq,
        not_true, if_false] at hqueues
      exact absurd (Prod.mk.inj hqueues).1.symm hret
  | noPower _ hqueues hpowerOn hret => exact absurd (hon hqueues hpowerOn) hret
  | noFirmware _ _ _ hload hret =>
      unfold irisFwLoad at hload
      split_ifs at hload with hmemory hprotect
      · exact absurd (.inl hmemory) (hsucceeds.firmware true)
      · exact absurd (.inr (.inl hprotect)) (hsucceeds.firmware true)
      · exact absurd (Prod.mk.inj hload).1.symm hret
  | noBoot _ _ _ _ _ hfails => exact absurd hfails (hsucceeds.firmware _)
  | booted => rfl

theorem irisCoreInit_of_deinit (hpd : core.platformData.WellFormed) (hstate : core.state = .deinit)
    (hsucceeds : CoreInitSucceeds env core) :
    (irisCoreInit env core).1 = 0 ∧ (irisCoreInit env core).2.state = .init := by
  have hnone := irisCoreInitSection_of_deinit hpd hstate hsucceeds
  unfold irisCoreInit
  cases hsection : irisCoreInitSection env core with
  | mk ret core' =>
      rw [hsection] at hnone
      obtain rfl : ret = none := hnone
      have hinit := irisCoreInitSection_none hsection
      simp [irisWaitForSystemResponse, hinit, hsucceeds.sysResponse]

/-- **A recovery whose calls succeed** returns zero and leaves the core in `INIT`. -/
theorem irisCoreRecover_of_succeeds (hpd : core.platformData.WellFormed) (deinitEnv : Env)
    (hsucceeds : CoreInitSucceeds env core) :
    (irisCoreRecover deinitEnv env core).1 = 0 ∧
      (irisCoreRecover deinitEnv env core).2.state = .init := by
  have hon : OnPlatform core.platformData core.clockTbl (irisCoreDeinit deinitEnv core) :=
    OnPlatform.coreDeinit deinitEnv ⟨rfl, rfl⟩
  have hstate : (irisCoreDeinit deinitEnv core).state = .deinit := by
    unfold irisCoreDeinit
    split_ifs with hdeinit
    · exact hdeinit
    · rfl
  exact irisCoreInit_of_deinit (hon.1 ▸ hpd) hstate (hsucceeds.congr hon)

theorem irisCoreInit_of_init (env : Env) (hstate : core.state = .init) :
    irisCoreInit env core = (0, core) := by
  simp [irisCoreInit, irisCoreInitSection, hstate]

theorem irisCoreInit_of_error (env : Env) (hstate : core.state = .error) :
    irisCoreInit env core = (-einval, core.deinitialised) := by
  simp [irisCoreInit, irisCoreInitSection, hstate, Core.deinitialised]

/-! ### Resuming from a power collapse -/

theorem irisResumeFromCollapse_ret_zero_iff (hpd : core.platformData.WellFormed)
    (hopp : core.platformData.deferVcodecPower = false → env .ctrlOpp ≤ 0) :
    (irisResumeFromCollapse env core).1 = 0 ↔ ResumeSucceeds env core := by
  have hframe := (irisVpuPowerOn_frame env core).1
  have hspec := irisResumeFromCollapse_spec env core
  revert hspec
  generalize irisResumeFromCollapse env core = result
  intro hspec
  cases hspec with
  | noPower hpower hret =>
      refine iff_of_false (by simp [ebusy]) fun hsucceeds => hret ?_
      rw [irisVpuPowerOn_eq hpd hsucceeds.1] at hpower
      exact (Prod.mk.inj hpower).1.symm
  | noBoot hpower hfails =>
      rw [hpower] at hframe
      rw [hframe.platformData] at hfails
      exact iff_of_false (by simp [ebusy]) fun hsucceeds => hsucceeds.2 hfails
  | resumed hpower hfails =>
      rw [hpower] at hframe
      rw [hframe.platformData] at hfails
      exact iff_of_true rfl
        ⟨irisVpuPowerOn_succeeds hpd hopp (congrArg Prod.fst hpower), hfails⟩

theorem irisResumeFromCollapse_frame (env : Env) (core : Core) :
    (irisResumeFromCollapse env core).2.state = core.state ∧
      (irisResumeFromCollapse env core).2.fwLoaded = core.fwLoaded ∧
      OnPlatform core.platformData core.clockTbl (irisResumeFromCollapse env core).2 := by
  have hframe := (irisVpuPowerOn_frame env core).1
  have hspec := irisResumeFromCollapse_spec env core
  revert hspec
  generalize irisResumeFromCollapse env core = result
  intro hspec
  cases hspec with
  | noPower hpower _ =>
      rw [hpower] at hframe
      exact ⟨hframe.state, hframe.fwLoaded, hframe.platformData, hframe.clockTbl⟩
  | @noBoot core₁ hpower _ =>
      rw [hpower] at hframe
      have hoff := hframe.trans (irisVpuPowerOff_frame env core₁).1
      exact ⟨hoff.state, hoff.fwLoaded, hoff.platformData, hoff.clockTbl⟩
  | resumed hpower _ =>
      rw [hpower] at hframe
      exact ⟨hframe.state, hframe.fwLoaded, hframe.platformData, hframe.clockTbl⟩

theorem irisPcResume_ret_zero_iff (hpd : core.platformData.WellFormed) (powerCollapse : Bool) :
    (irisPcResume env powerCollapse core).1 = 0 ↔
      (core.platformData.legacyVpu5 = true → powerCollapse = true → core.vpuSuspended = true →
        ResumeSucceeds env core) := by
  cases hlegacy : core.platformData.legacyVpu5 with
  | false => simp [irisPcResume, hlegacy]
  | true =>
      cases powerCollapse with
      | false => simp [irisPcResume, hlegacy]
      | true =>
          cases hsuspended : core.vpuSuspended with
          | false => simp [irisPcResume, hlegacy, hsuspended]
          | true =>
              have hopp : core.platformData.deferVcodecPower = false → env .ctrlOpp ≤ 0 := by
                intro hdefer
                rw [hpd.legacy, hdefer] at hlegacy
                exact absurd hlegacy (by decide)
              simpa [irisPcResume, irisPcExit, hlegacy, hsuspended] using
                irisResumeFromCollapse_ret_zero_iff hpd hopp

theorem irisPcResume_frame (env : Env) (powerCollapse : Bool) (core : Core) :
    (irisPcResume env powerCollapse core).2.state = core.state ∧
      (irisPcResume env powerCollapse core).2.fwLoaded = core.fwLoaded ∧
      OnPlatform core.platformData core.clockTbl (irisPcResume env powerCollapse core).2 := by
  unfold irisPcResume irisPcExit
  split_ifs
  · exact ⟨rfl, rfl, rfl, rfl⟩
  · exact ⟨rfl, rfl, rfl, rfl⟩
  · exact irisResumeFromCollapse_frame env core
  · exact ⟨rfl, rfl, rfl, rfl⟩

theorem OnPlatform.pcEnter {pd : PlatformData} {tbl : List Clk} (env : Env)
    (hon : OnPlatform pd tbl core) : OnPlatform pd tbl (irisPcEnter env core).2 := by
  unfold irisPcEnter
  split_ifs
  · exact hon
  · exact hon
  · exact hon.powerOff env

/-! ### Opening -/

/-- The condition under which `iris_open` restarts the core before it initialises it. -/
def ResumeAttemptFails (env : OpenEnv) (core : Core) : Prop :=
  core.platformData.legacyVpu5 = true ∧ env.powerCollapse = true ∧ core.vpuSuspended = true ∧
    ¬ ResumeSucceeds env.pcResume core

theorem irisOpen_of_rest {env : OpenEnv} {core : Core} (hrest : env.RestSucceeds core) :
    ∃ domain, irisOpen env core =
      let resume := irisOpenResume env core
      let init := irisOpenCoreInit env resume.1 resume.2
      if init.1.1 ≠ 0 then .fail init.1.1 init.1.2 init.2
      else
        { ret := 0
          core := irisAddSession init.1.2
          calls := init.2
          inst := some domain
          pmHeld := true } := by
  obtain ⟨domain, hdomain⟩ := Option.isSome_iff_exists.1 hrest.vdevName
  refine ⟨domain, ?_⟩
  simp only [irisOpen, hrest.allowFwBoot, hdomain, Bool.not_true, Bool.false_eq_true, if_false,
    Int.not_lt.2 hrest.pmGet, irisOpenInstance, hrest.getInstance, hrest.m2mInit, hrest.m2mCtxInit,
    hrest.instInit, ne_eq, not_true]

/-- **An open of an errored core** whose other calls succeed power-cycles the core and returns zero
exactly when the core is in a power collapse that it fails to resume from. -/
theorem irisOpen_recovers_iff {env : OpenEnv} {core : Core} (hpd : core.platformData ∈ irisDtMatch)
    (herror : core.state = .error) (hrest : env.RestSucceeds core) :
    ((irisOpen env core).ret = 0 ∧ OpenCall.coreRecover ∈ (irisOpen env core).calls) ↔
      ResumeAttemptFails env core := by
  have hwf := wellFormed_of_mem_irisDtMatch hpd
  obtain ⟨hstate, -, hon⟩ := irisPcResume_frame env.pcResume env.powerCollapse core
  have hresume := @irisPcResume_ret_zero_iff env.pcResume core hwf env.powerCollapse
  obtain ⟨domain, hopen⟩ := irisOpen_of_rest hrest
  by_cases hret : (irisPcResume env.pcResume env.powerCollapse core).1 = 0
  · -- the resume is over, and `iris_core_init` finds the core in `ERROR`
    have hnotFails : ¬ ResumeAttemptFails env core := by
      rintro ⟨hlegacy, hcollapse, hsuspended, hfails⟩
      exact hfails (hresume.1 hret hlegacy hcollapse hsuspended)
    have hinit := irisCoreInit_of_error env.coreInit (hstate.trans herror)
    refine iff_of_false (fun hopened => ?_) hnotFails
    rw [hopen] at hopened
    simp [irisOpenResume, irisOpenCoreInit, hret, hinit, Core.deinitialised, einval,
      OpenResult.fail] at hopened
  · -- the restart leaves a core in `INIT`, which `iris_core_init` accepts
    have hfails : ResumeAttemptFails env core := by
      by_contra hnot
      refine hret (hresume.2 fun hlegacy hcollapse hsuspended => ?_)
      by_contra hfail
      exact hnot ⟨hlegacy, hcollapse, hsuspended, hfail⟩
    have hrecover := @irisCoreRecover_of_succeeds env.restartInit
      { (irisPcResume env.pcResume env.powerCollapse core).2 with recoveryPending := false }
      (hon.1 ▸ hwf) env.restartDeinit (hrest.restart.congr hon)
    have hinit := irisCoreInit_of_init env.coreInit hrecover.2
    refine iff_of_true ?_ hfails
    rw [hopen]
    simp [irisOpenResume, irisOpenCoreInit, hret, hinit]

/-! ### Two opens of an errored core -/

/-- Every call succeeds, apart from those of the resume. -/
def openEnvOf (pcResume : Env) : OpenEnv where
  allowFwBoot := true
  vdevName := "qcom-iris-decoder"
  pmGet := 0
  powerCollapse := true
  pcResume := pcResume
  restartDeinit := okEnv
  restartInit := okEnv
  coreInit := okEnv
  recoverDeinit := okEnv
  recoverInit := okEnv
  getInstance := true
  m2mInit := true
  m2mCtxInit := true
  instInit := 0

theorem openEnvOf_restSucceeds (pcResume : Env)
    (hon : OnPlatform sm8150Core.platformData sm8150Core.clockTbl core) :
    (openEnvOf pcResume).RestSucceeds core := by
  have hinit : CoreInitSucceeds okEnv core :=
    { allocQueueTable := rfl
      allocSfr := rfl
      powerOn := powerOnSucceeds_okEnv.congr hon.1 hon.2
      firmware := fun _ hfails => by simp [FirmwareFails, okEnv] at hfails
      sysResponse := rfl }
  have hname : (sessionType "qcom-iris-decoder").isSome := by decide
  exact ⟨rfl, hname, Int.le_refl 0, hinit, hinit, rfl, rfl, rfl, rfl⟩

/-- Booted and collapsed, and then in `ERROR`. -/
def collapsedErrorCore : Core :=
  { (irisPcEnter okEnv (irisCoreInit okEnv sm8150Core).2).2 with state := .error }

theorem irisOpen_recovers_collapsed :
    (irisOpen (openEnvOf noIccEnv) collapsedErrorCore).ret = 0 ∧
      OpenCall.coreRecover ∈ (irisOpen (openEnvOf noIccEnv) collapsedErrorCore).calls := by
  have hinit : OnPlatform sm8150Core.platformData sm8150Core.clockTbl
      (irisCoreInit okEnv sm8150Core).2 := OnPlatform.coreInit okEnv ⟨rfl, rfl⟩
  have hcollapsed := hinit.pcEnter okEnv
  have hon : OnPlatform sm8150Core.platformData sm8150Core.clockTbl collapsedErrorCore :=
    ⟨hcollapsed.1, hcollapsed.2⟩
  have hpd : collapsedErrorCore.platformData ∈ irisDtMatch := by
    rw [hon.1]
    simp [irisDtMatch, sm8150Core, Core.probed]
  have hlegacy : collapsedErrorCore.platformData.legacyVpu5 = true := by
    rw [hon.1]
    rfl
  have hsuspended : collapsedErrorCore.vpuSuspended = true := by
    simp [collapsedErrorCore, irisPcEnter, okEnv]
  refine (irisOpen_recovers_iff hpd rfl (openEnvOf_restSucceeds noIccEnv hon)).2
    ⟨hlegacy, rfl, hsuspended, fun hsucceeds => ?_⟩
  exact absurd hsucceeds.1.setIccBw (by decide)

/-- After a system error the first open fails. -/
theorem not_irisOpen_recovers :
    ¬ ∀ (ops : List CoreOp) (env : OpenEnv), (coreAfter sm8150Core ops).state = .error →
      env.RestSucceeds (coreAfter sm8150Core ops) →
      (irisOpen env (coreAfter sm8150Core ops)).ret = 0 ∧
        OpenCall.coreRecover ∈ (irisOpen env (coreAfter sm8150Core ops)).calls := by
  intro hrecovers
  have hopened := hrecovers [.coreInit okEnv, .systemError] (openEnvOf okEnv) rfl
    (openEnvOf_restSucceeds okEnv ⟨rfl, rfl⟩)
  exact absurd hopened.1 (by decide)

end NabuIris
