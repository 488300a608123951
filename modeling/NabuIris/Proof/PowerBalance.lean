import NabuIris.Lib.Run
import NabuIris.Proof.LifecycleSpec
import NabuIris.Proof.PowerSpec

/-!
# Balance of the power references

`vpu_powered` shadows the references that a power-on takes. The run below keeps the counters at
their base, plus `powerSet` while `vpu_powered` is set, as long as no power-on fails and no
power-off is cut short: a failing `iris_vpu_power_on` undoes its own steps but leaves `vpu_powered`
set, so that the next `iris_vpu_power_off` releases everything once more.
-/

namespace NabuIris

open Lib

inductive PowerOp
  | powerOn (env : Env)
  | powerOff (env : Env)
  | coreInit (env : Env)
  | coreDeinit (env : Env)
  | coreRecover (deinitEnv initEnv : Env)
  | pcEnter (env : Env)
  | pcExit (env : Env)
  | pmSuspend (env : Env)
  | pmResume (env : Env)
  | fatalError
  | setInstances (n : Nat)

def PowerOp.apply : PowerOp → Core → Core
  | .powerOn env, core => (irisVpuPowerOn env core).2
  | .powerOff env, core => irisVpuPowerOff env core
  | .coreInit env, core => (irisCoreInit env core).2
  | .coreDeinit env, core => irisCoreDeinit env core
  | .coreRecover deinitEnv initEnv, core => (irisCoreRecover deinitEnv initEnv core).2
  | .pcEnter env, core => (irisPcEnter env core).2
  | .pcExit env, core => (irisPcExit env core).2
  | .pmSuspend env, core => (irisPmSuspend env core).2
  | .pmResume env, core => (irisPmResume env core).2
  | .fatalError, core => { core with state := .error }
  | .setInstances n, core => { core with instances := n }

def powerStep (core : Core) (op : PowerOp) (core' : Core) : Prop := core' = op.apply core

/-! ### The condition on a step -/

/-- The VPU is off and every call of the power-on succeeds. -/
def PowerOnOk (env : Env) (core : Core) : Prop :=
  core.vpuPowered = false ∧ PowerOnSucceeds env core

/-- A power-off that has something to release is not cut short. -/
def PowerOffOk (env : Env) (core : Core) : Prop :=
  core.vpuPowered = true → PowerOffSucceeds env core

/-- A power-on goes well, and so does the power-off that undoes it should what comes next fail. -/
def BootOk (fails : Bool → Env → Prop) (env : Env) (core : Core) : Prop :=
  PowerOnOk env core ∧ (fails core.platformData.legacyVpu5 env → PowerOffSucceeds env core)

/-- The calls before the power-off of a collapse succeed. -/
def Collapses (env : Env) : Prop := env .preparePc = 0 ∧ env .hwStateSuspend = 0

def PowerOp.Ok : Core → PowerOp → Prop
  | core, .powerOn env => PowerOnOk env core
  | core, .powerOff env => PowerOffOk env core
  | core, .coreInit env =>
      core.state = .deinit → (irisHfiQueuesInit env core).1 = 0 → BootOk FirmwareFails env core
  | core, .coreDeinit env => core.state ≠ .deinit → PowerOffOk env core
  | core, .coreRecover deinitEnv initEnv =>
      (core.state ≠ .deinit → PowerOffOk deinitEnv core) ∧
      ((irisHfiQueuesInit initEnv core).1 = 0 →
        BootOk FirmwareFails initEnv (irisCoreDeinit deinitEnv core))
  | core, .pcEnter env => Collapses env → PowerOffOk env core
  | core, .pcExit env => core.vpuSuspended = true → BootOk ResumeFails env core
  | core, .pmSuspend env =>
      core.state = .init → core.instances = 0 → core.vpuSuspended = false → Collapses env →
        PowerOffOk env core
  | core, .pmResume env =>
      core.state = .init → core.vpuSuspended = true → BootOk ResumeFails env core
  | _, .fatalError => True
  | _, .setInstances _ => True

/-! ### The invariant -/

structure PowerBalanced (pd : PlatformData) (clockTbl : List Clk) (base : Resource → Int)
    (core : Core) : Prop where
  platformData : core.platformData = pd
  clockTbl : core.clockTbl = clockTbl
  counters : Counters.Balanced base core.powerSet core.vpuPowered core.counters
  watchdog : core.vpuPowered = true →
    irisVpuWatchdog core.platformData.legacyVpu5 core.intrStatus = false

theorem irisVpuWatchdog_zero (legacyVpu5 : Bool) : irisVpuWatchdog legacyVpu5 0 = false := by
  cases legacyVpu5 <;> decide

/-- Nothing that power control counts or reads differs. -/
structure SamePower (core core' : Core) : Prop where
  platformData : core'.platformData = core.platformData
  clockTbl : core'.clockTbl = core.clockTbl
  vpuPowered : core'.vpuPowered = core.vpuPowered
  intrStatus : core'.intrStatus = core.intrStatus
  counters : core'.counters = core.counters

namespace SamePower

variable {core core' core'' : Core} {env : Env}

theorem trans (hfirst : SamePower core core') (hsecond : SamePower core' core'') :
    SamePower core core'' where
  platformData := hsecond.platformData.trans hfirst.platformData
  clockTbl := hsecond.clockTbl.trans hfirst.clockTbl
  vpuPowered := hsecond.vpuPowered.trans hfirst.vpuPowered
  intrStatus := hsecond.intrStatus.trans hfirst.intrStatus
  counters := hsecond.counters.trans hfirst.counters

theorem powerOnOk (hsame : SamePower core core') (hon : PowerOnOk env core) :
    PowerOnOk env core' :=
  ⟨hsame.vpuPowered.trans hon.1, hon.2.congr hsame.platformData hsame.clockTbl⟩

theorem powerOffOk (hsame : SamePower core core') (hok : PowerOffOk env core) :
    PowerOffOk env core' := by
  intro hpowered
  exact (hok (hsame.vpuPowered ▸ hpowered)).congr hsame.platformData

theorem irisHfiQueuesInit (env : Env) (core : Core) :
    SamePower core (irisHfiQueuesInit env core).2 := by
  unfold NabuIris.irisHfiQueuesInit
  split_ifs <;> exact ⟨rfl, rfl, rfl, rfl, rfl⟩

theorem irisHfiQueuesDeinit (core : Core) : SamePower core (irisHfiQueuesDeinit core) := by
  unfold NabuIris.irisHfiQueuesDeinit
  split_ifs <;> exact ⟨rfl, rfl, rfl, rfl, rfl⟩

theorem irisFwLoad (env : Env) (core : Core) : SamePower core (irisFwLoad env core).2 := by
  unfold NabuIris.irisFwLoad
  split_ifs <;> exact ⟨rfl, rfl, rfl, rfl, rfl⟩

theorem irisWaitForSystemResponse (env : Env) (core : Core) :
    SamePower core (irisWaitForSystemResponse env core).2 := by
  unfold NabuIris.irisWaitForSystemResponse
  split_ifs <;> exact ⟨rfl, rfl, rfl, rfl, rfl⟩

end SamePower

namespace PowerBalanced

variable {pd : PlatformData} {tbl : List Clk} {base : Resource → Int} {core core' : Core}
  {env : Env}

theorem congr (hinv : PowerBalanced pd tbl base core) (hsame : SamePower core core') :
    PowerBalanced pd tbl base core' where
  platformData := hsame.platformData.trans hinv.platformData
  clockTbl := hsame.clockTbl.trans hinv.clockTbl
  counters := by
    rw [Core.powerSet_congr hsame.platformData hsame.clockTbl, hsame.vpuPowered, hsame.counters]
    exact hinv.counters
  watchdog := by
    rw [hsame.vpuPowered, hsame.platformData, hsame.intrStatus]
    exact hinv.watchdog

variable (hwf : pd.WellFormed) (hinv : PowerBalanced pd tbl base core)
include hwf hinv

theorem powerOn (hon : PowerOnOk env core) :
    (irisVpuPowerOn env core).1 = 0 ∧ PowerBalanced pd tbl base (irisVpuPowerOn env core).2 ∧
      (irisVpuPowerOn env core).2.platformData = core.platformData := by
  obtain ⟨hoff, hsucceeds⟩ := hon
  have hbal := hinv.counters
  rw [hoff] at hbal
  rw [irisVpuPowerOn_eq (hinv.platformData ▸ hwf) hsucceeds]
  refine ⟨rfl, ⟨hinv.platformData, hinv.clockTbl, ?_, fun _ => irisVpuWatchdog_zero _⟩, rfl⟩
  exact hbal.acquireAll

theorem powerOff (hok : PowerOffOk env core) :
    PowerBalanced pd tbl base (irisVpuPowerOff env core) := by
  cases hpowered : core.vpuPowered with
  | false => rwa [irisVpuPowerOff_of_not_powered env hpowered]
  | true =>
      obtain ⟨rs, hperm, heq⟩ := irisVpuPowerOff_eq (hinv.platformData ▸ hwf) (hok hpowered)
        hpowered (hinv.watchdog hpowered)
      have hbal := hinv.counters
      rw [hpowered] at hbal
      rw [heq]
      refine ⟨hinv.platformData, hinv.clockTbl, ?_, fun hfalse => absurd hfalse (by simp)⟩
      exact hbal.releaseAll hperm

theorem coreDeinit (hok : core.state ≠ .deinit → PowerOffOk env core) :
    PowerBalanced pd tbl base (irisCoreDeinit env core) := by
  unfold irisCoreDeinit
  by_cases hstate : core.state = .deinit
  · rwa [if_pos hstate]
  · rw [if_neg hstate]
    have hunload : SamePower core (irisFwUnload core) := ⟨rfl, rfl, rfl, rfl, rfl⟩
    have hoff := (hinv.congr hunload).powerOff hwf (hunload.powerOffOk (hok hstate))
    exact (hoff.congr (.irisHfiQueuesDeinit _)).congr ⟨rfl, rfl, rfl, rfl, rfl⟩

/-- Bring-up either leaves the power alone or ends powered; each error label after the power-on
undoes it. -/
theorem coreInitSection
    (hok : core.state = .deinit → (irisHfiQueuesInit env core).1 = 0 →
      BootOk FirmwareFails env core) :
    PowerBalanced pd tbl base (irisCoreInitSection env core).2 := by
  have hqueuesRet : (irisHfiQueuesInit env core.initialising).1 =
      (irisHfiQueuesInit env core).1 := by
    unfold irisHfiQueuesInit
    split_ifs <;> rfl
  have hqueuesSame : SamePower core (irisHfiQueuesInit env core.initialising).2 :=
    @SamePower.trans core core.initialising _ ⟨rfl, rfl, rfl, rfl, rfl⟩ (.irisHfiQueuesInit env _)
  have hdeinitialised : ∀ c : Core, SamePower c c.deinitialised :=
    fun _ => ⟨rfl, rfl, rfl, rfl, rfl⟩
  -- once the queues are there the power-on succeeds, and a later power-off undoes it
  have hboot : ∀ {core₁ core₂ : Core} {ret : Int}, core.state = .deinit →
      irisHfiQueuesInit env core.initialising = (0, core₁) →
      irisVpuPowerOn env core₁ = (ret, core₂) →
      ret = 0 ∧ PowerBalanced pd tbl base core₂ ∧ ∀ {core₃ : Core}, SamePower core₂ core₃ →
        FirmwareFails core₃.platformData.legacyVpu5 env →
        PowerBalanced pd tbl base (irisHfiQueuesDeinit (irisVpuPowerOff env core₃)) := by
    intro core₁ core₂ ret hstate hqueues hpower
    rw [hqueues] at hqueuesRet hqueuesSame
    obtain ⟨hon, hoff⟩ := hok hstate hqueuesRet.symm
    have hpowered := (hinv.congr hqueuesSame).powerOn hwf (hqueuesSame.powerOnOk hon)
    rw [hpower] at hpowered
    obtain ⟨hret, hinv₂, hpd₂⟩ := hpowered
    refine ⟨hret, hinv₂, fun {core₃} hsame hfails => ?_⟩
    have hpd₃ : core₃.platformData = core.platformData :=
      hsame.platformData.trans (hpd₂.trans hqueuesSame.platformData)
    have hoff₃ : PowerOffSucceeds env core₃ := (hoff (hpd₃ ▸ hfails)).congr hpd₃
    exact ((hinv₂.congr hsame).powerOff hwf fun _ => hoff₃).congr (.irisHfiQueuesDeinit _)
  have hloadSame : ∀ {core₂ core₃ : Core} {ret : Int}, irisFwLoad env core₂ = (ret, core₃) →
      SamePower core₂ core₃ := by
    intro core₂ core₃ ret hload
    simpa only [hload] using SamePower.irisFwLoad env core₂
  have hspec := irisCoreInitSection_spec env core
  revert hspec
  generalize irisCoreInitSection env core = result
  intro hspec
  cases hspec with
  | already _ => exact hinv
  | refused _ => exact hinv.congr (hdeinitialised _)
  | noQueues hstate hqueues _ =>
      rw [hqueues] at hqueuesSame
      exact (hinv.congr hqueuesSame).congr (hdeinitialised _)
  | noPower hstate hqueues hpower hret => exact absurd (hboot hstate hqueues hpower).1 hret
  | noFirmware hstate hqueues hpower hload hret =>
      have hfails : ∀ legacyVpu5, FirmwareFails legacyVpu5 env := by
        intro legacyVpu5
        unfold irisFwLoad at hload
        split_ifs at hload with hmemory hprotect
        · exact .inl hmemory
        · exact .inr (.inl hprotect)
        · exact absurd (congrArg Prod.fst hload).symm hret
      exact ((hboot hstate hqueues hpower).2.2 (hloadSame hload) (hfails _)).congr
        (hdeinitialised _)
  | noBoot hstate hqueues hpower hload _ hfails =>
      have hunloaded : SamePower _ (irisFwUnload _) :=
        (hloadSame hload).trans ⟨rfl, rfl, rfl, rfl, rfl⟩
      exact ((hboot hstate hqueues hpower).2.2 hunloaded hfails).congr (hdeinitialised _)
  | booted hstate hqueues hpower hload _ _ _ =>
      exact (hboot hstate hqueues hpower).2.1.congr (hloadSame hload)

theorem coreInit
    (hok : core.state = .deinit → (irisHfiQueuesInit env core).1 = 0 →
      BootOk FirmwareFails env core) :
    PowerBalanced pd tbl base (irisCoreInit env core).2 := by
  have hsection := hinv.coreInitSection hwf hok
  unfold irisCoreInit
  revert hsection
  generalize irisCoreInitSection env core = result
  intro hsection
  rcases result with ⟨_ | ret, core'⟩
  · exact hsection.congr (.irisWaitForSystemResponse env core')
  · exact hsection

theorem pcEnter (hok : Collapses env → PowerOffOk env core) :
    PowerBalanced pd tbl base (irisPcEnter env core).2 := by
  unfold irisPcEnter
  split_ifs with hprepare hsuspend
  · exact hinv
  · exact hinv
  · have hcollapses : Collapses env := ⟨not_not.1 hprepare, not_not.1 hsuspend⟩
    exact (hinv.powerOff hwf (hok hcollapses)).congr ⟨rfl, rfl, rfl, rfl, rfl⟩

theorem resumeFromCollapse (hok : BootOk ResumeFails env core) :
    PowerBalanced pd tbl base (irisResumeFromCollapse env core).2 := by
  obtain ⟨hon, hoff⟩ := hok
  have hpowered := hinv.powerOn hwf hon
  have hspec := irisResumeFromCollapse_spec env core
  revert hspec
  generalize irisResumeFromCollapse env core = result
  intro hspec
  cases hspec with
  | noPower hpower hret =>
      rw [hpower] at hpowered
      exact absurd hpowered.1 hret
  | noBoot hpower hfails =>
      rw [hpower] at hpowered
      have hpd := hpowered.2.2
      exact hpowered.2.1.powerOff hwf fun _ => (hoff (hpd ▸ hfails)).congr hpd
  | resumed hpower _ =>
      rw [hpower] at hpowered
      exact hpowered.2.1.congr ⟨rfl, rfl, rfl, rfl, rfl⟩

theorem pcExit (hok : core.vpuSuspended = true → BootOk ResumeFails env core) :
    PowerBalanced pd tbl base (irisPcExit env core).2 := by
  unfold irisPcExit
  cases hsuspended : core.vpuSuspended with
  | false => exact hinv
  | true => exact hinv.resumeFromCollapse hwf (hok hsuspended)

theorem pmSuspend (hok : core.state = .init → core.instances = 0 → core.vpuSuspended = false →
    Collapses env → PowerOffOk env core) :
    PowerBalanced pd tbl base (irisPmSuspend env core).2 := by
  unfold irisPmSuspend irisHfiPmSuspend
  split_ifs with hstate hinstances hsuspended hprepare hlegacy hsuspend
  · exact hinv
  · exact hinv
  · exact hinv
  · exact hinv
  · exact hinv
  · exact hinv
  · have hoff := hok (not_not.1 hstate) (not_not.1 hinstances) (by simpa using hsuspended)
      ⟨not_not.1 hprepare, not_not.1 hsuspend⟩
    exact (hinv.powerOff hwf hoff).congr ⟨rfl, rfl, rfl, rfl, rfl⟩

theorem pmResume (hok : core.state = .init → core.vpuSuspended = true →
    BootOk ResumeFails env core) :
    PowerBalanced pd tbl base (irisPmResume env core).2 := by
  unfold irisPmResume irisHfiPmResume
  by_cases hinit : core.state = .init
  · rw [if_neg (by simpa using hinit)]
    cases hsuspended : core.vpuSuspended with
    | false => exact hinv
    | true => exact hinv.resumeFromCollapse hwf (hok hinit hsuspended)
  · rw [if_pos hinit]
    exact hinv

/-- One operation whose power-on and power-off calls go well. -/
theorem apply {op : PowerOp} (hok : op.Ok core) : PowerBalanced pd tbl base (op.apply core) := by
  cases op with
  | powerOn env => exact (hinv.powerOn hwf hok).2.1
  | powerOff env => exact hinv.powerOff hwf hok
  | coreInit env => exact hinv.coreInit hwf hok
  | coreDeinit env => exact hinv.coreDeinit hwf hok
  | coreRecover deinitEnv initEnv =>
      have hdeinit := hinv.coreDeinit hwf hok.1
      refine hdeinit.coreInit hwf fun _ hqueues => hok.2 ?_
      unfold irisHfiQueuesInit at hqueues ⊢
      split_ifs at hqueues ⊢ <;> simp_all
  | pcEnter env => exact hinv.pcEnter hwf hok
  | pcExit env => exact hinv.pcExit hwf hok
  | pmSuspend env => exact hinv.pmSuspend hwf hok
  | pmResume env => exact hinv.pmResume hwf hok
  | fatalError => exact hinv.congr ⟨rfl, rfl, rfl, rfl, rfl⟩
  | setInstances n => exact hinv.congr ⟨rfl, rfl, rfl, rfl, rfl⟩

end PowerBalanced

/-! ### Runs -/

theorem powerBalanced_probed (pd : PlatformData) (tbl : List Clk) (base : Resource → Int) :
    PowerBalanced pd tbl base (Core.probed pd tbl base) where
  platformData := rfl
  clockTbl := rfl
  counters := Counters.balanced_start base _
  watchdog := by simp [Core.probed]

/-- **Power references balance.** On every supported platform, in every state that operations
whose power-on and power-off calls go well lead to, no counter has been below its value at the
start, and each stands above it by what a powered VPU holds exactly when `vpu_powered` is set. -/
theorem power_references_balance {pd : PlatformData} (hpd : pd ∈ irisDtMatch) (tbl : List Clk)
    (base : Resource → Int) {ops : List PowerOp} {core : Core}
    (hrun : Run (guarded powerStep fun core op => op.Ok core) (Core.probed pd tbl base) ops core) :
    (∀ r, base r ≤ core.counters.low r) ∧
      ∀ r, core.counters.held r =
        base r + if core.vpuPowered then (core.powerSet.count r : Int) else 0 := by
  have hinv : PowerBalanced pd tbl base core := by
    refine hrun.invariant (fun s op t hinv hstep => ?_) (powerBalanced_probed pd tbl base)
    obtain ⟨hok, rfl⟩ := hstep
    exact hinv.apply (wellFormed_of_mem_irisDtMatch hpd) hok
  exact ⟨hinv.counters.low, hinv.counters.held⟩

/-! ### A boot and a shutdown -/

theorem power_references_balance_cycle :
    let core := irisCoreDeinit okEnv (irisCoreInit okEnv sm8150Core).2
    (∀ r, 0 ≤ core.counters.low r) ∧
      ∀ r, core.counters.held r =
        0 + if core.vpuPowered then (core.powerSet.count r : Int) else 0 := by
  have hinit : PowerOp.Ok sm8150Core (.coreInit okEnv) :=
    fun _ _ => ⟨⟨rfl, powerOnSucceeds_okEnv⟩, fun _ => powerOffSucceeds_okEnv _⟩
  have hdeinit : ∀ core, PowerOp.Ok core (.coreDeinit okEnv) :=
    fun core _ _ => powerOffSucceeds_okEnv core
  have hrun : Run (guarded powerStep fun core op => op.Ok core) sm8150Core
      [.coreInit okEnv, .coreDeinit okEnv]
      (irisCoreDeinit okEnv (irisCoreInit okEnv sm8150Core).2) :=
    .cons ⟨hinit, rfl⟩ (.cons ⟨hdeinit _, rfl⟩ (.nil _))
  exact power_references_balance (by simp [irisDtMatch]) sm8150Clocks (fun _ => 0) hrun

/-! ### A failed resume

The interconnect vote fails when the VPU is powered up after a collapse. The teardown that follows
releases references that nobody holds. -/

theorem not_power_references_balance :
    ¬ ∀ (ops : List PowerOp) (core : Core), Run powerStep sm8150Core ops core →
      (∀ r, 0 ≤ core.counters.low r) ∧
        ∀ r, core.counters.held r =
          0 + if core.vpuPowered then (core.powerSet.count r : Int) else 0 := by
  intro hbalance
  have hlow := (hbalance [.coreInit okEnv, .pcEnter okEnv, .pcExit noIccEnv, .coreDeinit okEnv] _
    (.cons rfl (.cons rfl (.cons rfl (.cons rfl (.nil _)))))).1 (.clk .iface)
  exact absurd hlow (by decide)

end NabuIris
