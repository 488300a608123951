import NabuIris.Lib.Run
import NabuIris.Proof.LifecycleSpec
import NabuIris.Proof.PowerFrame

/-!
# What a core in `DEINIT` holds

Teardown releases the queues, the power and the firmware from every state. Bring-up does not: from
`ERROR` it goes straight to `DEINIT` with whatever the errored core held, a failed power-on is not
powered off, and a missing SFR buffer leaves the address of a freed queue table behind. These are
the only ways to a core in `DEINIT` that holds something.
-/

namespace NabuIris

open Lib

inductive CoreOp
  | coreInit (env : Env)
  /-- `iris_core_init` up to its wait for the firmware -/
  | coreInitSection (env : Env)
  | coreDeinit (env : Env)
  /-- `iris_core_deinit` of a thread that looked at the state earlier -/
  | coreDeinitSection (env : Env)
  | coreRecover (deinitEnv initEnv : Env)
  | systemError
  | initTimeout

def CoreOp.apply : CoreOp → Core → Core
  | .coreInit env, core => (irisCoreInit env core).2
  | .coreInitSection env, core => (irisCoreInitSection env core).2
  | .coreDeinit env, core => irisCoreDeinit env core
  | .coreDeinitSection env, core => irisCoreDeinitSection env core
  | .coreRecover deinitEnv initEnv, core => (irisCoreRecover deinitEnv initEnv core).2
  | .systemError, core => { core with state := .error }
  | .initTimeout, core => { core with state := .error }

def coreAfter (core : Core) (ops : List CoreOp) : Core :=
  ops.foldl (fun core op => op.apply core) core

def NothingHeld (core : Core) : Prop :=
  core.ifaceQTable = false ∧ core.vpuPowered = false ∧ core.fwLoaded = false

instance (core : Core) : Decidable (NothingHeld core) :=
  inferInstanceAs (Decidable (_ ∧ _ ∧ _))

def ResourcesReleased (core : Core) : Prop := core.state = .deinit → NothingHeld core

/-- Unless there is no memory for the queue table, there is memory for the SFR buffer and every
call of the power-on succeeds. -/
def BringUpClean (env : Env) (core : Core) : Prop :=
  env .allocQueueTable = 0 → env .allocSfr = 0 ∧ PowerOnSucceeds env core

/-- `iris_core_init` finds an errored core only when that core holds nothing, and an uninitialised
one only when bring-up gets past the power-on or stops before it allocates. -/
def CoreInitOk (env : Env) (core : Core) : Prop :=
  (core.state = .error → NothingHeld core) ∧ (core.state = .deinit → BringUpClean env core)

def CoreOp.Ok : Core → CoreOp → Prop
  | core, .coreInit env => CoreInitOk env core
  | core, .coreInitSection env => CoreInitOk env core
  | core, .coreRecover _ initEnv => BringUpClean initEnv core
  | _, .coreDeinit _ => True
  | _, .coreDeinitSection _ => True
  | _, .systemError => True
  | _, .initTimeout => True

/-- `dev_pm_opp_set_rate` returns zero or a negative error. -/
def CoreOp.OppReturns : CoreOp → Prop
  | .coreInit env => env .ctrlOpp ≤ 0
  | .coreInitSection env => env .ctrlOpp ≤ 0
  | .coreRecover _ initEnv => initEnv .ctrlOpp ≤ 0
  | _ => True

/-- Platform data and clock names, which no operation changes. -/
def OnPlatform (pd : PlatformData) (tbl : List Clk) (core : Core) : Prop :=
  core.platformData = pd ∧ core.clockTbl = tbl

/-! ### Teardown -/

variable {env : Env} {core core' : Core}

theorem irisCoreDeinitSection_released (env : Env) (core : Core) :
    NothingHeld (irisCoreDeinitSection env core) ∧
      (irisCoreDeinitSection env core).state = .deinit := by
  obtain ⟨hframe, hoff⟩ := irisVpuPowerOff_frame env (irisFwUnload core)
  refine ⟨⟨?_, ?_, ?_⟩, rfl⟩
  · simp only [irisCoreDeinitSection, irisHfiQueuesDeinit]
    split_ifs with hqueues
    · simpa using hqueues
    · rfl
  · simp only [irisCoreDeinitSection, irisHfiQueuesDeinit]
    split_ifs <;> exact hoff
  · simp only [irisCoreDeinitSection, irisHfiQueuesDeinit]
    split_ifs <;> exact hframe.fwLoaded

theorem irisCoreDeinit_released (env : Env) (hreleased : ResourcesReleased core) :
    NothingHeld (irisCoreDeinit env core) ∧ (irisCoreDeinit env core).state = .deinit := by
  unfold irisCoreDeinit
  by_cases hstate : core.state = .deinit
  · rw [if_pos hstate]
    exact ⟨hreleased hstate, hstate⟩
  · rw [if_neg hstate]
    exact irisCoreDeinitSection_released env core

theorem NothingHeld.released (hnothing : NothingHeld core) : ResourcesReleased core :=
  fun _ => hnothing

theorem resourcesReleased_of_ne (hstate : core.state ≠ .deinit) : ResourcesReleased core :=
  fun hdeinit => absurd hdeinit hstate

/-! ### Bring-up -/

theorem irisHfiQueuesDeinit_ifaceQTable (core : Core) :
    (irisHfiQueuesDeinit core).ifaceQTable = false := by
  unfold irisHfiQueuesDeinit
  split_ifs with hqueues
  · simpa using hqueues
  · rfl

theorem irisHfiQueuesDeinit_vpuPowered (core : Core) :
    (irisHfiQueuesDeinit core).vpuPowered = core.vpuPowered := by
  unfold irisHfiQueuesDeinit
  split_ifs <;> rfl

theorem irisHfiQueuesDeinit_fwLoaded (core : Core) :
    (irisHfiQueuesDeinit core).fwLoaded = core.fwLoaded := by
  unfold irisHfiQueuesDeinit
  split_ifs <;> rfl

/-- The labels from `error_power_off` down release the power and the queues. -/
theorem nothingHeld_errorPowerOff (env : Env) (hfw : core.fwLoaded = false) :
    NothingHeld (irisHfiQueuesDeinit (irisVpuPowerOff env core)).deinitialised := by
  obtain ⟨hframe, hoff⟩ := irisVpuPowerOff_frame env core
  refine ⟨irisHfiQueuesDeinit_ifaceQTable _, ?_, ?_⟩
  · exact (irisHfiQueuesDeinit_vpuPowered _).trans hoff
  · exact (irisHfiQueuesDeinit_fwLoaded _).trans (hframe.fwLoaded.trans hfw)

theorem irisHfiQueuesInit_zero (hqueues : irisHfiQueuesInit env core = (0, core')) :
    env .allocQueueTable = 0 ∧ env .allocSfr = 0 ∧ core' = { core with ifaceQTable := true } := by
  unfold irisHfiQueuesInit at hqueues
  split_ifs at hqueues with htable hsfr
  · exact absurd (Prod.mk.inj hqueues).1 (by decide)
  · exact absurd (Prod.mk.inj hqueues).1 (by decide)
  · exact ⟨not_not.1 htable, not_not.1 hsfr, (Prod.mk.inj hqueues).2.symm⟩

theorem irisFwLoad_frame {ret : Int} (hload : irisFwLoad env core = (ret, core')) :
    core'.state = core.state ∧ OnPlatform core.platformData core.clockTbl core' := by
  unfold irisFwLoad at hload
  split_ifs at hload <;> rw [← (Prod.mk.inj hload).2] <;> exact ⟨rfl, rfl, rfl⟩

/-- A core whose firmware was booted is in `INIT`. -/
theorem irisCoreInitSection_none (hsection : irisCoreInitSection env core = (none, core')) :
    core'.state = .init := by
  have hspec := irisCoreInitSection_spec env core
  rw [hsection] at hspec
  cases hspec with
  | booted _ hqueues hon hload _ _ _ =>
      obtain ⟨-, -, rfl⟩ := irisHfiQueuesInit_zero hqueues
      have hframe := (irisVpuPowerOn_frame env { core.initialising with ifaceQTable := true }).1
      rw [hon] at hframe
      exact (irisFwLoad_frame hload).1.trans hframe.state

/-- **Bring-up of an uninitialised core** holds nothing in `DEINIT` exactly when it gets past the
power-on or stops before it allocates. -/
theorem irisCoreInitSection_released_iff (hpd : core.platformData.WellFormed)
    (hopp : env .ctrlOpp ≤ 0) (hstate : core.state = .deinit) (hnothing : NothingHeld core) :
    ResourcesReleased (irisCoreInitSection env core).2 ↔ BringUpClean env core := by
  obtain ⟨htable, hpowered, hfw⟩ := hnothing
  -- after the queues, the power-on is that of the core in `DEINIT`
  have hpower : ∀ {core₁ core₂ : Core} {ret : Int},
      irisHfiQueuesInit env core.initialising = (0, core₁) →
      irisVpuPowerOn env core₁ = (ret, core₂) →
      PowerFrame core₁ core₂ ∧ core₂.vpuPowered = true ∧ core₂.fwLoaded = false ∧
        core₂.state = .init ∧ (BringUpClean env core ↔ ret = 0) := by
    intro core₁ core₂ ret hqueues hon
    obtain ⟨hallocTable, hallocSfr, rfl⟩ := irisHfiQueuesInit_zero hqueues
    obtain ⟨hframe, hpowered₂⟩ :=
      irisVpuPowerOn_frame env { core.initialising with ifaceQTable := true }
    rw [hon] at hframe hpowered₂
    refine ⟨hframe, hpowered₂, hframe.fwLoaded.trans hfw, hframe.state, fun hclean => ?_,
      fun hret => fun _ => ⟨hallocSfr, ?_⟩⟩
    · have heq := @irisVpuPowerOn_eq env { core.initialising with ifaceQTable := true } hpd
        ((hclean hallocTable).2.congr rfl rfl)
      rw [hon] at heq
      exact (Prod.mk.inj heq).1
    · subst hret
      exact (@irisVpuPowerOn_succeeds env { core.initialising with ifaceQTable := true } hpd
        (fun _ => hopp)
        (congrArg Prod.fst hon)).congr rfl rfl
  have hspec := irisCoreInitSection_spec env core
  revert hspec
  generalize irisCoreInitSection env core = result
  intro hspec
  cases hspec with
  | already hinit => exact absurd (hstate.symm.trans hinit) (by decide)
  | refused herror => exact absurd (hstate.symm.trans herror) (by decide)
  | noQueues _ hqueues hret =>
      unfold irisHfiQueuesInit at hqueues
      split_ifs at hqueues with hallocTable hallocSfr
      · obtain ⟨-, rfl⟩ := Prod.mk.inj hqueues
        exact iff_of_true (fun _ => ⟨rfl, hpowered, hfw⟩) fun hzero => absurd hzero hallocTable
      · obtain ⟨-, rfl⟩ := Prod.mk.inj hqueues
        refine iff_of_false (fun hreleased => ?_) fun hclean => ?_
        · exact absurd (hreleased rfl).1 (by simp [Core.deinitialised])
        · exact hallocSfr (hclean (not_not.1 hallocTable)).1
      · exact absurd (Prod.mk.inj hqueues).1.symm hret
  | noPower _ hqueues hon hret =>
      obtain ⟨-, hpowered₂, -, -, hclean⟩ := hpower hqueues hon
      refine iff_of_false (fun hreleased => ?_) fun h => hret (hclean.1 h)
      have hoff := (hreleased rfl).2.1
      rw [Core.deinitialised, irisHfiQueuesDeinit_vpuPowered, hpowered₂] at hoff
      exact absurd hoff (by decide)
  | noFirmware _ hqueues hon hload hret =>
      obtain ⟨-, -, hfw₂, -, hclean⟩ := hpower hqueues hon
      refine iff_of_true (nothingHeld_errorPowerOff env ?_).released (hclean.2 rfl)
      unfold irisFwLoad at hload
      split_ifs at hload with hmemory hprotect
      · rwa [← (Prod.mk.inj hload).2]
      · rw [← (Prod.mk.inj hload).2]
        rfl
      · exact absurd (Prod.mk.inj hload).1.symm hret
  | noBoot _ hqueues hon _ _ _ =>
      obtain ⟨-, -, -, -, hclean⟩ := hpower hqueues hon
      exact iff_of_true (nothingHeld_errorPowerOff env rfl).released (hclean.2 rfl)
  | booted _ hqueues hon hload _ _ _ =>
      obtain ⟨-, -, -, hstate₂, hclean⟩ := hpower hqueues hon
      refine iff_of_true (resourcesReleased_of_ne ?_) (hclean.2 rfl)
      rw [(irisFwLoad_frame hload).1, hstate₂]
      decide

theorem irisCoreInitSection_released_iff_ok (hpd : core.platformData.WellFormed)
    (hopp : env .ctrlOpp ≤ 0) (hreleased : ResourcesReleased core) :
    ResourcesReleased (irisCoreInitSection env core).2 ↔ CoreInitOk env core := by
  cases hstate : core.state with
  | init =>
      have heq : irisCoreInitSection env core = (some 0, core) := by
        simp [irisCoreInitSection, hstate]
      rw [heq]
      refine iff_of_true hreleased ⟨fun h => ?_, fun h => ?_⟩
      · exact absurd (hstate.symm.trans h) (by decide)
      · exact absurd (hstate.symm.trans h) (by decide)
  | error =>
      have heq : irisCoreInitSection env core = (some (-einval), core.deinitialised) := by
        simp [irisCoreInitSection, hstate, Core.deinitialised]
      rw [heq]
      constructor
      · exact fun h => ⟨fun _ => h rfl, fun h => absurd (hstate.symm.trans h) (by decide)⟩
      · exact fun h _ => h.1 hstate
  | deinit =>
      rw [irisCoreInitSection_released_iff hpd hopp hstate (hreleased hstate)]
      constructor
      · exact fun h => ⟨fun h => absurd (hstate.symm.trans h) (by decide), fun _ => h⟩
      · exact fun h => h.2 hstate

theorem irisCoreInit_released_iff (env : Env) (core : Core) :
    ResourcesReleased (irisCoreInit env core).2 ↔
      ResourcesReleased (irisCoreInitSection env core).2 := by
  unfold irisCoreInit
  cases hsection : irisCoreInitSection env core with
  | mk ret core' =>
      cases ret with
      | some ret => exact Iff.rfl
      | none =>
          have hinit := irisCoreInitSection_none hsection
          have hwait : (irisWaitForSystemResponse env core').2.state ≠ .deinit := by
            unfold irisWaitForSystemResponse
            split_ifs <;> simp [hinit]
          exact iff_of_true (resourcesReleased_of_ne hwait)
            (resourcesReleased_of_ne (by simp [hinit]))

/-! ### Runs -/

section Platform

variable {pd : PlatformData} {tbl : List Clk}

theorem OnPlatform.powerFrame (hon : OnPlatform pd tbl core) (hframe : PowerFrame core core') :
    OnPlatform pd tbl core' :=
  ⟨hframe.platformData.trans hon.1, hframe.clockTbl.trans hon.2⟩

theorem OnPlatform.queuesDeinit (hon : OnPlatform pd tbl core) :
    OnPlatform pd tbl (irisHfiQueuesDeinit core) := by
  unfold irisHfiQueuesDeinit
  split_ifs <;> exact hon

theorem OnPlatform.queuesInit (hon : OnPlatform pd tbl core) :
    OnPlatform pd tbl (irisHfiQueuesInit env core).2 := by
  unfold irisHfiQueuesInit
  split_ifs <;> exact hon

theorem OnPlatform.powerOff (env : Env) (hon : OnPlatform pd tbl core) :
    OnPlatform pd tbl (irisVpuPowerOff env core) :=
  hon.powerFrame (irisVpuPowerOff_frame env core).1

theorem OnPlatform.coreDeinitSection (env : Env) (hon : OnPlatform pd tbl core) :
    OnPlatform pd tbl (irisCoreDeinitSection env core) :=
  (@OnPlatform.powerOff (irisFwUnload core) pd tbl env hon).queuesDeinit

theorem OnPlatform.coreDeinit (env : Env) (hon : OnPlatform pd tbl core) :
    OnPlatform pd tbl (irisCoreDeinit env core) := by
  unfold irisCoreDeinit
  split_ifs
  · exact hon
  · exact hon.coreDeinitSection env

theorem OnPlatform.coreInitSection (env : Env) (hon : OnPlatform pd tbl core) :
    OnPlatform pd tbl (irisCoreInitSection env core).2 := by
  have hqueues : ∀ {ret : Int} {core₁ : Core},
      irisHfiQueuesInit env core.initialising = (ret, core₁) → OnPlatform pd tbl core₁ := by
    intro ret core₁ heq
    have h := @OnPlatform.queuesInit env core.initialising pd tbl hon
    rwa [heq] at h
  have hpower : ∀ {ret : Int} {core₁ core₂ : Core}, OnPlatform pd tbl core₁ →
      irisVpuPowerOn env core₁ = (ret, core₂) → OnPlatform pd tbl core₂ := by
    intro ret core₁ core₂ hon₁ heq
    have hframe := (irisVpuPowerOn_frame env core₁).1
    rw [heq] at hframe
    exact hon₁.powerFrame hframe
  have hload : ∀ {ret : Int} {core₂ core₃ : Core}, OnPlatform pd tbl core₂ →
      irisFwLoad env core₂ = (ret, core₃) → OnPlatform pd tbl core₃ := by
    rintro ret core₂ core₃ ⟨rfl, rfl⟩ heq
    exact (irisFwLoad_frame heq).2
  have hspec := irisCoreInitSection_spec env core
  revert hspec
  generalize irisCoreInitSection env core = result
  intro hspec
  cases hspec with
  | already _ => exact hon
  | refused _ => exact hon
  | noQueues _ hinit _ =>
      have hon₁ := hqueues hinit
      exact hon₁
  | noPower _ hinit hon₁ _ => exact (hpower (hqueues hinit) hon₁).queuesDeinit
  | noFirmware _ hinit hon₁ hfw _ =>
      exact ((hload (hpower (hqueues hinit) hon₁) hfw).powerOff env).queuesDeinit
  | @noBoot _ _ _ core₃ _ hinit hon₁ hfw _ _ =>
      have hon₃ := hload (hpower (hqueues hinit) hon₁) hfw
      exact (@OnPlatform.powerOff (irisFwUnload core₃) pd tbl env hon₃).queuesDeinit
  | booted _ hinit hon₁ hfw _ _ _ => exact hload (hpower (hqueues hinit) hon₁) hfw

theorem OnPlatform.coreInit (env : Env) (hon : OnPlatform pd tbl core) :
    OnPlatform pd tbl (irisCoreInit env core).2 := by
  have hsection := hon.coreInitSection env
  unfold irisCoreInit
  revert hsection
  generalize irisCoreInitSection env core = result
  intro hsection
  rcases result with ⟨_ | ret, core'⟩
  · unfold irisWaitForSystemResponse
    dsimp only
    split_ifs <;> exact hsection
  · exact hsection

theorem OnPlatform.apply (hon : OnPlatform pd tbl core) (op : CoreOp) :
    OnPlatform pd tbl (op.apply core) := by
  cases op with
  | coreInit env => exact hon.coreInit env
  | coreInitSection env => exact hon.coreInitSection env
  | coreDeinit env => exact hon.coreDeinit env
  | coreDeinitSection env => exact hon.coreDeinitSection env
  | coreRecover deinitEnv initEnv => exact (hon.coreDeinit deinitEnv).coreInit initEnv
  | systemError => exact hon
  | initTimeout => exact hon

end Platform

/-- One operation on a core that holds nothing in `DEINIT`. -/
theorem CoreOp.apply_released_iff {pd : PlatformData} {tbl : List Clk} (hpd : pd.WellFormed)
    (hon : OnPlatform pd tbl core) (hreleased : ResourcesReleased core) {op : CoreOp}
    (hopp : op.OppReturns) : ResourcesReleased (op.apply core) ↔ op.Ok core := by
  cases op with
  | coreInit env =>
      rw [CoreOp.apply, irisCoreInit_released_iff]
      exact irisCoreInitSection_released_iff_ok (hon.1 ▸ hpd) hopp hreleased
  | coreInitSection env =>
      exact irisCoreInitSection_released_iff_ok (hon.1 ▸ hpd) hopp hreleased
  | coreDeinit env =>
      exact iff_of_true (irisCoreDeinit_released env hreleased).1.released trivial
  | coreDeinitSection env =>
      exact iff_of_true (irisCoreDeinitSection_released env core).1.released trivial
  | coreRecover deinitEnv initEnv =>
      obtain ⟨hnothing, hstate⟩ := irisCoreDeinit_released deinitEnv hreleased
      have hon' := hon.coreDeinit deinitEnv
      rw [CoreOp.apply, irisCoreRecover, irisCoreInit_released_iff,
        irisCoreInitSection_released_iff (hon'.1 ▸ hpd) hopp hstate hnothing]
      have hpdEq := hon'.1.trans hon.1.symm
      have hclkEq := hon'.2.trans hon.2.symm
      constructor
      · exact fun h htable => ⟨(h htable).1, (h htable).2.congr hpdEq.symm hclkEq.symm⟩
      · exact fun h htable => ⟨(h htable).1, (h htable).2.congr hpdEq hclkEq⟩
  | systemError => exact iff_of_true (resourcesReleased_of_ne (by simp [apply])) trivial
  | initTimeout => exact iff_of_true (resourcesReleased_of_ne (by simp [apply])) trivial

/-- **A core in `DEINIT` holds nothing** throughout a run exactly when every step of the run meets
its condition. -/
theorem deinit_holds_nothing_iff {pd : PlatformData} (hpd : pd ∈ irisDtMatch) (tbl : List Clk)
    (base : Resource → Int) (ops : List CoreOp) (hopp : ∀ op ∈ ops, op.OppReturns) :
    (∀ pre, pre <+: ops → ResourcesReleased (coreAfter (Core.probed pd tbl base) pre)) ↔
      ∀ pre op, pre ++ [op] <+: ops → op.Ok (coreAfter (Core.probed pd tbl base) pre) := by
  have hwf := wellFormed_of_mem_irisDtMatch hpd
  have hprobed : OnPlatform pd tbl (Core.probed pd tbl base) := ⟨rfl, rfl⟩
  have hnothing : ResourcesReleased (Core.probed pd tbl base) := fun _ => ⟨rfl, rfl, rfl⟩
  refine @good_prefixes_iff _ _ (fun core op => CoreOp.apply op core) CoreOp.Ok ops
    (OnPlatform pd tbl) ResourcesReleased (fun core op _ hon => hon.apply op)
    (fun core op hmem hon hreleased => ?_) _ hprobed hnothing
  exact CoreOp.apply_released_iff hwf hon hreleased (hopp op hmem)

/-- A boot, a system error and a teardown. -/
theorem deinit_holds_nothing_teardown :
    ResourcesReleased
      (coreAfter sm8150Core [.coreInit okEnv, .systemError, .coreDeinit okEnv]) := by
  refine (deinit_holds_nothing_iff (by simp [irisDtMatch]) sm8150Clocks (fun _ => 0)
    [.coreInit okEnv, .systemError, .coreDeinit okEnv] ?_).2 ?_ _ List.prefix_rfl
  · simp [CoreOp.OppReturns, okEnv]
  · intro pre op hpre
    rcases pre with _ | ⟨first, _ | ⟨second, _ | ⟨third, rest⟩⟩⟩ <;>
      simp only [List.cons_append, List.nil_append, List.cons_prefix_cons, List.prefix_nil,
        List.nil_prefix, and_true, List.append_eq_nil_iff, List.cons_ne_self,
        and_false] at hpre
    · subst hpre
      exact ⟨fun herror => absurd herror (by decide), fun _ _ => ⟨rfl, powerOnSucceeds_okEnv⟩⟩
    · obtain ⟨-, rfl⟩ := hpre
      trivial
    · obtain ⟨-, -, rfl⟩ := hpre
      trivial

/-- After a system error the next `iris_core_init` gives up the state but not the resources. -/
theorem not_deinit_holds_nothing :
    ¬ ∀ ops : List CoreOp, ResourcesReleased (coreAfter sm8150Core ops) := by
  intro hreleased
  have hdeinit := hreleased [.coreInit okEnv, .systemError, .coreInit okEnv] rfl
  exact absurd hdeinit (by decide)

end NabuIris
