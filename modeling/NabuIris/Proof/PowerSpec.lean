import NabuIris.Power

/-!
# What power-on and power-off hold and release

One equation for each function of `NabuIris.Power` on the path where its calls succeed: a
successful power-on acquires `powerSet`, and a power-off releases a permutation of it.
-/

namespace NabuIris

open Lib

namespace Core

def acquireAll (core : Core) (rs : List Resource) : Core :=
  { core with counters := core.counters.acquireAll rs }

def releaseAll (core : Core) (rs : List Resource) : Core :=
  { core with counters := core.counters.releaseAll rs }

/-- The clock of a type, if the device has it. -/
def clkRes (core : Core) (clkType : ClkType) : List Resource :=
  ((irisGetClkByType core clkType).map Resource.clk).toList

def ctrlSet (core : Core) : List Resource :=
  [.domain .ctrl] ++ (if core.platformData.deferVcodecPower then core.clkRes .bus else []) ++
    core.clkRes .axi ++ core.clkRes .ctrl

def hwSet (core : Core) : List Resource :=
  [.domain .hw] ++ (if core.platformData.auxPdDev then [.domain .auxHw] else []) ++
    (if core.platformData.deferVcodecPower then core.clkRes .hwAxi ++ core.clkRes .auxHwAxi
      else []) ++
    core.clkRes .hw ++ (if core.platformData.auxPdDev then core.clkRes .auxHw else [])

/-- What a powered VPU holds. -/
def powerSet (core : Core) : List Resource := core.ctrlSet ++ core.hwSet ++ [.irq]

variable (core : Core) (rs rs' : List Resource) (clkType : ClkType)

@[simp]
theorem acquireAll_platformData : (core.acquireAll rs).platformData = core.platformData := rfl

@[simp]
theorem releaseAll_platformData : (core.releaseAll rs).platformData = core.platformData := rfl

@[simp]
theorem clkRes_acquireAll : (core.acquireAll rs).clkRes clkType = core.clkRes clkType := rfl

@[simp]
theorem clkRes_releaseAll : (core.releaseAll rs).clkRes clkType = core.clkRes clkType := rfl

@[simp]
theorem acquireAll_acquireAll :
    (core.acquireAll rs).acquireAll rs' = core.acquireAll (rs ++ rs') := by
  simp [acquireAll]

@[simp]
theorem releaseAll_releaseAll :
    (core.releaseAll rs).releaseAll rs' = core.releaseAll (rs ++ rs') := by
  simp [releaseAll]

@[simp]
theorem acquireAll_nil : core.acquireAll [] = core := rfl

@[simp]
theorem releaseAll_nil : core.releaseAll [] = core := rfl

theorem acquire_eq (r : Resource) : core.acquire r = core.acquireAll [r] := rfl

theorem release_eq (r : Resource) : core.release r = core.releaseAll [r] := rfl

/-- What a powered VPU holds depends on the platform and the device tree only. -/
theorem powerSet_congr {core core' : Core} (hpd : core'.platformData = core.platformData)
    (hclk : core'.clockTbl = core.clockTbl) : core'.powerSet = core.powerSet := by
  simp only [powerSet, ctrlSet, hwSet, clkRes, irisGetClkByType, hpd, hclk]

end Core

/-! ### Conditions on the environment -/

def ClkEnables (env : Env) (core : Core) (clkType : ClkType) : Prop :=
  (irisGetClkByType core clkType).isSome ∧ env (.clkEnable clkType) = 0

instance (env : Env) (core : Core) (clkType : ClkType) :
    Decidable (ClkEnables env core clkType) :=
  inferInstanceAs (Decidable (_ ∧ _))

/-- Every call that `iris_vpu_power_on` makes on this platform succeeds. -/
structure PowerOnSucceeds (env : Env) (core : Core) : Prop where
  setIccBw : env .setIccBw = 0
  ctrlOpp : core.platformData.deferVcodecPower = false → env .ctrlOpp = 0
  ctrlGet : 0 ≤ env .ctrlGet
  resets : (if core.platformData.deferVcodecPower then
    resetControls env (List.range core.platformData.clkRstTblSize) else env .bulkReset) = 0
  bus : core.platformData.deferVcodecPower = true → ClkEnables env core .bus
  axi : ClkEnables env core .axi
  ctrl : ClkEnables env core .ctrl
  hwOpp : core.platformData.deferVcodecPower = false → env .hwOpp = 0
  hwGet : if core.platformData.deferVcodecPower then 0 ≤ env .hwGet else env .hwGet = 0
  auxGet : core.platformData.auxPdDev = true → 0 ≤ env .auxGet
  hwAxi : core.platformData.deferVcodecPower = true → ClkEnables env core .hwAxi
  auxHwAxi : core.platformData.deferVcodecPower = true → ClkEnables env core .auxHwAxi
  hw : ClkEnables env core .hw
  auxHw : core.platformData.auxPdDev = true → ClkEnables env core .auxHw
  control : core.platformData.deferVcodecPower = false →
    if core.platformData.useVcodecHwControl then
      env .vcodecSwControl = 0 ∧ env .vcodecHwControl = 0
    else env .genpdHwmode = 0
  oppRate : env .oppRate = 0

/-- The calls that decide what `iris_vpu_power_off` releases succeed: clearing the OPP, on
platforms that do so with each domain, and the handshakes of a `vpu33` controller. -/
structure PowerOffSucceeds (env : Env) (core : Core) : Prop where
  ctrlDisableOpp : core.platformData.legacyVpu5 = false → env .ctrlDisableOpp = 0
  hwDisableOpp : core.platformData.deferVcodecPower = false → env .hwDisableOpp = 0
  nocPolls : core.platformData.vpuOps = .vpu33 →
    env .cpuNocPoll = 0 ∧ env .debugBridgePoll = 0 ∧ env .aonSparePoll = 0

/-- What the platform tables have in common. -/
structure PlatformData.WellFormed (pd : PlatformData) : Prop where
  aux : pd.deferVcodecPower = true → 2 < pd.pmdomainTblSize
  legacy : pd.legacyVpu5 = pd.deferVcodecPower
  vpu33 : pd.vpuOps = .vpu33 → pd.deferVcodecPower = false

theorem wellFormed_of_mem_irisDtMatch {pd : PlatformData} (hpd : pd ∈ irisDtMatch) :
    pd.WellFormed := by
  simp only [irisDtMatch, List.mem_cons, List.not_mem_nil, or_false] at hpd
  rcases hpd with rfl | rfl | rfl | rfl | rfl <;> constructor <;> decide

theorem PlatformData.WellFormed.auxPdDev_eq {pd : PlatformData} (hpd : pd.WellFormed) :
    pd.auxPdDev = pd.deferVcodecPower := by
  cases hdefer : pd.deferVcodecPower with
  | false => simp [PlatformData.auxPdDev, hdefer]
  | true => simp [PlatformData.auxPdDev, hdefer, hpd.aux hdefer]

/-! ### Single resources -/

theorem irisDisableUnprepareClock_eq (clkType : ClkType) (core : Core) :
    irisDisableUnprepareClock clkType core = core.releaseAll (core.clkRes clkType) := by
  rw [irisDisableUnprepareClock, Core.clkRes]
  cases irisGetClkByType core clkType <;> rfl

theorem ClkEnables.prepareEnable {env : Env} {core : Core} {clkType : ClkType}
    (henables : ClkEnables env core clkType) :
    irisPrepareEnableClock env clkType core = (0, core.acquireAll (core.clkRes clkType)) := by
  obtain ⟨hsome, hret⟩ := henables
  obtain ⟨clk, hclk⟩ := Option.isSome_iff_exists.1 hsome
  simp only [irisPrepareEnableClock, hclk, hret, ne_eq, not_true, if_false, Core.clkRes]
  rfl

theorem clkEnables_acquireAll {env : Env} {core : Core} {clkType : ClkType} (rs : List Resource)
    (henables : ClkEnables env core clkType) :
    ClkEnables env (core.acquireAll rs) clkType := henables

/-! ### Power-on -/

variable {env : Env} {core : Core}

theorem irisVpuPowerOnController_eq (hon : PowerOnSucceeds env core) :
    irisVpuPowerOnController env core = (0, core.acquireAll core.ctrlSet) := by
  have hget : ¬ env .ctrlGet < 0 := Int.not_lt.2 hon.ctrlGet
  have hresets := hon.resets
  simp only [irisVpuPowerOnController, Core.ctrlSet]
  cases hdefer : core.platformData.deferVcodecPower with
  | false =>
      simp only [hdefer, if_false, Bool.false_eq_true] at hresets ⊢
      simp only [irisEnablePowerDomains, hon.ctrlOpp hdefer, pmRuntimeGetSync, hget, hresets,
        Core.acquire_eq, (clkEnables_acquireAll _ hon.axi).prepareEnable,
        (clkEnables_acquireAll _ hon.ctrl).prepareEnable, ne_eq, not_true, if_false, orGoto_zero,
        Core.acquireAll_acquireAll, Core.clkRes_acquireAll, List.append_nil]
  | true =>
      simp only [hdefer, if_true] at hresets ⊢
      simp only [pmRuntimeGetSync, hget, hresets, Core.acquire_eq,
        (clkEnables_acquireAll _ (hon.bus hdefer)).prepareEnable,
        (clkEnables_acquireAll _ hon.axi).prepareEnable,
        (clkEnables_acquireAll _ hon.ctrl).prepareEnable, if_false, orGoto_zero,
        Core.acquireAll_acquireAll, Core.clkRes_acquireAll]

theorem irisVpuPowerOnHw_eq (hpd : core.platformData.WellFormed) (hon : PowerOnSucceeds env core) :
    irisVpuPowerOnHw env core = (0, core.acquireAll core.hwSet) := by
  have haux := hpd.auxPdDev_eq
  have hget := hon.hwGet
  simp only [irisVpuPowerOnHw, Core.hwSet]
  cases hdefer : core.platformData.deferVcodecPower with
  | false =>
      have hcontrol := hon.control hdefer
      simp only [hdefer, if_false, Bool.false_eq_true] at hget haux hcontrol
      cases huse : core.platformData.useVcodecHwControl with
      | false =>
          simp only [huse, if_false, Bool.false_eq_true] at hcontrol
          simp only [irisEnablePowerDomains, hon.hwOpp hdefer, pmRuntimeGetSync, hget, haux,
            hcontrol, Core.acquire_eq, (clkEnables_acquireAll _ hon.hw).prepareEnable, ne_eq,
            not_true, if_false, orGoto_zero, Bool.false_eq_true, Bool.false_and,
            Core.acquireAll_acquireAll, Core.clkRes_acquireAll, List.append_nil]
      | true =>
          simp only [huse, if_true] at hcontrol
          simp only [irisEnablePowerDomains, hon.hwOpp hdefer, pmRuntimeGetSync, hget, haux,
            hcontrol, Core.acquire_eq, (clkEnables_acquireAll _ hon.hw).prepareEnable, ne_eq,
            not_true, if_false, if_true, orGoto_zero, Bool.false_eq_true, Bool.true_and,
            Bool.not_false, Core.acquireAll_acquireAll, Core.clkRes_acquireAll, List.append_nil]
  | true =>
      rw [hdefer] at haux
      have hneg : ¬ env .hwGet < 0 := by simpa [hdefer] using hget
      have hauxneg : ¬ env .auxGet < 0 := Int.not_lt.2 (hon.auxGet haux)
      simp only [haux, pmRuntimeResumeAndGet, hneg, hauxneg, Core.acquire_eq,
        (clkEnables_acquireAll _ (hon.hwAxi hdefer)).prepareEnable,
        (clkEnables_acquireAll _ (hon.auxHwAxi hdefer)).prepareEnable,
        (clkEnables_acquireAll _ hon.hw).prepareEnable,
        (clkEnables_acquireAll _ (hon.auxHw haux)).prepareEnable, if_false, if_true, orGoto_zero,
        Bool.not_true, Bool.and_false, Bool.false_eq_true, Core.acquireAll_acquireAll,
        Core.clkRes_acquireAll, List.append_assoc]

/-- The condition looks at the platform and the device tree only. -/
theorem PowerOnSucceeds.congr {core' : Core} (hon : PowerOnSucceeds env core)
    (hpd : core'.platformData = core.platformData) (hclk : core'.clockTbl = core.clockTbl) :
    PowerOnSucceeds env core' := by
  cases core
  cases core'
  simp only at hpd hclk
  subst hpd hclk
  exact ⟨hon.setIccBw, hon.ctrlOpp, hon.ctrlGet, hon.resets, hon.bus, hon.axi, hon.ctrl, hon.hwOpp,
    hon.hwGet, hon.auxGet, hon.hwAxi, hon.auxHwAxi, hon.hw, hon.auxHw, hon.control, hon.oppRate⟩

/-- **A power-on whose calls succeed** acquires exactly `powerSet`. -/
theorem irisVpuPowerOn_eq (hpd : core.platformData.WellFormed) (hon : PowerOnSucceeds env core) :
    irisVpuPowerOn env core =
      (0, { core with
        vpuPowered := true
        intrStatus := 0
        counters := core.counters.acquireAll core.powerSet }) := by
  obtain ⟨powered, hpowered⟩ : ∃ c : Core, c = { core with vpuPowered := true } := ⟨_, rfl⟩
  have hpdEq : powered.platformData = core.platformData := by rw [hpowered]
  have hclkEq : powered.clockTbl = core.clockTbl := by rw [hpowered]
  have hctrl := irisVpuPowerOnController_eq (hon.congr hpdEq hclkEq)
  have hhw : irisVpuPowerOnHw env (powered.acquireAll powered.ctrlSet) =
      (0, (powered.acquireAll powered.ctrlSet).acquireAll powered.hwSet) :=
    irisVpuPowerOnHw_eq (hpdEq ▸ hpd) (hon.congr hpdEq hclkEq)
  have hset : powered.powerSet = core.powerSet := Core.powerSet_congr hpdEq hclkEq
  have hresult : ({ (powered.acquireAll (powered.ctrlSet ++ powered.hwSet)) with
      intrStatus := 0 } : Core).acquireAll [.irq] =
      { core with
        vpuPowered := true
        intrStatus := 0
        counters := core.counters.acquireAll core.powerSet } := by
    rw [← hset, hpowered]
    simp [Core.acquireAll, Core.powerSet]
  rw [← hresult]
  simp only [irisVpuPowerOn, ← hpowered, hon.setIccBw, hon.oppRate, hctrl, Core.acquire_eq,
    orGoto_zero]
  cases core.platformData.deferVcodecPower <;> simp [hhw]

/-! ### Power-off -/

/-- In the order of `iris_vpu_power_off_hw`. -/
def Core.offHwSet (core : Core) : List Resource :=
  if core.platformData.deferVcodecPower then
    core.clkRes .auxHw ++ core.clkRes .hw ++ core.clkRes .auxHwAxi ++ core.clkRes .hwAxi ++
      [.domain .auxHw] ++ [.domain .hw]
  else
    core.clkRes .hw ++ [.domain .hw]

/-- In the order of the platform's `power_off_controller`. -/
def Core.offCtrlSet (core : Core) : List Resource :=
  if core.platformData.vpuOps = .vpu33 then
    core.clkRes .ctrl ++ [.domain .ctrl] ++ core.clkRes .axi
  else
    core.clkRes .ctrl ++ core.clkRes .axi ++
      (if core.platformData.deferVcodecPower then core.clkRes .bus else []) ++ [.domain .ctrl]

theorem irisVpuPowerOffHw_eq (hpd : core.platformData.WellFormed)
    (hoff : PowerOffSucceeds env core) :
    irisVpuPowerOffHw env core = core.releaseAll core.offHwSet := by
  have haux := hpd.auxPdDev_eq
  simp only [irisVpuPowerOffHw, Core.offHwSet]
  cases hdefer : core.platformData.deferVcodecPower with
  | false =>
      have hopp := hoff.hwDisableOpp hdefer
      simp [irisDisableUnprepareClock_eq, irisDisablePowerDomains, pmRuntimePutSync,
        Core.release_eq, hopp]
  | true =>
      rw [hdefer] at haux
      simp [irisDisableUnprepareClock_eq, pmRuntimePutSync, Core.release_eq, haux]

theorem powerOffController_eq (hpd : core.platformData.WellFormed)
    (hoff : PowerOffSucceeds env core) :
    core.platformData.vpuOps.powerOffController env core = core.releaseAll core.offCtrlSet := by
  have hlegacy := hpd.legacy
  have hopp := hoff.ctrlDisableOpp
  have hgeneric : core.platformData.vpuOps ≠ .vpu33 →
      irisVpuPowerOffController env core = core.releaseAll core.offCtrlSet := by
    intro hops
    simp only [irisVpuPowerOffController, Core.offCtrlSet, hops, if_false]
    cases hdefer : core.platformData.deferVcodecPower with
    | false =>
        rw [hdefer] at hlegacy
        simp [hlegacy, irisDisableUnprepareClock_eq, irisDisablePowerDomains, pmRuntimePutSync,
          Core.release_eq, hopp hlegacy]
    | true =>
        rw [hdefer] at hlegacy
        simp [hlegacy, irisDisableUnprepareClock_eq, pmRuntimePutSync, Core.release_eq]
  cases hops : core.platformData.vpuOps with
  | vpu2 => exact hgeneric (by simp [hops])
  | vpu3 => exact hgeneric (by simp [hops])
  | vpu33 =>
      obtain ⟨hcpu, hbridge, hspare⟩ := hoff.nocPolls hops
      rw [hpd.vpu33 hops] at hlegacy
      simp [VpuOps.powerOffController, irisVpu33PowerOffController, Core.offCtrlSet, hops, hcpu,
        hbridge, hspare, irisDisableUnprepareClock_eq, irisDisablePowerDomains, pmRuntimePutSync,
        Core.release_eq, hopp hlegacy]

theorem PowerOffSucceeds.congr {core' : Core} (hoff : PowerOffSucceeds env core)
    (hpd : core'.platformData = core.platformData) : PowerOffSucceeds env core' := by
  cases core
  cases core'
  simp only at hpd
  subst hpd
  exact ⟨hoff.ctrlDisableOpp, hoff.hwDisableOpp, hoff.nocPolls⟩

/-- In the order of `iris_vpu_power_off`. -/
def Core.offSet (core : Core) : List Resource := core.offHwSet ++ core.offCtrlSet ++ [.irq]

theorem offSet_perm (hpd : core.platformData.WellFormed) : core.offSet.Perm core.powerSet := by
  have haux := hpd.auxPdDev_eq
  have hvpu33 := hpd.vpu33
  rw [List.perm_iff_count]
  intro r
  simp only [Core.offSet, Core.offHwSet, Core.offCtrlSet, Core.powerSet, Core.ctrlSet, Core.hwSet,
    haux]
  cases hdefer : core.platformData.deferVcodecPower with
  | false =>
      by_cases hops : core.platformData.vpuOps = .vpu33
      · simp only [hops, if_true, if_false, Bool.false_eq_true, List.count_append,
          List.count_nil]
        omega
      · simp only [hops, if_false, Bool.false_eq_true, List.count_append, List.count_nil]
        omega
  | true =>
      have hops : core.platformData.vpuOps ≠ .vpu33 := fun hops => by
        simpa [hdefer] using hvpu33 hops
      simp only [hops, if_true, if_false, List.count_append]
      omega

theorem irisVpuPowerOff_of_not_powered (env : Env) (hoff : core.vpuPowered = false) :
    irisVpuPowerOff env core = core := by
  simp [irisVpuPowerOff, hoff]

/-- **A power-off of a powered VPU** releases what the power-on acquired. -/
theorem irisVpuPowerOff_eq (hpd : core.platformData.WellFormed) (hoff : PowerOffSucceeds env core)
    (hpowered : core.vpuPowered = true)
    (hwatchdog : irisVpuWatchdog core.platformData.legacyVpu5 core.intrStatus = false) :
    ∃ rs, rs.Perm core.powerSet ∧ irisVpuPowerOff env core =
      { core with
        vpuPowered := false
        llccActive := false
        syscacheSet := if core.llccActive then false else core.syscacheSet
        counters := core.counters.releaseAll rs } := by
  refine ⟨core.offSet, offSet_perm hpd, ?_⟩
  obtain ⟨off, hoffEq⟩ : ∃ c : Core, c =
      { core with
        vpuPowered := false
        llccActive := false
        syscacheSet := if core.llccActive then false else core.syscacheSet } := ⟨_, rfl⟩
  have hpdEq : off.platformData = core.platformData := by rw [hoffEq]
  have hclear : (if core.llccActive = true then
      { core with vpuPowered := false, llccActive := false, syscacheSet := false }
      else { core with vpuPowered := false }) = off := by
    rw [hoffEq]
    by_cases hllcc : core.llccActive = true <;> simp [hllcc]
  have hhw := irisVpuPowerOffHw_eq (hpdEq ▸ hpd) (hoff.congr hpdEq)
  have hctrl : off.platformData.vpuOps.powerOffController env (off.releaseAll off.offHwSet) =
      (off.releaseAll off.offHwSet).releaseAll off.offCtrlSet :=
    @powerOffController_eq env (off.releaseAll off.offHwSet) (hpdEq ▸ hpd) (hoff.congr hpdEq)
  have hset : off.offSet = core.offSet := by
    simp only [Core.offSet, Core.offHwSet, Core.offCtrlSet, Core.clkRes, irisGetClkByType, hoffEq]
  have hwatchdog' : irisVpuWatchdog off.platformData.legacyVpu5 off.intrStatus = false := by
    rw [hpdEq, hoffEq]
    exact hwatchdog
  have hresult : off.releaseAll off.offSet =
      { core with
        vpuPowered := false
        llccActive := false
        syscacheSet := if core.llccActive then false else core.syscacheSet
        counters := core.counters.releaseAll core.offSet } := by
    rw [hset, hoffEq]
    rfl
  rw [← hresult]
  simp only [irisVpuPowerOff, hpowered, Bool.not_true, Bool.false_eq_true, if_false, hclear, hhw,
    Core.releaseAll_platformData, hctrl]
  rw [if_neg (by simpa [Core.releaseAll] using hwatchdog')]
  simp [Core.release_eq, Core.offSet]

theorem powerOnSucceeds_okEnv : PowerOnSucceeds okEnv sm8150Core := by
  constructor <;> decide

theorem powerOffSucceeds_okEnv (core : Core) : PowerOffSucceeds okEnv core :=
  ⟨fun _ => rfl, fun _ => rfl, fun _ => ⟨rfl, rfl, rfl⟩⟩

end NabuIris
