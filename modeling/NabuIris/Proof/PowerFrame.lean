import NabuIris.Proof.PowerSpec

/-!
# What power control leaves alone

Whatever its calls return, power control changes the counters, `vpu_powered`, the interrupt status
and the system cache flags, and nothing else. A power-on, failed or not, ends with `vpu_powered`
set; a power-off ends with it clear.
-/

namespace NabuIris

open Lib

/-- The cores differ in their counters only. -/
def OnlyCounters (core core' : Core) : Prop := ∃ c, core' = { core with counters := c }

namespace OnlyCounters

variable {core core' core'' : Core}

theorem refl (core : Core) : OnlyCounters core core := ⟨core.counters, rfl⟩

theorem trans (hfirst : OnlyCounters core core') (hsecond : OnlyCounters core' core'') :
    OnlyCounters core core'' := by
  obtain ⟨c, rfl⟩ := hfirst
  obtain ⟨c', rfl⟩ := hsecond
  exact ⟨c', rfl⟩

theorem acquire (core : Core) (r : Resource) : OnlyCounters core (core.acquire r) := ⟨_, rfl⟩

theorem release (core : Core) (r : Resource) : OnlyCounters core (core.release r) := ⟨_, rfl⟩

theorem ite {p : Prop} [Decidable p] (hpos : OnlyCounters core core')
    (hneg : OnlyCounters core core'') : OnlyCounters core (if p then core' else core'') := by
  by_cases hp : p
  · rwa [if_pos hp]
  · rwa [if_neg hp]

theorem ite_snd {p : Prop} [Decidable p] {r r' : Int × Core} (hpos : OnlyCounters core r.2)
    (hneg : OnlyCounters core r'.2) : OnlyCounters core (if p then r else r').2 := by
  by_cases hp : p
  · rwa [if_pos hp]
  · rwa [if_neg hp]

theorem orGoto {call : Int × Core} {label : Int → Core → Int × Core} {next : Core → Int × Core}
    (hcall : OnlyCounters core call.2) (hlabel : ∀ ret c, OnlyCounters c (label ret c).2)
    (hnext : ∀ c, OnlyCounters core c → OnlyCounters core (next c).2) :
    OnlyCounters core (orGoto call label next).2 := by
  refine orGoto_rule (P := fun r : Int × Core => OnlyCounters core r.2) (fun ret c heq _ => ?_)
    fun c heq => ?_
  · rw [heq] at hcall
    exact hcall.trans (hlabel ret c)
  · rw [heq] at hcall
    exact hnext c hcall

end OnlyCounters

open OnlyCounters

section Steps

variable (env : Env) (core : Core)

theorem onlyCounters_disableClock (clkType : ClkType) :
    OnlyCounters core (irisDisableUnprepareClock clkType core) := by
  rw [irisDisableUnprepareClock_eq]
  exact ⟨_, rfl⟩

theorem onlyCounters_enableClock (clkType : ClkType) :
    OnlyCounters core (irisPrepareEnableClock env clkType core).2 := by
  unfold irisPrepareEnableClock
  cases irisGetClkByType core clkType with
  | none => exact refl core
  | some clk => exact ite_snd (refl core) (acquire core _)

theorem onlyCounters_enableDomains (opp get : Int) (domain : PowerDomain) :
    OnlyCounters core (irisEnablePowerDomains opp get domain core).2 :=
  ite_snd (refl core) (acquire core _)

theorem onlyCounters_disableDomains (opp : Int) (domain : PowerDomain) :
    OnlyCounters core (irisDisablePowerDomains opp domain core) :=
  ite (refl core) (release core _)

theorem onlyCounters_resumeAndGet (ret : Int) (domain : PowerDomain) :
    OnlyCounters core (pmRuntimeResumeAndGet ret domain core).2 :=
  ite_snd (refl core) (acquire core _)

theorem onlyCounters_resumeAndGetIf (p : Prop) [Decidable p] (ret : Int) (domain : PowerDomain) :
    OnlyCounters core (if p then pmRuntimeResumeAndGet ret domain core else (0, core)).2 :=
  ite_snd (onlyCounters_resumeAndGet core ret domain) (refl core)

theorem onlyCounters_disableClockIf (p : Prop) [Decidable p] (clkType : ClkType) :
    OnlyCounters core (if p then irisDisableUnprepareClock clkType core else core) :=
  ite (onlyCounters_disableClock core clkType) (refl core)

theorem onlyCounters_enableClockIf (p : Prop) [Decidable p] (clkType : ClkType) :
    OnlyCounters core (if p then irisPrepareEnableClock env clkType core else (0, core)).2 :=
  ite_snd (onlyCounters_enableClock env core clkType) (refl core)

end Steps

/-! ### Power-off -/

theorem onlyCounters_powerOffController (env : Env) (core : Core) :
    OnlyCounters core (irisVpuPowerOffController env core) := by
  have hclocks : OnlyCounters core
      (if core.platformData.deferVcodecPower then
        irisDisableUnprepareClock .bus
          (irisDisableUnprepareClock .axi (irisDisableUnprepareClock .ctrl core))
        else irisDisableUnprepareClock .axi (irisDisableUnprepareClock .ctrl core)) :=
    ((onlyCounters_disableClock core .ctrl).trans (onlyCounters_disableClock _ .axi)).trans
      (onlyCounters_disableClockIf _ _ .bus)
  unfold irisVpuPowerOffController
  exact ite (hclocks.trans (release _ _)) (hclocks.trans (onlyCounters_disableDomains _ _ _))

theorem onlyCounters_vpu33PowerOffController (env : Env) (core : Core) :
    OnlyCounters core (irisVpu33PowerOffController env core) := by
  have hdisable : ∀ c : Core, OnlyCounters c
      (irisDisableUnprepareClock .axi (irisDisablePowerDomains (env .ctrlDisableOpp) .ctrl c)) :=
    fun c => (onlyCounters_disableDomains c _ _).trans (onlyCounters_disableClock _ _)
  unfold irisVpu33PowerOffController
  exact ite (hdisable core) (ite (hdisable core) (ite (hdisable core)
    ((onlyCounters_disableClock core .ctrl).trans (hdisable _))))

theorem onlyCounters_opsPowerOffController (ops : VpuOps) (env : Env) (core : Core) :
    OnlyCounters core (ops.powerOffController env core) := by
  cases ops with
  | vpu2 => exact onlyCounters_powerOffController env core
  | vpu3 => exact onlyCounters_powerOffController env core
  | vpu33 => exact onlyCounters_vpu33PowerOffController env core

theorem onlyCounters_powerOffHw (env : Env) (core : Core) :
    OnlyCounters core (irisVpuPowerOffHw env core) := by
  have hclocks : OnlyCounters core
      (irisDisableUnprepareClock .hwAxi
        (if core.platformData.auxPdDev then
          irisDisableUnprepareClock .auxHwAxi
            (irisDisableUnprepareClock .hw
              (if core.platformData.auxPdDev then irisDisableUnprepareClock .auxHw core else core))
          else
            irisDisableUnprepareClock .hw
              (if core.platformData.auxPdDev then irisDisableUnprepareClock .auxHw core
                else core))) :=
    (((onlyCounters_disableClockIf core _ .auxHw).trans (onlyCounters_disableClock _ .hw)).trans
      (onlyCounters_disableClockIf _ _ .auxHwAxi)).trans (onlyCounters_disableClock _ .hwAxi)
  have hhw : OnlyCounters core (irisDisableUnprepareClock .hw core) :=
    onlyCounters_disableClock core .hw
  unfold irisVpuPowerOffHw
  refine ite ?_ ?_
  · exact (ite hhw (ite hclocks hhw)).trans ((ite (release _ _) (refl _)).trans (release _ _))
  · exact (ite hhw (ite hclocks hhw)).trans (onlyCounters_disableDomains _ _ _)

/-! ### Power-on -/

theorem onlyCounters_powerOnController (env : Env) (core : Core) :
    OnlyCounters core (irisVpuPowerOnController env core).2 := by
  have herrDisablePower : ∀ c : Core, OnlyCounters c
      (if core.platformData.deferVcodecPower then pmRuntimePutSync .ctrl c
        else irisDisablePowerDomains (env .ctrlDisableOpp) .ctrl c) :=
    fun c => ite (release _ _) (onlyCounters_disableDomains _ _ _)
  have herrDisableBusClock : ∀ c : Core, OnlyCounters c
      (if core.platformData.deferVcodecPower then
          pmRuntimePutSync .ctrl
            (if core.platformData.deferVcodecPower then irisDisableUnprepareClock .bus c else c)
        else irisDisablePowerDomains (env .ctrlDisableOpp) .ctrl
            (if core.platformData.deferVcodecPower then irisDisableUnprepareClock .bus c else c)) :=
    fun c => (onlyCounters_disableClockIf c (core.platformData.deferVcodecPower = true) .bus).trans
      (herrDisablePower _)
  have hget : OnlyCounters core
      (if core.platformData.deferVcodecPower then pmRuntimeGetSync (env .ctrlGet) .ctrl core
        else irisEnablePowerDomains (env .ctrlOpp) (env .ctrlGet) .ctrl core).2 :=
    ite_snd (acquire core _) (onlyCounters_enableDomains core _ _ _)
  unfold irisVpuPowerOnController
  refine ite_snd hget (.orGoto hget (fun ret c => herrDisablePower c) fun c hc => ?_)
  refine .orGoto ?_ (fun ret c => herrDisablePower c) fun c hc => ?_
  · exact hc.trans (onlyCounters_enableClockIf env c _ .bus)
  refine .orGoto ?_ (fun ret c => herrDisableBusClock c) fun c hc => ?_
  · exact hc.trans (onlyCounters_enableClock env c .axi)
  refine .orGoto ?_ (fun ret c => ?_) fun c hc => hc
  · exact hc.trans (onlyCounters_enableClock env c .ctrl)
  · exact (onlyCounters_disableClock c .axi).trans (herrDisableBusClock _)

theorem onlyCounters_powerOnHw (env : Env) (core : Core) :
    OnlyCounters core (irisVpuPowerOnHw env core).2 := by
  let errDisablePower (c : Core) : Core :=
    if core.platformData.deferVcodecPower then pmRuntimePutSync .hw c
    else irisDisablePowerDomains (env .hwDisableOpp) .hw c
  let errDisableAuxPower (c : Core) : Core :=
    errDisablePower (if core.platformData.auxPdDev then pmRuntimePutSync .auxHw c else c)
  let errDisableHwAxiClock (c : Core) : Core :=
    errDisableAuxPower
      (if core.platformData.deferVcodecPower then irisDisableUnprepareClock .hwAxi c else c)
  let errDisableAuxHwAxiClock (c : Core) : Core :=
    errDisableHwAxiClock
      (if core.platformData.deferVcodecPower then irisDisableUnprepareClock .auxHwAxi c else c)
  let errDisableClock (c : Core) : Core :=
    errDisableAuxHwAxiClock (irisDisableUnprepareClock .hw
      (if core.platformData.auxPdDev then irisDisableUnprepareClock .auxHw c else c))
  have h₁ : ∀ c, OnlyCounters c (errDisablePower c) :=
    fun c => ite (release _ _) (onlyCounters_disableDomains _ _ _)
  have h₂ : ∀ c, OnlyCounters c (errDisableAuxPower c) :=
    fun c => (ite (release _ _) (OnlyCounters.refl c)).trans (h₁ _)
  have h₃ : ∀ c, OnlyCounters c (errDisableHwAxiClock c) :=
    fun c => (onlyCounters_disableClockIf c _ .hwAxi).trans (h₂ _)
  have h₄ : ∀ c, OnlyCounters c (errDisableAuxHwAxiClock c) :=
    fun c => (onlyCounters_disableClockIf c _ .auxHwAxi).trans (h₃ _)
  have h₅ : ∀ c, OnlyCounters c (errDisableClock c) :=
    fun c => ((onlyCounters_disableClockIf c _ .auxHw).trans
      (onlyCounters_disableClock _ .hw)).trans (h₄ _)
  unfold irisVpuPowerOnHw
  refine .orGoto ?_ (fun ret c => OnlyCounters.refl c) fun c hc => ?_
  · exact ite_snd (onlyCounters_resumeAndGet core _ _) (onlyCounters_enableDomains core _ _ _)
  refine .orGoto ?_ (fun ret c => h₁ c) fun c hc => ?_
  · exact hc.trans (onlyCounters_resumeAndGetIf c _ _ .auxHw)
  refine .orGoto ?_ (fun ret c => h₂ c) fun c hc => ?_
  · exact hc.trans (onlyCounters_enableClockIf env c _ .hwAxi)
  refine .orGoto ?_ (fun ret c => h₃ c) fun c hc => ?_
  · exact hc.trans (onlyCounters_enableClockIf env c _ .auxHwAxi)
  refine .orGoto hc (fun ret c => h₄ c) fun c hc => ?_
  refine .orGoto ?_ (fun ret c => h₄ c) fun c hc => ?_
  · exact hc.trans (onlyCounters_enableClock env c .hw)
  refine .orGoto ?_ (fun ret c => h₅ c) fun c hc => ?_
  · exact hc.trans (onlyCounters_enableClockIf env c _ .auxHw)
  exact .orGoto hc (fun ret c => h₅ c) fun c hc => hc

/-! ### The two operations -/

/-- What bring-up and teardown decide on, apart from `vpu_powered`. -/
structure PowerFrame (core core' : Core) : Prop where
  platformData : core'.platformData = core.platformData
  clockTbl : core'.clockTbl = core.clockTbl
  state : core'.state = core.state
  ifaceQTable : core'.ifaceQTable = core.ifaceQTable
  fwLoaded : core'.fwLoaded = core.fwLoaded
  vpuSuspended : core'.vpuSuspended = core.vpuSuspended
  recoveryPending : core'.recoveryPending = core.recoveryPending
  instances : core'.instances = core.instances

theorem PowerFrame.refl (core : Core) : PowerFrame core core :=
  ⟨rfl, rfl, rfl, rfl, rfl, rfl, rfl, rfl⟩

theorem PowerFrame.trans {core core' core'' : Core} (hfirst : PowerFrame core core')
    (hsecond : PowerFrame core' core'') : PowerFrame core core'' where
  platformData := hsecond.platformData.trans hfirst.platformData
  clockTbl := hsecond.clockTbl.trans hfirst.clockTbl
  state := hsecond.state.trans hfirst.state
  ifaceQTable := hsecond.ifaceQTable.trans hfirst.ifaceQTable
  fwLoaded := hsecond.fwLoaded.trans hfirst.fwLoaded
  vpuSuspended := hsecond.vpuSuspended.trans hfirst.vpuSuspended
  recoveryPending := hsecond.recoveryPending.trans hfirst.recoveryPending
  instances := hsecond.instances.trans hfirst.instances

theorem OnlyCounters.frame {core core' : Core} (honly : OnlyCounters core core') :
    PowerFrame core core' ∧ core'.vpuPowered = core.vpuPowered := by
  obtain ⟨c, rfl⟩ := honly
  exact ⟨⟨rfl, rfl, rfl, rfl, rfl, rfl, rfl, rfl⟩, rfl⟩

theorem irisVpuPowerOn_frame (env : Env) (core : Core) :
    PowerFrame core (irisVpuPowerOn env core).2 ∧
      (irisVpuPowerOn env core).2.vpuPowered = true := by
  let Powered (c : Core) : Prop := PowerFrame core c ∧ c.vpuPowered = true
  have honly : ∀ {c c' : Core}, Powered c → OnlyCounters c c' → Powered c' := by
    rintro c c' ⟨hframe, hpowered⟩ honly
    exact ⟨hframe.trans honly.frame.1, honly.frame.2.trans hpowered⟩
  have hset : Powered { core with vpuPowered := true } :=
    ⟨⟨rfl, rfl, rfl, rfl, rfl, rfl, rfl, rfl⟩, rfl⟩
  have hhwIf : ∀ (p : Prop) [Decidable p] (c : Core), Powered c →
      Powered (if p then irisVpuPowerOnHw env c else (0, c)).2 ∧
        Powered (if p then (0, c) else irisVpuPowerOnHw env c).2 := by
    intro p _ c hc
    have hhw := honly hc (onlyCounters_powerOnHw env c)
    by_cases hp : p <;> simp only [hp, if_true, if_false, hc, hhw, and_self]
  have hctrlOff : ∀ c, Powered c → Powered (irisVpuPowerOffController env c) :=
    fun c hc => honly hc (onlyCounters_powerOffController env c)
  unfold irisVpuPowerOn
  refine orGoto_value_rule (P := fun r : Int × Core => Powered r.2) (fun _ => hset) fun _ => ?_
  have hctrl := honly hset (onlyCounters_powerOnController env _)
  refine orGoto_rule (P := fun r : Int × Core => Powered r.2) (fun ret c heq _ => ?_)
    fun c heq => ?_
  · rwa [heq] at hctrl
  rw [heq] at hctrl
  have hhw := (hhwIf (core.platformData.deferVcodecPower = true) c hctrl).2
  refine orGoto_rule (P := fun r : Int × Core => Powered r.2) (fun ret c heq _ => ?_)
    fun c heq => ?_
  · rw [heq] at hhw
    exact hctrlOff c hhw
  rw [heq] at hhw
  refine orGoto_value_rule (P := fun r : Int × Core => Powered r.2) (fun _ => hctrlOff c hhw)
    fun _ => ?_
  have hhw' := (hhwIf (core.platformData.deferVcodecPower = true) c hhw).1
  refine orGoto_rule (P := fun r : Int × Core => Powered r.2) (fun ret c heq _ => ?_)
    fun c heq => ?_
  · rw [heq] at hhw'
    exact hctrlOff c hhw'
  · rw [heq] at hhw'
    exact ⟨hhw'.1.trans ⟨rfl, rfl, rfl, rfl, rfl, rfl, rfl, rfl⟩, hhw'.2⟩

theorem irisVpuPowerOff_frame (env : Env) (core : Core) :
    PowerFrame core (irisVpuPowerOff env core) ∧
      (irisVpuPowerOff env core).vpuPowered = false := by
  cases hpowered : core.vpuPowered with
  | false =>
      rw [irisVpuPowerOff_of_not_powered env hpowered]
      exact ⟨PowerFrame.refl core, hpowered⟩
  | true =>
      let Off (c : Core) : Prop := PowerFrame core c ∧ c.vpuPowered = false
      have honly : ∀ {c c' : Core}, Off c → OnlyCounters c c' → Off c' := by
        rintro c c' ⟨hframe, hoff⟩ honly
        exact ⟨hframe.trans honly.frame.1, honly.frame.2.trans hoff⟩
      have hclear : Off
          (if core.llccActive then
            { core with vpuPowered := false, llccActive := false, syscacheSet := false }
            else { core with vpuPowered := false }) := by
        split_ifs <;> exact ⟨⟨rfl, rfl, rfl, rfl, rfl, rfl, rfl, rfl⟩, rfl⟩
      have hhw := honly hclear (onlyCounters_powerOffHw env _)
      have hctrl : ∀ (ops : VpuOps) (c : Core), Off c → Off (ops.powerOffController env c) :=
        fun ops c hc => honly hc (onlyCounters_opsPowerOffController ops env c)
      unfold irisVpuPowerOff
      rw [if_neg (by simp [hpowered])]
      exact honly (hctrl _ _ hhw) (ite (OnlyCounters.refl _) (release _ _))

/-! ### A power-on that returns zero -/

theorem orGoto_ret_zero {call : Int × Core} {label : Int → Core → Int × Core}
    {next : Core → Int × Core} (hlabel : ∀ ret c, (label ret c).1 = ret)
    (hret : (NabuIris.orGoto call label next).1 = 0) :
    ∃ c, call = (0, c) ∧ (next c).1 = 0 := by
  obtain ⟨ret, c⟩ := call
  by_cases hzero : ret = 0
  · subst hzero
    exact ⟨c, rfl, hret⟩
  · rw [NabuIris.orGoto, if_pos hzero, hlabel] at hret
    exact absurd hret hzero

theorem ClkEnables.of_ret_zero {env : Env} {core c c' : Core} {clkType : ClkType}
    (honly : OnlyCounters core c) (heq : irisPrepareEnableClock env clkType c = (0, c')) :
    ClkEnables env core clkType ∧ OnlyCounters core c' := by
  have hclk : irisGetClkByType c clkType = irisGetClkByType core clkType := by
    obtain ⟨counters, rfl⟩ := honly
    rfl
  have honly' : OnlyCounters core c' := by
    have henable := onlyCounters_enableClock env c clkType
    rw [heq] at henable
    exact honly.trans henable
  refine ⟨?_, honly'⟩
  unfold irisPrepareEnableClock at heq
  rw [hclk] at heq
  cases hget : irisGetClkByType core clkType with
  | none =>
      rw [hget] at heq
      exact absurd (Prod.mk.inj heq).1 (by decide)
  | some clk =>
      rw [hget] at heq
      refine ⟨by simp [hget], ?_⟩
      by_contra hne
      simp only [ne_eq, hne, not_false_iff, if_true] at heq
      exact hne (Prod.mk.inj heq).1

/-- The part of `PowerOnSucceeds` that `iris_vpu_power_on_controller` sees. -/
structure ControllerSucceeds (env : Env) (core : Core) : Prop where
  ctrlOpp : core.platformData.deferVcodecPower = false → env .ctrlOpp = 0
  ctrlGet : 0 ≤ env .ctrlGet
  resets : (if core.platformData.deferVcodecPower then
    resetControls env (List.range core.platformData.clkRstTblSize) else env .bulkReset) = 0
  bus : core.platformData.deferVcodecPower = true → ClkEnables env core .bus
  axi : ClkEnables env core .axi
  ctrl : ClkEnables env core .ctrl

theorem OnlyCounters.platformData {core core' : Core} (honly : OnlyCounters core core') :
    core'.platformData = core.platformData :=
  honly.frame.1.platformData

theorem irisVpuPowerOnController_succeeds {env : Env} {core : Core}
    (hopp : core.platformData.deferVcodecPower = false → env .ctrlOpp ≤ 0)
    (hret : (irisVpuPowerOnController env core).1 = 0) : ControllerSucceeds env core := by
  have hlabel : ∀ (f : Core → Core) (ret : Int) (c : Core),
      ((ret, f c) : Int × Core).1 = ret := fun _ _ _ => rfl
  unfold irisVpuPowerOnController at hret
  cases hdefer : core.platformData.deferVcodecPower with
  | true =>
      simp only [hdefer, if_true] at hret
      split_ifs at hret with hneg
      · exact absurd hret (Int.ne_of_lt hneg)
      have hget : OnlyCounters core (pmRuntimeGetSync (env .ctrlGet) .ctrl core).2 :=
        acquire core _
      obtain ⟨c, hreset, hret⟩ := orGoto_ret_zero (hlabel _) hret
      obtain ⟨hreset, rfl⟩ := Prod.mk.inj hreset
      obtain ⟨c, hbus, hret⟩ := orGoto_ret_zero (hlabel _) hret
      obtain ⟨hbus, honly⟩ := ClkEnables.of_ret_zero hget hbus
      obtain ⟨c, haxi, hret⟩ := orGoto_ret_zero (hlabel _) hret
      obtain ⟨haxi, honly⟩ := ClkEnables.of_ret_zero honly haxi
      obtain ⟨c, hctrl, hret⟩ := orGoto_ret_zero (hlabel _) hret
      obtain ⟨hctrl, honly⟩ := ClkEnables.of_ret_zero honly hctrl
      exact {
        ctrlOpp := fun hfalse => by simp [hdefer] at hfalse
        ctrlGet := Int.not_lt.1 hneg
        resets := by rwa [hdefer, if_pos rfl]
        bus := fun _ => hbus
        axi := haxi
        ctrl := hctrl }
  | false =>
      simp only [hdefer, Bool.false_eq_true, if_false] at hret
      split_ifs at hret with hneg
      · exact absurd hret (Int.ne_of_lt hneg)
      have hget := onlyCounters_enableDomains core (env .ctrlOpp) (env .ctrlGet) .ctrl
      have hgets : env .ctrlOpp = 0 ∧ 0 ≤ env .ctrlGet := by
        unfold irisEnablePowerDomains at hneg
        split_ifs at hneg with hzero
        · exact absurd (lt_of_le_of_ne (hopp hdefer) hzero) hneg
        · exact ⟨not_not.1 hzero, Int.not_lt.1 hneg⟩
      obtain ⟨c, hreset, hret⟩ := orGoto_ret_zero (hlabel _) hret
      obtain ⟨hreset, rfl⟩ := Prod.mk.inj hreset
      rw [orGoto_zero] at hret
      obtain ⟨c, haxi, hret⟩ := orGoto_ret_zero (hlabel _) hret
      obtain ⟨haxi, honly⟩ := ClkEnables.of_ret_zero hget haxi
      obtain ⟨c, hctrl, hret⟩ := orGoto_ret_zero (hlabel _) hret
      obtain ⟨hctrl, honly⟩ := ClkEnables.of_ret_zero honly hctrl
      exact {
        ctrlOpp := fun _ => hgets.1
        ctrlGet := hgets.2
        resets := by rwa [hdefer, if_neg Bool.false_ne_true]
        bus := fun htrue => by simp [hdefer] at htrue
        axi := haxi
        ctrl := hctrl }

/-- The part of `PowerOnSucceeds` that `iris_vpu_power_on_hw` sees. -/
structure HwSucceeds (env : Env) (core : Core) : Prop where
  hwOpp : core.platformData.deferVcodecPower = false → env .hwOpp = 0
  hwGet : if core.platformData.deferVcodecPower then 0 ≤ env .hwGet else env .hwGet = 0
  auxGet : core.platformData.auxPdDev = true → 0 ≤ env .auxGet
  hwAxi : core.platformData.deferVcodecPower = true → ClkEnables env core .hwAxi
  auxHwAxi : core.platformData.deferVcodecPower = true → ClkEnables env core .auxHwAxi
  hw : ClkEnables env core .hw
  auxHw : core.platformData.auxPdDev = true → ClkEnables env core .auxHw
  control : core.platformData.deferVcodecPower = false →
    if core.platformData.useVcodecHwControl then
      env .vcodecSwControl = 0 ∧ env .vcodecHwControl = 0
    else env .genpdHwmode = 0

theorem resumeAndGet_ret_zero {ret : Int} {domain : PowerDomain} {core c : Core}
    (heq : pmRuntimeResumeAndGet ret domain core = (0, c)) :
    0 ≤ ret ∧ c = core.acquire (.domain domain) := by
  unfold pmRuntimeResumeAndGet at heq
  split_ifs at heq with hneg
  · exact absurd (Prod.mk.inj heq).1 (Int.ne_of_lt hneg)
  · exact ⟨Int.not_lt.1 hneg, (Prod.mk.inj heq).2.symm⟩

theorem enableDomains_ret_zero {opp get : Int} {domain : PowerDomain} {core c : Core}
    (heq : irisEnablePowerDomains opp get domain core = (0, c)) :
    opp = 0 ∧ get = 0 ∧ c = core.acquire (.domain domain) := by
  unfold irisEnablePowerDomains at heq
  split_ifs at heq with hopp
  · exact absurd (Prod.mk.inj heq).1 hopp
  · exact ⟨not_not.1 hopp, (Prod.mk.inj heq).1, (Prod.mk.inj heq).2.symm⟩

theorem irisVpuPowerOnHw_succeeds {env : Env} {core : Core}
    (hpd : core.platformData.WellFormed) (hret : (irisVpuPowerOnHw env core).1 = 0) :
    HwSucceeds env core := by
  have hlabel : ∀ (f : Core → Core) (ret : Int) (c : Core),
      ((ret, f c) : Int × Core).1 = ret := fun _ _ _ => rfl
  have haux := hpd.auxPdDev_eq
  unfold irisVpuPowerOnHw at hret
  cases hdefer : core.platformData.deferVcodecPower with
  | true =>
      rw [hdefer] at haux
      simp only [hdefer, haux, if_true, Bool.not_true, Bool.and_false, Bool.false_eq_true,
        if_false] at hret
      obtain ⟨c, hget, hret⟩ := orGoto_ret_zero (fun _ _ => rfl) hret
      obtain ⟨hhwGet, rfl⟩ := resumeAndGet_ret_zero hget
      obtain ⟨c, haux, hret⟩ := orGoto_ret_zero (hlabel _) hret
      obtain ⟨hauxGet, rfl⟩ := resumeAndGet_ret_zero haux
      have honly := (acquire core (.domain .hw)).trans (acquire _ (.domain .auxHw))
      obtain ⟨c, hhwAxi, hret⟩ := orGoto_ret_zero (hlabel _) hret
      obtain ⟨hhwAxi, honly⟩ := ClkEnables.of_ret_zero honly hhwAxi
      obtain ⟨c, hauxHwAxi, hret⟩ := orGoto_ret_zero (hlabel _) hret
      obtain ⟨hauxHwAxi, honly⟩ := ClkEnables.of_ret_zero honly hauxHwAxi
      rw [orGoto_zero] at hret
      obtain ⟨c, hhw, hret⟩ := orGoto_ret_zero (hlabel _) hret
      obtain ⟨hhw, honly⟩ := ClkEnables.of_ret_zero honly hhw
      obtain ⟨c, hauxHw, hret⟩ := orGoto_ret_zero (hlabel _) hret
      obtain ⟨hauxHw, honly⟩ := ClkEnables.of_ret_zero honly hauxHw
      exact {
        hwOpp := fun hfalse => by simp [hdefer] at hfalse
        hwGet := by rwa [hdefer, if_pos rfl]
        auxGet := fun _ => hauxGet
        hwAxi := fun _ => hhwAxi
        auxHwAxi := fun _ => hauxHwAxi
        hw := hhw
        auxHw := fun _ => hauxHw
        control := fun hfalse => by simp [hdefer] at hfalse }
  | false =>
      rw [hdefer] at haux
      simp only [hdefer, haux, Bool.not_false, Bool.and_true, Bool.false_eq_true, if_false,
        orGoto_zero] at hret
      obtain ⟨c, hget, hret⟩ := orGoto_ret_zero (fun _ _ => rfl) hret
      obtain ⟨hopp, hget, rfl⟩ := enableDomains_ret_zero hget
      obtain ⟨c, hsw, hret⟩ := orGoto_ret_zero (hlabel _) hret
      obtain ⟨hsw, rfl⟩ := Prod.mk.inj hsw
      obtain ⟨c, hhw, hret⟩ := orGoto_ret_zero (hlabel _) hret
      obtain ⟨hhw, honly⟩ := ClkEnables.of_ret_zero (acquire core _) hhw
      obtain ⟨c, hcontrol, hret⟩ := orGoto_ret_zero (hlabel _) hret
      have hcontrol := (Prod.mk.inj hcontrol).1
      exact {
        hwOpp := fun _ => hopp
        hwGet := by rwa [hdefer, if_neg Bool.false_ne_true]
        auxGet := fun htrue => by simp [haux] at htrue
        hwAxi := fun htrue => by simp [hdefer] at htrue
        auxHwAxi := fun htrue => by simp [hdefer] at htrue
        hw := hhw
        auxHw := fun htrue => by simp [haux] at htrue
        control := fun _ => by split_ifs at hsw hcontrol ⊢ <;> simp_all }

/-- **A power-on returns zero only if its calls succeed.** Setting the OPP rate, on platforms that
do so with each domain, returns zero or a negative error. -/
theorem irisVpuPowerOn_succeeds {env : Env} {core : Core} (hpd : core.platformData.WellFormed)
    (hopp : core.platformData.deferVcodecPower = false → env .ctrlOpp ≤ 0)
    (hret : (irisVpuPowerOn env core).1 = 0) :
    PowerOnSucceeds env core := by
  have hlabel : ∀ (f : Core → Core) (ret : Int) (c : Core),
      ((ret, f c) : Int × Core).1 = ret := fun _ _ _ => rfl
  unfold irisVpuPowerOn at hret
  obtain ⟨c, hicc, hret⟩ := orGoto_ret_zero (fun _ _ => rfl) hret
  obtain ⟨hvote, rfl⟩ := Prod.mk.inj hicc
  obtain ⟨c, hctrl, hret⟩ := orGoto_ret_zero (fun _ _ => rfl) hret
  have honly := onlyCounters_powerOnController env { core with vpuPowered := true }
  have hctrl' := @irisVpuPowerOnController_succeeds env { core with vpuPowered := true } hopp
    (congrArg Prod.fst hctrl)
  rw [hctrl] at honly
  have hhw : ∀ {c c' : Core}, OnlyCounters { core with vpuPowered := true } c →
      irisVpuPowerOnHw env c = (0, c') → HwSucceeds env core := by
    intro c c' honly heq
    have hsucceeds := @irisVpuPowerOnHw_succeeds env c (honly.platformData ▸ hpd)
      (congrArg Prod.fst heq)
    obtain ⟨counters, rfl⟩ := honly
    obtain ⟨hwOpp, hwGet, auxGet, hwAxi, auxHwAxi, hw, auxHw, control⟩ := hsucceeds
    exact ⟨hwOpp, hwGet, auxGet, hwAxi, auxHwAxi, hw, auxHw, control⟩
  have hparts : HwSucceeds env core ∧ env .oppRate = 0 := by
    cases hdefer : core.platformData.deferVcodecPower with
    | true =>
        simp only [hdefer, if_true, orGoto_zero] at hret
        obtain ⟨c, hrate, hret⟩ := orGoto_ret_zero (hlabel _) hret
        obtain ⟨hzero, rfl⟩ := Prod.mk.inj hrate
        obtain ⟨c, heq, hret⟩ := orGoto_ret_zero (hlabel _) hret
        exact ⟨hhw honly heq, hzero⟩
    | false =>
        simp only [hdefer, Bool.false_eq_true, if_false] at hret
        obtain ⟨c, heq, hret⟩ := orGoto_ret_zero (hlabel _) hret
        obtain ⟨c, hrate, hret⟩ := orGoto_ret_zero (hlabel _) hret
        exact ⟨hhw honly heq, (Prod.mk.inj hrate).1⟩
  obtain ⟨hhwSucceeds, hoppRate⟩ := hparts
  exact {
    setIccBw := hvote
    ctrlOpp := hctrl'.ctrlOpp
    ctrlGet := hctrl'.ctrlGet
    resets := hctrl'.resets
    bus := hctrl'.bus
    axi := hctrl'.axi
    ctrl := hctrl'.ctrl
    hwOpp := hhwSucceeds.hwOpp
    hwGet := hhwSucceeds.hwGet
    auxGet := hhwSucceeds.auxGet
    hwAxi := hhwSucceeds.hwAxi
    auxHwAxi := hhwSucceeds.auxHwAxi
    hw := hhwSucceeds.hw
    auxHw := hhwSucceeds.auxHw
    control := hhwSucceeds.control
    oppRate := hoppRate }

end NabuIris
