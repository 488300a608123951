import NabuIris.Proof.PowerFrame

/-!
# What a failed power-on leaves

The labels of the three power-on functions release in the reverse order of the calls, so that a
failure unwinds a stack. It does not where a reference stays behind a failed `pm_runtime_get_sync`
or a failed OPP vote, where a label releases what the failed call did not acquire, and where the
OPP rate fails with the codec already on.
-/

namespace NabuIris

open Lib

variable {env : Env} {start core : Core} {lost debt rs : List Resource} {clkType : ClkType}

/-! ### Stacks of resources -/

/-- Since `start` the core has acquired the stack `rs`. -/
structure Holding (start : Core) (lost debt rs : List Resource) (core : Core) : Prop where
  platformData : core.platformData = start.platformData
  clockTbl : core.clockTbl = start.clockTbl
  counters : Counters.Stacked start.counters.held lost debt rs core.counters

namespace Holding

theorem getClk (hs : Holding start lost debt rs core) (clkType : ClkType) :
    irisGetClkByType core clkType = irisGetClkByType start clkType := by
  rw [irisGetClkByType, hs.platformData, hs.clockTbl]
  rfl

theorem clkRes (hs : Holding start lost debt rs core) (clkType : ClkType) :
    core.clkRes clkType = start.clkRes clkType := by
  rw [Core.clkRes, hs.getClk]
  rfl

theorem acquireAll (hs : Holding start lost debt rs core) (rs' : List Resource) :
    Holding start lost debt (rs' ++ rs) (core.acquireAll rs') :=
  ⟨hs.platformData, hs.clockTbl, hs.counters.acquireAll rs'⟩

theorem releaseAll {rs' : List Resource} (hs : Holding start lost debt (rs' ++ rs) core) :
    Holding start lost debt rs (core.releaseAll rs') :=
  ⟨hs.platformData, hs.clockTbl, hs.counters.releaseAll⟩

theorem giveUp {rs' : List Resource} (hs : Holding start lost debt (rs' ++ rs) core) :
    Holding start (rs' ++ lost) debt rs core :=
  ⟨hs.platformData, hs.clockTbl, hs.counters.giveUp⟩

theorem get (hs : Holding start lost debt rs core) (domain : PowerDomain) :
    Holding start lost debt (.domain domain :: rs) (core.acquire (.domain domain)) :=
  hs.acquireAll [.domain domain]

theorem put {domain : PowerDomain} (hs : Holding start lost debt (.domain domain :: rs) core) :
    Holding start lost debt rs (pmRuntimePutSync domain core) :=
  @releaseAll _ _ _ _ _ [.domain domain] hs

theorem disableClock (hs : Holding start lost debt (start.clkRes clkType ++ rs) core) :
    Holding start lost debt rs (irisDisableUnprepareClock clkType core) := by
  rw [irisDisableUnprepareClock_eq, hs.clkRes]
  exact hs.releaseAll

/-- The label of a call that did not enable the clock disables it. -/
theorem overdrawClock (hs : Holding start lost debt rs core)
    (hclk : (irisGetClkByType start clkType).isSome) :
    Holding start lost (start.clkRes clkType ++ debt) rs
      (irisDisableUnprepareClock clkType core) := by
  obtain ⟨clk, hclk⟩ := Option.isSome_iff_exists.1 hclk
  have hne : start.clkRes clkType ≠ [] := by
    rw [Core.clkRes, hclk]
    exact List.cons_ne_nil _ _
  rw [irisDisableUnprepareClock_eq, hs.clkRes]
  exact ⟨hs.platformData, hs.clockTbl, hs.counters.overdraw hne⟩

theorem disableAbsent (hs : Holding start lost debt rs core)
    (hclk : ¬(irisGetClkByType start clkType).isSome) :
    Holding start lost debt rs (irisDisableUnprepareClock clkType core) := by
  have hnone : start.clkRes clkType = [] := by
    rw [Core.clkRes, Option.not_isSome_iff_eq_none.1 hclk]
    rfl
  have hstacked : Holding start lost debt (start.clkRes clkType ++ rs) core := by rwa [hnone]
  exact hstacked.disableClock

/-- `iris_disable_power_domains` puts the domain unless the OPP vote fails. -/
theorem disableDomains {domain : PowerDomain} {opp : Int}
    (hs : Holding start lost debt (.domain domain :: rs) core) :
    opp = 0 ∧ Holding start lost debt rs (irisDisablePowerDomains opp domain core) ∨
      opp ≠ 0 ∧ Holding start (.domain domain :: lost) debt rs
        (irisDisablePowerDomains opp domain core) := by
  by_cases hopp : opp = 0
  · rw [irisDisablePowerDomains, if_neg (not_not.2 hopp)]
    exact .inl ⟨hopp, hs.put⟩
  · rw [irisDisablePowerDomains, if_pos hopp]
    exact .inr ⟨hopp, @giveUp _ _ _ _ _ [.domain domain] hs⟩

theorem enableClock {β : Type} {P : β → Prop} {label : Int → Core → β} {next : Core → β}
    (hs : Holding start lost debt rs core)
    (hlabel : ∀ ret, ret ≠ 0 → ¬ ClkEnables env start clkType → P (label ret core))
    (hnext : ∀ core, ClkEnables env start clkType →
      Holding start lost debt (start.clkRes clkType ++ rs) core → P (next core)) :
    P (orGoto (irisPrepareEnableClock env clkType core) label next) := by
  by_cases henables : ClkEnables env start clkType
  · have hcore : ClkEnables env core clkType := by
      rw [ClkEnables, hs.getClk]
      exact henables
    rw [hcore.prepareEnable, orGoto_zero, hs.clkRes]
    exact hnext _ henables (hs.acquireAll _)
  · rw [irisPrepareEnableClock, hs.getClk]
    cases hclk : irisGetClkByType start clkType with
    | none =>
        have hinval : -einval ≠ 0 := by decide
        exact hlabel _ hinval henables
    | some clk =>
        have hret : env (.clkEnable clkType) ≠ 0 := fun hzero =>
          henables ⟨by rw [hclk]; rfl, hzero⟩
        dsimp only
        rw [if_pos hret, orGoto, if_pos hret]
        exact hlabel _ hret henables

theorem resumeAndGet {β : Type} {P : β → Prop} {label : Int → Core → β} {next : Core → β}
    {ret : Int} {domain : PowerDomain} (hs : Holding start lost debt rs core)
    (hlabel : ret < 0 → P (label ret core))
    (hnext : ∀ core, 0 ≤ ret → Holding start lost debt (.domain domain :: rs) core →
      P (next core)) :
    P (orGoto (pmRuntimeResumeAndGet ret domain core) label next) := by
  unfold pmRuntimeResumeAndGet
  split_ifs with hneg
  · rw [orGoto, if_pos (Int.ne_of_lt hneg)]
    exact hlabel hneg
  · rw [orGoto_zero]
    exact hnext _ (Int.not_lt.1 hneg) (hs.get domain)

end Holding

/-! ### The controller -/

/-- Every reference that `iris_vpu_power_on_controller` acquires before it fails is released. -/
def ControllerUndone (env : Env) (core : Core) : Prop :=
  if core.platformData.deferVcodecPower then 0 ≤ env .ctrlGet
  else env .ctrlOpp = 0 →
    0 ≤ env .ctrlGet ∧ (¬ ControllerSucceeds env core → env .ctrlDisableOpp = 0)

/-- A power-on ends with the stack `held` or, when it fails, with what `undone` leaves out. -/
def Ends (start : Core) (rs held : List Resource) (succeeds : Prop)
    (fails : List Resource → List Resource → Prop) (result : Int × Core) : Prop :=
  (result.1 = 0 ∧ succeeds ∧ Holding start [] [] (held ++ rs) result.2) ∨
    (result.1 ≠ 0 ∧ ¬ succeeds ∧ ∃ lost debt, fails lost debt ∧ Holding start lost debt rs result.2)

def ctrlStack (core : Core) : List Resource :=
  core.clkRes .ctrl ++ core.clkRes .axi ++
    (if core.platformData.deferVcodecPower then core.clkRes .bus else []) ++ [.domain .ctrl]

def CtrlFails (env : Env) (core : Core) (lost debt : List Resource) : Prop :=
  debt = [] ∧
    (ControllerUndone env core ∧ lost = [] ∨
      ¬ ControllerUndone env core ∧ lost = [.domain .ctrl])

theorem powerOnController_deferred (hdefer : start.platformData.deferVcodecPower = true)
    (hs : Holding start [] [] rs core) :
    Ends start rs (ctrlStack start) (ControllerSucceeds env start) (CtrlFails env start)
      (irisVpuPowerOnController env core) := by
  have hundone : ControllerUndone env start ↔ 0 ≤ env .ctrlGet := by
    rw [ControllerUndone, if_pos hdefer]
  unfold irisVpuPowerOnController
  simp only [hs.platformData, hdefer, if_true]
  split_ifs with hget
  · refine .inr ⟨Int.ne_of_lt hget, fun hsucceeds => Int.not_lt.2 hsucceeds.ctrlGet hget,
      [.domain .ctrl], [], ⟨rfl, .inr ⟨?_, rfl⟩⟩, @Holding.giveUp _ _ _ _ _ [_] (hs.get .ctrl)⟩
    rw [hundone]
    exact Int.not_le.2 hget
  · have hleft := hundone.2 (Int.not_lt.1 hget)
    have hfails : ∀ {ret : Int} {c : Core}, ret ≠ 0 → ¬ ControllerSucceeds env start →
        Holding start [] [] (.domain .ctrl :: rs) c →
        Ends start rs (ctrlStack start) (ControllerSucceeds env start) (CtrlFails env start)
          (ret, pmRuntimePutSync .ctrl c) := fun hret hfails hs =>
      .inr ⟨hret, hfails, [], [], ⟨rfl, .inl ⟨hleft, rfl⟩⟩, hs.put⟩
    refine orGoto_value_rule (fun hret => hfails hret (fun hsucceeds => ?_) (hs.get .ctrl))
      fun hresets => ?_
    · have hresets := hsucceeds.resets
      rw [if_pos hdefer] at hresets
      exact hret hresets
    refine (hs.get .ctrl).enableClock (fun ret hret hbus => ?_) fun c hbus hs => ?_
    · exact hfails hret (fun hsucceeds => hbus (hsucceeds.bus hdefer)) (hs.get .ctrl)
    refine hs.enableClock (fun ret hret haxi => ?_) fun c haxi hs => ?_
    · exact hfails hret (fun hsucceeds => haxi hsucceeds.axi) hs.disableClock
    refine hs.enableClock (fun ret hret hctrl => ?_) fun c hctrl hs => ?_
    · exact hfails hret (fun hsucceeds => hctrl hsucceeds.ctrl) hs.disableClock.disableClock
    refine .inl ⟨rfl, ?_, ?_⟩
    · exact {
        ctrlOpp := fun hnot => by simp [hdefer] at hnot
        ctrlGet := Int.not_lt.1 hget
        resets := by rwa [if_pos hdefer]
        bus := fun _ => hbus
        axi := haxi
        ctrl := hctrl }
    · rw [ctrlStack, if_pos hdefer]
      simpa only [List.append_assoc, List.singleton_append] using hs

theorem powerOnController_early (hopp : env .ctrlOpp ≤ 0)
    (hdefer : start.platformData.deferVcodecPower = false)
    (hs : Holding start [] [] rs core) :
    Ends start rs (ctrlStack start) (ControllerSucceeds env start) (CtrlFails env start)
      (irisVpuPowerOnController env core) := by
  have hundone : ControllerUndone env start ↔ (env .ctrlOpp = 0 →
      0 ≤ env .ctrlGet ∧ (¬ ControllerSucceeds env start → env .ctrlDisableOpp = 0)) := by
    rw [ControllerUndone, if_neg (by simp [hdefer])]
  unfold irisVpuPowerOnController
  simp only [hs.platformData, hdefer, Bool.false_eq_true, if_false, orGoto_zero]
  unfold irisEnablePowerDomains
  by_cases hvote : env .ctrlOpp = 0
  swap
  · have hneg : env .ctrlOpp < 0 := lt_of_le_of_ne hopp hvote
    rw [if_pos hvote, if_pos hneg]
    exact .inr ⟨hvote, fun hsucceeds => hvote (hsucceeds.ctrlOpp hdefer), [], [],
      ⟨rfl, .inl ⟨hundone.2 fun hzero => absurd hzero hvote, rfl⟩⟩, hs⟩
  rw [if_neg (not_not.2 hvote)]
  split_ifs with hget
  · refine .inr ⟨Int.ne_of_lt hget, fun hsucceeds => Int.not_lt.2 hsucceeds.ctrlGet hget,
      [.domain .ctrl], [], ⟨rfl, .inr ⟨?_, rfl⟩⟩, @Holding.giveUp _ _ _ _ _ [_] (hs.get .ctrl)⟩
    rw [hundone]
    exact fun hleft => Int.not_lt.2 (hleft hvote).1 hget
  · have hfails : ∀ {ret : Int} {c : Core}, ret ≠ 0 → ¬ ControllerSucceeds env start →
        Holding start [] [] (.domain .ctrl :: rs) c →
        Ends start rs (ctrlStack start) (ControllerSucceeds env start) (CtrlFails env start)
          (ret, irisDisablePowerDomains (env .ctrlDisableOpp) .ctrl c) := by
      intro ret c hret hfails hs
      rcases hs.disableDomains with ⟨hzero, hs⟩ | ⟨hne, hs⟩
      · exact .inr ⟨hret, hfails, [], [],
          ⟨rfl, .inl ⟨hundone.2 fun _ => ⟨Int.not_lt.1 hget, fun _ => hzero⟩, rfl⟩⟩, hs⟩
      · exact .inr ⟨hret, hfails, [.domain .ctrl], [],
          ⟨rfl, .inr ⟨fun hleft => hne ((hundone.1 hleft hvote).2 hfails), rfl⟩⟩, hs⟩
    refine orGoto_value_rule (fun hret => hfails hret (fun hsucceeds => ?_) (hs.get .ctrl))
      fun hresets => ?_
    · have hresets := hsucceeds.resets
      rw [if_neg (by simp [hdefer])] at hresets
      exact hret hresets
    refine (hs.get .ctrl).enableClock (fun ret hret haxi => ?_) fun c haxi hs => ?_
    · exact hfails hret (fun hsucceeds => haxi hsucceeds.axi) (hs.get .ctrl)
    refine hs.enableClock (fun ret hret hctrl => ?_) fun c hctrl hs => ?_
    · exact hfails hret (fun hsucceeds => hctrl hsucceeds.ctrl) hs.disableClock
    refine .inl ⟨rfl, ?_, ?_⟩
    · exact {
        ctrlOpp := fun _ => hvote
        ctrlGet := Int.not_lt.1 hget
        resets := by rwa [if_neg (by simp [hdefer])]
        bus := fun htrue => by simp [hdefer] at htrue
        axi := haxi
        ctrl := hctrl }
    · rw [ctrlStack, if_neg (by simp [hdefer])]
      simpa only [List.append_assoc, List.nil_append, List.singleton_append] using hs

/-- `dev_pm_opp_set_rate` returns zero or a negative error. -/
theorem powerOnController_ends (hopp : env .ctrlOpp ≤ 0) (hs : Holding start [] [] rs core) :
    Ends start rs (ctrlStack start) (ControllerSucceeds env start) (CtrlFails env start)
      (irisVpuPowerOnController env core) := by
  cases hdefer : start.platformData.deferVcodecPower with
  | true => exact powerOnController_deferred hdefer hs
  | false => exact powerOnController_early hopp hdefer hs

/-! ### The codec -/

/-- Every call before the one that enables the clock of the second codec succeeds. -/
structure ReachesAuxHw (env : Env) (core : Core) : Prop where
  hwGet : 0 ≤ env .hwGet
  auxGet : 0 ≤ env .auxGet
  hwAxi : ClkEnables env core .hwAxi
  auxHwAxi : ClkEnables env core .auxHwAxi
  hw : ClkEnables env core .hw

/-- The same for `iris_vpu_power_on_hw`, and no other reference is released. -/
def HwUndone (env : Env) (core : Core) : Prop :=
  if core.platformData.deferVcodecPower then
    core.platformData.auxPdDev = true → ReachesAuxHw env core →
      (irisGetClkByType core .auxHw).isSome → env (.clkEnable .auxHw) = 0
  else env .hwOpp = 0 →
    env .hwGet = 0 ∧ (¬ HwSucceeds env core → env .hwDisableOpp = 0)

def hwStack (core : Core) : List Resource :=
  (if core.platformData.auxPdDev then core.clkRes .auxHw else []) ++ core.clkRes .hw ++
    (if core.platformData.deferVcodecPower then core.clkRes .auxHwAxi ++ core.clkRes .hwAxi
      else []) ++
    (if core.platformData.auxPdDev then [.domain .auxHw] else []) ++ [.domain .hw]

def HwFails (env : Env) (core : Core) (lost debt : List Resource) : Prop :=
  HwUndone env core ∧ lost = [] ∧ debt = [] ∨
    ¬ HwUndone env core ∧
      (lost = [.domain .hw] ∧ debt = [] ∨ lost = [] ∧ ∃ clk, debt = [.clk clk])

theorem powerOnHw_early (hdefer : start.platformData.deferVcodecPower = false)
    (hs : Holding start [] [] rs core) :
    Ends start rs (hwStack start) (HwSucceeds env start) (HwFails env start)
      (irisVpuPowerOnHw env core) := by
  have haux : start.platformData.auxPdDev = false := by
    rw [PlatformData.auxPdDev, hdefer, Bool.false_and]
  have hundone : HwUndone env start ↔ (env .hwOpp = 0 →
      env .hwGet = 0 ∧ (¬ HwSucceeds env start → env .hwDisableOpp = 0)) := by
    rw [HwUndone, if_neg (by simp [hdefer])]
  have hget : HwSucceeds env start → env .hwGet = 0 := fun hsucceeds => by
    have hget := hsucceeds.hwGet
    rwa [if_neg (by simp [hdefer])] at hget
  unfold irisVpuPowerOnHw
  simp only [hs.platformData, hdefer, haux, Bool.not_false, Bool.and_true, Bool.false_eq_true,
    if_false, orGoto_zero]
  unfold irisEnablePowerDomains
  by_cases hvote : env .hwOpp = 0
  swap
  · rw [if_pos hvote, orGoto, if_pos hvote]
    exact .inr ⟨hvote, fun hsucceeds => hvote (hsucceeds.hwOpp hdefer), [], [],
      .inl ⟨hundone.2 fun hzero => absurd hzero hvote, rfl, rfl⟩, hs⟩
  rw [if_neg (not_not.2 hvote)]
  refine orGoto_value_rule (fun hret => ?_) fun hgets => ?_
  · exact .inr ⟨hret, fun hsucceeds => hret (hget hsucceeds), [.domain .hw], [],
      .inr ⟨fun hleft => hret (hundone.1 hleft hvote).1, .inl ⟨rfl, rfl⟩⟩,
      @Holding.giveUp _ _ _ _ _ [_] (hs.get .hw)⟩
  have hfails : ∀ {ret : Int} {c : Core}, ret ≠ 0 → ¬ HwSucceeds env start →
      Holding start [] [] (.domain .hw :: rs) c →
      Ends start rs (hwStack start) (HwSucceeds env start) (HwFails env start)
        (ret, irisDisablePowerDomains (env .hwDisableOpp) .hw c) := by
    intro ret c hret hfails hs
    rcases hs.disableDomains with ⟨hzero, hs⟩ | ⟨hne, hs⟩
    · exact .inr ⟨hret, hfails, [], [],
        .inl ⟨hundone.2 fun _ => ⟨hgets, fun _ => hzero⟩, rfl, rfl⟩, hs⟩
    · exact .inr ⟨hret, hfails, [.domain .hw], [],
        .inr ⟨fun hleft => hne ((hundone.1 hleft hvote).2 hfails), .inl ⟨rfl, rfl⟩⟩, hs⟩
  refine orGoto_value_rule (fun hret => hfails hret (fun hsucceeds => ?_) (hs.get .hw))
    fun hsw => ?_
  · have hcontrol := hsucceeds.control hdefer
    split_ifs at hret hcontrol
    · exact hret hcontrol.1
    · exact hret rfl
  refine (hs.get .hw).enableClock (fun ret hret hhw => ?_) fun c hhw hs => ?_
  · exact hfails hret (fun hsucceeds => hhw hsucceeds.hw) (hs.get .hw)
  refine orGoto_value_rule (fun hret => hfails hret (fun hsucceeds => ?_) hs.disableClock)
    fun hmode => .inl ⟨rfl, ?_, ?_⟩
  · have hcontrol := hsucceeds.control hdefer
    split_ifs at hret hcontrol
    · exact hret hcontrol.2
    · exact hret hcontrol
  · exact {
      hwOpp := fun _ => hvote
      hwGet := by rwa [if_neg (by simp [hdefer])]
      auxGet := fun htrue => by simp [haux] at htrue
      hwAxi := fun htrue => by simp [hdefer] at htrue
      auxHwAxi := fun htrue => by simp [hdefer] at htrue
      hw := hhw
      auxHw := fun htrue => by simp [haux] at htrue
      control := fun _ => by
        split_ifs at hsw hmode ⊢
        · exact ⟨hsw, hmode⟩
        · exact hmode }
  · rw [hwStack, haux, hdefer]
    simpa using hs

/-- What a failure leaves that comes before the clock of the second codec, or without it. -/
theorem hwFails_undone {result : Int × Core} (hret : result.1 ≠ 0)
    (hfails : ¬ HwSucceeds env start) (hundone : HwUndone env start)
    (hs : Holding start [] [] rs result.2) :
    Ends start rs (hwStack start) (HwSucceeds env start) (HwFails env start) result :=
  .inr ⟨hret, hfails, [], [], .inl ⟨hundone, rfl, rfl⟩, hs⟩

theorem powerOnHw_single (hdefer : start.platformData.deferVcodecPower = true)
    (haux : start.platformData.auxPdDev = false) (hs : Holding start [] [] rs core) :
    Ends start rs (hwStack start) (HwSucceeds env start) (HwFails env start)
      (irisVpuPowerOnHw env core) := by
  have hundone : HwUndone env start := by
    rw [HwUndone, if_pos hdefer]
    intro htrue
    simp [haux] at htrue
  unfold irisVpuPowerOnHw
  simp only [hs.platformData, hdefer, haux, Bool.not_true, Bool.and_false, Bool.false_eq_true,
    if_false, if_true, orGoto_zero]
  refine hs.resumeAndGet (fun hneg => ?_) fun c hget hs => ?_
  · refine hwFails_undone (Int.ne_of_lt hneg) (fun hsucceeds => ?_) hundone hs
    have hget := hsucceeds.hwGet
    rw [if_pos hdefer] at hget
    exact Int.not_lt.2 hget hneg
  refine hs.enableClock (fun ret hret hhwAxi => ?_) fun c hhwAxi hs => ?_
  · exact hwFails_undone hret (fun hsucceeds => hhwAxi (hsucceeds.hwAxi hdefer)) hundone hs.put
  refine hs.enableClock (fun ret hret hauxHwAxi => ?_) fun c hauxHwAxi hs => ?_
  · exact hwFails_undone hret (fun hsucceeds => hauxHwAxi (hsucceeds.auxHwAxi hdefer)) hundone
      hs.disableClock.put
  refine hs.enableClock (fun ret hret hhw => ?_) fun c hhw hs => ?_
  · exact hwFails_undone hret (fun hsucceeds => hhw hsucceeds.hw) hundone
      hs.disableClock.disableClock.put
  refine .inl ⟨rfl, ?_, ?_⟩
  · exact {
      hwOpp := fun hfalse => by simp [hdefer] at hfalse
      hwGet := by rwa [if_pos hdefer]
      auxGet := fun htrue => by simp [haux] at htrue
      hwAxi := fun _ => hhwAxi
      auxHwAxi := fun _ => hauxHwAxi
      hw := hhw
      auxHw := fun htrue => by simp [haux] at htrue
      control := fun hfalse => by simp [hdefer] at hfalse }
  · rw [hwStack, haux, hdefer]
    simpa using hs

theorem powerOnHw_both (hdefer : start.platformData.deferVcodecPower = true)
    (haux : start.platformData.auxPdDev = true) (hs : Holding start [] [] rs core) :
    Ends start rs (hwStack start) (HwSucceeds env start) (HwFails env start)
      (irisVpuPowerOnHw env core) := by
  have hundone : HwUndone env start ↔ (ReachesAuxHw env start →
      (irisGetClkByType start .auxHw).isSome → env (.clkEnable .auxHw) = 0) := by
    rw [HwUndone, if_pos hdefer]
    exact ⟨fun hleft => hleft haux, fun hleft _ => hleft⟩
  have hearly : ¬ ReachesAuxHw env start → HwUndone env start := fun hnot =>
    hundone.2 fun hreaches => absurd hreaches hnot
  have hreached : HwSucceeds env start → ReachesAuxHw env start := fun hsucceeds => by
    have hget := hsucceeds.hwGet
    rw [if_pos hdefer] at hget
    exact ⟨hget, hsucceeds.auxGet haux, hsucceeds.hwAxi hdefer, hsucceeds.auxHwAxi hdefer,
      hsucceeds.hw⟩
  -- a call before the clock of the second codec fails
  have hfails : ∀ {ret : Int} {c : Core}, ret ≠ 0 → ¬ ReachesAuxHw env start →
      Holding start [] [] rs c →
      Ends start rs (hwStack start) (HwSucceeds env start) (HwFails env start) (ret, c) :=
    fun hret hnot hs => hwFails_undone hret (fun hsucceeds => hnot (hreached hsucceeds))
      (hearly hnot) hs
  unfold irisVpuPowerOnHw
  simp only [hs.platformData, hdefer, haux, Bool.not_true, Bool.and_false, Bool.false_eq_true,
    if_false, if_true, orGoto_zero]
  refine hs.resumeAndGet (fun hneg => ?_) fun c hhwGet hs => ?_
  · exact hfails (Int.ne_of_lt hneg) (fun hreaches => Int.not_lt.2 hreaches.hwGet hneg) hs
  refine hs.resumeAndGet (fun hneg => ?_) fun c hauxGet hs => ?_
  · exact hfails (Int.ne_of_lt hneg) (fun hreaches => Int.not_lt.2 hreaches.auxGet hneg) hs.put
  refine hs.enableClock (fun ret hret hhwAxi => ?_) fun c hhwAxi hs => ?_
  · exact hfails hret (fun hreaches => hhwAxi hreaches.hwAxi) hs.put.put
  refine hs.enableClock (fun ret hret hauxHwAxi => ?_) fun c hauxHwAxi hs => ?_
  · exact hfails hret (fun hreaches => hauxHwAxi hreaches.auxHwAxi) hs.disableClock.put.put
  refine hs.enableClock (fun ret hret hhw => ?_) fun c hhw hs => ?_
  · exact hfails hret (fun hreaches => hhw hreaches.hw) hs.disableClock.disableClock.put.put
  have hreaches : ReachesAuxHw env start := ⟨hhwGet, hauxGet, hhwAxi, hauxHwAxi, hhw⟩
  refine hs.enableClock (fun ret hret hauxHw => ?_) fun c hauxHw hs => ?_
  · have hfails : ¬ HwSucceeds env start := fun hsucceeds => hauxHw (hsucceeds.auxHw haux)
    by_cases hclk : (irisGetClkByType start .auxHw).isSome
    · -- the label disables a clock that is not enabled
      obtain ⟨clk, hget⟩ := Option.isSome_iff_exists.1 hclk
      have hdebt : start.clkRes .auxHw ++ [] = [.clk clk] := by
        rw [Core.clkRes, hget]
        rfl
      exact .inr ⟨hret, hfails, [], _,
        .inr ⟨fun hleft => hauxHw ⟨hclk, hundone.1 hleft hreaches hclk⟩, .inr ⟨rfl, clk, hdebt⟩⟩,
        (hs.overdrawClock hclk).disableClock.disableClock.disableClock.put.put⟩
    · exact hwFails_undone hret hfails (hundone.2 fun _ hsome => absurd hsome hclk)
        (hs.disableAbsent hclk).disableClock.disableClock.disableClock.put.put
  refine .inl ⟨rfl, ?_, ?_⟩
  · exact {
      hwOpp := fun hfalse => by simp [hdefer] at hfalse
      hwGet := by rwa [if_pos hdefer]
      auxGet := fun _ => hauxGet
      hwAxi := fun _ => hhwAxi
      auxHwAxi := fun _ => hauxHwAxi
      hw := hhw
      auxHw := fun _ => hauxHw
      control := fun hfalse => by simp [hdefer] at hfalse }
  · rw [hwStack, haux, hdefer]
    simpa using hs

theorem powerOnHw_ends (env : Env) (hs : Holding start [] [] rs core) :
    Ends start rs (hwStack start) (HwSucceeds env start) (HwFails env start)
      (irisVpuPowerOnHw env core) := by
  cases hdefer : start.platformData.deferVcodecPower with
  | false => exact powerOnHw_early hdefer hs
  | true =>
      cases haux : start.platformData.auxPdDev with
      | false => exact powerOnHw_single hdefer haux hs
      | true => exact powerOnHw_both hdefer haux hs

/-! ### The whole power-on -/

/-- The controller is switched off with its reference put. -/
def CtrlPut (env : Env) (core : Core) : Prop :=
  core.platformData.legacyVpu5 = true ∨ env .ctrlDisableOpp = 0

theorem powerOffController_holding (env : Env)
    (hs : Holding start lost debt (ctrlStack start ++ rs) core) :
    CtrlPut env start ∧ Holding start lost debt rs (irisVpuPowerOffController env core) ∨
      ¬ CtrlPut env start ∧
        Holding start (.domain .ctrl :: lost) debt rs (irisVpuPowerOffController env core) := by
  have hdisabled : Holding start lost debt (.domain .ctrl :: rs)
      (if start.platformData.deferVcodecPower then
        irisDisableUnprepareClock .bus
          (irisDisableUnprepareClock .axi (irisDisableUnprepareClock .ctrl core))
      else irisDisableUnprepareClock .axi (irisDisableUnprepareClock .ctrl core)) := by
    rw [ctrlStack] at hs
    simp only [List.append_assoc] at hs
    have hclocks := hs.disableClock.disableClock
    split_ifs at hclocks ⊢
    · exact hclocks.disableClock
    · exact hclocks
  rw [irisVpuPowerOffController]
  simp only [hs.platformData]
  split_ifs with hlegacy hdefer hdefer
  · rw [if_pos hdefer] at hdisabled
    exact .inl ⟨.inl hlegacy, hdisabled.put⟩
  · rw [if_neg hdefer] at hdisabled
    exact .inl ⟨.inl hlegacy, hdisabled.put⟩
  · rw [if_pos hdefer] at hdisabled
    exact hdisabled.disableDomains.imp (fun hput => ⟨.inr hput.1, hput.2⟩)
      fun hlost => ⟨fun hput => hput.elim hlegacy hlost.1, hlost.2⟩
  · rw [if_neg hdefer] at hdisabled
    exact hdisabled.disableDomains.imp (fun hput => ⟨.inr hput.1, hput.2⟩)
      fun hlost => ⟨fun hput => hput.elim hlegacy hlost.1, hlost.2⟩

/-- Everything that `iris_vpu_power_on` acquires before it fails is released, and nothing else. -/
def PowerOnUndone (env : Env) (core : Core) : Prop :=
  env .setIccBw = 0 → ControllerUndone env core ∧
    (ControllerSucceeds env core → ¬ (HwSucceeds env core ∧ env .oppRate = 0) →
      CtrlPut env core ∧
        if core.platformData.deferVcodecPower then env .oppRate = 0 → HwUndone env core
        else ¬ HwSucceeds env core ∧ HwUndone env core)

theorem ControllerSucceeds.undone (hsucceeds : ControllerSucceeds env core) :
    ControllerUndone env core := by
  unfold ControllerUndone
  split_ifs with hdefer
  · exact hsucceeds.ctrlGet
  · exact fun _ => ⟨hsucceeds.ctrlGet, fun hnot => absurd hsucceeds hnot⟩

theorem HwSucceeds.undone (hsucceeds : HwSucceeds env core) : HwUndone env core := by
  have hget := hsucceeds.hwGet
  unfold HwUndone
  split_ifs at hget ⊢ with hdefer
  · exact fun haux _ _ => (hsucceeds.auxHw haux).2
  · exact fun _ => ⟨hget, fun hnot => absurd hsucceeds hnot⟩

/-- What a power-on leaves: nothing exactly when `undone`. -/
def Leaves (start : Core) (undone : Prop) (result : Int × Core) : Prop :=
  (result.1 = 0 ∧ undone) ∨ (result.1 ≠ 0 ∧ ∃ lost debt, List.Disjoint lost debt ∧
    Resource.irq ∉ lost ++ debt ∧ (lost = [] ∧ debt = [] ↔ undone) ∧
    Holding start lost debt [] result.2)

theorem Ends.leavesController {result : Int × Core} {held : List Resource}
    (hends : Ends start [] held (ControllerSucceeds env start) (CtrlFails env start) result) :
    Leaves start (ControllerUndone env start) result := by
  rcases hends with ⟨hret, hsucceeds, -⟩ | ⟨hret, -, lost, debt, ⟨rfl, hfails⟩, hs⟩
  · exact .inl ⟨hret, hsucceeds.undone⟩
  · refine .inr ⟨hret, lost, [], List.disjoint_nil_right _, ?_, ?_, hs⟩
    · rcases hfails with ⟨-, rfl⟩ | ⟨-, rfl⟩ <;> decide
    · rcases hfails with ⟨hundone, rfl⟩ | ⟨hnot, rfl⟩
      · exact iff_of_true ⟨rfl, rfl⟩ hundone
      · exact iff_of_false (fun hnone => List.cons_ne_nil _ _ hnone.1) hnot

/-- What `iris_vpu_power_on_hw` leaves behind is no reference to the controller. -/
theorem HwFails.kinds (hfails : HwFails env start lost debt) :
    List.Disjoint lost debt ∧ Resource.irq ∉ lost ++ debt ∧ Resource.domain .ctrl ∉ debt ∧
      (lost = [] ∧ debt = [] ↔ HwUndone env start) := by
  rcases hfails with ⟨hundone, rfl, rfl⟩ | ⟨hnot, ⟨rfl, rfl⟩ | ⟨rfl, clk, rfl⟩⟩
  · exact ⟨List.disjoint_nil_left _, by simp, by simp, iff_of_true ⟨rfl, rfl⟩ hundone⟩
  · exact ⟨List.disjoint_nil_right _, by simp, by simp,
      iff_of_false (fun hnone => List.cons_ne_nil _ _ hnone.1) hnot⟩
  · exact ⟨List.disjoint_nil_left _, by simp, by simp,
      iff_of_false (fun hnone => List.cons_ne_nil _ _ hnone.2) hnot⟩

theorem Ends.leavesHw {result : Int × Core} {held : List Resource}
    (hends : Ends start [] held (HwSucceeds env start) (HwFails env start) result) :
    Leaves start (HwUndone env start) result := by
  rcases hends with ⟨hret, hsucceeds, -⟩ | ⟨hret, -, lost, debt, hfails, hs⟩
  · exact .inl ⟨hret, hsucceeds.undone⟩
  · obtain ⟨hdisjoint, hirq, -, hnone⟩ := hfails.kinds
    exact .inr ⟨hret, lost, debt, hdisjoint, hirq, hnone, hs⟩

theorem leaves_powerOffCtrl {undone : Prop} {ret : Int} (hret : ret ≠ 0)
    (hs : Holding start lost debt (ctrlStack start) core) (hdisjoint : List.Disjoint lost debt)
    (hirq : Resource.irq ∉ lost ++ debt) (hctrl : Resource.domain .ctrl ∉ debt)
    (hundone : undone ↔ CtrlPut env start ∧ lost = [] ∧ debt = []) :
    Leaves start undone (ret, irisVpuPowerOffController env core) := by
  have hs : Holding start lost debt (ctrlStack start ++ []) core := by rwa [List.append_nil]
  rcases powerOffController_holding env hs with ⟨hput, hs⟩ | ⟨hnot, hs⟩
  · refine .inr ⟨hret, lost, debt, hdisjoint, hirq, ?_, hs⟩
    rw [hundone]
    exact ⟨fun hnone => ⟨hput, hnone⟩, And.right⟩
  · refine .inr ⟨hret, .domain .ctrl :: lost, debt, ?_, ?_, ?_, hs⟩
    · exact List.disjoint_cons_left.2 ⟨hctrl, hdisjoint⟩
    · rw [List.cons_append, List.mem_cons]
      exact fun hmem => hmem.elim nofun hirq
    · exact iff_of_false (fun hnone => List.cons_ne_nil _ _ hnone.1) fun hall =>
        hnot (hundone.1 hall).1

theorem irq_notMem_hwStack : Resource.irq ∉ hwStack core := by
  have hclk : ∀ clkType, Resource.irq ∉ core.clkRes clkType := by
    intro clkType hmem
    rw [Core.clkRes, Option.mem_toList, Option.map_eq_some_iff] at hmem
    obtain ⟨clk, -, hclk⟩ := hmem
    cases hclk
  unfold hwStack
  split_ifs <;> simp [hclk]

/-- The codec fails to come on, with the controller on. -/
theorem hwFails_leaves {ret : Int} (hret : ret ≠ 0) (hicc : env .setIccBw = 0)
    (hctrl : ControllerSucceeds env start) (hnot : ¬ HwSucceeds env start)
    (hrate : start.platformData.deferVcodecPower = true → env .oppRate = 0)
    (hfails : HwFails env start lost debt)
    (hs : Holding start lost debt (ctrlStack start) core) :
    Leaves start (PowerOnUndone env start) (ret, irisVpuPowerOffController env core) := by
  obtain ⟨hdisjoint, hirq, hdomain, hnone⟩ := hfails.kinds
  refine leaves_powerOffCtrl hret hs hdisjoint hirq hdomain ?_
  rw [hnone]
  refine ⟨fun hundone => ?_, fun hleft _ => ⟨hctrl.undone, fun _ _ => ⟨hleft.1, ?_⟩⟩⟩
  · obtain ⟨hput, hhw⟩ := (hundone hicc).2 hctrl fun hall => hnot hall.1
    refine ⟨hput, ?_⟩
    split_ifs at hhw with hdefer
    · exact hhw (hrate hdefer)
    · exact hhw.2
  · split_ifs
    · exact fun _ => hleft.2
    · exact ⟨hnot, hleft.2⟩

theorem irisVpuPowerOn_leaves (hopp : env .ctrlOpp ≤ 0) (hs : Holding start [] [] [] core) :
    Leaves start (PowerOnUndone env start) (irisVpuPowerOn env core) := by
  have hpowered : Holding start [] [] [] { core with vpuPowered := true } :=
    ⟨hs.platformData, hs.clockTbl, hs.counters⟩
  unfold irisVpuPowerOn
  generalize ({ core with vpuPowered := true } : Core) = powered at hpowered ⊢
  simp only [hpowered.platformData]
  refine orGoto_value_rule (fun hicc => ?_) fun hicc => ?_
  · exact .inr ⟨hicc, [], [], List.disjoint_nil_left _, List.not_mem_nil,
      iff_of_true ⟨rfl, rfl⟩ fun hzero => absurd hzero hicc, hpowered⟩
  have hends := powerOnController_ends hopp hpowered
  refine orGoto_rule (fun ret c heq hret => ?_) fun c heq => ?_
  · rw [heq] at hends
    have hleaves := hends.leavesController
    rcases hends with ⟨hzero, -, -⟩ | ⟨-, hnot, -⟩
    · exact absurd hzero hret
    · have hundone : PowerOnUndone env start ↔ ControllerUndone env start :=
        ⟨fun hundone => (hundone hicc).1, fun hleft _ =>
          ⟨hleft, fun hsucceeds => absurd hsucceeds hnot⟩⟩
      rwa [hundone]
  rw [heq] at hends
  rcases hends with ⟨-, hctrl, hs⟩ | ⟨hne, -⟩
  swap
  · exact absurd rfl hne
  rw [List.append_nil] at hs
  have hhwEnds := powerOnHw_ends env hs
  cases hdefer : start.platformData.deferVcodecPower with
  | true =>
      simp only [if_true, orGoto_zero]
      refine orGoto_value_rule (fun hrate => ?_) fun hrate => ?_
      · refine leaves_powerOffCtrl hrate hs (List.disjoint_nil_left _) (by simp) (by simp) ?_
        refine ⟨fun hundone => ?_, fun hleft _ => ⟨hctrl.undone, fun _ _ => ⟨hleft.1, ?_⟩⟩⟩
        · exact ⟨((hundone hicc).2 hctrl fun hall => hrate hall.2).1, rfl, rfl⟩
        · rw [if_pos hdefer]
          exact fun hzero => absurd hzero hrate
      refine orGoto_rule (fun ret c heq hret => ?_) fun c heq => ?_
      · rw [heq] at hhwEnds
        rcases hhwEnds with ⟨hzero, -, -⟩ | ⟨-, hnot, lost, debt, hfails, hs⟩
        · exact absurd hzero hret
        · exact hwFails_leaves hret hicc hctrl hnot (fun _ => hrate) hfails hs
      · rw [heq] at hhwEnds
        rcases hhwEnds with ⟨-, hhw, -⟩ | ⟨hne, -⟩
        · exact .inl ⟨rfl, fun _ => ⟨hctrl.undone, fun _ hnot => absurd ⟨hhw, hrate⟩ hnot⟩⟩
        · exact absurd rfl hne
  | false =>
      simp only [Bool.false_eq_true, if_false]
      refine orGoto_rule (fun ret c heq hret => ?_) fun c heq => ?_
      · rw [heq] at hhwEnds
        rcases hhwEnds with ⟨hzero, -, -⟩ | ⟨-, hnot, lost, debt, hfails, hs⟩
        · exact absurd hzero hret
        · exact hwFails_leaves hret hicc hctrl hnot (fun htrue => by simp [hdefer] at htrue) hfails
            hs
      rw [heq] at hhwEnds
      rcases hhwEnds with ⟨-, hhw, hs⟩ | ⟨hne, -⟩
      swap
      · exact absurd rfl hne
      refine orGoto_value_rule (fun hrate => ?_) fun hrate => ?_
      · -- the codec stays on
        have hnone : hwStack start ++ [] ≠ [] := by simp [hwStack]
        refine leaves_powerOffCtrl hrate hs.giveUp (List.disjoint_nil_right _) ?_ (by simp) ?_
        · simpa using irq_notMem_hwStack
        · refine iff_of_false (fun hundone => ?_) fun hall => hnone hall.2.1
          obtain ⟨-, hleft⟩ := (hundone hicc).2 hctrl fun hall => hrate hall.2
          rw [if_neg (by simp [hdefer])] at hleft
          exact hleft.1 hhw
      · rw [orGoto_zero]
        exact .inl ⟨rfl, fun _ => ⟨hctrl.undone, fun _ hnot => absurd ⟨hhw, hrate⟩ hnot⟩⟩

/-! ### All or nothing -/

/-- The core from which on the lowest counts are taken. -/
def Core.marked (core : Core) : Core :=
  { core with counters := .start core.counters.held }

/-- Every clock and domain is counted as before, and no clock has been below it. -/
structure Unchanged (core core' : Core) : Prop where
  held : ∀ r, r ≠ .irq → core'.counters.held r = core.counters.held r
  enabled : ∀ clk, core.counters.held (.clk clk) ≤ core'.counters.low (.clk clk)

def AllOrNothing (powerOn : Core → Int × Core) (core : Core) : Prop :=
  (powerOn core.marked).1 ≠ 0 → Unchanged core (powerOn core.marked).2

theorem holding_marked (core : Core) : Holding core [] [] [] core.marked :=
  ⟨rfl, rfl, .start core.counters.held⟩

theorem Holding.unchanged_iff (hs : Holding start lost debt [] core)
    (hdisjoint : List.Disjoint lost debt) (hirq : Resource.irq ∉ lost ++ debt) :
    Unchanged start core ↔ lost = [] ∧ debt = [] := by
  have hheld : ∀ r, core.counters.held r =
      start.counters.held r + lost.count r - debt.count r := by
    intro r
    rw [hs.counters.held r, List.count_nil]
    omega
  constructor
  · intro hunchanged
    have hsame : ∀ r, r ≠ .irq → lost.count r = debt.count r := by
      intro r hr
      have hcounted := (hheld r).symm.trans (hunchanged.held r hr)
      omega
    have hne : ∀ r ∈ lost ++ debt, r ≠ .irq := fun r hmem heq => hirq (heq ▸ hmem)
    constructor
    · refine List.eq_nil_iff_forall_not_mem.2 fun r hmem => hdisjoint hmem ?_
      rw [← List.count_pos_iff, ← hsame r (hne r (List.mem_append_left _ hmem))]
      exact List.count_pos_iff.2 hmem
    · refine List.eq_nil_iff_forall_not_mem.2 fun r hmem => hdisjoint ?_ hmem
      rw [← List.count_pos_iff, hsame r (hne r (List.mem_append_right _ hmem))]
      exact List.count_pos_iff.2 hmem
  · rintro ⟨rfl, rfl⟩
    refine ⟨fun r _ => ?_, fun clk => hs.counters.low rfl _⟩
    rw [hheld r, List.count_nil]
    omega

theorem Leaves.allOrNothing_iff {undone : Prop} {powerOn : Core → Int × Core}
    (hleaves : Leaves core undone (powerOn core.marked)) :
    AllOrNothing powerOn core ↔ undone := by
  rcases hleaves with ⟨hret, hundone⟩ | ⟨hret, lost, debt, hdisjoint, hirq, hnone, hs⟩
  · exact iff_of_true (fun hne => absurd hret hne) hundone
  · rw [← hnone, ← hs.unchanged_iff hdisjoint hirq]
    exact ⟨fun hall => hall hret, fun hunchanged _ => hunchanged⟩

/-- **Power-on is all-or-nothing**, for each of the three functions, exactly where its labels undo
what it did. `dev_pm_opp_set_rate` returns zero or a negative error. -/
theorem power_on_all_or_nothing_iff (env : Env) (core : Core) (hopp : env .ctrlOpp ≤ 0) :
    (AllOrNothing (irisVpuPowerOnController env) core ↔ ControllerUndone env core) ∧
      (AllOrNothing (irisVpuPowerOnHw env) core ↔ HwUndone env core) ∧
      (AllOrNothing (irisVpuPowerOn env) core ↔ PowerOnUndone env core) := by
  have hs := holding_marked core
  exact ⟨(powerOnController_ends hopp hs).leavesController.allOrNothing_iff,
    (powerOnHw_ends env hs).leavesHw.allOrNothing_iff,
    (irisVpuPowerOn_leaves hopp hs).allOrNothing_iff⟩

/-- The clock of the codec is the only one that fails. -/
def noHwClkEnv : Env := fun call => if call = .clkEnable .hw then -eio else 0

/-- The codec is put back, and so is the controller below it. -/
theorem power_on_all_or_nothing_noHwClk :
    (irisVpuPowerOnHw noHwClkEnv sm8150Core.marked).1 = -eio ∧
      (irisVpuPowerOn noHwClkEnv sm8150Core.marked).1 = -eio ∧
      AllOrNothing (irisVpuPowerOnController noHwClkEnv) sm8150Core ∧
      AllOrNothing (irisVpuPowerOnHw noHwClkEnv) sm8150Core ∧
      AllOrNothing (irisVpuPowerOn noHwClkEnv) sm8150Core := by
  have hctrl : ControllerUndone noHwClkEnv sm8150Core := by
    have hdefer : sm8150Core.platformData.deferVcodecPower = true := rfl
    rw [ControllerUndone, if_pos hdefer]
    decide
  have hhw : HwUndone noHwClkEnv sm8150Core := fun _ _ _ => rfl
  have hon : PowerOnUndone noHwClkEnv sm8150Core := fun _ =>
    ⟨hctrl, fun _ _ => ⟨.inl rfl, fun _ => hhw⟩⟩
  obtain ⟨hctrlIff, hhwIff, honIff⟩ :=
    power_on_all_or_nothing_iff noHwClkEnv sm8150Core (by decide)
  exact ⟨by decide, by decide, hctrlIff.2 hctrl, hhwIff.2 hhw, honIff.2 hon⟩

/-- The clock of the second codec is the only one that fails. -/
def noAuxHwClkEnv : Env := fun call => if call = .clkEnable .auxHw then -eio else 0

/-- The label disables the clock that could not be enabled. -/
theorem power_on_hw_overdraws : ¬ AllOrNothing (irisVpuPowerOnHw noAuxHwClkEnv) sm8150Core := by
  have hret : (irisVpuPowerOnHw noAuxHwClkEnv sm8150Core.marked).1 ≠ 0 := by decide
  have hheld : (irisVpuPowerOnHw noAuxHwClkEnv sm8150Core.marked).2.counters.held
      (.clk .vcodec1Core) ≠ sm8150Core.counters.held (.clk .vcodec1Core) := by decide
  exact fun hall => hheld ((hall hret).held _ nofun)

end NabuIris
