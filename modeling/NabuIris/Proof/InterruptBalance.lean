import NabuIris.InterruptLine
import NabuIris.Proof.PowerBalance
import NabuIris.Proof.PowerFrame

/-!
# The depth of the interrupt line

The ledger of a run knows whether the last power-on still stands and counts the `disable_irq` calls
that nothing takes back: that of a power-off which undoes a failed power-on, and that of a handler
which reads a watchdog status only after the power-off has disabled the line. With those the depth
is what the state says it should be, as long as no power-on meets a standing one or overtakes the
handler of a watchdog interrupt.
-/

namespace NabuIris

open Lib

/-! ### What the power calls leave -/

theorem irisVpuPowerOn_outcome (env : Env) (core : Core) :
    (irisVpuPowerOn env core).1 = 0 ∧
        OnlyCounters { core with vpuPowered := true, intrStatus := 0 } (irisVpuPowerOn env core).2 ∨
      (irisVpuPowerOn env core).1 ≠ 0 ∧
        OnlyCounters { core with vpuPowered := true } (irisVpuPowerOn env core).2 := by
  let Outcome (r : Int × Core) : Prop :=
    r.1 = 0 ∧ OnlyCounters { core with vpuPowered := true, intrStatus := 0 } r.2 ∨
      r.1 ≠ 0 ∧ OnlyCounters { core with vpuPowered := true } r.2
  have hhwIf : ∀ (p : Prop) [Decidable p] (c : Core),
      OnlyCounters c (if p then irisVpuPowerOnHw env c else (0, c)).2 := fun p _ c =>
    .ite_snd (onlyCounters_powerOnHw env c) (.refl c)
  have hhwIf' : ∀ (p : Prop) [Decidable p] (c : Core),
      OnlyCounters c (if p then (0, c) else irisVpuPowerOnHw env c).2 := fun p _ c =>
    .ite_snd (.refl c) (onlyCounters_powerOnHw env c)
  have hctrlOff : ∀ {ret : Int} {c : Core}, ret ≠ 0 →
      OnlyCounters { core with vpuPowered := true } c →
      Outcome (ret, irisVpuPowerOffController env c) := fun hret hc =>
    .inr ⟨hret, hc.trans (onlyCounters_powerOffController env _)⟩
  change Outcome (irisVpuPowerOn env core)
  unfold irisVpuPowerOn
  refine orGoto_value_rule (P := Outcome) (fun hret => .inr ⟨hret, .refl _⟩) fun _ => ?_
  have hctrl := onlyCounters_powerOnController env { core with vpuPowered := true }
  refine orGoto_rule (P := Outcome) (fun ret c heq hret => ?_) fun c heq => ?_
  · rw [heq] at hctrl
    exact .inr ⟨hret, hctrl⟩
  rw [heq] at hctrl
  have hhw := hctrl.trans (hhwIf' (core.platformData.deferVcodecPower = true) c)
  refine orGoto_rule (P := Outcome) (fun ret c heq hret => ?_) fun c heq => ?_
  · rw [heq] at hhw
    exact hctrlOff hret hhw
  rw [heq] at hhw
  refine orGoto_value_rule (P := Outcome) (fun hret => hctrlOff hret hhw) fun _ => ?_
  have hhw' := hhw.trans (hhwIf (core.platformData.deferVcodecPower = true) c)
  refine orGoto_rule (P := Outcome) (fun ret c heq hret => ?_) fun c heq => ?_
  · rw [heq] at hhw'
    exact hctrlOff hret hhw'
  · rw [heq] at hhw'
    obtain ⟨counters, rfl⟩ := hhw'
    exact .inl ⟨rfl, _, rfl⟩

theorem irisVpuPowerOff_intrStatus (env : Env) (core : Core) :
    (irisVpuPowerOff env core).intrStatus = core.intrStatus := by
  cases hpowered : core.vpuPowered with
  | false => rw [irisVpuPowerOff_of_not_powered env hpowered]
  | true =>
      have hclear :
          (if core.llccActive then
            { core with vpuPowered := false, llccActive := false, syscacheSet := false }
            else { core with vpuPowered := false }).intrStatus = core.intrStatus := by
        split_ifs <;> rfl
      have honly : ∀ {c c' : Core}, OnlyCounters c c' → c'.intrStatus = c.intrStatus := by
        rintro c c' ⟨counters, rfl⟩
        rfl
      unfold irisVpuPowerOff
      rw [if_neg (by simp [hpowered])]
      refine (honly (.ite (.refl _) (.release _ _))).trans ?_
      refine (honly (onlyCounters_opsPowerOffController _ env _)).trans ?_
      exact (honly (onlyCounters_powerOffHw env _)).trans hclear

theorem irisVpuPowerOff_watchdog (env : Env) (core : Core) :
    (irisVpuPowerOff env core).watchdog = core.watchdog := by
  rw [Core.watchdog, irisVpuPowerOff_intrStatus, (irisVpuPowerOff_frame env core).1.platformData,
    Core.watchdog]

theorem irisVpuPowerOn_watchdog {env : Env} {core : Core}
    (hret : (irisVpuPowerOn env core).1 = 0) : (irisVpuPowerOn env core).2.watchdog = false := by
  rcases irisVpuPowerOn_outcome env core with ⟨-, counters, hon⟩ | ⟨hne, -⟩
  · rw [Core.watchdog, hon]
    exact irisVpuWatchdog_zero _
  · exact absurd hret hne

theorem irisVpuPowerOn_watchdog_failed {env : Env} {core : Core}
    (hret : (irisVpuPowerOn env core).1 ≠ 0) :
    (irisVpuPowerOn env core).2.watchdog = core.watchdog := by
  rcases irisVpuPowerOn_outcome env core with ⟨hzero, -⟩ | ⟨-, counters, hon⟩
  · exact absurd hzero hret
  · rw [Core.watchdog, hon]
    rfl

theorem CoreChange.watchdog (section_ : CoreChange) (core : Core) :
    (section_.change core).watchdog = core.watchdog := by
  rw [Core.watchdog, section_.platformData, section_.intrStatus, Core.watchdog]

/-- Only the status changes, and no bit of it is cleared. -/
theorem irisVpuClearInterrupt_cases (status : UInt32) (core : Core) :
    ∃ intrStatus, irisVpuClearInterrupt status core = { core with intrStatus } ∧
      ∀ mask, core.intrStatus &&& mask ≠ 0 → intrStatus &&& mask ≠ 0 := by
  unfold irisVpuClearInterrupt
  split_ifs
  · refine ⟨core.intrStatus ||| status, rfl, fun mask hset hzero => hset ?_⟩
    rw [← UInt32.toBitVec_inj, UInt32.toBitVec_and, UInt32.toBitVec_or,
      BitVec.and_or_distrib_right] at hzero
    rw [← UInt32.toBitVec_inj, UInt32.toBitVec_and]
    exact (BitVec.or_eq_zero_iff.1 hzero).1
  · exact ⟨core.intrStatus, rfl, fun mask hset => hset⟩

theorem irisVpuClearInterrupt_watchdog {status : UInt32} {core : Core}
    (hwatchdog : core.watchdog = true) : (irisVpuClearInterrupt status core).watchdog = true := by
  obtain ⟨intrStatus, hclear, hkeeps⟩ := irisVpuClearInterrupt_cases status core
  rw [hclear]
  exact decide_eq_true (hkeeps _ (of_decide_eq_true hwatchdog))

theorem irisVpuClearInterrupt_vpuPowered (status : UInt32) (core : Core) :
    (irisVpuClearInterrupt status core).vpuPowered = core.vpuPowered := by
  obtain ⟨intrStatus, hclear, -⟩ := irisVpuClearInterrupt_cases status core
  rw [hclear]

/-! ### The ledger -/

structure LineLedger where
  line : InterruptLine
  /-- the last power-on succeeded and no power-off has followed -/
  up : Bool
  /-- `disable_irq` calls that nothing takes back -/
  stray : Nat

/-- The disables that something will take back. -/
def disablesOwed (up watchdog underway : Bool) : Nat :=
  if watchdog then 1 else (!up).toNat + underway.toNat

namespace LineLedger

def probed (core : Core) : LineLedger where
  line := .probed core
  up := false
  stray := 0

def apply (ledger : LineLedger) (op : LineOp) : LineLedger :=
  let line := ledger.line.apply op
  let core := ledger.line.core
  match op with
  | .powerOn env => { ledger with line, up := (irisVpuPowerOn env core).1 == 0 }
  | .powerOff _ =>
      let undone := core.vpuPowered && !ledger.up && !core.watchdog
      { line, up := false, stray := ledger.stray + undone.toNat }
  | .threadClear _ =>
      let late := !ledger.up && !core.watchdog && line.core.watchdog
      { ledger with line, stray := ledger.stray + late.toNat }
  | _ => { ledger with line }

def after (ledger : LineLedger) (ops : List LineOp) : LineLedger := ops.foldl apply ledger

/-- A power-on finds the last one undone and no handler of a watchdog interrupt under way. -/
def Orderly (ledger : LineLedger) : LineOp → Prop
  | .powerOn _ =>
      ledger.up = false ∧ (ledger.line.core.watchdog = true → ledger.line.underway = false)
  | _ => True

structure Settled (ledger : LineLedger) : Prop where
  depth : ledger.line.depth =
    ledger.stray + disablesOwed ledger.up ledger.line.core.watchdog ledger.line.underway
  balanced : ledger.line.unbalanced = 0
  single : ledger.line.woken = true → ledger.line.thread = .idle
  enabling : ledger.line.thread = .enabling → ledger.line.core.watchdog = false
  powered : ledger.up = true → ledger.line.core.vpuPowered = true

variable {ledger : LineLedger}

theorem settled_probed {core : Core} (hintr : core.intrStatus = 0) : (probed core).Settled where
  depth := by
    have hwatchdog : core.watchdog = false := by
      rw [Core.watchdog, hintr]
      exact irisVpuWatchdog_zero _
    simp [probed, disablesOwed, InterruptLine.probed, InterruptLine.underway, hwatchdog]
  balanced := rfl
  single := fun _ => rfl
  enabling := fun h => by simp [probed, InterruptLine.probed] at h
  powered := fun h => absurd h Bool.false_ne_true

/-! ### One step -/

theorem Settled.powerOn (hsettled : ledger.Settled) {env : Env}
    (horderly : ledger.Orderly (.powerOn env)) : (ledger.apply (.powerOn env)).Settled := by
  obtain ⟨hup, hunder⟩ := horderly
  have hdepth := hsettled.depth
  have hpowered := (irisVpuPowerOn_frame env ledger.line.core).2
  by_cases hret : (irisVpuPowerOn env ledger.line.core).1 = 0
  · have hwatchdog := irisVpuPowerOn_watchdog hret
    have hpositive : ledger.line.depth ≠ 0 := by
      rw [hdepth, hup, disablesOwed]
      split_ifs <;> simp
    have hafter : ledger.apply (.powerOn env) =
        { ledger with
          line := { ledger.line with
            core := (irisVpuPowerOn env ledger.line.core).2, depth := ledger.line.depth - 1 }
          up := true } := by
      simp [apply, InterruptLine.apply, InterruptLine.powerOn, hret, InterruptLine.enableIrq,
        hpositive]
    rw [hafter]
    refine ⟨?_, hsettled.balanced, hsettled.single, fun _ => hwatchdog, fun _ => hpowered⟩
    change ledger.line.depth - 1 = ledger.stray +
      disablesOwed true (irisVpuPowerOn env ledger.line.core).2.watchdog ledger.line.underway
    rw [hdepth, hup, hwatchdog]
    cases hold : ledger.line.core.watchdog with
    | false => simp [disablesOwed]; omega
    | true => simp [disablesOwed, hunder hold]
  · have hafter : ledger.apply (.powerOn env) =
        { ledger with line := { ledger.line with core := (irisVpuPowerOn env ledger.line.core).2 }
                      up := false } := by
      simp [apply, InterruptLine.apply, InterruptLine.powerOn, hret]
    have hwatchdog := irisVpuPowerOn_watchdog_failed hret
    rw [hafter]
    refine ⟨?_, hsettled.balanced, hsettled.single, fun h => hwatchdog.trans (hsettled.enabling h),
      fun h => absurd h Bool.false_ne_true⟩
    change ledger.line.depth = ledger.stray +
      disablesOwed false (irisVpuPowerOn env ledger.line.core).2.watchdog ledger.line.underway
    rw [hdepth, hup, hwatchdog]

theorem Settled.powerOff (hsettled : ledger.Settled) (env : Env) :
    (ledger.apply (.powerOff env)).Settled := by
  have hdepth := hsettled.depth
  have hwatchdog := irisVpuPowerOff_watchdog env ledger.line.core
  cases hpowered : ledger.line.core.vpuPowered with
  | false =>
      have hup : ledger.up = false := by
        by_contra hne
        exact Bool.false_ne_true (hpowered.symm.trans (hsettled.powered (by simpa using hne)))
      have hafter : ledger.apply (.powerOff env) = ledger := by
        obtain ⟨line, up, stray⟩ := ledger
        obtain rfl : up = false := hup
        simp_all [apply, InterruptLine.apply, InterruptLine.powerOff]
      rw [hafter]
      exact hsettled
  | true =>
      cases hold : ledger.line.core.watchdog with
      | true =>
          have hafter : ledger.apply (.powerOff env) =
              { ledger with
                line := { ledger.line with core := irisVpuPowerOff env ledger.line.core }
                up := false } := by
            simp [apply, InterruptLine.apply, InterruptLine.powerOff, hpowered, hold, hwatchdog]
          rw [hafter]
          refine ⟨?_, hsettled.balanced, hsettled.single,
            fun h => hwatchdog.trans (hsettled.enabling h), fun h => absurd h Bool.false_ne_true⟩
          change ledger.line.depth = ledger.stray +
            disablesOwed false (irisVpuPowerOff env ledger.line.core).watchdog
              ledger.line.underway
          rw [hdepth, hwatchdog, hold]
          rfl
      | false =>
          have hafter : ledger.apply (.powerOff env) =
              { line := { ledger.line with
                  core := irisVpuPowerOff env ledger.line.core
                  depth := ledger.line.depth + 1 }
                up := false
                stray := ledger.stray + (!ledger.up).toNat } := by
            simp [apply, InterruptLine.apply, InterruptLine.powerOff, hpowered, hold, hwatchdog,
              InterruptLine.disableIrqNosync]
          rw [hafter]
          refine ⟨?_, hsettled.balanced, hsettled.single,
            fun h => hwatchdog.trans (hsettled.enabling h), fun h => absurd h Bool.false_ne_true⟩
          change ledger.line.depth + 1 = ledger.stray + (!ledger.up).toNat +
            disablesOwed false (irisVpuPowerOff env ledger.line.core).watchdog
              ledger.line.underway
          rw [hdepth, hwatchdog, hold]
          simp [disablesOwed]
          omega

theorem Settled.other (hsettled : ledger.Settled) (section_ : CoreChange) :
    (ledger.apply (.other section_)).Settled where
  depth := by
    have hwatchdog := section_.watchdog ledger.line.core
    change ledger.line.depth = ledger.stray +
      disablesOwed ledger.up (section_.change ledger.line.core).watchdog ledger.line.underway
    rw [hwatchdog]
    exact hsettled.depth
  balanced := hsettled.balanced
  single := hsettled.single
  enabling := fun h => (section_.watchdog _).trans (hsettled.enabling h)
  powered := fun h => (section_.vpuPowered _).trans (hsettled.powered h)

/-- An interrupt comes in only while the VPU is up and nothing holds the line. -/
theorem Settled.depth_eq_zero_iff (hsettled : ledger.Settled) :
    ledger.line.depth = 0 ↔ ledger.up = true ∧ ledger.line.core.watchdog = false ∧
      ledger.line.underway = false ∧ ledger.stray = 0 := by
  rw [hsettled.depth, disablesOwed]
  cases ledger.up <;> cases ledger.line.core.watchdog <;> cases ledger.line.underway <;> simp

theorem Settled.interrupt (hsettled : ledger.Settled) (status : UInt32) :
    (ledger.apply (.interrupt status)).Settled := by
  by_cases hzero : ledger.line.depth = 0
  · obtain ⟨hup, -, hidle, hstray⟩ := hsettled.depth_eq_zero_iff.1 hzero
    have hthread : ledger.line.thread = .idle := by
      simp only [InterruptLine.underway, Bool.or_eq_false_iff, bne_eq_false_iff_eq] at hidle
      exact hidle.2
    have hafter : ledger.apply (.interrupt status) =
        { ledger with line := ledger.line.irisHfiIsr status } := by
      simp [apply, InterruptLine.apply, hzero]
    rw [hafter]
    refine ⟨?_, hsettled.balanced, fun _ => hthread, fun h => ?_, fun _ => ?_⟩
    · change ledger.line.depth + 1 = ledger.stray + disablesOwed ledger.up _ true
      rw [hzero, hstray, hup, disablesOwed]
      split_ifs <;> rfl
    · exact absurd (hthread.symm.trans h) (by simp)
    · change (if _ then _ else _ : Core).vpuPowered = true
      split_ifs
      · exact (irisVpuClearInterrupt_vpuPowered _ _).trans (hsettled.powered hup)
      · exact hsettled.powered hup
  · have hafter : ledger.apply (.interrupt status) = ledger := by
      simp [apply, InterruptLine.apply, hzero]
    rw [hafter]
    exact hsettled

theorem Settled.threadStart (hsettled : ledger.Settled) : (ledger.apply .threadStart).Settled := by
  by_cases hstart : ledger.line.woken = true ∧ ledger.line.thread = .idle
  · have hafter : ledger.apply .threadStart =
        { ledger with line := { ledger.line with woken := false, thread := .entered } } := by
      simp [apply, InterruptLine.apply, hstart]
    rw [hafter]
    refine ⟨?_, hsettled.balanced, fun h => absurd h Bool.false_ne_true, fun h => ?_,
      hsettled.powered⟩
    · have hunder : ledger.line.underway = true := by simp [InterruptLine.underway, hstart]
      have hdepth := hsettled.depth
      rw [hunder] at hdepth
      exact hdepth
    · exact absurd h (by simp)
  · have hafter : ledger.apply .threadStart = ledger := by
      simp only [apply, InterruptLine.apply, if_neg hstart]
    rw [hafter]
    exact hsettled

theorem Settled.threadClear (hsettled : ledger.Settled) (status : UInt32) :
    (ledger.apply (.threadClear status)).Settled := by
  by_cases hentered : ledger.line.thread = .entered
  · have hunder : ledger.line.underway = true := by simp [InterruptLine.underway, hentered]
    have hdepth := hsettled.depth
    rw [hunder] at hdepth
    set core := (ledger.line.isrClear status).core with hcore
    have hkeeps : ledger.line.core.watchdog = true → core.watchdog = true := by
      intro hwatchdog
      rw [hcore]
      change (if _ then _ else _ : Core).watchdog = true
      split_ifs
      · exact hwatchdog
      · exact irisVpuClearInterrupt_watchdog hwatchdog
    have hpowered : core.vpuPowered = ledger.line.core.vpuPowered := by
      rw [hcore]
      change (if _ then _ else _ : Core).vpuPowered = _
      split_ifs
      · rfl
      · exact irisVpuClearInterrupt_vpuPowered _ _
    have hafter : ledger.apply (.threadClear status) =
        { ledger with
          line := ledger.line.isrClear status
          stray := ledger.stray +
            (!ledger.up && !ledger.line.core.watchdog && core.watchdog).toNat } := by
      simp [apply, InterruptLine.apply, hentered, hcore]
    rw [hafter]
    refine ⟨?_, hsettled.balanced, fun h => ?_, fun h => ?_,
      fun h => hpowered.trans (hsettled.powered h)⟩
    · change ledger.line.depth = ledger.stray + _ +
        disablesOwed ledger.up core.watchdog (ledger.line.woken || true)
      rw [hdepth, Bool.or_true]
      cases hold : ledger.line.core.watchdog with
      | true => simp [disablesOwed, hkeeps hold]
      | false => cases ledger.up <;> cases core.watchdog <;> simp [disablesOwed]
    · have hidle := hsettled.single h
      exact absurd (hidle.symm.trans hentered) (by simp)
    · exact absurd h (by simp [InterruptLine.isrClear])
  · have hafter : ledger.apply (.threadClear status) = ledger := by
      obtain ⟨line, up, stray⟩ := ledger
      simp_all [apply, InterruptLine.apply]
    rw [hafter]
    exact hsettled

theorem Settled.threadCheck (hsettled : ledger.Settled) : (ledger.apply .threadCheck).Settled := by
  by_cases hcleared : ledger.line.thread = .cleared
  · have hunder : ledger.line.underway = true := by simp [InterruptLine.underway, hcleared]
    have hdepth := hsettled.depth
    rw [hunder] at hdepth
    have hasleep : ledger.line.woken = false := by
      by_contra hne
      have hidle := hsettled.single (by simpa using hne)
      exact absurd (hidle.symm.trans hcleared) (by simp)
    have hafter : ledger.apply .threadCheck = { ledger with line := ledger.line.isrCheck } := by
      simp [apply, InterruptLine.apply, hcleared]
    rw [hafter]
    refine ⟨?_, hsettled.balanced, fun h => ?_, fun h => ?_, hsettled.powered⟩
    · change ledger.line.depth = ledger.stray + disablesOwed ledger.up ledger.line.core.watchdog _
      rw [hdepth]
      cases hwatchdog : ledger.line.core.watchdog with
      | true => rfl
      | false =>
          have hstill : ledger.line.isrCheck.underway = true := by
            simp only [InterruptLine.underway, InterruptLine.isrCheck, hwatchdog, hasleep]
            rfl
          rw [hstill]
    · exact absurd (hasleep.symm.trans h) Bool.false_ne_true
    · by_contra hne
      have hwatchdog : ledger.line.core.watchdog = true := Bool.eq_true_of_not_eq_false hne
      simp [InterruptLine.isrCheck, hwatchdog] at h
  · have hafter : ledger.apply .threadCheck = ledger := by
      simp only [apply, InterruptLine.apply, if_neg hcleared]
    rw [hafter]
    exact hsettled

theorem Settled.threadEnable (hsettled : ledger.Settled) :
    (ledger.apply .threadEnable).Settled := by
  by_cases henabling : ledger.line.thread = .enabling
  · have hunder : ledger.line.underway = true := by simp [InterruptLine.underway, henabling]
    have hwatchdog := hsettled.enabling henabling
    have hdepth : ledger.line.depth = ledger.stray + ((!ledger.up).toNat + 1) := by
      have hdepth := hsettled.depth
      rwa [hunder, hwatchdog] at hdepth
    have hasleep : ledger.line.woken = false := by
      by_contra hne
      have hidle := hsettled.single (by simpa using hne)
      exact absurd (hidle.symm.trans henabling) (by simp)
    have hafter : ledger.apply .threadEnable =
        { ledger with
          line := { ledger.line with thread := .idle, depth := ledger.line.depth - 1 } } := by
      have hpositive : ledger.line.depth ≠ 0 := by omega
      simp [apply, InterruptLine.apply, henabling, InterruptLine.enableIrq, hpositive]
    rw [hafter]
    refine ⟨?_, hsettled.balanced, fun _ => rfl, fun _ => hwatchdog, hsettled.powered⟩
    change ledger.line.depth - 1 = ledger.stray +
      disablesOwed ledger.up ledger.line.core.watchdog (ledger.line.woken || false)
    rw [hdepth, hwatchdog, hasleep]
    simp [disablesOwed]
  · have hafter : ledger.apply .threadEnable = ledger := by
      simp only [apply, InterruptLine.apply, if_neg henabling]
    rw [hafter]
    exact hsettled

theorem Settled.apply (hsettled : ledger.Settled) {op : LineOp} (horderly : ledger.Orderly op) :
    (ledger.apply op).Settled := by
  cases op with
  | powerOn env => exact hsettled.powerOn horderly
  | powerOff env => exact hsettled.powerOff env
  | other section_ => exact hsettled.other section_
  | interrupt status => exact hsettled.interrupt status
  | threadStart => exact hsettled.threadStart
  | threadClear status => exact hsettled.threadClear status
  | threadCheck => exact hsettled.threadCheck
  | threadEnable => exact hsettled.threadEnable

/-! ### Runs -/

variable {ops : List LineOp}

theorem line_apply (ledger : LineLedger) (op : LineOp) :
    (ledger.apply op).line = ledger.line.apply op := by
  cases op <;> rfl

theorem line_after (ledger : LineLedger) (ops : List LineOp) :
    (ledger.after ops).line = ledger.line.after ops := by
  induction ops generalizing ledger with
  | nil => rfl
  | cons op rest ih =>
      have hrest := ih (ledger.apply op)
      rw [line_apply] at hrest
      exact hrest

theorem stray_le_apply (ledger : LineLedger) (op : LineOp) :
    ledger.stray ≤ (ledger.apply op).stray := by
  cases op <;> first | exact Nat.le_refl _ | exact Nat.le_add_right _ _

theorem stray_le_after (ledger : LineLedger) (ops : List LineOp) :
    ledger.stray ≤ (ledger.after ops).stray := by
  induction ops generalizing ledger with
  | nil => exact Nat.le_refl _
  | cons op rest ih => exact (stray_le_apply ledger op).trans (ih _)

theorem Settled.after (hsettled : ledger.Settled)
    (horderly : ∀ pre op, pre ++ [op] <+: ops → (ledger.after pre).Orderly op) :
    (ledger.after ops).Settled :=
  foldl_invariant (fun _ _ _ hsettled horderly => hsettled.apply horderly) hsettled
    fun pre op hpre _ => horderly pre op hpre

end LineLedger

/-! ### What the driver does is such a run -/

/-- No step of a handler. -/
def LineOp.OfDriver : LineOp → Prop
  | .powerOn _ | .powerOff _ | .other _ => True
  | _ => False

/-- Steps of the driver take the one core to the other. -/
def Drives (core core' : Core) : Prop :=
  ∃ ops : List LineOp, (∀ op ∈ ops, op.OfDriver) ∧
    ∀ line : InterruptLine, line.core = core → (line.after ops).core = core'

namespace Drives

variable {core core' core'' : Core}

theorem refl (core : Core) : Drives core core := by
  refine ⟨[], fun op hop => absurd hop List.not_mem_nil, fun line hline => ?_⟩
  exact hline

theorem trans (hfirst : Drives core core') (hsecond : Drives core' core'') :
    Drives core core'' := by
  obtain ⟨ops, hops, hafter⟩ := hfirst
  obtain ⟨ops', hops', hafter'⟩ := hsecond
  refine ⟨ops ++ ops', fun op hop => ?_, fun line hline => ?_⟩
  · exact (List.mem_append.1 hop).elim (hops op) (hops' op)
  · rw [InterruptLine.after, List.foldl_append]
    exact hafter' _ (hafter line hline)

theorem single (op : LineOp) (hop : op.OfDriver)
    (hafter : ∀ line : InterruptLine, line.core = core → (line.apply op).core = core') :
    Drives core core' := by
  refine ⟨[op], fun op' hop' => ?_, hafter⟩
  rw [List.mem_singleton.1 hop']
  exact hop

theorem powerOn (env : Env) (core : Core) : Drives core (irisVpuPowerOn env core).2 := by
  refine single (.powerOn env) trivial ?_
  rintro line rfl
  simp only [InterruptLine.apply, InterruptLine.powerOn, InterruptLine.enableIrq]
  split_ifs <;> rfl

theorem powerOff (env : Env) (core : Core) : Drives core (irisVpuPowerOff env core) := by
  refine single (.powerOff env) trivial ?_
  rintro line rfl
  cases hpowered : line.core.vpuPowered with
  | false =>
      rw [irisVpuPowerOff_of_not_powered env hpowered]
      simp [InterruptLine.apply, InterruptLine.powerOff, hpowered]
  | true =>
      simp only [InterruptLine.apply, InterruptLine.powerOff, hpowered,
        InterruptLine.disableIrqNosync, Bool.not_true, Bool.false_eq_true, if_false]
      split_ifs <;> rfl

theorem change {f : Core → Core} (hsame : ∀ core, SamePower core (f core)) (core : Core) :
    Drives core (f core) := by
  refine single (.other ⟨f, fun c => (hsame c).platformData, fun c => (hsame c).vpuPowered,
    fun c => (hsame c).intrStatus⟩) trivial ?_
  rintro line rfl
  rfl

theorem ofResult {f : Core → Int × Core} {ret : Int} (heq : f core = (ret, core'))
    (hdrives : Drives core (f core).2) : Drives core core' := by
  rwa [heq] at hdrives

theorem queuesInit {env : Env} {ret : Int} (heq : irisHfiQueuesInit env core = (ret, core')) :
    Drives core core' :=
  ofResult heq (change (f := fun c => (irisHfiQueuesInit env c).2)
    (SamePower.irisHfiQueuesInit env) core)

theorem fwLoad {env : Env} {ret : Int} (heq : irisFwLoad env core = (ret, core')) :
    Drives core core' :=
  ofResult heq (change (f := fun c => (irisFwLoad env c).2) (SamePower.irisFwLoad env) core)

theorem queuesDeinit (core : Core) : Drives core (irisHfiQueuesDeinit core) :=
  change SamePower.irisHfiQueuesDeinit core

theorem initialising (core : Core) : Drives core core.initialising :=
  change (f := Core.initialising) (fun _ => ⟨rfl, rfl, rfl, rfl, rfl⟩) core

theorem deinitialised (core : Core) : Drives core core.deinitialised :=
  change (f := Core.deinitialised) (fun _ => ⟨rfl, rfl, rfl, rfl, rfl⟩) core

theorem fwUnload (core : Core) : Drives core (irisFwUnload core) :=
  change (f := irisFwUnload) (fun _ => ⟨rfl, rfl, rfl, rfl, rfl⟩) core

theorem setSuspended (suspended : Bool) (core : Core) :
    Drives core { core with vpuSuspended := suspended } :=
  change (f := fun c => { c with vpuSuspended := suspended }) (fun _ => ⟨rfl, rfl, rfl, rfl, rfl⟩)
    core

theorem coreInitSection (env : Env) (core : Core) :
    Drives core (irisCoreInitSection env core).2 := by
  have hspec := irisCoreInitSection_spec env core
  generalize irisCoreInitSection env core = result at hspec
  have hgiveUp : ∀ {c : Core}, Drives core c →
      Drives core (irisHfiQueuesDeinit c).deinitialised := fun {c} hc =>
    (hc.trans (queuesDeinit c)).trans (deinitialised _)
  cases hspec with
  | already _ => exact refl core
  | refused _ => exact deinitialised core
  | noQueues _ hqueues _ =>
      exact ((initialising core).trans (queuesInit hqueues)).trans (deinitialised _)
  | noPower _ hqueues hpower _ =>
      exact hgiveUp (((initialising core).trans (queuesInit hqueues)).trans
        (ofResult hpower (powerOn env _)))
  | noFirmware _ hqueues hpower hload _ =>
      exact hgiveUp (((((initialising core).trans (queuesInit hqueues)).trans
        (ofResult hpower (powerOn env _))).trans (fwLoad hload)).trans (powerOff env _))
  | noBoot _ hqueues hpower hload _ _ =>
      exact hgiveUp ((((((initialising core).trans (queuesInit hqueues)).trans
        (ofResult hpower (powerOn env _))).trans (fwLoad hload)).trans (fwUnload _)).trans
          (powerOff env _))
  | booted _ hqueues hpower hload _ _ _ =>
      exact (((initialising core).trans (queuesInit hqueues)).trans
        (ofResult hpower (powerOn env _))).trans (fwLoad hload)

theorem coreInit (env : Env) (core : Core) : Drives core (irisCoreInit env core).2 := by
  have hsection := coreInitSection env core
  unfold irisCoreInit
  split
  · next heq => rwa [heq] at hsection
  · next heq =>
      rw [heq] at hsection
      exact hsection.trans (change (f := fun c => (irisWaitForSystemResponse env c).2)
        (SamePower.irisWaitForSystemResponse env) _)

theorem coreDeinit (env : Env) (core : Core) : Drives core (irisCoreDeinit env core) := by
  unfold irisCoreDeinit
  split_ifs
  · exact refl core
  · have hoff := (fwUnload core).trans (powerOff env _)
    exact (hoff.trans (queuesDeinit _)).trans
      (change (f := fun c => { c with vpuSuspended := false, state := .deinit })
        (fun _ => ⟨rfl, rfl, rfl, rfl, rfl⟩) _)

theorem pcEnter (env : Env) (core : Core) : Drives core (irisPcEnter env core).2 := by
  unfold irisPcEnter
  split_ifs
  · exact refl core
  · exact refl core
  · exact (powerOff env core).trans (setSuspended true _)

theorem resumeFromCollapse (env : Env) (core : Core) :
    Drives core (irisResumeFromCollapse env core).2 := by
  have hspec := irisResumeFromCollapse_spec env core
  generalize irisResumeFromCollapse env core = result at hspec
  cases hspec with
  | noPower hpower _ => exact ofResult hpower (powerOn env core)
  | noBoot hpower _ => exact (ofResult hpower (powerOn env core)).trans (powerOff env _)
  | resumed hpower _ => exact (ofResult hpower (powerOn env core)).trans (setSuspended false _)

theorem pmSuspend (env : Env) (core : Core) : Drives core (irisPmSuspend env core).2 := by
  unfold irisPmSuspend irisHfiPmSuspend
  split_ifs <;> first
    | exact refl core
    | exact (powerOff env core).trans (setSuspended true _)

/-- Every call that power control takes part in is a run of the driver's steps. -/
theorem powerOp (op : PowerOp) (core : Core) : Drives core (op.apply core) := by
  cases op with
  | powerOn env => exact powerOn env core
  | powerOff env => exact powerOff env core
  | coreInit env => exact coreInit env core
  | coreDeinit env => exact coreDeinit env core
  | coreRecover deinitEnv initEnv => exact (coreDeinit deinitEnv core).trans (coreInit initEnv _)
  | pcEnter env => exact pcEnter env core
  | pcExit env =>
      change Drives core (irisPcExit env core).2
      unfold irisPcExit
      split_ifs
      · exact refl core
      · exact resumeFromCollapse env core
  | pmSuspend env => exact pmSuspend env core
  | pmResume env =>
      change Drives core (irisPmResume env core).2
      unfold irisPmResume irisHfiPmResume
      split_ifs
      · exact refl core
      · exact refl core
      · exact resumeFromCollapse env core
  | fatalError =>
      exact change (f := PowerOp.fatalError.apply) (fun _ => ⟨rfl, rfl, rfl, rfl, rfl⟩) core
  | setInstances n =>
      exact change (f := (PowerOp.setInstances n).apply) (fun _ => ⟨rfl, rfl, rfl, rfl, rfl⟩) core

theorem powerOps (calls : List PowerOp) (core : Core) :
    Drives core (calls.foldl (fun core op => op.apply core) core) := by
  induction calls generalizing core with
  | nil => exact refl core
  | cons op rest ih => exact (powerOp op core).trans (ih _)

end Drives

open LineLedger in
/-- **The interrupt line follows the power.** No `enable_irq` is out of balance, and an interrupt
comes in exactly while a power-on stands, no watchdog has been seen since, no handler is under way
and no disable has gone astray; one that has gone astray holds the line for good. The calls that
power control takes part in are such steps, wherever they come. -/
theorem interrupt_line_follows_power {core : Core} (hintr : core.intrStatus = 0)
    {ops : List LineOp}
    (horderly : ∀ pre op, pre ++ [op] <+: ops → ((probed core).after pre).Orderly op) :
    let line := (InterruptLine.probed core).after ops
    let ledger := (probed core).after ops
    line.unbalanced = 0 ∧
      (line.depth = 0 ↔ ledger.up = true ∧ line.core.watchdog = false ∧
        line.underway = false ∧ ledger.stray = 0) ∧
      (∀ pre, pre <+: ops → ((probed core).after pre).stray ≠ 0 → line.depth ≠ 0) ∧
      ∀ calls : List PowerOp,
        Drives line.core (calls.foldl (fun core op => op.apply core) line.core) := by
  intro line ledger
  have hline : ledger.line = line := line_after (probed core) ops
  have hsettled : ledger.Settled := (settled_probed hintr).after horderly
  rw [← hline]
  refine ⟨hsettled.balanced, hsettled.depth_eq_zero_iff, ?_, fun calls => .powerOps calls _⟩
  rintro pre ⟨rest, rfl⟩ hstray hzero
  have hnone : ledger.stray = 0 := (hsettled.depth_eq_zero_iff.1 hzero).2.2.2
  have hgrows := stray_le_after ((probed core).after pre) rest
  have hsplit : ((probed core).after pre).after rest = ledger := List.foldl_append.symm
  rw [hsplit, hnone] at hgrows
  exact hstray (Nat.le_zero.1 hgrows)

theorem interrupt_line_follows_power_taken :
    let ops : List LineOp := [.powerOn okEnv, .interrupt 0x4]
    let line := (InterruptLine.probed sm8150Core).after ops
    let ledger := (LineLedger.probed sm8150Core).after ops
    line.unbalanced = 0 ∧
      (line.depth = 0 ↔ ledger.up = true ∧ line.core.watchdog = false ∧
        line.underway = false ∧ ledger.stray = 0) ∧
      (∀ pre, pre <+: ops → ((LineLedger.probed sm8150Core).after pre).stray ≠ 0 →
        line.depth ≠ 0) ∧
      ∀ calls : List PowerOp,
        Drives line.core (calls.foldl (fun core op => op.apply core) line.core) := by
  refine interrupt_line_follows_power rfl ?_
  rw [snoc_prefixes_iff (P := fun pre op => ((LineLedger.probed sm8150Core).after pre).Orderly op)]
  intro i hi
  have hcases : i = 0 ∨ i = 1 := by
    have hlt : i < 2 := hi
    omega
  rcases hcases with rfl | rfl
  · exact ⟨rfl, fun _ => rfl⟩
  · trivial

end NabuIris
