import NabuIris.Lifecycle

/-!
# What bring-up and resume can do

One inversion for each function with error labels: the ways it can end, each with the calls that
were made and the state they leave. The invariants of the core are read off these.
-/

namespace NabuIris

open Lib

/-- The state in which `iris_core_init` starts to allocate. -/
def Core.initialising (core : Core) : Core := { core with state := .init }

/-- The label `error`. -/
def Core.deinitialised (core : Core) : Core := { core with state := .deinit }

/-- A call between the power-on and the end of bring-up fails. -/
def FirmwareFails (legacyVpu5 : Bool) (env : Env) : Prop :=
  env .loadFwToMemory ≠ 0 ∨ env .memProtect ≠ 0 ∨
    (legacyVpu5 = true ∧ env .hwStateResume ≠ 0) ∨ env .bootFirmware ≠ 0 ∨ env .hfiCoreInit ≠ 0

/-- A call between the power-on and the end of a resume fails. -/
def ResumeFails (legacyVpu5 : Bool) (env : Env) : Prop :=
  env .hwStateResume ≠ 0 ∨ env .bootFirmware ≠ 0 ∨
    (legacyVpu5 = false ∧ env .interframePowercollapse ≠ 0)

/-- The ways the locked section of `iris_core_init` ends. -/
inductive InitSection (env : Env) (core : Core) : Option Int × Core → Prop
  | already : core.state = .init → InitSection env core (some 0, core)
  | refused : core.state = .error → InitSection env core (some (-einval), core.deinitialised)
  | noQueues {ret : Int} {core₁ : Core} :
      core.state = .deinit → irisHfiQueuesInit env core.initialising = (ret, core₁) → ret ≠ 0 →
      InitSection env core (some ret, core₁.deinitialised)
  | noPower {ret : Int} {core₁ core₂ : Core} :
      core.state = .deinit → irisHfiQueuesInit env core.initialising = (0, core₁) →
      irisVpuPowerOn env core₁ = (ret, core₂) → ret ≠ 0 →
      InitSection env core (some ret, (irisHfiQueuesDeinit core₂).deinitialised)
  | noFirmware {ret : Int} {core₁ core₂ core₃ : Core} :
      core.state = .deinit → irisHfiQueuesInit env core.initialising = (0, core₁) →
      irisVpuPowerOn env core₁ = (0, core₂) → irisFwLoad env core₂ = (ret, core₃) → ret ≠ 0 →
      InitSection env core
        (some ret, (irisHfiQueuesDeinit (irisVpuPowerOff env core₃)).deinitialised)
  | noBoot {ret : Int} {core₁ core₂ core₃ : Core} :
      core.state = .deinit → irisHfiQueuesInit env core.initialising = (0, core₁) →
      irisVpuPowerOn env core₁ = (0, core₂) → irisFwLoad env core₂ = (0, core₃) → ret ≠ 0 →
      FirmwareFails core₃.platformData.legacyVpu5 env →
      InitSection env core (some ret,
        (irisHfiQueuesDeinit (irisVpuPowerOff env (irisFwUnload core₃))).deinitialised)
  | booted {core₁ core₂ core₃ : Core} :
      core.state = .deinit → irisHfiQueuesInit env core.initialising = (0, core₁) →
      irisVpuPowerOn env core₁ = (0, core₂) → irisFwLoad env core₂ = (0, core₃) →
      (core₃.platformData.legacyVpu5 = true → env .hwStateResume = 0) → env .bootFirmware = 0 →
      env .hfiCoreInit = 0 → InitSection env core (none, core₃)

theorem irisCoreInitSection_spec (env : Env) (core : Core) :
    InitSection env core (irisCoreInitSection env core) := by
  cases hstate : core.state with
  | init =>
      simp only [irisCoreInitSection, hstate, if_true]
      exact .already hstate
  | error =>
      simp only [irisCoreInitSection, hstate, if_true]
      exact .refused hstate
  | deinit =>
      simp only [irisCoreInitSection, hstate, reduceCtorEq, if_false]
      refine orGoto_rule (fun ret core₁ hqueues hret => .noQueues hstate hqueues hret)
        fun core₁ hqueues => ?_
      refine orGoto_rule (fun ret core₂ hpower hret => .noPower hstate hqueues hpower hret)
        fun core₂ hpower => ?_
      refine orGoto_rule
        (fun ret core₃ hload hret => .noFirmware hstate hqueues hpower hload hret)
        fun core₃ hload => ?_
      have hnoBoot : ∀ {ret : Int}, ret ≠ 0 → FirmwareFails core₃.platformData.legacyVpu5 env →
          InitSection env core (some ret,
            (irisHfiQueuesDeinit (irisVpuPowerOff env (irisFwUnload core₃))).deinitialised) :=
        fun hret hfails => .noBoot hstate hqueues hpower hload hret hfails
      refine orGoto_value_rule (fun hret => hnoBoot hret (.inr (.inr (.inl ?_)))) fun hresume => ?_
      · split_ifs at hret with hlegacy
        · exact ⟨hlegacy, hret⟩
        · exact absurd rfl hret
      refine orGoto_value_rule (fun hret => hnoBoot hret (.inr (.inr (.inr (.inl hret)))))
        fun hboot => ?_
      refine orGoto_value_rule (fun hret => hnoBoot hret (.inr (.inr (.inr (.inr hret)))))
        fun hinit => ?_
      refine .booted hstate hqueues hpower hload (fun hlegacy => ?_) hboot hinit
      rwa [if_pos hlegacy] at hresume

/-- The ways powering up again after a collapse ends. -/
inductive ResumeFromCollapse (env : Env) (core : Core) : Int × Core → Prop
  | noPower {ret : Int} {core₁ : Core} :
      irisVpuPowerOn env core = (ret, core₁) → ret ≠ 0 →
      ResumeFromCollapse env core (-ebusy, core₁)
  | noBoot {core₁ : Core} :
      irisVpuPowerOn env core = (0, core₁) → ResumeFails core₁.platformData.legacyVpu5 env →
      ResumeFromCollapse env core (-ebusy, irisVpuPowerOff env core₁)
  | resumed {core₁ : Core} :
      irisVpuPowerOn env core = (0, core₁) → ¬ ResumeFails core₁.platformData.legacyVpu5 env →
      ResumeFromCollapse env core (0, { core₁ with vpuSuspended := false })

theorem irisResumeFromCollapse_spec (env : Env) (core : Core) :
    ResumeFromCollapse env core (irisResumeFromCollapse env core) := by
  unfold irisResumeFromCollapse
  refine orGoto_rule (fun ret core₁ hpower hret => .noPower hpower hret) fun core₁ hpower => ?_
  refine orGoto_value_rule (fun hret => .noBoot hpower (.inl hret)) fun hresume => ?_
  refine orGoto_value_rule (fun hret => .noBoot hpower (.inr (.inl hret))) fun hboot => ?_
  refine orGoto_value_rule (fun hret => .noBoot hpower (.inr (.inr ?_)))
    fun hcollapse => .resumed hpower ?_
  · split_ifs at hret with hlegacy
    · exact absurd rfl hret
    · exact ⟨by simpa using hlegacy, hret⟩
  · rintro (hfail | hfail | ⟨hlegacy, hfail⟩)
    · exact hfail hresume
    · exact hfail hboot
    · rw [if_neg (by simp [hlegacy])] at hcollapse
      exact hfail hcollapse

end NabuIris
