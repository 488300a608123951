import Mathlib.Algebra.Group.Prod
import NabuIris.Proof.DriverFrame
import NabuIris.RuntimePm

/-!
# References to the device are balanced

A thread owns the references it has got and the files it is closing. A put that follows a resume
that failed has no reference of its own to drop, and takes one from an open file unless there is
none at all.
-/

namespace NabuIris.RuntimePm

open Lib

/-- What a thread owns: references to the device, and files that it closes. -/
abbrev PmShare := Nat × Nat

/-- `base` references are nobody's here. -/
structure References (base : Nat) (owned : PmShare) (s : PmCore) : Prop where
  usageCount : s.usageCount = base + s.core.instances + owned.1
  files : s.core.instances = s.files + owned.2

/-- A put after a failed resume finds no reference. -/
def PutsHeld : PmSection → PmCore → Prop
  | .put ret, s => ret < 0 → s.usageCount = 0
  | _, _ => True

instance (k : PmSection) (s : PmCore) : Decidable (PutsHeld k s) := by
  cases k <;> unfold PutsHeld <;> infer_instance

variable {base : Nat} {α : Type}

/-- The program begins and ends owning `share`. -/
abbrev Keeps (base : Nat) (share : PmShare) (p : PmProg α) : Prop :=
  Owns PmSection.effect (References base) PutsHeld (fun _ owned => owned = share) share p

theorem Keeps.extend {share : PmShare} {p : PmProg α} (hkeeps : Keeps base 0 p) :
    Keeps base share p := by
  have hframe := Owns.frame hkeeps share
  rw [zero_add] at hframe
  refine hframe.mono ?_
  rintro _ _ ⟨_, rfl, rfl⟩
  exact zero_add share

/-! ### Sections that leave the references alone -/

theorem References.core {owned : PmShare} {s : PmCore} (hrefs : References base owned s)
    {core : Core} (hinstances : core.instances = s.core.instances) :
    References base owned { s with core := core } where
  usageCount := by
    calc s.usageCount = base + s.core.instances + owned.1 := hrefs.usageCount
      _ = base + core.instances + owned.1 := by rw [hinstances]
  files := hinstances.trans hrefs.files

theorem setCore_keeps {change : Core → Core}
    (hchange : ∀ core, (change core).instances = core.instances) : Keeps base 0 (setCore change) :=
  Owns.act fun _ s hrefs _ => ⟨0, hrefs.core (hchange s.core), rfl⟩

theorem locked_keeps {call : Core → α × Core}
    (hcall : ∀ core, (call core).2.instances = core.instances) : Keeps base 0 (locked call) :=
  Owns.act fun _ s hrefs _ => ⟨0, hrefs.core (hcall s.core), rfl⟩

theorem coreState_keeps : Keeps base 0 coreState :=
  Owns.act fun _ _ hrefs _ => ⟨0, hrefs.core rfl, rfl⟩

/-! ### The runtime PM calls -/

/-- What a thread owns after a resume that returned `ret`. -/
def held (ret : Int) : PmShare := if ret < 0 then 0 else (1, 0)

theorem resume_owns (ret : Int) :
    Owns PmSection.effect (References base) PutsHeld (fun r owned => r = ret ∧ owned = held ret) 0
      (pmRuntimeResumeAndGet ret) := by
  apply Owns.act
  intro frame s hrefs _
  refine ⟨held ret, ?_, rfl, rfl⟩
  simp only [held, PmSection.effect]
  split_ifs with hret
  · exact hrefs
  · refine ⟨?_, by simpa using hrefs.files⟩
    show s.usageCount + 1 = base + s.core.instances + ((1, 0) + frame).1
    have hcount := hrefs.usageCount
    simp only [Prod.fst_add, Prod.fst_zero] at hcount ⊢
    omega

/-- A put drops what the resume before it took, and nothing else. -/
theorem put_keeps (ret : Int) :
    Owns PmSection.effect (References base) PutsHeld (fun _ owned => owned = 0) (held ret)
      (pmRuntimePut ret) := by
  apply Owns.act
  intro frame s hrefs hheld
  refine ⟨0, ?_, rfl⟩
  unfold held at hrefs
  split_ifs at hrefs with hret
  · have hnone : s.usageCount = 0 := hheld hret
    refine ⟨?_, hrefs.files⟩
    show s.usageCount - 1 = base + s.core.instances + (0 + frame).1
    rw [← hrefs.usageCount, hnone]
  · have hcount := hrefs.usageCount
    have hfiles := hrefs.files
    simp only [Prod.fst_add, Prod.snd_add] at hcount hfiles
    constructor
    · simp only [PmSection.effect, Prod.fst_add, Prod.fst_zero]
      omega
    · simp only [PmSection.effect, Prod.snd_add, Prod.snd_zero]
      omega

/-! ### The functions of the driver -/

theorem irisHfiQueueCmdWrite_keeps (env : CmdWriteEnv) :
    Keeps base 0 (irisHfiQueueCmdWrite env) := by
  refine (resume_owns env.pmGet).bind ?_
  rintro ret _ ⟨rfl, rfl⟩
  have hput := @put_keeps base env.pmGet
  split_ifs with hret
  · exact hput.bind fun _ _ hzero => hzero
  · have hwrite : Keeps base 0 (locked (irisHfiQueueCmdWriteLocked env.queueWrite)) := by
      apply locked_keeps
      intro core
      unfold irisHfiQueueCmdWriteLocked
      split_ifs <;> rfl
    apply (hwrite.extend).bind
    rintro _ _ rfl
    exact hput.bind fun _ _ hzero => hzero

theorem irisCoreDeinit_keeps (env : DeinitEnv) : Keeps base 0 (irisCoreDeinit env) := by
  apply coreState_keeps.bind
  rintro state _ rfl
  split_ifs with hstate
  · rfl
  · refine (resume_owns env.pmGet).bind ?_
    rintro ret _ ⟨rfl, rfl⟩
    have hsection : Keeps base 0 (setCore (irisCoreDeinitSection env.env)) :=
      setCore_keeps fun core => (AwakeFrame.deinitSection env.env core).instances
    apply (hsection.extend).bind
    rintro _ _ rfl
    exact put_keeps env.pmGet

theorem irisCoreInit_keeps (env : Env) : Keeps base 0 (irisCoreInit env) := by
  have hsection : Keeps base 0 (locked (irisCoreInitSection env)) :=
    locked_keeps fun core => (AwakeFrame.initSection env core).instances
  apply hsection.bind
  rintro returned _ rfl
  cases returned with
  | some ret => rfl
  | none =>
      apply coreState_keeps.bind
      rintro state _ rfl
      split_ifs
      · rfl
      · have herror : Keeps base 0 (setCore fun core => { core with state := .error }) :=
          setCore_keeps fun _ => rfl
        exact herror.bind fun _ _ hzero => hzero
      · rfl

theorem irisCoreRecover_keeps (deinitEnv : DeinitEnv) (initEnv : Env) :
    Keeps base 0 (irisCoreRecover deinitEnv initEnv) := by
  apply (irisCoreDeinit_keeps deinitEnv).bind
  rintro _ _ rfl
  exact irisCoreInit_keeps initEnv

theorem irisRunPendingCoreRecovery_keeps (env : RecoverEnv) :
    Keeps base 0 (irisRunPendingCoreRecovery env) := by
  refine Owns.bind (locked_keeps ?_) ?_
  · intro core
    split_ifs <;> rfl
  rintro recover _ rfl
  split_ifs
  · exact (irisCoreRecover_keeps env.deinit env.init).bind fun _ _ hzero => hzero
  · rfl

theorem irisOpenResume_keeps (env : PmOpenEnv) : Keeps base 0 (irisOpenResume env) := by
  have hresume : Keeps base 0 (locked (irisPcResume env.pcResume env.powerCollapse)) :=
    locked_keeps fun core => (AwakeFrame.pcResume env.pcResume env.powerCollapse core).instances
  apply hresume.bind
  rintro ret _ rfl
  split_ifs
  · have hclear : Keeps base 0 (setCore fun core => { core with recoveryPending := false }) :=
      setCore_keeps fun _ => rfl
    apply hclear.bind
    rintro _ _ rfl
    exact (irisCoreRecover_keeps _ _).bind fun _ _ hzero => hzero
  · rfl

theorem irisOpenCoreInit_keeps (env : PmOpenEnv) : Keeps base 0 (irisOpenCoreInit env) := by
  apply (irisCoreInit_keeps env.coreInit).bind
  rintro ret _ rfl
  apply coreState_keeps.bind
  rintro state _ rfl
  split_ifs
  · have hclear : Keeps base 0 (setCore fun core => { core with recoveryPending := false }) :=
      setCore_keeps fun _ => rfl
    apply hclear.bind
    rintro _ _ rfl
    exact irisCoreRecover_keeps _ _
  · rfl

/-- The reference goes to the file that is handed out, or is dropped. -/
theorem irisOpenInstance_owns (env : PmOpenEnv) {ret : Int} (hret : ¬ret < 0) :
    Owns PmSection.effect (References base) PutsHeld (fun _ owned => owned = 0) (held ret)
      (irisOpenInstance env ret) := by
  have hfail : ∀ r : Int, Owns PmSection.effect (References base) PutsHeld
      (fun _ owned => owned = 0) (held ret) (do pmRuntimePut ret; pure r) :=
    fun r => (put_keeps ret).bind fun _ _ hzero => hzero
  unfold irisOpenInstance
  split_ifs
  · exact hfail _
  · exact hfail _
  · exact hfail _
  · exact hfail _
  · apply Owns.act
    intro frame s hrefs _
    have hcount := hrefs.usageCount
    have hfiles := hrefs.files
    simp only [held, hret, if_false, Prod.fst_add, Prod.snd_add] at hcount hfiles
    refine ⟨0, ⟨?_, ?_⟩, rfl⟩
    · simp only [PmSection.effect, irisAddSession, Prod.fst_add, Prod.fst_zero]
      omega
    · simp only [PmSection.effect, irisAddSession, Prod.snd_add, Prod.snd_zero]
      omega

theorem irisOpen_keeps (env : PmOpenEnv) : Keeps base 0 (irisOpen env) := by
  unfold irisOpen
  split_ifs
  · rfl
  split
  · rfl
  · refine (resume_owns env.pmGet).bind ?_
    rintro ret _ ⟨rfl, rfl⟩
    split_ifs with hret
    · simp only [held, hret, if_true]
      rfl
    apply (irisOpenResume_keeps env).extend.bind
    rintro _ _ rfl
    apply (irisOpenCoreInit_keeps env).extend.bind
    rintro init _ rfl
    split_ifs
    · exact (put_keeps env.pmGet).bind fun _ _ hzero => hzero
    · exact irisOpenInstance_owns env hret

/-- Removing the session turns the closed file's reference over to the thread that closes it. -/
theorem removeSession_owns :
    Owns PmSection.effect (References base) PutsHeld (fun _ owned => owned = held 0) (0, 1)
      (setCore irisRemoveSession) := by
  apply Owns.act
  intro frame s hrefs _
  have hcount := hrefs.usageCount
  have hfiles := hrefs.files
  simp only [Prod.fst_add, Prod.snd_add] at hcount hfiles
  refine ⟨held 0, ⟨?_, ?_⟩, rfl⟩
  · simp only [PmSection.effect, irisRemoveSession, held, lt_irrefl, if_false, Prod.fst_add]
    omega
  · simp only [PmSection.effect, irisRemoveSession, held, lt_irrefl, if_false, Prod.snd_add]
    omega

theorem irisClose_keeps (env : CloseEnv) : Keeps base 0 (irisClose env) := by
  have hrelease : Owns PmSection.effect (References base) PutsHeld
      (fun released owned => owned = if released then ((0, 1) : PmShare) else 0) 0
      (.act .release fun s : PmCore => decide (0 < s.files)) := by
    apply Owns.act
    intro frame s hrefs _
    refine ⟨_, ?_, rfl⟩
    have hfiles := hrefs.files
    by_cases hopen : 0 < s.files
    · refine ⟨?_, ?_⟩
      · simpa [PmSection.effect, hopen] using hrefs.usageCount
      · simp only [PmSection.effect, hopen, decide_true, if_true, Prod.snd_add, Prod.snd_zero]
        at hfiles ⊢
        omega
    · refine ⟨?_, ?_⟩
      · simpa [PmSection.effect, hopen] using hrefs.usageCount
      · simp only [PmSection.effect, hopen, decide_false, Prod.snd_add, Prod.snd_zero] at hfiles ⊢
        simp only [Bool.false_eq_true, if_false, Prod.snd_zero]
        omega
  apply hrelease.bind
  rintro released _ rfl
  split_ifs
  · have hcommands : Keeps base (0, 1)
        (.each (fun command => do let _ ← irisHfiQueueCmdWrite command; pure ())
          env.commands) :=
      Owns.each fun command _ =>
        (irisHfiQueueCmdWrite_keeps command).extend.bind fun _ _ heq => heq
    apply hcommands.bind
    rintro _ _ rfl
    apply removeSession_owns.bind
    rintro _ _ rfl
    apply (irisRunPendingCoreRecovery_keeps env.recover).extend.bind
    rintro _ _ rfl
    exact put_keeps 0
  · rfl

theorem CoreEvent.apply_instances (event : CoreEvent) (core : Core) :
    (event.apply core).instances = core.instances := by
  cases event with
  | pmSuspend env => exact (irisPmSuspend_frame env core).1.instances
  | pmResume env => exact (AwakeFrame.pmResume env core).instances
  | pcHandler env => exact (irisPcHandler_frame env core).1.instances
  | systemError => rfl
  | requestRecovery => rfl

theorem PmOp.body_keeps (op : PmOp) : Keeps base 0 op.body := by
  cases op with
  | openFile env => exact (irisOpen_keeps env).bind fun _ _ hzero => hzero
  | closeFile env => exact irisClose_keeps env
  | cmdWrite env => exact (irisHfiQueueCmdWrite_keeps env).bind fun _ _ hzero => hzero
  | coreDeinit env => exact irisCoreDeinit_keeps env
  | coreRecover deinitEnv initEnv =>
      exact (irisCoreRecover_keeps deinitEnv initEnv).bind fun _ _ hzero => hzero
  | coreEvent event => exact setCore_keeps event.apply_instances

/-- **Between operations each open file has one reference.** -/
theorem usage_count_balanced {core : Core} (hinstances : core.instances = 0) (usageCount : Nat)
    (moves : List (PoolMove PmOp))
    (hheld : ∀ pre move, pre ++ [move] <+: moves →
      (runs core usageCount pre).Allows PutsHeld move)
    (hrest : (runs core usageCount moves).AtRest) :
    (runs core usageCount moves).state.usageCount =
      usageCount + (runs core usageCount moves).state.core.instances := by
  have hinit : References usageCount 0 ⟨core, usageCount, 0⟩ := ⟨by simp [hinstances], hinstances⟩
  exact ((Pool.runs_owned PmOp.body_keeps hinit hheld).atRest hrest).usageCount

/-! ### Two runs -/

/-- An `iris_open` whose calls all succeed. -/
def openEnv : PmOpenEnv := { openEnvOf fun _ => 0 with restartPmGet := 0, recoverPmGet := 0 }

def closeEnv : CloseEnv where
  commands := [⟨0, 0⟩]
  recover := ⟨false, ⟨0, fun _ => 0⟩, fun _ => 0⟩

/-- A command is written while the file is being opened, and the file is closed. -/
def openAndClose : List (PoolMove PmOp) :=
  [.call (.openFile openEnv), .run 0, .run 0, .run 0, .call (.cmdWrite ⟨0, 0⟩), .run 1, .run 0,
    .run 1, .run 0, .run 1, .run 0, .call (.closeFile closeEnv)] ++ List.replicate 7 (.run 2)

theorem usage_count_balanced_openAndClose :
    (runs sm8150Core 1 openAndClose).AtRest ∧
      (runs sm8150Core 1 openAndClose).state.usageCount =
        1 + (runs sm8150Core 1 openAndClose).state.core.instances := by
  have hrest : (runs sm8150Core 1 openAndClose).AtRest := by decide
  refine ⟨hrest, ?_⟩
  apply usage_count_balanced rfl
  · exact snoc_prefixes_iff.2 (by decide)
  · exact hrest

/-- A command is written to an open file's session, and the device cannot be resumed. -/
def failedResume : List (PoolMove PmOp) :=
  [.call (.openFile openEnv)] ++ List.replicate 6 (.run 0) ++
    [.call (.cmdWrite ⟨-ebusy, 0⟩), .run 1, .run 1]

theorem open_file_unreferenced :
    (runs sm8150Core 0 failedResume).AtRest ∧
      (runs sm8150Core 0 failedResume).state.core.instances = 1 ∧
      (runs sm8150Core 0 failedResume).state.usageCount = 0 := by
  decide

end NabuIris.RuntimePm
