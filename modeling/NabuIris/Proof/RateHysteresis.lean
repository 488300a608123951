import Mathlib.Data.Nat.Basic
import NabuIris.InputRate

/-!
# The hysteresis of the input rate

However the windows come about, the vote of an instance is the vote that follows their targets, and
every target is clamped.
-/

namespace NabuIris

open Lib Lib.Hysteresis

namespace InputRate

variable {inst : InputRate} {target : U32}

/-- The vote of an instance. -/
def voted (inst : InputRate) : Vote Nat where
  rate := inst.frameRate.toNat
  lower := inst.frameRateDownCount.toNat

theorem resetRateWindow_voted (inst : InputRate) :
    inst.irisVdecResetRateWindow.voted = inst.voted :=
  rfl

theorem streamonInput_voted (prepared : Bool) (inst : InputRate) :
    (inst.irisVdecStreamonInput prepared).voted = ⟨maximumFps.toNat, 0⟩ := by
  cases prepared <;> rfl

theorem trackInputTimestamp_voted (legacyVpu5 : Bool) (timestamp : U64) (inst : InputRate) :
    (inst.irisVdecTrackInputTimestamp legacyVpu5 timestamp).voted = inst.voted := by
  unfold irisVdecTrackInputTimestamp
  dsimp only
  split_ifs <;> rfl

theorem countFrame_voted (curBufNs timestamp : U64) (inst : InputRate) :
    (inst.countFrame curBufNs timestamp).voted = inst.voted := by
  unfold countFrame
  split_ifs <;> rfl

/-- The counter does not wrap around. -/
theorem vote_voted (hlower : inst.voted.lower < 3) :
    (inst.vote target).voted = inst.voted.follow maximumFps.toNat 3 target.toNat := by
  have hcount : inst.frameRateDownCount.toNat < 3 := hlower
  have hnext : (inst.frameRateDownCount + 1).toNat = inst.frameRateDownCount.toNat + 1 := by
    rw [BitVec.toNat_add]
    exact Nat.mod_eq_of_lt (by omega : inst.frameRateDownCount.toNat + 1 < 2 ^ 32)
  have hthree : (3 : U32) ≤ inst.frameRateDownCount + 1 ↔ 3 ≤ inst.voted.lower + 1 := by
    rw [BitVec.le_def, hnext]
    rfl
  have hfollow : inst.frameRate = maximumFps ∨ inst.frameRate ≤ target ↔
      inst.voted.rate = maximumFps.toNat ∨ inst.voted.rate ≤ target.toNat := by
    rw [BitVec.le_def, ← BitVec.toNat_inj]
    rfl
  by_cases hacts : inst.frameRate = maximumFps ∨ inst.frameRate ≤ target
  · rw [vote, if_pos hacts, Vote.follow, if_pos (hfollow.1 hacts)]
    rfl
  rw [vote, if_neg hacts, Vote.follow, if_neg fun h => hacts (hfollow.2 h)]
  dsimp only
  by_cases hpatience : (3 : U32) ≤ inst.frameRateDownCount + 1
  · rw [if_pos hpatience, if_pos (hthree.1 hpatience)]
    rfl
  · rw [if_neg hpatience, if_neg fun h => hpatience (hthree.2 h)]
    exact congrArg (Vote.mk inst.frameRate.toNat) hnext

/-! ### Targets -/

theorem clampU32_bounds (val : U32) {lo hi : U32} (hle : lo ≤ hi) :
    lo ≤ clampU32 val lo hi ∧ clampU32 val lo hi ≤ hi := by
  unfold clampU32
  simp only [BitVec.le_def, BitVec.lt_def] at *
  split_ifs <;> omega

theorem targetFps_bounds (legacyVpu5 : Bool) (deltaNs : U64) (inst : InputRate) :
    defaultFps ≤ inst.targetFps legacyVpu5 deltaNs ∧
      inst.targetFps legacyVpu5 deltaNs ≤ maximumFps :=
  clampU32_bounds _ (by decide)

/-- An input leaves the vote alone, or closes a window of which the vote follows the target. -/
theorem irisVdecQbuf_cases (legacyVpu5 streaming : Bool) (curBufNs timestamp : U64)
    (hlower : inst.voted.lower < 3) :
    (∃ inst' : InputRate,
        inst.irisVdecQbuf legacyVpu5 streaming curBufNs timestamp = (inst', none) ∧
          inst'.voted = inst.voted) ∨
      ∃ (inst' : InputRate) (target : U32),
        inst.irisVdecQbuf legacyVpu5 streaming curBufNs timestamp = (inst', some target) ∧
          (defaultFps ≤ target ∧ target ≤ maximumFps) ∧
          inst'.voted = inst.voted.follow maximumFps.toNat 3 target.toNat := by
  have hcounted : ((inst.irisVdecTrackInputTimestamp legacyVpu5 timestamp).countFrame curBufNs
      timestamp).voted = inst.voted :=
    (countFrame_voted curBufNs timestamp _).trans (trackInputTimestamp_voted _ _ _)
  unfold irisVdecQbuf
  dsimp only
  split_ifs with hdeferred hopen
  · exact .inl ⟨inst, rfl, rfl⟩
  · exact .inl ⟨_, rfl, hcounted⟩
  · refine .inr ⟨_, _, rfl, targetFps_bounds _ _ _, ?_⟩
    rw [resetRateWindow_voted, vote_voted (by rwa [hcounted]), hcounted]

end InputRate

/-! ### Runs -/

namespace RateRun

def history (s : RateRun) : History Nat where
  vote := s.inst.voted
  windows := s.windows

/-- The history is that of clamped targets. -/
def Follows (s : RateRun) : Prop :=
  s.inst.voted.lower < 3 ∧ ∃ targets : List Nat,
    s.history = targets.foldl (History.close maximumFps.toNat 3) (.start maximumFps.toNat) ∧
      ∀ target ∈ targets, defaultFps.toNat ≤ target ∧ target ≤ maximumFps.toNat

theorem Follows.opened : opened.Follows := ⟨by decide, [], rfl, List.forall_mem_nil _⟩

theorem Follows.apply {s : RateRun} (hfollows : s.Follows) (legacyVpu5 : Bool) (op : RateOp) :
    (s.apply legacyVpu5 op).Follows := by
  obtain ⟨hlower, targets, hhistory, htargets⟩ := hfollows
  cases op with
  | streamonInput prepared =>
      have hstarted : (s.inst.irisVdecStreamonInput prepared).voted = ⟨maximumFps.toNat, 0⟩ :=
        InputRate.streamonInput_voted prepared s.inst
      refine ⟨?_, [], ?_, List.forall_mem_nil _⟩
      · rw [RateRun.apply, hstarted]
        exact Nat.succ_pos 2
      · rw [RateRun.apply, history, hstarted]
        rfl
  | qbuf streaming curBufNs timestamp =>
      rcases InputRate.irisVdecQbuf_cases legacyVpu5 streaming curBufNs timestamp hlower with
        ⟨inst', hqbuf, hvoted⟩ | ⟨inst', target, hqbuf, hbounds, hvoted⟩
      · refine ⟨?_, targets, ?_, htargets⟩
        · rw [RateRun.apply, hqbuf]
          exact hvoted ▸ hlower
        · rw [← hhistory, RateRun.apply, hqbuf, history, history, hvoted]
      · refine ⟨?_, targets ++ [target.toNat], ?_, ?_⟩
        · rw [RateRun.apply, hqbuf]
          exact hvoted ▸ Vote.follow_lower (Nat.succ_pos 2) s.inst.voted
        · have hrate : inst'.frameRate.toNat =
              (s.inst.voted.follow maximumFps.toNat 3 target.toNat).rate :=
            congrArg Vote.rate hvoted
          rw [List.foldl_concat, ← hhistory, RateRun.apply, hqbuf, history, History.close]
          dsimp only
          rw [hvoted, hrate]
          rfl
        · rw [List.forall_mem_append, List.forall_mem_singleton]
          exact ⟨htargets, BitVec.le_def.1 hbounds.1, BitVec.le_def.1 hbounds.2⟩

theorem Follows.run (legacyVpu5 : Bool) (ops : List RateOp) :
    (ops.foldl (RateRun.apply legacyVpu5) .opened).Follows :=
  List.foldlRecOn ops _ .opened fun _ hfollows op _ => hfollows.apply legacyVpu5 op

end RateRun

/-- **Rate hysteresis.** From any start of the input queue on, the vote is in its bounds behind
every window, follows a target that is not lower at once, and falls from the top or when two windows
before have asked for less in vain. -/
theorem rate_hysteresis (legacyVpu5 : Bool) (ops : List RateOp) :
    let s := ops.foldl (RateRun.apply legacyVpu5) .opened
    s.inst.frameRate.toNat = current maximumFps.toNat s.windows ∧
      Lawful maximumFps.toNat 3 s.windows ∧
      ∀ w ∈ s.windows, defaultFps.toNat ≤ w.voted ∧ w.voted ≤ maximumFps.toNat := by
  intro s
  obtain ⟨_, targets, hhistory, htargets⟩ := RateRun.Follows.run legacyVpu5 ops
  have hbounds : defaultFps.toNat ≤ maximumFps.toNat ∧ maximumFps.toNat ≤ maximumFps.toNat := by
    decide
  obtain ⟨hcounts, hlawful⟩ := lawful_close maximumFps.toNat 3 targets
  have hvoted := forall_voted 3 (P := fun rate => defaultFps.toNat ≤ rate ∧ rate ≤ maximumFps.toNat)
    hbounds htargets
  rw [← hhistory] at hcounts hlawful hvoted
  exact ⟨hcounts.rate, hlawful, hvoted.2⟩

/-- A window of two frames, which come a second apart with timestamps `spanMs` apart. -/
def twoFrames (second spanMs : Nat) : List RateOp :=
  let timestamp := second * 500000000
  [.qbuf true (BitVec.ofNat 64 (second * 1000000000)) (BitVec.ofNat 64 timestamp),
    .qbuf true (BitVec.ofNat 64 ((second + 1) * 1000000000))
      (BitVec.ofNat 64 (timestamp + spanMs * 1000000))]

/-- From the top to 110, up to 220 at once, and down to 55 behind two windows that are held. -/
example :
    let ops := RateOp.streamonInput true ::
      [(1, 10), (3, 5), (5, 20), (7, 20), (9, 20)].flatMap fun (second, spanMs) =>
        twoFrames second spanMs
    (ops.foldl (RateRun.apply true) .opened).windows.map (fun w => (w.rate, w.target, w.voted)) =
      [(220, 55, 55), (220, 55, 220), (220, 55, 220), (110, 220, 220), (480, 110, 110)] := by
  decide +kernel

end NabuIris
