import NabuIris.Lib.Run
import NabuIris.Lib.Skips
import NabuIris.Proof.FrameCrops
import NabuIris.Proof.HoldBack

/-!
# The corrupt outputs that a decoder hides

A legacy decoder of H.264 or HEVC gives a corrupt frame back to the firmware, unless it has done so
with the eight before. Between two completions an instance may do whatever leaves the counter and
the kind of the decoder alone.
-/

namespace NabuIris

open Lib Lib.Skips

variable {s t : Inst} {env : FtbEnv} {pkt : FtbDone} {i : Nat}

/-! ### The decoder -/

/-- A legacy decoder of H.264 or HEVC that is not rolling back a failed start. -/
structure Inst.HidesCorrupt (inst : Inst) : Prop where
  domain : inst.domain = .decoder
  legacy : inst.legacyVpu5 = true
  codec : inst.codec ≠ .vp9
  pending : inst.pendingOutput = none
  rollback : inst.startStreamingRollbackType = none

/-- A filled output of the decoder, and what the log has of its completion. -/
structure FilledOutput where
  index : Nat
  corrupt : Bool
  events : List BufEvent

namespace FilledOutput

/-- The buffer goes to the firmware, once and nowhere else. -/
def Recycled (output : FilledOutput) : Prop := output.events = [.submitted .capture output.index]

/-- The buffer goes to userspace, once and nowhere else. -/
def Delivered (output : FilledOutput) : Prop :=
  ∃ state payload, output.events = [.done .capture output.index state payload] ∧ state ≠ .queued

end FilledOutput

def FtbDone.corrupt (pkt : FtbDone) : Bool := pkt.dataCorrupt || pkt.dropFrame

/-- The filled output that a message completes between these two states. -/
def filledOutput (pkt : FtbDone) (s t : Inst) : Option FilledOutput :=
  if pkt.filled ∧ pkt.OutputStream s then
    (ftbFind pkt s).map fun i => ⟨i, pkt.corrupt, t.log.drop s.log.length⟩
  else none

inductive OutputStep : Inst → Option FilledOutput → Inst → Prop
  | message {inst : Inst} (env : FtbEnv) (pkt : FtbDone) (hqueue : env.queueRet = 0)
      (hflush : env.flushRet = 0) :
      OutputStep inst (filledOutput pkt inst (irisHfiGen1SessionFtbDone env pkt inst))
        (irisHfiGen1SessionFtbDone env pkt inst)
  | between {s t : Inst} (hhides : s.HidesCorrupt → t.HidesCorrupt)
      (hdrops : t.corruptOutputDrops = s.corruptOutputDrops) : OutputStep s none t

/-! ### One message -/

theorem ftbPending_none (hpending : s.pendingOutput = none) : ftbPending env pkt s = (0, s) := by
  unfold ftbPending irisVdecRecyclePendingOutput irisVdecCompletePendingOutput
  rw [hpending]
  dsimp only
  split_ifs <;> rfl

theorem ftbUnmatched_cases (inst : Inst) :
    ftbUnmatched inst = inst ∨ ftbUnmatched inst = { inst with state := .error } := by
  rw [← enterError_eq]
  exact applyIf_rule (P := fun t => t = inst ∨ t = inst.enterError) (fun _ => .inl rfl)
    fun _ => .inr rfl

theorem ftbDropped_hides (hhides : s.HidesCorrupt) :
    ftbDropped pkt s =
      (pkt.filled && pkt.corrupt && s.corruptOutputDrops < iris1MaxCorruptOutputDrops) := by
  have hcodec : (s.codec != .vp9) = true := bne_iff_ne.2 hhides.codec
  simp [ftbDropped, hhides.domain, hhides.legacy, hcodec, FtbDone.corrupt]

theorem ftbHeld_hides (hhides : s.HidesCorrupt) : ftbHeld pkt s = false := by
  have hcodec : (s.codec == .vp9) = false := beq_eq_false_iff_ne.2 hhides.codec
  simp [ftbHeld, hcodec]

theorem setBuf_hides (hhides : s.HidesCorrupt) (buf : IrisBuffer) :
    (s.setBuf .capture i buf).HidesCorrupt :=
  ⟨hhides.domain, hhides.legacy, hhides.codec, hhides.pending, hhides.rollback⟩

theorem ftbStore_hides (hhides : s.HidesCorrupt) : (ftbStore pkt i s).HidesCorrupt :=
  ⟨hhides.domain, hhides.legacy, hhides.codec, hhides.pending, hhides.rollback⟩

theorem GivesBack.state_ne_queued {plane : Plane} {state : Vb2State} {payload : Option Payload}
    (hgives : GivesBack plane i s state payload)
    (hrollback : s.startStreamingRollbackType ≠ some plane) : state ≠ .queued := by
  intro hqueued
  cases herror : hasFlag (s.buf plane i).flags v4l2BufFlagError with
  | true => cases hqueued.symm.trans (hgives.error hrollback herror).1
  | false => cases hqueued.symm.trans (hgives.delivered hrollback herror).1

theorem ftbDrop_eq (hqueue : env.queueRet = 0) (hhides : s.HidesCorrupt) :
    (ftbDrop env i s).HidesCorrupt ∧
      (ftbDrop env i s).corruptOutputDrops = s.corruptOutputDrops + 1 ∧
      (ftbDrop env i s).log = s.log ++ [.submitted .capture i] := by
  rw [ftbDrop, hqueue]
  exact ⟨⟨hhides.domain, hhides.legacy, hhides.codec, hhides.pending, hhides.rollback⟩, rfl, rfl⟩

theorem ftbDeliver_eq (hhides : s.HidesCorrupt) (hlisted : i ∈ s.ready .capture) (last : Bool) :
    (ftbDeliver pkt last i s).HidesCorrupt ∧
      (ftbDeliver pkt last i s).corruptOutputDrops = s.corruptOutputDrops ∧
      ∃ state payload, state ≠ Vb2State.queued ∧
        (ftbDeliver pkt last i s).log = s.log ++ [.done .capture i state payload] := by
  unfold ftbDeliver
  dsimp only
  rw [ftbHeld_hides (setBuf_hides hhides _), if_neg Bool.false_ne_true]
  generalize IrisBuffer.mk _ _ _ _ _ _ = buf
  have hset := setBuf_hides (i := i) hhides buf
  have hrollback : (s.setBuf .capture i buf).startStreamingRollbackType ≠ some .capture := by
    rw [hset.rollback]
    exact (Option.some_ne_none _).symm
  obtain ⟨state, payload, vbufFlags, stopped, lastDequeued, hgives, heq⟩ :=
    @irisVb2BufferDone_listed .capture i (s.setBuf .capture i buf) hlisted
  rw [heq]
  exact ⟨⟨hset.domain, hset.legacy, hset.codec, hset.pending, hset.rollback⟩, rfl, state, payload,
    hgives.state_ne_queued hrollback, rfl⟩

/-- What becomes of a filled output. -/
def FilledOutput.Fate (output : FilledOutput) (drops : Nat) : Prop :=
  if output.corrupt && drops < iris1MaxCorruptOutputDrops then output.Recycled
  else output.Delivered

theorem ftbOutput_eq (hhides : s.HidesCorrupt) :
    ftbOutput env pkt i s =
      if pkt.filled && pkt.corrupt && s.corruptOutputDrops < iris1MaxCorruptOutputDrops then
        ftbDrop env i (ftbStore pkt i s)
      else ftbDeliver pkt (ftbLast pkt s) i ((ftbStore pkt i s).applyIf pkt.filled fun inst =>
        { inst with corruptOutputDrops := 0 }) := by
  have hstored := @ftbStore_hides s pkt i hhides
  have hfilled : ((ftbStore pkt i s).domain == .decoder && pkt.filled) = pkt.filled := by
    rw [hstored.domain]
    rfl
  rw [ftbOutput, ftbPending_none hstored.pending, orGoto_zero, ftbComplete,
    ftbDropped_hides hstored, hfilled]
  rfl

theorem ftbOutput_empty (hhides : s.HidesCorrupt) (hlisted : i ∈ s.ready .capture)
    (hempty : pkt.filled = false) :
    (ftbOutput env pkt i s).HidesCorrupt ∧
      (ftbOutput env pkt i s).corruptOutputDrops = s.corruptOutputDrops := by
  have hstored := @ftbStore_hides s pkt i hhides
  rw [ftbOutput_eq hhides, hempty, Bool.false_and, Bool.false_and, if_neg Bool.false_ne_true]
  obtain ⟨hkept, hcount, -⟩ := ftbDeliver_eq hstored hlisted (ftbLast pkt s)
  exact ⟨hkept, hcount⟩

/-- **A filled output is one item of the bounded skips.** -/
theorem ftbOutput_filled (hqueue : env.queueRet = 0) (hhides : s.HidesCorrupt)
    (hlisted : i ∈ s.ready .capture) (hfilled : pkt.filled = true) :
    (ftbOutput env pkt i s).HidesCorrupt ∧
      (ftbOutput env pkt i s).corruptOutputDrops =
        skipped iris1MaxCorruptOutputDrops s.corruptOutputDrops pkt.corrupt ∧
      ∃ events, (ftbOutput env pkt i s).log = s.log ++ events ∧
        (⟨i, pkt.corrupt, events⟩ : FilledOutput).Fate s.corruptOutputDrops := by
  have hstored := @ftbStore_hides s pkt i hhides
  rw [ftbOutput_eq hhides, hfilled, Bool.true_and]
  unfold skipped FilledOutput.Fate
  split_ifs with hskip
  · obtain ⟨hkept, hcount, hevents⟩ := ftbDrop_eq (i := i) hqueue hstored
    exact ⟨hkept, hcount, [.submitted .capture i], hevents, rfl⟩
  · have hreset : ({ ftbStore pkt i s with corruptOutputDrops := 0 } : Inst).HidesCorrupt :=
      ⟨hstored.domain, hstored.legacy, hstored.codec, hstored.pending, hstored.rollback⟩
    obtain ⟨hkept, hcount, state, payload, hne, hevents⟩ :=
      @ftbDeliver_eq _ pkt i hreset hlisted (ftbLast pkt s)
    exact ⟨hkept, hcount, [.done .capture i state payload], hevents, state, payload, rfl, hne⟩

/-! ### One step -/

/-- What a step does to the counter. -/
def dropsAfter (drops : Nat) : Option FilledOutput → Nat
  | none => drops
  | some output => skipped iris1MaxCorruptOutputDrops drops output.corrupt

/-- The decoder stays one, and its counter and the fate of an output are those of the skips. -/
structure OutputFate (s : Inst) (step : Option FilledOutput) (t : Inst) : Prop where
  hides : t.HidesCorrupt
  drops : t.corruptOutputDrops = dropsAfter s.corruptOutputDrops step
  fate : ∀ output ∈ step, output.Fate s.corruptOutputDrops

theorem OutputFate.of_none (hhides : t.HidesCorrupt)
    (hdrops : t.corruptOutputDrops = s.corruptOutputDrops) : OutputFate s none t :=
  ⟨hhides, hdrops, fun output houtput => absurd houtput (Option.not_mem_none output)⟩

theorem OutputFate.unmatched (hhides : t.HidesCorrupt)
    (hdrops : t.corruptOutputDrops = s.corruptOutputDrops) :
    OutputFate s none (ftbUnmatched t) := by
  rcases ftbUnmatched_cases t with heq | heq
  · rw [heq]
    exact .of_none hhides hdrops
  · rw [heq]
    exact .of_none
      ⟨hhides.domain, hhides.legacy, hhides.codec, hhides.pending, hhides.rollback⟩ hdrops

theorem OutputFate.message (hhides : s.HidesCorrupt) (hqueue : env.queueRet = 0) :
    OutputFate s (filledOutput pkt s (irisHfiGen1SessionFtbDone env pkt s))
      (irisHfiGen1SessionFtbDone env pkt s) := by
  obtain ⟨subState, pending, heos⟩ := ftbEos_frame env pkt s
  have hfind := ftbFind_eos env pkt s
  have hkept : ({ s with subState, flushResponsesPending := pending } : Inst).HidesCorrupt :=
    ⟨hhides.domain, hhides.legacy, hhides.codec, hhides.pending, hhides.rollback⟩
  unfold irisHfiGen1SessionFtbDone filledOutput ftbMatch
  rw [hfind, heos]
  by_cases hstream : pkt.OutputStream s
  · rw [if_neg hstream]
    cases hmatch : ftbFind pkt s with
    | none =>
        rw [Option.map_none, ite_self]
        exact .unmatched hkept rfl
    | some i =>
        have hlisted := (ftbFind_spec hmatch).1
        cases hfilled : pkt.filled with
        | false =>
            rw [if_neg fun h => Bool.false_ne_true h.1]
            obtain ⟨hempty, hdrops⟩ := @ftbOutput_empty _ env _ _ hkept hlisted hfilled
            exact .of_none hempty hdrops
        | true =>
            rw [if_pos ⟨rfl, hstream⟩]
            obtain ⟨hhidden, hdrops, events, hlog, hfate⟩ :=
              ftbOutput_filled hqueue hkept hlisted hfilled
            refine ⟨hhidden, hdrops, fun output houtput => ?_⟩
            have hevents : (s.log ++ events).drop s.log.length = events := List.drop_left
            dsimp only at hlog
            rw [hlog, hevents] at houtput
            obtain rfl := Option.some.inj houtput
            exact hfate
  · rw [if_pos (not_not.1 hstream), if_neg fun h => hstream h.2]
    exact applyIf_rule (P := OutputFate s none) (fun _ => .of_none hkept rfl)
      fun _ => .unmatched hkept rfl

theorem OutputStep.fate {step : Option FilledOutput} (hhides : s.HidesCorrupt)
    (hstep : OutputStep s step t) : OutputFate s step t := by
  cases hstep with
  | message env pkt hqueue _ => exact .message hhides hqueue
  | between hkeeps hdrops => exact .of_none (hkeeps hhides) hdrops

/-! ### Runs -/

theorem dropsAfter_le {drops : Nat} (hdrops : drops ≤ iris1MaxCorruptOutputDrops)
    (step : Option FilledOutput) : dropsAfter drops step ≤ iris1MaxCorruptOutputDrops := by
  cases step with
  | none => exact hdrops
  | some output => exact skipped_le _ _ _

/-- What the flag of an output tells. -/
def FilledOutput.Shown (passed : Bool) (output : FilledOutput) : Prop :=
  match passed with
  | true => output.Delivered
  | false => output.Recycled ∧ output.corrupt = true

theorem FilledOutput.Fate.shown {output : FilledOutput} {drops : Nat} (hfate : output.Fate drops) :
    Shown (!(output.corrupt && drops < iris1MaxCorruptOutputDrops)) output := by
  unfold Fate at hfate
  split_ifs at hfate with hskip
  · rw [hskip]
    exact ⟨hfate, (Bool.and_eq_true_iff.1 hskip).1⟩
  · rw [Bool.not_eq_true] at hskip
    rw [hskip]
    exact hfate

/-- The outputs of a run are the items of the bounded skips. -/
theorem outputs_shown {steps : List (Option FilledOutput)} (hhides : s.HidesCorrupt)
    (hdrops : s.corruptOutputDrops ≤ iris1MaxCorruptOutputDrops) (hrun : Run OutputStep s steps t) :
    t.corruptOutputDrops ≤ iris1MaxCorruptOutputDrops ∧
      List.Forall₂ FilledOutput.Shown
        (passes iris1MaxCorruptOutputDrops s.corruptOutputDrops
          ((steps.filterMap id).map FilledOutput.corrupt))
        (steps.filterMap id) := by
  induction hrun with
  | nil => exact ⟨hdrops, .nil⟩
  | @cons s t u step rest hstep _ ih =>
      obtain ⟨hkept, hcount, hfate⟩ := hstep.fate hhides
      have hbelow : t.corruptOutputDrops ≤ iris1MaxCorruptOutputDrops := by
        rw [hcount]
        exact dropsAfter_le hdrops step
      obtain ⟨hend, hshown⟩ := ih hkept hbelow
      refine ⟨hend, ?_⟩
      rw [hcount] at hshown
      cases step with
      | none => exact hshown
      | some output => exact .cons (hfate output rfl).shown hshown

/-- **Corrupt outputs.** The counter stays in its bound, a filled output goes to userspace or, when
it is corrupt, back to the firmware, once and not both, and of any nine in a row one goes to
userspace. -/
theorem corrupt_outputs_bounded {steps : List (Option FilledOutput)} (hhides : s.HidesCorrupt)
    (hdrops : s.corruptOutputDrops ≤ iris1MaxCorruptOutputDrops) (hrun : Run OutputStep s steps t) :
    t.corruptOutputDrops ≤ iris1MaxCorruptOutputDrops ∧
      (∀ output ∈ steps.filterMap id,
        output.Recycled ∧ output.corrupt = true ∨ output.Delivered) ∧
      ∀ window, window <:+: steps.filterMap id → window.length = 9 →
        ∃ output ∈ window, output.Delivered := by
  obtain ⟨hend, hshown⟩ := outputs_shown hhides hdrops hrun
  refine ⟨hend, fun output houtput => ?_, fun window hwindow hlength => ?_⟩
  · obtain ⟨passed, _, hpassed⟩ := exists_of_mem hshown.flip houtput
    cases passed with
    | true => exact .inr hpassed
    | false => exact .inl hpassed
  · exact exists_of_window hdrops hshown hwindow (hlength ▸ Nat.lt_succ_self _)

/-- A corrupt frame in the only buffer that the firmware has. -/
def corruptFrame : FtbDone := ⟨0, 0, 0, 4096, 0, 40, .p, false, true, false⟩

/-- The outputs of that many such frames, and where they lead. -/
def corruptFrames : Nat → Inst → List (Option FilledOutput) × Inst
  | 0, s => ([], s)
  | n + 1, s =>
      let t := irisHfiGen1SessionFtbDone ⟨false, 0, 0⟩ corruptFrame s
      let (rest, u) := corruptFrames n t
      (filledOutput corruptFrame s t :: rest, u)

theorem corruptFrames_run (n : Nat) (s : Inst) :
    Run OutputStep s (corruptFrames n s).1 (corruptFrames n s).2 := by
  induction n generalizing s with
  | zero => exact .nil s
  | succ n ih => exact .cons (.message _ corruptFrame rfl rfl) (ih _)

/-- A decoder whose firmware has one buffer. -/
def oneBuffer : Inst :=
  (irisQueueBuffer 0 .capture 0 ((openedDecoder .gen1 .h264 true).setReady .capture [0])).2

/-- Nine corrupt frames, each of them in the buffer that the one before has left. -/
theorem corrupt_outputs_bounded_frames :
    ((corruptFrames 9 oneBuffer).1.filterMap id).length = 9 ∧
      (corruptFrames 9 oneBuffer).2.corruptOutputDrops ≤ iris1MaxCorruptOutputDrops ∧
      (∀ output ∈ (corruptFrames 9 oneBuffer).1.filterMap id,
        output.Recycled ∧ output.corrupt = true ∨ output.Delivered) ∧
      ∀ window, window <:+: (corruptFrames 9 oneBuffer).1.filterMap id → window.length = 9 →
        ∃ output ∈ window, output.Delivered := by
  have hhides : oneBuffer.HidesCorrupt := ⟨rfl, rfl, by decide, rfl, rfl⟩
  have hlength : ((corruptFrames 9 oneBuffer).1.filterMap id).length = 9 := by decide +kernel
  exact ⟨hlength,
    corrupt_outputs_bounded hhides (Nat.zero_le _) (corruptFrames_run 9 oneBuffer)⟩

end NabuIris
