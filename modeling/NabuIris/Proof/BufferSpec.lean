import NabuIris.Buffers

/-!
# What queueing and completing buffers do

One equation for each operation of `Buffers`, so that later proofs do not unfold them.
-/

namespace NabuIris

theorem applyIf_keep {P : Inst → Prop} {inst : Inst} {change : Inst → Inst} (cond : Bool)
    (hinst : P inst) (hchange : P inst → P (change inst)) : P (inst.applyIf cond change) := by
  unfold Inst.applyIf
  split_ifs
  · exact hchange hinst
  · exact hinst

theorem applyIf_rule {P : Inst → Prop} {inst : Inst} {change : Inst → Inst} {cond : Bool}
    (hno : cond = false → P inst) (hyes : cond = true → P (change inst)) :
    P (inst.applyIf cond change) := by
  cases cond with
  | false => exact hno rfl
  | true => exact hyes rfl

@[simp]
theorem setBuf_buf (inst : Inst) (plane : Plane) (i : Nat) (buf : IrisBuffer) :
    (inst.setBuf plane i buf).buf plane i = buf := by
  simp [Inst.setBuf]

theorem setBuf_buf_of_ne (inst : Inst) {plane q : Plane} {i k : Nat} (buf : IrisBuffer)
    (hne : ¬(q = plane ∧ k = i)) : (inst.setBuf plane i buf).buf q k = inst.buf q k := by
  simp only [Inst.setBuf]
  by_cases hplane : q = plane
  · subst hplane
    have hi : k ≠ i := fun h => hne ⟨rfl, h⟩
    simp [hi]
  · simp [hplane]

@[simp]
theorem setStreaming_self (inst : Inst) (plane : Plane) (streaming : Bool) :
    (inst.setStreaming plane streaming).streaming plane = streaming := by
  simp [Inst.setStreaming]

theorem setStreaming_of_ne (inst : Inst) {plane q : Plane} (streaming : Bool) (hne : q ≠ plane) :
    (inst.setStreaming plane streaming).streaming q = inst.streaming q := by
  simp [Inst.setStreaming, hne]

@[simp]
theorem setBuf_ready (inst : Inst) (plane : Plane) (i : Nat) (buf : IrisBuffer) :
    (inst.setBuf plane i buf).ready = inst.ready := rfl

/-! ### To the firmware -/

@[simp]
theorem irisQueueBuffer_fst (ret : Int) (plane : Plane) (i : Nat) (inst : Inst) :
    (irisQueueBuffer ret plane i inst).1 = ret := by
  unfold irisQueueBuffer
  split_ifs with hret
  · rfl
  · exact (not_not.1 hret).symm

theorem irisQueueBuffer_refused {ret : Int} (hret : ret ≠ 0) (plane : Plane) (i : Nat)
    (inst : Inst) : irisQueueBuffer ret plane i inst = (ret, inst) := by
  rw [irisQueueBuffer, if_pos hret]

theorem queueDeferred_cons (ret : Nat → Int) (plane : Plane) (i : Nat) (rest : List Nat)
    (inst : Inst) :
    queueDeferred ret plane (i :: rest) inst =
      if (inst.buf plane i).attr.deferred = true then
        if ret i = 0 then queueDeferred ret plane rest (irisQueueBuffer 0 plane i inst).2
        else (ret i, inst)
      else queueDeferred ret plane rest inst := by
  rw [queueDeferred]
  cases (inst.buf plane i).attr.deferred with
  | false => simp
  | true =>
      by_cases hret : ret i = 0
      · simp [hret]
      · simp [hret, irisQueueBuffer_refused]

@[simp]
theorem irisQueueBuffer_state (ret : Int) (plane : Plane) (i : Nat) (inst : Inst) :
    (irisQueueBuffer ret plane i inst).2.state = inst.state := by
  unfold irisQueueBuffer
  split_ifs <;> rfl

@[simp]
theorem queueDeferred_state (ret : Nat → Int) (plane : Plane) (indices : List Nat) (inst : Inst) :
    (queueDeferred ret plane indices inst).2.state = inst.state := by
  induction indices generalizing inst with
  | nil => rfl
  | cons i rest ih =>
      rw [queueDeferred_cons]
      split_ifs
      · rw [ih, irisQueueBuffer_state]
      · rfl
      · exact ih inst

/-! ### To videobuf2 -/

theorem irisVb2BufferDone_absent {plane : Plane} {i : Nat} {inst : Inst}
    (habsent : i ∉ inst.ready plane) : irisVb2BufferDone plane i inst = (-einval, inst) :=
  if_pos habsent

/-- What completing a listed buffer gives back, and how. -/
structure GivesBack (plane : Plane) (i : Nat) (inst : Inst) (state : Vb2State)
    (payload : Option Payload) : Prop where
  rollback : inst.startStreamingRollbackType = some plane → state = .queued ∧ payload = none
  error : inst.startStreamingRollbackType ≠ some plane →
    hasFlag (inst.buf plane i).flags v4l2BufFlagError = true → state = .error ∧ payload = none
  delivered : inst.startStreamingRollbackType ≠ some plane →
    hasFlag (inst.buf plane i).flags v4l2BufFlagError = false → state = .done ∧
      payload = some
        { bytesused := payloadBytesused plane (inst.buf plane i)
          flags := inst.vbufFlags plane i ||| (inst.buf plane i).flags
          timestamp := (inst.buf plane i).timestamp }

theorem irisVb2BufferDone_listed {plane : Plane} {i : Nat} {inst : Inst}
    (hlisted : i ∈ inst.ready plane) :
    ∃ state payload vbufFlags m2mStopped lastBufferDequeued,
      GivesBack plane i inst state payload ∧
      irisVb2BufferDone plane i inst =
        (0, { inst with
          ready := Function.update inst.ready plane ((inst.ready plane).erase i)
          vbufFlags, m2mStopped, lastBufferDequeued
          log := inst.log ++ [.done plane i state payload] }) := by
  by_cases hrollback : inst.startStreamingRollbackType = some plane
  · refine ⟨.queued, none, inst.vbufFlags, inst.m2mStopped, inst.lastBufferDequeued,
      ⟨fun _ => ⟨rfl, rfl⟩, fun h => absurd hrollback h, fun h => absurd hrollback h⟩, ?_⟩
    exact (if_neg (not_not.2 hlisted)).trans (if_pos hrollback)
  · by_cases herror : hasFlag (inst.buf plane i).flags v4l2BufFlagError = true
    · refine ⟨.error, none, _, inst.m2mStopped, inst.lastBufferDequeued,
        ⟨fun h => absurd h hrollback, fun _ _ => ⟨rfl, rfl⟩, fun _ h => ?_⟩,
        (if_neg (not_not.2 hlisted)).trans ((if_neg hrollback).trans (if_pos herror))⟩
      rw [herror] at h
      exact absurd h (by decide)
    · exact ⟨.done, _, _, _, _,
        ⟨fun h => absurd h hrollback, fun _ h => absurd h herror, fun _ _ => ⟨rfl, rfl⟩⟩,
        (if_neg (not_not.2 hlisted)).trans ((if_neg hrollback).trans (if_neg herror))⟩

theorem irisVb2BufferDone_frame (plane : Plane) (i : Nat) (inst : Inst) :
    ∃ ready vbufFlags m2mStopped lastBufferDequeued log, (irisVb2BufferDone plane i inst).2 =
      { inst with ready, vbufFlags, m2mStopped, lastBufferDequeued, log } := by
  by_cases hlisted : i ∈ inst.ready plane
  · obtain ⟨_, _, _, _, _, -, heq⟩ := irisVb2BufferDone_listed hlisted
    rw [heq]
    exact ⟨_, _, _, _, _, rfl⟩
  · rw [irisVb2BufferDone_absent hlisted]
    exact ⟨_, _, _, _, _, rfl⟩

@[simp]
theorem irisVb2BufferDone_state (plane : Plane) (i : Nat) (inst : Inst) :
    (irisVb2BufferDone plane i inst).2.state = inst.state := by
  obtain ⟨_, _, _, _, _, heq⟩ := irisVb2BufferDone_frame plane i inst
  rw [heq]

theorem irisVb2BufferDone_buf (plane : Plane) (i : Nat) (inst : Inst) :
    (irisVb2BufferDone plane i inst).2.buf = inst.buf := by
  obtain ⟨_, _, _, _, _, heq⟩ := irisVb2BufferDone_frame plane i inst
  rw [heq]

theorem irisVb2BufferDone_pending (plane : Plane) (i : Nat) (inst : Inst) :
    (irisVb2BufferDone plane i inst).2.pendingOutput = inst.pendingOutput := by
  obtain ⟨_, _, _, _, _, heq⟩ := irisVb2BufferDone_frame plane i inst
  rw [heq]

theorem irisVb2BufferDone_rollback (plane : Plane) (i : Nat) (inst : Inst) :
    (irisVb2BufferDone plane i inst).2.startStreamingRollbackType =
      inst.startStreamingRollbackType := by
  obtain ⟨_, _, _, _, _, heq⟩ := irisVb2BufferDone_frame plane i inst
  rw [heq]

end NabuIris
