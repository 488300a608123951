import NabuIris.Proof.Ownership

/-!
# The CAPTURE buffers of a legacy VP9 decoder

In every run a listed CAPTURE buffer carries no error flag and is not both deferred and queued, and
the slot of the held frame is free whenever a frame is to be held.
-/

namespace NabuIris

structure Vp9Legacy (inst : Inst) : Prop where
  gen : inst.gen = .gen1
  domain : inst.domain = .decoder
  legacy : inst.legacyVpu5 = true
  codec : inst.codec = .vp9

structure IrisBuffer.Tidy (buf : IrisBuffer) : Prop where
  noError : hasFlag buf.flags v4l2BufFlagError = false
  notDeferred : buf.attr.queued = true → buf.attr.deferred = false

structure Tidy (inst : Inst) : Prop where
  vp9 : Vp9Legacy inst
  nodup : (inst.ready .capture).Nodup
  bufs : ∀ i ∈ inst.ready .capture, (inst.buf .capture i).Tidy
  refused : ∀ i, .holdRefused i ∉ inst.log

theorem hasFlag_or {w : Nat} (flags flags' mask : BitVec w) :
    hasFlag (flags ||| flags') mask = (hasFlag flags mask || hasFlag flags' mask) := by
  unfold hasFlag
  rw [BitVec.and_comm, BitVec.and_or_distrib_left]
  by_cases hleft : flags &&& mask = 0 <;> by_cases hright : flags' &&& mask = 0 <;>
    simp_all [BitVec.and_comm]

theorem recycled_tidy (buf : IrisBuffer) : buf.recycled.Tidy :=
  ⟨by simp [IrisBuffer.recycled, hasFlag], fun hqueued => by cases hqueued⟩

/-! ### Moves -/

namespace Tidy

variable {inst t : Inst}

theorem same (htidy : Tidy inst) (hvp9 : Vp9Legacy t) (hready : t.ready = inst.ready)
    (hbuf : t.buf = inst.buf) (hlog : t.log = inst.log) : Tidy t := by
  refine ⟨hvp9, by rw [hready]; exact htidy.nodup, ?_, by rw [hlog]; exact htidy.refused⟩
  rw [hready, hbuf]
  exact htidy.bufs

theorem note (htidy : Tidy inst) {event : BufEvent} (hevent : ∀ i, event ≠ .holdRefused i) :
    Tidy (inst.record event) := by
  refine ⟨⟨htidy.vp9.1, htidy.vp9.2, htidy.vp9.3, htidy.vp9.4⟩, htidy.nodup, htidy.bufs,
    fun i hi => ?_⟩
  rcases List.mem_append.1 hi with h | h
  · exact htidy.refused i h
  · exact hevent i (List.mem_singleton.1 h).symm

theorem setBuf (htidy : Tidy inst) {plane : Plane} {i : Nat} {buf : IrisBuffer}
    (hbuf : plane = .capture → i ∈ inst.ready .capture → buf.Tidy) :
    Tidy (inst.setBuf plane i buf) := by
  refine ⟨⟨htidy.vp9.1, htidy.vp9.2, htidy.vp9.3, htidy.vp9.4⟩, htidy.nodup, fun k hk => ?_,
    htidy.refused⟩
  by_cases hsame : .capture = plane ∧ k = i
  · obtain ⟨rfl, rfl⟩ := hsame
    rw [setBuf_buf]
    exact hbuf rfl hk
  · rw [setBuf_buf_of_ne _ _ hsame]
    exact htidy.bufs k hk

/-- A buffer that goes back may have been stored into before. -/
theorem given (htidy : Tidy inst) {plane : Plane} {i : Nat} {state : Vb2State}
    {payload : Option Payload} (hvp9 : Vp9Legacy t)
    (hready : t.ready = Function.update inst.ready plane ((inst.ready plane).erase i))
    (hbuf : ∀ k, ¬(.capture = plane ∧ k = i) → t.buf .capture k = inst.buf .capture k)
    (hlog : t.log = inst.log ++ [.done plane i state payload]) : Tidy t := by
  have hstays : t.ready .capture =
      if .capture = plane then (inst.ready .capture).erase i else inst.ready .capture := by
    rw [hready]
    split_ifs with hplane
    · subst hplane
      exact Function.update_self _ _ _
    · exact Function.update_of_ne hplane _ _
  have hlisted : ∀ k ∈ t.ready .capture,
      ¬(.capture = plane ∧ k = i) ∧ k ∈ inst.ready .capture := by
    intro k hk
    rw [hstays] at hk
    split_ifs at hk with hplane
    · exact ⟨fun h => (htidy.nodup.mem_erase_iff.1 hk).1 h.2, List.mem_of_mem_erase hk⟩
    · exact ⟨fun h => hplane h.1, hk⟩
  refine ⟨hvp9, ?_, fun k hk => ?_, fun k hk => ?_⟩
  · rw [hstays]
    split_ifs
    · exact htidy.nodup.erase i
    · exact htidy.nodup
  · rw [hbuf k (hlisted k hk).1]
    exact htidy.bufs k (hlisted k hk).2
  · rw [hlog] at hk
    rcases List.mem_append.1 hk with h | h
    · exact htidy.refused k h
    · cases List.mem_singleton.1 h

theorem complete (htidy : Tidy inst) (plane : Plane) (i : Nat) (buf : IrisBuffer) :
    Tidy (irisVb2BufferDone plane i (inst.setBuf plane i buf)).2 := by
  by_cases hlisted : i ∈ (inst.setBuf plane i buf).ready plane
  · obtain ⟨state, payload, vbufFlags, stopped, last, -, heq⟩ := irisVb2BufferDone_listed hlisted
    rw [heq]
    exact htidy.given ⟨htidy.vp9.1, htidy.vp9.2, htidy.vp9.3, htidy.vp9.4⟩ rfl
      (fun k hk => setBuf_buf_of_ne _ _ hk) rfl
  · rw [irisVb2BufferDone_absent hlisted]
    refine htidy.setBuf ?_
    rintro rfl h
    exact absurd h hlisted

theorem bufferDone (htidy : Tidy inst) (plane : Plane) (i : Nat) :
    Tidy (irisVb2BufferDone plane i inst).2 := by
  have hsame : inst.setBuf plane i (inst.buf plane i) = inst := by
    simp [Inst.setBuf]
  have hcomplete := htidy.complete plane i (inst.buf plane i)
  rwa [hsame] at hcomplete

theorem queueBuffer (htidy : Tidy inst) (ret : Int) (plane : Plane) (i : Nat) :
    Tidy (irisQueueBuffer ret plane i inst).2 := by
  unfold irisQueueBuffer
  split_ifs
  · exact htidy
  · refine note (htidy.setBuf ?_) fun _ h => by cases h
    rintro rfl hlisted
    exact ⟨(htidy.bufs i hlisted).noError, fun _ => rfl⟩

theorem back (htidy : Tidy inst) (plane : Plane) (i : Nat) (state : Vb2State) :
    Tidy (v4l2M2mBufDone plane i state none (v4l2M2mBufRemove plane i inst)) :=
  htidy.given ⟨htidy.vp9.1, htidy.vp9.2, htidy.vp9.3, htidy.vp9.4⟩ rfl (fun _ _ => rfl) rfl

theorem enterError (htidy : Tidy inst) : Tidy inst.enterError := by
  rw [enterError_eq]
  exact htidy.same ⟨htidy.vp9.1, htidy.vp9.2, htidy.vp9.3, htidy.vp9.4⟩ rfl rfl rfl

end Tidy

/-! ### Buffer completions -/

theorem ftbEos_frame (env : FtbEnv) (pkt : FtbDone) (inst : Inst) :
    ∃ subState flushResponsesPending,
      ftbEos env pkt inst = { inst with subState, flushResponsesPending } := by
  let Framed (t : Inst) : Prop :=
    ∃ subState flushResponsesPending, t = { inst with subState, flushResponsesPending }
  have hflushed : Framed (sessionFlush env.flushRet inst) :=
    applyIf_rule (P := Framed) (fun _ => ⟨_, _, rfl⟩) fun _ => ⟨_, _, rfl⟩
  have hdrained : Framed (irisInstSubStateChangeDrainLast (sessionFlush env.flushRet inst)).2 := by
    obtain ⟨subState, pending, heq⟩ := hflushed
    rw [heq]
    unfold irisInstSubStateChangeDrainLast irisInstChangeSubState
    split_ifs <;> exact ⟨_, _, rfl⟩
  exact applyIf_rule (P := Framed) (fun _ => ⟨_, _, rfl⟩) fun _ => hdrained

theorem ftbHeld_vp9 {inst : Inst} (hvp9 : Vp9Legacy inst) (pkt : FtbDone) :
    ftbHeld pkt inst = pkt.filled := by
  simp [ftbHeld, hvp9.domain, hvp9.legacy, hvp9.codec]

theorem ftbDropped_vp9 {inst : Inst} (hvp9 : Vp9Legacy inst) (pkt : FtbDone) :
    ftbDropped pkt inst = false := by
  simp [ftbDropped, hvp9.codec]

theorem ftbPending_vp9 {inst : Inst} (hvp9 : Vp9Legacy inst) (env : FtbEnv) (pkt : FtbDone) :
    ftbPending env pkt inst =
      if pkt.filled = true ∧ pendingHasTimestamp pkt.timestamp inst = true then
        irisVdecRecyclePendingOutput env.queueRet inst
      else irisVdecCompletePendingOutput inst := by
  rw [ftbPending, if_pos ⟨hvp9.domain, hvp9.legacy⟩]
  simp [hvp9.codec]

theorem ftbFlags_noError {inst : Inst} {pkt : FtbDone} (hheld : ftbHeld pkt inst = true)
    (last : Bool) : hasFlag (ftbFlags pkt last inst) v4l2BufFlagError = false := by
  have hlast : hasFlag (if last then v4l2BufFlagLast else 0) v4l2BufFlagError = false := by
    cases last <;> decide
  have hpicture : hasFlag (pictureFlags pkt.pictureType) v4l2BufFlagError = false := by
    cases pkt.pictureType <;> decide
  rw [ftbFlags, hasFlag_or, hasFlag_or, hlast, hpicture, hheld]
  simp [hasFlag]

theorem irisVdecCompletePendingOutput_free (inst : Inst) :
    (irisVdecCompletePendingOutput inst).2.pendingOutput = none := by
  unfold irisVdecCompletePendingOutput
  cases hpending : inst.pendingOutput with
  | none => exact hpending
  | some k => exact irisVb2BufferDone_pending .capture k { inst with pendingOutput := none }

theorem irisVdecRecyclePendingOutput_free (ret : Int) (inst : Inst) :
    (irisVdecRecyclePendingOutput ret inst).2.pendingOutput = none := by
  unfold irisVdecRecyclePendingOutput irisQueueBuffer
  cases hpending : inst.pendingOutput with
  | none => exact hpending
  | some k =>
      simp only
      split_ifs <;> rfl

theorem ftbPending_free {inst : Inst} (hvp9 : Vp9Legacy inst) (env : FtbEnv) (pkt : FtbDone) :
    (ftbPending env pkt inst).2.pendingOutput = none := by
  rw [ftbPending_vp9 hvp9]
  split_ifs
  · exact irisVdecRecyclePendingOutput_free env.queueRet inst
  · exact irisVdecCompletePendingOutput_free inst

namespace Tidy

variable {inst : Inst}

theorem ftbPending (htidy : Tidy inst) (env : FtbEnv) (pkt : FtbDone) :
    Tidy (ftbPending env pkt inst).2 := by
  have hfree : Tidy { inst with pendingOutput := none } :=
    htidy.same ⟨htidy.vp9.1, htidy.vp9.2, htidy.vp9.3, htidy.vp9.4⟩ rfl rfl rfl
  rw [ftbPending_vp9 htidy.vp9]
  split_ifs
  · unfold irisVdecRecyclePendingOutput
    cases inst.pendingOutput with
    | none => exact htidy
    | some k => exact (hfree.setBuf fun _ _ => recycled_tidy _).queueBuffer _ _ _
  · unfold irisVdecCompletePendingOutput
    cases inst.pendingOutput with
    | none => exact htidy
    | some k => exact hfree.bufferDone _ _

theorem ftbUnmatched (htidy : Tidy inst) : Tidy (ftbUnmatched inst) :=
  applyIf_keep _ htidy enterError

/-- A delivered frame keeps its flags in order, or leaves the list. -/
theorem ftbDeliver (htidy : Tidy inst) (hfree : inst.pendingOutput = none) (pkt : FtbDone)
    (last : Bool) (i : Nat) : Tidy (ftbDeliver pkt last i inst) := by
  unfold NabuIris.ftbDeliver
  simp only
  split_ifs with hheld
  · have hfilled : ftbHeld pkt inst = true := hheld
    have hstored : Tidy (inst.setBuf .capture i
        { inst.buf .capture i with
          flags := (inst.buf .capture i).flags ||| ftbFlags pkt last inst
          attr := { (inst.buf .capture i).attr with
            queued := false, dequeued := true, bufferDone := true } }) := by
      refine htidy.setBuf fun _ hlisted => ⟨?_, fun h => by cases h⟩
      rw [hasFlag_or, (htidy.bufs i hlisted).noError, ftbFlags_noError hfilled]
      rfl
    rw [irisVdecHoldOutput, if_neg (by simp [Inst.setBuf, hfree]), orGoto_zero]
    exact hstored.same ⟨htidy.vp9.1, htidy.vp9.2, htidy.vp9.3, htidy.vp9.4⟩ rfl rfl rfl
  · exact htidy.complete .capture i _

theorem ftbOutput (htidy : Tidy inst) (env : FtbEnv) (pkt : FtbDone) {i : Nat}
    (hlisted : i ∈ inst.ready .capture) : Tidy (ftbOutput env pkt i inst) := by
  have hlast : Tidy
      { inst with lastBufferDequeued := inst.lastBufferDequeued || ftbLast pkt inst } :=
    htidy.same ⟨htidy.vp9.1, htidy.vp9.2, htidy.vp9.3, htidy.vp9.4⟩ rfl rfl rfl
  have hstored : Tidy (ftbStore pkt i inst) :=
    hlast.setBuf fun _ _ => ⟨(htidy.bufs i hlisted).1, (htidy.bufs i hlisted).2⟩
  have hpending := hstored.ftbPending env pkt
  have hfree := ftbPending_free hstored.vp9 env pkt
  refine orGoto_rule (fun ret t heq _ => ?_) fun t heq => ?_
  · rw [heq] at hpending
    exact hpending.ftbUnmatched
  · rw [heq] at hpending hfree
    rw [ftbComplete, ftbDropped_vp9 hpending.vp9]
    have hdrops : Tidy { t with corruptOutputDrops := 0 } :=
      hpending.same ⟨hpending.vp9.1, hpending.vp9.2, hpending.vp9.3, hpending.vp9.4⟩ rfl rfl rfl
    exact applyIf_rule (P := fun t => Tidy (NabuIris.ftbDeliver pkt (ftbLast pkt inst) i t))
      (fun _ => hpending.ftbDeliver hfree pkt _ i) fun _ => hdrops.ftbDeliver hfree pkt _ i

theorem ftbDone (htidy : Tidy inst) (env : FtbEnv) (pkt : FtbDone) :
    Tidy (irisHfiGen1SessionFtbDone env pkt inst) := by
  have heos : Tidy (ftbEos env pkt inst) := by
    obtain ⟨subState, pending, heq⟩ := ftbEos_frame env pkt inst
    rw [heq]
    exact htidy.same ⟨htidy.vp9.1, htidy.vp9.2, htidy.vp9.3, htidy.vp9.4⟩ rfl rfl rfl
  unfold irisHfiGen1SessionFtbDone
  split_ifs
  · exact applyIf_keep (P := Tidy) _ heos ftbUnmatched
  · unfold ftbMatch
    cases hfind : ftbFind pkt (ftbEos env pkt inst) with
    | none => exact heos.ftbUnmatched
    | some i => exact heos.ftbOutput env pkt (ftbFind_spec hfind).1

/-! ### Events -/

theorem step {t : Inst} (htidy : Tidy inst) (hstep : EventStep (· = .output) inst t) : Tidy t := by
  have hvp9 := htidy.vp9
  cases hstep with
  | fields => exact htidy.same ⟨hvp9.1, hvp9.2, hvp9.3, hvp9.4⟩ rfl rfl rfl
  | error => exact htidy.same ⟨hvp9.1, hvp9.2, hvp9.3, hvp9.4⟩ rfl rfl rfl
  | touch hplane => exact htidy.setBuf fun h => by rw [hplane] at h; cases h
  | free hplane => exact htidy.setBuf fun h => by rw [hplane] at h; cases h
  | complete => exact htidy.complete _ _ _
  | submit => exact htidy.queueBuffer _ _ _
  | requeue _ hplane => cases hplane
  | recyclePending _ hplane => cases hplane
  | completePending hplane => cases hplane
  | hold hplane => cases hplane

theorem steps {t : Inst} (htidy : Tidy inst) (hsteps : EventSteps (· = .output) inst t) :
    Tidy t := by
  induction hsteps with
  | refl => exact htidy
  | tail _ hstep ih => exact ih.step hstep

theorem event (htidy : Tidy inst) (event : Event) : Tidy (handleEvent event inst) := by
  by_cases hftb : ∃ env pkt, event = .gen1 (.ftbDone env pkt)
  · obtain ⟨env, pkt, rfl⟩ := hftb
    simp only [handleEvent, htidy.vp9.gen]
    exact htidy.ftbDone env pkt
  · exact htidy.steps (handleEvent_steps_output htidy.vp9.gen fun env pkt h => hftb ⟨env, pkt, h⟩)

end Tidy

/-! ### Runs -/

theorem StreamSteps.tidy {keep : InstState → Prop} {s t : Inst} (hsteps : StreamSteps keep s t)
    (htidy : Tidy s) : Tidy t := by
  induction hsteps with
  | quiet hquiet _ =>
      have hvp9 := htidy.vp9
      rw [hquiet]
      exact htidy.same ⟨hvp9.1, hvp9.2, hvp9.3, hvp9.4⟩ rfl rfl rfl
  | event event _ => exact htidy.event event
  | submit plane i => exact htidy.queueBuffer 0 plane i
  | flush plane i buf => exact htidy.complete plane i buf
  | back state _ => exact htidy.back _ _ state
  | rollback _ ih =>
      have hvp9 := htidy.vp9
      have hafter := ih (htidy.same ⟨hvp9.1, hvp9.2, hvp9.3, hvp9.4⟩ rfl rfl rfl)
      exact hafter.same ⟨hafter.vp9.1, hafter.vp9.2, hafter.vp9.3, hafter.vp9.4⟩ rfl rfl rfl
  | trans _ _ hfirst hsecond => exact hsecond (hfirst htidy)

theorem irisQueueBuffer_frame (ret : Int) (plane : Plane) (i : Nat) (inst : Inst) :
    ∃ buf log, (irisQueueBuffer ret plane i inst).2 = { inst with buf, log } := by
  unfold irisQueueBuffer
  split_ifs
  · exact ⟨_, _, rfl⟩
  · exact ⟨_, _, rfl⟩

theorem irisQueueBuffer_rollback (ret : Int) (plane : Plane) (i : Nat) (inst : Inst) :
    (irisQueueBuffer ret plane i inst).2.startStreamingRollbackType =
      inst.startStreamingRollbackType := by
  obtain ⟨_, _, heq⟩ := irisQueueBuffer_frame ret plane i inst
  rw [heq]

theorem EventStep.rollbackType {touches : Plane → Prop} {s t : Inst}
    (hstep : EventStep touches s t) :
    t.startStreamingRollbackType = s.startStreamingRollbackType := by
  cases hstep with
  | fields | error | touch | free => rfl
  | complete => exact irisVb2BufferDone_rollback _ _ _
  | submit => exact irisQueueBuffer_rollback _ _ _ _
  | requeue => exact irisQueueBuffer_rollback _ _ _ _
  | recyclePending =>
      unfold irisVdecRecyclePendingOutput
      cases s.pendingOutput with
      | none => rfl
      | some k => exact irisQueueBuffer_rollback _ _ _ _
  | completePending =>
      unfold irisVdecCompletePendingOutput
      cases s.pendingOutput with
      | none => rfl
      | some k => exact irisVb2BufferDone_rollback _ _ _
  | hold =>
      unfold irisVdecHoldOutput
      split_ifs <;> rfl

theorem handleEvent_rollbackType (event : Event) (inst : Inst) :
    (handleEvent event inst).startStreamingRollbackType = inst.startStreamingRollbackType := by
  have hsteps := handleEvent_steps event inst
  generalize handleEvent event inst = after at hsteps ⊢
  induction hsteps with
  | refl => rfl
  | tail _ hstep ih => exact hstep.rollbackType.trans ih

/-- A rollback type that was set is cleared again. -/
theorem StreamSteps.rollbackType {keep : InstState → Prop} {s t : Inst}
    (hsteps : StreamSteps keep s t) (hnone : s.startStreamingRollbackType = none) :
    t.startStreamingRollbackType = none := by
  induction hsteps with
  | quiet hquiet _ =>
      rw [hquiet]
      exact hnone
  | event event _ => exact (handleEvent_rollbackType event _).trans hnone
  | submit plane i => exact (irisQueueBuffer_rollback 0 plane i _).trans hnone
  | flush plane i buf => exact (irisVb2BufferDone_rollback plane i _).trans hnone
  | back => exact hnone
  | rollback => rfl
  | trans _ _ hfirst hsecond => exact hsecond (hfirst hnone)

/-- A legacy VP9 decoder between two calls. -/
structure Sound (inst : Inst) : Prop where
  books : Books inst
  tidy : Tidy inst
  rollback : inst.startStreamingRollbackType = none

/-- Nothing is refused; videobuf2 masks the error flag out of what userspace queues. -/
def Op.Faultless : Op → Prop
  | .qbuf ret _ _ data => ret = 0 ∧ hasFlag data.flags v4l2BufFlagError = false
  | .streamon _ _ bufs => ∀ buf ∈ bufs, hasFlag buf.2.flags v4l2BufFlagError = false
  | _ => True

theorem setBuf_setBuf (inst : Inst) (plane : Plane) (i : Nat) (buf buf' : IrisBuffer) :
    (inst.setBuf plane i buf).setBuf plane i buf' = inst.setBuf plane i buf' := by
  simp [Inst.setBuf, Function.update_idem]

/-- An event that neither delivers a frame nor refuses to hold one. -/
def BufEvent.Plain : BufEvent → Prop
  | .holdRefused _ => False
  | .done .capture _ .done (some payload) => payload.bytesused = some 0
  | _ => True

/-- A queued buffer is deferred, or goes to the firmware. -/
theorem irisQbuf_eq (plane : Plane) (i : Nat) (data : QbufData) (inst : Inst) :
    ∃ attr log, attr.deferred = (!inst.streaming plane) ∧ attr.queued = inst.streaming plane ∧
      Lib.Grows BufEvent.Plain inst.log log ∧
      (irisQbuf 0 plane i data inst).2 =
        { inst.setBuf plane i { irisVb2BufferToDriver data with attr := attr } with log } := by
  unfold irisQbuf
  cases hstreaming : inst.streaming plane with
  | true =>
      have hsubmitted : Lib.Grows BufEvent.Plain inst.log (inst.log ++ [.submitted plane i]) :=
        (Lib.Grows.refl _).snoc trivial
      refine ⟨⟨false, true, false, false⟩, _, rfl, rfl, hsubmitted, ?_⟩
      simp only [Bool.not_true, Bool.false_eq_true, if_false, irisQueueBuffer, ne_eq,
        not_true_eq_false, setBuf_buf, setBuf_setBuf]
      rfl
  | false => exact ⟨⟨true, false, false, false⟩, inst.log, rfl, rfl, .refl _, rfl⟩

/-- What taking a buffer over comes to: it goes straight back, or it is listed. -/
theorem vb2BufQueue_cases {plane : Plane} {i : Nat} {data : QbufData} {inst : Inst}
    (hfree : driverOwns inst.log plane i = false) :
    (∃ vbufFlags instState m2mStopped lastBufferDequeued log,
      Lib.Grows BufEvent.Plain inst.log log ∧
      vb2BufQueue 0 plane i data inst =
        { inst with vbufFlags, m2mStopped, lastBufferDequeued, state := instState, log }) ∨
    ∃ attr vbufFlags log, attr.deferred = (!inst.streaming plane) ∧
      attr.queued = inst.streaming plane ∧ Lib.Grows BufEvent.Plain inst.log log ∧
      vb2BufQueue 0 plane i data inst =
        { (v4l2M2mBufQueue plane i inst).setBuf plane i
            { irisVb2BufferToDriver data with attr := attr } with vbufFlags, log } := by
  have hhanded : Lib.Grows BufEvent.Plain inst.log (inst.log ++ [.handed plane i]) :=
    (Lib.Grows.refl _).snoc trivial
  rw [vb2BufQueue, if_neg (by simp [hfree])]
  by_cases hlinks : LinksBuffer plane data
      ((inst.setVbufFlags plane i data.flags).record (.handed plane i))
  · right
    rw [irisVb2BufQueue_linked hlinks, if_neg (by simp)]
    obtain ⟨attr, log, hdeferred, hqueued, hlog, heq⟩ := irisQbuf_eq plane i data
      (v4l2M2mBufQueue plane i ((inst.setVbufFlags plane i data.flags).record (.handed plane i)))
    exact ⟨attr, _, log, hdeferred, hqueued, hhanded.trans hlog, heq⟩
  · left
    rcases @irisVb2BufQueue_rejected 0 plane i data _ hlinks with heq | heq
    · rw [heq, bufQueueFail, enterError_eq]
      exact ⟨_, _, _, _, _, hhanded.snoc (by cases plane <;> trivial), rfl⟩
    · rw [heq]
      unfold bufQueueLast v4l2M2mBufDone Inst.setVbufFlags Inst.record
      exact ⟨_, _, _, _, _, hhanded.snoc (by cases plane <;> trivial), rfl⟩

theorem Tidy.handOver {inst : Inst} (htidy : Tidy inst) (hbooks : Books inst) (plane : Plane)
    (i : Nat) {data : QbufData} (hflags : hasFlag data.flags v4l2BufFlagError = false) :
    Tidy (vb2BufQueue 0 plane i data inst) := by
  have hvp9 := htidy.vp9
  cases howned : driverOwns inst.log plane i with
  | true =>
      rw [vb2BufQueue, if_pos howned]
      exact htidy
  | false =>
      rcases @vb2BufQueue_cases plane i data inst howned with
        ⟨vbufFlags, instState, stopped, last, log, hlog, heq⟩ |
        ⟨attr, vbufFlags, log, hdeferred, hqueued, hlog, heq⟩
      · rw [heq]
        exact ⟨⟨hvp9.1, hvp9.2, hvp9.3, hvp9.4⟩, htidy.nodup, htidy.bufs,
          fun k hk => htidy.refused k (hlog.of_not_ok id hk)⟩
      · have hafter := @Books.handOver 0 plane i data inst hbooks fun _ _ _ => rfl
        rw [heq] at hafter ⊢
        refine ⟨⟨hvp9.1, hvp9.2, hvp9.3, hvp9.4⟩, hafter.nodup .capture, fun k hk => ?_,
          fun k hk => htidy.refused k (hlog.of_not_ok id hk)⟩
        by_cases hnew : .capture = plane ∧ k = i
        · obtain ⟨rfl, rfl⟩ := hnew
          simp only [setBuf_buf]
          refine ⟨hflags, fun hstreaming => ?_⟩
          rw [hqueued] at hstreaming
          rw [hdeferred, hstreaming]
          rfl
        · have hlisted : k ∈ inst.ready .capture := by
            by_cases hplane : .capture = plane
            · subst hplane
              have hk' : k ∈ inst.ready .capture ++ [i] := by
                simpa [v4l2M2mBufQueue, Inst.setReady] using hk
              rcases List.mem_append.1 hk' with h | h
              · exact h
              · exact absurd ⟨rfl, List.mem_singleton.1 h⟩ hnew
            · simpa [v4l2M2mBufQueue, Inst.setReady, Function.update_of_ne hplane] using hk
          simp only [setBuf_buf_of_ne _ _ hnew]
          exact htidy.bufs k hlisted

theorem Sound.handOver {inst : Inst} (hsound : Sound inst) (plane : Plane) (i : Nat)
    {data : QbufData} (hflags : hasFlag data.flags v4l2BufFlagError = false) :
    Sound (vb2BufQueue 0 plane i data inst) := by
  refine ⟨hsound.books.handOver fun _ _ _ => rfl, hsound.tidy.handOver hsound.books plane i hflags,
    ?_⟩
  cases howned : driverOwns inst.log plane i with
  | true =>
      rw [vb2BufQueue, if_pos howned]
      exact hsound.rollback
  | false =>
      rcases @vb2BufQueue_cases plane i data inst howned with
        ⟨_, _, _, _, _, _, heq⟩ | ⟨_, _, _, _, _, _, heq⟩
      · rw [heq]
        exact hsound.rollback
      · rw [heq]
        exact hsound.rollback

theorem Sound.handOvers {plane : Plane} {inst : Inst} (hsound : Sound inst)
    {bufs : List (Nat × QbufData)}
    (hflags : ∀ buf ∈ bufs, hasFlag buf.2.flags v4l2BufFlagError = false) :
    Sound (vb2HandOver plane bufs inst) := by
  unfold vb2HandOver
  induction bufs generalizing inst with
  | nil => exact hsound
  | cons buf rest ih =>
      exact ih (hsound.handOver plane buf.1 (hflags buf List.mem_cons_self))
        fun b hb => hflags b (List.mem_cons_of_mem _ hb)

theorem Sound.steps {keep : InstState → Prop} {s t : Inst} (hsound : Sound s)
    (hsteps : StreamSteps keep s t) : Sound t :=
  ⟨hsteps.settles.books hsound.books, hsteps.tidy hsound.tidy, hsteps.rollbackType hsound.rollback⟩

theorem Sound.setStreaming {inst : Inst} (hsound : Sound inst) (plane : Plane) (streaming : Bool) :
    Sound (inst.setStreaming plane streaming) := by
  have hvp9 := hsound.tidy.vp9
  exact ⟨⟨hsound.books.ledger, hsound.books.nodup⟩,
    hsound.tidy.same ⟨hvp9.1, hvp9.2, hvp9.3, hvp9.4⟩ rfl rfl rfl, hsound.rollback⟩

theorem Sound.applyOp {inst : Inst} {op : Op} (hsound : Sound inst) (hop : op.Faultless) :
    Sound (applyOp inst op) := by
  cases op with
  | reqbufs env =>
      exact hsound.steps ((StreamSteps.refl inst).queueSetup (stable_true .output) env)
  | qbuf ret plane i data =>
      obtain ⟨rfl, hflags⟩ := hop
      simp only [NabuIris.applyOp]
      split_ifs
      · exact hsound.handOver plane i hflags
      · exact hsound
  | streamon env plane bufs =>
      simp only [NabuIris.applyOp]
      split_ifs
      · exact hsound
      · have hstarted := (hsound.handOvers hop).steps
          ((StreamSteps.refl (vb2HandOver plane bufs inst)).startStreaming (stable_true plane) env)
        unfold vb2Streamon vb2StartStreaming
        exact applyIf_keep (P := Sound) _ hstarted fun h => h.setStreaming plane true
  | streamoff env plane =>
      simp only [NabuIris.applyOp]
      split_ifs
      · have hstopped := hsound.steps
          ((StreamSteps.refl inst).stopStreaming (stable_true plane) env)
        exact hstopped.setStreaming plane false
      · exact hsound
  | event event =>
      have hstep : StreamSteps (fun _ => True) inst (handleEvent event inst) :=
        .event event trivial
      exact hsound.steps hstep

/-- A legacy VP9 decoder as `iris_open` leaves it. -/
structure OpenedVp9 (inst : Inst) : Prop extends Fresh inst, Vp9Legacy inst where
  rollback : inst.startStreamingRollbackType = none

theorem OpenedVp9.sound {inst : Inst} (hopened : OpenedVp9 inst) : Sound inst := by
  refine ⟨hopened.toFresh.accounted.books, ⟨hopened.toVp9Legacy, ?_, ?_, ?_⟩, hopened.rollback⟩
  · rw [hopened.ready .capture]
    exact List.nodup_nil
  · rw [hopened.ready .capture]
    exact fun i hi => absurd hi List.not_mem_nil
  · rw [hopened.log]
    exact fun i hi => absurd hi List.not_mem_nil

theorem Sound.instAfter {inst : Inst} (hsound : Sound inst) {ops : List Op}
    (hops : ∀ op ∈ ops, op.Faultless) : Sound (instAfter inst ops) := by
  unfold NabuIris.instAfter
  induction ops generalizing inst with
  | nil => exact hsound
  | cons op rest ih =>
      exact ih (hsound.applyOp (hops op List.mem_cons_self))
        fun o ho => hops o (List.mem_cons_of_mem _ ho)

end NabuIris
