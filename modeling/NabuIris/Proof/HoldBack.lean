import NabuIris.Lib.DelayLine
import NabuIris.Proof.Vp9Buffers

/-!
# The hold-back law of legacy VP9

The completions of the OUTPUT stream pass through a one-slot delay line, whatever happens between
them. The slot holds the last frame of the unfinished run.
-/

namespace NabuIris

open Lib

/-! ### Completions and what they do -/

/-- The stream whose buffers are `vb2` buffers. -/
def FtbDone.OutputStream (pkt : FtbDone) (inst : Inst) : Prop :=
  ¬(inst.splitMode = true ∧ inst.domain = .decoder ∧ pkt.streamId = 0)

instance (pkt : FtbDone) (inst : Inst) : Decidable (pkt.OutputStream inst) :=
  inferInstanceAs (Decidable (¬_))

/-- The completion of the OUTPUT stream that `op` is. -/
def Op.completion (inst : Inst) : Op → Option FtbDone
  | .event (.gen1 (.ftbDone _ pkt)) => if pkt.OutputStream inst then some pkt else none
  | _ => none

def newEvents (inst : Inst) (op : Op) : List BufEvent :=
  (applyOp inst op).log.drop inst.log.length

/-- The completions of a run, each with what the driver does about it. -/
def completions : Inst → List Op → List (FtbDone × List BufEvent)
  | _, [] => []
  | inst, op :: rest =>
      ((op.completion inst).map fun pkt => (pkt, newEvents inst op)).toList ++
        completions (applyOp inst op) rest

/-- Between two stream starts: nothing is refused, and each completion of the OUTPUT stream matches
a queued buffer. -/
def HoldStep (inst : Inst) : Op → Prop
  | .qbuf ret _ _ data => ret = 0 ∧ hasFlag data.flags v4l2BufFlagError = false
  | .event (.gen1 (.ftbDone env pkt)) =>
      pkt.OutputStream inst → env.queueRet = 0 ∧ (ftbFind pkt inst).isSome
  | .event _ => True
  | _ => False

def sameTimestamp (pkt pkt' : FtbDone) : Bool := pkt.timestamp == pkt'.timestamp

/-- What the driver's log shows of an action of the delay line. -/
inductive Shows : LineAction FtbDone → BufEvent → Prop
  /-- back to the firmware -/
  | recycled (pkt : FtbDone) : Shows (.drop pkt) (.submitted .capture pkt.outputTag)
  /-- to userspace, with the frame -/
  | delivered (pkt : FtbDone) (flags : BufFlags) (hfilled : pkt.filled = true) :
      Shows (.pass pkt) (.done .capture pkt.outputTag .done
        (some { bytesused := some pkt.filledLen, flags := flags, timestamp := pkt.timestamp }))
  /-- to userspace, without a frame -/
  | returned (pkt : FtbDone) (state : Vb2State) (payload : Option Payload)
      (hstate : state ≠ .queued) (hempty : pkt.filled = false) :
      Shows (.pass pkt) (.done .capture pkt.outputTag state payload)

/-! ### The slot -/

/-- The frame of `pkt` sits in the slot: its buffer is the driver's, listed and not queued. -/
structure HeldFrame (pkt : FtbDone) (inst : Inst) : Prop where
  filled : pkt.filled = true
  listed : pkt.outputTag ∈ inst.ready .capture
  queued : (inst.buf .capture pkt.outputTag).attr.queued = false
  deferred : (inst.buf .capture pkt.outputTag).attr.deferred = false
  timestamp : (inst.buf .capture pkt.outputTag).timestamp = pkt.timestamp
  dataSize : (inst.buf .capture pkt.outputTag).dataSize = pkt.filledLen

structure Slot (held : Option FtbDone) (inst : Inst) : Prop where
  pending : inst.pendingOutput = held.map FtbDone.outputTag
  frame : ∀ pkt ∈ held, HeldFrame pkt inst

theorem HeldFrame.same {pkt : FtbDone} {s t : Inst} (hframe : HeldFrame pkt s)
    (hlisted : pkt.outputTag ∈ t.ready .capture)
    (hbuf : t.buf .capture pkt.outputTag = s.buf .capture pkt.outputTag) : HeldFrame pkt t := by
  refine ⟨hframe.filled, hlisted, ?_, ?_, ?_, ?_⟩ <;> rw [hbuf]
  · exact hframe.queued
  · exact hframe.deferred
  · exact hframe.timestamp
  · exact hframe.dataSize

theorem Slot.same {held : Option FtbDone} {s t : Inst} (hslot : Slot held s)
    (hpending : t.pendingOutput = s.pendingOutput)
    (hlisted : ∀ pkt ∈ held, pkt.outputTag ∈ s.ready .capture → pkt.outputTag ∈ t.ready .capture)
    (hbuf : ∀ pkt ∈ held, t.buf .capture pkt.outputTag = s.buf .capture pkt.outputTag) :
    Slot held t := by
  refine ⟨hpending.trans hslot.pending, fun pkt hpkt => ?_⟩
  have hframe := hslot.frame pkt hpkt
  exact hframe.same (hlisted pkt hpkt hframe.listed) (hbuf pkt hpkt)

theorem update_capture_of_output {α : Type} (f : Plane → α) (value : α) :
    Function.update f .output value .capture = f .capture :=
  Function.update_of_ne (by decide) _ _

/-- An event that does not touch CAPTURE buffers leaves the slot alone. -/
theorem Slot.step {held : Option FtbDone} {s t : Inst} (hslot : Slot held s)
    (hstep : EventStep (· = .output) s t) : Slot held t := by
  cases hstep with
  | fields | error => exact hslot.same rfl (fun _ _ => id) fun _ _ => rfl
  | @touch plane i buf hplane =>
      refine hslot.same rfl (fun _ _ => id) fun _ _ => setBuf_buf_of_ne _ _ fun h => ?_
      rw [hplane] at h
      cases h.1
  | @free plane i buf hplane =>
      refine hslot.same rfl (fun _ _ => id) fun _ _ => setBuf_buf_of_ne _ _ fun h => ?_
      rw [hplane] at h
      cases h.1
  | @complete plane i buf hplane =>
      subst hplane
      refine hslot.same (irisVb2BufferDone_pending _ _ _) (fun pkt hpkt hlisted => ?_)
        fun pkt hpkt => ?_
      · by_cases hmem : i ∈ (s.setBuf .output i buf).ready .output
        · obtain ⟨_, _, _, _, _, -, heq⟩ := irisVb2BufferDone_listed hmem
          rw [heq]
          simp only [update_capture_of_output]
          exact hlisted
        · rw [irisVb2BufferDone_absent hmem]
          exact hlisted
      · rw [irisVb2BufferDone_buf]
        exact setBuf_buf_of_ne _ _ fun h => by cases h.1
  | @submit plane i hdeferred =>
      refine hslot.same rfl (fun _ _ => id) fun pkt hpkt => setBuf_buf_of_ne _ _ ?_
      rintro ⟨rfl, rfl⟩
      rw [(hslot.frame pkt hpkt).deferred] at hdeferred
      cases hdeferred
  | requeue _ hplane => cases hplane
  | recyclePending _ hplane => cases hplane
  | completePending hplane => cases hplane
  | hold hplane => cases hplane

theorem Slot.steps {held : Option FtbDone} {s t : Inst} (hslot : Slot held s)
    (hsteps : EventSteps (· = .output) s t) : Slot held t := by
  induction hsteps with
  | refl => exact hslot
  | tail _ hstep ih => exact ih.step hstep

/-! ### Steps that are no completion -/

theorem handleEvent_steps_other {inst : Inst} (hvp9 : Vp9Legacy inst) {event : Event}
    (hother : (Op.event event).completion inst = none) :
    EventSteps (· = .output) inst (handleEvent event inst) := by
  by_cases hftb : ∃ env pkt, event = .gen1 (.ftbDone env pkt)
  · obtain ⟨env, pkt, rfl⟩ := hftb
    have hdpb : inst.splitMode = true ∧ inst.domain = .decoder ∧ pkt.streamId = 0 := by
      by_contra hstream
      have houtput : pkt.OutputStream inst := hstream
      simp [Op.completion, houtput] at hother
    have hrefl : EventSteps (· = .output) inst inst := .refl
    simp only [handleEvent, hvp9.gen, irisHfiGen1HandleResponse, irisHfiGen1SessionFtbDone]
    rw [if_pos hdpb]
    exact (hrefl.ftbEos env pkt).applyIf _ EventSteps.ftbUnmatched
  · exact handleEvent_steps_output hvp9.gen fun env pkt h => hftb ⟨env, pkt, h⟩

theorem Slot.handOver {held : Option FtbDone} {inst : Inst} (hslot : Slot held inst)
    (hsound : Sound inst) (plane : Plane) (i : Nat) (data : QbufData) :
    Slot held (vb2BufQueue 0 plane i data inst) := by
  cases howned : driverOwns inst.log plane i with
  | true =>
      rw [vb2BufQueue, if_pos howned]
      exact hslot
  | false =>
      rcases @vb2BufQueue_cases plane i data inst howned with
        ⟨_, _, _, _, _, _, heq⟩ | ⟨attr, vbufFlags, log, _, _, _, heq⟩
      · rw [heq]
        exact hslot.same rfl (fun _ _ => id) fun _ _ => rfl
      · rw [heq]
        refine hslot.same rfl (fun pkt hpkt hlisted => ?_) fun pkt hpkt => ?_
        · by_cases hplane : .capture = plane
          · subst hplane
            simpa [v4l2M2mBufQueue, Inst.setReady] using .inl hlisted
          · simpa [v4l2M2mBufQueue, Inst.setReady, Function.update_of_ne hplane] using hlisted
        · refine setBuf_buf_of_ne _ _ ?_
          rintro ⟨rfl, rfl⟩
          exact hsound.books.not_listed howned (hslot.frame pkt hpkt).listed

theorem HoldStep.faultless {inst : Inst} {op : Op} (hstep : HoldStep inst op) : op.Faultless := by
  cases op with
  | qbuf ret plane i data => exact hstep
  | streamon env plane bufs => exact hstep.elim
  | reqbufs env => trivial
  | streamoff env plane => trivial
  | event event => trivial

theorem Slot.other {held : Option FtbDone} {inst : Inst} {op : Op} (hslot : Slot held inst)
    (hsound : Sound inst) (hstep : HoldStep inst op) (hother : op.completion inst = none) :
    Slot held (applyOp inst op) := by
  cases op with
  | qbuf ret plane i data =>
      obtain ⟨rfl, -⟩ := hstep
      simp only [applyOp]
      split_ifs
      · exact hslot.handOver hsound plane i data
      · exact hslot
  | event event => exact hslot.steps (handleEvent_steps_other hsound.tidy.vp9 hother)
  | reqbufs env => exact hstep.elim
  | streamon env plane bufs => exact hstep.elim
  | streamoff env plane => exact hstep.elim

/-! ### Completions -/

/-- The log has grown by what `actions` shows. -/
def Appends (actions : List (LineAction FtbDone)) (s t : Inst) : Prop :=
  ∃ events, t.log = s.log ++ events ∧ List.Forall₂ Shows actions events

theorem Appends.none {s t : Inst} (hlog : t.log = s.log) : Appends [] s t :=
  ⟨[], by rw [hlog, List.append_nil], .nil⟩

theorem Appends.one {action : LineAction FtbDone} {event : BufEvent} {s t : Inst}
    (hlog : t.log = s.log ++ [event]) (hshows : Shows action event) : Appends [action] s t :=
  ⟨[event], hlog, .cons hshows .nil⟩

theorem Appends.trans {first second : List (LineAction FtbDone)} {s t u : Inst}
    (hfirst : Appends first s t) (hsecond : Appends second t u) :
    Appends (first ++ second) s u := by
  obtain ⟨before, hbefore, hshows⟩ := hfirst
  obtain ⟨after, hafter, hshows'⟩ := hsecond
  exact ⟨before ++ after, by rw [hafter, hbefore, List.append_assoc],
    List.rel_append hshows hshows'⟩

/-- A listed buffer without the error flag goes back as done. -/
theorem irisVb2BufferDone_done {plane : Plane} {i : Nat} {inst : Inst}
    (hlisted : i ∈ inst.ready plane) (hrollback : inst.startStreamingRollbackType = none)
    (hflags : hasFlag (inst.buf plane i).flags v4l2BufFlagError = false) :
    ∃ flags, (irisVb2BufferDone plane i inst).2.log = inst.log ++
      [.done plane i .done (some
        { bytesused := payloadBytesused plane (inst.buf plane i)
          flags := flags
          timestamp := (inst.buf plane i).timestamp })] := by
  obtain ⟨state, payload, vbufFlags, stopped, last, hback, heq⟩ := irisVb2BufferDone_listed hlisted
  obtain ⟨rfl, rfl⟩ := hback.delivered (by simp [hrollback]) hflags
  exact ⟨_, by rw [heq]⟩

/-- The frame in the slot is released, and nothing else changes. -/
structure Released (held : Option FtbDone) (pkt : FtbDone) (i : Nat) (s t : Inst) : Prop where
  log : Appends (released FtbDone.filled sameTimestamp held pkt) s t
  free : t.pendingOutput = none
  listed : i ∈ t.ready .capture
  buf : t.buf .capture i = s.buf .capture i
  vp9 : Vp9Legacy t
  rollback : t.startStreamingRollbackType = none

theorem irisVdecRecyclePendingOutput_released {pkt held : FtbDone} {i : Nat} {inst : Inst}
    (hslot : Slot (some held) inst) (hvp9 : Vp9Legacy inst)
    (hrollback : inst.startStreamingRollbackType = none) (hlisted : i ∈ inst.ready .capture)
    (hi : i ≠ held.outputTag) (hfilled : pkt.filled = true)
    (hsame : sameTimestamp held pkt = true) :
    (irisVdecRecyclePendingOutput 0 inst).1 = 0 ∧
      Released (some held) pkt i inst (irisVdecRecyclePendingOutput 0 inst).2 := by
  have hpending : inst.pendingOutput = some held.outputTag := hslot.pending
  unfold irisVdecRecyclePendingOutput irisQueueBuffer
  rw [hpending]
  refine ⟨rfl, ?_, rfl, hlisted, ?_, ⟨hvp9.1, hvp9.2, hvp9.3, hvp9.4⟩, hrollback⟩
  · rw [released, if_pos (by simp [hfilled, hsame])]
    exact .one rfl (.recycled held)
  · have hne : ¬(Plane.capture = .capture ∧ i = held.outputTag) := fun h => hi h.2
    simp only [if_neg (not_not.2 (rfl : (0 : Int) = 0)), Inst.record]
    rw [setBuf_buf_of_ne _ _ hne, setBuf_buf_of_ne _ _ hne]

theorem irisVdecCompletePendingOutput_released {pkt held : FtbDone} {i : Nat} {inst : Inst}
    (hslot : Slot (some held) inst) (htidy : Tidy inst)
    (hrollback : inst.startStreamingRollbackType = none) (hlisted : i ∈ inst.ready .capture)
    (hi : i ≠ held.outputTag)
    (hother : ¬(pkt.filled = true ∧ sameTimestamp held pkt = true)) :
    (irisVdecCompletePendingOutput inst).1 = 0 ∧
      Released (some held) pkt i inst (irisVdecCompletePendingOutput inst).2 := by
  have hpending : inst.pendingOutput = some held.outputTag := hslot.pending
  have hframe := hslot.frame held rfl
  have hvp9 := htidy.vp9
  have hcomplete : irisVdecCompletePendingOutput inst =
      irisVb2BufferDone .capture held.outputTag { inst with pendingOutput := none } := by
    simp only [irisVdecCompletePendingOutput, hpending]
  rw [hcomplete]
  obtain ⟨flags, hlog⟩ := @irisVb2BufferDone_done .capture held.outputTag
    { inst with pendingOutput := none } hframe.listed hrollback
    (htidy.bufs _ hframe.listed).noError
  obtain ⟨state, payload, vbufFlags, stopped, last, -, heq⟩ :=
    @irisVb2BufferDone_listed .capture held.outputTag { inst with pendingOutput := none }
      hframe.listed
  refine ⟨by rw [heq], ?_, ?_, ?_, ?_, ?_, ?_⟩
  · rw [released, if_neg (by simpa using hother)]
    refine .one hlog ?_
    have hsize : payloadBytesused .capture (inst.buf .capture held.outputTag) =
        some held.filledLen := congrArg some hframe.dataSize
    simp only [hsize, hframe.timestamp]
    exact .delivered held flags hframe.filled
  · exact irisVb2BufferDone_pending _ _ _
  · rw [heq]
    simp only [Function.update_self]
    exact (List.mem_erase_of_ne hi).2 hlisted
  · rw [irisVb2BufferDone_buf]
  · rw [heq]
    exact ⟨hvp9.1, hvp9.2, hvp9.3, hvp9.4⟩
  · rw [irisVb2BufferDone_rollback]
    exact hrollback

theorem ftbPending_released {env : FtbEnv} {pkt : FtbDone} {held : Option FtbDone} {i : Nat}
    {inst : Inst} (hslot : Slot held inst) (htidy : Tidy inst)
    (hrollback : inst.startStreamingRollbackType = none) (hret : env.queueRet = 0)
    (hlisted : i ∈ inst.ready .capture) (hi : ∀ held' ∈ held, i ≠ held'.outputTag) :
    (ftbPending env pkt inst).1 = 0 ∧ Released held pkt i inst (ftbPending env pkt inst).2 := by
  rw [ftbPending_vp9 htidy.vp9, hret]
  cases held with
  | none =>
      have hpending : inst.pendingOutput = none := hslot.pending
      have hstays : Released none pkt i inst inst :=
        ⟨.none rfl, hpending, hlisted, rfl, htidy.vp9, hrollback⟩
      unfold irisVdecRecyclePendingOutput irisVdecCompletePendingOutput
      simp only [hpending, ite_self]
      exact ⟨trivial, hstays⟩
  | some held =>
      have hpending : inst.pendingOutput = some held.outputTag := hslot.pending
      have hstamp : pendingHasTimestamp pkt.timestamp inst = sameTimestamp held pkt := by
        simp only [pendingHasTimestamp, hpending, Option.any_some,
          (hslot.frame held rfl).timestamp, sameTimestamp]
      rw [hstamp]
      split_ifs with hsame
      · exact irisVdecRecyclePendingOutput_released hslot htidy.vp9 hrollback hlisted
          (hi held rfl) hsame.1 hsame.2
      · exact irisVdecCompletePendingOutput_released hslot htidy hrollback hlisted
          (hi held rfl) hsame

/-- A matched buffer takes the slot, or passes at once. -/
theorem ftbDeliver_line {pkt : FtbDone} {last : Bool} {inst : Inst} (hvp9 : Vp9Legacy inst)
    (hrollback : inst.startStreamingRollbackType = none) (hfree : inst.pendingOutput = none)
    (hlisted : pkt.outputTag ∈ inst.ready .capture)
    (hdeferred : (inst.buf .capture pkt.outputTag).attr.deferred = false)
    (hsize : (inst.buf .capture pkt.outputTag).dataSize = pkt.filledLen)
    (hstamp : pkt.filled = true →
      (inst.buf .capture pkt.outputTag).timestamp = pkt.timestamp) :
    Appends (if pkt.filled then [] else [.pass pkt]) inst
        (ftbDeliver pkt last pkt.outputTag inst) ∧
      Slot (if pkt.filled then some pkt else none) (ftbDeliver pkt last pkt.outputTag inst) := by
  unfold ftbDeliver
  simp only
  rw [show ftbHeld pkt (inst.setBuf .capture pkt.outputTag _) = pkt.filled from
    ftbHeld_vp9 ⟨hvp9.1, hvp9.2, hvp9.3, hvp9.4⟩ pkt]
  cases hfilled : pkt.filled with
  | true =>
      rw [if_pos rfl, if_pos rfl, if_pos rfl, irisVdecHoldOutput,
        if_neg (by simp [Inst.setBuf, hfree]), orGoto_zero]
      refine ⟨.none rfl, rfl, fun held hheld => ?_⟩
      obtain rfl : pkt = held := Option.some.inj hheld
      refine ⟨hfilled, hlisted, ?_, ?_, ?_, ?_⟩ <;> simp only [id, setBuf_buf]
      · exact hdeferred
      · exact hstamp hfilled
      · exact hsize
  | false =>
      rw [if_neg Bool.false_ne_true, if_neg Bool.false_ne_true, if_neg Bool.false_ne_true]
      obtain ⟨state, payload, vbufFlags, stopped, last', hback, heq⟩ :=
        @irisVb2BufferDone_listed .capture pkt.outputTag (inst.setBuf .capture pkt.outputTag
          { inst.buf .capture pkt.outputTag with
            flags := (inst.buf .capture pkt.outputTag).flags ||| ftbFlags pkt last inst
            attr := { (inst.buf .capture pkt.outputTag).attr with
              queued := false, dequeued := true, bufferDone := true } }) hlisted
      have hstate : state ≠ .queued := by
        rintro rfl
        have hnone : inst.startStreamingRollbackType ≠ some .capture := by simp [hrollback]
        cases herror : hasFlag ((inst.buf .capture pkt.outputTag).flags ||| ftbFlags pkt last inst)
            v4l2BufFlagError with
        | true => cases (hback.error hnone (by simpa using herror)).1
        | false => cases (hback.delivered hnone (by simpa using herror)).1
      rw [heq]
      exact ⟨.one rfl (.returned pkt state payload hstate hfilled), hfree,
        fun held hheld => by cases hheld⟩

theorem ftbOutput_line {env : FtbEnv} {pkt : FtbDone} {held : Option FtbDone} {inst : Inst}
    (hslot : Slot held inst) (htidy : Tidy inst)
    (hrollback : inst.startStreamingRollbackType = none) (hret : env.queueRet = 0)
    (hlisted : pkt.outputTag ∈ inst.ready .capture)
    (hqueued : (inst.buf .capture pkt.outputTag).attr.queued = true) :
    Appends (lineStep FtbDone.filled sameTimestamp held pkt).1 inst
        (ftbOutput env pkt pkt.outputTag inst) ∧
      Slot (lineStep FtbDone.filled sameTimestamp held pkt).2
        (ftbOutput env pkt pkt.outputTag inst) := by
  rw [lineStep_eq]
  have hvp9 := htidy.vp9
  have hbuf := htidy.bufs _ hlisted
  -- the matched buffer is queued, so it is not the held one
  have hdiffers : ∀ held' ∈ held, pkt.outputTag ≠ held'.outputTag := by
    intro held' hheld heq
    rw [heq, (hslot.frame held' hheld).queued] at hqueued
    cases hqueued
  have hlast : Tidy
      { inst with lastBufferDequeued := inst.lastBufferDequeued || ftbLast pkt inst } :=
    htidy.same ⟨hvp9.1, hvp9.2, hvp9.3, hvp9.4⟩ rfl rfl rfl
  have hstoredTidy : Tidy (ftbStore pkt pkt.outputTag inst) :=
    hlast.setBuf fun _ _ => ⟨hbuf.1, hbuf.2⟩
  have hstored : Slot held (ftbStore pkt pkt.outputTag inst) :=
    hslot.same rfl (fun _ _ => id) fun held' hheld =>
      setBuf_buf_of_ne _ _ fun h => hdiffers held' hheld h.2.symm
  have hstore : (ftbStore pkt pkt.outputTag inst).buf .capture pkt.outputTag =
      { inst.buf .capture pkt.outputTag with
        dataOffset := pkt.offset
        dataSize := pkt.filledLen
        timestamp := if pkt.filled then pkt.timestamp else 0 } := setBuf_buf _ _ _ _
  obtain ⟨hzero, hreleased⟩ := @ftbPending_released env pkt held pkt.outputTag _ hstored
    hstoredTidy hrollback hret hlisted hdiffers
  obtain ⟨t, ht, houtput⟩ : ∃ t,
      Released held pkt pkt.outputTag (ftbStore pkt pkt.outputTag inst) t ∧
        ftbOutput env pkt pkt.outputTag inst =
          ftbDeliver pkt (ftbLast pkt inst) pkt.outputTag t := by
    rw [ftbOutput, orGoto, if_neg (not_not.2 hzero), ftbComplete, ftbDropped_vp9 hreleased.vp9,
      if_neg Bool.false_ne_true]
    refine ⟨_, ?_, rfl⟩
    refine applyIf_keep (P := Released held pkt pkt.outputTag _) _ hreleased fun h => ?_
    exact ⟨h.log, h.free, h.listed, h.buf, ⟨h.vp9.1, h.vp9.2, h.vp9.3, h.vp9.4⟩, h.rollback⟩
  rw [houtput]
  have hfound := ht.buf.trans hstore
  obtain ⟨hdelivered, hafter⟩ := @ftbDeliver_line pkt (ftbLast pkt inst) t ht.vp9 ht.rollback
    ht.free ht.listed (by rw [hfound]; exact hbuf.notDeferred hqueued) (by rw [hfound])
    fun hfilled => by rw [hfound, if_pos hfilled]
  have hwhole : Appends _ (ftbStore pkt pkt.outputTag inst) _ := ht.log.trans hdelivered
  exact ⟨hwhole, hafter⟩

/-- **One completion is one step of the delay line.** -/
theorem ftbDone_line {env : FtbEnv} {pkt : FtbDone} {held : Option FtbDone} {inst : Inst}
    (hslot : Slot held inst) (hsound : Sound inst) (hstream : pkt.OutputStream inst)
    (hret : env.queueRet = 0) (hfind : (ftbFind pkt inst).isSome) :
    Appends (lineStep FtbDone.filled sameTimestamp held pkt).1 inst
        (irisHfiGen1SessionFtbDone env pkt inst) ∧
      Slot (lineStep FtbDone.filled sameTimestamp held pkt).2
        (irisHfiGen1SessionFtbDone env pkt inst) := by
  obtain ⟨i, hfind⟩ := Option.isSome_iff_exists.1 hfind
  obtain ⟨hlisted, hqueued, rfl, -⟩ := ftbFind_spec hfind
  have hvp9 := hsound.tidy.vp9
  obtain ⟨subState, pending, heos⟩ := ftbEos_frame env pkt inst
  have hstill : ftbFind pkt (ftbEos env pkt inst) = some pkt.outputTag := by
    rw [heos]
    exact hfind
  have hmatch : irisHfiGen1SessionFtbDone env pkt inst =
      ftbOutput env pkt pkt.outputTag (ftbEos env pkt inst) := by
    rw [irisHfiGen1SessionFtbDone, if_neg hstream, ftbMatch, hstill]
  have hslotEos : Slot held (ftbEos env pkt inst) := by
    rw [heos]
    exact hslot.same rfl (fun _ _ => id) fun _ _ => rfl
  have htidyEos : Tidy (ftbEos env pkt inst) := by
    rw [heos]
    exact hsound.tidy.same ⟨hvp9.1, hvp9.2, hvp9.3, hvp9.4⟩ rfl rfl rfl
  obtain ⟨hlog, hafter⟩ := @ftbOutput_line env pkt held _ hslotEos htidyEos
    (by rw [heos]; exact hsound.rollback) hret (by rw [heos]; exact hlisted)
    (by rw [heos]; exact hqueued)
  rw [hmatch]
  have hsame : (ftbEos env pkt inst).log = inst.log := by rw [heos]
  exact ⟨(Appends.none hsame).trans hlog, hafter⟩

/-! ### Runs -/

theorem completion_eq_some {inst : Inst} {op : Op} {pkt : FtbDone}
    (hcompletion : op.completion inst = some pkt) :
    ∃ env, op = .event (.gen1 (.ftbDone env pkt)) ∧ pkt.OutputStream inst := by
  unfold Op.completion at hcompletion
  split at hcompletion
  · split_ifs at hcompletion with hstream
    obtain rfl := Option.some.inj hcompletion
    exact ⟨_, rfl, hstream⟩
  · cases hcompletion

theorem Slot.complete {held : Option FtbDone} {inst : Inst} {op : Op} {pkt : FtbDone}
    (hslot : Slot held inst) (hsound : Sound inst) (hstep : HoldStep inst op)
    (hcompletion : op.completion inst = some pkt) :
    Appends (lineStep FtbDone.filled sameTimestamp held pkt).1 inst (applyOp inst op) ∧
      Slot (lineStep FtbDone.filled sameTimestamp held pkt).2 (applyOp inst op) := by
  obtain ⟨env, rfl, hstream⟩ := completion_eq_some hcompletion
  obtain ⟨hret, hfind⟩ := hstep hstream
  have happly : applyOp inst (.event (.gen1 (.ftbDone env pkt))) =
      irisHfiGen1SessionFtbDone env pkt inst := by
    simp only [applyOp, handleEvent, hsound.tidy.vp9.gen, irisHfiGen1HandleResponse]
  rw [happly]
  exact ftbDone_line hslot hsound hstream hret hfind

/-- The frames that the driver delivers to userspace. -/
def deliversFrame : BufEvent → Bool
  | .done .capture _ .done (some payload) => payload.bytesused != some 0
  | _ => false

theorem BufEvent.Plain.noFrame {event : BufEvent} (hplain : event.Plain) :
    deliversFrame event = false := by
  unfold deliversFrame
  split
  · simpa [BufEvent.Plain] using hplain
  · rfl

theorem EventStep.plain {s t : Inst} (hstep : EventStep (· = .output) s t) :
    Grows BufEvent.Plain s.log t.log := by
  cases hstep with
  | fields | error | touch | free => exact .refl _
  | @complete plane i buf hplane =>
      subst hplane
      by_cases hmem : i ∈ (s.setBuf .output i buf).ready .output
      · obtain ⟨state, payload, _, _, _, -, heq⟩ := irisVb2BufferDone_listed hmem
        rw [heq]
        exact (Grows.refl _).snoc trivial
      · rw [irisVb2BufferDone_absent hmem]
        exact .refl _
  | @submit plane i =>
      have hsubmitted : Grows BufEvent.Plain s.log (s.log ++ [.submitted plane i]) :=
        (Grows.refl _).snoc trivial
      exact hsubmitted
  | requeue _ hplane => cases hplane
  | recyclePending _ hplane => cases hplane
  | completePending hplane => cases hplane
  | hold hplane => cases hplane

theorem EventSteps.plain {s t : Inst} (hsteps : EventSteps (· = .output) s t) :
    Grows BufEvent.Plain s.log t.log := by
  induction hsteps with
  | refl => exact .refl _
  | tail _ hstep ih => exact ih.trans hstep.plain

theorem HoldStep.plain {inst : Inst} {op : Op} (hvp9 : Vp9Legacy inst) (hstep : HoldStep inst op)
    (hother : op.completion inst = none) :
    Grows BufEvent.Plain inst.log (applyOp inst op).log := by
  cases op with
  | qbuf ret plane i data =>
      obtain ⟨rfl, -⟩ := hstep
      simp only [applyOp]
      split_ifs
      · cases howned : driverOwns inst.log plane i with
        | true =>
            rw [vb2BufQueue, if_pos howned]
            exact .refl _
        | false =>
            rcases @vb2BufQueue_cases plane i data inst howned with
              ⟨_, _, _, _, _, hlog, heq⟩ | ⟨_, _, _, _, _, hlog, heq⟩
            · rw [heq]
              exact hlog
            · rw [heq]
              exact hlog
      · exact .refl _
  | event event => exact (handleEvent_steps_other hvp9 hother).plain
  | reqbufs env => exact hstep.elim
  | streamon env plane bufs => exact hstep.elim
  | streamoff env plane => exact hstep.elim

/-- What a run shows of the delay line that its completions pass through. -/
structure LineRun (held : Option FtbDone) (inst : Inst) (ops : List Op) : Prop where
  shows : List.Forall₂ Shows
    (line FtbDone.filled sameTimestamp held ((completions inst ops).map Prod.fst)).1
    ((completions inst ops).flatMap Prod.snd)
  slot : Slot (line FtbDone.filled sameTimestamp held ((completions inst ops).map Prod.fst)).2
    (instAfter inst ops)
  sound : Sound (instAfter inst ops)
  frames : ∃ events, (instAfter inst ops).log = inst.log ++ events ∧
    events.filter deliversFrame =
      ((completions inst ops).flatMap Prod.snd).filter deliversFrame

namespace LineRun

variable {held : Option FtbDone} {inst : Inst} {op : Op} {rest : List Op}

theorem other (hsound : Sound inst) (hstep : HoldStep inst op)
    (hother : op.completion inst = none) (hrun : LineRun held (applyOp inst op) rest) :
    LineRun held inst (op :: rest) := by
  have heq : completions inst (op :: rest) = completions (applyOp inst op) rest := by
    simp [completions, hother]
  obtain ⟨events, hlog, hframes⟩ := hrun.frames
  obtain ⟨before, hbefore, hplain⟩ := hstep.plain hsound.tidy.vp9 hother
  have hnone : before.filter deliversFrame = [] :=
    List.filter_eq_nil_iff.2 fun event hevent => by simp [(hplain event hevent).noFrame]
  refine ⟨?_, ?_, hrun.sound, before ++ events, ?_, ?_⟩
  · rw [heq]
    exact hrun.shows
  · rw [heq]
    exact hrun.slot
  · rw [← List.append_assoc, ← hbefore]
    exact hlog
  · rw [heq, List.filter_append, hnone]
    exact hframes

theorem complete {pkt : FtbDone} (hslot : Slot held inst) (hsound : Sound inst)
    (hstep : HoldStep inst op) (hcompletion : op.completion inst = some pkt)
    (hrun : LineRun (lineStep FtbDone.filled sameTimestamp held pkt).2 (applyOp inst op) rest) :
    LineRun held inst (op :: rest) := by
  obtain ⟨events, hlog, hframes⟩ := hrun.frames
  obtain ⟨⟨new, hnew, hshows⟩, -⟩ := hslot.complete hsound hstep hcompletion
  have heq : completions inst (op :: rest) =
      (pkt, new) :: completions (applyOp inst op) rest := by
    simp [completions, hcompletion, newEvents, hnew]
  refine ⟨?_, ?_, hrun.sound, new ++ events, ?_, ?_⟩
  · rw [heq]
    simp only [List.map_cons, List.flatMap_cons, line]
    exact List.rel_append hshows hrun.shows
  · rw [heq]
    exact hrun.slot
  · rw [← List.append_assoc, ← hnew]
    exact hlog
  · rw [heq, List.flatMap_cons, List.filter_append, List.filter_append, hframes]

theorem all {ops : List Op} (hslot : Slot held inst) (hsound : Sound inst)
    (hops : ∀ pre op, pre ++ [op] <+: ops → HoldStep (instAfter inst pre) op) :
    LineRun held inst ops := by
  induction ops generalizing inst held with
  | nil => exact ⟨.nil, hslot, hsound, [], (List.append_nil _).symm, rfl⟩
  | cons op rest ih =>
      have hstep : HoldStep inst op := hops [] op (by simp)
      have hrest : ∀ pre next, pre ++ [next] <+: rest →
          HoldStep (instAfter (applyOp inst op) pre) next := fun pre next hpre =>
        hops (op :: pre) next (List.cons_prefix_cons.2 ⟨rfl, hpre⟩)
      have hnext := hsound.applyOp hstep.faultless
      cases hcompletion : op.completion inst with
      | none =>
          have hafter := hslot.other hsound hstep hcompletion
          exact other hsound hstep hcompletion (ih hafter hnext hrest)
      | some pkt =>
          have hafter := (hslot.complete hsound hstep hcompletion).2
          exact complete hslot hsound hstep hcompletion (ih hafter hnext hrest)

end LineRun

/-- **The hold-back law.** Cut the completions of a run into maximal runs of filled ones with equal
timestamps: all but the last of a run go back to the firmware, the last one reaches userspace when
the run is finished, and no other frame does. -/
theorem hold_back_law {inst : Inst} (hopened : OpenedVp9 inst) {before ops : List Op}
    (hbefore : ∀ op ∈ before, op.Faultless)
    (hfree : (instAfter inst before).pendingOutput = none)
    (hops : ∀ pre op, pre ++ [op] <+: ops → HoldStep (instAfter (instAfter inst before) pre) op) :
    let trace := completions (instAfter inst before) ops
    let settled := settleRuns FtbDone.filled
      (lineRuns FtbDone.filled sameTimestamp (trace.map Prod.fst))
    let last := instAfter (instAfter inst before) ops
    List.Forall₂ Shows settled.1 (trace.flatMap Prod.snd) ∧
      last.pendingOutput = settled.2.map FtbDone.outputTag ∧
      (last.log.drop (instAfter inst before).log.length).filter deliversFrame =
        (trace.flatMap Prod.snd).filter deliversFrame ∧
      ∀ i, .holdRefused i ∉ last.log := by
  intro trace settled last
  have hslot : Slot none (instAfter inst before) := ⟨hfree, fun pkt hpkt => by cases hpkt⟩
  have hrun := LineRun.all hslot (hopened.sound.instAfter hbefore) hops
  have hlaw : line FtbDone.filled sameTimestamp none (trace.map Prod.fst) = settled :=
    (line_eq _).1
  refine ⟨hlaw ▸ hrun.shows, hlaw ▸ hrun.slot.pending, ?_, hrun.sound.tidy.refused⟩
  obtain ⟨events, hlog, hframes⟩ := hrun.frames
  have hlast : last.log = _ := hlog
  rw [hlast, List.drop_left]
  exact hframes

def capturedFrame (tag : Nat) : FtbDone :=
  { streamId := 1, outputTag := tag, offset := 0, filledLen := 64, timestampHi := 0
    timestampLo := 7, pictureType := .p, eos := false, dataCorrupt := false, dropFrame := false }

def startedVp9 : List Op :=
  [.reqbufs undisturbed, .streamon undisturbed .output [(0, frameData)],
    .streamon undisturbed .capture [(0, frameData), (1, frameData)]]

/-- A hidden frame and the frame that replaces it. -/
def hiddenFrame : List Op :=
  [.event (.gen1 (.ftbDone ⟨false, 0, 0⟩ (capturedFrame 0))),
    .event (.gen1 (.ftbDone ⟨false, 0, 0⟩ (capturedFrame 1)))]

theorem openedVp9 : OpenedVp9 (openedDecoder .gen1 .vp9 true) :=
  ⟨openedDecoder_fresh _ _ _, ⟨rfl, rfl, rfl, rfl⟩, rfl⟩

theorem hold_back_hiddenFrame :
    (instAfter (instAfter (openedDecoder .gen1 .vp9 true) startedVp9) hiddenFrame).pendingOutput =
      some 1 := by
  have hlaw := @hold_back_law _ openedVp9 startedVp9 hiddenFrame (by
      intro op hop
      simp only [startedVp9, List.mem_cons, List.not_mem_nil, or_false] at hop
      rcases hop with rfl | rfl | rfl
      · trivial
      · simp [Op.Faultless, frameData, hasFlag]
      · simp [Op.Faultless, frameData, hasFlag])
    (by decide) (by
      intro pre op hpre
      rcases pre with _ | ⟨first, _ | ⟨second, pre⟩⟩
      · obtain rfl : op = _ := by simpa [hiddenFrame] using hpre
        exact fun _ => ⟨rfl, by decide⟩
      · obtain ⟨rfl, rfl⟩ : first = _ ∧ op = _ := by simpa [hiddenFrame] using hpre
        exact fun _ => ⟨rfl, by decide⟩
      · simp [hiddenFrame] at hpre)
  exact hlaw.2.1.trans (by decide)

end NabuIris
