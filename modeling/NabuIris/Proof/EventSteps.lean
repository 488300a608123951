import NabuIris.Events
import NabuIris.Proof.BufferSpec
import Mathlib.Logic.Relation

/-!
# What an event does to an instance

Every handler is a sequence of the moves of `EventStep`; `handleEvent_steps` is the only place where
the handlers are taken apart, and what the development knows of events it gets from the moves.
-/

namespace NabuIris

open Relation

/-- The firmware has the buffer, or has handed it in. -/
def IrisBuffer.Busy (buf : IrisBuffer) : Prop := buf.attr.queued = true ∨ buf.attr.dequeued = true

/-- The moves, for events that touch the buffers of the planes in `touches`. -/
inductive EventStep (touches : Plane → Prop) : Inst → Inst → Prop
  | fields {inst : Inst} (subState : SubState) (lastBufferDequeued m2mStopped : Bool)
      (flushResponsesPending : BitVec 32) (corruptOutputDrops : Nat) :
      EventStep touches inst
        { inst with
          subState, lastBufferDequeued, m2mStopped, flushResponsesPending, corruptOutputDrops }
  | error {inst : Inst} : EventStep touches inst { inst with state := .error }
  | touch {inst : Inst} {plane : Plane} {i : Nat} {buf : IrisBuffer} (hplane : touches plane)
      (hattr : buf.attr = (inst.buf plane i).attr) :
      EventStep touches inst (inst.setBuf plane i buf)
  | free {inst : Inst} {plane : Plane} {i : Nat} {buf : IrisBuffer} (hplane : touches plane)
      (hbusy : (inst.buf plane i).Busy) : EventStep touches inst (inst.setBuf plane i buf)
  | complete {inst : Inst} {plane : Plane} {i : Nat} {buf : IrisBuffer} (hplane : touches plane)
      (hbusy : (inst.buf plane i).Busy) :
      EventStep touches inst (irisVb2BufferDone plane i (inst.setBuf plane i buf)).2
  /-- a decoder start command on a streaming instance -/
  | submit {inst : Inst} {plane : Plane} {i : Nat}
      (hdeferred : (inst.buf plane i).attr.deferred = true) (hstate : inst.state = .streaming) :
      EventStep touches inst (irisQueueBuffer 0 plane i inst).2
  | requeue {inst : Inst} {i : Nat} {buf : IrisBuffer} (ret : Int) (hplane : touches .capture)
      (hbusy : (inst.buf .capture i).Busy) :
      EventStep touches inst (irisQueueBuffer ret .capture i (inst.setBuf .capture i buf)).2
  | recyclePending {inst : Inst} {i : Nat} (ret : Int) (hplane : touches .capture)
      (hready : i ∈ inst.ready .capture) (hbusy : (inst.buf .capture i).Busy) :
      EventStep touches inst (irisVdecRecyclePendingOutput ret inst).2
  | completePending {inst : Inst} {i : Nat} (hplane : touches .capture)
      (hready : i ∈ inst.ready .capture) (hbusy : (inst.buf .capture i).Busy) :
      EventStep touches inst (irisVdecCompletePendingOutput inst).2
  | hold {inst : Inst} {i : Nat} {buf : IrisBuffer} (hplane : touches .capture)
      (hbusy : (inst.buf .capture i).Busy) :
      EventStep touches inst (irisVdecHoldOutput i (inst.setBuf .capture i buf)).2

abbrev EventSteps (touches : Plane → Prop) : Inst → Inst → Prop :=
  ReflTransGen (EventStep touches)

variable {touches : Plane → Prop} {inst start : Inst}

/-! ### State changes -/

theorem irisInstChangeState_error (inst : Inst) :
    irisInstChangeState .error inst = (0, { inst with state := .error }) := by
  cases inst with
  | mk => simp only [irisInstChangeState]; split_ifs <;> simp_all

theorem enterError_eq (inst : Inst) : inst.enterError = { inst with state := .error } := by
  rw [Inst.enterError, irisInstChangeState_error]

namespace EventSteps

theorem enterError (hsteps : EventSteps touches start inst) :
    EventSteps touches start inst.enterError := by
  rw [enterError_eq]
  exact hsteps.tail .error

theorem setSubState (hsteps : EventSteps touches start inst) (subState : SubState) :
    EventSteps touches start { inst with subState } :=
  hsteps.tail (.fields subState inst.lastBufferDequeued inst.m2mStopped
    inst.flushResponsesPending inst.corruptOutputDrops)

theorem setLast (hsteps : EventSteps touches start inst) (last : Bool) :
    EventSteps touches start { inst with lastBufferDequeued := last } :=
  hsteps.tail (.fields inst.subState last inst.m2mStopped inst.flushResponsesPending
    inst.corruptOutputDrops)

theorem setFlushPending (hsteps : EventSteps touches start inst) (pending : BitVec 32) :
    EventSteps touches start { inst with flushResponsesPending := pending } :=
  hsteps.tail (.fields inst.subState inst.lastBufferDequeued inst.m2mStopped pending
    inst.corruptOutputDrops)

theorem setDrops (hsteps : EventSteps touches start inst) (drops : Nat) :
    EventSteps touches start { inst with corruptOutputDrops := drops } :=
  hsteps.tail (.fields inst.subState inst.lastBufferDequeued inst.m2mStopped
    inst.flushResponsesPending drops)

theorem changeSubState (hsteps : EventSteps touches start inst) (clear set : SubState) :
    EventSteps touches start (irisInstChangeSubState clear set inst).2 := by
  unfold irisInstChangeSubState
  split_ifs
  · exact hsteps
  · exact hsteps
  · exact hsteps
  · exact hsteps
  · exact hsteps.setSubState _

theorem drc (hsteps : EventSteps touches start inst) :
    EventSteps touches start (irisInstSubStateChangeDrc inst).2 := by
  unfold irisInstSubStateChangeDrc
  split_ifs
  · exact hsteps
  · exact hsteps.changeSubState _ _
  · exact hsteps.changeSubState _ _

theorem drainLast (hsteps : EventSteps touches start inst) :
    EventSteps touches start (irisInstSubStateChangeDrainLast inst).2 := by
  unfold irisInstSubStateChangeDrainLast
  split_ifs
  · exact hsteps
  · exact hsteps
  · exact hsteps.changeSubState _ _

theorem drcLast (hsteps : EventSteps touches start inst) :
    EventSteps touches start (irisInstSubStateChangeDrcLast inst).2 := by
  unfold irisInstSubStateChangeDrcLast
  split_ifs
  · exact hsteps
  · exact hsteps
  · exact hsteps
  · exact hsteps.changeSubState _ _

theorem pause (hsteps : EventSteps touches start inst) (plane : Plane) :
    EventSteps touches start (irisInstSubStateChangePause plane inst).2 := by
  cases plane with
  | output =>
      simp only [irisInstSubStateChangePause]
      split_ifs
      · exact hsteps
      · exact hsteps
      · exact hsteps.changeSubState _ _
  | capture => exact hsteps.changeSubState _ _

theorem applyIf {change : Inst → Inst} (cond : Bool) (hsteps : EventSteps touches start inst)
    (hchange : EventSteps touches start inst → EventSteps touches start (change inst)) :
    EventSteps touches start (inst.applyIf cond change) :=
  applyIf_keep cond hsteps hchange

/-- Both sides of the test after a call. -/
theorem orGoto {call : Int × Inst} {label : Int → Inst → Inst} {next : Inst → Inst}
    (hcall : EventSteps touches start call.2)
    (hlabel : ∀ ret inst, EventSteps touches start inst → EventSteps touches start (label ret inst))
    (hnext : ∀ inst, EventSteps touches start inst → EventSteps touches start (next inst)) :
    EventSteps touches start (orGoto call label next) :=
  orGoto_keep (Q := EventSteps touches start) hcall hlabel hnext

theorem orGoto_snd {call : Int × Inst} {label : Int → Inst → Int × Inst}
    {next : Inst → Int × Inst} (hcall : EventSteps touches start call.2)
    (hlabel : ∀ ret inst, EventSteps touches start inst →
      EventSteps touches start (label ret inst).2)
    (hnext : ∀ inst, EventSteps touches start inst → EventSteps touches start (next inst).2) :
    EventSteps touches start (NabuIris.orGoto call label next).2 :=
  orGoto_keep (Q := EventSteps touches start)
    (P := fun r : Int × Inst => EventSteps touches start r.2) hcall hlabel hnext

end EventSteps

/-! ### The first generation -/

theorem irisQueueBuffer_busy {k i : Nat} (hbusy : k ≠ i → (inst.buf .capture i).Busy) :
    ((irisQueueBuffer 0 .capture k inst).2.buf .capture i).Busy := by
  change ((Inst.setBuf _ _ _ _).buf .capture i).Busy
  by_cases hki : k = i
  · subst hki
    rw [setBuf_buf]
    exact .inl rfl
  · rw [setBuf_buf_of_ne _ _ (fun h => hki h.2.symm)]
    exact hbusy hki

theorem irisVdecRecyclePendingOutput_busy {i : Nat} (hbusy : (inst.buf .capture i).Busy) :
    ((irisVdecRecyclePendingOutput 0 inst).2.buf .capture i).Busy := by
  unfold irisVdecRecyclePendingOutput
  cases inst.pendingOutput with
  | none => exact hbusy
  | some k =>
      refine irisQueueBuffer_busy fun hki => ?_
      rw [setBuf_buf_of_ne _ _ (fun h => hki h.2.symm)]
      exact hbusy

theorem irisVdecCompletePendingOutput_buf (inst : Inst) :
    (irisVdecCompletePendingOutput inst).2.buf = inst.buf := by
  unfold irisVdecCompletePendingOutput
  cases inst.pendingOutput with
  | none => rfl
  | some k => exact irisVb2BufferDone_buf _ _ _

theorem irisVdecRecyclePendingOutput_fst (ret : Int) (hpending : inst.pendingOutput.isSome) :
    (irisVdecRecyclePendingOutput ret inst).1 = ret := by
  unfold irisVdecRecyclePendingOutput
  cases h : inst.pendingOutput with
  | none => simp [h] at hpending
  | some k => exact irisQueueBuffer_fst _ _ _ _

/-- The matched buffer is still with the firmware once the pending frame has gone. -/
theorem ftbPending_busy {env : FtbEnv} {pkt : FtbDone} {i : Nat}
    (hbusy : (inst.buf .capture i).Busy) (hret : (ftbPending env pkt inst).1 = 0) :
    ((ftbPending env pkt inst).2.buf .capture i).Busy := by
  unfold ftbPending at hret ⊢
  split_ifs at hret ⊢ with hlegacy hrecycle
  · have hpending : inst.pendingOutput.isSome := by
      cases h : inst.pendingOutput with
      | none => simp [pendingHasTimestamp, h] at hrecycle
      | some k => rfl
    have hzero : env.queueRet = 0 :=
      (irisVdecRecyclePendingOutput_fst env.queueRet hpending).symm.trans hret
    rw [hzero]
    exact irisVdecRecyclePendingOutput_busy hbusy
  · rw [irisVdecCompletePendingOutput_buf]
    exact hbusy
  · exact hbusy

theorem ftbFind_spec {pkt : FtbDone} {inst : Inst} {i : Nat} (hfind : ftbFind pkt inst = some i) :
    i ∈ inst.ready .capture ∧ (inst.buf .capture i).attr.queued = true ∧ i = pkt.outputTag ∧
      (inst.buf .capture i).dataOffset = pkt.offset := by
  have hmem := List.mem_of_find?_eq_some hfind
  have hmatch := List.find?_some hfind
  simp only [Bool.and_eq_true, beq_iff_eq] at hmatch
  exact ⟨hmem, hmatch.1.1, hmatch.1.2, hmatch.2⟩

namespace EventSteps

theorem sessionFlush (hsteps : EventSteps touches start inst) (ret : Int) :
    EventSteps touches start (sessionFlush ret inst) :=
  hsteps.applyIf _ fun h => h.setFlushPending _

theorem etbComplete (houtput : touches .output) (hsteps : EventSteps touches start inst)
    (i : Nat) : EventSteps touches start (etbComplete i inst) := by
  unfold NabuIris.etbComplete
  simp only
  split_ifs with hidle hdone
  · exact hsteps
  · exact hsteps.tail (.free houtput (.inl (by simpa using hidle)))
  · exact hsteps.tail (.complete houtput (.inl (by simpa using hidle)))

theorem etbDone (houtput : touches .output) (hsteps : EventSteps touches start inst)
    (pkt : EtbDone) : EventSteps touches start (irisHfiGen1SessionEtbDone pkt inst) := by
  unfold irisHfiGen1SessionEtbDone
  split_ifs
  · exact hsteps
  · refine etbComplete houtput (hsteps.applyIf _ fun h => ?_) _
    exact enterError (h.tail (.touch houtput rfl))
  · exact hsteps.enterError

theorem ftbUnmatched (hsteps : EventSteps touches start inst) :
    EventSteps touches start (ftbUnmatched inst) :=
  hsteps.applyIf _ enterError

theorem ftbEos (hsteps : EventSteps touches start inst) (env : FtbEnv) (pkt : FtbDone) :
    EventSteps touches start (ftbEos env pkt inst) :=
  hsteps.applyIf _ fun h => (h.sessionFlush _).drainLast

theorem ftbPending (hcapture : touches .capture) (hsteps : EventSteps touches start inst)
    (env : FtbEnv) (pkt : FtbDone) {i : Nat} (hready : i ∈ inst.ready .capture)
    (hbusy : (inst.buf .capture i).Busy) :
    EventSteps touches start (ftbPending env pkt inst).2 := by
  unfold NabuIris.ftbPending
  split_ifs
  · exact hsteps.tail (.recyclePending _ hcapture hready hbusy)
  · exact hsteps.tail (.completePending hcapture hready hbusy)
  · exact hsteps

theorem ftbDrop (hcapture : touches .capture) (hsteps : EventSteps touches start inst)
    (env : FtbEnv) {i : Nat} (hbusy : (inst.buf .capture i).Busy) :
    EventSteps touches start (ftbDrop env i inst) :=
  orGoto ((hsteps.setDrops (inst.corruptOutputDrops + 1)).tail (.requeue _ hcapture hbusy))
    (fun _ _ => ftbUnmatched) (fun _ => id)

theorem ftbDeliver (hcapture : touches .capture) (hsteps : EventSteps touches start inst)
    (pkt : FtbDone) (last : Bool) {i : Nat} (hbusy : (inst.buf .capture i).Busy) :
    EventSteps touches start (ftbDeliver pkt last i inst) := by
  unfold NabuIris.ftbDeliver
  simp only
  split_ifs
  · exact orGoto (hsteps.tail (.hold hcapture hbusy)) (fun _ _ => ftbUnmatched) (fun _ => id)
  · exact hsteps.tail (.complete hcapture hbusy)

theorem ftbComplete (hcapture : touches .capture) (hsteps : EventSteps touches start inst)
    (env : FtbEnv) (pkt : FtbDone) (last : Bool) {i : Nat} (hbusy : (inst.buf .capture i).Busy) :
    EventSteps touches start (ftbComplete env pkt last i inst) := by
  unfold NabuIris.ftbComplete
  split_ifs
  · exact hsteps.ftbDrop hcapture env hbusy
  · refine (hsteps.applyIf _ fun h => h.setDrops 0).ftbDeliver hcapture pkt last ?_
    unfold Inst.applyIf
    split_ifs
    · exact hbusy
    · exact hbusy

theorem ftbOutput (hcapture : touches .capture) (hsteps : EventSteps touches start inst)
    (env : FtbEnv) (pkt : FtbDone) {i : Nat} (hready : i ∈ inst.ready .capture)
    (hqueued : (inst.buf .capture i).attr.queued = true) :
    EventSteps touches start (ftbOutput env pkt i inst) := by
  have hstored : EventSteps touches start (ftbStore pkt i inst) :=
    (hsteps.setLast _).tail (.touch hcapture rfl)
  have hbusy : ((ftbStore pkt i inst).buf .capture i).Busy := by
    rw [ftbStore, setBuf_buf]
    exact .inl hqueued
  have hpending := hstored.ftbPending hcapture env pkt hready hbusy
  refine orGoto_rule (fun ret inst heq _ => ?_) fun inst heq => ?_
  · rw [heq] at hpending
    exact hpending.ftbUnmatched
  · have hkept := @ftbPending_busy _ env pkt _ hbusy (by rw [heq])
    rw [heq] at hpending hkept
    exact hpending.ftbComplete hcapture env pkt _ hkept

theorem ftbDone (hcapture : touches .capture) (hsteps : EventSteps touches start inst)
    (env : FtbEnv) (pkt : FtbDone) :
    EventSteps touches start (irisHfiGen1SessionFtbDone env pkt inst) := by
  have heos := hsteps.ftbEos env pkt
  unfold irisHfiGen1SessionFtbDone
  split_ifs
  · exact heos.applyIf _ ftbUnmatched
  · unfold ftbMatch
    cases hfind : ftbFind pkt (NabuIris.ftbEos env pkt inst) with
    | none => exact heos.ftbUnmatched
    | some i =>
        obtain ⟨hready, hqueued, -, -⟩ := ftbFind_spec hfind
        exact heos.ftbOutput hcapture env pkt hready hqueued

theorem seqChanged (hsteps : EventSteps touches start inst) (pkt : SeqChanged) :
    EventSteps touches start (irisHfiGen1EventSeqChanged pkt inst) := by
  unfold irisHfiGen1EventSeqChanged
  split_ifs
  · exact hsteps
  · exact hsteps.enterError
  · have hchecked := hsteps.applyIf pkt.unsupported enterError
    unfold seqReconfigure
    split_ifs
    · unfold seqInitial
      split_ifs
      · exact hchecked.enterError
      · exact hchecked.changeSubState _ _
    · exact orGoto hchecked.drc (fun _ _ => id) fun inst h =>
        (h.applyIf _ fun h => h.sessionFlush _).drcLast

theorem sessionDone (hsteps : EventSteps touches start inst) (type : SessionDone)
    (error : SessionError) : EventSteps touches start (irisHfiGen1SessionDone type error inst) :=
  (hsteps.applyIf _ enterError).applyIf _ fun h => h.setFlushPending _

/-- What the first generation sends, apart from the completions of CAPTURE buffers. -/
theorem gen1 (hsteps : EventSteps touches start inst) (response : Gen1Response)
    (houtput : ∀ pkt, response = .etbDone pkt → touches .output)
    (hcapture : ∀ env pkt, response = .ftbDone env pkt → touches .capture) :
    EventSteps touches start (irisHfiGen1HandleResponse response inst) := by
  cases response with
  | etbDone pkt => exact hsteps.etbDone (houtput pkt rfl) pkt
  | ftbDone env pkt => exact hsteps.ftbDone (hcapture env pkt rfl) env pkt
  | sessionDone type error => exact hsteps.sessionDone type error
  | sessionError fatal => exact hsteps.applyIf _ enterError
  | seqChanged pkt => exact hsteps.seqChanged pkt

end EventSteps

/-! ### The second generation -/

namespace EventSteps

theorem gen2InputBuffer (houtput : touches .output) (hsteps : EventSteps touches start inst)
    (info : FrameInfo) (buffer : HfiBuffer) :
    EventSteps touches start (irisHfiGen2HandleInputBuffer info buffer inst).2 := by
  unfold irisHfiGen2HandleInputBuffer
  simp only
  split_ifs with hlisted hidle
  · exact hsteps
  · exact hsteps.tail (.free houtput (.inl (by simpa using hidle)))
  · exact hsteps

theorem gen2OutputBuffer (hcapture : touches .capture) (hsteps : EventSteps touches start inst)
    (info : FrameInfo) (buffer : HfiBuffer) :
    EventSteps touches start (irisHfiGen2HandleOutputBuffer info buffer inst).2 := by
  refine orGoto_snd ?_ (fun _ _ => id) fun inst hsteps => ?_
  · split_ifs
    · exact hsteps.drainLast
    · exact hsteps
  refine orGoto_snd ?_ (fun _ _ => id) fun inst hsteps => ?_
  · split_ifs
    · exact hsteps.drcLast
    · exact hsteps
  simp only
  split_ifs with hmatch hidle
  · exact hsteps
  · exact hsteps
  · exact hsteps.tail (.free hcapture (.inl (by simpa using hidle)))
  · exact hsteps.tail (.free hcapture (.inl (by simpa using hidle)))

theorem dequeueBuffers {plane : Plane} (hplane : touches plane) (indices : List Nat)
    (hsteps : EventSteps touches start inst) :
    EventSteps touches start (dequeueBuffers plane indices inst) := by
  induction indices generalizing inst with
  | nil => exact hsteps
  | cons i rest ih =>
      rw [NabuIris.dequeueBuffers]
      simp only
      split_ifs with hidle hdone
      · exact ih hsteps
      · exact ih (hsteps.tail (.free hplane (.inr (by simpa using hidle))))
      · exact ih (hsteps.tail (.complete hplane (.inr (by simpa using hidle))))

variable (hall : ∀ plane, touches plane)
include hall

theorem gen2Command (hsteps : EventSteps touches start inst) (info : FrameInfo)
    (body : Gen2Body) :
    EventSteps touches start (irisHfiGen2HandleSessionCommand info body inst).2 := by
  cases body with
  | close success => exact hsteps.applyIf _ enterError
  | stop port =>
      cases port with
      | none => exact hsteps
      | some plane => exact hsteps.pause plane
  | buffer payload =>
      cases payload with
      | ignored => exact hsteps
      | malformed => exact hsteps.enterError
      | buffer type buffer =>
          cases type with
          | bitstream =>
              simp only [irisHfiGen2HandleSessionCommand, irisHfiGen2HandleSessionBuffer]
              cases inst.domain with
              | decoder => exact hsteps.gen2InputBuffer (hall _) info buffer
              | encoder => exact hsteps.gen2OutputBuffer (hall _) info buffer
          | raw =>
              simp only [irisHfiGen2HandleSessionCommand, irisHfiGen2HandleSessionBuffer]
              cases inst.domain with
              | decoder => exact hsteps.gen2OutputBuffer (hall _) info buffer
              | encoder => exact hsteps.gen2InputBuffer (hall _) info buffer
          | internal found => exact hsteps
  | settingsChange bitstream unsupported =>
      simp only [irisHfiGen2HandleSessionCommand, irisHfiGen2HandleSrcChange]
      split_ifs
      · exact hsteps
      · exact orGoto_snd hsteps.drc (fun _ _ => id) fun inst h => h.applyIf _ enterError
  | drain success =>
      simp only [irisHfiGen2HandleSessionCommand]
      split_ifs
      · exact hsteps.enterError
      · exact hsteps.changeSubState _ _
      · exact hsteps
  | error => exact hsteps
  | info event => exact hsteps
  | pictureType bits => exact hsteps

theorem gen2Packet {state : FrameInfo × Inst} (hsteps : EventSteps touches start state.2)
    (pass : Gen2Pass) (packet : Gen2Packet) :
    EventSteps touches start (pass.packet state packet).2 := by
  have hflagged := hsteps.applyIf packet.sessionError enterError
  have hhandled : ∀ result,
      pass.handle state.1 packet.body (state.2.applyIf packet.sessionError Inst.enterError) =
        some result → EventSteps touches start result.2 := by
    intro result hresult
    unfold Gen2Pass.handle at hresult
    split at hresult
    · cases hresult
      exact hflagged.enterError
    · cases hresult
      unfold irisHfiGen2HandleSessionInfo
      split
      · exact hflagged.drainLast
      · exact hflagged.drcLast
      · exact hflagged
    · cases hresult
      exact hflagged
    · cases hresult
    · cases hresult
    · cases hresult
    · cases hresult
      exact hflagged.gen2Command hall _ _
    · cases hresult
  unfold Gen2Pass.packet
  simp only
  split
  · exact hflagged
  · next ret inst heq => exact (hhandled _ heq).applyIf _ enterError

theorem gen2Packets {state : FrameInfo × Inst} (hsteps : EventSteps touches start state.2)
    (pass : Gen2Pass) (packets : List Gen2Packet) :
    EventSteps touches start (packets.foldl pass.packet state).2 := by
  induction packets generalizing state with
  | nil => exact hsteps
  | cons packet rest ih => exact ih (hsteps.gen2Packet hall pass packet)

theorem gen2 (hsteps : EventSteps touches start inst) (packets : List Gen2Packet) :
    EventSteps touches start (irisHfiGen2HandleSessionResponse packets inst) := by
  have herrors := @gen2Packets _ _ hall (FrameInfo.cleared, inst) hsteps .errors packets
  have hpasses := ((herrors.gen2Packets hall .infos packets).gen2Packets hall .properties
    packets).gen2Packets hall .commands packets
  exact hpasses.applyIf _ fun h => dequeueBuffers (hall _) _ (dequeueBuffers (hall _) _ h)

end EventSteps

/-! ### Commands -/

namespace EventSteps

theorem queueDeferred (hsteps : EventSteps touches start inst) (hstate : inst.state = .streaming)
    (ret : Nat → Int) (plane : Plane) (indices : List Nat) :
    EventSteps touches start (queueDeferred ret plane indices inst).2 := by
  induction indices generalizing inst with
  | nil => exact hsteps
  | cons i rest ih =>
      rw [queueDeferred_cons]
      split_ifs with hdeferred
      · exact ih (hsteps.tail (.submit hdeferred hstate)) (by rw [irisQueueBuffer_state, hstate])
      · exact hsteps
      · exact ih hsteps hstate

theorem startRequeue (hsteps : EventSteps touches start inst) (hstate : inst.state = .streaming)
    (env : CmdEnv) : EventSteps touches start (startRequeue env inst).2 := by
  unfold NabuIris.startRequeue
  refine orGoto_keep (Q := (· = inst)) (P := fun r : Int × Inst => EventSteps touches start r.2) rfl
    (fun _ _ h => h ▸ hsteps) fun _ heq => ?_
  subst heq
  refine orGoto_keep (Q := fun t => EventSteps touches start t ∧ t.state = .streaming)
    (P := fun r : Int × Inst => EventSteps touches start r.2) ⟨?_, ?_⟩ (fun _ _ h => h.1)
    fun t h => h.1.queueDeferred h.2 _ _ _
  · exact hsteps.queueDeferred hstate _ _ _
  · rw [irisQueueDeferredBuffers, queueDeferred_state, hstate]

theorem startFlushed (hsteps : EventSteps touches start inst) (env : CmdEnv) :
    EventSteps touches start (irisVdecStartCmdFlushed env inst).2 := by
  unfold irisVdecStartCmdFlushed
  refine orGoto_snd ?_ (fun _ _ => id) fun inst hsteps => ?_
  · simp only
    split_ifs
    · exact orGoto_snd hsteps (fun _ _ => id) fun inst h => h.changeSubState _ _
    · exact orGoto_snd hsteps (fun _ _ => id) fun inst h => h.changeSubState _ _
    · exact hsteps.enterError
  · have hlast := hsteps.setLast false
    simp only
    split_ifs with hstreaming
    · exact hlast.startRequeue hstreaming.2 env
    · exact hlast

theorem cmd (hsteps : EventSteps touches start inst) (env : CmdEnv) (cmd : Cmd) :
    EventSteps touches start (irisCmd env cmd inst).2 := by
  unfold irisCmd
  split_ifs
  · exact hsteps
  · exact hsteps
  · split
    · unfold irisVdecStartCmd
      split_ifs
      · exact hsteps
      · exact hsteps
      · exact hsteps
      · exact hsteps.startFlushed env
    · unfold irisVencStartCmd
      split_ifs
      · exact orGoto_snd hsteps (fun _ _ => id) fun inst h => (h.setLast _).changeSubState _ _
      · exact hsteps.enterError
    · exact orGoto_snd hsteps (fun _ _ => id) fun inst h => h.changeSubState _ _

end EventSteps

/-! ### Events -/

/-- **Every event is a sequence of moves.** -/
theorem handleEvent_steps (event : Event) (inst : Inst) :
    EventSteps (fun _ => True) inst (handleEvent event inst) := by
  have hrefl : EventSteps (fun _ => True) inst inst := .refl
  cases event with
  | gen1 response =>
      simp only [handleEvent]
      cases inst.gen with
      | gen1 => exact hrefl.gen1 response (fun _ _ => trivial) (fun _ _ _ => trivial)
      | gen2 => exact hrefl
  | gen2 packets =>
      simp only [handleEvent]
      cases inst.gen with
      | gen1 => exact hrefl
      | gen2 => exact hrefl.gen2 (fun _ => trivial) packets
  | systemError => exact hrefl.enterError
  | responseTimeout => exact hrefl.enterError
  | cmd env cmd => exact hrefl.cmd env cmd
  | startFlushed env timedOut =>
      simp only [handleEvent]
      split_ifs
      · exact hrefl.enterError
      · exact hrefl.startFlushed env

theorem handleEvents_steps (events : List Event) (inst : Inst) :
    EventSteps (fun _ => True) inst (handleEvents events inst) := by
  induction events generalizing inst with
  | nil => exact .refl
  | cons event rest ih => exact (handleEvent_steps event inst).trans (ih _)

/-- On a first-generation instance only a buffer completion touches CAPTURE buffers. -/
theorem handleEvent_steps_output {event : Event} (hgen : inst.gen = .gen1)
    (hevent : ∀ env pkt, event ≠ .gen1 (.ftbDone env pkt)) :
    EventSteps (· = .output) inst (handleEvent event inst) := by
  have hrefl : EventSteps (· = .output) inst inst := .refl
  cases event with
  | gen1 response =>
      simp only [handleEvent, hgen]
      exact hrefl.gen1 response (fun _ _ => rfl) fun env pkt h =>
        absurd (congrArg _ h) (hevent env pkt)
  | gen2 packets =>
      simp only [handleEvent, hgen]
      exact hrefl
  | systemError => exact hrefl.enterError
  | responseTimeout => exact hrefl.enterError
  | cmd env cmd => exact hrefl.cmd env cmd
  | startFlushed env timedOut =>
      simp only [handleEvent]
      split_ifs
      · exact hrefl.enterError
      · exact hrefl.startFlushed env

end NabuIris
