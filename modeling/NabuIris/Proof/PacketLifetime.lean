import NabuIris.Gen2Session
import NabuIris.Lib.Run
import NabuIris.Proof.StartFrame
import NabuIris.Proof.StopReports

/-!
# The packet buffer and the commands built in it

A session that is killed while the other queue is still streaming leaves that queue without a
buffer to build its STOP in; closing a session leaves the same to the client commands that its wait
lets in. Nothing else does: as long as a queue is streaming the buffer is there.
-/

namespace NabuIris

variable {env : InstEnv} {plane q : Plane}

/-! ### The session -/

structure SameSession (s t : Inst) : Prop where
  id : t.sessionId = s.sessionId
  opened : t.hfiSessionOpened = s.hfiSessionOpened

theorem SameSession.trans {s t u : Inst} (hfirst : SameSession s t) (hsecond : SameSession t u) :
    SameSession s u :=
  ⟨hsecond.id.trans hfirst.id, hsecond.opened.trans hfirst.opened⟩

theorem SameSession.queueBuffer {s t : Inst} (hsame : SameSession s t) (ret : Int) (plane : Plane)
    (i : Nat) : SameSession s (irisQueueBuffer ret plane i t).2 := by
  unfold irisQueueBuffer
  split_ifs
  · exact hsame
  · exact ⟨hsame.id, hsame.opened⟩

theorem SameSession.bufferDone {s t : Inst} (hsame : SameSession s t) (plane : Plane) (i : Nat) :
    SameSession s (irisVb2BufferDone plane i t).2 := by
  obtain ⟨_, _, _, _, _, heq⟩ := irisVb2BufferDone_frame plane i t
  rw [heq]
  exact ⟨hsame.id, hsame.opened⟩

theorem EventStep.session {touches : Plane → Prop} {s t : Inst} (hstep : EventStep touches s t) :
    SameSession s t := by
  have hset : ∀ plane i buf, SameSession s (s.setBuf plane i buf) := fun _ _ _ => ⟨rfl, rfl⟩
  cases hstep with
  | fields => exact ⟨rfl, rfl⟩
  | error => exact ⟨rfl, rfl⟩
  | touch => exact ⟨rfl, rfl⟩
  | free => exact ⟨rfl, rfl⟩
  | complete => exact (hset _ _ _).bufferDone _ _
  | submit => exact SameSession.queueBuffer ⟨rfl, rfl⟩ _ _ _
  | requeue => exact (hset _ _ _).queueBuffer _ _ _
  | recyclePending =>
      unfold irisVdecRecyclePendingOutput
      cases s.pendingOutput with
      | none => exact ⟨rfl, rfl⟩
      | some k =>
          refine SameSession.queueBuffer ?_ _ _ _
          exact ⟨rfl, rfl⟩
  | completePending =>
      unfold irisVdecCompletePendingOutput
      cases s.pendingOutput with
      | none => exact ⟨rfl, rfl⟩
      | some k =>
          refine SameSession.bufferDone ?_ _ _
          exact ⟨rfl, rfl⟩
  | hold =>
      unfold irisVdecHoldOutput
      split_ifs <;> exact ⟨rfl, rfl⟩

theorem EventSteps.session {touches : Plane → Prop} {s t : Inst}
    (hsteps : EventSteps touches s t) : SameSession s t := by
  induction hsteps with
  | refl => exact ⟨rfl, rfl⟩
  | tail _ hstep ih => exact ih.trans hstep.session

theorem StreamSteps.sessionId {keep : InstState → Prop} {s t : Inst}
    (hsteps : StreamSteps keep s t) : t.sessionId = s.sessionId := by
  induction hsteps with
  | quiet hquiet _ => rw [hquiet]
  | event event _ => exact (handleEvent_steps event _).session.id
  | submit plane i => rfl
  | @flush s plane i buf =>
      have hset : SameSession s (s.setBuf plane i buf) := ⟨rfl, rfl⟩
      exact (hset.bufferDone plane i).id
  | back _ _ => rfl
  | rollback _ ih => exact ih
  | trans _ _ hfirst hsecond => exact hsecond.trans hfirst

theorem vb2BufQueue_session (ret : Int) (plane : Plane) (i : Nat) (data : QbufData)
    (inst : Inst) : SameSession inst (vb2BufQueue ret plane i data inst) := by
  have hfail : ∀ t : Inst, SameSession inst t → SameSession inst (bufQueueFail plane i t) := by
    intro t ht
    rw [bufQueueFail, enterError_eq]
    exact ⟨ht.id, ht.opened⟩
  have hgiven : SameSession inst
      ((inst.setVbufFlags plane i data.flags).record (.handed plane i)) := ⟨rfl, rfl⟩
  have hqbuf : ∀ t : Inst, SameSession inst t →
      SameSession inst (irisQbuf ret plane i data t).2 := by
    intro t ht
    have hset : ∀ buf, SameSession inst (t.setBuf plane i buf) := fun _ => ⟨ht.id, ht.opened⟩
    unfold irisQbuf
    simp only
    split_ifs
    · exact hset _
    · exact (hset _).queueBuffer ret plane i
  have hlast : ∀ t : Inst, SameSession inst t →
      SameSession inst (bufQueueLast plane i data t) := fun _ ht => ⟨ht.id, ht.opened⟩
  unfold vb2BufQueue irisVb2BufQueue
  split_ifs
  · exact ⟨rfl, rfl⟩
  · exact hfail _ hgiven
  · exact hfail _ hgiven
  · exact hlast _ hgiven
  · refine orGoto_keep (Q := SameSession inst) (P := SameSession inst) (hqbuf _ ?_)
      (fun _ t h => hfail t h) fun _ h => h
    exact ⟨hgiven.id, hgiven.opened⟩

theorem vb2HandOver_session (plane : Plane) (bufs : List (Nat × QbufData)) (inst : Inst) :
    SameSession inst (vb2HandOver plane bufs inst) := by
  unfold vb2HandOver
  induction bufs generalizing inst with
  | nil => exact ⟨rfl, rfl⟩
  | cons buf rest ih => exact (vb2BufQueue_session 0 plane buf.1 buf.2 inst).trans (ih _)

theorem vb2HandOver_handsOver (plane : Plane) (bufs : List (Nat × QbufData)) (inst : Inst) :
    HandsOver plane inst (vb2HandOver plane bufs inst) := by
  unfold vb2HandOver
  induction bufs generalizing inst with
  | nil => exact ⟨fun _ _ => rfl, rfl, .inl rfl⟩
  | cons buf rest ih => exact (vb2BufQueue_handsOver 0 plane buf.1 buf.2 inst).trans (ih _)

theorem irisHelperBuffersDone_session (plane : Plane) (state : Vb2State) (inst : Inst) :
    SameSession inst (irisHelperBuffersDone plane state inst) := by
  unfold irisHelperBuffersDone
  generalize inst.ready plane = indices
  induction indices generalizing inst with
  | nil => exact ⟨rfl, rfl⟩
  | cons i rest ih =>
      have hback : SameSession inst
          (v4l2M2mBufDone plane i state none (v4l2M2mBufRemove plane i inst)) := ⟨rfl, rfl⟩
      exact hback.trans (ih _)

/-! ### What the state says of a streaming queue -/

/-- A state in which the queue of `plane` may be streaming. -/
def Side (plane : Plane) (state : InstState) : Prop :=
  tellsStreaming plane state = true ∨ state = .error

instance (plane : Plane) (state : InstState) : Decidable (Side plane state) :=
  inferInstanceAs (Decidable (_ ∨ _))

theorem Side.ne_init {state : InstState} (hside : Side plane state) : state ≠ .init := by
  rintro rfl
  rcases hside with h | h
  · cases plane <;> cases h
  · cases h

theorem Side.ne_deinit {state : InstState} (hside : Side plane state) : state ≠ .deinit := by
  rintro rfl
  rcases hside with h | h
  · cases plane <;> cases h
  · cases h

theorem streamonState_other {state : InstState} (hne : q ≠ plane) (hside : Side q state) :
    Side q (streamonState plane state) := by
  revert hne hside
  cases plane <;> cases q <;> cases state <;> decide

theorem streamoffState_other {state : InstState} (hne : q ≠ plane) (hside : Side q state) :
    Side q (streamoffState plane state) := by
  revert hne hside
  cases plane <;> cases q <;> cases state <;> decide

theorem stable_side (hne : q ≠ plane) : Stable (Side q) plane where
  error := .inr rfl
  opened h := absurd rfl h.ne_deinit
  closed h := absurd rfl h.ne_init
  streamon inst h := by
    rw [irisInstStateChangeStreamon_state]
    exact streamonState_other hne h
  streamoff inst h := by
    rw [irisInstStateChangeStreamoff_state]
    exact streamoffState_other hne h

theorem streamonState_side (plane : Plane) (state : InstState) :
    Side plane (streamonState plane state) := by
  cases plane <;> cases state <;> decide

theorem irisInstStateChangeStreamoff_ret (plane : Plane) (inst : Inst) :
    (irisInstStateChangeStreamoff plane inst).1 = 0 := by
  cases inst with
  | mk _ _ _ _ _ _ state => cases plane <;> cases state <;> rfl

/-! ### Where a CAPTURE start ends -/

/-- The instance at the end of a start, or at its label `error`. -/
def StreamonOutcome.inst : StreamonOutcome → Inst
  | .failed _ inst => inst
  | .rollback _ inst => inst
  | .started inst => inst

theorem StreamSteps.streamonOutcome {keep : InstState → Prop} {start inst : Inst}
    (hstable : Stable keep .capture) (hsteps : StreamSteps keep start inst) (env : InstEnv) :
    StreamSteps keep start (streamonOutcome env inst).inst := by
  let Ok (outcome : StreamonOutcome) : Prop := StreamSteps keep start outcome.inst
  have hfail : ∀ (ret : Int) (t : Inst), StreamSteps keep start t → Ok (.failed ret t) :=
    fun _ _ h => h
  have herror : ∀ (ret : Int) (t : Inst), StreamSteps keep start t → Ok (.rollback ret t) :=
    fun _ _ h => h
  have hdone : ∀ t : Inst, StreamSteps keep start t → Ok (.started t) := fun _ h => h
  change Ok _
  unfold NabuIris.streamonOutcome NabuIris.streamonOutput
  cases inst.domain with
  | decoder =>
      refine orGoto_keep (Q := StreamSteps keep start) (P := Ok) ?_ hfail fun inst h => ?_
      · refine waitingCall hstable.error ?_ env _
        exact hsteps.same rfl rfl
      refine orGoto_keep (Q := StreamSteps keep start) (P := Ok) h hfail fun inst h => ?_
      refine orGoto_keep (Q := StreamSteps keep start) (P := Ok)
        (h.processStreamonOutput hstable env) herror fun inst h => ?_
      exact orGoto_keep (Q := StreamSteps keep start) (P := Ok) h herror hdone
  | encoder =>
      refine orGoto_keep (Q := StreamSteps keep start) (P := Ok)
        (hsteps.waitingCall hstable.error env _) herror fun inst h => ?_
      refine orGoto_keep (Q := StreamSteps keep start) (P := Ok) h hfail fun inst h => ?_
      refine orGoto_keep (Q := StreamSteps keep start) (P := Ok) h herror fun inst h => ?_
      exact orGoto_keep (Q := StreamSteps keep start) (P := Ok)
        (h.processStreamonOutput hstable env) herror hdone

/-! ### A start that succeeds -/

theorem CaptureSide.side {state : InstState} (hside : CaptureSide state) : Side .capture state := by
  rcases hside with rfl | rfl | rfl <;> decide

theorem irisProcessStreamonInput_side {inst : Inst}
    (hret : (irisProcessStreamonInput env inst).1 = 0) :
    Side .output (irisProcessStreamonInput env inst).2.state := by
  unfold irisProcessStreamonInput at hret ⊢
  obtain ⟨started, -, heq⟩ := orGoto_success (fun _ _ => giveUp_ne) hret
  rw [heq] at hret ⊢
  obtain ⟨resumed, -, heq⟩ := orGoto_success (fun _ _ => giveUp_ne) hret
  rw [heq] at hret ⊢
  obtain ⟨paused, -, heq⟩ := orGoto_success (fun _ _ => giveUp_ne) hret
  rw [heq] at hret ⊢
  obtain ⟨changed, hchange, heq⟩ := orGoto_success (fun _ _ => giveUp_ne) hret
  rw [heq, irisInstChangeSubState_state]
  have hside := irisInstStateChangeStreamon_state .output paused
  rw [hchange] at hside
  change Side .output changed.state
  rw [hside]
  exact streamonState_side .output paused.state

theorem queued_side {configured : Int × Inst} {queue : Inst → Int × Inst}
    (hret : (orGoto configured giveUp fun inst => orGoto (queue inst) giveUp fun inst =>
      irisProcessStreamonInput env inst).1 = 0) :
    Side .output (orGoto configured giveUp fun inst => orGoto (queue inst) giveUp fun inst =>
      irisProcessStreamonInput env inst).2.state := by
  obtain ⟨configured, -, heq⟩ := orGoto_success (fun _ _ => giveUp_ne) hret
  rw [heq] at hret ⊢
  obtain ⟨queued, -, heq⟩ := orGoto_success (fun _ _ => giveUp_ne) hret
  rw [heq] at hret ⊢
  exact irisProcessStreamonInput_side hret

theorem irisStreamonInput_side {inst : Inst} (hret : (irisStreamonInput env inst).1 = 0) :
    Side .output (irisStreamonInput env inst).2.state := by
  unfold irisStreamonInput at hret ⊢
  cases hdomain : inst.domain with
  | decoder =>
      simp only [hdomain, irisVdecStreamonInput] at hret ⊢
      exact queued_side hret
  | encoder =>
      simp only [hdomain, irisVencStreamonInput] at hret ⊢
      exact queued_side hret

/-- A start goes to its label `error` only with an error. -/
def StreamonOutcome.Fails : StreamonOutcome → Prop
  | .rollback ret _ => ret ≠ 0
  | _ => True

theorem streamonOutcome_fails (env : InstEnv) (inst : Inst) : (streamonOutcome env inst).Fails := by
  let Ok := StreamonOutcome.Fails
  let Any : Inst → Prop := fun _ => True
  have hfail : ∀ (ret : Int) (t : Inst), ret ≠ 0 → Any t → Ok (.failed ret t) :=
    fun _ _ _ _ => trivial
  have herror : ∀ (ret : Int) (t : Inst), ret ≠ 0 → Any t → Ok (.rollback ret t) :=
    fun _ _ h _ => h
  have hdone : ∀ t, Any t → Ok (.started t) := fun _ _ => trivial
  unfold NabuIris.streamonOutcome streamonOutput
  cases inst.domain with
  | decoder =>
      refine orGoto_split (Q := Any) (P := Ok) trivial hfail fun t _ => ?_
      refine orGoto_split (Q := Any) (P := Ok) trivial hfail fun t _ => ?_
      refine orGoto_split (Q := Any) (P := Ok) trivial herror fun t _ => ?_
      exact orGoto_split (Q := Any) (P := Ok) trivial herror hdone
  | encoder =>
      refine orGoto_split (Q := Any) (P := Ok) trivial herror fun t _ => ?_
      refine orGoto_split (Q := Any) (P := Ok) trivial hfail fun t _ => ?_
      refine orGoto_split (Q := Any) (P := Ok) trivial herror fun t _ => ?_
      exact orGoto_split (Q := Any) (P := Ok) trivial herror hdone

theorem irisStreamonOutput_outcome (env : InstEnv) (inst : Inst) :
    irisStreamonOutput env inst =
      (streamonOutcome env inst).elim giveUp (streamonRollback env) fun inst => (0, inst) :=
  streamonOutput_outcome env _ _ _ inst

namespace Gen2Session

variable {s : Gen2Session} {events : List Event}

/-! ### The record -/

/-- Every builder that ran found the buffer. -/
def Built (s : Gen2Session) : Prop := ∀ use ∈ s.built, use.2 = true

/-- The buffer is there, and it was for every builder. -/
structure Sound (s : Gen2Session) : Prop where
  packet : s.packet = true
  built : s.Built

theorem Sound.build (hsound : s.Sound) (builders : List Gen2Builder) :
    (s.build builders).Sound where
  packet := hsound.packet
  built := by
    intro use huse
    rcases List.mem_append.1 huse with hold | hnew
    · exact hsound.built use hold
    · obtain ⟨builder, -, rfl⟩ := List.mem_map.1 hnew
      exact hsound.packet

theorem Sound.change (hsound : s.Sound) (f : Inst → Inst) : (s.change f).Sound :=
  ⟨hsound.packet, hsound.built⟩

theorem Built.nothing (hbuilt : s.Built) : (s.build []).Built := by
  intro use huse
  rw [build, List.map_nil, List.append_nil] at huse
  exact hbuilt use huse

/-! ### The functions of `Streaming` -/

/-- The result and the instance of a function of `Streaming`. -/
def Follows (r : Int × Gen2Session) (streaming : Int × Inst) : Prop :=
  r.1 = streaming.1 ∧ r.2.inst = streaming.2

theorem Follows.orGoto {call : Int × Gen2Session} {call' : Int × Inst}
    {label : Int → Gen2Session → Int × Gen2Session} {label' : Int → Inst → Int × Inst}
    {next : Gen2Session → Int × Gen2Session} {next' : Inst → Int × Inst}
    (hcall : Follows call call')
    (hlabel : ∀ ret t, Follows (label ret t) (label' ret t.inst))
    (hnext : ∀ t, t = call.2 → Follows (next t) (next' t.inst)) :
    Follows (orGoto call label next) (orGoto call' label' next') := by
  obtain ⟨ret, t⟩ := call
  obtain ⟨ret', inst⟩ := call'
  obtain ⟨rfl, rfl⟩ := hcall
  unfold NabuIris.orGoto
  split_ifs
  · exact hlabel _ _
  · exact hnext _ rfl

/-! ### Waits -/

theorem Sound.handleEvents (hsound : s.Sound) (events : List Event) :
    (s.handleEvents events).Sound := by
  unfold Gen2Session.handleEvents
  induction events generalizing s with
  | nil => exact hsound
  | cons event rest ih => exact ih ((hsound.build _).change _)

theorem handleEvents_inst (events : List Event) (s : Gen2Session) :
    (s.handleEvents events).inst = NabuIris.handleEvents events s.inst := by
  unfold Gen2Session.handleEvents NabuIris.handleEvents
  induction events generalizing s with
  | nil => rfl
  | cons event rest ih => exact ih _

theorem handleEvents_packet (events : List Event) (s : Gen2Session) :
    (s.handleEvents events).packet = s.packet := by
  unfold Gen2Session.handleEvents
  induction events generalizing s with
  | nil => rfl
  | cons event rest ih => exact ih _

theorem handleEvent_streaming (event : Event) (inst : Inst) :
    (NabuIris.handleEvent event inst).streaming = inst.streaming := by
  have hsettles : Settles (fun _ => True) inst (NabuIris.handleEvent event inst) :=
    (handleEvent_steps event inst).settles trivial
  exact hsettles.streaming

/-- A client command that is refused while the queues stream as `streaming` tells. -/
def Refused (streaming : Plane → Bool) : Event → Prop
  | .cmd _ .start => ∀ plane, streaming plane = false
  | .cmd _ .stop => streaming .output = false
  | _ => True

def Undisturbed (events : List Event) (streaming : Plane → Bool) : Prop :=
  ∀ event ∈ events, Refused streaming event

theorem undisturbed_idle {streaming : Plane → Bool} (hidle : ∀ plane, streaming plane = false)
    (events : List Event) : Undisturbed events streaming := by
  intro event _
  cases event with
  | cmd _ cmd =>
      cases cmd with
      | start => exact hidle
      | stop => exact hidle .output
  | gen1 _ => trivial
  | gen2 _ => trivial
  | systemError => trivial
  | responseTimeout => trivial
  | startFlushed _ _ => trivial

theorem undisturbed_alone (env : InstEnv) (call : InstCall) (streaming : Plane → Bool) :
    Undisturbed (env.alone.events call) streaming := by
  intro event hevent
  have hcmd : event.isCmd = false := by simpa using (List.mem_filter.1 hevent).2
  cases event with
  | cmd _ _ => cases hcmd
  | gen1 _ => trivial
  | gen2 _ => trivial
  | systemError => trivial
  | responseTimeout => trivial
  | startFlushed _ _ => trivial

theorem eventBuilders_of_refused {event : Event} {inst : Inst}
    (hrefused : Refused inst.streaming event) : eventBuilders event inst = [] := by
  cases event with
  | cmd _ cmd =>
      have hallow : irisAllowCmd cmd inst = false := by
        cases cmd with
        | start =>
            have hidle : ∀ plane, inst.streaming plane = false := hrefused
            simp [irisAllowCmd, hidle]
        | stop =>
            have hidle : inst.streaming .output = false := hrefused
            simp [irisAllowCmd, hidle]
      simp [eventBuilders, hallow]
  | gen1 _ => rfl
  | gen2 _ => rfl
  | systemError => rfl
  | responseTimeout => rfl
  | startFlushed _ _ => rfl

theorem Built.handleEvent (hbuilt : s.Built) {event : Event}
    (hrefused : Refused s.inst.streaming event) : (s.handleEvent event).Built := by
  rw [Gen2Session.handleEvent, eventBuilders_of_refused hrefused]
  exact hbuilt.nothing

theorem Built.handleEvents (hbuilt : s.Built) (hquiet : Undisturbed events s.inst.streaming) :
    (s.handleEvents events).Built := by
  unfold Gen2Session.handleEvents
  induction events generalizing s with
  | nil => exact hbuilt
  | cons event rest ih =>
      refine ih (s := s.handleEvent event) ?_ ?_
      · exact hbuilt.handleEvent (hquiet event List.mem_cons_self)
      · intro e he
        change Refused (NabuIris.handleEvent event s.inst).streaming e
        rw [handleEvent_streaming]
        exact hquiet e (List.mem_cons_of_mem _ he)

theorem irisWaitForSessionResponse_follows (env : InstEnv) (call : InstCall) (s : Gen2Session) :
    Follows (irisWaitForSessionResponse env call s)
      (NabuIris.irisWaitForSessionResponse env call s.inst) := by
  unfold irisWaitForSessionResponse NabuIris.irisWaitForSessionResponse
  simp only
  split_ifs
  · exact ⟨rfl, congrArg Inst.enterError (handleEvents_inst _ s)⟩
  · exact ⟨rfl, handleEvents_inst _ s⟩

theorem Sound.wait (hsound : s.Sound) (env : InstEnv) (call : InstCall) :
    (irisWaitForSessionResponse env call s).2.Sound := by
  unfold irisWaitForSessionResponse
  simp only
  split_ifs
  · exact (hsound.handleEvents _).change _
  · exact hsound.handleEvents _

theorem Built.wait (hbuilt : s.Built) {call : InstCall}
    (hquiet : Undisturbed (env.events call) s.inst.streaming) :
    (irisWaitForSessionResponse env call s).2.Built := by
  unfold irisWaitForSessionResponse
  simp only
  split_ifs
  · exact hbuilt.handleEvents hquiet
  · exact hbuilt.handleEvents hquiet

/-! ### STOP -/

theorem irisHfiGen2SessionStop_follows (env : InstEnv) (s : Gen2Session) :
    Follows (irisHfiGen2SessionStop env s) (sessionCommand env .sessionStop s.inst) := by
  refine Follows.orGoto ⟨rfl, rfl⟩ (fun _ _ => ⟨rfl, rfl⟩) fun t ht => ?_
  exact irisWaitForSessionResponse_follows env .sessionStop t

theorem Sound.stop (hsound : s.Sound) (env : InstEnv) : (irisHfiGen2SessionStop env s).2.Sound :=
  orGoto_keep (Q := Sound) (P := fun r : Int × Gen2Session => r.2.Sound) (hsound.build [.stop])
    (fun _ _ h => h) fun _ h => h.wait env .sessionStop

theorem irisHfiGen2SessionStop_answered
    (hret : (irisHfiGen2SessionStop env s).1 ≠ 0) : ¬Answered env .sessionStop := by
  rw [(irisHfiGen2SessionStop_follows env s).1, sessionCommand_ret] at hret
  exact fun h => hret (commandRet_eq_zero.2 h)

/-! ### Closing and killing -/

/-- The states without a buffer in which no queue is streaming. -/
def Over (inst : Inst) : Prop :=
  inst.state = .error ∨ inst.state = .deinit ∧ inst.hfiSessionOpened = false

theorem Built.sessionClose (hbuilt : s.Built) (env : InstEnv) :
    (irisHfiGen2SessionClose env s).2.Built := by
  unfold irisHfiGen2SessionClose
  split_ifs with hpacket
  · exact hbuilt
  · have hsound : s.Sound := ⟨by simpa using hpacket, hbuilt⟩
    exact (hsound.build [.close]).built

theorem irisHfiGen2SessionClose_inst (env : InstEnv) (s : Gen2Session) :
    (irisHfiGen2SessionClose env s).2.inst = s.inst := by
  unfold irisHfiGen2SessionClose
  split_ifs <;> rfl

theorem Built.killSession (hbuilt : s.Built) (env : InstEnv) : (irisKillSession env s).Built := by
  unfold irisKillSession
  split_ifs
  · exact hbuilt
  · exact hbuilt.sessionClose env

theorem irisKillSession_inst (env : InstEnv) (s : Gen2Session) :
    (irisKillSession env s).inst = NabuIris.irisKillSession s.inst := by
  unfold irisKillSession NabuIris.irisKillSession
  split_ifs
  · rfl
  · exact congrArg Inst.enterError (irisHfiGen2SessionClose_inst env s)

theorem Built.sessionClosing (hbuilt : s.Built)
    (hquiet : Undisturbed (env.events .sessionClose) s.inst.streaming) :
    (sessionClosing env s).2.Built := by
  have hclose := hbuilt.sessionClose env
  rw [← irisHfiGen2SessionClose_inst env s] at hquiet
  unfold Gen2Session.sessionClosing
  refine orGoto_split 
    (Q := fun t => t.Built ∧ Undisturbed (env.events .sessionClose) t.inst.streaming)
    (P := fun r : Int × Gen2Session => r.2.Built) ⟨hclose, hquiet⟩ (fun _ _ _ h => h.1)
    fun t ht => ?_
  refine orGoto_keep (Q := Built) (P := fun r : Int × Gen2Session => r.2.Built)
    (ht.1.wait ht.2) (fun _ _ h => h) fun t ht => ?_
  split_ifs
  · exact ht
  · exact ht
  · exact ht

theorem Built.hfiSessionClose (hbuilt : s.Built)
    (hquiet : Undisturbed (env.events .sessionClose) s.inst.streaming) :
    (irisHfiSessionClose env s).2.Built := by
  unfold irisHfiSessionClose
  split_ifs
  · exact hbuilt
  · exact hbuilt.sessionClosing hquiet

theorem irisHfiGen2SessionClose_follows (hpacket : s.packet = true) :
    Follows (irisHfiGen2SessionClose env s) (env.ret .sessionClose, s.inst) := by
  refine ⟨?_, irisHfiGen2SessionClose_inst env s⟩
  unfold irisHfiGen2SessionClose
  rw [hpacket]
  rfl

/-- As long as the buffer is there, closing a session is what it is in `Streaming`. -/
theorem sessionClosing_follows (hpacket : s.packet = true) :
    Follows (sessionClosing env s) (NabuIris.sessionClosing env s.inst) := by
  have hgiveUp : ∀ ret inst, NabuIris.giveUp ret inst = (ret, inst) := fun _ _ => rfl
  unfold Gen2Session.sessionClosing NabuIris.sessionClosing sessionCommand
  simp only [orGoto_assoc hgiveUp]
  refine Follows.orGoto (irisHfiGen2SessionClose_follows hpacket) (fun _ _ => ⟨rfl, rfl⟩)
    fun t ht => ?_
  refine Follows.orGoto (irisWaitForSessionResponse_follows env .sessionClose t)
    (fun _ _ => ⟨rfl, rfl⟩) fun u hu => ?_
  split_ifs
  · exact ⟨rfl, rfl⟩
  · exact ⟨rfl, rfl⟩
  · exact ⟨rfl, rfl⟩

/-! ### What a streaming function keeps -/

/-- What the functions of the other queue keep for `q`. -/
structure Keeps (q : Plane) (s t : Gen2Session) : Prop where
  built : t.Built
  steps : StreamSteps (Side q) s.inst t.inst
  packet : s.inst.streaming q = true → t.packet = true

/-- The same while the buffer is there. -/
structure Going (q : Plane) (s t : Gen2Session) : Prop where
  sound : t.Sound
  steps : StreamSteps (Side q) s.inst t.inst

variable {t : Gen2Session}

theorem Going.keeps (hgoing : Going q s t) : Keeps q s t :=
  ⟨hgoing.sound.built, hgoing.steps, fun _ => hgoing.sound.packet⟩

theorem Going.build (hgoing : Going q s t) (builders : List Gen2Builder) :
    Going q s (t.build builders) :=
  ⟨hgoing.sound.build builders, hgoing.steps⟩

theorem Going.change (hgoing : Going q s t) {f : Inst → Inst}
    (hf : StreamSteps (Side q) s.inst t.inst → StreamSteps (Side q) s.inst (f t.inst)) :
    Going q s (t.change f) :=
  ⟨hgoing.sound.change f, hf hgoing.steps⟩

theorem Going.call (hgoing : Going q s t) {f : Inst → Int × Inst}
    (hf : StreamSteps (Side q) s.inst t.inst → StreamSteps (Side q) s.inst (f t.inst).2) :
    Going q s (t.call f).2 :=
  ⟨hgoing.sound.change fun inst => (f inst).2, hf hgoing.steps⟩

theorem Going.stop (hgoing : Going q s t) (env : InstEnv) :
    Going q s (irisHfiGen2SessionStop env t).2 := by
  refine ⟨hgoing.sound.stop env, ?_⟩
  rw [(irisHfiGen2SessionStop_follows env t).2]
  exact hgoing.steps.sessionCommand (.inr rfl) env .sessionStop

/-! ### Closing the session with the last queue -/

theorem irisHfiSessionClose_follows (hpacket : s.packet = true) :
    Follows (irisHfiSessionClose env s) (NabuIris.irisHfiSessionClose env s.inst) := by
  obtain ⟨hret, hinst⟩ := @sessionClosing_follows env s hpacket
  unfold irisHfiSessionClose NabuIris.irisHfiSessionClose
  split_ifs
  · exact ⟨rfl, rfl⟩
  · refine ⟨hret, ?_⟩
    simp only [← hinst]
    rfl

/-- The state in which a session is closed without an error. -/
theorem irisHfiSessionClose_over {inst : Inst} (hstate : inst.state = .init)
    (hret : (NabuIris.irisHfiSessionClose env inst).1 = 0)
    (hopened : inst.hfiSessionOpened = true) : Over (NabuIris.irisHfiSessionClose env inst).2 := by
  have hstays : StreamSteps (fun state => state = .init ∨ state = .error) inst
      (sessionCommand env .sessionClose inst).2 :=
    (StreamSteps.refl inst).sessionCommand (.inr rfl) env _
  have hleft := hstays.keeps (.inl hstate)
  have hclosing : (NabuIris.sessionClosing env inst).2.state = .error ∨
      (NabuIris.sessionClosing env inst).2.state = .deinit := by
    have hzero : (NabuIris.sessionClosing env inst).1 = 0 := by
      simpa [NabuIris.irisHfiSessionClose, hopened] using hret
    unfold NabuIris.sessionClosing at hzero ⊢
    obtain ⟨t, heq, hnext⟩ := orGoto_success (fun _ _ hne => hne) hzero
    rw [hnext]
    rw [heq] at hleft
    split_ifs with hfailed hopen
    · exact .inl hfailed.2
    · have hinit : t.state = .init := hleft.resolve_right hopen
      rw [irisInstChangeState_deinit t hinit]
      exact .inr rfl
    · exact .inl (not_not.1 hopen)
  simp only [NabuIris.irisHfiSessionClose, hopened, Bool.not_true, Bool.false_eq_true, if_false]
  exact hclosing.imp id fun h => ⟨h, rfl⟩

/-! ### Stream-off -/

/-- The ways a stream-off that finds the buffer ends. -/
inductive Streamoff (env : InstEnv) (plane q : Plane) (s : Gen2Session) :
    Int × Gen2Session → Prop
  | killed {ret : Int} {t : Gen2Session} :
      ret ≠ 0 → ¬Answered env .sessionStop → Going q s t →
      Streamoff env plane q s
        (ret, (irisKillSession env t).change (irisFlushDeferredBuffers plane))
  | stopped {ret : Int} {t : Gen2Session} : Going q s t → Streamoff env plane q s (ret, t)
  | closed {t : Gen2Session} :
      Going q s t → t.inst.state = .init → Streamoff env plane q s (irisHfiSessionClose env t)

theorem irisSessionStreamoff_spec (hsound : s.Sound) (env : InstEnv) (plane q : Plane)
    (hne : q ≠ plane) : Streamoff env plane q s (irisSessionStreamoff env plane s) := by
  have hbegin : Going q s (s.change fun inst => { inst with streamoffPending := true }) :=
    ⟨hsound.change _, (StreamSteps.refl s.inst).same rfl rfl⟩
  have hstop := hbegin.stop env
  unfold irisSessionStreamoff
  refine orGoto_rule (P := Streamoff env plane q s) (fun ret t heq hret => ?_) fun t heq => ?_
  · rw [heq] at hstop
    refine .killed hret ?_ hstop
    exact irisHfiGen2SessionStop_answered (by rw [heq]; exact hret)
  rw [heq] at hstop
  have hflushed : Going q s ((t.change fun inst =>
      (irisInstStateChangeStreamoff plane inst).2).change (irisFlushDeferredBuffers plane)) :=
    (hstop.change fun h => h.changeState _ ((stable_side hne).streamoff t.inst)).change
      fun h => h.flushDeferred _ _
  refine orGoto_rule (P := Streamoff env plane q s) (fun ret u heq hret => ?_) fun u heq => ?_
  · have hzero := irisInstStateChangeStreamoff_ret plane t.inst
    rw [call, Prod.mk.injEq, hzero] at heq
    exact absurd heq.1.symm hret
  rw [call, Prod.mk.injEq] at heq
  obtain ⟨-, rfl⟩ := heq
  simp only
  split_ifs with hinit
  · exact orGoto_value_rule (P := Streamoff env plane q s) (fun _ => .stopped hflushed)
      fun _ => .closed hflushed hinit
  · exact .stopped hflushed

/-- A STOP that is not answered does no harm: there is no session to kill, or no other queue. -/
def StopSafe (env : InstEnv) (q : Plane) (inst : Inst) : Prop :=
  Answered env .sessionStop ∨ inst.sessionId = 0 ∨ inst.streaming q = false

theorem Going.hfiSessionClose (hgoing : Going q s t) (hstate : t.inst.state = .init)
    (hidle : s.inst.streaming q = false)
    (hquiet : Undisturbed (env.events .sessionClose) s.inst.streaming) :
    Keeps q s (irisHfiSessionClose env t).2 where
  built := by
    refine hgoing.sound.built.hfiSessionClose ?_
    rwa [hgoing.steps.settles.streaming]
  steps := by
    rw [(irisHfiSessionClose_follows hgoing.sound.packet).2]
    cases q with
    | output =>
        have hne : Plane.output ≠ .capture := by decide
        exact hgoing.steps.hfiSessionClose (stable_side hne) hstate env
    | capture =>
        have hne : Plane.capture ≠ .output := by decide
        exact hgoing.steps.hfiSessionClose (stable_side hne) hstate env
  packet := fun h => by simp [hidle] at h

theorem Streamoff.keeps {r : Int × Gen2Session} (hends : Streamoff env plane q s r)
    (hside : s.inst.streaming q = true → Side q s.inst.state) (hsafe : StopSafe env q s.inst)
    (hquiet : s.inst.streaming q = false →
      Undisturbed (env.events .sessionClose) s.inst.streaming) : Keeps q s r.2 := by
  cases hends with
  | @killed ret t hret hstop hgoing =>
      refine ⟨hgoing.sound.built.killSession env, ?_, fun hq => ?_⟩
      · change StreamSteps (Side q) s.inst
          (irisFlushDeferredBuffers plane (irisKillSession env t).inst)
        rw [irisKillSession_inst]
        exact (hgoing.steps.killSession (.inr rfl)).flushDeferred _ _
      · have hid : t.inst.sessionId = 0 := by
          rw [hgoing.steps.sessionId]
          exact (hsafe.resolve_left hstop).resolve_right (by simp [hq])
        change (irisKillSession env t).packet = true
        rw [irisKillSession, if_pos hid]
        exact hgoing.sound.packet
  | stopped hgoing => exact hgoing.keeps
  | closed hgoing hstate =>
      have hidle : s.inst.streaming q = false := by
        by_contra hq
        have hq : s.inst.streaming q = true := by simpa using hq
        exact (hgoing.steps.keeps (hside hq)).ne_init hstate
      exact hgoing.hfiSessionClose hstate hidle (hquiet hidle)

/-- A stream-off that leaves no buffer fails, or the session is over. -/
theorem Streamoff.over {r : Int × Gen2Session} (hends : Streamoff env plane q s r)
    (hpacket : r.2.packet = false) : r.1 ≠ 0 ∨ Over r.2.inst := by
  cases hends with
  | killed hret _ _ => exact .inl hret
  | stopped hgoing =>
      have hthere := hgoing.sound.packet
      rw [hpacket] at hthere
      cases hthere
  | @closed t hgoing hstate =>
      obtain ⟨hret, hinst⟩ := @irisHfiSessionClose_follows env t hgoing.sound.packet
      by_cases hopened : t.inst.hfiSessionOpened = true
      · rw [hret, hinst]
        by_cases hzero : (NabuIris.irisHfiSessionClose env t.inst).1 = 0
        · exact .inr (irisHfiSessionClose_over hstate hzero hopened)
        · exact .inl hzero
      · have hthere := hgoing.sound.packet
        rw [irisHfiSessionClose, if_pos (by simpa using hopened), hthere] at hpacket
        cases hpacket

/-! ### Session open -/

/-- What holds between the calls of a client while the file is open. -/
structure Live (s : Gen2Session) : Prop where
  built : s.Built
  side : ∀ plane, s.inst.streaming plane = true → Side plane s.inst.state
  gone : s.packet = false → (∀ plane, s.inst.streaming plane = false) ∧ Over s.inst

theorem Live.sound (hlive : s.Live) (hstreaming : s.inst.streaming q = true) : s.Sound := by
  refine ⟨?_, hlive.built⟩
  by_contra hpacket
  have hidle := (hlive.gone (by simpa using hpacket)).1 q
  rw [hstreaming] at hidle
  cases hidle

theorem Live.keeps (hlive : s.Live) (q : Plane) : Keeps q s s :=
  ⟨hlive.built, .refl _, fun hq => (hlive.sound hq).packet⟩

/-- The ways an open ends. -/
inductive SessionOpened (q : Plane) (s : Gen2Session) : Int × Gen2Session → Prop
  | there {t : Gen2Session} : Going q s t → SessionOpened q s (0, t)
  | failed {ret : Int} {t : Gen2Session} :
      ret ≠ 0 → Keeps q s t → (t.packet = false → Over t.inst) → SessionOpened q s (ret, t)

theorem SessionOpened.keeps {r : Int × Gen2Session} (hopened : SessionOpened q s r) :
    Keeps q s r.2 := by
  cases hopened with
  | there hgoing => exact hgoing.keeps
  | failed _ hkeeps _ => exact hkeeps

theorem SessionOpened.over {r : Int × Gen2Session} (hopened : SessionOpened q s r)
    (hpacket : r.2.packet = false) : Over r.2.inst := by
  cases hopened with
  | there hgoing =>
      have hthere := hgoing.sound.packet
      rw [hpacket] at hthere
      cases hthere
  | failed _ _ hover => exact hover hpacket

theorem irisHfiGen2SessionOpen_failed {f : Inst → Inst} {ret : Int} (hbuilt : s.Built)
    (hstate : (f s.inst).state = .deinit)
    (heq : irisHfiGen2SessionOpen env (s.change f) = (ret, t)) (hret : ret ≠ 0) :
    t.Built ∧ t.inst = f s.inst := by
  have hsound : Sound { s.change f with packet := true } := ⟨rfl, hbuilt⟩
  have hthere : (s.change f).inst.state = .deinit := hstate
  rw [irisHfiGen2SessionOpen, if_neg (not_not.2 hthere)] at heq
  by_cases hzero : env.ret .sessionOpen = 0
  · rw [hzero, orGoto_zero, Prod.mk.injEq] at heq
    exact absurd heq.1.symm hret
  · rw [NabuIris.orGoto, if_pos hzero, Prod.mk.injEq] at heq
    obtain ⟨-, rfl⟩ := heq
    exact ⟨(hsound.build [.open, .property]).built, rfl⟩

theorem irisHfiGen2SessionOpen_opened {f : Inst → Inst} (hbuilt : s.Built)
    (hstate : (f s.inst).state = .deinit)
    (heq : irisHfiGen2SessionOpen env (s.change f) = (0, t)) :
    t.Sound ∧ t.inst = f s.inst := by
  have hsound : Sound { s.change f with packet := true } := ⟨rfl, hbuilt⟩
  have hthere : (s.change f).inst.state = .deinit := hstate
  rw [irisHfiGen2SessionOpen, if_neg (not_not.2 hthere)] at heq
  obtain ⟨u, hu, hnext⟩ := orGoto_success (fun _ _ hne => hne) (congrArg Prod.fst heq)
  rw [hnext, Prod.mk.injEq] at heq
  obtain ⟨-, rfl⟩ := heq
  obtain ⟨-, rfl⟩ := Prod.mk.inj hu
  exact ⟨hsound.build [.open, .property], rfl⟩

theorem irisHfiSessionOpen_spec (hlive : s.Live) (hstate : s.inst.state ≠ .error) (env : InstEnv)
    (q : Plane) : SessionOpened q s (irisHfiSessionOpen env s) := by
  have hkept := hlive.keeps q
  unfold irisHfiSessionOpen
  split_ifs with hopened
  · refine .there ⟨⟨?_, hlive.built⟩, .refl _⟩
    by_contra hpacket
    rcases (hlive.gone (by simpa using hpacket)).2 with herror | ⟨-, hclosed⟩
    · exact hstate herror
    · rw [hopened] at hclosed
      cases hclosed
  refine orGoto_value_rule (P := SessionOpened q s)
    (fun hret => .failed hret hkept fun hpacket => (hlive.gone hpacket).2) fun _ => ?_
  by_cases hdeinit : s.inst.state = .deinit
  · have hidle : s.inst.streaming q ≠ true := fun hq => (hlive.side q hq).ne_deinit hdeinit
    refine orGoto_rule (P := SessionOpened q s) (fun ret t heq hret => ?_) fun t heq => ?_
    · obtain ⟨hbuilt, hinst⟩ := irisHfiGen2SessionOpen_failed hlive.built hdeinit heq hret
      refine .failed hret ⟨hbuilt, ?_, fun hq => absurd hq hidle⟩ fun _ => .inr ⟨?_, rfl⟩
      · change StreamSteps (Side q) s.inst { t.inst with hfiSessionOpened := false }
        rw [hinst]
        exact (StreamSteps.refl s.inst).same rfl rfl
      · change t.inst.state = .deinit
        rw [hinst]
        exact hdeinit
    · obtain ⟨hsound, hinst⟩ := irisHfiGen2SessionOpen_opened hlive.built hdeinit heq
      have hthere : t.inst.state = .deinit := by
        rw [hinst]
        exact hdeinit
      rw [if_neg (by rw [hthere]; decide), call, irisInstChangeState_init t.inst (.inl hthere),
        orGoto_zero]
      refine .there ⟨hsound.change _, ?_⟩
      change StreamSteps (Side q) s.inst (irisInstChangeState .init t.inst).2
      rw [irisInstChangeState_init t.inst (.inl hthere), if_pos hthere, hinst]
      exact .quiet rfl fun h => absurd hdeinit h.ne_deinit
  · have hrefused : irisHfiGen2SessionOpen env
        (s.change fun inst => { inst with hfiSessionOpened := true }) =
        (-ealready, s.change fun inst => { inst with hfiSessionOpened := true }) :=
      if_pos hdeinit
    have hret : -ealready ≠ 0 := by decide
    rw [hrefused, NabuIris.orGoto, if_pos hret]
    refine .failed hret ⟨hlive.built, (StreamSteps.refl s.inst).same rfl rfl, hkept.packet⟩
      fun hpacket => ?_
    rcases (hlive.gone hpacket).2 with herror | ⟨hclosed, -⟩
    · exact absurd herror hstate
    · exact absurd hclosed hdeinit

/-! ### Stream-on -/

/-- What a start in the opened session keeps, and what its success means. -/
structure Starts (plane q : Plane) (s : Gen2Session) (r : Int × Gen2Session) : Prop where
  keeps : Keeps q s r.2
  success : r.1 = 0 → r.2.packet = true ∧ Side plane r.2.inst.state

theorem irisStreamonInput_starts (hgoing : Going q s t) (hne : q ≠ .output) (env : InstEnv) :
    Starts .output q s (irisStreamonInput env t) := by
  have hstarted : Going q s (irisStreamonInput env t).2 :=
    (hgoing.build (startBuilders .output)).call fun h => h.streamonInput (stable_side hne) env
  exact ⟨hstarted.keeps, fun hret => ⟨hstarted.sound.packet, irisStreamonInput_side hret⟩⟩

/-- The label `error` stops the queue that was being started. -/
theorem Going.streamonRollback (hgoing : Going .output s t)
    (hside : s.inst.streaming .output = true → Side .output s.inst.state)
    (hidle : s.inst.streaming .capture = false) (hsafe : StopSafe env .output s.inst) (ret : Int) :
    Keeps .output s (streamonRollback env ret t).2 := by
  have hne : Plane.output ≠ .capture := by decide
  have hstreaming := hgoing.steps.settles.streaming
  let rolling := t.change fun inst => { inst with startStreamingRollbackType := some .capture }
  have hsound : rolling.Sound := hgoing.sound.change _
  have hkept : Keeps .output rolling (irisSessionStreamoff env .capture rolling).2 := by
    refine (irisSessionStreamoff_spec hsound env .capture .output hne).keeps ?_ ?_ ?_
    · intro h
      change t.inst.streaming .output = true at h
      rw [hstreaming] at h
      exact hgoing.steps.keeps (hside h)
    · change _ ∨ t.inst.sessionId = 0 ∨ t.inst.streaming .output = false
      rw [hgoing.steps.sessionId, hstreaming]
      exact hsafe
    · intro h
      refine undisturbed_idle (fun plane => ?_) _
      cases plane with
      | output => exact h
      | capture =>
          change t.inst.streaming .capture = false
          rw [hstreaming]
          exact hidle
  refine ⟨hkept.built, hgoing.steps.trans (.rollback hkept.steps), fun h => hkept.packet ?_⟩
  change t.inst.streaming .output = true
  rw [hstreaming]
  exact h

theorem irisStreamonOutput_starts (hgoing : Going .output s t)
    (hside : s.inst.streaming .output = true → Side .output s.inst.state)
    (hidle : s.inst.streaming .capture = false) (hsafe : StopSafe env .output s.inst) :
    Starts .capture .output s (irisStreamonOutput env t) := by
  have hne : Plane.output ≠ .capture := by decide
  have hbuilt := hgoing.build (startBuilders .capture)
  have hsteps := hgoing.steps.streamonOutcome (stable_side hne) env
  have hfails := streamonOutcome_fails env t.inst
  have hside' := @irisStreamonOutput_captureSide env t.inst
  rw [irisStreamonOutput_outcome] at hside'
  unfold irisStreamonOutput
  simp only [streamonOutput_outcome]
  cases houtcome : streamonOutcome env t.inst with
  | failed ret inst =>
      rw [houtcome] at hsteps hside'
      have hend : Going .output s { t.build (startBuilders .capture) with inst } :=
        ⟨hbuilt.sound.change fun _ => inst, hsteps⟩
      exact ⟨hend.keeps, fun hret => ⟨hend.sound.packet, (hside' hret).side⟩⟩
  | started inst =>
      rw [houtcome] at hsteps hside'
      have hend : Going .output s { t.build (startBuilders .capture) with inst } :=
        ⟨hbuilt.sound.change fun _ => inst, hsteps⟩
      exact ⟨hend.keeps, fun hret => ⟨hend.sound.packet, (hside' hret).side⟩⟩
  | rollback ret inst =>
      rw [houtcome] at hsteps hfails
      have hend : Going .output s { t.build (startBuilders .capture) with inst } :=
        ⟨hbuilt.sound.change fun _ => inst, hsteps⟩
      exact ⟨hend.streamonRollback hside hidle hsafe ret, fun hret => absurd hret hfails⟩

/-- The ways a start ends. -/
structure Started (plane q : Plane) (s : Gen2Session) (r : Int × Gen2Session) : Prop
    extends Starts plane q s r where
  failure : r.1 ≠ 0 → r.2.inst.state = .error

/-- The buffers that were queued before are submitted. -/
theorem Starts.started {r : Int × Gen2Session} {label : Int → Gen2Session → Int × Gen2Session}
    (hstarts : Starts plane q s r)
    (hfail : ∀ ret t, ret ≠ 0 → Keeps q s t → Started plane q s (label ret t)) :
    Started plane q s (orGoto r label fun t =>
      orGoto ((t.build [.buffer]).call (startDeferred env plane)) label fun t => (0, t)) := by
  obtain ⟨hkeeps, hsuccess⟩ := hstarts
  refine orGoto_rule (P := Started plane q s) (fun ret t heq hret => ?_) fun t heq => ?_
  · rw [heq] at hkeeps
    exact hfail ret t hret hkeeps
  rw [heq] at hkeeps hsuccess
  obtain ⟨hpacket, hside⟩ := hsuccess rfl
  have hgoing : Going q s t := ⟨⟨hpacket, hkeeps.built⟩, hkeeps.steps⟩
  have hqueued : Going q s ((t.build [.buffer]).call (startDeferred env plane)).2 :=
    (hgoing.build [.buffer]).call fun h => h.startDeferred env plane
  have hstate : ((t.build [.buffer]).call (startDeferred env plane)).2.inst.state = t.inst.state :=
    startDeferred_state env plane t.inst
  refine orGoto_rule (P := Started plane q s) (fun ret u heq hret => ?_) fun u heq => ?_
  · rw [heq] at hqueued
    exact hfail ret u hret hqueued.keeps
  · rw [heq] at hqueued hstate
    refine ⟨⟨hqueued.keeps, fun _ => ⟨hqueued.sound.packet, ?_⟩⟩, fun hret => absurd rfl hret⟩
    rw [hstate]
    exact hside

theorem irisVb2StartStreaming_spec (hlive : s.Live) (hidle : s.inst.streaming plane = false)
    (hne : q ≠ plane) (hsafe : plane = .capture → StopSafe env .output s.inst) :
    Started plane q s (irisVb2StartStreaming env plane s) := by
  have hfail : ∀ (ret : Int) (t : Gen2Session), ret ≠ 0 → Keeps q s t →
      Started plane q s
        (ret, t.change fun inst => (irisHelperBuffersDone plane .queued inst).enterError) := by
    intro ret t hret hkeeps
    refine ⟨⟨⟨hkeeps.built, ?_, hkeeps.packet⟩, fun hzero => absurd hzero hret⟩, fun _ => ?_⟩
    · exact (hkeeps.steps.buffersDone plane .queued).enterError (.inr rfl)
    · change (Inst.enterError _).state = .error
      rw [enterError_eq]
  unfold irisVb2StartStreaming
  simp only
  split_ifs with hstate
  · exact hfail _ _ (by decide) (hlive.keeps q)
  refine orGoto_value_rule (P := Started plane q s) (fun hret => hfail _ _ hret (hlive.keeps q))
    fun _ => ?_
  have hopened := irisHfiSessionOpen_spec hlive hstate env q
  refine orGoto_rule (P := Started plane q s) (fun ret t heq hret => ?_) fun t heq => ?_
  · rw [heq] at hopened
    exact hfail ret t hret hopened.keeps
  have hgoing : Going q s t := by
    rw [heq] at hopened
    cases hopened with
    | there hgoing => exact hgoing
    | failed hret _ _ => exact absurd rfl hret
  cases plane with
  | output => exact (irisStreamonInput_starts hgoing hne env).started hfail
  | capture =>
      cases q with
      | output =>
          exact (irisStreamonOutput_starts hgoing (hlive.side .output) hidle (hsafe rfl)).started
            hfail
      | capture => exact absurd rfl hne

/-! ### The calls of a client -/

theorem Live.same (hlive : s.Live) (hbuilt : t.Built) (hpacket : t.packet = s.packet)
    (hstreaming : t.inst.streaming = s.inst.streaming)
    (hstate : t.inst.state = s.inst.state ∨ t.inst.state = .error)
    (hsession : SameSession s.inst t.inst) : t.Live where
  built := hbuilt
  side := fun q hq => by
    rcases hstate with h | h
    · rw [h]
      exact hlive.side q (hstreaming ▸ hq)
    · exact .inr h
  gone := fun hgone => by
    obtain ⟨hidle, hover⟩ := hlive.gone (hpacket ▸ hgone)
    refine ⟨fun q => hstreaming ▸ hidle q, ?_⟩
    rcases hstate with h | h
    · rcases hover with herror | ⟨hdeinit, hclosed⟩
      · exact .inl (h.trans herror)
      · exact .inr ⟨h.trans hdeinit, hsession.opened.trans hclosed⟩
    · exact .inl h

theorem Live.handOver (hlive : s.Live) (plane : Plane) (bufs : List (Nat × QbufData)) :
    (s.change (vb2HandOver plane bufs)).Live := by
  have hhands := vb2HandOver_handsOver plane bufs s.inst
  exact hlive.same hlive.built rfl hhands.streaming hhands.state
    (vb2HandOver_session plane bufs s.inst)

theorem Live.qbuf (hlive : s.Live) (ret : Int) (plane : Plane) (i : Nat) (data : QbufData) :
    (vb2Qbuf ret plane i data s).Live := by
  have hhands := vb2BufQueue_handsOver ret plane i data s.inst
  unfold vb2Qbuf
  by_cases hstreaming : s.inst.streaming plane = true
  · rw [if_pos hstreaming]
    exact hlive.same ((hlive.sound hstreaming).build _).built rfl hhands.streaming hhands.state
      (vb2BufQueue_session ret plane i data s.inst)
  · rw [if_neg hstreaming]
    exact hlive

theorem Live.event (hlive : s.Live) (event : Event) : (s.handleEvent event).Live := by
  have hbuilt : (s.handleEvent event).Built := by
    by_cases hpacket : s.packet = true
    · have hsound : s.Sound := ⟨hpacket, hlive.built⟩
      exact ((hsound.build _).change _).built
    · have hidle := (hlive.gone (by simpa using hpacket)).1
      exact hlive.built.handleEvent (undisturbed_idle hidle [event] event List.mem_cons_self)
  have hsteps := handleEvent_steps event s.inst
  have hstays : Settles (fun state => state = s.inst.state ∨ state = .error) s.inst
      (NabuIris.handleEvent event s.inst) := hsteps.settles (.inr rfl)
  exact hlive.same hbuilt rfl hstays.streaming (hstays.keeps (.inl rfl)) hsteps.session

/-- What a call on the queue of `plane` does to the other one. -/
structure Spares (q : Plane) (s t : Gen2Session) : Prop where
  built : t.Built
  streaming : t.inst.streaming q = s.inst.streaming q
  side : Side q s.inst.state → Side q t.inst.state
  packet : s.inst.streaming q = true → t.packet = true

theorem Keeps.spares (hkeeps : Keeps q s t) : Spares q s t :=
  ⟨hkeeps.built, by rw [hkeeps.steps.settles.streaming], hkeeps.steps.keeps, hkeeps.packet⟩

theorem Spares.setStreaming (hspares : Spares q s t) (hne : q ≠ plane) (streaming : Bool) :
    Spares q s (t.change (·.setStreaming plane streaming)) where
  built := hspares.built
  streaming := (setStreaming_of_ne t.inst streaming hne).trans hspares.streaming
  side := hspares.side
  packet := hspares.packet

theorem Live.next (hlive : s.Live) (hothers : ∀ q, q ≠ plane → Spares q s t)
    (hplane : t.inst.streaming plane = true → t.packet = true ∧ Side plane t.inst.state)
    (hover : t.packet = false → Over t.inst) : t.Live := by
  obtain ⟨p, hne⟩ := plane.exists_ne
  refine ⟨(hothers p hne.symm).built, fun q hq => ?_, fun hgone => ⟨fun q => ?_, hover hgone⟩⟩
  · by_cases hsame : q = plane
    · subst hsame
      exact (hplane hq).2
    · have hspares := hothers q hsame
      exact hspares.side (hlive.side q (hspares.streaming ▸ hq))
  · have hthere : t.packet ≠ true := by simp [hgone]
    by_contra hq
    have hstreaming : t.inst.streaming q = true := by simpa using hq
    by_cases hsame : q = plane
    · subst hsame
      exact hthere (hplane hstreaming).1
    · have hspares := hothers q hsame
      exact hthere (hspares.packet (hspares.streaming ▸ hstreaming))

theorem Live.queueSetup (hlive : s.Live) (env : InstEnv) : (irisVb2QueueSetup env s).2.Live := by
  unfold irisVb2QueueSetup
  split_ifs with hstate
  · exact hlive
  refine orGoto_value_rule (P := fun r : Int × Gen2Session => r.2.Live) (fun _ => hlive) fun _ => ?_
  have hopened := irisHfiSessionOpen_spec hlive hstate env
  have houtput := (hopened .output).keeps.spares
  have hside : (irisHfiSessionOpen env s).2.inst.streaming .output = true →
      (irisHfiSessionOpen env s).2.packet = true ∧
        Side .output (irisHfiSessionOpen env s).2.inst.state := by
    intro hstreaming
    rw [houtput.streaming] at hstreaming
    exact ⟨houtput.packet hstreaming, houtput.side (hlive.side .output hstreaming)⟩
  exact hlive.next (fun q _ => (hopened q).keeps.spares) hside (hopened .output).over

theorem Live.streamon (hlive : s.Live) (hidle : s.inst.streaming plane = false)
    (hsafe : plane = .capture → StopSafe env .output s.inst) (bufs : List (Nat × QbufData)) :
    (vb2Streamon env plane bufs s).Live := by
  have hhanded := hlive.handOver plane bufs
  unfold vb2Streamon
  generalize hs : s.change (vb2HandOver plane bufs) = handed at hhanded ⊢
  have hinst : handed.inst = vb2HandOver plane bufs s.inst := by rw [← hs]; rfl
  have hstreaming : handed.inst.streaming = s.inst.streaming := by
    rw [hinst]
    exact (vb2HandOver_handsOver plane bufs s.inst).streaming
  have hsafe' : plane = .capture → StopSafe env .output handed.inst := by
    intro hplane
    rw [StopSafe, hstreaming, hinst, (vb2HandOver_session plane bufs s.inst).id]
    exact hsafe hplane
  have hstarted : ∀ q, q ≠ plane → Started plane q handed
      (irisVb2StartStreaming env plane handed) := fun q hne =>
    irisVb2StartStreaming_spec hhanded (by rw [hstreaming]; exact hidle) hne hsafe'
  obtain ⟨q, hne⟩ := plane.exists_ne
  obtain ⟨⟨hkeeps, hsuccess⟩, hfailure⟩ := hstarted q hne.symm
  by_cases hret : (irisVb2StartStreaming env plane handed).1 = 0
  · obtain ⟨hpacket, hside⟩ := hsuccess hret
    simp only [hret, Inst.applyIf, decide_true, if_true]
    refine hhanded.next (fun p hp => (hstarted p hp).keeps.spares.setStreaming hp true)
      (fun _ => ⟨hpacket, hside⟩) fun hgone => ?_
    change (irisVb2StartStreaming env plane handed).2.packet = false at hgone
    rw [hpacket] at hgone
    cases hgone
  · simp only [hret, Inst.applyIf, decide_false, Bool.false_eq_true, if_false]
    refine hhanded.next (fun p hp => (hstarted p hp).keeps.spares) (fun hstill => ?_)
      fun _ => .inl (hfailure hret)
    change (irisVb2StartStreaming env plane handed).2.inst.streaming plane = true at hstill
    rw [hkeeps.steps.settles.streaming, hstreaming, hidle] at hstill
    cases hstill

/-- What a STREAMOFF of a streaming queue asks of its environment. -/
def StreamoffSafe (env : InstEnv) (plane : Plane) (inst : Inst) : Prop :=
  ∀ q, q ≠ plane → StopSafe env q inst ∧
    (inst.streaming q = false → Undisturbed (env.events .sessionClose) inst.streaming)

theorem irisVb2StopStreaming_spec (hlive : s.Live) (hstreaming : s.inst.streaming plane = true)
    (hsafe : StreamoffSafe env plane s.inst) :
    (∀ q, q ≠ plane → Keeps q s (irisVb2StopStreaming env plane s)) ∧
      ((irisVb2StopStreaming env plane s).packet = false →
        Over (irisVb2StopStreaming env plane s).inst) := by
  have hrunning : ¬(plane = .capture ∧ s.inst.state = .init) := fun h =>
    (hlive.side plane hstreaming).ne_init h.2
  rw [irisVb2StopStreaming, if_neg hrunning]
  generalize hs : (s.change fun inst => inst.applyIf
    (inst.domain == .decoder && plane == .capture) irisVdecClearPendingOutput) = cleared
  have hsound : cleared.Sound := by
    rw [← hs]
    exact (hlive.sound hstreaming).change _
  have hcleared : ∀ keep, StreamSteps keep s.inst cleared.inst := fun keep => by
    rw [← hs]
    exact (StreamSteps.refl s.inst).applyIf _ fun h => h.same rfl rfl
  have hsame := (hcleared fun _ => True).settles.streaming
  have hends : ∀ q, q ≠ plane → Streamoff env plane q cleared
      (irisSessionStreamoff env plane cleared) := fun q hne =>
    irisSessionStreamoff_spec hsound env plane q hne
  have hkeeps : ∀ q, q ≠ plane → Keeps q cleared (irisSessionStreamoff env plane cleared).2 := by
    intro q hne
    obtain ⟨hstop, hquiet⟩ := hsafe q hne
    refine (hends q hne).keeps (fun hq => ?_) ?_ fun hq => ?_
    · rw [hsame] at hq
      exact (hcleared (Side q)).keeps (hlive.side q hq)
    · rw [StopSafe, hsame, (hcleared fun _ => True).sessionId]
      exact hstop
    · rw [hsame] at hq ⊢
      exact hquiet hq
  constructor
  · intro q hne
    obtain ⟨hbuilt, hsteps, hpacket⟩ := hkeeps q hne
    refine ⟨hbuilt, ?_, fun hq => hpacket (by rw [hsame]; exact hq)⟩
    exact (((hcleared (Side q)).trans hsteps).buffersDone plane .error).applyIf _
      fun h => h.enterError (.inr rfl)
  · intro hgone
    obtain ⟨q, hne⟩ := plane.exists_ne
    refine applyIf_rule (P := Over) (fun hret => ?_) fun _ => ?_
    · have hzero : (irisSessionStreamoff env plane cleared).1 = 0 := by simpa using hret
      have hover := ((hends q hne.symm).over hgone).resolve_left fun h => h hzero
      have hdone := irisHelperBuffersDone_session plane .error
        (irisSessionStreamoff env plane cleared).2.inst
      unfold Over
      rw [irisHelperBuffersDone_state, hdone.opened]
      exact hover
    · rw [enterError_eq]
      exact .inl rfl

theorem Live.streamoff (hlive : s.Live)
    (hsafe : s.inst.streaming plane = true → StreamoffSafe env plane s.inst) :
    (vb2Streamoff env plane s).Live ∧ (vb2Streamoff env plane s).inst.streaming plane = false := by
  unfold vb2Streamoff
  by_cases hstreaming : s.inst.streaming plane = true
  · rw [if_pos hstreaming]
    obtain ⟨hkeeps, hover⟩ := irisVb2StopStreaming_spec hlive hstreaming (hsafe hstreaming)
    have hstopped : ((irisVb2StopStreaming env plane s).change
        (·.setStreaming plane false)).inst.streaming plane = false := setStreaming_self _ _ _
    refine ⟨hlive.next (fun q hne => (hkeeps q hne).spares.setStreaming hne false)
      (fun h => ?_) hover, hstopped⟩
    rw [hstopped] at h
    cases h
  · rw [if_neg hstreaming]
    exact ⟨hlive, by simpa using hstreaming⟩

theorem Live.close (hlive : s.Live) (env : Plane → InstEnv) (last : InstEnv)
    (hsafe : s.inst.streaming .capture = true → StopSafe (env .capture) .output s.inst) :
    (irisClose env last s).Built := by
  have hcapture : s.inst.streaming .capture = true →
      StreamoffSafe (env .capture).alone .capture s.inst := by
    intro hstreaming q hne
    refine ⟨?_, fun _ => undisturbed_alone _ _ _⟩
    cases q with
    | output => exact hsafe hstreaming
    | capture => exact absurd rfl hne
  obtain ⟨hlive, hstopped⟩ := hlive.streamoff hcapture
  unfold irisClose
  generalize vb2Streamoff (env .capture).alone .capture s = s at hlive hstopped ⊢
  have houtput : s.inst.streaming .output = true →
      StreamoffSafe (env .output).alone .output s.inst := by
    intro _ q hne
    refine ⟨?_, fun _ => undisturbed_alone _ _ _⟩
    cases q with
    | output => exact absurd rfl hne
    | capture => exact .inr (.inr hstopped)
  have hquiet := undisturbed_alone last .sessionClose
  exact (hlive.streamoff houtput).1.built.hfiSessionClose (hquiet _)

/-! ### Runs -/

/-- The calls that may take the buffer from a queue, and what they must not meet: a STOP that is not
answered while the other queue is streaming, a client command while the session closes. -/
def StepSafe (s : Gen2Session) (op : SessionOp) : Prop :=
  s.released = false →
    match op with
    | .vb2 (.streamon env .capture _) =>
        s.inst.streaming .capture = false → StopSafe env .output s.inst
    | .vb2 (.streamoff env plane) =>
        s.inst.streaming plane = true → StreamoffSafe env plane s.inst
    | .close env _ => s.inst.streaming .capture = true → StopSafe (env .capture) .output s.inst
    | _ => True

/-- Live until the file is released. -/
structure Held (s : Gen2Session) : Prop where
  built : s.Built
  live : s.released = false → s.Live

theorem Live.held (hlive : s.Live) : s.Held := ⟨hlive.built, fun _ => hlive⟩

theorem Held.applyOp (hheld : s.Held) {op : SessionOp} (hsafe : StepSafe s op) :
    (s.applyOp op).Held := by
  unfold Gen2Session.applyOp
  by_cases hreleased : s.released = true
  · rw [if_pos hreleased]
    exact hheld
  rw [if_neg hreleased]
  have hopen : s.released = false := by simpa using hreleased
  have hlive := hheld.live hopen
  replace hsafe := hsafe hopen
  cases op with
  | close env last => exact ⟨hlive.close env last hsafe, fun h => nomatch h⟩
  | vb2 op =>
      cases op with
      | reqbufs env => exact (hlive.queueSetup env).held
      | qbuf ret plane i data => exact (hlive.qbuf ret plane i data).held
      | streamoff env plane => exact (hlive.streamoff hsafe).1.held
      | event event => exact (hlive.event event).held
      | streamon env plane bufs =>
          simp only
          split_ifs with hstreaming
          · exact hheld
          · have hidle : s.inst.streaming plane = false := by simpa using hstreaming
            refine (hlive.streamon hidle ?_ bufs).held
            rintro rfl
            exact hsafe hidle

/-- An instance as `iris_open` leaves it, without a session. -/
structure Unopened (inst : Inst) : Prop extends Fresh inst where
  closed : inst.hfiSessionOpened = false

theorem Unopened.live {inst : Inst} (hunopened : Unopened inst) : (opened inst).Live where
  built := fun _ huse => nomatch huse
  side := fun plane hstreaming => by
    have hidle := hunopened.idle plane
    rw [show inst.streaming plane = true from hstreaming] at hidle
    cases hidle
  gone := fun _ => ⟨hunopened.idle, .inr ⟨hunopened.state, hunopened.closed⟩⟩

/-- **Every command is built in a buffer that is there**, in the runs whose steps are all safe. -/
theorem built_of_safe {inst : Inst} (hunopened : Unopened inst) (ops : List SessionOp)
    (hsafe : ∀ pre op, pre ++ [op] <+: ops → StepSafe ((opened inst).after pre) op) :
    ((opened inst).after ops).Built := by
  have hkeep : ∀ s, ∀ op ∈ ops, Held s → StepSafe s op → Held (applyOp s op) :=
    fun _ _ _ hheld hok => hheld.applyOp hok
  exact (Lib.foldl_invariant hkeep hunopened.live.held fun pre op hpre _ => hsafe pre op hpre).built

/-- A client command whose commands are written. -/
def accepted : CmdEnv :=
  { captureFormatChanged := false, drainRet := 0, resumeRet := fun _ => 0, queueInternalRet := 0
    queueRet := fun _ _ => 0 }

/-- A decoder that is started and stopped, drained, and closed while it is streaming. -/
def decoding : List SessionOp :=
  [.vb2 (.reqbufs undisturbed), .vb2 (.streamon undisturbed .output [(0, frameData)]),
    .vb2 (.streamon undisturbed .capture []), .vb2 (.streamoff undisturbed .capture),
    .vb2 (.event (.cmd accepted .stop)), .close (fun _ => undisturbed) undisturbed]

theorem built_decoding : ((opened (openedDecoder .gen2 .h264 false)).after decoding).Built := by
  refine built_of_safe ⟨openedDecoder_fresh _ _ _, rfl⟩ decoding fun pre op hpre => ?_
  have hsafe : ∀ q (inst : Inst), StopSafe undisturbed q inst := fun _ _ => .inl ⟨rfl, rfl⟩
  have hmem := hpre.subset (List.mem_append_right pre (List.mem_singleton_self op))
  simp only [decoding, List.mem_cons, List.not_mem_nil, or_false] at hmem
  rcases hmem with rfl | rfl | rfl | rfl | rfl | rfl
  · exact fun _ => trivial
  · exact fun _ => trivial
  · exact fun _ _ => hsafe _ _
  · exact fun _ _ q _ => ⟨hsafe q _, fun _ event hevent => absurd hevent List.not_mem_nil⟩
  · exact fun _ => trivial
  · exact fun _ _ => hsafe _ _

/-- The STOP of the CAPTURE queue is not answered, and the OUTPUT queue is stopped after it. -/
def killedThenStopped : List SessionOp :=
  [.vb2 (.streamon undisturbed .output [(0, frameData)]), .vb2 (.streamon undisturbed .capture []),
    .vb2 (.streamoff stopTimesOut .capture), .vb2 (.streamoff undisturbed .output)]

theorem not_built_killedThenStopped :
    Unopened (openedDecoder .gen2 .h264 false) ∧
      ¬((opened (openedDecoder .gen2 .h264 false)).after killedThenStopped).Built := by
  refine ⟨⟨openedDecoder_fresh _ _ _, rfl⟩, fun hbuilt => ?_⟩
  have hmissing := hbuilt (.stop, false) (by decide)
  cases hmissing

end Gen2Session

end NabuIris
