import NabuIris.Proof.Queues

/-!
# Before the firmware has a buffer

A queue that is being started holds only buffers that the firmware never got. Until they are
submitted no event gives one of them back; `Waits` carries this through the waits of a start.
-/

namespace NabuIris

open Lib

def NoneBack (plane : Plane) (event : BufEvent) : Prop :=
  ∀ i state payload, event ≠ .done plane i state payload

/-! ### Listed buffers -/

theorem driverOwns_done (log : List BufEvent) (plane q : Plane) (i k : Nat) (state : Vb2State)
    (payload : Option Payload) :
    driverOwns (log ++ [.done plane i state payload]) q k =
      if (plane, i) = (q, k) then false else driverOwns log q k := by
  rw [driverOwns, holds_append]
  rfl

theorem driverOwns_handed (log : List BufEvent) (plane q : Plane) (i k : Nat) :
    driverOwns (log ++ [.handed plane i]) q k =
      if (plane, i) = (q, k) then true else driverOwns log q k := by
  rw [driverOwns, holds_append]
  rfl

/-- What the driver owns is listed. This survives a refused QBUF. -/
def OwnsListed (inst : Inst) : Prop :=
  ∀ plane i, driverOwns inst.log plane i = true → i ∈ inst.ready plane

namespace Settles

variable {keep : InstState → Prop} {s t : Inst} {plane : Plane}

/-- A listed buffer stays listed until it is given back. -/
theorem returned (hsettles : Settles keep s t) (plane : Plane) :
    ∃ suffix, t.log = s.log ++ suffix ∧
      ∀ i ∈ s.ready plane,
        i ∈ t.ready plane ∨ ∃ state payload, .done plane i state payload ∈ suffix := by
  induction hsettles with
  | quiet hready hlog _ _ => exact ⟨[], by simp [hlog], fun i hi => .inl (hready ▸ hi)⟩
  | note event _ hready hlog _ _ => exact ⟨[event], hlog, fun i hi => .inl (hready ▸ hi)⟩
  | @back s t p k state payload _ hready hlog _ _ =>
      refine ⟨_, hlog, fun i hi => ?_⟩
      by_cases hsame : plane = p ∧ i = k
      · obtain ⟨rfl, rfl⟩ := hsame
        exact .inr ⟨state, payload, List.mem_singleton_self _⟩
      · rw [hready]
        refine .inl ?_
        by_cases hplane : plane = p
        · subst hplane
          rw [Function.update_self]
          exact (List.mem_erase_of_ne fun h => hsame ⟨rfl, h⟩).2 hi
        · rwa [Function.update_of_ne hplane]
  | trans _ _ hfirst hsecond =>
      obtain ⟨first, hlog, hfirst⟩ := hfirst
      obtain ⟨second, hlog', hsecond⟩ := hsecond
      refine ⟨first ++ second, by rw [hlog', hlog, List.append_assoc], fun i hi => ?_⟩
      rcases hfirst i hi with h | ⟨state, payload, h⟩
      · rcases hsecond i h with h | ⟨state, payload, h⟩
        · exact .inl h
        · exact .inr ⟨state, payload, List.mem_append_right _ h⟩
      · exact .inr ⟨state, payload, List.mem_append_left _ h⟩

theorem noneBack (hsettles : Settles keep s t) (hempty : s.ready plane = []) :
    Grows (NoneBack plane) s.log t.log := by
  induction hsettles with
  | quiet _ hlog _ _ => exact hlog ▸ .refl _
  | note event hevent _ hlog _ _ =>
      rw [hlog]
      refine (Grows.refl _).snoc ?_
      rintro i state payload rfl
      cases hevent
  | @back s t p k state payload hlisted _ hlog _ _ =>
      rw [hlog]
      refine (Grows.refl _).snoc ?_
      intro i state' payload' heq
      cases heq
      rw [hempty] at hlisted
      cases hlisted
  | trans hfirst _ ihfirst ihsecond => exact (ihfirst hempty).trans (ihsecond (hfirst.empty hempty))

theorem ownsListed (hsettles : Settles keep s t) (hlisted : OwnsListed s) : OwnsListed t := by
  induction hsettles with
  | quiet hready hlog _ _ =>
      unfold OwnsListed
      rw [hready, hlog]
      exact hlisted
  | note event hevent hready hlog _ _ =>
      intro plane i howns
      rw [hlog, driverOwns, holds_append, holdsStep, hevent] at howns
      rw [hready]
      exact hlisted plane i howns
  | @back s t p k state payload _ hready hlog _ _ =>
      intro plane i howns
      rw [hlog, driverOwns_done] at howns
      by_cases hsame : (p, k) = (plane, i)
      · rw [if_pos hsame] at howns
        cases howns
      · rw [if_neg hsame] at howns
        have hbefore := hlisted plane i howns
        rw [hready]
        by_cases hplane : plane = p
        · subst hplane
          rw [Function.update_self]
          exact (List.mem_erase_of_ne fun h => hsame (by rw [h])).2 hbefore
        · rwa [Function.update_of_ne hplane]
  | trans _ _ hfirst hsecond => exact hsecond (hfirst hlisted)

end Settles

namespace OwnsListed

variable {inst : Inst} {plane : Plane}

/-- Giving back the only buffer that may be owned and not listed. -/
theorem done {i : Nat} {state : Vb2State} {payload : Option Payload} {t : Inst}
    (hlisted : ∀ q k, driverOwns inst.log q k = true → (plane, i) = (q, k) ∨ k ∈ inst.ready q)
    (hready : t.ready = inst.ready) (hlog : t.log = inst.log ++ [.done plane i state payload]) :
    OwnsListed t := by
  intro q k howns
  rw [hlog, driverOwns_done] at howns
  split_ifs at howns with hsame
  rw [hready]
  exact (hlisted q k howns).resolve_left hsame

theorem fail {i : Nat}
    (hlisted : ∀ q k, driverOwns inst.log q k = true → (plane, i) = (q, k) ∨ k ∈ inst.ready q) :
    OwnsListed (bufQueueFail plane i inst) := by
  rw [bufQueueFail, enterError_eq]
  exact done hlisted rfl rfl

theorem handed (hlisted : OwnsListed inst) (i : Nat) (flags : BufFlags) (q : Plane) (k : Nat)
    (howns : driverOwns ((inst.setVbufFlags plane i flags).record (.handed plane i)).log q k =
      true) :
    (plane, i) = (q, k) ∨ k ∈ inst.ready q := by
  by_cases hsame : (plane, i) = (q, k)
  · exact .inl hsame
  · have hbefore : driverOwns (inst.log ++ [.handed plane i]) q k = true := howns
    rw [driverOwns_handed, if_neg hsame] at hbefore
    exact .inr (hlisted q k hbefore)

theorem bufQueue (hlisted : OwnsListed inst) (ret : Int) (plane : Plane) (i : Nat)
    (data : QbufData) : OwnsListed (vb2BufQueue ret plane i data inst) := by
  have hhanded := @handed inst plane hlisted i data.flags
  unfold vb2BufQueue irisVb2BufQueue
  split_ifs
  · exact hlisted
  · exact fail hhanded
  · exact fail hhanded
  · exact done hhanded rfl rfl
  · have hlinked : OwnsListed (v4l2M2mBufQueue plane i
        ((inst.setVbufFlags plane i data.flags).record (.handed plane i))) := by
      intro q k howns
      simp only [v4l2M2mBufQueue, Inst.setReady]
      rcases hhanded q k howns with hsame | hbefore
      · cases hsame
        simp
      · by_cases hq : q = plane
        · subst hq
          rw [Function.update_self]
          exact List.mem_append_left _ hbefore
        · rwa [Function.update_of_ne hq]
    have hsettles : Settles (fun _ => True) (v4l2M2mBufQueue plane i
        ((inst.setVbufFlags plane i data.flags).record (.handed plane i))) _ :=
      .qbuf ret plane i data _
    have hqueued := hsettles.ownsListed hlinked
    exact orGoto_keep (Q := OwnsListed) (P := OwnsListed) hqueued
      (fun _ inst h => fail fun q k howns => .inr (h q k howns)) fun _ h => h

theorem handOver (hlisted : OwnsListed inst) (plane : Plane) (bufs : List (Nat × QbufData)) :
    OwnsListed (vb2HandOver plane bufs inst) := by
  unfold vb2HandOver
  induction bufs generalizing inst with
  | nil => exact hlisted
  | cons buf rest ih => exact ih (hlisted.bufQueue 0 plane buf.1 buf.2)

theorem applyOp (hlisted : OwnsListed inst) (op : Op) : OwnsListed (applyOp inst op) := by
  cases op with
  | reqbufs env =>
      have hsteps := (StreamSteps.refl inst).queueSetup (stable_true .output) env
      exact hsteps.settles.ownsListed hlisted
  | qbuf ret plane i data =>
      simp only [NabuIris.applyOp]
      split_ifs
      · exact hlisted.bufQueue ret plane i data
      · exact hlisted
  | streamon env plane bufs =>
      simp only [NabuIris.applyOp]
      split_ifs
      · exact hlisted
      · have hsteps := (StreamSteps.refl (vb2HandOver plane bufs inst)).startStreaming
          (stable_true plane) env
        have hstarted := hsteps.settles.ownsListed (hlisted.handOver plane bufs)
        exact applyIf_keep (P := OwnsListed) _ hstarted fun h => h
  | streamoff env plane =>
      simp only [NabuIris.applyOp]
      split_ifs
      · have hsteps := (StreamSteps.refl inst).stopStreaming (stable_true plane) env
        exact hsteps.settles.ownsListed hlisted
      · exact hlisted
  | event event =>
      have hsettles : Settles (fun _ => True) inst (handleEvent event inst) :=
        (handleEvent_steps event inst).settles trivial
      exact hsettles.ownsListed hlisted

theorem instAfter (hlisted : OwnsListed inst) (ops : List Op) :
    OwnsListed (instAfter inst ops) := by
  unfold NabuIris.instAfter
  induction ops generalizing inst with
  | nil => exact hlisted
  | cons op rest ih => exact ih (hlisted.applyOp op)

end OwnsListed

/-! ### Buffers that the firmware does not have -/

/-- The firmware has none of the listed buffers of `plane`. -/
def Unsubmitted (plane : Plane) (inst : Inst) : Prop :=
  ∀ i ∈ inst.ready plane, ¬(inst.buf plane i).Busy

theorem Unsubmitted.bufQueue {plane : Plane} {inst : Inst} (hfree : Unsubmitted plane inst)
    (hidle : inst.streaming plane = false) (i : Nat) (data : QbufData) :
    Unsubmitted plane (vb2BufQueue 0 plane i data inst) := by
  unfold vb2BufQueue irisVb2BufQueue irisQbuf
  have hstill : (v4l2M2mBufQueue plane i
      ((inst.setVbufFlags plane i data.flags).record (.handed plane i))).streaming plane = false :=
    hidle
  split_ifs with howned herror hempty hlast hstreaming
  · exact hfree
  · rw [bufQueueFail, enterError_eq]
    exact hfree
  · rw [bufQueueFail, enterError_eq]
    exact hfree
  · exact hfree
  · rw [orGoto_zero]
    intro k hk
    by_cases hki : k = i
    · subst hki
      simp [IrisBuffer.Busy, irisVb2BufferToDriver]
    · rw [id, setBuf_buf_of_ne _ _ fun h => hki h.2]
      refine hfree k ?_
      simpa [v4l2M2mBufQueue, Inst.setReady, Inst.record, Inst.setVbufFlags, hki] using hk
  · rw [hstill] at hstreaming
    exact absurd rfl hstreaming

theorem Unsubmitted.handOver {plane : Plane} {inst : Inst} (hfree : Unsubmitted plane inst)
    (hidle : inst.streaming plane = false) (bufs : List (Nat × QbufData)) :
    Unsubmitted plane (vb2HandOver plane bufs inst) := by
  unfold vb2HandOver
  induction bufs generalizing inst with
  | nil => exact hfree
  | cons buf rest ih =>
      refine ih (hfree.bufQueue hidle buf.1 buf.2) ?_
      rw [(vb2BufQueue_handsOver 0 plane buf.1 buf.2 inst).streaming]
      exact hidle

/-- From `s` to `t` no buffer of `plane` went back, and the firmware still has none. -/
structure Untouched (plane : Plane) (s t : Inst) : Prop where
  log : Grows (NoneBack plane) s.log t.log
  ready : t.ready plane = s.ready plane
  free : Unsubmitted plane t
  domain : t.domain = s.domain

/-- The same in a state in which no command submits deferred buffers. -/
structure Waits (plane : Plane) (s t : Inst) : Prop extends Untouched plane s t where
  state : t.state ≠ .streaming

section

variable {plane : Plane} {s t u : Inst}

theorem Untouched.same (huntouched : Untouched plane s t) (hready : u.ready = t.ready)
    (hbuf : u.buf = t.buf) (hlog : u.log = t.log) (hdomain : u.domain = t.domain) :
    Untouched plane s u := by
  refine ⟨hlog ▸ huntouched.log, hready ▸ huntouched.ready, fun i hi => ?_,
    hdomain.trans huntouched.domain⟩
  rw [hready] at hi
  rw [hbuf]
  exact huntouched.free i hi

theorem Waits.same (hwaits : Waits plane s t) (hready : u.ready = t.ready) (hbuf : u.buf = t.buf)
    (hlog : u.log = t.log) (hdomain : u.domain = t.domain) (hstate : u.state ≠ .streaming) :
    Waits plane s u :=
  ⟨hwaits.toUntouched.same hready hbuf hlog hdomain, hstate⟩

theorem Untouched.note (huntouched : Untouched plane s t) {event : BufEvent}
    (hevent : event.transfer = none) : Untouched plane s (t.record event) := by
  refine ⟨huntouched.log.snoc ?_, huntouched.ready, huntouched.free, huntouched.domain⟩
  rintro i state payload rfl
  cases hevent

/-- A buffer that is stored keeps its attributes, or the firmware has it. -/
theorem Untouched.setBuf (huntouched : Untouched plane s t) {q : Plane} {i : Nat}
    {buf : IrisBuffer} (hbuf : q = plane → (t.buf q i).Busy ∨ buf.attr = (t.buf q i).attr) :
    Untouched plane s (t.setBuf q i buf) := by
  refine ⟨huntouched.log, huntouched.ready, fun k hk => ?_, huntouched.domain⟩
  have hfree := huntouched.free k hk
  by_cases hsame : plane = q ∧ k = i
  · obtain ⟨rfl, rfl⟩ := hsame
    rw [setBuf_buf]
    rcases hbuf rfl with h | h
    · exact absurd h hfree
    · unfold IrisBuffer.Busy
      rwa [h]
  · rwa [setBuf_buf_of_ne _ _ hsame]

theorem Untouched.bufferDone (huntouched : Untouched plane s t) {q : Plane} {i : Nat}
    (hbuf : q = plane → i ∉ t.ready q) : Untouched plane s (irisVb2BufferDone q i t).2 := by
  by_cases hlisted : i ∈ t.ready q
  · have hq : plane ≠ q := fun h => hbuf h.symm hlisted
    obtain ⟨state, payload, vbufFlags, stopped, last, -, heq⟩ := irisVb2BufferDone_listed hlisted
    rw [heq]
    have hready : Function.update t.ready q ((t.ready q).erase i) plane = t.ready plane :=
      Function.update_of_ne hq _ _
    refine ⟨huntouched.log.snoc ?_, hready.trans huntouched.ready, fun k hk => ?_,
      huntouched.domain⟩
    · intro k state' payload' hevent
      cases hevent
      exact hq rfl
    · exact huntouched.free k (hready ▸ hk)
  · rw [irisVb2BufferDone_absent hlisted]
    exact huntouched

theorem Untouched.queueBuffer (huntouched : Untouched plane s t) {q : Plane} {i : Nat} (ret : Int)
    (hbuf : q = plane → i ∉ t.ready q) : Untouched plane s (irisQueueBuffer ret q i t).2 := by
  unfold irisQueueBuffer
  split_ifs
  · exact huntouched
  · have hset : Untouched plane s (t.setBuf q i
        { t.buf q i with
          attr := { (t.buf q i).attr with deferred := false, queued := true } }) := by
      refine ⟨huntouched.log, huntouched.ready, fun k hk => ?_, huntouched.domain⟩
      have hne : ¬(plane = q ∧ k = i) := by
        rintro ⟨rfl, rfl⟩
        exact hbuf rfl hk
      rw [setBuf_buf_of_ne _ _ hne]
      exact huntouched.free k hk
    exact hset.note rfl

theorem Untouched.not_listed (huntouched : Untouched plane s t) {q : Plane} {i : Nat}
    (hbusy : (t.buf q i).Busy) : q = plane → i ∉ t.ready q := by
  rintro rfl hlisted
  exact huntouched.free i hlisted hbusy

theorem Waits.step {touches : Plane → Prop} (hwaits : Waits plane s t)
    (hstep : EventStep touches t u) : Waits plane s u := by
  have huntouched := hwaits.toUntouched
  cases hstep with
  | fields => exact hwaits.same rfl rfl rfl rfl hwaits.state
  | error => exact hwaits.same rfl rfl rfl rfl fun h => by cases h
  | touch _ hattr => exact ⟨huntouched.setBuf fun _ => .inr hattr, hwaits.state⟩
  | free _ hbusy => exact ⟨huntouched.setBuf fun _ => .inl hbusy, hwaits.state⟩
  | complete _ hbusy =>
      refine ⟨(huntouched.setBuf fun _ => .inl hbusy).bufferDone
        (huntouched.not_listed hbusy), ?_⟩
      rw [irisVb2BufferDone_state]
      exact hwaits.state
  | submit _ hstate => exact absurd hstate hwaits.state
  | requeue ret _ hbusy =>
      refine ⟨(huntouched.setBuf fun _ => .inl hbusy).queueBuffer ret
        (huntouched.not_listed hbusy), ?_⟩
      rw [irisQueueBuffer_state]
      exact hwaits.state
  | recyclePending ret _ hready hbusy =>
      have hplane : .capture ≠ plane := fun h => huntouched.not_listed hbusy h hready
      unfold irisVdecRecyclePendingOutput
      cases t.pendingOutput with
      | none => exact hwaits
      | some k =>
          have hpending : Untouched plane s { t with pendingOutput := none } :=
            huntouched.same rfl rfl rfl rfl
          refine ⟨(hpending.setBuf fun h => absurd h hplane).queueBuffer ret
            fun h => absurd h hplane, ?_⟩
          rw [irisQueueBuffer_state]
          exact hwaits.state
  | completePending _ hready hbusy =>
      have hplane : .capture ≠ plane := fun h => huntouched.not_listed hbusy h hready
      unfold irisVdecCompletePendingOutput
      cases t.pendingOutput with
      | none => exact hwaits
      | some k =>
          have hpending : Untouched plane s { t with pendingOutput := none } :=
            huntouched.same rfl rfl rfl rfl
          refine ⟨hpending.bufferDone fun h => absurd h hplane, ?_⟩
          rw [irisVb2BufferDone_state]
          exact hwaits.state
  | @hold i buf _ hbusy =>
      have hset : Untouched plane s (t.setBuf .capture i buf) :=
        huntouched.setBuf fun _ => .inl hbusy
      unfold irisVdecHoldOutput
      split_ifs
      · exact ⟨hset.note rfl, hwaits.state⟩
      · exact ⟨hset.same rfl rfl rfl rfl, hwaits.state⟩

end

/-! ### Before anything is submitted -/

theorem irisInstChangeSubState_frame (clear set : SubState) (inst : Inst) :
    ∃ subState, (irisInstChangeSubState clear set inst).2 = { inst with subState } := by
  unfold irisInstChangeSubState
  split_ifs
  · exact ⟨inst.subState, rfl⟩
  · exact ⟨inst.subState, rfl⟩
  · exact ⟨inst.subState, rfl⟩
  · exact ⟨inst.subState, rfl⟩
  · exact ⟨_, rfl⟩

theorem and_allOnes (subState : SubState) : subState &&& ~~~(0 : SubState) = subState :=
  BitVec.and_allOnes

/-- Clearing bits does what it says, but not in the error state. -/
theorem irisInstChangeSubState_clears (clear : SubState) (inst : Inst) :
    irisInstChangeSubState clear 0 inst =
      (0, if inst.state = .error then inst
        else { inst with subState := inst.subState &&& ~~~clear }) := by
  unfold irisInstChangeSubState
  split_ifs with herror hzero hflag hallow
  · rfl
  · rw [hzero.1, and_allOnes]
  · simp [hasFlag] at hflag
  · simp [irisInstAllowSubState] at hallow
  · simp

theorem irisInstChangeState_failed {requestState : InstState} {inst : Inst}
    (hret : (irisInstChangeState requestState inst).1 ≠ 0) :
    (irisInstChangeState requestState inst).2 = inst := by
  revert hret
  unfold irisInstChangeState
  split_ifs
  · exact fun h => absurd rfl h
  · exact fun h => absurd rfl h
  · exact fun h => absurd rfl h
  · exact fun _ => rfl
  · exact fun h => absurd rfl h

section

variable {plane : Plane} {s inst : Inst}

theorem Untouched.changeSubState (huntouched : Untouched plane s inst) (clear set : SubState) :
    Untouched plane s (irisInstChangeSubState clear set inst).2 := by
  obtain ⟨subState, heq⟩ := irisInstChangeSubState_frame clear set inst
  rw [heq]
  exact huntouched.same rfl rfl rfl rfl

theorem Untouched.changeState (huntouched : Untouched plane s inst) (requestState : InstState) :
    Untouched plane s (irisInstChangeState requestState inst).2 := by
  obtain ⟨state, heq⟩ := irisInstChangeState_frame requestState inst
  rw [heq]
  exact huntouched.same rfl rfl rfl rfl

namespace Waits

theorem orGoto {call : Int × Inst} {label : Int → Inst → Int × Inst} {next : Inst → Int × Inst}
    (hcall : Waits plane s call.2)
    (hlabel : ∀ ret inst, Waits plane s inst → Waits plane s (label ret inst).2)
    (hnext : ∀ inst, Waits plane s inst → Waits plane s (next inst).2) :
    Waits plane s (orGoto call label next).2 :=
  orGoto_keep (Q := Waits plane s) (P := fun r : Int × Inst => Waits plane s r.2) hcall hlabel hnext

theorem giveUp (ret : Int) (inst : Inst) (hwaits : Waits plane s inst) :
    Waits plane s (giveUp ret inst).2 := hwaits

theorem enterError (hwaits : Waits plane s inst) : Waits plane s inst.enterError := by
  rw [enterError_eq]
  exact hwaits.same rfl rfl rfl rfl fun h => by cases h

theorem changeSubState (hwaits : Waits plane s inst) (clear set : SubState) :
    Waits plane s (irisInstChangeSubState clear set inst).2 := by
  refine ⟨hwaits.toUntouched.changeSubState clear set, ?_⟩
  rw [irisInstChangeSubState_state]
  exact hwaits.state

theorem changeState (hwaits : Waits plane s inst) {requestState : InstState}
    (hstate : requestState ≠ .streaming) :
    Waits plane s (irisInstChangeState requestState inst).2 := by
  unfold irisInstChangeState
  split_ifs
  · exact hwaits
  · exact hwaits
  · exact hwaits.same rfl rfl rfl rfl fun h => by cases h
  · exact hwaits
  · exact hwaits.same rfl rfl rfl rfl hstate

theorem steps {touches : Plane → Prop} {t : Inst} (hwaits : Waits plane s inst)
    (hsteps : EventSteps touches inst t) : Waits plane s t := by
  induction hsteps with
  | refl => exact hwaits
  | tail _ hstep ih => exact ih.step hstep

theorem events (hwaits : Waits plane s inst) (events : List Event) :
    Waits plane s (handleEvents events inst) :=
  hwaits.steps (handleEvents_steps events inst)

theorem wait (hwaits : Waits plane s inst) (env : InstEnv) (call : InstCall) :
    Waits plane s (irisWaitForSessionResponse env call inst).2 := by
  unfold irisWaitForSessionResponse
  simp only
  split_ifs
  · exact (hwaits.events _).enterError
  · exact hwaits.events _

theorem sessionCommand (hwaits : Waits plane s inst) (env : InstEnv) (call : InstCall) :
    Waits plane s (sessionCommand env call inst).2 :=
  orGoto hwaits giveUp fun _ h => h.wait env call

theorem sessionRelease (hwaits : Waits plane s inst) (env : InstEnv) :
    Waits plane s (sessionRelease env inst).2 :=
  ((hwaits.sessionCommand env _).sessionCommand env _).changeSubState _ _

theorem sessionStart (hwaits : Waits plane s inst) (env : InstEnv) (q : Plane) :
    Waits plane s (sessionStart env q inst).2 := by
  unfold NabuIris.sessionStart
  cases inst.gen with
  | gen2 => exact hwaits
  | gen1 =>
      cases q with
      | capture => exact hwaits
      | output =>
          simp only [irisHfiGen1SessionStart]
          split_ifs
          · exact hwaits
          · exact orGoto (hwaits.sessionCommand env _) giveUp fun inst h =>
              orGoto (h.sessionCommand env _) giveUp fun inst h => h.changeSubState _ _

theorem sessionOpen (hwaits : Waits plane s inst) (env : InstEnv) :
    Waits plane s (sessionOpen env inst).2 := by
  unfold NabuIris.sessionOpen
  split_ifs
  · exact hwaits
  · cases inst.gen with
    | gen1 => exact hwaits.sessionCommand env _
    | gen2 => exact hwaits

theorem hfiSessionOpen (hwaits : Waits plane s inst) (env : InstEnv) :
    Waits plane s (irisHfiSessionOpen env inst).2 := by
  have hrelease : ∀ (ret : Int) (inst : Inst), Waits plane s inst →
      Waits plane s (ret, { inst with hfiSessionOpened := false }).2 :=
    fun _ _ h => h.same rfl rfl rfl rfl h.state
  unfold irisHfiSessionOpen
  split_ifs
  · exact hwaits
  · refine orGoto hwaits giveUp fun inst h => ?_
    have hslot : Waits plane s { inst with hfiSessionOpened := true } :=
      h.same rfl rfl rfl rfl h.state
    refine orGoto (hslot.sessionOpen env) hrelease fun inst h => ?_
    split_ifs
    · exact hrelease (-eio) inst h
    · exact orGoto (h.changeState (by decide)) hrelease fun _ h => h

theorem waitingCall (hwaits : Waits plane s inst) (env : InstEnv) (call : InstCall) :
    Waits plane s (waitingCall env call inst).2 :=
  hwaits.events _

/-- The OUTPUT start up to its return: after the state change nothing waits any more. -/
theorem processStreamonInput (hwaits : Waits plane s inst) (env : InstEnv) :
    Untouched plane s (irisProcessStreamonInput env inst).2 := by
  have hgiveUp : ∀ (ret : Int) (inst : Inst), Waits plane s inst →
      Untouched plane s (NabuIris.giveUp ret inst).2 := fun _ _ h => h.toUntouched
  have hcleared : Waits plane s { inst with streamoffPending := false } :=
    hwaits.same rfl rfl rfl rfl hwaits.state
  unfold irisProcessStreamonInput
  refine orGoto_keep (Q := Waits plane s) (P := fun r : Int × Inst => Untouched plane s r.2)
    (hcleared.sessionStart env _) hgiveUp fun inst h => ?_
  refine orGoto_keep (Q := Waits plane s) (P := fun r : Int × Inst => Untouched plane s r.2) ?_
    hgiveUp fun inst h => ?_
  · split_ifs
    · exact h.changeSubState _ _
    · exact h
  refine orGoto_keep (Q := Waits plane s) (P := fun r : Int × Inst => Untouched plane s r.2) h
    hgiveUp fun inst h => ?_
  refine orGoto_keep (Q := Untouched plane s) (P := fun r : Int × Inst => Untouched plane s r.2)
    (h.toUntouched.changeState _) (fun _ _ h => h) fun inst h => ?_
  refine Untouched.changeSubState ?_ _ _
  exact h.same rfl rfl rfl rfl

theorem streamonInput (hwaits : Waits plane s inst) (env : InstEnv) :
    Untouched plane s (irisStreamonInput env inst).2 := by
  have hgiveUp : ∀ (ret : Int) (inst : Inst), Waits plane s inst →
      Untouched plane s (NabuIris.giveUp ret inst).2 := fun _ _ h => h.toUntouched
  unfold irisStreamonInput
  cases inst.domain with
  | decoder =>
      have hcleared : Waits plane s
          { inst with streamoffPending := false, corruptOutputDrops := 0, pendingOutput := none } :=
        hwaits.same rfl rfl rfl rfl hwaits.state
      refine orGoto_keep (Q := Waits plane s) (P := fun r : Int × Inst => Untouched plane s r.2)
        (hcleared.waitingCall env _) hgiveUp fun inst h => ?_
      exact orGoto_keep (Q := Waits plane s) (P := fun r : Int × Inst => Untouched plane s r.2) h
        hgiveUp fun _ h => h.processStreamonInput env
  | encoder =>
      refine orGoto_keep (Q := Waits plane s) (P := fun r : Int × Inst => Untouched plane s r.2)
        (hwaits.waitingCall env _) hgiveUp fun inst h => ?_
      exact orGoto_keep (Q := Waits plane s) (P := fun r : Int × Inst => Untouched plane s r.2) h
        hgiveUp fun _ h => h.processStreamonInput env

/-- The CAPTURE start fails only before the state change. -/
theorem processStreamonOutput (hwaits : Waits plane s inst) (env : InstEnv) :
    Untouched plane s (irisProcessStreamonOutput env inst).2 ∧
      ((irisProcessStreamonOutput env inst).1 ≠ 0 →
        (irisProcessStreamonOutput env inst).2.state ≠ .streaming) := by
  let Ok (r : Int × Inst) : Prop := Untouched plane s r.2 ∧ (r.1 ≠ 0 → r.2.state ≠ .streaming)
  have hgiveUp : ∀ (ret : Int) (inst : Inst), Waits plane s inst → Ok (NabuIris.giveUp ret inst) :=
    fun _ _ h => ⟨h.toUntouched, fun _ => h.state⟩
  change Ok (irisProcessStreamonOutput env inst)
  unfold irisProcessStreamonOutput
  refine orGoto_keep (Q := Waits plane s) (P := Ok) ?_ hgiveUp fun inst h => ?_
  · split_ifs
    · exact orGoto (hwaits.waitingCall env _) giveUp fun _ h => h
    · exact hwaits
  refine orGoto_keep (Q := Waits plane s) (P := Ok) h hgiveUp fun inst h => ?_
  refine orGoto_keep (Q := Waits plane s) (P := Ok) (h.sessionStart env _) hgiveUp fun inst h => ?_
  refine orGoto_rule (P := Ok) (fun ret changed heq hret => ?_) fun changed heq => ?_
  · have hsame : (irisInstStateChangeStreamon .capture inst).2 = inst :=
      irisInstChangeState_failed (by
        change (irisInstStateChangeStreamon .capture inst).1 ≠ 0
        rw [heq]
        exact hret)
    rw [heq] at hsame
    obtain rfl : changed = inst := hsame
    exact hgiveUp ret changed h
  · have hchanged : Untouched plane s (irisInstStateChangeStreamon .capture inst).2 :=
      h.toUntouched.changeState _
    rw [heq] at hchanged
    refine ⟨Untouched.changeSubState ?_ _ _, fun hret => ?_⟩
    · exact hchanged.same rfl rfl rfl rfl
    · exact absurd (congrArg Prod.fst (irisInstChangeSubState_clears _ _)) hret

end Waits

end

theorem queueDeferred_ready (ret : Nat → Int) (q : Plane) (indices : List Nat) (inst : Inst) :
    (queueDeferred ret q indices inst).2.ready = inst.ready := by
  induction indices generalizing inst with
  | nil => rfl
  | cons i rest ih =>
      rw [queueDeferred_cons]
      split_ifs
      · rw [ih]
        rfl
      · rfl
      · exact ih inst

theorem queueDeferred_grows (ret : Nat → Int) (plane q : Plane) (indices : List Nat)
    (inst : Inst) :
    Grows (NoneBack plane) inst.log (queueDeferred ret q indices inst).2.log := by
  induction indices generalizing inst with
  | nil => exact .refl _
  | cons i rest ih =>
      have hsubmitted : Grows (NoneBack plane) inst.log (irisQueueBuffer 0 q i inst).2.log :=
        (Grows.refl _).snoc fun _ _ _ h => by cases h
      rw [queueDeferred_cons]
      split_ifs
      · exact hsubmitted.trans (ih _)
      · exact .refl _
      · exact ih inst

theorem startDeferred_grows (env : InstEnv) (plane q : Plane) (inst : Inst) :
    Grows (NoneBack plane) inst.log (startDeferred env q inst).2.log ∧
      (startDeferred env q inst).2.ready = inst.ready := by
  let Ok (t : Inst) : Prop := Grows (NoneBack plane) inst.log t.log ∧ t.ready = inst.ready
  have hqueue : ∀ (q : Plane) (t : Inst), Ok t →
      Ok (irisQueueDeferredBuffers (env.queueRet q) q t).2 := fun q t h =>
    ⟨h.1.trans (queueDeferred_grows _ plane q _ t), (queueDeferred_ready _ q _ t).trans h.2⟩
  have hinst : Ok inst := ⟨.refl _, rfl⟩
  unfold startDeferred
  cases inst.domain with
  | decoder =>
      refine orGoto_keep (Q := Ok) (P := fun r : Int × Inst => Ok r.2) ?_ (fun _ _ h => h)
        fun t h => ?_
      · cases q with
        | output => exact hqueue .output inst hinst
        | capture => exact hinst
      · split_ifs
        · exact orGoto_keep (Q := Ok) (P := fun r : Int × Inst => Ok r.2) h (fun _ _ h => h)
            (hqueue .capture)
        · exact h
  | encoder =>
      simp only
      split_ifs
      · exact orGoto_keep (Q := Ok) (P := fun r : Int × Inst => Ok r.2)
          (hqueue .output inst hinst) (fun _ _ h => h) (hqueue .capture)
      · exact hinst

/-! ### The label `error` of the CAPTURE start -/

inductive StreamonOutcome
  | failed (ret : Int) (inst : Inst)
  | rollback (ret : Int) (inst : Inst)
  | started (inst : Inst)

def StreamonOutcome.elim {β : Type} (fail error : Int → Inst → β) (done : Inst → β) :
    StreamonOutcome → β
  | .failed ret inst => fail ret inst
  | .rollback ret inst => error ret inst
  | .started inst => done inst

def streamonOutcome (env : InstEnv) (inst : Inst) : StreamonOutcome :=
  streamonOutput env .failed .rollback .started inst

theorem streamonOutput_outcome {β : Type} (env : InstEnv) (fail error : Int → Inst → β)
    (done : Inst → β) (inst : Inst) :
    streamonOutput env fail error done inst = (streamonOutcome env inst).elim fail error done := by
  unfold streamonOutcome streamonOutput vdecStreamonOutput vencStreamonOutput orGoto
  cases inst.domain with
  | decoder => simp only; split_ifs <;> rfl
  | encoder => simp only; split_ifs <;> rfl

/-- What holds where the stream-on ends; an encoder does not roll back from a running session. -/
def StreamonOutcome.Sound (s : Inst) : StreamonOutcome → Prop
  | .failed ret t => ret ≠ 0 ∧ Untouched .capture s t
  | .rollback ret t =>
      ret ≠ 0 ∧ Untouched .capture s t ∧ (s.domain = .encoder → t.state ≠ .streaming)
  | .started t => Untouched .capture s t

theorem Waits.streamonOutcome {s inst : Inst} (hwaits : Waits .capture s inst) (env : InstEnv) :
    (streamonOutcome env inst).Sound s := by
  let Ok := StreamonOutcome.Sound s
  have hfail : ∀ ret t, ret ≠ 0 → Waits .capture s t → Ok (.failed ret t) :=
    fun ret t hret h => ⟨hret, h.toUntouched⟩
  have herror : ∀ ret t, ret ≠ 0 → Waits .capture s t → Ok (.rollback ret t) :=
    fun ret t hret h => ⟨hret, h.toUntouched, fun _ => h.state⟩
  unfold NabuIris.streamonOutcome streamonOutput
  cases hdomain : inst.domain with
  | decoder =>
      have hdecoder : s.domain ≠ .encoder := by
        rw [← hwaits.domain, hdomain]
        decide
      have hcleared : Waits .capture s { inst with streamoffPending := false } :=
        hwaits.same rfl rfl rfl rfl hwaits.state
      refine orGoto_split (Q := Waits .capture s) (P := Ok) (hcleared.waitingCall env _) hfail
        fun t h => ?_
      refine orGoto_split (Q := Waits .capture s) (P := Ok) h hfail fun t h => ?_
      have hprocess := h.processStreamonOutput env
      refine orGoto_rule (P := Ok) (fun ret t heq hret => ?_) fun t heq => ?_
      · rw [heq] at hprocess
        exact herror ret t hret ⟨hprocess.1, hprocess.2 hret⟩
      · rw [heq] at hprocess
        exact orGoto_split (Q := Untouched .capture s) (P := Ok) hprocess.1
          (fun ret t hret h => ⟨hret, h, fun h => absurd h hdecoder⟩) fun _ h => h
  | encoder =>
      refine orGoto_split (Q := Waits .capture s) (P := Ok) (hwaits.waitingCall env _) herror
        fun t h => ?_
      refine orGoto_split (Q := Waits .capture s) (P := Ok) h hfail fun t h => ?_
      refine orGoto_split (Q := Waits .capture s) (P := Ok) h herror fun t h => ?_
      have hprocess := h.processStreamonOutput env
      refine orGoto_rule (P := Ok) (fun ret t heq hret => ?_) fun t heq => ?_
      · rw [heq] at hprocess
        exact herror ret t hret ⟨hprocess.1, hprocess.2 hret⟩
      · rw [heq] at hprocess
        exact hprocess.1

end NabuIris
