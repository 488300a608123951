import NabuIris.Proof.StreamSteps

/-!
# Queues and the instance state

What holds in every run, whatever fails: a stopped queue has an empty ready list, and the instance
state says no more than which queues are streaming.
-/

namespace NabuIris

/-- The states of a streaming CAPTURE queue. -/
def CaptureSide (state : InstState) : Prop :=
  state = .outputStreaming ∨ state = .streaming ∨ state = .error

/-- The states that tell that the queue of `plane` is streaming. -/
def tellsStreaming (plane : Plane) (state : InstState) : Bool :=
  match plane, state with
  | _, .streaming => true
  | .output, .inputStreaming => true
  | .capture, .outputStreaming => true
  | _, _ => false

/-- An instance whose stopped queues, but those being started, are empty. -/
structure Placed (starting : Plane → Prop) (inst : Inst) : Prop where
  stopped : ∀ plane, ¬starting plane → inst.streaming plane = false → inst.ready plane = []
  capture : inst.streaming .capture = true → CaptureSide inst.state
  idle : ∀ plane, inst.streaming plane = false → tellsStreaming plane inst.state = false

/-! ### What the state machine does -/

def streamonState (plane : Plane) (state : InstState) : InstState :=
  match plane, state with
  | .output, .init => .inputStreaming
  | .output, .outputStreaming => .streaming
  | .capture, .init => .outputStreaming
  | .capture, .inputStreaming => .streaming
  | _, _ => .error

def streamoffState (plane : Plane) (state : InstState) : InstState :=
  match plane, state with
  | .output, .inputStreaming => .init
  | .output, .streaming => .outputStreaming
  | .capture, .outputStreaming => .init
  | .capture, .streaming => .inputStreaming
  | _, _ => .error

theorem irisInstStateChangeStreamon_state (plane : Plane) (inst : Inst) :
    (irisInstStateChangeStreamon plane inst).2.state = streamonState plane inst.state := by
  cases inst with
  | mk _ _ _ _ _ _ state => cases plane <;> cases state <;> rfl

theorem irisInstStateChangeStreamoff_state (plane : Plane) (inst : Inst) :
    (irisInstStateChangeStreamoff plane inst).2.state = streamoffState plane inst.state := by
  cases inst with
  | mk _ _ _ _ _ _ state => cases plane <;> cases state <;> rfl

theorem stable_true (plane : Plane) : Stable (fun _ => True) plane :=
  ⟨trivial, fun _ => trivial, fun _ => trivial, fun _ _ => trivial, fun _ _ => trivial⟩

theorem stable_captureSide : Stable CaptureSide .output where
  error := .inr (.inr rfl)
  opened h := by rcases h with h | h | h <;> cases h
  closed h := by rcases h with h | h | h <;> cases h
  streamon inst h := by
    rw [irisInstStateChangeStreamon_state]
    rcases h with h | h | h <;> rw [h]
    · exact .inr (.inl rfl)
    · exact .inr (.inr rfl)
    · exact .inr (.inr rfl)
  streamoff inst h := by
    rw [irisInstStateChangeStreamoff_state]
    rcases h with h | h | h <;> rw [h]
    · exact .inr (.inr rfl)
    · exact .inl rfl
    · exact .inr (.inr rfl)

theorem tellsStreaming_error (plane : Plane) : tellsStreaming plane .error = false := by
  cases plane <;> rfl

/-- Starting or stopping one queue does not tell that the other one is streaming. -/
theorem stable_idle {plane q : Plane} (hne : q ≠ plane) :
    Stable (fun state => tellsStreaming q state = false) plane where
  error := tellsStreaming_error q
  opened _ := by cases q <;> rfl
  closed _ := by cases q <;> rfl
  streamon inst h := by
    rw [irisInstStateChangeStreamon_state]
    cases plane <;> cases q <;> cases hstate : inst.state <;> rw [hstate] at h <;>
      first | rfl | exact absurd rfl hne | exact h
  streamoff inst h := by
    rw [irisInstStateChangeStreamoff_state]
    cases plane <;> cases q <;> cases hstate : inst.state <;> rw [hstate] at h <;>
      first | rfl | exact absurd rfl hne | exact h

theorem streamonState_captureSide (state : InstState) :
    CaptureSide (streamonState .capture state) := by
  cases state
  · exact .inr (.inr rfl)
  · exact .inl rfl
  · exact .inr (.inl rfl)
  · exact .inr (.inr rfl)
  · exact .inr (.inr rfl)
  · exact .inr (.inr rfl)

theorem streamoffState_idle (plane : Plane) (state : InstState) :
    tellsStreaming plane (streamoffState plane state) = false := by
  cases plane <;> cases state <;> rfl

theorem Plane.exists_ne (plane : Plane) : ∃ q, plane ≠ q := by
  cases plane
  · exact ⟨.capture, by decide⟩
  · exact ⟨.output, by decide⟩

/-! ### Starting and stopping -/

theorem giveUp_ne {ret : Int} {inst : Inst} (hret : ret ≠ 0) : (giveUp ret inst).1 ≠ 0 := hret

theorem streamonRollback_ne {env : InstEnv} {ret : Int} {inst : Inst} (hret : ret ≠ 0) :
    (streamonRollback env ret inst).1 ≠ 0 := hret

theorem irisInstChangeSubState_state (clear set : SubState) (inst : Inst) :
    (irisInstChangeSubState clear set inst).2.state = inst.state := by
  have hstays : StreamSteps (· = inst.state) inst (irisInstChangeSubState clear set inst).2 :=
    (StreamSteps.refl inst).changeSubState clear set
  exact hstays.keeps rfl

theorem irisProcessStreamonOutput_captureSide {env : InstEnv} {inst : Inst}
    (hret : (irisProcessStreamonOutput env inst).1 = 0) :
    CaptureSide (irisProcessStreamonOutput env inst).2.state := by
  unfold irisProcessStreamonOutput at hret ⊢
  obtain ⟨prepared, -, heq⟩ := orGoto_success (fun _ _ => giveUp_ne) hret
  rw [heq] at hret ⊢
  obtain ⟨resumed, -, heq⟩ := orGoto_success (fun _ _ => giveUp_ne) hret
  rw [heq] at hret ⊢
  obtain ⟨started, -, heq⟩ := orGoto_success (fun _ _ => giveUp_ne) hret
  rw [heq] at hret ⊢
  obtain ⟨changed, hchange, heq⟩ := orGoto_success (fun _ _ => giveUp_ne) hret
  rw [heq, irisInstChangeSubState_state]
  have hside := irisInstStateChangeStreamon_state .capture started
  rw [hchange] at hside
  rw [hside]
  exact streamonState_captureSide _

theorem irisStreamonOutput_captureSide {env : InstEnv} {inst : Inst}
    (hret : (irisStreamonOutput env inst).1 = 0) :
    CaptureSide (irisStreamonOutput env inst).2.state := by
  have hprocess : ∀ inst started, irisProcessStreamonOutput env inst = (0, started) →
      CaptureSide started.state := by
    intro inst started heq
    have hside := @irisProcessStreamonOutput_captureSide env inst
    rw [heq] at hside
    exact hside rfl
  unfold irisStreamonOutput streamonOutput at hret ⊢
  cases hdomain : inst.domain with
  | decoder =>
      simp only [hdomain, vdecStreamonOutput] at hret ⊢
      obtain ⟨configured, -, heq⟩ := orGoto_success (fun _ _ => giveUp_ne) hret
      rw [heq] at hret ⊢
      obtain ⟨created, -, heq⟩ := orGoto_success (fun _ _ => giveUp_ne) hret
      rw [heq] at hret ⊢
      obtain ⟨started, hstart, heq⟩ := orGoto_success (fun _ _ => streamonRollback_ne) hret
      rw [heq] at hret ⊢
      obtain ⟨queued, hqueue, heq⟩ := orGoto_success (fun _ _ => streamonRollback_ne) hret
      rw [heq]
      obtain rfl : started = queued := congrArg Prod.snd hqueue
      exact hprocess _ _ hstart
  | encoder =>
      simp only [hdomain, vencStreamonOutput] at hret ⊢
      obtain ⟨configured, -, heq⟩ := orGoto_success (fun _ _ => streamonRollback_ne) hret
      rw [heq] at hret ⊢
      obtain ⟨persist, -, heq⟩ := orGoto_success (fun _ _ => giveUp_ne) hret
      rw [heq] at hret ⊢
      obtain ⟨created, -, heq⟩ := orGoto_success (fun _ _ => streamonRollback_ne) hret
      rw [heq] at hret ⊢
      obtain ⟨started, hstart, heq⟩ := orGoto_success (fun _ _ => streamonRollback_ne) hret
      rw [heq]
      exact hprocess _ _ hstart

theorem irisVb2StartStreaming_failed {env : InstEnv} {plane : Plane} {inst : Inst}
    (hret : (irisVb2StartStreaming env plane inst).1 ≠ 0) :
    (irisVb2StartStreaming env plane inst).2.ready plane = [] ∧
      (irisVb2StartStreaming env plane inst).2.state = .error := by
  have hfail : ∀ inst : Inst,
      ((irisHelperBuffersDone plane .queued inst).enterError).ready plane = [] ∧
        ((irisHelperBuffersDone plane .queued inst).enterError).state = .error := by
    intro inst
    rw [enterError_eq]
    exact ⟨irisHelperBuffersDone_ready plane .queued inst, rfl⟩
  let Failed (r : Int × Inst) : Prop := r.1 ≠ 0 → r.2.ready plane = [] ∧ r.2.state = .error
  revert hret
  change Failed (irisVb2StartStreaming env plane inst)
  unfold irisVb2StartStreaming
  simp only
  split_ifs
  · exact fun _ => hfail inst
  refine orGoto_rule (P := Failed)
    (fun _ inst _ _ _ => hfail inst) fun inst _ => ?_
  refine orGoto_rule (P := Failed)
    (fun _ inst _ _ _ => hfail inst) fun inst _ => ?_
  refine orGoto_rule (P := Failed)
    (fun _ inst _ _ _ => hfail inst) fun inst _ => ?_
  exact orGoto_rule (P := Failed)
    (fun _ inst _ _ _ => hfail inst) fun inst _ hne => absurd rfl hne

theorem startDeferred_state (env : InstEnv) (plane : Plane) (inst : Inst) :
    (startDeferred env plane inst).2.state = inst.state := by
  have hstays : StreamSteps (· = inst.state) inst (startDeferred env plane inst).2 :=
    (StreamSteps.refl inst).startDeferred env plane
  exact hstays.keeps rfl

theorem irisVb2StartStreaming_captureSide {env : InstEnv} {inst : Inst}
    (hret : (irisVb2StartStreaming env .capture inst).1 = 0) :
    CaptureSide (irisVb2StartStreaming env .capture inst).2.state := by
  have hfail : ∀ (ret : Int) (inst : Inst), ret ≠ 0 →
      (ret, (irisHelperBuffersDone .capture .queued inst).enterError).1 ≠ 0 := fun _ _ => id
  unfold irisVb2StartStreaming at hret ⊢
  simp only at hret ⊢
  split_ifs at hret ⊢
  · exact absurd hret (by decide : -ebusy ≠ 0)
  obtain ⟨supported, -, heq⟩ := orGoto_success hfail hret
  rw [heq] at hret ⊢
  obtain ⟨opened, -, heq⟩ := orGoto_success hfail hret
  rw [heq] at hret ⊢
  obtain ⟨started, hstart, heq⟩ := orGoto_success hfail hret
  rw [heq] at hret ⊢
  obtain ⟨queued, hqueue, heq⟩ := orGoto_success hfail hret
  rw [heq]
  have hside := @irisStreamonOutput_captureSide env opened
  have hstate := startDeferred_state env .capture started
  rw [hstart] at hside
  rw [hqueue] at hstate
  exact hstate ▸ hside rfl

theorem irisVb2StopStreaming_ready {env : InstEnv} {plane : Plane} {inst : Inst}
    (hstate : ¬(plane = .capture ∧ inst.state = .init)) :
    (irisVb2StopStreaming env plane inst).ready plane = [] := by
  rw [irisVb2StopStreaming, if_neg hstate]
  refine applyIf_keep (P := fun inst => inst.ready plane = []) _
    (irisHelperBuffersDone_ready plane .error _) fun hready => ?_
  rw [enterError_eq]
  exact hready

theorem irisSessionStreamoff_idle {env : InstEnv} {plane : Plane} {inst : Inst}
    (hret : (irisSessionStreamoff env plane inst).1 = 0) :
    tellsStreaming plane (irisSessionStreamoff env plane inst).2.state = false := by
  have herror : ∀ (ret : Int) (inst : Inst), ret ≠ 0 →
      (ret, irisFlushDeferredBuffers plane (irisKillSession inst)).1 ≠ 0 := fun _ _ => id
  obtain ⟨q, hne⟩ := plane.exists_ne
  unfold irisSessionStreamoff at hret ⊢
  obtain ⟨stopped, -, heq⟩ := orGoto_success herror hret
  rw [heq] at hret ⊢
  obtain ⟨changed, hchange, heq⟩ := orGoto_success herror hret
  rw [heq]
  have hidle : tellsStreaming plane changed.state = false := by
    have hstate := irisInstStateChangeStreamoff_state plane stopped
    rw [hchange] at hstate
    rw [hstate]
    exact streamoffState_idle plane _
  have hflushed : StreamSteps (fun state => tellsStreaming plane state = false) changed
      (irisFlushDeferredBuffers plane changed) := (StreamSteps.refl changed).flushDeferred _ _
  simp only
  split_ifs with hinit
  · exact orGoto_value_rule (P := fun r : Int × Inst => tellsStreaming plane r.2.state = false)
      (fun _ => hflushed.keeps hidle)
      fun _ => (hflushed.hfiSessionClose (stable_idle hne) hinit env).keeps hidle
  · exact hflushed.keeps hidle

theorem irisHelperBuffersDone_state (plane : Plane) (state : Vb2State) (inst : Inst) :
    (irisHelperBuffersDone plane state inst).state = inst.state := by
  have hstays : Settles (· = inst.state) inst (irisHelperBuffersDone plane state inst) :=
    (Settles.refl inst).buffersDone plane state
  exact hstays.keeps rfl

theorem irisVb2StopStreaming_idle (env : InstEnv) (plane : Plane) (inst : Inst) :
    tellsStreaming plane (irisVb2StopStreaming env plane inst).state = false := by
  unfold irisVb2StopStreaming
  split_ifs with hearly
  · rw [hearly.2]
    cases plane <;> rfl
  · refine applyIf_rule (P := fun inst : Inst => tellsStreaming plane inst.state = false)
      (fun hret => ?_) fun _ => ?_
    · rw [irisHelperBuffersDone_state]
      exact irisSessionStreamoff_idle (by simpa using hret)
    · rw [enterError_eq]
      exact tellsStreaming_error plane

/-! ### Handing a buffer over -/

/-- What handing over a buffer of `plane` leaves alone. -/
structure HandsOver (plane : Plane) (s t : Inst) : Prop where
  others : ∀ q, q ≠ plane → t.ready q = s.ready q
  streaming : t.streaming = s.streaming
  state : t.state = s.state ∨ t.state = .error

theorem HandsOver.trans {plane : Plane} {s t u : Inst} (hfirst : HandsOver plane s t)
    (hsecond : HandsOver plane t u) : HandsOver plane s u where
  others q hq := (hsecond.others q hq).trans (hfirst.others q hq)
  streaming := hsecond.streaming.trans hfirst.streaming
  state := by
    rcases hsecond.state with h | h
    · rw [h]
      exact hfirst.state
    · exact .inr h

theorem Settles.qbuf {keep : InstState → Prop} (ret : Int) (plane : Plane) (i : Nat)
    (data : QbufData) (inst : Inst) : Settles keep inst (irisQbuf ret plane i data inst).2 := by
  unfold irisQbuf
  simp only
  split_ifs
  · exact (Settles.refl inst).setBuf _ _ _
  · exact ((Settles.refl inst).setBuf _ _ _).queueBuffer _ _ _

theorem irisQbuf_ready (ret : Int) (plane : Plane) (i : Nat) (data : QbufData) (inst : Inst) :
    (irisQbuf ret plane i data inst).2.ready = inst.ready := by
  unfold irisQbuf irisQueueBuffer
  simp only
  split_ifs <;> rfl

theorem bufQueueFail_handsOver (plane : Plane) (i : Nat) (inst : Inst) :
    HandsOver plane inst (bufQueueFail plane i inst) := by
  rw [bufQueueFail, enterError_eq]
  exact ⟨fun _ _ => rfl, rfl, .inr rfl⟩

theorem link_handsOver (ret : Int) (plane : Plane) (i : Nat) (data : QbufData) (inst : Inst) :
    HandsOver plane inst (irisQbuf ret plane i data (v4l2M2mBufQueue plane i inst)).2 := by
  have hsettles : Settles (· = inst.state) (v4l2M2mBufQueue plane i inst) _ :=
    .qbuf ret plane i data _
  refine ⟨fun q hq => ?_, hsettles.streaming, .inl (hsettles.keeps rfl)⟩
  rw [irisQbuf_ready]
  exact Function.update_of_ne hq _ _

theorem vb2BufQueue_handsOver (ret : Int) (plane : Plane) (i : Nat) (data : QbufData)
    (inst : Inst) : HandsOver plane inst (vb2BufQueue ret plane i data inst) := by
  have hgiven : HandsOver plane inst
      ((inst.setVbufFlags plane i data.flags).record (.handed plane i)) :=
    ⟨fun _ _ => rfl, rfl, .inl rfl⟩
  unfold vb2BufQueue irisVb2BufQueue
  split_ifs
  · exact ⟨fun _ _ => rfl, rfl, .inl rfl⟩
  · exact hgiven.trans (bufQueueFail_handsOver plane i _)
  · exact hgiven.trans (bufQueueFail_handsOver plane i _)
  · exact hgiven.trans ⟨fun _ _ => rfl, rfl, .inl rfl⟩
  · exact orGoto_keep (Q := HandsOver plane inst) (P := HandsOver plane inst)
      (hgiven.trans (link_handsOver ret plane i data _))
      (fun _ _ h => h.trans (bufQueueFail_handsOver plane i _)) fun _ h => h

theorem vb2HandOver_streaming (plane : Plane) (bufs : List (Nat × QbufData)) (inst : Inst) :
    (vb2HandOver plane bufs inst).streaming = inst.streaming := by
  unfold vb2HandOver
  induction bufs generalizing inst with
  | nil => rfl
  | cons buf rest ih =>
      rw [List.foldl_cons, ih]
      exact (vb2BufQueue_handsOver 0 plane buf.1 buf.2 inst).streaming

/-! ### Steps -/

namespace Placed

variable {starting : Plane → Prop} {plane : Plane} {s t inst : Inst}

theorem weaken {starting' : Plane → Prop} (hplaced : Placed starting inst)
    (hweaken : ∀ plane, starting plane → starting' plane) : Placed starting' inst :=
  ⟨fun plane hnot => hplaced.stopped plane fun h => hnot (hweaken plane h), hplaced.capture,
    hplaced.idle⟩

theorem handsOver (hplaced : Placed starting s) (hhands : HandsOver plane s t)
    (hplane : starting plane ∨ s.streaming plane = true) : Placed starting t where
  stopped q hnot hidle := by
    rw [hhands.streaming] at hidle
    have hq : q ≠ plane := by
      rintro rfl
      rcases hplane with h | h
      · exact hnot h
      · rw [h] at hidle
        cases hidle
    rw [hhands.others q hq]
    exact hplaced.stopped q hnot hidle
  capture hstreaming := by
    rw [hhands.streaming] at hstreaming
    rcases hhands.state with h | h
    · rw [h]
      exact hplaced.capture hstreaming
    · exact .inr (.inr h)
  idle q hidle := by
    rw [hhands.streaming] at hidle
    rcases hhands.state with h | h
    · rw [h]
      exact hplaced.idle q hidle
    · rw [h]
      exact tellsStreaming_error q

theorem handOver (hplaced : Placed starting inst) (hplane : starting plane)
    (bufs : List (Nat × QbufData)) : Placed starting (vb2HandOver plane bufs inst) := by
  unfold vb2HandOver
  induction bufs generalizing inst with
  | nil => exact hplaced
  | cons buf rest ih => exact ih (hplaced.handsOver (vb2BufQueue_handsOver _ _ _ _ _) (.inl hplane))

theorem settles (hplaced : Placed starting s) (hcapture : Settles CaptureSide s t)
    (hidle : ∀ q, Settles (fun state => tellsStreaming q state = false) s t) :
    Placed starting t where
  stopped q hnot hstreaming :=
    hcapture.empty (hplaced.stopped q hnot (hcapture.streaming ▸ hstreaming))
  capture hstreaming := hcapture.keeps (hplaced.capture (hcapture.streaming ▸ hstreaming))
  idle q hstreaming := (hidle q).keeps (hplaced.idle q ((hidle q).streaming ▸ hstreaming))

theorem event (hplaced : Placed starting inst) (event : Event) :
    Placed starting (handleEvent event inst) :=
  hplaced.settles ((handleEvent_steps event inst).settles (.inr (.inr rfl)))
    fun q => (handleEvent_steps event inst).settles (tellsStreaming_error q)

theorem queueSetup (hplaced : Placed starting inst) (env : InstEnv) :
    Placed starting (irisVb2QueueSetup env inst).2 := by
  refine hplaced.settles ((StreamSteps.refl inst).queueSetup stable_captureSide env).settles
    fun q => ?_
  obtain ⟨p, hne⟩ := q.exists_ne
  exact ((StreamSteps.refl inst).queueSetup (stable_idle hne) env).settles

/-- What the streaming functions of `plane` do to the states that tell of the other queue. -/
theorem others (hplaced : Placed starting s)
    (hsettles : ∀ keep, Stable keep plane → Settles keep s t) {q : Plane} (hq : q ≠ plane)
    (hidle : s.streaming q = false) : tellsStreaming q t.state = false :=
  (hsettles _ (stable_idle hq)).keeps (hplaced.idle q hidle)

theorem othersCapture (hplaced : Placed starting s)
    (hsettles : ∀ keep, Stable keep plane → Settles keep s t) (hne : plane ≠ .capture)
    (hstreaming : s.streaming .capture = true) : CaptureSide t.state := by
  cases plane with
  | output => exact (hsettles _ stable_captureSide).keeps (hplaced.capture hstreaming)
  | capture => exact absurd rfl hne

theorem start (hplaced : Placed (· = plane) inst) (hidle : inst.streaming plane = false)
    (env : InstEnv) : Placed (fun _ => False) (vb2StartStreaming env plane inst) := by
  have hsettles : ∀ keep, Stable keep plane →
      Settles keep inst (irisVb2StartStreaming env plane inst).2 :=
    fun keep hstable => ((StreamSteps.refl inst).startStreaming hstable env).settles
  have hany := hsettles _ (stable_true plane)
  have hstopped : ∀ q, q ≠ plane → inst.streaming q = false →
      (irisVb2StartStreaming env plane inst).2.ready q = [] :=
    fun q hq hstill => hany.empty (hplaced.stopped q hq hstill)
  have hne : inst.streaming .capture = true → plane ≠ .capture := by
    rintro hstreaming rfl
    rw [hstreaming] at hidle
    cases hidle
  have hcapture : inst.streaming .capture = true →
      CaptureSide (irisVb2StartStreaming env plane inst).2.state :=
    fun hstreaming => hplaced.othersCapture hsettles (hne hstreaming) hstreaming
  unfold vb2StartStreaming
  refine applyIf_rule (P := Placed _) (fun hret => ?_) fun hret => ?_
  · have hfailed := @irisVb2StartStreaming_failed env plane inst (by simpa using hret)
    refine ⟨fun q _ hstill => ?_, fun h => hcapture (hany.streaming ▸ h), fun q hstill => ?_⟩
    · by_cases hq : q = plane
      · subst hq
        exact hfailed.1
      · exact hstopped q hq (hany.streaming ▸ hstill)
    · rw [hfailed.2]
      exact tellsStreaming_error q
  · have hsuccess : (irisVb2StartStreaming env plane inst).1 = 0 := by simpa using hret
    have hothers : ∀ q, ((irisVb2StartStreaming env plane inst).2.setStreaming plane
        true).streaming q = false → q ≠ plane ∧ inst.streaming q = false := by
      intro q hstill
      have hq : q ≠ plane := by
        rintro rfl
        rw [setStreaming_self] at hstill
        cases hstill
      rw [setStreaming_of_ne _ _ hq, hany.streaming] at hstill
      exact ⟨hq, hstill⟩
    refine ⟨fun q _ hstill => ?_, fun hstreaming => ?_, fun q hstill => ?_⟩
    · exact hstopped q (hothers q hstill).1 (hothers q hstill).2
    · by_cases hplane : plane = .capture
      · subst hplane
        exact irisVb2StartStreaming_captureSide hsuccess
      · rw [setStreaming_of_ne _ _ (Ne.symm hplane), hany.streaming] at hstreaming
        exact hcapture hstreaming
    · exact hplaced.others hsettles (hothers q hstill).1 (hothers q hstill).2

theorem streamoff (hplaced : Placed starting inst) (hstreaming : inst.streaming plane = true)
    (env : InstEnv) : Placed starting (vb2Streamoff env plane inst) := by
  have hsettles : ∀ keep, Stable keep plane →
      Settles keep inst (irisVb2StopStreaming env plane inst) :=
    fun keep hstable => ((StreamSteps.refl inst).stopStreaming hstable env).settles
  have hany := hsettles _ (stable_true plane)
  refine ⟨fun q hnot hidle => ?_, fun hcapture => ?_, fun q hidle => ?_⟩
  · by_cases hq : q = plane
    · subst hq
      refine irisVb2StopStreaming_ready ?_
      rintro ⟨rfl, hinit⟩
      rcases hplaced.capture hstreaming with h | h | h <;> rw [hinit] at h <;> cases h
    · rw [vb2Streamoff, setStreaming_of_ne _ _ hq, hany.streaming] at hidle
      exact hany.empty (hplaced.stopped q hnot hidle)
  · have hplane : plane ≠ .capture := by
      rintro rfl
      rw [vb2Streamoff, setStreaming_self] at hcapture
      cases hcapture
    rw [vb2Streamoff, setStreaming_of_ne _ _ (Ne.symm hplane), hany.streaming] at hcapture
    have hside := hplaced.othersCapture hsettles hplane hcapture
    exact hside
  · by_cases hq : q = plane
    · subst hq
      exact irisVb2StopStreaming_idle env q inst
    · rw [vb2Streamoff, setStreaming_of_ne _ _ hq, hany.streaming] at hidle
      exact hplaced.others hsettles hq hidle

theorem applyOp (hplaced : Placed (fun _ => False) inst) (op : Op) :
    Placed (fun _ => False) (applyOp inst op) := by
  cases op with
  | reqbufs env => exact hplaced.queueSetup env
  | qbuf ret plane i data =>
      simp only [NabuIris.applyOp]
      split_ifs with hstreaming
      · exact hplaced.handsOver (vb2BufQueue_handsOver ret plane i data inst) (.inr hstreaming)
      · exact hplaced
  | streamon env plane bufs =>
      simp only [NabuIris.applyOp]
      split_ifs with hstreaming
      · exact hplaced
      · have hidle : inst.streaming plane = false := by simpa using hstreaming
        have hstarting : Placed (· = plane) inst := hplaced.weaken fun _ h => h.elim
        refine (hstarting.handOver rfl bufs).start ?_ env
        rw [vb2HandOver_streaming]
        exact hidle
  | streamoff env plane =>
      simp only [NabuIris.applyOp]
      split_ifs with hstreaming
      · exact hplaced.streamoff hstreaming env
      · exact hplaced
  | event event => exact hplaced.event event

end Placed

/-! ### Runs -/

/-- An instance as `iris_open` leaves it. -/
structure Fresh (inst : Inst) : Prop where
  state : inst.state = .deinit
  ready : ∀ plane, inst.ready plane = []
  idle : ∀ plane, inst.streaming plane = false
  log : inst.log = []

/-- A decoder as `iris_open` leaves it. -/
def openedDecoder (gen : Gen) (codec : Codec) (legacyVpu5 : Bool) : Inst :=
  { gen, codec, legacyVpu5
    domain := .decoder
    splitMode := false
    sessionId := 1
    state := .deinit
    subState := 0
    ready := fun _ => []
    buf := fun _ _ => irisVb2BufferToDriver
      { deviceAddr := 0, dataOffset := 0, bytesused := 0, flags := 0, timestamp := 0 }
    vbufFlags := fun _ _ => 0
    streaming := fun _ => false
    hfiSessionOpened := false
    pendingOutput := none
    startStreamingRollbackType := none
    lastBufferDequeued := false
    streamoffPending := false
    m2mStopped := false
    flushResponsesPending := 0
    corruptOutputDrops := 0
    log := [] }

theorem openedDecoder_fresh (gen : Gen) (codec : Codec) (legacyVpu5 : Bool) :
    Fresh (openedDecoder gen codec legacyVpu5) :=
  ⟨rfl, fun _ => rfl, fun _ => rfl, rfl⟩

/-- Every call succeeds and nothing happens meanwhile. -/
def undisturbed : InstEnv :=
  { ret := fun _ => 0, events := fun _ => [], timedOut := fun _ => false, queueRet := fun _ _ => 0 }

def frameData : QbufData :=
  { deviceAddr := 4096, dataOffset := 0, bytesused := 100, flags := 0, timestamp := 7 }

theorem Fresh.placed {inst : Inst} (hfresh : Fresh inst) : Placed (fun _ => False) inst where
  stopped plane _ _ := hfresh.ready plane
  capture hstreaming := by
    rw [hfresh.idle] at hstreaming
    cases hstreaming
  idle plane _ := by
    rw [hfresh.state]
    cases plane <;> rfl

theorem Placed.instAfter {inst : Inst} (hplaced : Placed (fun _ => False) inst) (ops : List Op) :
    Placed (fun _ => False) (instAfter inst ops) := by
  unfold NabuIris.instAfter
  induction ops generalizing inst with
  | nil => exact hplaced
  | cons op rest ih => exact ih (hplaced.applyOp op)

end NabuIris
