import NabuIris.Proof.StartFrame

/-!
# What a failed start gives back

A start that fails before the label `error` of the CAPTURE stream-on has given nothing back and
returns its buffers as `VB2_BUF_STATE_QUEUED`. Behind that label they go through `session_stop`,
and the first generation has a branch there that returns every buffer as an error.
-/

namespace NabuIris

open Lib

/-- Between the call of `iris_vb2_start_streaming` in `s` and its return in `t`, every buffer of
`plane` that the driver owned went back as QUEUED, and none in another state. -/
def RolledBack (plane : Plane) (s t : Inst) : Prop :=
  ∃ suffix, t.log = s.log ++ suffix ∧
    (∀ i, driverOwns s.log plane i = true → ∃ payload, .done plane i .queued payload ∈ suffix) ∧
    ∀ i state payload, .done plane i state payload ∈ suffix → state = .queued

/-- Where a CAPTURE start enters the label `error` of its stream-on, if it does. -/
def rollbackEntry (env : InstEnv) (inst : Inst) : Option Inst :=
  let fail (_ : Int) (_ : Inst) : Option Inst := none
  if inst.state = .error then none
  else
    orGoto (env.ret .sessionSupported, inst) fail fun inst =>
    orGoto (irisHfiSessionOpen env inst) fail fun inst =>
    streamonOutput env fail (fun _ inst => some inst) (fun _ => none) inst

/-- `iris_hfi_gen1_session_stop` takes a branch that gives every buffer back. -/
def stopReturnsAll (inst : Inst) : Bool :=
  inst.gen == .gen1 &&
    match inst.domain with
    | .decoder => inst.state != .streaming && hasFlag inst.subState subLoadResources
    | .encoder => true

/-- A CAPTURE start with buffers that rolls back through that branch. -/
def RollsBackAsError (env : InstEnv) (plane : Plane) (inst : Inst) : Prop :=
  plane = .capture ∧ inst.ready .capture ≠ [] ∧
    ∃ entry, rollbackEntry env inst = some entry ∧ stopReturnsAll entry = true

def OnlyQueued (plane : Plane) (event : BufEvent) : Prop :=
  ∀ i state payload, event = .done plane i state payload → state = .queued

theorem NoneBack.onlyQueued {plane : Plane} (event : BufEvent) (hnone : NoneBack plane event) :
    OnlyQueued plane event :=
  fun i state payload heq => absurd heq (hnone i state payload)

/-! ### Under the rollback type -/

/-- From `s` to `t` buffers of `plane` went back as QUEUED only, and so will further ones. -/
structure Rolls (plane : Plane) (s t : Inst) : Prop where
  type : t.startStreamingRollbackType = some plane
  log : Grows (OnlyQueued plane) s.log t.log

section

variable {plane : Plane} {s t u inst : Inst}

namespace Rolls

theorem same (hrolls : Rolls plane s t)
    (htype : u.startStreamingRollbackType = t.startStreamingRollbackType)
    (hlog : u.log = t.log) : Rolls plane s u :=
  ⟨htype.trans hrolls.type, hlog ▸ hrolls.log⟩

theorem note (hrolls : Rolls plane s t) {event : BufEvent} (hevent : event.transfer = none) :
    Rolls plane s (t.record event) := by
  refine ⟨hrolls.type, hrolls.log.snoc ?_⟩
  rintro i state payload rfl
  cases hevent

theorem bufferDone (hrolls : Rolls plane s t) (q : Plane) (i : Nat) :
    Rolls plane s (irisVb2BufferDone q i t).2 := by
  by_cases hlisted : i ∈ t.ready q
  · obtain ⟨state, payload, vbufFlags, stopped, last, hgives, heq⟩ :=
      irisVb2BufferDone_listed hlisted
    rw [heq]
    refine ⟨hrolls.type, hrolls.log.snoc ?_⟩
    intro k state' payload' hevent
    cases hevent
    exact (hgives.rollback hrolls.type).1
  · rw [irisVb2BufferDone_absent hlisted]
    exact hrolls

theorem queueBuffer (hrolls : Rolls plane s t) (ret : Int) (q : Plane) (i : Nat) :
    Rolls plane s (irisQueueBuffer ret q i t).2 := by
  unfold irisQueueBuffer
  split_ifs
  · exact hrolls
  · have hset : Rolls plane s (t.setBuf q i
        { t.buf q i with attr := { (t.buf q i).attr with deferred := false, queued := true } }) :=
      hrolls.same rfl rfl
    exact hset.note rfl

theorem setBuf (hrolls : Rolls plane s t) (q : Plane) (i : Nat) (buf : IrisBuffer) :
    Rolls plane s (t.setBuf q i buf) :=
  hrolls.same rfl rfl

theorem step {touches : Plane → Prop} (hrolls : Rolls plane s t) (hstep : EventStep touches t u) :
    Rolls plane s u := by
  cases hstep with
  | fields => exact hrolls.same rfl rfl
  | error => exact hrolls.same rfl rfl
  | touch => exact hrolls.setBuf _ _ _
  | free => exact hrolls.setBuf _ _ _
  | complete => exact (hrolls.setBuf _ _ _).bufferDone _ _
  | submit => exact hrolls.queueBuffer _ _ _
  | requeue => exact (hrolls.setBuf _ _ _).queueBuffer _ _ _
  | recyclePending =>
      unfold irisVdecRecyclePendingOutput
      cases t.pendingOutput with
      | none => exact hrolls
      | some k =>
          refine (setBuf ?_ _ _ _).queueBuffer _ _ _
          exact hrolls.same rfl rfl
  | completePending =>
      unfold irisVdecCompletePendingOutput
      cases t.pendingOutput with
      | none => exact hrolls
      | some k =>
          refine bufferDone ?_ _ _
          exact hrolls.same rfl rfl
  | @hold i buf =>
      unfold irisVdecHoldOutput
      split_ifs
      · exact (hrolls.setBuf .capture i buf).note rfl
      · exact hrolls.same rfl rfl

theorem events (hrolls : Rolls plane s inst) (events : List Event) :
    Rolls plane s (handleEvents events inst) := by
  have hsteps : ∀ t, EventSteps (fun _ => True) inst t → Rolls plane s t := by
    intro t hsteps
    induction hsteps with
    | refl => exact hrolls
    | tail _ hstep ih => exact ih.step hstep
  exact hsteps _ (handleEvents_steps events inst)

theorem enterError (hrolls : Rolls plane s inst) : Rolls plane s inst.enterError := by
  rw [enterError_eq]
  exact hrolls.same rfl rfl

theorem changeState (hrolls : Rolls plane s inst) (requestState : InstState) :
    Rolls plane s (irisInstChangeState requestState inst).2 := by
  obtain ⟨state, heq⟩ := irisInstChangeState_frame requestState inst
  rw [heq]
  exact hrolls.same rfl rfl

theorem orGoto {call : Int × Inst} {label : Int → Inst → Int × Inst} {next : Inst → Int × Inst}
    (hcall : Rolls plane s call.2)
    (hlabel : ∀ ret inst, Rolls plane s inst → Rolls plane s (label ret inst).2)
    (hnext : ∀ inst, Rolls plane s inst → Rolls plane s (next inst).2) :
    Rolls plane s (orGoto call label next).2 :=
  orGoto_keep (Q := Rolls plane s) (P := fun r : Int × Inst => Rolls plane s r.2) hcall hlabel hnext

theorem giveUp (ret : Int) (inst : Inst) (hrolls : Rolls plane s inst) :
    Rolls plane s (giveUp ret inst).2 := hrolls

theorem sessionCommand (hrolls : Rolls plane s inst) (env : InstEnv) (call : InstCall) :
    Rolls plane s (sessionCommand env call inst).2 := by
  refine orGoto hrolls giveUp fun inst h => ?_
  unfold irisWaitForSessionResponse
  simp only
  split_ifs
  · exact (h.events _).enterError
  · exact h.events _

theorem sessionStop (hrolls : Rolls plane s inst) (hstop : stopReturnsAll inst = false)
    (env : InstEnv) : Rolls plane s (sessionStop env inst).2 := by
  unfold NabuIris.sessionStop
  cases hgen : inst.gen with
  | gen2 => exact hrolls.sessionCommand env _
  | gen1 =>
      simp only [irisHfiGen1SessionStop]
      cases hdomain : inst.domain with
      | decoder =>
          simp only
          split_ifs with hstate hload
          · refine orGoto hrolls giveUp fun inst h => ?_
            unfold irisWaitForSessionResponse
            have hpending : Rolls plane s
                { inst with flushResponsesPending := inst.flushResponsesPending + 1 } :=
              h.same rfl rfl
            simp only
            split_ifs
            · exact (hpending.events _).enterError
            · exact hpending.events _
          · simp [stopReturnsAll, hgen, hdomain, hstate, hload] at hstop
          · exact hrolls
      | encoder => simp [stopReturnsAll, hgen, hdomain] at hstop

theorem flushDeferred (hrolls : Rolls plane s inst) (q : Plane) (indices : List Nat) :
    Rolls plane s (flushDeferred q indices inst) := by
  induction indices generalizing inst with
  | nil => exact hrolls
  | cons i rest ih =>
      rw [NabuIris.flushDeferred]
      simp only
      split_ifs
      · exact ih ((hrolls.setBuf _ _ _).bufferDone _ _)
      · exact ih hrolls

theorem killSession (hrolls : Rolls plane s inst) : Rolls plane s (irisKillSession inst) := by
  unfold irisKillSession
  split_ifs
  · exact hrolls
  · exact hrolls.enterError

theorem hfiSessionClose (hrolls : Rolls plane s inst) (env : InstEnv) :
    Rolls plane s (irisHfiSessionClose env inst).2 := by
  have hclosing : Rolls plane s (sessionClosing env inst).2 := by
    refine orGoto (hrolls.sessionCommand env _) giveUp fun inst h => ?_
    split_ifs
    · exact h
    · exact h.changeState _
    · exact h
  unfold irisHfiSessionClose
  split_ifs
  · exact hrolls
  · exact hclosing.same rfl rfl

theorem sessionStreamoff (hrolls : Rolls plane s inst) (hstop : stopReturnsAll inst = false)
    (env : InstEnv) (q : Plane) : Rolls plane s (irisSessionStreamoff env q inst).2 := by
  have herror : ∀ (ret : Int) (inst : Inst), Rolls plane s inst →
      Rolls plane s (ret, irisFlushDeferredBuffers q (irisKillSession inst)).2 :=
    fun _ _ h => h.killSession.flushDeferred _ _
  have hpending : Rolls plane s { inst with streamoffPending := true } := hrolls.same rfl rfl
  unfold irisSessionStreamoff
  refine orGoto (hpending.sessionStop hstop env) herror fun inst h => ?_
  refine orGoto (h.changeState _) herror fun inst h => ?_
  have hflushed : Rolls plane s (irisFlushDeferredBuffers q inst) := h.flushDeferred _ _
  simp only
  split_ifs
  · exact orGoto hflushed giveUp fun _ h => h.hfiSessionClose env
  · exact hflushed

end Rolls

end

/-! ### The branch that returns every buffer -/

theorem helperBuffersDone_log (plane : Plane) (state : Vb2State) (indices : List Nat)
    (inst : Inst) :
    (helperBuffersDone plane state indices inst).log =
      inst.log ++ indices.map fun i => .done plane i state none := by
  induction indices generalizing inst with
  | nil => simp [helperBuffersDone]
  | cons i rest ih =>
      rw [helperBuffersDone, ih, List.map_cons, List.append_cons]
      rfl

theorem irisHelperBuffersDone_log (plane : Plane) (state : Vb2State) (inst : Inst) :
    (irisHelperBuffersDone plane state inst).log =
      inst.log ++ (inst.ready plane).map fun i => .done plane i state none :=
  helperBuffersDone_log plane state (inst.ready plane) inst

theorem helperBuffersDone_others {plane q : Plane} (hq : q ≠ plane) (state : Vb2State)
    (indices : List Nat) (inst : Inst) :
    (helperBuffersDone plane state indices inst).ready q = inst.ready q := by
  induction indices generalizing inst with
  | nil => rfl
  | cons i rest ih =>
      rw [helperBuffersDone, ih]
      exact Function.update_of_ne hq _ _

/-- The log since `s` shows a CAPTURE buffer that went back as an error. -/
def BackAsError (i : Nat) (s t : Inst) : Prop :=
  ∃ suffix, t.log = s.log ++ suffix ∧ .done .capture i .error none ∈ suffix

theorem BackAsError.settles {keep : InstState → Prop} {i : Nat} {s t u : Inst}
    (hback : BackAsError i s t) (hsettles : Settles keep t u) : BackAsError i s u := by
  obtain ⟨suffix, hlog, hmem⟩ := hback
  obtain ⟨more, hmore, -⟩ := hsettles.returned .capture
  exact ⟨suffix ++ more, by rw [hmore, hlog, List.append_assoc], List.mem_append_left _ hmem⟩

theorem BackAsError.not_rolledBack {i : Nat} {s t : Inst} (hback : BackAsError i s t) :
    ¬RolledBack .capture s t := by
  rintro ⟨suffix, hlog, -, honly⟩
  obtain ⟨suffix', hlog', hmem⟩ := hback
  rw [hlog'] at hlog
  rw [List.append_cancel_left hlog] at hmem
  cases honly i .error none hmem

theorem returnAllBuffers_backAsError {s t : Inst} (hwaits : Waits .capture s t) {i : Nat}
    (hlisted : i ∈ s.ready .capture) : BackAsError i s (returnAllBuffers t) := by
  obtain ⟨suffix, hlog, -⟩ := hwaits.log
  have hready : (irisHelperBuffersDone .output .error t).ready .capture = s.ready .capture :=
    (helperBuffersDone_others (by decide) _ _ _).trans hwaits.ready
  refine ⟨suffix ++ ((t.ready .output).map fun k => .done .output k .error none) ++
    (s.ready .capture).map fun k => .done .capture k .error none, ?_, ?_⟩
  · rw [returnAllBuffers, irisHelperBuffersDone_log, irisHelperBuffersDone_log, hready, hlog]
    simp only [List.append_assoc]
  · exact List.mem_append_right _ (List.mem_map_of_mem hlisted)

/-- The waits of `session_stop` give no CAPTURE buffer back, but what follows them does. -/
theorem sessionStop_backAsError {s t : Inst} (hwaits : Waits .capture s t)
    (hstop : stopReturnsAll t = true) (env : InstEnv) {i : Nat}
    (hlisted : i ∈ s.ready .capture) : BackAsError i s (sessionStop env t).2 := by
  unfold sessionStop
  cases hgen : t.gen with
  | gen2 => simp [stopReturnsAll, hgen] at hstop
  | gen1 =>
      simp only [irisHfiGen1SessionStop]
      cases hdomain : t.domain with
      | decoder =>
          simp only [stopReturnsAll, hgen, hdomain, Bool.and_eq_true] at hstop
          rw [if_neg hwaits.state, if_pos hstop.2.2]
          exact returnAllBuffers_backAsError (hwaits.sessionRelease env) hlisted
      | encoder =>
          refine returnAllBuffers_backAsError ?_ hlisted
          split_ifs
          · exact hwaits.sessionRelease env
          · exact hwaits

theorem streamonRollback_backAsError {s entry : Inst} (hwaits : Waits .capture s entry)
    (hstop : stopReturnsAll entry = true) (env : InstEnv) (ret : Int) {i : Nat}
    (hlisted : i ∈ s.ready .capture) : BackAsError i s (streamonRollback env ret entry).2 := by
  let Back (t : Inst) : Prop := BackAsError i s t
  have hsteps : ∀ {t u : Inst}, Back t → StreamSteps (fun _ => True) t u → Back u :=
    fun h hsteps => h.settles hsteps.settles
  have herror : ∀ (ret : Int) (t : Inst), Back t →
      Back (ret, irisFlushDeferredBuffers .capture (irisKillSession t)).2 := fun _ t h =>
    hsteps h (((StreamSteps.refl t).killSession trivial).flushDeferred _ _)
  have hstart : Waits .capture s
      { entry with startStreamingRollbackType := some .capture, streamoffPending := true } :=
    hwaits.same rfl rfl rfl rfl hwaits.state
  have hoff : Back (irisSessionStreamoff env .capture
      { entry with startStreamingRollbackType := some .capture }).2 := by
    unfold irisSessionStreamoff
    refine orGoto_keep (Q := Back) (P := fun r : Int × Inst => Back r.2)
      (sessionStop_backAsError hstart hstop env hlisted) herror fun t h => ?_
    have hchanged : Back (irisInstStateChangeStreamoff .capture t).2 :=
      hsteps h ((StreamSteps.refl t).changeState _ fun _ => trivial)
    refine orGoto_keep (Q := Back) (P := fun r : Int × Inst => Back r.2) hchanged herror
      fun t h => ?_
    have hflushed : Back (irisFlushDeferredBuffers .capture t) :=
      hsteps h ((StreamSteps.refl t).flushDeferred _ _)
    simp only
    split_ifs with hinit
    · exact orGoto_value_rule (P := fun r : Int × Inst => Back r.2) (fun _ => hflushed) fun _ =>
        hsteps hflushed ((StreamSteps.refl _).hfiSessionClose (stable_true .capture) hinit env)
    · exact hflushed
  exact hoff

/-! ### How a start ends -/

/-- What a start that failed gave back before its own label, and what it gives back there. -/
theorem rolledBack_of_label {plane : Plane} {s t : Inst}
    (howned : ∀ i, driverOwns s.log plane i = true → i ∈ s.ready plane)
    (honly : Grows (OnlyQueued plane) s.log t.log)
    (hreturned : ∀ suffix, t.log = s.log ++ suffix → ∀ i ∈ s.ready plane,
      i ∈ t.ready plane ∨ ∃ state payload, .done plane i state payload ∈ suffix) :
    RolledBack plane s (irisHelperBuffersDone plane .queued t).enterError := by
  obtain ⟨suffix, hlog, hsuffix⟩ := honly
  rw [enterError_eq]
  refine ⟨suffix ++ (t.ready plane).map fun i => .done plane i .queued none, ?_, ?_, ?_⟩
  · rw [irisHelperBuffersDone_log, hlog, List.append_assoc]
  · intro i howns
    rcases hreturned suffix hlog i (howned i howns) with hlisted | ⟨state, payload, hback⟩
    · exact ⟨none, List.mem_append_right _ (List.mem_map_of_mem hlisted)⟩
    · obtain rfl := hsuffix _ hback i state payload rfl
      exact ⟨payload, List.mem_append_left _ hback⟩
  · intro i state payload hmem
    rcases List.mem_append.1 hmem with h | h
    · exact hsuffix _ h i state payload rfl
    · obtain ⟨k, -, heq⟩ := List.mem_map.1 h
      cases heq
      rfl

/-- How `iris_vb2_start_streaming` ends: it starts the queue, it fails with nothing given back and
nothing submitted to the firmware, or it rolls the CAPTURE stream-on back. -/
inductive StartEnd (env : InstEnv) (plane : Plane) (s : Inst) : Prop
  | started (hret : (irisVb2StartStreaming env plane s).1 = 0)
      (hentry : plane = .capture → rollbackEntry env s = none)
  | failed (t : Inst)
      (heq : (irisVb2StartStreaming env plane s).2 =
        (irisHelperBuffersDone plane .queued t).enterError)
      (hlog : Grows (NoneBack plane) s.log t.log) (hready : t.ready plane = s.ready plane)
      (hentry : plane = .capture → rollbackEntry env s = none)
  | rolledBack (ret : Int) (entry : Inst) (hplane : plane = .capture) (hret : ret ≠ 0)
      (hentry : rollbackEntry env s = some entry) (huntouched : Untouched .capture s entry)
      (hencoder : s.domain = .encoder → entry.state ≠ .streaming)
      (heq : irisVb2StartStreaming env .capture s =
        (ret,
          (irisHelperBuffersDone .capture .queued (streamonRollback env ret entry).2).enterError))

/-- The label `error` of `iris_vb2_start_streaming`. -/
def startError (plane : Plane) (ret : Int) (inst : Inst) : Int × Inst :=
  (ret, (irisHelperBuffersDone plane .queued inst).enterError)

theorem orGoto_failed {σ β : Type} {ret : Int} (hret : ret ≠ 0) (state : σ) (label : Int → σ → β)
    (next : σ → β) : orGoto (ret, state) label next = label ret state := if_pos hret

/-- The end of a start whose stream-on succeeded. -/
theorem StartEnd.of_streamon {env : InstEnv} {plane : Plane} {s t : Inst}
    (huntouched : Untouched plane s t) (hentry : plane = .capture → rollbackEntry env s = none)
    (heq : irisVb2StartStreaming env plane s =
      orGoto (startDeferred env plane t) (startError plane) fun inst => (0, inst)) :
    StartEnd env plane s := by
  obtain ⟨hgrows, hready⟩ := startDeferred_grows env plane plane t
  rcases hdeferred : startDeferred env plane t with ⟨ret, u⟩
  rw [hdeferred] at heq hgrows hready
  by_cases hret : ret = 0
  · subst hret
    exact .started (by rw [heq]; rfl) hentry
  · rw [orGoto_failed hret] at heq
    refine .failed u (by rw [heq]; rfl) (huntouched.log.trans hgrows) ?_ hentry
    exact (congrFun hready plane).trans huntouched.ready

theorem irisVb2StartStreaming_end {plane : Plane} {s : Inst} (hwaits : Waits plane s s)
    (env : InstEnv) : StartEnd env plane s := by
  by_cases herror : s.state = .error
  · refine .failed s ?_ (.refl _) rfl fun _ => if_pos herror
    simp only [irisVb2StartStreaming, if_pos herror]
  by_cases hsupported : env.ret .sessionSupported = 0
  swap
  · refine .failed s ?_ (.refl _) rfl fun _ => ?_
    · simp only [irisVb2StartStreaming, if_neg herror, orGoto_failed hsupported]
    · simp only [rollbackEntry, if_neg herror, orGoto_failed hsupported]
  have hopened := hwaits.hfiSessionOpen env
  rcases hopen : irisHfiSessionOpen env s with ⟨ret, opened⟩
  rw [hopen] at hopened
  by_cases hret : ret = 0
  swap
  · refine .failed opened ?_ hopened.log hopened.ready fun _ => ?_
    · simp only [irisVb2StartStreaming, if_neg herror, hsupported, orGoto_zero, hopen,
        orGoto_failed hret]
    · simp only [rollbackEntry, if_neg herror, hsupported, orGoto_zero, hopen,
        orGoto_failed hret]
  subst hret
  have hstart : irisVb2StartStreaming env plane s =
      orGoto (plane.casesOn (irisStreamonInput env opened) (irisStreamonOutput env opened))
        (startError plane) fun inst =>
      orGoto (startDeferred env plane inst) (startError plane) fun inst => (0, inst) := by
    simp only [irisVb2StartStreaming, if_neg herror, hsupported, orGoto_zero, hopen]
    cases plane <;> rfl
  cases plane with
  | output =>
      have hstreamed := hopened.streamonInput env
      rcases hstreamon : irisStreamonInput env opened with ⟨ret, t⟩
      rw [hstreamon] at hstreamed
      simp only [hstreamon] at hstart
      by_cases hret : ret = 0
      · subst hret
        exact .of_streamon hstreamed (fun h => by cases h) hstart
      · rw [orGoto_failed hret] at hstart
        exact .failed t (by rw [hstart]; rfl) hstreamed.log hstreamed.ready fun h => by cases h
  | capture =>
      have hsound := hopened.streamonOutcome env
      have hentry : rollbackEntry env s = (streamonOutcome env opened).elim (fun _ _ => none)
          (fun _ inst => some inst) fun _ => none := by
        simp only [rollbackEntry, if_neg herror, hsupported, orGoto_zero, hopen]
        exact streamonOutput_outcome env _ _ _ opened
      have hstreamon : irisStreamonOutput env opened = (streamonOutcome env opened).elim giveUp
          (streamonRollback env) fun inst => (0, inst) := streamonOutput_outcome env _ _ _ opened
      simp only [hstreamon] at hstart
      cases houtcome : streamonOutcome env opened with
      | failed ret t =>
          rw [houtcome] at hsound hentry hstart
          obtain ⟨hret, huntouched⟩ := hsound
          rw [StreamonOutcome.elim, giveUp, orGoto_failed hret] at hstart
          exact .failed t (by rw [hstart]; rfl) huntouched.log huntouched.ready fun _ => hentry
      | rollback ret entry =>
          rw [houtcome] at hsound hentry hstart
          obtain ⟨hret, huntouched, hencoder⟩ := hsound
          rw [StreamonOutcome.elim, streamonRollback, orGoto_failed hret] at hstart
          exact .rolledBack ret entry rfl hret hentry huntouched hencoder hstart
      | started t =>
          rw [houtcome] at hsound hentry hstart
          exact .of_streamon hsound (fun _ => hentry) hstart

/-! ### Runs -/

theorem Fresh.ownsListed {inst : Inst} (hfresh : Fresh inst) : OwnsListed inst := by
  intro plane i howns
  rw [hfresh.log] at howns
  cases howns

/-- The instance in which a STREAMON calls `iris_vb2_start_streaming`. -/
theorem Fresh.waits {inst : Inst} (hfresh : Fresh inst) (ops : List Op) {plane : Plane}
    (hidle : (instAfter inst ops).streaming plane = false) (bufs : List (Nat × QbufData)) :
    Waits plane (vb2HandOver plane bufs (instAfter inst ops))
      (vb2HandOver plane bufs (instAfter inst ops)) := by
  have hplaced := hfresh.placed.instAfter ops
  have hstarting : Placed (· = plane) (instAfter inst ops) := hplaced.weaken fun _ h => h.elim
  refine ⟨⟨.refl _, rfl, Unsubmitted.handOver ?_ hidle bufs, rfl⟩, fun hstate => ?_⟩
  · intro i hi
    rw [hplaced.stopped plane id hidle] at hi
    cases hi
  · have htells := (hstarting.handOver rfl bufs).idle plane
    rw [vb2HandOver_streaming, hstate] at htells
    cases plane <;> cases htells hidle

/-- The rollback gives back as QUEUED unless `session_stop` returns every buffer, and there are
some. -/
theorem streamonRollback_onlyQueued {s entry : Inst} (huntouched : Untouched .capture s entry)
    (hstop : s.ready .capture = [] ∨ stopReturnsAll entry = false) (env : InstEnv) (ret : Int) :
    Grows (OnlyQueued .capture) s.log (streamonRollback env ret entry).2.log := by
  have hbefore : Grows (OnlyQueued .capture) s.log entry.log :=
    huntouched.log.mono NoneBack.onlyQueued
  refine hbefore.trans ?_
  rcases hstop with hnone | hstop
  · have hsteps : StreamSteps (fun _ => True) entry (streamonRollback env ret entry).2 :=
      .streamonRollback (stable_true .capture) env ret entry (.refl entry)
    exact (hsteps.settles.noneBack (huntouched.ready.trans hnone)).mono NoneBack.onlyQueued
  · have hrolls : Rolls .capture entry
        { entry with startStreamingRollbackType := some .capture } := ⟨rfl, .refl _⟩
    exact (hrolls.sessionStreamoff hstop env .capture).log

theorem streamonRollback_returned {s entry : Inst} (huntouched : Untouched .capture s entry)
    (env : InstEnv) (ret : Int) {suffix : List BufEvent}
    (hlog : (streamonRollback env ret entry).2.log = s.log ++ suffix) {i : Nat}
    (hlisted : i ∈ s.ready .capture) :
    i ∈ (streamonRollback env ret entry).2.ready .capture ∨
      ∃ state payload, .done .capture i state payload ∈ suffix := by
  have hsteps : StreamSteps (fun _ => True) entry (streamonRollback env ret entry).2 :=
    .streamonRollback (stable_true .capture) env ret entry (.refl entry)
  obtain ⟨before, hbefore, -⟩ := huntouched.log
  obtain ⟨after, hafter, hreturned⟩ := hsteps.settles.returned .capture
  rw [hafter, hbefore, List.append_assoc] at hlog
  rw [← List.append_cancel_left hlog]
  rcases hreturned i (huntouched.ready ▸ hlisted) with h | ⟨state, payload, h⟩
  · exact .inl h
  · exact .inr ⟨state, payload, List.mem_append_right _ h⟩

theorem stopReturnsAll_state {s entry : Inst} (hdomain : entry.domain = s.domain)
    (hencoder : s.domain = .encoder → entry.state ≠ .streaming)
    (hstop : stopReturnsAll entry = true) : entry.state ≠ .streaming := by
  cases hcase : entry.domain with
  | encoder => exact hencoder (hdomain ▸ hcase)
  | decoder =>
      simp only [stopReturnsAll, hcase, Bool.and_eq_true, bne_iff_ne] at hstop
      exact hstop.2.1

/-- **A failed start gives its buffers back as QUEUED**, unless it rolls a CAPTURE stream-on back
through the branch of the first generation that returns every buffer. -/
theorem start_rolls_back_iff {inst : Inst} (hfresh : Fresh inst) (ops : List Op) {plane : Plane}
    (hidle : (instAfter inst ops).streaming plane = false) (bufs : List (Nat × QbufData))
    (env : InstEnv) :
    let entry := vb2HandOver plane bufs (instAfter inst ops)
    ((irisVb2StartStreaming env plane entry).1 ≠ 0 →
        RolledBack plane entry (irisVb2StartStreaming env plane entry).2) ↔
      ¬RollsBackAsError env plane entry := by
  intro s
  have hwaits : Waits plane s s := hfresh.waits ops hidle bufs
  have howned : ∀ i, driverOwns s.log plane i = true → i ∈ s.ready plane :=
    ((hfresh.ownsListed.instAfter ops).handOver plane bufs) plane
  cases irisVb2StartStreaming_end hwaits env with
  | started hret hentry =>
      refine iff_of_true (fun hne => absurd hret hne) ?_
      rintro ⟨hplane, -, entry, hsome, -⟩
      rw [hentry hplane] at hsome
      cases hsome
  | failed t heq hlog hready hentry =>
      refine iff_of_true (fun _ => ?_) ?_
      · rw [heq]
        exact rolledBack_of_label howned (hlog.mono NoneBack.onlyQueued)
          fun _ _ i hlisted => .inl (hready ▸ hlisted)
      · rintro ⟨hplane, -, entry, hsome, -⟩
        rw [hentry hplane] at hsome
        cases hsome
  | rolledBack ret entry hplane hret hentry huntouched hencoder heq =>
      subst hplane
      rw [heq]
      constructor
      · rintro hback ⟨-, hsome, entry', hentry', hstop⟩
        obtain rfl : entry = entry' := Option.some.inj (hentry.symm.trans hentry')
        obtain ⟨i, hlisted⟩ := List.exists_mem_of_ne_nil _ hsome
        have hentered : Waits .capture s entry :=
          ⟨huntouched, stopReturnsAll_state huntouched.domain hencoder hstop⟩
        have hlabel : Settles (fun _ => True) (streamonRollback env ret entry).2
            (irisHelperBuffersDone .capture .queued
              (streamonRollback env ret entry).2).enterError :=
          ((Settles.refl _).buffersDone .capture .queued).enterError trivial
        have herror := (streamonRollback_backAsError hentered hstop env ret hlisted).settles hlabel
        exact herror.not_rolledBack (hback hret)
      · intro hgood _
        have hstop : s.ready .capture = [] ∨ stopReturnsAll entry = false := by
          by_contra hboth
          rw [not_or, Bool.not_eq_false] at hboth
          exact hgood ⟨rfl, hboth.1, entry, hentry, hboth.2⟩
        exact rolledBack_of_label howned (streamonRollback_onlyQueued huntouched hstop env ret)
          fun _ hlog _ hlisted => streamonRollback_returned huntouched env ret hlog hlisted

/-- An OUTPUT start whose only buffer does not fit into the command queue. -/
theorem start_rolls_back_refused :
    let entry := vb2HandOver .output [(0, frameData)] (openedDecoder .gen1 .h264 true)
    let env := { undisturbed with queueRet := fun _ _ => -enodata }
    RolledBack .output entry (irisVb2StartStreaming env .output entry).2 := by
  refine (start_rolls_back_iff (openedDecoder_fresh _ _ _) [] rfl _ _).2 ?_ (by decide)
  rintro ⟨hplane, -⟩
  cases hplane

/-- The first sequence header pauses the input of a decoder whose OUTPUT queue is streaming. -/
def firstSequence : List Op :=
  [.streamon undisturbed .output [(0, frameData)],
    .event (.gen1 (.seqChanged
      { valid := true, unsupported := false, initialFits := false,
        resumeRet := 0, flushRet := 0 }))]

/-- The command that resumes the input does not fit into the command queue. -/
def resumeFails : InstEnv :=
  { undisturbed with ret := fun call => if call = .resumeDrc then -enodata else 0 }

theorem not_rolledBack_resumeFails :
    let entry := vb2HandOver .capture [(0, frameData)]
      (instAfter (openedDecoder .gen1 .h264 true) firstSequence)
    (irisVb2StartStreaming resumeFails .capture entry).1 ≠ 0 ∧
      ¬RolledBack .capture entry (irisVb2StartStreaming resumeFails .capture entry).2 := by
  refine ⟨by decide, ?_⟩
  rintro ⟨suffix, hlog, -, honly⟩
  have hsuffix : suffix = (irisVb2StartStreaming resumeFails .capture
      (vb2HandOver .capture [(0, frameData)]
        (instAfter (openedDecoder .gen1 .h264 true) firstSequence))).2.log.drop
          (vb2HandOver .capture [(0, frameData)]
            (instAfter (openedDecoder .gen1 .h264 true) firstSequence)).log.length := by
    rw [hlog, List.drop_left]
  have herror : .done .capture 0 .error none ∈ suffix := by
    rw [hsuffix]
    decide
  cases honly 0 .error none herror

end NabuIris
