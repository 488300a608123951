import NabuIris.Proof.Custody

/-!
# What the streaming functions are made of

Every streaming function is a sequence of the moves of `StreamSteps`. The functions are taken apart
here only; what the development knows of whole runs it gets by induction on the moves.
-/

namespace NabuIris

/-- `t` differs from `s` in the fields that say how far streaming has got. -/
def Quiet (s t : Inst) : Prop :=
  t = { s with
    state := t.state
    subState := t.subState
    hfiSessionOpened := t.hfiSessionOpened
    pendingOutput := t.pendingOutput
    lastBufferDequeued := t.lastBufferDequeued
    streamoffPending := t.streamoffPending
    flushResponsesPending := t.flushResponsesPending
    corruptOutputDrops := t.corruptOutputDrops }

inductive StreamSteps (keep : InstState → Prop) : Inst → Inst → Prop
  | quiet {s t : Inst} (hquiet : Quiet s t) (hkeep : keep s.state → keep t.state) :
      StreamSteps keep s t
  | event {s : Inst} (event : Event) (herror : keep .error) :
      StreamSteps keep s (handleEvent event s)
  | submit {s : Inst} (plane : Plane) (i : Nat) :
      StreamSteps keep s (irisQueueBuffer 0 plane i s).2
  | flush {s : Inst} (plane : Plane) (i : Nat) (buf : IrisBuffer) :
      StreamSteps keep s (irisVb2BufferDone plane i (s.setBuf plane i buf)).2
  | back {s : Inst} {plane : Plane} {i : Nat} (state : Vb2State) (hlisted : i ∈ s.ready plane) :
      StreamSteps keep s (v4l2M2mBufDone plane i state none (v4l2M2mBufRemove plane i s))
  /-- what a stream-on does under its rollback type -/
  | rollback {s t : Inst}
      (hsteps : StreamSteps keep { s with startStreamingRollbackType := some .capture } t) :
      StreamSteps keep s { t with startStreamingRollbackType := none }
  | trans {s t u : Inst} (hfirst : StreamSteps keep s t) (hsecond : StreamSteps keep t u) :
      StreamSteps keep s u

variable {keep : InstState → Prop} {start inst s t : Inst}

namespace StreamSteps

theorem refl (s : Inst) : StreamSteps keep s s := .quiet rfl id

theorem same (hsteps : StreamSteps keep start inst) (hquiet : Quiet inst t)
    (hstate : t.state = inst.state) : StreamSteps keep start t :=
  hsteps.trans (.quiet hquiet fun h => hstate ▸ h)

theorem settles (hsteps : StreamSteps keep s t) : Settles keep s t := by
  induction hsteps with
  | quiet hquiet hkeep => exact .quiet (by rw [hquiet]) (by rw [hquiet]) (by rw [hquiet]) hkeep
  | event event herror => exact (handleEvent_steps event _).settles herror
  | submit plane i => exact (Settles.refl _).queueBuffer 0 plane i
  | flush plane i buf => exact ((Settles.refl _).setBuf plane i buf).bufferDone plane i
  | back state hlisted => exact .back hlisted rfl rfl rfl id
  | @rollback s t _ ih =>
      have hbefore : Settles keep s { s with startStreamingRollbackType := some .capture } :=
        .quiet rfl rfl rfl id
      exact (hbefore.trans ih).same rfl rfl rfl rfl
  | trans _ _ hfirst hsecond => exact hfirst.trans hsecond

theorem keeps (hsteps : StreamSteps keep s t) (hkeep : keep s.state) : keep t.state :=
  hsteps.settles.keeps hkeep

/-! ### Buffers -/

theorem applyIf {change : Inst → Inst} (cond : Bool) (hsteps : StreamSteps keep start inst)
    (hchange : StreamSteps keep start inst → StreamSteps keep start (change inst)) :
    StreamSteps keep start (inst.applyIf cond change) :=
  applyIf_keep cond hsteps hchange

theorem enterError (herror : keep .error) (hsteps : StreamSteps keep start inst) :
    StreamSteps keep start inst.enterError := by
  rw [enterError_eq]
  exact hsteps.trans (.quiet rfl fun _ => herror)

theorem changeSubState (hsteps : StreamSteps keep start inst) (clear set : SubState) :
    StreamSteps keep start (irisInstChangeSubState clear set inst).2 := by
  unfold irisInstChangeSubState
  split_ifs
  · exact hsteps
  · exact hsteps
  · exact hsteps
  · exact hsteps
  · exact hsteps.same rfl rfl

theorem queueDeferred (hsteps : StreamSteps keep start inst) (ret : Nat → Int) (plane : Plane)
    (indices : List Nat) : StreamSteps keep start (queueDeferred ret plane indices inst).2 := by
  induction indices generalizing inst with
  | nil => exact hsteps
  | cons i rest ih =>
      rw [queueDeferred_cons]
      split_ifs
      · exact ih (hsteps.trans (.submit plane i))
      · exact hsteps
      · exact ih hsteps

theorem helperBuffersDone {plane : Plane} {indices : List Nat}
    (hsteps : StreamSteps keep start inst) (hready : inst.ready plane = indices)
    (state : Vb2State) : StreamSteps keep start (helperBuffersDone plane state indices inst) := by
  induction indices generalizing inst with
  | nil => exact hsteps
  | cons i rest ih =>
      have hlisted : i ∈ inst.ready plane := by simp [hready]
      refine ih (hsteps.trans (.back state hlisted)) ?_
      simp [v4l2M2mBufDone, v4l2M2mBufRemove, Inst.record, Inst.setReady, hready]

theorem buffersDone (hsteps : StreamSteps keep start inst) (plane : Plane) (state : Vb2State) :
    StreamSteps keep start (irisHelperBuffersDone plane state inst) :=
  hsteps.helperBuffersDone rfl state

theorem flushDeferred (hsteps : StreamSteps keep start inst) (plane : Plane)
    (indices : List Nat) : StreamSteps keep start (flushDeferred plane indices inst) := by
  induction indices generalizing inst with
  | nil => exact hsteps
  | cons i rest ih =>
      rw [NabuIris.flushDeferred]
      simp only
      split_ifs
      · exact ih (hsteps.trans (.flush plane i _))
      · exact ih hsteps

end StreamSteps

/-! ### Events and waits -/

section

namespace StreamSteps

theorem orGoto {call : Int × Inst} {label : Int → Inst → Int × Inst} {next : Inst → Int × Inst}
    (hcall : StreamSteps keep start call.2)
    (hlabel : ∀ ret inst, StreamSteps keep start inst → StreamSteps keep start (label ret inst).2)
    (hnext : ∀ inst, StreamSteps keep start inst → StreamSteps keep start (next inst).2) :
    StreamSteps keep start (orGoto call label next).2 :=
  orGoto_keep (Q := StreamSteps keep start) (P := fun r : Int × Inst => StreamSteps keep start r.2)
    hcall hlabel hnext

theorem giveUp (ret : Int) (inst : Inst) (hsteps : StreamSteps keep start inst) :
    StreamSteps keep start (giveUp ret inst).2 := hsteps

variable (herror : keep .error)
include herror

theorem events (hsteps : StreamSteps keep start inst) (events : List Event) :
    StreamSteps keep start (handleEvents events inst) := by
  unfold handleEvents
  induction events generalizing inst with
  | nil => exact hsteps
  | cons event rest ih => exact ih (hsteps.trans (.event event herror))

theorem wait (hsteps : StreamSteps keep start inst) (env : InstEnv) (call : InstCall) :
    StreamSteps keep start (irisWaitForSessionResponse env call inst).2 := by
  unfold irisWaitForSessionResponse
  simp only
  split_ifs
  · exact (hsteps.events herror _).enterError herror
  · exact hsteps.events herror _

theorem sessionCommand (hsteps : StreamSteps keep start inst) (env : InstEnv) (call : InstCall) :
    StreamSteps keep start (sessionCommand env call inst).2 :=
  orGoto hsteps giveUp fun _ h => h.wait herror env call

theorem sessionRelease (hsteps : StreamSteps keep start inst) (env : InstEnv) :
    StreamSteps keep start (sessionRelease env inst).2 :=
  ((hsteps.sessionCommand herror env _).sessionCommand herror env _).changeSubState _ _

theorem sessionStop (hsteps : StreamSteps keep start inst) (env : InstEnv) :
    StreamSteps keep start (sessionStop env inst).2 := by
  unfold NabuIris.sessionStop
  cases inst.gen with
  | gen2 => exact hsteps.sessionCommand herror env _
  | gen1 =>
      simp only [irisHfiGen1SessionStop]
      cases inst.domain with
      | decoder =>
          simp only
          split_ifs
          · refine orGoto hsteps giveUp fun inst h => wait herror ?_ env _
            exact h.same rfl rfl
          · exact ((hsteps.sessionRelease herror env).buffersDone _ _).buffersDone _ _
          · exact hsteps
      | encoder =>
          refine buffersDone (buffersDone ?_ _ _) _ _
          split_ifs
          · exact hsteps.sessionRelease herror env
          · exact hsteps

theorem sessionStart (hsteps : StreamSteps keep start inst) (env : InstEnv) (plane : Plane) :
    StreamSteps keep start (sessionStart env plane inst).2 := by
  unfold NabuIris.sessionStart
  cases inst.gen with
  | gen2 => exact hsteps
  | gen1 =>
      cases plane with
      | capture => exact hsteps
      | output =>
          simp only [irisHfiGen1SessionStart]
          split_ifs
          · exact hsteps
          · exact orGoto (hsteps.sessionCommand herror env _) giveUp fun inst h =>
              orGoto (h.sessionCommand herror env _) giveUp fun inst h => h.changeSubState _ _

end StreamSteps

end

/-! ### Sessions and streaming -/

/-- What `keep` has to satisfy for the streaming functions of `plane` to stay in it. -/
structure Stable (keep : InstState → Prop) (plane : Plane) : Prop where
  error : keep .error
  opened : keep .deinit → keep .init
  closed : keep .init → keep .deinit
  streamon : ∀ inst : Inst,
    keep inst.state → keep (irisInstStateChangeStreamon plane inst).2.state
  streamoff : ∀ inst : Inst,
    keep inst.state → keep (irisInstStateChangeStreamoff plane inst).2.state

theorem irisInstChangeState_frame (requestState : InstState) (inst : Inst) :
    ∃ state, (irisInstChangeState requestState inst).2 = { inst with state } := by
  unfold irisInstChangeState
  split_ifs
  · exact ⟨inst.state, rfl⟩
  · exact ⟨inst.state, rfl⟩
  · exact ⟨_, rfl⟩
  · exact ⟨inst.state, rfl⟩
  · exact ⟨_, rfl⟩

theorem irisInstChangeState_init (inst : Inst)
    (hstate : inst.state = .deinit ∨ inst.state = .error) :
    irisInstChangeState .init inst =
      (0, { inst with state := if inst.state = .deinit then .init else .error }) := by
  cases inst with
  | mk => rcases hstate with rfl | rfl <;> rfl

theorem irisInstChangeState_deinit (inst : Inst) (hstate : inst.state = .init) :
    irisInstChangeState .deinit inst = (0, { inst with state := .deinit }) := by
  cases inst with
  | mk => cases hstate; rfl

namespace StreamSteps

variable {keep : InstState → Prop} {plane : Plane} {start inst : Inst}

theorem changeState (hsteps : StreamSteps keep start inst) (requestState : InstState)
    (hkeep : keep inst.state → keep (irisInstChangeState requestState inst).2.state) :
    StreamSteps keep start (irisInstChangeState requestState inst).2 := by
  obtain ⟨state, heq⟩ := irisInstChangeState_frame requestState inst
  rw [heq] at hkeep ⊢
  exact hsteps.trans (.quiet rfl hkeep)

theorem sessionOpen (herror : keep .error) (hsteps : StreamSteps keep start inst) (env : InstEnv) :
    StreamSteps keep start (sessionOpen env inst).2 := by
  unfold NabuIris.sessionOpen
  split_ifs
  · exact hsteps
  · cases inst.gen with
    | gen1 => exact hsteps.sessionCommand herror env _
    | gen2 => exact hsteps

/-- A session that was opened was not there before, and waiting for it can only fail. -/
theorem sessionOpen_state (env : InstEnv) (inst : Inst)
    (hret : (NabuIris.sessionOpen env inst).1 = 0) :
    (NabuIris.sessionOpen env inst).2.state = .deinit ∨
      (NabuIris.sessionOpen env inst).2.state = .error := by
  have hstays : StreamSteps (fun state => state = .deinit ∨ state = .error) inst
      (NabuIris.sessionOpen env inst).2 := sessionOpen (.inr rfl) (.refl inst) env
  refine hstays.keeps (.inl ?_)
  by_contra hstate
  rw [NabuIris.sessionOpen, if_pos hstate] at hret
  have hzero : -ealready = 0 := hret
  exact absurd hzero (by decide)

theorem hfiSessionOpen (hstable : Stable keep plane) (hsteps : StreamSteps keep start inst)
    (env : InstEnv) : StreamSteps keep start (irisHfiSessionOpen env inst).2 := by
  unfold irisHfiSessionOpen
  split_ifs
  · exact hsteps
  · refine orGoto hsteps giveUp fun inst hsteps => ?_
    have hopen : StreamSteps keep start
        (NabuIris.sessionOpen env { inst with hfiSessionOpened := true }).2 := by
      refine sessionOpen hstable.error ?_ env
      exact hsteps.same rfl rfl
    refine orGoto_rule (P := fun r : Int × Inst => StreamSteps keep start r.2) ?_ ?_
    · intro ret opened heq _
      rw [heq] at hopen
      exact hopen.same rfl rfl
    · intro opened heq
      have hstate := sessionOpen_state env _ (by rw [heq])
      rw [heq] at hopen hstate
      split_ifs with herr
      · exact hopen.same rfl rfl
      · have hdeinit : opened.state = .deinit := hstate.resolve_right herr
        rw [irisInstChangeState_init opened hstate, if_pos hdeinit, orGoto_zero]
        exact hopen.trans (.quiet rfl fun h => hstable.opened (hdeinit ▸ h))

theorem sessionClosing (hstable : Stable keep plane) (hsteps : StreamSteps keep start inst)
    (hstate : inst.state = .init) (env : InstEnv) :
    StreamSteps keep start (sessionClosing env inst).2 := by
  have hclose : StreamSteps keep start (NabuIris.sessionCommand env .sessionClose inst).2 :=
    hsteps.sessionCommand hstable.error env _
  have hstays : StreamSteps (fun state => state = .init ∨ state = .error) inst
      (NabuIris.sessionCommand env .sessionClose inst).2 :=
    (StreamSteps.refl inst).sessionCommand (.inr rfl) env _
  have hleft := hstays.keeps (.inl hstate)
  refine orGoto_rule (P := fun r : Int × Inst => StreamSteps keep start r.2) ?_ ?_
  · intro ret closed heq _
    rw [heq] at hclose
    exact hclose
  · intro closed heq
    rw [heq] at hclose hleft
    split_ifs with hfailed hopen
    · exact hclose
    · have hinit : closed.state = .init := hleft.resolve_right hopen
      rw [irisInstChangeState_deinit closed hinit]
      exact hclose.trans (.quiet rfl fun h => hstable.closed (hinit ▸ h))
    · exact hclose

theorem hfiSessionClose (hstable : Stable keep plane) (hsteps : StreamSteps keep start inst)
    (hstate : inst.state = .init) (env : InstEnv) :
    StreamSteps keep start (irisHfiSessionClose env inst).2 := by
  unfold irisHfiSessionClose
  split_ifs
  · exact hsteps
  · exact (hsteps.sessionClosing hstable hstate env).same rfl rfl

theorem killSession (herror : keep .error) (hsteps : StreamSteps keep start inst) :
    StreamSteps keep start (irisKillSession inst) := by
  unfold irisKillSession
  split_ifs
  · exact hsteps
  · exact hsteps.enterError herror

theorem sessionStreamoff (hstable : Stable keep plane) (hsteps : StreamSteps keep start inst)
    (env : InstEnv) : StreamSteps keep start (irisSessionStreamoff env plane inst).2 := by
  have hfail : ∀ (ret : Int) (inst : Inst), StreamSteps keep start inst →
      StreamSteps keep start
        (ret, irisFlushDeferredBuffers plane (irisKillSession inst)).2 := fun _ _ h =>
    (h.killSession hstable.error).flushDeferred _ _
  unfold irisSessionStreamoff
  refine orGoto ?_ hfail fun inst h => ?_
  · refine sessionStop hstable.error ?_ env
    exact hsteps.same rfl rfl
  refine orGoto (h.changeState _ (hstable.streamoff _)) hfail fun inst h => ?_
  have hflushed : StreamSteps keep start (irisFlushDeferredBuffers plane inst) :=
    h.flushDeferred _ _
  simp only
  split_ifs with hinit
  · refine orGoto_value_rule (P := fun r : Int × Inst => StreamSteps keep start r.2)
      (fun _ => hflushed) fun _ => ?_
    exact hflushed.hfiSessionClose hstable hinit env
  · exact hflushed

theorem waitingCall (herror : keep .error) (hsteps : StreamSteps keep start inst) (env : InstEnv)
    (call : InstCall) : StreamSteps keep start (waitingCall env call inst).2 :=
  hsteps.events herror _

theorem processStreamonInput (hstable : Stable keep .output) (hsteps : StreamSteps keep start inst)
    (env : InstEnv) : StreamSteps keep start (irisProcessStreamonInput env inst).2 := by
  unfold irisProcessStreamonInput
  refine orGoto ?_ giveUp fun inst h => ?_
  · refine sessionStart hstable.error ?_ env _
    exact hsteps.same rfl rfl
  refine orGoto ?_ giveUp fun inst h => ?_
  · split_ifs
    · exact h.changeSubState _ _
    · exact h
  refine orGoto h giveUp fun inst h => ?_
  refine orGoto (h.changeState _ (hstable.streamon _)) giveUp fun inst h => ?_
  refine changeSubState ?_ _ _
  exact h.same rfl rfl

theorem processStreamonOutput (hstable : Stable keep .capture)
    (hsteps : StreamSteps keep start inst) (env : InstEnv) :
    StreamSteps keep start (irisProcessStreamonOutput env inst).2 := by
  unfold irisProcessStreamonOutput
  refine orGoto ?_ giveUp fun inst h => ?_
  · split_ifs
    · exact orGoto (hsteps.waitingCall hstable.error env _) giveUp fun _ h => h
    · exact hsteps
  refine orGoto h giveUp fun inst h => ?_
  refine orGoto (h.sessionStart hstable.error env _) giveUp fun inst h => ?_
  refine orGoto (h.changeState _ (hstable.streamon _)) giveUp fun inst h => ?_
  refine changeSubState ?_ _ _
  exact h.same rfl rfl

theorem streamonInput (hstable : Stable keep .output) (hsteps : StreamSteps keep start inst)
    (env : InstEnv) : StreamSteps keep start (irisStreamonInput env inst).2 := by
  unfold irisStreamonInput
  cases inst.domain with
  | decoder =>
      refine orGoto ?_ giveUp fun inst h => ?_
      · refine waitingCall hstable.error ?_ env _
        exact hsteps.same rfl rfl
      exact orGoto h giveUp fun _ h => h.processStreamonInput hstable env
  | encoder =>
      refine orGoto (hsteps.waitingCall hstable.error env _) giveUp fun inst h => ?_
      exact orGoto h giveUp fun _ h => h.processStreamonInput hstable env

theorem streamonRollback (hstable : Stable keep .capture) (env : InstEnv) (ret : Int)
    (inst : Inst) (hsteps : StreamSteps keep start inst) :
    StreamSteps keep start (streamonRollback env ret inst).2 :=
  hsteps.trans (.rollback ((StreamSteps.refl _).sessionStreamoff hstable env))

theorem streamonOutput (hstable : Stable keep .capture) (hsteps : StreamSteps keep start inst)
    (env : InstEnv) : StreamSteps keep start (irisStreamonOutput env inst).2 := by
  have hrollback : ∀ (ret : Int) (inst : Inst), StreamSteps keep start inst →
      StreamSteps keep start (NabuIris.streamonRollback env ret inst).2 :=
    streamonRollback hstable env
  unfold irisStreamonOutput NabuIris.streamonOutput
  cases inst.domain with
  | decoder =>
      refine orGoto ?_ giveUp fun inst h => ?_
      · refine waitingCall hstable.error ?_ env _
        exact hsteps.same rfl rfl
      refine orGoto h giveUp fun inst h => ?_
      refine orGoto (h.processStreamonOutput hstable env) hrollback fun inst h => ?_
      exact orGoto h hrollback fun _ h => h
  | encoder =>
      refine orGoto (hsteps.waitingCall hstable.error env _) hrollback fun inst h => ?_
      refine orGoto h giveUp fun inst h => ?_
      refine orGoto h hrollback fun inst h => ?_
      exact orGoto (h.processStreamonOutput hstable env) hrollback fun _ h => h

theorem startDeferred (hsteps : StreamSteps keep start inst) (env : InstEnv) (plane : Plane) :
    StreamSteps keep start (startDeferred env plane inst).2 := by
  unfold NabuIris.startDeferred
  cases inst.domain with
  | decoder =>
      refine orGoto ?_ giveUp fun inst h => ?_
      · cases plane with
        | output => exact hsteps.queueDeferred _ _ _
        | capture => exact hsteps
      split_ifs
      · exact orGoto h giveUp fun _ h => h.queueDeferred _ _ _
      · exact h
  | encoder =>
      simp only
      split_ifs
      · exact orGoto (hsteps.queueDeferred _ _ _) giveUp fun _ h => h.queueDeferred _ _ _
      · exact hsteps

theorem startStreaming (hstable : Stable keep plane) (hsteps : StreamSteps keep start inst)
    (env : InstEnv) : StreamSteps keep start (irisVb2StartStreaming env plane inst).2 := by
  have hfail : ∀ (ret : Int) (inst : Inst), StreamSteps keep start inst →
      StreamSteps keep start (ret, (irisHelperBuffersDone plane .queued inst).enterError).2 :=
    fun _ _ h => (h.buffersDone plane .queued).enterError hstable.error
  unfold irisVb2StartStreaming
  simp only
  split_ifs
  · exact hfail _ _ hsteps
  refine orGoto hsteps hfail fun inst h => ?_
  refine orGoto (h.hfiSessionOpen hstable env) hfail fun inst h => ?_
  refine orGoto ?_ hfail fun inst h => ?_
  · cases plane with
    | output => exact h.streamonInput hstable env
    | capture => exact h.streamonOutput hstable env
  exact orGoto (h.startDeferred env plane) hfail fun _ h => h

theorem queueSetup (hstable : Stable keep plane) (hsteps : StreamSteps keep start inst)
    (env : InstEnv) : StreamSteps keep start (irisVb2QueueSetup env inst).2 := by
  unfold irisVb2QueueSetup
  split_ifs
  · exact hsteps
  · exact orGoto hsteps giveUp fun _ h => h.hfiSessionOpen hstable env

theorem stopStreaming (hstable : Stable keep plane) (hsteps : StreamSteps keep start inst)
    (env : InstEnv) : StreamSteps keep start (irisVb2StopStreaming env plane inst) := by
  unfold irisVb2StopStreaming
  split_ifs
  · exact hsteps
  · refine applyIf _ ?_ fun h => h.enterError hstable.error
    refine buffersDone (sessionStreamoff hstable ?_ env) _ _
    exact hsteps.applyIf _ fun h => h.same rfl rfl

end StreamSteps

end NabuIris
