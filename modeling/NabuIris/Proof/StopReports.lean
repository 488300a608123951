import NabuIris.Proof.Queues

/-!
# What a failed stop reports (`iris_hfi_gen1_command.c`, `iris_common.c`)

`iris_hfi_gen1_session_stop` keeps the results of its commands in one variable. What it returns is
therefore the result of the last command that it sent, and a STOP that failed is forgotten when
RELEASE_RESOURCES after it is answered.
-/

namespace NabuIris

variable {env : InstEnv} {call : InstCall} {inst : Inst} {plane : Plane}

/-- Written to the command queue and answered in time. -/
def Answered (env : InstEnv) (call : InstCall) : Prop :=
  env.ret call = 0 ∧ env.timedOut call = false

instance : Decidable (Answered env call) := inferInstanceAs (Decidable (_ ∧ _))

/-- `iris_hfi_gen1_session_stop` stops the session itself, not only the flow of its buffers. -/
def stopsSession (inst : Inst) : Bool :=
  match inst.domain with
  | .decoder => inst.state != .streaming && hasFlag inst.subState subLoadResources
  | .encoder =>
      inst.state == .streaming || inst.state == .inputStreaming || inst.state == .error

/-- What `iris_hfi_gen1_session_stop` sends, in order. -/
def gen1StopCommands (inst : Inst) : List InstCall :=
  if inst.domain = .decoder ∧ inst.state = .streaming then [.sessionFlush]
  else if stopsSession inst then [.sessionStop, .releaseResources]
  else []

/-- What a command leaves in `ret`. -/
def commandRet (env : InstEnv) (call : InstCall) : Int :=
  if env.ret call ≠ 0 then env.ret call else if env.timedOut call then -etimedout else 0

theorem commandRet_eq_zero : commandRet env call = 0 ↔ Answered env call := by
  unfold commandRet Answered
  split_ifs with hret htimeout
  · exact iff_of_false hret fun h => hret h.1
  · exact iff_of_false (by decide) fun h => by simp [htimeout] at h
  · exact iff_of_true rfl ⟨not_not.1 hret, by simpa using htimeout⟩

theorem irisWaitForSessionResponse_ret (env : InstEnv) (call : InstCall) (inst : Inst) :
    (irisWaitForSessionResponse env call inst).1 =
      if env.timedOut call then -etimedout else 0 := by
  unfold irisWaitForSessionResponse
  cases env.timedOut call <;> rfl

/-- A command is written, and what follows waits for its response. -/
theorem orGoto_write_ret {next : Inst → Int × Inst}
    (hnext : (next inst).1 = if env.timedOut call then -etimedout else 0) :
    (orGoto (env.ret call, inst) giveUp next).1 = commandRet env call := by
  unfold orGoto commandRet
  by_cases hret : env.ret call = 0
  · simp only [hret, ne_eq, not_true_eq_false, if_false]
    exact hnext
  · simp only [ne_eq, hret, not_false_eq_true, if_true]
    rfl

theorem sessionCommand_ret (env : InstEnv) (call : InstCall) (inst : Inst) :
    (sessionCommand env call inst).1 = commandRet env call :=
  orGoto_write_ret (irisWaitForSessionResponse_ret env call inst)

theorem sessionRelease_ret (env : InstEnv) (inst : Inst) :
    (sessionRelease env inst).1 = commandRet env .releaseResources :=
  sessionCommand_ret env .releaseResources _

theorem irisHfiGen1SessionStop_flush (hflush : inst.domain = .decoder ∧ inst.state = .streaming) :
    irisHfiGen1SessionStop env inst =
      orGoto (env.ret .sessionFlush, inst) giveUp fun inst =>
        irisWaitForSessionResponse env .sessionFlush
          { inst with flushResponsesPending := inst.flushResponsesPending + 1 } := by
  rw [irisHfiGen1SessionStop, hflush.1]
  exact if_pos hflush.2

theorem irisHfiGen1SessionStop_stop
    (hflush : ¬(inst.domain = .decoder ∧ inst.state = .streaming)) :
    (irisHfiGen1SessionStop env inst).1 =
      if stopsSession inst then (sessionRelease env inst).1 else 0 := by
  unfold irisHfiGen1SessionStop stopsSession
  cases hdomain : inst.domain with
  | decoder =>
      have hstreaming : inst.state ≠ .streaming := fun h => hflush ⟨hdomain, h⟩
      simp only [if_neg hstreaming, bne_iff_ne.2 hstreaming, Bool.true_and]
      split_ifs <;> rfl
  | encoder =>
      simp only [Bool.or_eq_true, beq_iff_eq, or_assoc]
      split_ifs <;> rfl

/-- `ret` holds the result of the last command only. -/
theorem irisHfiGen1SessionStop_ret (env : InstEnv) (inst : Inst) :
    (irisHfiGen1SessionStop env inst).1 =
      ((gen1StopCommands inst).getLast?.map (commandRet env)).getD 0 := by
  by_cases hflush : inst.domain = .decoder ∧ inst.state = .streaming
  · rw [irisHfiGen1SessionStop_flush hflush, gen1StopCommands, if_pos hflush]
    exact orGoto_write_ret (irisWaitForSessionResponse_ret env .sessionFlush _)
  · rw [irisHfiGen1SessionStop_stop hflush, gen1StopCommands, if_neg hflush]
    split_ifs
    · exact sessionRelease_ret env inst
    · rfl

/-- `iris_session_streamoff` with its label `error` left open. -/
def streamoffTo {β : Type} (env : InstEnv) (plane : Plane) (error : Int → Inst → β)
    (done : Inst → β) (inst : Inst) : β :=
  orGoto (sessionStop env { inst with streamoffPending := true }) error fun inst =>
  orGoto (irisInstStateChangeStreamoff plane inst) error done

theorem irisSessionStreamoff_eq (env : InstEnv) (plane : Plane) (inst : Inst) :
    irisSessionStreamoff env plane inst =
      streamoffTo env plane
        (fun ret inst => (ret, irisFlushDeferredBuffers plane (irisKillSession inst)))
        (fun inst =>
          let inst := irisFlushDeferredBuffers plane inst
          if inst.state = .init then
            orGoto (firstFailure env [.destroyInternal .output, .destroyInternal .capture], inst)
              giveUp (irisHfiSessionClose env)
          else (0, inst)) inst := rfl

theorem streamoffTo_cases (env : InstEnv) (plane : Plane) (inst : Inst) :
    (∃ ret t, ret ≠ 0 ∧ ∀ {β : Type} (error : Int → Inst → β) (done : Inst → β),
        streamoffTo env plane error done inst = error ret t) ∨
      ∃ t, ∀ {β : Type} (error : Int → Inst → β) (done : Inst → β),
        streamoffTo env plane error done inst = done t := by
  unfold streamoffTo orGoto
  by_cases hstop : (sessionStop env { inst with streamoffPending := true }).1 ≠ 0
  · exact .inl ⟨_, _, hstop, fun _ _ => if_pos hstop⟩
  · simp only [if_neg hstop]
    generalize (sessionStop env { inst with streamoffPending := true }).2 = stopped
    by_cases hchange : (irisInstStateChangeStreamoff plane stopped).1 ≠ 0
    · exact .inl ⟨_, _, hchange, fun _ _ => if_pos hchange⟩
    · exact .inr ⟨_, fun _ _ => if_neg hchange⟩

/-- The stream-off goes through its label `error`, where it kills the session. -/
def StreamoffKills (env : InstEnv) (plane : Plane) (inst : Inst) : Prop :=
  streamoffTo env plane (fun _ _ => True) (fun _ => False) inst

/-- The label is the last thing that the stream-off runs. -/
theorem irisSessionStreamoff_of_kills (hkills : StreamoffKills env plane inst) :
    ∃ ret t, ret ≠ 0 ∧ irisSessionStreamoff env plane inst =
      (ret, irisFlushDeferredBuffers plane (irisKillSession t)) := by
  rcases streamoffTo_cases env plane inst with ⟨ret, t, hret, herror⟩ | ⟨t, hdone⟩
  · exact ⟨ret, t, hret, (irisSessionStreamoff_eq env plane inst).trans (herror _ _)⟩
  · exact (hdone (fun _ _ => True) (fun _ => False) ▸ hkills : False).elim

theorem streamoffKills_of_stop (hstop : (sessionStop env
    { inst with streamoffPending := true }).1 ≠ 0) : StreamoffKills env plane inst := by
  unfold StreamoffKills streamoffTo
  rw [orGoto, if_pos hstop]
  trivial

/-- A stop reports every failure of a command that it sent, and the session is then killed. -/
structure StopReports (env : InstEnv) (plane : Plane) (inst : Inst) : Prop where
  ret : (irisHfiGen1SessionStop env inst).1 = 0 →
    ∀ call ∈ gen1StopCommands inst, Answered env call
  kill : (∃ call ∈ gen1StopCommands inst, ¬Answered env call) → StreamoffKills env plane inst
  killed : StreamoffKills env plane inst →
    ∃ ret t, ret ≠ 0 ∧ irisSessionStreamoff env plane inst =
      (ret, irisFlushDeferredBuffers plane (irisKillSession t))

/-- STOP fails, and RELEASE_RESOURCES after it is answered. -/
def StopForgotten (env : InstEnv) (inst : Inst) : Prop :=
  stopsSession inst ∧ ¬Answered env .sessionStop ∧ Answered env .releaseResources

theorem sessionStop_gen1 (hgen : inst.gen = .gen1) :
    sessionStop env inst = irisHfiGen1SessionStop env inst := by
  rw [sessionStop, hgen]

theorem stopsSession_not_flush (hstops : stopsSession inst) :
    ¬(inst.domain = .decoder ∧ inst.state = .streaming) := by
  rintro ⟨hdomain, hstate⟩
  simp [stopsSession, hdomain, hstate] at hstops

theorem gen1StopCommands_stopping (hstops : stopsSession inst) :
    gen1StopCommands inst = [.sessionStop, .releaseResources] := by
  rw [gen1StopCommands, if_neg (stopsSession_not_flush hstops), if_pos hstops]

/-- When no STOP is forgotten, a success means that everything sent was answered. -/
theorem answered_of_ret_zero (hret : (irisHfiGen1SessionStop env inst).1 = 0)
    (hforgot : ¬StopForgotten env inst) :
    ∀ call ∈ gen1StopCommands inst, Answered env call := by
  rw [irisHfiGen1SessionStop_ret] at hret
  by_cases hstops : stopsSession inst
  · rw [gen1StopCommands_stopping hstops] at hret ⊢
    have hrelease : Answered env .releaseResources := commandRet_eq_zero.1 hret
    have hstop : Answered env .sessionStop := by
      by_contra hstop
      exact hforgot ⟨hstops, hstop, hrelease⟩
    intro call hcall
    obtain rfl | rfl : call = .sessionStop ∨ call = .releaseResources := by simpa using hcall
    · exact hstop
    · exact hrelease
  · unfold gen1StopCommands at hret ⊢
    rw [if_neg hstops] at hret ⊢
    split_ifs at hret ⊢
    · intro call hcall
      obtain rfl := List.mem_singleton.1 hcall
      exact commandRet_eq_zero.1 hret
    · intro call hcall
      cases hcall

theorem stop_reports_iff (env : InstEnv) (plane : Plane) (inst : Inst)
    (hgen : inst.gen = .gen1) :
    StopReports env plane inst ↔ ¬StopForgotten env inst := by
  constructor
  · rintro hreports ⟨hstops, hstop, hrelease⟩
    have hcommands := gen1StopCommands_stopping hstops
    refine hstop (hreports.ret ?_ .sessionStop (by simp [hcommands]))
    rw [irisHfiGen1SessionStop_ret, hcommands]
    exact commandRet_eq_zero.2 hrelease
  · intro hforgot
    refine ⟨fun hret => answered_of_ret_zero hret hforgot, ?_, irisSessionStreamoff_of_kills⟩
    rintro ⟨call, hcall, hfailed⟩
    refine streamoffKills_of_stop fun hret => hfailed ?_
    have hstop : sessionStop env { inst with streamoffPending := true } =
        irisHfiGen1SessionStop env { inst with streamoffPending := true } := sessionStop_gen1 hgen
    rw [hstop] at hret
    exact answered_of_ret_zero hret hforgot call hcall

/-- A decoder whose STOP is not answered, stopped from its CAPTURE queue. -/
def stopTimesOut : InstEnv :=
  { undisturbed with timedOut := fun call => call == .sessionStop }

def loadedDecoder : Inst :=
  instAfter (openedDecoder .gen1 .h264 false)
    [.streamon undisturbed .output [(0, frameData)],
      .streamon undisturbed .capture [(0, frameData)], .streamoff undisturbed .output]

theorem stop_reports_answered : StopReports undisturbed .capture loadedDecoder :=
  (stop_reports_iff undisturbed .capture loadedDecoder (by decide)).2 fun h => h.2.1 (by decide)

/-- The stream-off goes on as if the session had stopped. -/
theorem stop_timeout_unreported :
    ¬StopReports stopTimesOut .capture loadedDecoder := by
  intro hreports
  exact absurd (hreports.ret (by decide) .sessionStop (by decide)) (by decide)

end NabuIris
