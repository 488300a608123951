import NabuIris.Proof.Queues
import NabuIris.SessionCommands

/-!
# Responses that come late

All commands of a session share one completion. A wait is entered with the count at zero if its
command was preceded by `reinit_completion`, but a response to an earlier command counts as much as
the right one.
-/

namespace NabuIris

open Lib

/-- A wait that would return 0 now has the response to its own command. -/
def EndsAnswered (config : Config Channel SessionWait Int) : Prop :=
  ∀ waiting ∈ config.thread, waiting.1.isFlush = false →
    (Channel.resume waiting.1 false config.state).isSome →
      waiting.1.serial ∈ config.state.answered

/-- No wait of the run can return 0 without the response to its command. -/
def WaitsAnswered (inst : Inst) (moves : List SendMove) : Prop :=
  ∀ pre, pre <+: moves → EndsAnswered (channelMachine.runs (.opened inst) pre)

/-- The response to the command completes `inst->completion`. -/
def Channel.completes (serial : Nat) (c : Channel) : Bool :=
  match c.outstanding serial with
  | none => false
  | some .flush => false
  | some _ => true

/-- The call sends RELEASE_BUFFERS and waits. -/
def SendCall.releases : SendCall → Bool
  | .sessionUnsetBuffers env type =>
      (irisHfiGen1BufTypeFromDriver type).any (· != .input) && env.allocated &&
        env.write .releaseBuffers = 0
  | _ => false

/-- A response that comes during a wait answers its command, or comes after the one that does.
RELEASE_BUFFERS finds the count at zero. -/
def InTurn (config : Config Channel SessionWait Int) : SendMove → Prop
  | .event (.reply serial _) => ∀ waiting ∈ config.thread, waiting.1.isFlush = false →
      config.state.completes serial = true →
        waiting.1.serial = serial ∨ waiting.1.serial ∈ config.state.answered
  | .event (.others _) => True
  | .call call => config.thread.isNone → call.releases = true → config.state.completion = 0
  | .resume _ => True

def RepliesInTurn (inst : Inst) (moves : List SendMove) : Prop :=
  ∀ pre move, pre ++ [move] <+: moves → InTurn (channelMachine.runs (.opened inst) pre) move

/-! ### The count -/

theorem resume_isSome {wait : SessionWait} (hwait : wait.isFlush = false) (c : Channel) :
    (Channel.resume wait false c).isSome ↔ c.completion ≠ 0 := by
  unfold Channel.resume
  rw [hwait]
  cases c.completion <;> simp

theorem resume_eq {wait : SessionWait} {timedOut : Bool} {c d : Channel}
    (hresume : Channel.resume wait timedOut c = some d) :
    ∃ completion, d = { c with completion } := by
  unfold Channel.resume at hresume
  split at hresume
  · exact ⟨_, (Option.some.inj hresume).symm⟩
  · split at hresume
    · cases hresume
    · exact ⟨_, (Option.some.inj hresume).symm⟩
    · exact ⟨_, (Option.some.inj hresume).symm⟩
    · cases hresume

theorem handleReply_answered (command : SessionCommand) (error : SessionError) (c : Channel) :
    (c.handleReply command error).answered = c.answered := by
  cases command <;> rfl

theorem handleReply_completion (command : SessionCommand) (error : SessionError) (c : Channel) :
    (c.handleReply command error).completion =
      if command = .flush then c.completion else c.completion + 1 := by
  cases command <;> rfl

theorem handleReply_sent (command : SessionCommand) (error : SessionError) (c : Channel) :
    (c.handleReply command error).sent = c.sent := by
  cases command <;> rfl

/-! ### What a wait is entered with -/

/-- Only commands that were sent are answered. -/
def Numbered (c : Channel) : Prop := ∀ serial ∈ c.answered, serial < c.sent.length

def Cleared (wait : SessionWait) (c : Channel) : Prop := wait.isFlush = false → c.completion = 0

section Sections

variable {c : Channel} {P : SessionWait → Channel → Prop}

theorem Numbered.sent (hnumbered : Numbered c) (command : SessionCommand) :
    Numbered { c with sent := c.sent ++ [command] } := by
  intro serial hserial
  rw [List.length_append]
  exact Nat.lt_add_right _ (hnumbered serial hserial)

theorem Numbered.write (hnumbered : Numbered c) (env : SendEnv) (command : SessionCommand) :
    Numbered (c.irisHfiQueueCmdWrite env command).2 := by
  unfold Channel.irisHfiQueueCmdWrite
  split_ifs
  · exact hnumbered.sent command
  · exact hnumbered

theorem write_completion (env : SendEnv) (command : SessionCommand) (c : Channel) :
    (c.irisHfiQueueCmdWrite env command).2.completion = c.completion := by
  unfold Channel.irisHfiQueueCmdWrite
  split_ifs <;> rfl

theorem Numbered.outstanding {serial : Nat} {command : SessionCommand}
    (houtstanding : c.outstanding serial = some command) (hnumbered : Numbered c) :
    Numbered { c with answered := serial :: c.answered } := by
  unfold Channel.outstanding at houtstanding
  split_ifs at houtstanding
  intro other hother
  obtain rfl | hother := List.mem_cons.1 hother
  · exact (List.getElem?_eq_some_iff.1 houtstanding).1
  · exact hnumbered other hother

theorem handle_idle {serial : Nat} (hnone : c.outstanding serial = none) (error : SessionError) :
    c.handle (.reply serial error) = c := by
  simp only [Channel.handle, hnone]

theorem handle_reply {serial : Nat} {command : SessionCommand}
    (hsome : c.outstanding serial = some command) (error : SessionError) :
    c.handle (.reply serial error) =
      { c with answered := serial :: c.answered }.handleReply command error := by
  simp only [Channel.handle, hsome]

theorem Numbered.handle (hnumbered : Numbered c) (meanwhile : Meanwhile) :
    Numbered (c.handle meanwhile) := by
  cases meanwhile with
  | others change => exact hnumbered
  | reply serial error =>
      cases houtstanding : c.outstanding serial with
      | none =>
          rw [handle_idle houtstanding]
          exact hnumbered
      | some command =>
          have hanswered := hnumbered.outstanding houtstanding
          rw [handle_reply houtstanding]
          unfold Numbered at *
          rw [handleReply_answered, handleReply_sent]
          exact hanswered

theorem waitResponse_enters {isFlush : Bool} (hwait : P { isFlush, serial := c.sent.length - 1 } c)
    (hnumbered : Numbered c) : (c.irisWaitForSessionResponse isFlush).Enters P Numbered := by
  refine ⟨hwait, hnumbered, fun timedOut d hd => ?_⟩
  cases timedOut <;> exact hd

theorem command_enters (hnumbered : Numbered c) (env : SendEnv) (command : SessionCommand)
    (hcount : env.write command = 0 → c.completion = 0) :
    (c.command env command).Enters Cleared Numbered := by
  have hwritten := hnumbered.write env command
  refine orGoto_value_rule (fun _ => hwritten) fun hret => ?_
  exact waitResponse_enters (fun _ => (write_completion env command c).trans (hcount hret)) hwritten

theorem reinit_enters (hnumbered : Numbered c) (env : SendEnv) (command : SessionCommand) :
    (c.reinit.command env command).Enters Cleared Numbered := by
  have hreset : Numbered c.reinit := hnumbered
  exact command_enters hreset env command fun _ => rfl

theorem enters_orGoto {x : SendProgram} {next : Channel → SendProgram}
    (henters : x.Enters P Numbered) (hnext : ∀ c, Numbered c → (next c).Enters P Numbered) :
    (x.bind fun ret c => orGoto (ret, c) Channel.giveUp next).Enters P Numbered :=
  henters.bind fun _ c hnumbered =>
    orGoto_value_rule (fun _ => hnumbered) fun _ => hnext c hnumbered

/-! ### The calls -/

theorem sessionStart_enters (hnumbered : Numbered c) (env : SendEnv) (plane : Plane) :
    (c.sessionStart env plane).Enters Cleared Numbered := by
  cases plane with
  | capture => exact hnumbered
  | output =>
      unfold Channel.sessionStart
      dsimp only
      split_ifs
      · exact hnumbered
      · exact enters_orGoto (reinit_enters hnumbered env _) fun c hnumbered =>
          enters_orGoto (reinit_enters hnumbered env _) fun c hnumbered => hnumbered

theorem sessionRelease_enters (hnumbered : Numbered c) (env : SendEnv) :
    (c.sessionRelease env).Enters Cleared Numbered :=
  (reinit_enters hnumbered env _).bind fun _ _ hnumbered =>
    (reinit_enters hnumbered env _).bind fun _ _ hnumbered => hnumbered

theorem sessionStop_enters (hnumbered : Numbered c) (env : SendEnv) :
    (c.sessionStop env).Enters Cleared Numbered := by
  have hreturned : ∀ (x : SendProgram), x.Enters Cleared Numbered →
      (x.bind Channel.returnBuffers).Enters Cleared Numbered :=
    fun _ henters => henters.bind fun _ _ hnumbered => hnumbered
  unfold Channel.sessionStop
  cases c.inst.domain with
  | decoder =>
      dsimp only
      split_ifs
      · exact orGoto_keep (Q := Numbered) (P := Sections.Enters Cleared Numbered)
          (hnumbered.write env .flush) (fun _ _ => id)
          fun c hnumbered => waitResponse_enters nofun hnumbered
      · exact hreturned _ (sessionRelease_enters hnumbered env)
      · exact hnumbered
  | encoder =>
      dsimp only
      split_ifs
      · exact hreturned _ (sessionRelease_enters hnumbered env)
      · exact hnumbered

theorem hfiSessionClose_enters (hnumbered : Numbered c) (env : SendEnv) :
    (c.irisHfiSessionClose env).Enters Cleared Numbered := by
  unfold Channel.irisHfiSessionClose
  dsimp only
  split_ifs
  · exact hnumbered
  · have hreset : Numbered c.reinit := hnumbered
    have hwritten := hreset.write env .sessionEnd
    refine Sections.Enters.bind ?_ fun _ c hnumbered => hnumbered
    refine orGoto_value_rule (fun _ => hwritten) fun _ => ?_
    refine enters_orGoto (waitResponse_enters (fun _ => write_completion env _ _) hwritten)
      fun c hnumbered => ?_
    split_ifs
    · exact hnumbered
    · exact hnumbered
    · exact hnumbered

theorem command_cases (env : SendEnv) (command : SessionCommand) (c : Channel) :
    env.write command = 0 ∧ c.command env command =
        ({ c with sent := c.sent ++ [command] } : Channel).irisWaitForSessionResponse false ∨
      env.write command ≠ 0 ∧ c.command env command = .done (env.write command) c := by
  unfold Channel.command Channel.irisHfiQueueCmdWrite
  by_cases hwrite : env.write command = 0
  · left
    rw [if_pos hwrite, hwrite]
    exact ⟨rfl, rfl⟩
  · right
    rw [if_neg hwrite, orGoto, if_pos hwrite]
    exact ⟨hwrite, rfl⟩

/-- RELEASE_BUFFERS is sent and waited for, or nothing happens. -/
theorem sessionUnsetBuffers_cases (env : SendEnv) (type : BufType) (c : Channel) :
    (SendCall.sessionUnsetBuffers env type).releases = true ∧
        c.sessionUnsetBuffers env type =
          ({ c with sent := c.sent ++ [.releaseBuffers] } : Channel).irisWaitForSessionResponse
            false ∨
      (SendCall.sessionUnsetBuffers env type).releases = false ∧
        ∃ ret, c.sessionUnsetBuffers env type = .done ret c := by
  have hmapped : irisHfiGen1BufTypeFromDriver type = none ∨
      irisHfiGen1BufTypeFromDriver type = some .input ∨
        ((irisHfiGen1BufTypeFromDriver type).any (· != .input) = true ∧
          c.sessionUnsetBuffers env type =
            if env.allocated then c.command env .releaseBuffers else .done (-enomem) c) := by
    unfold Channel.sessionUnsetBuffers
    cases type <;> simp [irisHfiGen1BufTypeFromDriver]
  unfold SendCall.releases
  obtain hnone | hinput | ⟨hother, heq⟩ := hmapped
  · right
    dsimp only
    rw [Channel.sessionUnsetBuffers, hnone]
    exact ⟨rfl, _, rfl⟩
  · right
    dsimp only
    rw [Channel.sessionUnsetBuffers, hinput]
    exact ⟨rfl, _, rfl⟩
  · dsimp only
    rw [heq, hother]
    cases env.allocated with
    | false => exact .inr ⟨rfl, _, rfl⟩
    | true =>
        obtain ⟨hwrite, hcommand⟩ | ⟨hwrite, hcommand⟩ := command_cases env .releaseBuffers c
        · exact .inl ⟨decide_eq_true hwrite, hcommand⟩
        · exact .inr ⟨decide_eq_false hwrite, _, hcommand⟩

/-- Every call but RELEASE_BUFFERS enters its waits with the count at zero. -/
theorem body_enters (hnumbered : Numbered c) {call : SendCall}
    (hcall : call.releases = true → c.completion = 0) :
    (c.body call).Enters Cleared Numbered := by
  cases call with
  | sessionOpen env =>
      change (c.sessionOpen env).Enters Cleared Numbered
      unfold Channel.sessionOpen
      split_ifs
      · exact hnumbered
      · exact orGoto_value_rule (fun _ => hnumbered) fun _ => reinit_enters hnumbered env _
      · exact orGoto_value_rule (fun _ => hnumbered) fun _ => reinit_enters hnumbered env _
  | sessionStart env plane => exact sessionStart_enters hnumbered env plane
  | sessionStop env => exact sessionStop_enters hnumbered env
  | getBufferRequirements env => exact reinit_enters hnumbered env _
  | sessionUnsetBuffers env type =>
      change (c.sessionUnsetBuffers env type).Enters Cleared Numbered
      obtain ⟨hreleases, heq⟩ | ⟨-, ret, heq⟩ := sessionUnsetBuffers_cases env type c
      · rw [heq]
        exact waitResponse_enters (fun _ => hcall hreleases) (hnumbered.sent _)
      · rw [heq]
        exact hnumbered
  | hfiSessionClose env => exact hfiSessionClose_enters hnumbered env
  | killSession env =>
      change Numbered (c.irisKillSession env)
      unfold Channel.irisKillSession
      split_ifs
      · exact hnumbered
      · exact hnumbered.write env .sessionEnd

/-! ### Runs -/

theorem Sections.Enters.answered {x : SendProgram} (henters : x.Enters Cleared Numbered) :
    EndsAnswered x.enter := by
  cases x with
  | done ret d => exact nofun
  | wait k d next =>
      rintro waiting hwaiting hflush hends
      cases hwaiting
      exact absurd (henters.1 hflush) ((resume_isSome hflush d).1 hends)

/-- After its first wait no call waits again without a reset. -/
theorem body_entered (hnumbered : Numbered c) (call : SendCall) :
    (c.body call).enter.Entered Cleared Numbered := by
  by_cases hcall : call.releases = true → c.completion = 0
  · exact (body_enters hnumbered hcall).entered
  · cases call with
    | sessionUnsetBuffers env type =>
        obtain ⟨-, heq⟩ | ⟨hnone, -⟩ := sessionUnsetBuffers_cases env type c
        · change (c.sessionUnsetBuffers env type).enter.Entered Cleared Numbered
          rw [heq]
          refine ⟨hnumbered.sent _, fun k next hthread timedOut d hd => ?_⟩
          cases hthread
          cases timedOut <;> exact hd
        · exact absurd (fun hreleases => by rw [hnone] at hreleases; cases hreleases) hcall
    | sessionOpen | sessionStart | sessionStop | getBufferRequirements | hfiSessionClose
      | killSession => exact absurd nofun hcall

/-- RELEASE_BUFFERS is sent with a count above zero. -/
theorem releases_early {call : SendCall} (hnumbered : Numbered c) (hcall : call.releases = true)
    (hanswered : EndsAnswered (c.body call).enter) : c.completion = 0 := by
  cases call with
  | sessionUnsetBuffers env type =>
      obtain ⟨-, heq⟩ | ⟨hnone, -⟩ := sessionUnsetBuffers_cases env type c
      · by_contra hcount
        change EndsAnswered (c.sessionUnsetBuffers env type).enter at hanswered
        rw [heq] at hanswered
        have hlast := hanswered _ rfl rfl ((resume_isSome rfl _).2 hcount)
        have hlt := hnumbered _ hlast
        rw [List.length_append] at hlt
        exact absurd hlt (by simp)
      · rw [hnone] at hcall
        cases hcall
  | sessionOpen | sessionStart | sessionStop | getBufferRequirements | hfiSessionClose
    | killSession => cases hcall

theorem answered_reply {config : Config Channel SessionWait Int} (hgood : EndsAnswered config)
    (serial : Nat) (error : SessionError) :
    EndsAnswered (channelMachine.step config (.event (.reply serial error))) ↔
      InTurn config (.event (.reply serial error)) := by
  obtain ⟨c, thread⟩ := config
  refine forall₂_congr fun waiting hwaiting => imp_congr_right fun hflush => ?_
  have hbefore := hgood waiting hwaiting hflush
  rw [resume_isSome hflush] at hbefore ⊢
  change (c.handle (.reply serial error)).completion ≠ 0 →
    waiting.1.serial ∈ (c.handle (.reply serial error)).answered ↔ _
  unfold Channel.completes
  cases houtstanding : c.outstanding serial with
  | none =>
      rw [handle_idle houtstanding]
      exact ⟨fun _ => nofun, fun _ => hbefore⟩
  | some command =>
      rw [handle_reply houtstanding, handleReply_answered, handleReply_completion]
      by_cases hflush : command = .flush
      · subst hflush
        exact ⟨fun _ => nofun, fun _ hcount => List.mem_cons_of_mem _ (hbefore hcount)⟩
      · have hcompletes : (match some command with
            | none => false
            | some .flush => false
            | some _ => true) = true := by
          cases command <;> first | rfl | exact absurd rfl hflush
        rw [hcompletes, if_neg hflush, List.mem_cons]
        exact ⟨fun hlisted _ => hlisted (Nat.succ_ne_zero _), fun hlisted _ => hlisted rfl⟩

theorem answered_step {config : Config Channel SessionWait Int}
    (hentered : config.Entered Cleared Numbered) (hgood : EndsAnswered config) (move : SendMove) :
    EndsAnswered (channelMachine.step config move) ↔ InTurn config move := by
  obtain ⟨c, thread⟩ := config
  cases move with
  | event meanwhile =>
      cases meanwhile with
      | reply serial error => exact answered_reply hgood serial error
      | others change =>
          refine ⟨fun _ => trivial, fun _ waiting hwaiting hflush hends => ?_⟩
          exact hgood waiting hwaiting hflush
            ((resume_isSome hflush c).2 ((resume_isSome hflush (c.onInst change)).1 hends))
  | call call =>
      cases thread with
      | some waiting => exact ⟨fun _ => nofun, fun _ => hgood⟩
      | none =>
          refine ⟨fun hanswered _ hcall => releases_early hentered.1 hcall hanswered,
            fun hturn => ?_⟩
          exact Sections.Enters.answered (body_enters hentered.1 (hturn rfl))
  | resume timedOut =>
      refine ⟨fun _ => trivial, fun _ => ?_⟩
      cases thread with
      | none => exact hgood
      | some waiting =>
          simp only [Machine.step]
          cases hresume : channelMachine.resume waiting.1 timedOut c with
          | none => exact hgood
          | some d =>
              obtain ⟨completion, rfl⟩ := resume_eq hresume
              exact Sections.Enters.answered (hentered.2 _ _ rfl timedOut _ hentered.1)

end Sections

/-- **A run's waits have their responses exactly when the responses come in turn.** -/
theorem waits_answered_iff (inst : Inst) (moves : List SendMove) :
    WaitsAnswered inst moves ↔ RepliesInTurn inst moves :=
  @good_prefixes_iff _ _ channelMachine.step InTurn moves (Config.Entered Cleared Numbered)
    EndsAnswered (fun _ move _ hentered => hentered.step
      (fun event _ hs => Numbered.handle hs event)
      (fun _ _ _ _ hresume hs => by
        obtain ⟨_, rfl⟩ := resume_eq hresume
        exact hs) (fun call _ hs => body_entered hs call) move)
    (fun _ move _ hentered hgood => answered_step hentered hgood move) _
    ⟨nofun, nofun⟩ nofun

def sendsAll : SendEnv := { write := fun _ => 0, prepareRet := 0, allocated := true }

/-- OUTPUT is streaming, and is stopped: the firmware answers STOP after its wait has timed out. -/
def lateStop : List SendMove :=
  [.call (.sessionOpen sendsAll), .event (.reply 0 .none), .resume false,
    .event (.others fun inst => (irisInstChangeState .init inst).2),
    .call (.sessionStart sendsAll .output), .event (.reply 1 .none), .resume false,
    .event (.reply 2 .none), .resume false,
    .event (.others fun inst => (irisInstStateChangeStreamon .output inst).2),
    .call (.sessionStop sendsAll), .resume true, .event (.reply 3 .none)]

/-- The wait for the response to RELEASE_RESOURCES ends with the one to STOP. -/
theorem late_stop_response :
    ¬WaitsAnswered (openedDecoder .gen1 .h264 true) lateStop := by
  intro hanswered
  have hrelease := hanswered _ List.prefix_rfl _ rfl rfl rfl
  revert hrelease
  decide

end NabuIris
