import NabuIris.Proof.StartFrame
import NabuIris.Proof.Vp9Buffers
import NabuIris.StreamSections

/-!
# What an event does to the control state

A session of the first generation handles an event in a few turns. A turn changes the sub-state, the
count of outstanding flushes or the flag of the last buffer in one of nine ways, or it is quiet.
-/

namespace NabuIris

open Relation

/-- A change that leaves the control state alone, but for an error and a last buffer. -/
structure KeepsControl (s t : Inst) : Prop where
  gen : t.gen = s.gen
  domain : t.domain = s.domain
  state : t.state = s.state ∨ t.state = .error
  subState : t.subState = s.subState
  flush : t.flushResponsesPending = s.flushResponsesPending
  last : s.lastBufferDequeued = true → t.lastBufferDequeued = true
  streaming : t.streaming = s.streaming
  rollback : t.startStreamingRollbackType = s.startStreamingRollbackType

namespace KeepsControl

variable {s t u : Inst}

theorem refl (s : Inst) : KeepsControl s s := ⟨rfl, rfl, .inl rfl, rfl, rfl, id, rfl, rfl⟩

theorem trans (hfirst : KeepsControl s t) (hsecond : KeepsControl t u) : KeepsControl s u where
  gen := hsecond.gen.trans hfirst.gen
  domain := hsecond.domain.trans hfirst.domain
  state := by
    obtain hstate | hstate := hsecond.state
    · exact hfirst.state.imp hstate.trans hstate.trans
    · exact .inr hstate
  subState := hsecond.subState.trans hfirst.subState
  flush := hsecond.flush.trans hfirst.flush
  last := fun hlast => hsecond.last (hfirst.last hlast)
  streaming := hsecond.streaming.trans hfirst.streaming
  rollback := hsecond.rollback.trans hfirst.rollback

theorem enterError (hkeeps : KeepsControl s t) : KeepsControl s t.enterError := by
  rw [enterError_eq]
  exact hkeeps.trans ⟨rfl, rfl, .inr rfl, rfl, rfl, id, rfl, rfl⟩

theorem bufferDone (hkeeps : KeepsControl s t) (plane : Plane) (i : Nat) :
    KeepsControl s (irisVb2BufferDone plane i t).2 := by
  refine hkeeps.trans ?_
  unfold irisVb2BufferDone
  extract_lets buf removed flags flagged last
  split_ifs
  · exact ⟨rfl, rfl, .inl rfl, rfl, rfl, id, rfl, rfl⟩
  · exact ⟨rfl, rfl, .inl rfl, rfl, rfl, id, rfl, rfl⟩
  · exact ⟨rfl, rfl, .inl rfl, rfl, rfl, fun h => Bool.or_eq_true_iff.2 (.inl h), rfl, rfl⟩
  · exact refl _

theorem setBuf (hkeeps : KeepsControl s t) (plane : Plane) (i : Nat) (buf : IrisBuffer) :
    KeepsControl s (t.setBuf plane i buf) :=
  hkeeps.trans ⟨rfl, rfl, .inl rfl, rfl, rfl, id, rfl, rfl⟩

theorem queueBuffer (hkeeps : KeepsControl s t) (ret : Int) (plane : Plane) (i : Nat) :
    KeepsControl s (irisQueueBuffer ret plane i t).2 := by
  obtain ⟨_, _, heq⟩ := irisQueueBuffer_frame ret plane i t
  rw [heq]
  exact hkeeps.trans ⟨rfl, rfl, .inl rfl, rfl, rfl, id, rfl, rfl⟩

theorem drops (hkeeps : KeepsControl s t) (drops : Nat) :
    KeepsControl s { t with corruptOutputDrops := drops } :=
  hkeeps.trans ⟨rfl, rfl, .inl rfl, rfl, rfl, id, rfl, rfl⟩

theorem pending (hkeeps : KeepsControl s t) (pending : Option Nat) :
    KeepsControl s { t with pendingOutput := pending } :=
  hkeeps.trans ⟨rfl, rfl, .inl rfl, rfl, rfl, id, rfl, rfl⟩

theorem note (hkeeps : KeepsControl s t) (event : BufEvent) : KeepsControl s (t.record event) :=
  hkeeps.trans ⟨rfl, rfl, .inl rfl, rfl, rfl, id, rfl, rfl⟩

theorem vbufFlags (hkeeps : KeepsControl s t) (plane : Plane) (i : Nat) (flags : BufFlags) :
    KeepsControl s (t.setVbufFlags plane i flags) :=
  hkeeps.trans ⟨rfl, rfl, .inl rfl, rfl, rfl, id, rfl, rfl⟩

theorem listed (hkeeps : KeepsControl s t) (plane : Plane) (i : Nat) :
    KeepsControl s (v4l2M2mBufQueue plane i t) :=
  hkeeps.trans ⟨rfl, rfl, .inl rfl, rfl, rfl, id, rfl, rfl⟩

theorem applyIf {change : Inst → Inst} (cond : Bool) (hkeeps : KeepsControl s t)
    (hchange : KeepsControl s t → KeepsControl s (change t)) :
    KeepsControl s (t.applyIf cond change) :=
  applyIf_keep (P := KeepsControl s) cond hkeeps hchange

/-! ### Buffers that come back -/

theorem etbComplete (hkeeps : KeepsControl s t) (i : Nat) : KeepsControl s (etbComplete i t) := by
  unfold NabuIris.etbComplete
  extract_lets buf
  split_ifs
  · exact hkeeps
  · exact hkeeps.setBuf _ _ _
  · exact (hkeeps.setBuf _ _ _).bufferDone _ _

theorem etbDone (hkeeps : KeepsControl s t) (pkt : EtbDone) :
    KeepsControl s (irisHfiGen1SessionEtbDone pkt t) := by
  unfold irisHfiGen1SessionEtbDone
  split_ifs
  · exact hkeeps
  · exact (hkeeps.applyIf _ fun hkeeps => (hkeeps.setBuf _ _ _).enterError).etbComplete _
  · exact hkeeps.enterError

theorem ftbUnmatched (hkeeps : KeepsControl s t) : KeepsControl s (ftbUnmatched t) :=
  hkeeps.applyIf _ enterError

theorem completePending (hkeeps : KeepsControl s t) :
    KeepsControl s (irisVdecCompletePendingOutput t).2 := by
  unfold irisVdecCompletePendingOutput
  cases t.pendingOutput with
  | none => exact hkeeps
  | some i => exact (hkeeps.pending _).bufferDone _ _

theorem recyclePending (hkeeps : KeepsControl s t) (ret : Int) :
    KeepsControl s (irisVdecRecyclePendingOutput ret t).2 := by
  unfold irisVdecRecyclePendingOutput
  cases t.pendingOutput with
  | none => exact hkeeps
  | some i => exact ((hkeeps.pending _).setBuf _ _ _).queueBuffer _ _ _

theorem ftbPending (hkeeps : KeepsControl s t) (env : FtbEnv) (pkt : FtbDone) :
    KeepsControl s (ftbPending env pkt t).2 := by
  unfold NabuIris.ftbPending
  split_ifs
  · exact hkeeps.recyclePending _
  · exact hkeeps.completePending
  · exact hkeeps

theorem ftbDrop (hkeeps : KeepsControl s t) (env : FtbEnv) (i : Nat) :
    KeepsControl s (ftbDrop env i t) :=
  orGoto_keep (Q := KeepsControl s) (((hkeeps.drops _).setBuf _ _ _).queueBuffer _ _ _)
    (fun _ _ => ftbUnmatched) fun _ => id

theorem ftbDeliver (hkeeps : KeepsControl s t) (pkt : FtbDone) (last : Bool) (i : Nat) :
    KeepsControl s (ftbDeliver pkt last i t) := by
  unfold NabuIris.ftbDeliver
  extract_lets buf attr stored
  have hstored : KeepsControl s stored := hkeeps.setBuf _ _ _
  have hheld : KeepsControl s (irisVdecHoldOutput i stored).2 := by
    unfold irisVdecHoldOutput
    split_ifs
    · exact hstored.note _
    · exact hstored.pending _
  split_ifs
  · exact orGoto_keep (Q := KeepsControl s) hheld (fun _ _ => ftbUnmatched) fun _ => id
  · exact hstored.bufferDone _ _

theorem ftbComplete (hkeeps : KeepsControl s t) (env : FtbEnv) (pkt : FtbDone) (last : Bool)
    (i : Nat) : KeepsControl s (ftbComplete env pkt last i t) := by
  unfold NabuIris.ftbComplete
  split_ifs
  · exact hkeeps.ftbDrop _ _
  · exact (hkeeps.applyIf _ fun hkeeps => hkeeps.drops _).ftbDeliver _ _ _

/-- From the flag that the completion sets on, a completion is quiet. -/
theorem ftbOutput (env : FtbEnv) (pkt : FtbDone) (i : Nat) (inst : Inst) :
    KeepsControl { inst with lastBufferDequeued := inst.lastBufferDequeued || ftbLast pkt inst }
      (ftbOutput env pkt i inst) :=
  orGoto_keep (Q := KeepsControl _) (((refl _).setBuf _ _ _).ftbPending env pkt)
    (fun _ _ => ftbUnmatched) fun _ hkeeps => hkeeps.ftbComplete _ _ _ _

/-! ### Buffers that go out -/

theorem queueDeferred (hkeeps : KeepsControl s t) (ret : Nat → Int) (plane : Plane)
    (indices : List Nat) : KeepsControl s (queueDeferred ret plane indices t).2 := by
  induction indices generalizing t with
  | nil => exact hkeeps
  | cons i rest ih =>
      rw [queueDeferred_cons]
      split_ifs
      · exact ih (hkeeps.queueBuffer _ _ _)
      · exact hkeeps
      · exact ih hkeeps

theorem orGoto {call : Int × Inst} {label : Int → Inst → Int × Inst} {next : Inst → Int × Inst}
    (hcall : KeepsControl s call.2)
    (hlabel : ∀ ret inst, KeepsControl s inst → KeepsControl s (label ret inst).2)
    (hnext : ∀ inst, KeepsControl s inst → KeepsControl s (next inst).2) :
    KeepsControl s (orGoto call label next).2 :=
  orGoto_keep (Q := KeepsControl s) (P := fun result : Int × Inst => KeepsControl s result.2) hcall
    hlabel hnext

theorem startRequeue (hkeeps : KeepsControl s t) (env : CmdEnv) :
    KeepsControl s (startRequeue env t).2 :=
  orGoto hkeeps (fun _ _ => id) fun _ hkeeps =>
  orGoto (hkeeps.queueDeferred _ _ _) (fun _ _ => id) fun _ hkeeps => hkeeps.queueDeferred _ _ _

theorem startDeferred (hkeeps : KeepsControl s t) (env : InstEnv) (plane : Plane) :
    KeepsControl s (startDeferred env plane t).2 := by
  unfold NabuIris.startDeferred
  extract_lets deferred
  cases t.domain with
  | decoder =>
      refine orGoto ?_ (fun _ _ => id) fun inst hkeeps => ?_
      · cases plane with
        | output => exact hkeeps.queueDeferred _ _ _
        | capture => exact hkeeps
      · split_ifs
        · exact orGoto hkeeps (fun _ _ => id) fun _ hkeeps => hkeeps.queueDeferred _ _ _
        · exact hkeeps
  | encoder =>
      dsimp only
      split_ifs
      · exact orGoto (hkeeps.queueDeferred _ _ _) (fun _ _ => id) fun _ hkeeps =>
          hkeeps.queueDeferred _ _ _
      · exact hkeeps

theorem queueFail (hkeeps : KeepsControl s t) (plane : Plane) (i : Nat) :
    KeepsControl s (bufQueueFail plane i t) := hkeeps.enterError.note _

theorem queueLast (hkeeps : KeepsControl s t) (plane : Plane) (i : Nat) (data : QbufData) :
    KeepsControl s (bufQueueLast plane i data t) := by
  have hlast : KeepsControl s { t with m2mStopped := true, lastBufferDequeued := true } :=
    hkeeps.trans ⟨rfl, rfl, .inl rfl, rfl, rfl, fun _ => rfl, rfl, rfl⟩
  exact (hlast.vbufFlags _ _ _).note _

theorem bufQueue (ret : Int) (plane : Plane) (i : Nat) (data : QbufData) (inst : Inst) :
    KeepsControl inst (vb2BufQueue ret plane i data inst) := by
  have hhanded : KeepsControl inst
      ((inst.setVbufFlags plane i data.flags).record (.handed plane i)) :=
    ((refl inst).vbufFlags _ _ _).note _
  unfold vb2BufQueue irisVb2BufQueue
  split_ifs
  · exact refl inst
  · exact hhanded.queueFail _ _
  · exact hhanded.queueFail _ _
  · exact hhanded.queueLast _ _ _
  · refine orGoto_keep (Q := KeepsControl inst) ?_ (fun _ t hkeeps => ?_) fun _ => id
    · unfold irisQbuf
      extract_lets buf
      split_ifs
      · exact (hhanded.listed _ _).setBuf _ _ _
      · exact ((hhanded.listed _ _).setBuf _ _ _).queueBuffer _ _ _
    · exact hkeeps.enterError.note _

end KeepsControl

/-! ### Turns -/

/-- What a decoder START needs, from the end of its wait on, to go through. -/
def vdecResumes (env : CmdEnv) (inst : Inst) : Bool :=
  if irisDrcPending inst then resumePaused env.resumeRet inst = 0
  else irisDrainPending inst && resumePaused (sessionResumeDrain inst.gen env.resumeRet) inst = 0

def vencResumes (env : CmdEnv) (inst : Inst) : Bool :=
  irisDrainPending inst && resumePaused (sessionResumeDrain inst.gen env.resumeRet) inst = 0

def startResumes (env : CmdEnv) (inst : Inst) : Bool :=
  irisAllowCmd .start inst &&
    match inst.domain with
    | .decoder =>
        !env.captureFormatChanged && !(inst.legacyVpu5 && inst.flushResponsesPending != 0) &&
          vdecResumes env inst
    | .encoder => vencResumes env inst

/-- A START takes the last buffer back in the error state, where it cannot end what is pending. -/
def startsLate (event : Event) (inst : Inst) : Bool :=
  inst.state == .error && inst.lastBufferDequeued &&
    match event with
    | .cmd env .start => startResumes env inst
    | .startFlushed env false => vdecResumes env inst
    | _ => false

/-- What a response says of the FLUSH that it answers, if it is one. -/
def Arrival.flushResponse (arrival : Arrival) : Option Bool :=
  match arrival.event with
  | .gen1 (.sessionDone .flush _) => some arrival.answers
  | _ => none

/-- What a FLUSH response does to the counts. -/
def Tally.flushDone (answers : Bool) (pending : BitVec 32) (tally : Tally) : Tally :=
  let answered : Bool := answers && tally.flushesAnswered < tally.flushesAccepted
  { tally with
    flushesAnswered := if answered then tally.flushesAnswered + 1 else tally.flushesAnswered
    flushesSettled :=
      if answered && tally.flushesAccepted = tally.flushesAnswered + 1 then
        tally.flushesSettled + 1
      else tally.flushesSettled
    flushSignals := if pending - 1 = 0 then tally.flushSignals + 1 else tally.flushSignals }

/-- The bits that a source change sets. -/
def DrcBits (state : InstState) (bits : SubState) : Prop :=
  bits = subFirstIpsc ||| subInputPause ∧ (state = .inputStreaming ∨ state = .init) ∨
    bits = subDrc ||| subInputPause

/-- A completion gives its buffer back as the last one. -/
def returnsLast (event : Event) (inst : Inst) : Bool :=
  match event with
  | .gen1 (.ftbDone env pkt) => ftbReturnsLast env pkt inst
  | _ => false

inductive Turn (response : Option Bool) (late last : Prop) (s : Session) : Session → Prop
  | keeps {t : Session} (hinst : KeepsControl s.inst t.inst)
      (htally : t.tally = { s.tally with drainsSent := t.tally.drainsSent }) :
      Turn response late last s t
  | flush {t : Session}
      (hinst : t.inst =
        { s.inst with flushResponsesPending := s.inst.flushResponsesPending + 1 })
      (htally : t.tally = { s.tally with flushesAccepted := s.tally.flushesAccepted + 1 }) :
      Turn response late last s t
  | answer {t : Session} {answers : Bool} (hresponse : response = some answers)
      (hinst : t.inst =
        { s.inst with flushResponsesPending := s.inst.flushResponsesPending - 1 })
      (htally : t.tally = s.tally.flushDone answers s.inst.flushResponsesPending) :
      Turn response late last s t
  | arm {t : Session} {bits : SubState} (hbits : DrcBits s.inst.state bits)
      (hnone : hasFlag s.inst.subState subDrc = false)
      (hallow : irisInstAllowSubState s.inst.state bits = true)
      (hinst : t.inst = { s.inst with subState := s.inst.subState ||| bits })
      (htally : t.tally = { s.tally with changesArmed := s.tally.changesArmed + 1 }) :
      Turn response late last s t
  /-- the second half of a pair, after the first -/
  | lastSeen {t : Session} {half other : SubState}
      (hpair : half = subDrc ∧ other = subDrcLast ∨ half = subDrain ∧ other = subDrainLast)
      (hhalf : hasFlag s.inst.subState half = true)
      (hallow : irisInstAllowSubState s.inst.state (other ||| subOutputPause) = true)
      (hinst : t.inst =
        { s.inst with subState := s.inst.subState ||| (other ||| subOutputPause) })
      (htally : t.tally = s.tally) : Turn response late last s t
  | stop {t : Session} {bits : SubState}
      (hbits : bits = 0 ∨ bits = subDrain ∧ irisInstAllowSubState s.inst.state subDrain = true)
      (hinst : t.inst = { s.inst with subState := s.inst.subState ||| bits })
      (htally : t.tally =
        { s.tally with
          drainsSent := t.tally.drainsSent, stopsAccepted := s.tally.stopsAccepted + 1 }) :
      Turn response late last s t
  | lastBuffer {t : Session} (hlast : last) (hnone : s.inst.lastBufferDequeued = false)
      (hpending : (irisDrcPending s.inst || irisDrainPending s.inst) = true)
      (hinst : t.inst = { s.inst with lastBufferDequeued := true })
      (htally : t.tally = { s.tally with lastsDone := s.tally.lastsDone + 1 }) :
      Turn response late last s t
  | resume {t : Session} {pair : SubState}
      (hpair : pair = subDrc ||| subDrcLast ∧ irisDrcPending s.inst = true ∨
        pair = subDrain ||| subDrainLast ∧ irisDrainPending s.inst = true)
      (hinst : t.inst =
        { s.inst with
          subState := s.inst.subState &&& ~~~(pair ||| pausedSubState s.inst)
          lastBufferDequeued := false })
      (htally : t.tally = s.tally) : Turn response late last s t
  | resumeLate {t : Session} (hlate : late)
      (hinst : t.inst = { s.inst with lastBufferDequeued := false }) (htally : t.tally = s.tally) :
      Turn response late last s t
  /-- the first sequence of a running decoder -/
  | initial {t : Session} (hnone : hasFlag s.inst.subState subDrc = false)
      (hinst : t.inst =
        { s.inst with
          subState := s.inst.subState &&& ~~~(subDrc ||| subFirstIpsc ||| subInputPause) })
      (htally : t.tally = s.tally) : Turn response late last s t

abbrev Turns (response : Option Bool) (late last : Prop) : Session → Session → Prop :=
  ReflTransGen (Turn response late last)

section

variable {response : Option Bool} {late last : Prop} {s t : Session}

theorem KeepsControl.turns {inst : Inst} (hkeeps : KeepsControl s.inst inst) :
    Turns response late last s { s with inst } :=
  .single (.keeps hkeeps rfl)

/-- Setting bits does nothing, or sets bits that go together with one that is allowed. -/
theorem irisInstChangeSubState_set (set : SubState) (inst : Inst) :
    (irisInstChangeSubState 0 set inst).2 = inst ∧
        (inst.state = .error ∨ set = 0 ∨ (irisInstChangeSubState 0 set inst).1 ≠ 0) ∨
      inst.state ≠ .error ∧ irisInstAllowSubState inst.state set = true ∧
        irisInstChangeSubState 0 set inst =
          (0, { inst with subState := inst.subState ||| set }) := by
  have heinval : (-einval : Int) ≠ 0 := by decide
  unfold irisInstChangeSubState
  split_ifs with herror hzero hflag hallow
  · exact .inl ⟨rfl, .inl herror⟩
  · exact .inl ⟨rfl, .inr (.inl hzero.2)⟩
  · exact .inl ⟨rfl, .inr (.inr heinval)⟩
  · exact .inl ⟨rfl, .inr (.inr heinval)⟩
  · refine .inr ⟨herror, by simpa using hallow, ?_⟩
    rw [and_allOnes]

theorem lastSeen_turns {half other : SubState}
    (hpair : half = subDrc ∧ other = subDrcLast ∨ half = subDrain ∧ other = subDrainLast)
    (hhalf : hasFlag s.inst.subState half = true) :
    Turns response late last s
      { s with inst := (irisInstChangeSubState 0 (other ||| subOutputPause) s.inst).2 } := by
  obtain ⟨heq, -⟩ | ⟨-, hallow, heq⟩ := irisInstChangeSubState_set (other ||| subOutputPause) s.inst
  · rw [heq]
  · rw [heq]
    exact .single (.lastSeen hpair hhalf hallow rfl rfl)

theorem drainLast_turns (s : Session) :
    Turns response late last s { s with inst := (irisInstSubStateChangeDrainLast s.inst).2 } := by
  unfold irisInstSubStateChangeDrainLast
  split_ifs with _ hdrain
  · exact .refl
  · exact .refl
  · exact lastSeen_turns (.inr ⟨rfl, rfl⟩) (by simpa using hdrain)

theorem drcLast_turns (s : Session) :
    Turns response late last s { s with inst := (irisInstSubStateChangeDrcLast s.inst).2 } := by
  unfold irisInstSubStateChangeDrcLast
  split_ifs with _ hdrc _
  · exact .refl
  · exact .refl
  · exact .refl
  · exact lastSeen_turns (.inl ⟨rfl, rfl⟩) (by
      simp only [Bool.or_eq_true, Bool.not_eq_true', not_or, Bool.not_eq_false] at hdrc
      exact hdrc.1)

/-! ### Completions -/

theorem ftbEos_turns (env : FtbEnv) (pkt : FtbDone) (s : Session) :
    Turns response late last s { s.ftbFlush env pkt with inst := ftbEos env pkt s.inst } := by
  unfold Session.ftbFlush ftbEos NabuIris.sessionFlush Inst.applyIf
  by_cases heos : (pkt.eos && !pkt.filled) = true
  · by_cases hret : env.flushRet = 0
    · simp only [heos, hret, if_true, decide_true]
      refine .trans (.single (.flush ?_ ?_)) (drainLast_turns { s.reinitFlush.acceptFlush with
        inst := { s.inst with flushResponsesPending := s.inst.flushResponsesPending + 1 } })
      · rfl
      · rfl
    · simp only [heos, hret, if_true, if_false, decide_false, Bool.false_eq_true]
      have hreinit : Turns response late last s s.reinitFlush := .single (.keeps (.refl _) rfl)
      exact hreinit.trans (drainLast_turns s.reinitFlush)
  · simp only [heos, if_false, Bool.false_eq_true]
    exact .refl

theorem ftbLast_pending {pkt : FtbDone} {inst : Inst} (hlast : ftbLast pkt inst = true) :
    inst.lastBufferDequeued = false ∧ (irisDrcPending inst || irisDrainPending inst) = true := by
  simp only [ftbLast, Bool.and_eq_true, Bool.not_eq_true'] at hlast
  obtain ⟨⟨-, hnone⟩, hpending⟩ := hlast
  refine ⟨hnone, ?_⟩
  cases hdomain : inst.domain with
  | decoder =>
      rw [hdomain] at hpending
      exact (Bool.and_eq_true_iff.1 hpending).2
  | encoder =>
      rw [hdomain] at hpending
      exact Bool.or_eq_true_iff.2 (.inr hpending)

/-- A completion from the end of the stream on. -/
theorem ftbMatch_turns (env : FtbEnv) (pkt : FtbDone) (s : Session) (inst : Inst)
    (hreturns : (match ftbFind pkt inst with
      | none => false
      | some i => ftbLast pkt inst && (ftbPending env pkt (ftbStore pkt i inst)).1 = 0) = true →
        last) :
    Turns response late last { s with inst }
      { s.countIf
          (match ftbFind pkt inst with
            | none => false
            | some i => ftbLast pkt inst && (ftbPending env pkt (ftbStore pkt i inst)).1 = 0)
          (fun t => { t with lastsDone := t.lastsDone + 1 }) with
        inst := ftbMatch env pkt inst } := by
  unfold ftbMatch
  revert hreturns
  cases ftbFind pkt inst with
  | none => exact fun _ => (KeepsControl.refl inst).ftbUnmatched.turns
  | some i =>
      intro hreturns
      have houtput := KeepsControl.ftbOutput env pkt i inst
      have hset : KeepsControl inst
          { inst with lastBufferDequeued := inst.lastBufferDequeued || ftbLast pkt inst } :=
        ⟨rfl, rfl, .inl rfl, rfl, rfl, fun h => Bool.or_eq_true_iff.2 (.inl h), rfl, rfl⟩
      dsimp only
      cases hcount : ftbLast pkt inst && (ftbPending env pkt (ftbStore pkt i inst)).1 = 0 with
      | false => exact (hset.trans houtput).turns
      | true =>
          have hlast : ftbLast pkt inst = true := (Bool.and_eq_true_iff.1 hcount).1
          obtain ⟨hnone, hpending⟩ := ftbLast_pending hlast
          rw [hlast, Bool.or_true] at houtput
          have hcounted : Turns response late last { s with inst }
              { s.count fun t => { t with lastsDone := t.lastsDone + 1 } with
                inst := { inst with lastBufferDequeued := true } } :=
            .single (.lastBuffer (hreturns hcount) hnone hpending rfl rfl)
          exact hcounted.trans houtput.turns

theorem ftbDone_turns (env : FtbEnv) (pkt : FtbDone) (s : Session)
    (hreturns : ftbReturnsLast env pkt s.inst = true → last) :
    Turns response late last s
      { (s.ftbFlush env pkt).countIf (ftbReturnsLast env pkt s.inst)
          (fun t => { t with lastsDone := t.lastsDone + 1 }) with
        inst := irisHfiGen1SessionFtbDone env pkt s.inst } := by
  have heos : Turns response late last s
      { s.ftbFlush env pkt with inst := ftbEos env pkt s.inst } := ftbEos_turns env pkt s
  unfold ftbReturnsLast at hreturns ⊢
  unfold irisHfiGen1SessionFtbDone
  split_ifs at hreturns ⊢
  · exact heos.trans ((KeepsControl.refl _).applyIf _ KeepsControl.ftbUnmatched).turns
  · exact heos.trans (ftbMatch_turns env pkt _ _ hreturns)

/-! ### Source changes -/

theorem Turns.same {u : Session} (hturns : Turns response late last s t) (hinst : u.inst = t.inst)
    (htally : u.tally = t.tally) : Turns response late last s u :=
  hturns.trans (.single (.keeps (hinst ▸ .refl _) (by rw [htally])))

theorem sessionFlush_turns (flushRet : Int) (s : Session) :
    Turns response late last s
      { (if flushRet = 0 then s.acceptFlush else s) with
        inst := NabuIris.sessionFlush flushRet s.inst } := by
  unfold NabuIris.sessionFlush Inst.applyIf
  by_cases hret : flushRet = 0
  · simp only [hret, if_true, decide_true]
    exact .single (.flush rfl rfl)
  · simp only [hret, if_false, decide_false, Bool.false_eq_true]
    exact .refl

theorem irisInstSubStateChangeDrc_bits {inst : Inst}
    (hnone : hasFlag inst.subState subDrc = false) :
    ∃ bits, DrcBits inst.state bits ∧
      irisInstSubStateChangeDrc inst = irisInstChangeSubState 0 bits inst := by
  unfold irisInstSubStateChangeDrc
  rw [hnone, if_neg (by decide)]
  split_ifs with hstate
  · exact ⟨_, .inl ⟨rfl, hstate⟩, rfl⟩
  · exact ⟨_, .inr rfl, rfl⟩

/-- A source change is taken up, or changes nothing. -/
theorem armsDrc_cases {inst : Inst} (flushRet : Int)
    (hnone : hasFlag inst.subState subDrc = false) :
    armsDrc inst = false ∧ irisHfiGen1ArmDrc flushRet inst = inst ∨
      ∃ bits, DrcBits inst.state bits ∧ inst.state ≠ .error ∧ armsDrc inst = true ∧
        irisInstAllowSubState inst.state bits = true ∧
        irisInstSubStateChangeDrc inst =
          (0, { inst with subState := inst.subState ||| bits }) := by
  obtain ⟨bits, hbits, hdrc⟩ := irisInstSubStateChangeDrc_bits hnone
  have hpos : bits ≠ 0 := by
    rintro rfl
    obtain ⟨hzero, -⟩ | hzero := hbits
    · exact absurd hzero (by decide)
    · exact absurd hzero (by decide)
  rw [hdrc]
  obtain ⟨hsame, hfail⟩ | ⟨hstate, hallow, hset⟩ := irisInstChangeSubState_set bits inst
  · left
    have hlast : (irisInstSubStateChangeDrcLast inst).2 = inst := by
      simp [irisInstSubStateChangeDrcLast, hnone]
    unfold armsDrc irisHfiGen1ArmDrc orGoto
    rw [hdrc, hsame]
    generalize irisInstChangeSubState 0 bits inst = call at hfail
    obtain herror | hret := hfail.imp_right fun h => h.resolve_left hpos
    · simp [herror, Inst.applyIf, hlast]
    · simp [hret]
  · refine .inr ⟨bits, hbits, hstate, ?_, hallow, hset⟩
    rw [armsDrc, hdrc, hset]
    simpa using hstate

theorem armDrc_turns (flushRet : Int) (s : Session) (inst : Inst)
    (hnone : hasFlag inst.subState subDrc = false) :
    Turns response late last { s with inst }
      { (s.drcFlush flushRet inst).countIf (armsDrc inst)
          (fun t => { t with changesArmed := t.changesArmed + 1 }) with
        inst := irisHfiGen1ArmDrc flushRet inst } := by
  obtain ⟨harms, heq⟩ | ⟨bits, hbits, hstate, harms, hallow, hdrc⟩ := armsDrc_cases flushRet hnone
  · rw [harms, heq, Session.drcFlush, armFlushes, harms]
    exact .refl
  · let armed : Inst := { inst with subState := inst.subState ||| bits }
    let counted : Session :=
      { s.count fun t => { t with changesArmed := t.changesArmed + 1 } with inst := armed }
    have harmed : Turns response late last { s with inst } counted :=
      .single (.arm hbits hnone hallow rfl rfl)
    have hflushes : armFlushes inst = !hasFlag armed.subState subFirstIpsc := by
      rw [armFlushes, harms, hdrc]
      rfl
    have hrest : irisHfiGen1ArmDrc flushRet inst = (irisInstSubStateChangeDrcLast
        (armed.applyIf (!hasFlag armed.subState subFirstIpsc)
          (NabuIris.sessionFlush flushRet))).2 := by
      have hrunning : (armed.state != .error) = true := bne_iff_ne.2 hstate
      rw [irisHfiGen1ArmDrc, hdrc, orGoto_zero]
      change (irisInstSubStateChangeDrcLast (armed.applyIf
        (armed.state != .error && !hasFlag armed.subState subFirstIpsc) _)).2 = _
      rw [hrunning, Bool.true_and]
    rw [hrest, Session.drcFlush, hflushes, harms]
    cases hasFlag armed.subState subFirstIpsc with
    | true => exact harmed.trans (drcLast_turns counted)
    | false =>
        have hflush := @sessionFlush_turns response late last flushRet counted
        refine Turns.same ((harmed.trans hflush).trans (drcLast_turns _)) rfl ?_
        rw [Session.countIf, if_pos rfl]
        unfold Session.count
        simp only [Bool.not_false, if_true]
        split_ifs <;> rfl

theorem seqInitial_turns (resumeRet : Int) (hnone : hasFlag s.inst.subState subDrc = false) :
    Turns response late last s { s with inst := seqInitial resumeRet s.inst } := by
  unfold seqInitial
  rw [irisInstChangeSubState_clears]
  split_ifs
  · exact (KeepsControl.refl _).enterError.turns
  · exact .refl
  · exact .single (.initial hnone rfl rfl)

theorem seqChanged_turns (pkt : SeqChanged) (s : Session) :
    Turns response late last s
      { (match seqArming pkt s.inst with
          | none => s
          | some inst =>
              (s.drcFlush pkt.flushRet inst).countIf (armsDrc inst) fun t =>
                { t with changesArmed := t.changesArmed + 1 }) with
        inst := irisHfiGen1EventSeqChanged pkt s.inst } := by
  unfold seqArming irisHfiGen1EventSeqChanged
  cases hnone : hasFlag s.inst.subState subDrc with
  | true => exact .refl
  | false =>
      cases hvalid : pkt.valid with
      | false => exact (KeepsControl.refl _).enterError.turns
      | true =>
          simp only [Bool.not_true, Bool.or_self, Bool.false_eq_true, if_false]
          have hmarked : KeepsControl s.inst (s.inst.applyIf pkt.unsupported Inst.enterError) :=
            (KeepsControl.refl _).applyIf _ KeepsControl.enterError
          generalize s.inst.applyIf pkt.unsupported Inst.enterError = inst at hmarked
          have hbefore : hasFlag inst.subState subDrc = false := by rw [hmarked.subState, hnone]
          unfold seqReconfigure
          split_ifs
          · exact hmarked.turns.trans (seqInitial_turns _ hbefore)
          · exact hmarked.turns.trans (armDrc_turns pkt.flushRet s inst hbefore)

/-! ### Commands -/

/-- The bits of what is pending are cleared, and the last buffer is taken back. -/
theorem resume_turns {pair : SubState}
    (hpair : pair = subDrc ||| subDrcLast ∧ irisDrcPending s.inst = true ∨
      pair = subDrain ||| subDrainLast ∧ irisDrainPending s.inst = true)
    (hlate : s.inst.state = .error → s.inst.lastBufferDequeued = true → late) :
    Turns response late last s
      { s with
        inst :=
          { (irisInstChangeSubState (pair ||| pausedSubState s.inst) 0 s.inst).2 with
            lastBufferDequeued := false } } := by
  rw [irisInstChangeSubState_clears]
  split_ifs with herror
  · by_cases hlast : s.inst.lastBufferDequeued = true
    · exact .single (.resumeLate (hlate herror hlast) rfl rfl)
    · exact KeepsControl.turns ⟨rfl, rfl, .inl rfl, rfl, rfl, fun h => absurd h hlast, rfl, rfl⟩
  · exact .single (.resume hpair rfl rfl)

theorem vdecStart_turns (env : CmdEnv) (s : Session)
    (hlate : s.inst.state = .error → s.inst.lastBufferDequeued = true →
      vdecResumes env s.inst = true → late) :
    Turns response late last s { s with inst := (irisVdecStartCmdFlushed env s.inst).2 } := by
  have hend : ∀ inst, Turns response late last s { s with inst } →
      Turns response late last s { s with inst := (if inst.legacyVpu5 ∧ inst.state = .streaming then
        startRequeue env inst else (0, inst)).2 } := by
    intro inst hturns
    split_ifs
    · exact hturns.trans ((KeepsControl.refl _).startRequeue env).turns
    · exact hturns
  unfold irisVdecStartCmdFlushed
  extract_lets clear
  have hclear : ∀ ret pair,
      (pair = subDrc ||| subDrcLast ∧ irisDrcPending s.inst = true ∨
        pair = subDrain ||| subDrainLast ∧ irisDrainPending s.inst = true) →
      (ret = 0 → s.inst.state = .error → s.inst.lastBufferDequeued = true → late) →
      Turns response late last s
        { s with
          inst := (orGoto (clear ret pair) (fun ret inst => (ret, inst)) fun inst =>
            let inst := { inst with lastBufferDequeued := false }
            if inst.legacyVpu5 ∧ inst.state = .streaming then startRequeue env inst
            else (0, inst)).2 } := by
    intro ret pair hpair hlate
    by_cases hret : ret = 0
    · have hresumed : Turns response late last s _ := resume_turns hpair (hlate hret)
      have hclears : clear ret pair =
          (0, (irisInstChangeSubState (pair ||| pausedSubState s.inst) 0 s.inst).2) := by
        dsimp only [clear]
        rw [hret, orGoto_zero, irisInstChangeSubState_clears]
      rw [hclears, orGoto_zero]
      exact hend _ hresumed
    · have hfails : clear ret pair = (ret, s.inst) := if_pos hret
      rw [hfails, orGoto, if_pos hret]
  unfold vdecResumes at hlate
  split_ifs with hdrc hdrain
  · refine hclear _ _ (.inl ⟨rfl, hdrc⟩) fun hret herror hlast => hlate herror hlast ?_
    rw [if_pos hdrc, decide_eq_true hret]
  · refine hclear _ _ (.inr ⟨rfl, hdrain⟩) fun hret herror hlast => hlate herror hlast ?_
    rw [if_neg hdrc, hdrain, decide_eq_true hret]
    rfl
  · exact (KeepsControl.refl _).enterError.turns

theorem vencStart_turns (env : CmdEnv) (s : Session)
    (hlate : s.inst.state = .error → s.inst.lastBufferDequeued = true →
      vencResumes env s.inst = true → late) :
    Turns response late last s { s with inst := (irisVencStartCmd env s.inst).2 } := by
  unfold irisVencStartCmd
  split_ifs with hdrain
  · by_cases hret : resumePaused (sessionResumeDrain s.inst.gen env.resumeRet) s.inst = 0
    · have hresumes : vencResumes env s.inst = true := by
        rw [vencResumes, hdrain, decide_eq_true hret]
        rfl
      have hresumed : Turns response late last s _ := resume_turns (.inr ⟨rfl, hdrain⟩)
        fun herror hlast => hlate herror hlast hresumes
      rw [hret, orGoto_zero, irisInstChangeSubState_clears]
      rw [irisInstChangeSubState_clears] at hresumed
      refine hresumed.same ?_ rfl
      dsimp only
      split_ifs <;> rfl
    · rw [orGoto, if_pos hret]
  · exact (KeepsControl.refl _).enterError.turns

theorem start_turns (env : CmdEnv) (s : Session)
    (hlate : startsLate (.cmd env .start) s.inst = true → late) :
    Turns response late last s { s with inst := (irisCmd env .start s.inst).2 } := by
  unfold irisCmd
  split_ifs with hdeinit hallow
  · exact .refl
  · exact .refl
  · simp only [Bool.not_eq_true', Bool.not_eq_false] at hallow
    cases hdomain : s.inst.domain with
    | decoder =>
        dsimp only
        unfold irisVdecStartCmd
        split_ifs with hformat hstreaming hflush
        · exact .refl
        · exact .refl
        · exact .refl
        · refine vdecStart_turns env s fun herror hlast hresumes => hlate ?_
          have hready : s.inst.legacyVpu5 = false ∨ s.inst.flushResponsesPending = 0 :=
            (not_and_or.1 hflush).imp Bool.eq_false_iff.2 not_not.1
          simp only [startsLate, startResumes, hallow, hdomain, herror, hlast, hresumes]
          simpa [hformat] using hready
    | encoder =>
        dsimp only
        refine vencStart_turns env s fun herror hlast hresumes => hlate ?_
        simp [startsLate, startResumes, hallow, hdomain, herror, hlast, hresumes]

theorem stop_turns (env : CmdEnv) (s : Session) :
    Turns response late last s
      { (s.countIf (sendsDrain env .stop s.inst) fun t =>
          { t with drainsSent := t.drainsSent + 1 }).countIf (acceptsStop env .stop s.inst)
          (fun t => { t with stopsAccepted := t.stopsAccepted + 1 }) with
        inst := (irisCmd env .stop s.inst).2 } := by
  have hdrained : Turns response late last s (s.countIf (sendsDrain env .stop s.inst) fun t =>
      { t with drainsSent := t.drainsSent + 1 }) := by
    unfold Session.countIf
    split_ifs
    · exact .single (.keeps (.refl _) rfl)
    · exact .refl
  have hinst : (s.countIf (sendsDrain env .stop s.inst) fun t =>
      { t with drainsSent := t.drainsSent + 1 }).inst = s.inst := by
    unfold Session.countIf
    split_ifs <;> rfl
  generalize (s.countIf (sendsDrain env .stop s.inst) fun t =>
    { t with drainsSent := t.drainsSent + 1 }) = drained at hdrained hinst
  rw [← hinst] at *
  unfold acceptsStop
  cases hreach : reachesDrain .stop drained.inst with
  | false =>
      have hcmd : (irisCmd env .stop drained.inst).2 = drained.inst := by
        unfold irisCmd
        split_ifs with hdeinit hallow
        · rfl
        · rfl
        · simp_all [reachesDrain]
      rw [hcmd]
      exact hdrained
  | true =>
      have hcmd : irisCmd env .stop drained.inst = irisStopCmd env drained.inst := by
        simp only [reachesDrain, Bool.and_eq_true, bne_iff_ne] at hreach
        rw [irisCmd, if_neg hreach.1.2, hreach.2]
        rfl
      rw [hcmd, irisStopCmd]
      by_cases hret : env.drainRet = 0
      · rw [hret, orGoto_zero]
        obtain ⟨hsame, hfail⟩ | ⟨-, hallow, hset⟩ :=
          irisInstChangeSubState_set subDrain drained.inst
        · rw [hsame]
          by_cases haccepted : (irisInstChangeSubState 0 subDrain drained.inst).1 = 0
          · rw [haccepted]
            exact .tail hdrained (.stop (.inl rfl) (by simp) rfl)
          · rw [decide_eq_false haccepted]
            exact hdrained
        · rw [hset]
          exact .tail hdrained (.stop (.inr ⟨rfl, hallow⟩) rfl rfl)
      · rw [orGoto, if_pos hret, decide_eq_false hret]
        exact hdrained

theorem flushDone_tally (answers : Bool) (s : Session) :
    (s.flushDone answers).tally =
      s.tally.flushDone answers s.inst.flushResponsesPending := by
  unfold Session.flushDone Session.countIf Session.count Tally.flushDone
  cases answers && decide (s.tally.flushesAnswered < s.tally.flushesAccepted) with
  | false =>
      simp only [Bool.false_eq_true, if_false, Bool.false_and]
      split_ifs <;> rfl
  | true =>
      simp only [if_true, Bool.true_and, decide_eq_true_eq]
      split_ifs <;> rfl

theorem sessionDone_turns (type : SessionDone) (error : SessionError) (answers : Bool)
    (hresponse : type = .flush → response = some answers) (s : Session) :
    Turns response late last s
      { (if type = .flush then s.flushDone answers else s) with
        inst := irisHfiGen1SessionDone type error s.inst } := by
  have hmarked : KeepsControl s.inst (s.inst.applyIf
      (!sessionDoneAccepted type error s.inst && error != .none) Inst.enterError) :=
    (KeepsControl.refl _).applyIf _ KeepsControl.enterError
  unfold irisHfiGen1SessionDone
  generalize s.inst.applyIf (!sessionDoneAccepted type error s.inst && error != .none)
    Inst.enterError = inst at hmarked
  unfold Inst.applyIf
  by_cases hflush : type = .flush
  · simp only [hflush, if_true, decide_true]
    refine .tail hmarked.turns (.answer (hresponse hflush) rfl ?_)
    rw [flushDone_tally, hmarked.flush]
  · simp only [hflush, if_false, decide_false, Bool.false_eq_true]
    exact hmarked.turns

theorem observe_turns (hgen : s.inst.gen = .gen1) (arrival : Arrival) :
    Turns arrival.flushResponse (startsLate arrival.event s.inst = true)
      (returnsLast arrival.event s.inst = true) s
      { s.observe arrival with inst := handleEvent arrival.event s.inst } := by
  obtain ⟨event, answers⟩ := arrival
  cases event with
  | gen1 response =>
      have hevent : handleEvent (.gen1 response) s.inst =
          irisHfiGen1HandleResponse response s.inst := by
        rw [handleEvent, hgen]
      rw [hevent]
      cases response with
      | etbDone pkt => exact ((KeepsControl.refl _).etbDone pkt).turns
      | ftbDone env pkt => exact ftbDone_turns env pkt s id
      | sessionDone type error =>
          cases type with
          | flush => exact sessionDone_turns .flush error answers (fun _ => rfl) s
          | stop => exact sessionDone_turns .stop error answers (by rintro ⟨⟩) s
          | other => exact sessionDone_turns .other error answers (by rintro ⟨⟩) s
      | sessionError fatal =>
          exact ((KeepsControl.refl _).applyIf fatal KeepsControl.enterError).turns
      | seqChanged pkt => exact seqChanged_turns pkt s
  | gen2 packets =>
      have hevent : handleEvent (.gen2 packets) s.inst = s.inst := by rw [handleEvent, hgen]
      rw [hevent]
      exact .refl
  | systemError => exact (KeepsControl.refl _).enterError.turns
  | responseTimeout => exact (KeepsControl.refl _).enterError.turns
  | cmd env cmd =>
      cases cmd with
      | start => exact start_turns env s id
      | stop => exact stop_turns env s
  | startFlushed env timedOut =>
      cases timedOut with
      | true => exact (KeepsControl.refl _).enterError.turns
      | false =>
          refine (vdecStart_turns env s fun herror hlast hresumes => ?_).same rfl rfl
          simp [startsLate, herror, hlast, hresumes]

theorem Turns.disallowed (hturns : Turns response late last s t) :
    t.tally.disallowed = s.tally.disallowed := by
  induction hturns with
  | refl => rfl
  | tail _ hturn ih =>
      rw [← ih]
      cases hturn with
      | answer _ _ htally =>
          rw [htally]
          rfl
      | keeps _ htally | flush _ htally | arm _ _ _ _ htally | lastSeen _ _ _ _ htally
        | stop _ _ htally | lastBuffer _ _ _ _ htally | resume _ _ htally | resumeLate _ _ htally
        | initial _ _ htally => rw [htally]

/-- **The turns of an event.** -/
theorem handle_turns (hgen : s.inst.gen = .gen1) (arrival : Arrival) :
    ∃ t, Turns arrival.flushResponse (startsLate arrival.event s.inst = true)
      (returnsLast arrival.event s.inst = true) s t ∧
      s.handle arrival =
        { t with
          tally :=
            { t.tally with
              disallowed := s.tally.disallowed ||
                setsDisallowed s.inst.state s.inst.subState t.inst.subState } } := by
  have hturns := observe_turns hgen arrival
  refine ⟨_, hturns, ?_⟩
  rw [← hturns.disallowed]
  unfold Session.handle
  rw [hgen]
  cases arrival.event <;> rfl

end

end NabuIris
