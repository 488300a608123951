import Mathlib.Algebra.Group.Nat.Defs
import NabuIris.Proof.DrainGuard
import NabuIris.Proof.SessionRules

/-!
# The books of the flushes

`flush_responses_pending` counts the FLUSH commands of the first generation that are not answered
yet. A response does not say which command it answers, and a session id is used again, so the count
is right as long as every FLUSH response answers a command of the session it arrives in.
-/

namespace NabuIris

open Lib

/-! ### What the accounting sees -/

structure FlushView where
  gen : Gen
  pending : BitVec 32
  accepted : Nat
  answered : Nat
  settled : Nat
  signals : Nat

def Session.flushView (s : Session) : FlushView where
  gen := s.inst.gen
  pending := s.inst.flushResponsesPending
  accepted := s.tally.flushesAccepted
  answered := s.tally.flushesAnswered
  settled := s.tally.flushesSettled
  signals := s.tally.flushSignals

/-- A FLUSH is sent. -/
def FlushView.accept (view : FlushView) : FlushView :=
  { view with pending := view.pending + 1, accepted := view.accepted + 1 }

/-- The session ends. -/
def FlushView.close (view : FlushView) : FlushView :=
  { view with pending := 0, accepted := 0, answered := 0 }

namespace Session

variable {s : Session}

theorem flushView_inst {inst : Inst} (completion : Nat) (hgen : inst.gen = s.inst.gen)
    (hflush : inst.flushResponsesPending = s.inst.flushResponsesPending) :
    { s with inst, flushCompletion := completion }.flushView = s.flushView := by
  simp only [flushView, hgen, hflush]

theorem flushView_keeps {inst : Inst} (hkeeps : KeepsControl s.inst inst) :
    { s with inst }.flushView = s.flushView :=
  flushView_inst _ hkeeps.gen hkeeps.flush

theorem flushView_changeSubState (clear set : SubState) (s : Session) :
    (s.changeSubState clear set).2.flushView = s.flushView := by
  obtain ⟨_, heq⟩ := irisInstChangeSubState_frame clear set s.inst
  simp only [changeSubState, flushView, heq]

theorem flushView_changeState (state : InstState) (s : Session) :
    { s with inst := (irisInstChangeState state s.inst).2 }.flushView = s.flushView := by
  unfold irisInstChangeState
  split_ifs <;> rfl

theorem flushView_bufQueue (ret : Int) (plane : Plane) (i : Nat) (data : QbufData) (s : Session) :
    (s.vb2BufQueue ret plane i data).flushView = s.flushView := by
  have hqueue := KeepsControl.bufQueue ret plane i data s.inst
  unfold vb2BufQueue countIf
  split_ifs
  · exact flushView_keeps (s := s.count _) hqueue
  · exact flushView_keeps hqueue

theorem flushView_handOver (plane : Plane) (bufs : List (Nat × QbufData)) (s : Session) :
    (s.vb2HandOver plane bufs).flushView = s.flushView := by
  unfold vb2HandOver
  induction bufs generalizing s with
  | nil => rfl
  | cons buf rest ih => exact (ih _).trans (flushView_bufQueue _ _ _ _ _)

end Session

/-! ### Through the streaming functions -/

section Sections

variable {allowed : Allowed Session InstCall Arrival QueueCall} {P : FlushView → Prop}

theorem FlushView.enduring (haccept : ∀ view, P view → P view.accept)
    (hclose : ∀ view, P view → P view.close)
    (hstable : Lib.Stable sessionMachine allowed fun s => P s.flushView) :
    Enduring allowed (fun _ s => P s.flushView) fun s => P s.flushView where
  stable := hstable
  inv _ _ hs := hs
  error s hs := by
    have herror : KeepsControl s.inst s.inst.enterError := (KeepsControl.refl _).enterError
    exact (Session.flushView_keeps herror).symm ▸ hs
  completion s _ hs := hs
  load s hs := (Session.flushView_changeSubState _ _ s).symm ▸ hs
  unload s hs := (Session.flushView_changeSubState _ _ s).symm ▸ hs
  flush s hs := haccept _ hs
  returned s hs := by
    have hunwinds : Unwinds s.inst (returnAllBuffers s.inst) := (Unwinds.refl _).returnAllBuffers
    exact (Session.flushView_keeps hunwinds.toKeepsControl).symm ▸ hs
  unwinds s inst hunwinds hs := (Session.flushView_keeps hunwinds.toKeepsControl).symm ▸ hs
  change s state hs := (Session.flushView_changeState state s).symm ▸ hs
  close s hs := hclose _ hs

variable {s : Session}

/-- The property, of the view. -/
abbrev Viewed (P : FlushView → Prop) (s : Session) : Prop := P s.flushView

theorem Viewed.changeSubState (clear set : SubState) (hs : Viewed P s) :
    Viewed P (s.changeSubState clear set).2 := by
  unfold Viewed
  rwa [Session.flushView_changeSubState]

variable (hkeeps : Enduring allowed (fun _ => Viewed P) (Viewed P))
include hkeeps

theorem streamonInput_viewed (env : InstEnv) (hs : Viewed P s) :
    Sat sessionMachine allowed (fun _ => Viewed P) (fun _ => Viewed P)
      (Session.irisStreamonInput env s) := by
  have hstarted : ∀ s, Viewed P s → Sat sessionMachine allowed (fun _ => Viewed P)
      (fun _ => Viewed P) (Session.streamonInputStarted env s) := by
    intro s hs
    unfold Session.streamonInputStarted
    refine orGoto_keep (Q := Viewed P) ?_ (fun _ _ => id) fun s hs => ?_
    · split_ifs
      · exact hs.changeSubState _ _
      · exact hs
    · refine orGoto_value_rule (fun _ => hs) fun _ => ?_
      exact orGoto_keep (Q := Viewed P) (hkeeps.change s _ hs) (fun _ _ => id)
        fun s hs => Viewed.changeSubState _ _ hs
  have hprocess : ∀ s, Viewed P s → Sat sessionMachine allowed (fun _ => Viewed P)
      (fun _ => Viewed P) (Session.irisProcessStreamonInput env s) := fun s hs =>
    Sat.orGoto (hkeeps.sessionStart env .output hs) (fun _ _ _ => id) hstarted
  unfold Session.irisStreamonInput
  cases s.inst.domain with
  | decoder =>
      refine Sat.orGoto (hkeeps.waitingCall env _ hs) (fun _ _ _ => id) fun s hs => ?_
      exact orGoto_value_rule (fun _ => hs) fun _ => hprocess s hs
  | encoder =>
      refine Sat.orGoto (hkeeps.waitingCall env _ hs) (fun _ _ _ => id) fun s hs => ?_
      exact orGoto_value_rule (fun _ => hs) fun _ => hprocess s hs

theorem processStreamonOutput_viewed (env : InstEnv) (hs : Viewed P s) :
    Sat sessionMachine allowed (fun _ => Viewed P) (fun _ => Viewed P)
      (Session.irisProcessStreamonOutput env s) := by
  have hstarted : ∀ active clear s, Viewed P s → Sat sessionMachine allowed (fun _ => Viewed P)
      (fun _ => Viewed P) (Session.streamonOutputStarted env active clear s) := by
    intro active clear s hs
    unfold Session.streamonOutputStarted
    refine orGoto_value_rule (fun _ => hs) fun _ => ?_
    refine Sat.orGoto (hkeeps.sessionStart env .capture hs) (fun _ _ _ => id) fun s hs => ?_
    exact orGoto_keep (Q := Viewed P) (hkeeps.change s _ hs) (fun _ _ => id)
      fun s hs => Viewed.changeSubState _ _ hs
  unfold Session.irisProcessStreamonOutput
  dsimp only
  split_ifs
  · exact Sat.orGoto (hkeeps.streamonInputInternal env hs) (fun _ _ _ => id) fun s hs =>
      hstarted _ _ s hs
  · have hidle : Sat sessionMachine allowed (fun _ => Viewed P) (fun _ => Viewed P)
        (.done (0 : Int) s) := hs
    exact Sat.orGoto hidle (fun _ _ _ => id) fun s hs => hstarted _ _ s hs

theorem streamonOutput_viewed (env : InstEnv) (hs : Viewed P s) :
    Sat sessionMachine allowed (fun _ => Viewed P) (fun _ => Viewed P)
      (Session.irisStreamonOutput env s) := by
  have hrollback : ∀ ret s, Viewed P s → Sat sessionMachine allowed (fun _ => Viewed P)
      (fun _ => Viewed P) (Session.streamonRollback env ret s) := by
    intro ret s hs
    have hmarked : Viewed P (s.onInst fun inst =>
      { inst with startStreamingRollbackType := some .capture }) := hs
    exact (hkeeps.sessionStreamoff env .capture hmarked).bind fun _ s hs => hs
  unfold Session.irisStreamonOutput
  cases s.inst.domain with
  | decoder =>
      refine Sat.orGoto (hkeeps.waitingCall env _ hs) (fun _ _ _ => id) fun s hs => ?_
      refine orGoto_value_rule (fun _ => hs) fun _ => ?_
      refine Sat.orGoto (processStreamonOutput_viewed hkeeps env hs)
        (fun ret s _ hs => hrollback ret s hs) fun s hs => ?_
      exact orGoto_value_rule (fun _ => hrollback _ s hs) fun _ => hs
  | encoder =>
      refine Sat.orGoto (hkeeps.waitingCall env _ hs) (fun ret s _ hs => hrollback ret s hs)
        fun s hs => ?_
      refine orGoto_value_rule (fun _ => hs) fun _ => ?_
      refine orGoto_value_rule (fun _ => hrollback _ s hs) fun _ => ?_
      exact Sat.orGoto (processStreamonOutput_viewed hkeeps env hs)
        (fun ret s _ hs => hrollback ret s hs) fun _ => id

theorem startStreaming_viewed (env : InstEnv) (plane : Plane) (hs : Viewed P s) :
    Sat sessionMachine allowed (fun _ => Viewed P) (fun _ => Viewed P)
      (Session.irisVb2StartStreaming env plane s) := by
  have herror : ∀ ret s, Viewed P s → Sat sessionMachine allowed (fun _ => Viewed P)
      (fun _ => Viewed P) (Session.startError plane ret s) := fun ret s hs =>
    hkeeps.unwinds s _ ((Unwinds.refl _).buffersDone plane .queued).enterError hs
  unfold Session.irisVb2StartStreaming
  split_ifs
  · exact herror _ s hs
  · refine orGoto_value_rule (fun _ => herror _ s hs) fun _ => ?_
    refine Sat.orGoto (hkeeps.hfiSessionOpen env hs) (fun ret s _ => herror ret s) fun s hs => ?_
    refine Sat.orGoto (?_ : Sat sessionMachine allowed (fun _ => Viewed P) (fun _ => Viewed P) _)
      (fun ret s _ => herror ret s) fun s hs => ?_
    · cases plane with
      | output => exact streamonInput_viewed hkeeps env hs
      | capture => exact streamonOutput_viewed hkeeps env hs
    · refine orGoto_keep (Q := Viewed P) ?_ (fun ret s => herror ret s) fun _ => id
      have hdeferred := (KeepsControl.refl s.inst).startDeferred env plane
      exact (congrArg P (Session.flushView_keeps hdeferred)).mpr hs

theorem stopStreaming_viewed (env : InstEnv) (plane : Plane) (hs : Viewed P s) :
    Sat sessionMachine allowed (fun _ => Viewed P) (fun _ => Viewed P)
      (Session.irisVb2StopStreaming env plane s) := by
  have hcleared : ∀ cond, Viewed P (s.onInst fun inst =>
      inst.applyIf cond irisVdecClearPendingOutput) := by
    intro cond
    cases cond <;> exact hs
  unfold Session.irisVb2StopStreaming
  split_ifs
  · exact hs
  · refine (hkeeps.sessionStreamoff env plane (hcleared _)).bind fun ret s hs => ?_
    exact hkeeps.unwinds s _
      (((Unwinds.refl _).buffersDone plane .error).applyIf _ Unwinds.enterError) hs

/-- What the accounting keeps, every call keeps. -/
theorem body_viewed (call : QueueCall) (hs : Viewed P s) :
    Sat sessionMachine allowed (fun _ => Viewed P) (fun _ => Viewed P) (Session.body call s) := by
  cases call with
  | reqbufs env =>
      change Sat _ _ _ _ (Session.irisVb2QueueSetup env s)
      unfold Session.irisVb2QueueSetup
      split_ifs
      · exact hs
      · exact orGoto_value_rule (fun _ => hs) fun _ => hkeeps.hfiSessionOpen env hs
  | qbuf ret plane i data =>
      change Viewed P (if s.inst.streaming plane then s.vb2BufQueue ret plane i data else s)
      split_ifs
      · exact (congrArg P (Session.flushView_bufQueue ret plane i data s)).mpr hs
      · exact hs
  | streamon env plane bufs =>
      have hhanded : Viewed P (s.vb2HandOver plane bufs) :=
        (congrArg P (Session.flushView_handOver plane bufs s)).mpr hs
      unfold Session.body
      dsimp only
      split_ifs
      · exact hs
      · refine (startStreaming_viewed hkeeps env plane hhanded).bind fun ret s hs => ?_
        have hend : ∀ cond, Viewed P (s.onInst fun inst =>
            inst.applyIf cond (·.setStreaming plane true)) := by
          intro cond
          cases cond <;> exact hs
        exact hend _
  | streamoff env plane =>
      unfold Session.body
      dsimp only
      split_ifs
      · exact (stopStreaming_viewed hkeeps env plane hs).bind fun _ _ hs => hs
      · exact hs

end Sections

/-! ### Through the events -/

/-- A FLUSH response arrives. -/
def FlushView.answer (answers : Bool) (view : FlushView) : FlushView :=
  let answered : Bool := answers && view.answered < view.accepted
  { view with
    pending := view.pending - 1
    answered := if answered then view.answered + 1 else view.answered
    settled :=
      if answered && view.accepted = view.answered + 1 then view.settled + 1 else view.settled
    signals := if view.pending - 1 = 0 then view.signals + 1 else view.signals }

section Events

variable {s t : Session} {answers : Bool} {late last : Prop}

theorem flushView_of (hgen : t.inst.gen = s.inst.gen)
    (hflush : t.inst.flushResponsesPending = s.inst.flushResponsesPending)
    (haccepted : t.tally.flushesAccepted = s.tally.flushesAccepted)
    (hanswered : t.tally.flushesAnswered = s.tally.flushesAnswered)
    (hsettled : t.tally.flushesSettled = s.tally.flushesSettled)
    (hsignals : t.tally.flushSignals = s.tally.flushSignals) : t.flushView = s.flushView := by
  simp only [Session.flushView, hgen, hflush, haccepted, hanswered, hsettled, hsignals]

theorem handle_answer (hgen : s.inst.gen = .gen1) {arrival : Arrival}
    (hresponse : arrival.flushResponse = some answers) :
    (s.handle arrival).flushView = s.flushView.answer answers := by
  obtain ⟨event, own⟩ := arrival
  unfold Arrival.flushResponse at hresponse
  split at hresponse
  · rename_i error hevent
    obtain rfl : event = .gen1 (.sessionDone .flush error) := hevent
    obtain rfl : own = answers := Option.some.inj hresponse
    have hmarked : KeepsControl s.inst (s.inst.applyIf
        (!sessionDoneAccepted .flush error s.inst && error != .none) Inst.enterError) :=
      (KeepsControl.refl _).applyIf _ KeepsControl.enterError
    have hinst : handleEvent (.gen1 (.sessionDone .flush error)) s.inst =
        { s.inst.applyIf (!sessionDoneAccepted .flush error s.inst && error != .none)
            Inst.enterError with
          flushResponsesPending := (s.inst.applyIf (!sessionDoneAccepted .flush error s.inst &&
            error != .none) Inst.enterError).flushResponsesPending - 1 } := by
      rw [handleEvent, hgen]
      rfl
    generalize s.inst.applyIf _ Inst.enterError = marked at hmarked hinst
    have htally : ∀ disallowed, { s.flushDone own with
        inst := { marked with flushResponsesPending := marked.flushResponsesPending - 1 }
        tally := { (s.flushDone own).tally with disallowed } }.flushView =
          s.flushView.answer own := by
      intro disallowed
      simp only [Session.flushView, hmarked.gen, hmarked.flush, flushDone_tally]
      rfl
    unfold Session.handle
    rw [hgen, hinst]
    exact htally _
  · cases hresponse

theorem turns_viewed {P : FlushView → Prop} (haccept : ∀ view, P view → P view.accept)
    (hturns : Turns none late last s t) (hs : P s.flushView) : P t.flushView := by
  induction hturns with
  | refl => exact hs
  | @tail u t _ hturn ih =>
      cases hturn with
      | keeps hinst htally =>
          rw [flushView_of (s := u) hinst.gen hinst.flush (by rw [htally]) (by rw [htally])
            (by rw [htally]) (by rw [htally])]
          exact ih
      | flush hinst htally =>
          have hview : t.flushView = u.flushView.accept := by
            simp only [Session.flushView, FlushView.accept, hinst, htally]
          rw [hview]
          exact haccept _ ih
      | answer hresponse => cases hresponse
      | arm _ _ _ hinst htally | lastSeen _ _ _ hinst htally | stop _ hinst htally
        | lastBuffer _ _ _ hinst htally | resume _ hinst htally | resumeLate _ hinst htally
        | initial _ hinst htally =>
          rw [flushView_of (s := u) (by rw [hinst]) (by rw [hinst]) (by rw [htally])
            (by rw [htally]) (by rw [htally]) (by rw [htally])]
          exact ih

/-- What a FLUSH and its answers keep, an event keeps. -/
theorem handle_viewed {P : FlushView → Prop} (hgen : ∀ view, P view → view.gen = .gen1)
    (haccept : ∀ view, P view → P view.accept) {arrival : Arrival}
    (hanswer : ∀ answers, arrival.flushResponse = some answers →
      P (s.flushView.answer answers)) (hs : P s.flushView) :
    P (s.handle arrival).flushView := by
  cases hresponse : arrival.flushResponse with
  | some answers =>
      rw [handle_answer (hgen _ hs) hresponse]
      exact hanswer answers hresponse
  | none =>
      obtain ⟨t, hturns, heq⟩ := handle_turns (hgen _ hs) arrival
      rw [hresponse] at hturns
      have hafter : P t.flushView := turns_viewed haccept hturns hs
      rw [heq]
      exact hafter

end Events

/-! ### The books -/

/-- The count is the number of outstanding flushes, and `flush_completion` was completed with the
last one of them each time. -/
structure FlushBooks (s : Session) : Prop where
  pending : s.inst.flushResponsesPending.toNat + s.tally.flushesAnswered = s.tally.flushesAccepted
  signals : s.tally.flushSignals = s.tally.flushesSettled

/-- The books are right all along. -/
def FlushesCounted (s : Session) (moves : List SessionMove) : Prop :=
  ∀ pre, pre <+: moves → FlushBooks (sessionAfter s pre)

/-- The flushes of this session that are still to be answered. -/
def flushesOutstanding (s : Session) : Nat := s.tally.flushesAccepted - s.tally.flushesAnswered

/-- A FLUSH response answers a flush of this session. -/
def AnswersOwn (s : Session) (arrival : Arrival) : Prop :=
  ∀ answers, arrival.flushResponse = some answers → answers = true ∧ 0 < flushesOutstanding s

/-- No FLUSH response is late or unsolicited, and the outstanding flushes fit the count. -/
structure FlushesOwned (s : Session) (moves : List SessionMove) : Prop where
  answers : ∀ pre arrival, pre ++ [.event arrival] <+: moves →
    AnswersOwn (sessionAfter s pre) arrival
  fit : ∀ pre, pre <+: moves → flushesOutstanding (sessionAfter s pre) < 2 ^ 32

/-- The books, up to the width of the count. -/
structure FlushView.Balanced (view : FlushView) : Prop where
  gen : view.gen = .gen1
  le : view.answered ≤ view.accepted
  pending : view.pending = BitVec.ofNat 32 (view.accepted - view.answered)
  signals : view.signals = view.settled

namespace FlushView.Balanced

variable {view : FlushView}

theorem accept (hbalanced : view.Balanced) : view.accept.Balanced where
  gen := hbalanced.gen
  le := Nat.le_succ_of_le hbalanced.le
  pending := by
    change view.pending + 1 = BitVec.ofNat 32 (view.accepted + 1 - view.answered)
    rw [hbalanced.pending, Nat.sub_add_comm hbalanced.le, BitVec.ofNat_add]
    rfl
  signals := hbalanced.signals

theorem close (hbalanced : view.Balanced) : view.close.Balanced :=
  ⟨hbalanced.gen, le_rfl, rfl, hbalanced.signals⟩

theorem answer (hbalanced : view.Balanced) (hlt : view.answered < view.accepted)
    (hfit : view.accepted - view.answered < 2 ^ 32) : (view.answer true).Balanced := by
  obtain ⟨rest, hrest⟩ : ∃ rest, view.accepted = view.answered + rest + 1 :=
    ⟨view.accepted - view.answered - 1, by omega⟩
  have hpending : view.pending - 1 = BitVec.ofNat 32 rest := by
    have hcount : view.accepted - view.answered = rest + 1 := by omega
    rw [hbalanced.pending, hcount, BitVec.ofNat_add]
    exact BitVec.add_sub_cancel _ _
  have hlast : view.pending - 1 = 0 ↔ view.accepted = view.answered + 1 := by
    rw [hpending, ← BitVec.toNat_inj, BitVec.toNat_ofNat, Nat.mod_eq_of_lt (by omega)]
    change rest = 0 ↔ _
    omega
  have hanswered : (true && decide (view.answered < view.accepted)) = true := by simpa using hlt
  unfold FlushView.answer
  rw [hanswered]
  refine ⟨hbalanced.gen, hlt, ?_, ?_⟩
  · change view.pending - 1 = BitVec.ofNat 32 (view.accepted - (view.answered + 1))
    rw [hpending]
    congr 1
    omega
  · change (if view.pending - 1 = 0 then view.signals + 1 else view.signals) = _
    simp only [hlast, hbalanced.signals, Bool.true_and, decide_eq_true_eq]

end FlushView.Balanced

/-- The rule for runs, for what the accounting sees. -/
theorem sessionAfter_viewed {P : FlushView → Prop} (hgen : ∀ view, P view → view.gen = .gen1)
    (haccept : ∀ view, P view → P view.accept) (hclose : ∀ view, P view → P view.close)
    {Q : Arrival → Session → Prop}
    (hanswer : ∀ arrival s answers, Q arrival s → arrival.flushResponse = some answers →
      P s.flushView → P (s.flushView.answer answers))
    {s : Session} {moves : List SessionMove} (hinit : P s.flushView)
    (hok : ∀ pre arrival, pre ++ [.event arrival] <+: moves → Q arrival (sessionAfter s pre)) :
    P (sessionAfter s moves).flushView := by
  let allowed : Allowed Session InstCall Arrival QueueCall :=
    { event := Q, call := fun _ _ => True, resume := fun _ _ _ => True }
  have hstable : Lib.Stable sessionMachine allowed (Viewed P) := fun arrival s harrival hs =>
    handle_viewed hgen haccept (fun answers hresponse => hanswer arrival s answers harrival
      hresponse hs) hs
  have hkeeps := FlushView.enduring haccept hclose hstable
  refine (Machine.runs_valid hstable (fun call s _ hs => body_viewed hkeeps call hs) hinit
    fun pre move hpre => ?_).holds
  cases move with
  | event arrival => exact hok pre arrival hpre
  | call op => exact fun _ => trivial
  | resume timedOut => exact fun _ _ _ => trivial

theorem sessionAfter_gen {s : Session} (hgen : s.inst.gen = .gen1) (moves : List SessionMove) :
    (sessionAfter s moves).inst.gen = .gen1 :=
  sessionAfter_viewed (P := fun view => view.gen = .gen1) (Q := fun _ _ => True) (fun _ => id)
    (fun _ => id) (fun _ => id) (fun _ _ _ _ _ => id) hgen fun _ _ _ => trivial

/-- A run whose FLUSH responses all answer flushes keeps its books. -/
theorem FlushesOwned.balanced {s : Session} {moves : List SessionMove}
    (howned : FlushesOwned s moves) (hinit : s.flushView.Balanced) :
    (sessionAfter s moves).flushView.Balanced := by
  refine sessionAfter_viewed (P := FlushView.Balanced)
    (Q := fun arrival s => AnswersOwn s arrival ∧ flushesOutstanding s < 2 ^ 32) (fun _ => (·.gen))
    (fun _ => FlushView.Balanced.accept) (fun _ => FlushView.Balanced.close)
    (fun arrival s answers hok hresponse hs => ?_) hinit fun pre arrival hpre =>
      ⟨howned.answers pre arrival hpre, howned.fit pre ((List.prefix_append _ _).trans hpre)⟩
  obtain ⟨rfl, hpos⟩ := hok.1 answers hresponse
  exact hs.answer (Nat.lt_of_sub_pos hpos) hok.2

theorem FlushBooks.balanced {s : Session} (hgen : s.inst.gen = .gen1) (hbooks : FlushBooks s) :
    s.flushView.Balanced where
  gen := hgen
  le := Nat.le.intro ((Nat.add_comm _ _).trans hbooks.pending)
  pending := by
    have hcount : s.tally.flushesAccepted - s.tally.flushesAnswered =
        s.inst.flushResponsesPending.toNat := by
      rw [← hbooks.pending, Nat.add_sub_cancel]
    change s.inst.flushResponsesPending =
      BitVec.ofNat 32 (s.tally.flushesAccepted - s.tally.flushesAnswered)
    rw [hcount, BitVec.ofNat_toNat, BitVec.setWidth_eq]
  signals := hbooks.signals

theorem FlushView.Balanced.books {s : Session} (hbalanced : s.flushView.Balanced)
    (hfit : flushesOutstanding s < 2 ^ 32) : FlushBooks s where
  pending := by
    have hpending : s.inst.flushResponsesPending = BitVec.ofNat 32 (flushesOutstanding s) :=
      hbalanced.pending
    rw [hpending, BitVec.toNat_ofNat, Nat.mod_eq_of_lt hfit]
    exact Nat.sub_add_cancel hbalanced.le
  signals := hbalanced.signals

/-- Books that are right before and after a FLUSH response are the books of an answer. -/
theorem FlushBooks.answers {s : Session} {arrival : Arrival} (hgen : s.inst.gen = .gen1)
    (hbefore : FlushBooks s) (hafter : FlushBooks (s.handle arrival)) : AnswersOwn s arrival := by
  intro answers hresponse
  have hview := handle_answer hgen hresponse
  have hcount := hafter.pending
  have hpending : (s.handle arrival).inst.flushResponsesPending =
      s.inst.flushResponsesPending - 1 := congrArg FlushView.pending hview
  have haccepted : (s.handle arrival).tally.flushesAccepted = s.tally.flushesAccepted :=
    congrArg FlushView.accepted hview
  have hanswered : (s.handle arrival).tally.flushesAnswered = if (answers &&
      decide (s.tally.flushesAnswered < s.tally.flushesAccepted)) = true then
        s.tally.flushesAnswered + 1 else s.tally.flushesAnswered :=
    congrArg FlushView.answered hview
  rw [hpending, haccepted, hanswered] at hcount
  split_ifs at hcount with hown
  · simp only [Bool.and_eq_true, decide_eq_true_eq] at hown
    exact ⟨hown.1, Nat.sub_pos_of_lt hown.2⟩
  · -- the count cannot be the same as before
    have hsame : s.inst.flushResponsesPending - 1 = s.inst.flushResponsesPending :=
      BitVec.eq_of_toNat_eq (Nat.add_right_cancel (hcount.trans hbefore.pending.symm))
    bv_omega

/-- **The books are right exactly when every FLUSH response answers a flush of its session.** -/
theorem flushes_counted_iff (s : Session) (moves : List SessionMove) (hgen : s.inst.gen = .gen1)
    (hbooks : FlushBooks s) : FlushesCounted s moves ↔ FlushesOwned s moves := by
  constructor
  · intro hcounted
    refine ⟨fun pre arrival hpre => ?_, fun pre hpre => ?_⟩
    · have hafter := hcounted _ hpre
      rw [sessionAfter_event] at hafter
      exact (hcounted pre ((List.prefix_append _ _).trans hpre)).answers
        (sessionAfter_gen hgen pre) hafter
    · have hcount := (hcounted pre hpre).pending
      have hlt := (sessionAfter s pre).inst.flushResponsesPending.isLt
      unfold flushesOutstanding
      omega
  · intro howned pre hpre
    have hrest : FlushesOwned s pre :=
      ⟨fun mid arrival hmid => howned.answers mid arrival (hmid.trans hpre),
        fun mid hmid => howned.fit mid (hmid.trans hpre)⟩
    exact (hrest.balanced (hbooks.balanced hgen)).books (howned.fit pre hpre)

def endOfStream : FtbDone where
  streamId := 1
  outputTag := 0
  offset := 0
  filledLen := 0
  timestampHi := 0
  timestampLo := 0
  pictureType := .other
  eos := true
  dataCorrupt := false
  dropFrame := false

def endOfStreamMove : SessionMove :=
  .event
    { event := .gen1 (.ftbDone { dpbFound := false, flushRet := 0, queueRet := 0 } endOfStream)
      answers := false }

def flushResponseMove (answers : Bool) : SessionMove :=
  .event { event := .gen1 (.sessionDone .flush .none), answers }

/-- STREAMOFF of OUTPUT, which ends the session, and the start of the next one. -/
def reopened : List SessionMove :=
  [.call (.streamoff undisturbed .output), .resume false, .resume false, .resume false,
    .call (.reqbufs undisturbed), .resume false]

/-- STREAMON of CAPTURE after OUTPUT, and its STREAMOFF, whose flush is answered. -/
def captureCycle : List SessionMove :=
  [.call (.streamon undisturbed .capture [(0, frameData)]), .resume false,
    .call (.streamoff undisturbed .capture), flushResponseMove true, .resume false]

theorem capture_cycle_books :
    FlushesCounted (.opened (openedDecoder .gen1 .h264 true)) (outputStarted ++ captureCycle) ↔
      FlushesOwned (.opened (openedDecoder .gen1 .h264 true)) (outputStarted ++ captureCycle) :=
  flushes_counted_iff _ _ rfl ⟨rfl, rfl⟩

/-- The answer to a flush of the first session arrives in the second one. -/
theorem late_flush_response :
    ¬FlushesCounted (.opened (openedDecoder .gen1 .h264 true))
      (outputStarted ++ captureCycle ++ [endOfStreamMove] ++ reopened ++
        [flushResponseMove false]) := by
  intro hcounted
  have hwraps := (hcounted _ List.prefix_rfl).pending
  revert hwraps
  decide

end NabuIris
