import NabuIris.Proof.SessionStates

/-!
# The state of a session through its runs

STREAMON and STREAMOFF section by section. What the state tells about a queue changes together with
the state, and `vb2` follows at the end of the call: a rollback and a close are what can be seen in
between.
-/

namespace NabuIris

open Lib

/-- A decoder as `iris_open` leaves it, of the first generation. -/
structure FreshDecoder (inst : Inst) : Prop extends Fresh inst where
  gen : inst.gen = .gen1
  domain : inst.domain = .decoder
  subState : inst.subState = 0
  rollback : inst.startStreamingRollbackType = none
  last : inst.lastBufferDequeued = false

/-- Between the sections of a call that is not changing the state. -/
def Steady (f : Plane → Bool) (except : Option Plane) (s : Session) : Prop :=
  ∃ x, Held x f none s ∧ Matches f except x

/-- After a STREAMOFF of `plane`, before `vb2` marks the queue as stopped. -/
def Stopped (f : Plane → Bool) (r : Option Plane) (plane : Plane) (ret : Int) (s : Session) :
    Prop :=
  ∃ x, Held x f r s ∧ (ret = 0 → Matches (Function.update f plane false) none x)

/-- What holds at the waits of a call. -/
abbrev SoundWait (op : QueueCall) (call : InstCall) (s : Session) : Prop :=
  SessionSound (some (op, call)) s

section Sections

variable {allowed : Allowed Session InstCall Arrival QueueCall} {x : InstState}
  {f : Plane → Bool} {r : Option Plane} {s : Session} {op : QueueCall}

theorem Held.soundly (hmatch : Matches f r x) : Commanded allowed (SoundWait op) (Held x f r) :=
  Held.commanded fun call _ hheld => hheld.sound hmatch (op, call)

theorem Held.error (hheld : Held x f r s) : Held .error f r (s.onInst Inst.enterError) := by
  have herror : s.inst.enterError.state = .error := by rw [enterError_eq]
  have hafter := hheld.keeps (KeepsControl.refl s.inst).enterError
  exact { hafter with state := .inr herror }

/-! ### Opening and closing -/

/-- Where `iris_session_streamoff` is called: in a STREAMOFF, or in the rollback of a STREAMON. -/
inductive Stops : QueueCall → Option Plane → Plane → Prop
  | streamoff (env : InstEnv) (plane : Plane) : Stops (.streamoff env plane) none plane
  | rollback (op : QueueCall) (plane : Plane) : Stops op (some plane) plane

theorem Stops.except {plane : Plane} (hstops : Stops op r plane) : r = none ∨ r = some plane := by
  cases hstops with
  | streamoff _ _ => exact .inl rfl
  | rollback _ _ => exact .inr rfl

theorem Stops.sound {plane : Plane} (hstops : Stops op r plane) (hheld : Held x f r s)
    (hmatch : Matches f (some plane) x) : SoundWait op .sessionClose s := by
  cases hstops with
  | streamoff env _ => exact hheld.closing hmatch env
  | rollback _ _ => exact hheld.sound hmatch (op, .sessionClose)

theorem hfiSessionOpen_states (env : InstEnv) (hsteady : Steady f none s) :
    Sat sessionMachine allowed (SoundWait op) (fun _ => Steady f none)
      (Session.irisHfiSessionOpen env s) := by
  obtain ⟨x, hheld, hmatch⟩ := hsteady
  have hslot : ∀ opened {x s}, Held x f none s →
      Held x f none (s.onInst fun inst => { inst with hfiSessionOpened := opened }) :=
    fun opened _ _ hheld => hheld.keeps ⟨rfl, rfl, .inl rfl, rfl, rfl, id, rfl, rfl⟩
  unfold Session.irisHfiSessionOpen
  split_ifs
  · exact ⟨x, hheld, hmatch⟩
  · refine orGoto_value_rule (fun _ => ⟨x, hheld, hmatch⟩) fun _ => ?_
    by_cases hdeinit : s.inst.state = .deinit
    · obtain rfl : x = .deinit := by
        obtain hx | hx := hheld.state
        · rw [← hx, hdeinit]
        · rw [hdeinit] at hx
          cases hx
      have hinit : Matches f none .init := hmatch.imp nofun id
      have hopen : Sat sessionMachine allowed (SoundWait op) (fun _ => Held .deinit f none)
          (Session.sessionOpen env (s.onInst fun inst => { inst with hfiSessionOpened := true })) :=
        (Held.soundly hmatch).sessionOpen env (hslot true hheld)
      refine Sat.orGoto hopen (fun _ s _ hheld => ⟨_, hslot false hheld, hmatch⟩) fun s hheld => ?_
      split_ifs with herror
      · exact ⟨_, hslot false hheld, hmatch⟩
      · have hstate : s.inst.state = .deinit := hheld.state.resolve_right herror
        have hmoved : Held .init f none
            { s with inst := (irisInstChangeState .init s.inst).2 } :=
          hheld.moved (g := fun y => if y = .error then .error else .init)
            (by simp [irisInstChangeState, hstate, irisAllowInstStateChange]) rfl
        exact orGoto_keep (Q := Held .init f none) hmoved
          (fun _ s hheld => ⟨_, hslot false hheld, hinit⟩) fun s hheld => ⟨_, hheld, hinit⟩
    · have hopen : Sat sessionMachine allowed (SoundWait op)
          (fun ret s => ret ≠ 0 ∧ Held x f none s) (Session.sessionOpen env
            (s.onInst fun inst => { inst with hfiSessionOpened := true })) := by
        have hopened : (s.onInst fun inst => { inst with hfiSessionOpened := true }).inst.state ≠
          .deinit := hdeinit
        rw [Session.sessionOpen, if_pos hopened]
        exact ⟨by decide, hslot true hheld⟩
      exact Sat.orGoto hopen (fun _ s _ hheld => ⟨_, hslot false hheld.2, hmatch⟩)
        fun s hheld => absurd rfl hheld.1

theorem hfiSessionClose_states (env : InstEnv) {plane : Plane} (hheld : Held .init f r s)
    (hmatch : Matches (Function.update f plane false) none .init)
    (hstops : Stops op r plane) :
    Sat sessionMachine allowed (SoundWait op) (Stopped f r plane)
      (Session.irisHfiSessionClose env s) := by
  have hguard : Commanded allowed (fun _ _ => True) (Held .init f r) :=
    Held.commanded fun _ _ _ => trivial
  have hclosing : Sat sessionMachine allowed (SoundWait op)
      (Stopped f r plane)
      (Session.sessionClosing env s) := by
    unfold Session.sessionClosing
    refine Sat.orGoto (hguard.command env (fun _ hheld => hstops.sound hheld hmatch.update) hheld)
      (fun ret s hret hheld => ⟨_, hheld, fun h => absurd h hret⟩) fun s hheld => ?_
    split_ifs with hlost hrunning
    · exact ⟨_, hheld, fun h => absurd h (by decide)⟩
    · have hstate : s.inst.state = .init := hheld.state.resolve_right hrunning
      have hmoved : Held .deinit f r { s with inst := (irisInstChangeState .deinit s.inst).2 } :=
        hheld.moved (g := fun y => if y = .error then .error else .deinit)
          (by simp [irisInstChangeState, hstate, irisAllowInstStateChange]) rfl
      exact ⟨_, hmoved, fun _ => hmatch.imp (by rintro ⟨⟩) id⟩
    · exact ⟨_, hheld, fun _ => hmatch⟩
  unfold Session.irisHfiSessionClose
  split_ifs
  · exact ⟨_, hheld, fun _ => hmatch⟩
  · refine hclosing.bind fun ret s hclosed => ?_
    obtain ⟨x, hheld, hmatch⟩ := hclosed
    exact ⟨x, ⟨hheld.gen, hheld.domain, hheld.state, hheld.streaming, hheld.rollback,
      .zero, hheld.allowed⟩, hmatch⟩

theorem sessionStreamoff_states (env : InstEnv) (plane : Plane) (hheld : Held x f r s)
    (hmatch : Matches f r x) (hstops : Stops op r plane) :
    Sat sessionMachine allowed (SoundWait op) (Stopped f r plane)
      (Session.irisSessionStreamoff env plane s) := by
  have herror : ∀ ret {x s}, ret ≠ 0 → Held x f r s → Sat sessionMachine allowed (SoundWait op)
      (Stopped f r plane)
      (Session.streamoffError plane ret s) := fun ret x s hret hheld =>
    ⟨x, hheld.keeps ((Unwinds.refl _).killSession.flushDeferredBuffers plane).toKeepsControl,
      fun h => absurd h hret⟩
  have hmarked : Held x f r (s.onInst fun inst => { inst with streamoffPending := true }) :=
    hheld.keeps ⟨rfl, rfl, .inl rfl, rfl, rfl, id, rfl, rfl⟩
  refine Sat.orGoto ((Held.soundly hmatch).sessionStop env hmarked)
    (fun ret s hret hheld => herror ret hret hheld) fun s hheld => ?_
  have hmoved : Held (streamoffState plane x) f r
      { s with inst := (irisInstStateChangeStreamoff plane s.inst).2 } :=
    hheld.moved (irisInstStateChangeStreamoff_state plane s.inst) (by cases plane <;> rfl)
  have hafter := hmatch.streamoff hstops.except
  refine orGoto_split (Q := Held (streamoffState plane x) f r) hmoved
    (fun ret s hret hheld => herror ret hret hheld) fun s hheld => ?_
  have hflushed : Held (streamoffState plane x) f r (s.onInst (irisFlushDeferredBuffers plane)) :=
    hheld.keeps ((Unwinds.refl _).flushDeferredBuffers plane).toKeepsControl
  dsimp only
  generalize s.onInst (irisFlushDeferredBuffers plane) = s at hflushed
  split_ifs with hinit
  · have hx : streamoffState plane x = .init := by
      obtain hx | hx := hflushed.state
      · rw [← hx, hinit]
      · rw [hinit] at hx
        cases hx
    rw [hx] at hflushed hafter
    exact orGoto_value_rule (fun hret => ⟨_, hflushed, fun h => absurd h hret⟩)
      fun _ => hfiSessionClose_states env hflushed hafter hstops
  · exact ⟨_, hflushed, fun _ => hafter⟩

/-! ### STREAMON -/

/-- After a STREAMON of `plane`, before `vb2` marks the queue as streaming. -/
def Started (f : Plane → Bool) (plane : Plane) (ret : Int) (s : Session) : Prop :=
  ∃ x, Held x f none s ∧ (ret = 0 → Matches (Function.update f plane true) none x)

theorem Started.failed {plane : Plane} {ret : Int} (hret : ret ≠ 0) (hheld : Held x f none s) :
    Started f plane ret s :=
  ⟨x, hheld, fun h => absurd h hret⟩

/-- The change of the state at the end of a STREAMON. -/
theorem Held.streamon (hheld : Held x f r s) (plane : Plane) :
    Held (streamonState plane x) f r
      { s with inst := (irisInstStateChangeStreamon plane s.inst).2 } :=
  hheld.moved (irisInstStateChangeStreamon_state plane s.inst) (by cases plane <;> rfl)

theorem Held.taken (hheld : Held x f r s) :
    Held x f r (s.onInst fun inst => { inst with lastBufferDequeued := false }) :=
  ⟨hheld.gen, hheld.domain, hheld.state, hheld.streaming, hheld.rollback, hheld.paired,
    hheld.allowed⟩

theorem streamonInput_states (env : InstEnv) (hheld : Held x f none s)
    (hmatch : Matches f none x) :
    Sat sessionMachine allowed (SoundWait op) (Started f .output)
      (Session.irisStreamonInput env s) := by
  have hkeeps : Commanded allowed (SoundWait op) (Held x f none) := Held.soundly hmatch
  have hstarted : ∀ s, Held x f none s → Sat sessionMachine allowed (SoundWait op)
      (Started f .output) (Session.streamonInputStarted env s) := by
    intro s hheld
    unfold Session.streamonInputStarted
    refine orGoto_split (Q := Held x f none) ?_ (fun _ _ hret hheld => Started.failed hret hheld)
      fun s hheld => ?_
    · split_ifs
      · exact hheld.clear ⟨fun h => absurd h (by decide), fun h => absurd h (by decide)⟩
      · exact hheld
    · refine orGoto_value_rule (fun hret => Started.failed hret hheld) fun _ => ?_
      refine orGoto_split (Q := Held (streamonState .output x) f none) (hheld.streamon .output)
        (fun _ _ hret hheld => Started.failed hret hheld) fun s hheld => ?_
      refine ⟨_, hheld.taken.set ?_, fun _ => hmatch.streamon .output⟩
      split_ifs
      · exact .inr (.inl rfl)
      · exact .inl rfl
  have hreset : Held x f none (s.onInst fun inst =>
      { inst with streamoffPending := false, corruptOutputDrops := 0, pendingOutput := none }) :=
    hheld.keeps ⟨rfl, rfl, .inl rfl, rfl, rfl, id, rfl, rfl⟩
  unfold Session.irisStreamonInput
  rw [hheld.domain]
  refine Sat.orGoto (hkeeps.waitingCall env _ hreset)
    (fun _ _ hret hheld => Started.failed hret hheld) fun s hheld => ?_
  refine orGoto_value_rule (fun hret => Started.failed hret hheld) fun _ => ?_
  have hrunning : Held x f none (s.onInst fun inst => { inst with streamoffPending := false }) :=
    hheld.keeps ⟨rfl, rfl, .inl rfl, rfl, rfl, id, rfl, rfl⟩
  exact Sat.orGoto (hkeeps.sessionStart env .output hrunning)
    (fun _ _ hret hheld => Started.failed hret hheld) hstarted

theorem pendingClear_mask (inst : Inst) : PairMask (Session.pendingClear inst) := by
  unfold Session.pendingClear
  split_ifs <;> exact ⟨by decide, by decide⟩

theorem PairMask.and {bits mask : SubState} (hdrc : mask.getLsbD 1 = false)
    (hdrain : mask.getLsbD 3 = false) : PairMask (bits &&& mask) := by
  constructor
  · rw [BitVec.getLsbD_and, hdrc, Bool.and_false]
    exact nofun
  · rw [BitVec.getLsbD_and, hdrain, Bool.and_false]
    exact nofun

/-- After `iris_process_streamon_output`: the state may tell CAPTURE already. -/
def OutputProcessed (f : Plane → Bool) (ret : Int) (s : Session) : Prop :=
  ∃ x, Held x f none s ∧ Matches f (some .capture) x ∧
    (ret = 0 → Matches (Function.update f .capture true) none x)

theorem processStreamonOutput_states (env : InstEnv) (hheld : Held x f none s)
    (hmatch : Matches f none x) :
    Sat sessionMachine allowed (SoundWait op) (OutputProcessed f)
      (Session.irisProcessStreamonOutput env s) := by
  have hkeeps : Commanded allowed (SoundWait op) (Held x f none) := Held.soundly hmatch
  have hfail : ∀ {ret : Int} {s}, ret ≠ 0 → Held x f none s → OutputProcessed f ret s :=
    fun hret hheld => ⟨x, hheld, hmatch.weaken _, fun h => absurd h hret⟩
  have hstarted : ∀ active {clear s}, PairMask clear → Held x f none s →
      Sat sessionMachine allowed (SoundWait op) (OutputProcessed f)
        (Session.streamonOutputStarted env active clear s) := by
    intro active clear s hclear hheld
    unfold Session.streamonOutputStarted
    refine orGoto_value_rule (fun hret => hfail hret hheld) fun _ => ?_
    refine Sat.orGoto (hkeeps.sessionStart env .capture hheld)
      (fun _ _ hret hheld => hfail hret hheld) fun t hheld => ?_
    have hstate := hmatch.streamon .capture
    refine orGoto_split (Q := Held (streamonState .capture x) f none) (hheld.streamon .capture)
      (fun _ _ hret hheld => ⟨_, hheld, hstate.update, fun h => absurd h hret⟩) fun t hheld => ?_
    refine ⟨_, hheld.taken.clear (((hclear.or ?_).or ?_).or ?_), hstate.update, fun _ => hstate⟩
    · split_ifs <;> exact ⟨by decide, by decide⟩
    · exact .and (by decide) (by decide)
    · exact .and (by decide) (by decide)
  unfold Session.irisProcessStreamonOutput
  dsimp only
  split_ifs
  · exact Sat.orGoto (hkeeps.streamonInputInternal env hheld)
      (fun _ _ hret hheld => hfail hret hheld) fun t hheld =>
        hstarted _ (pendingClear_mask s.inst) hheld
  · have hidle : Sat sessionMachine allowed (SoundWait op) (fun _ => Held x f none)
        (.done (0 : Int) s) := hheld
    exact Sat.orGoto hidle (fun _ _ hret hheld => hfail hret hheld) fun t hheld =>
      hstarted _ (pendingClear_mask s.inst) hheld

theorem streamonRollback_states (env : InstEnv) {ret : Int} (hret : ret ≠ 0)
    (hheld : Held x f none s) (hmatch : Matches f (some .capture) x) :
    Sat sessionMachine allowed (SoundWait op) (Started f .capture)
      (Session.streamonRollback env ret s) := by
  have hmarked : Held x f (some .capture) (s.onInst fun inst =>
      { inst with startStreamingRollbackType := some .capture }) :=
    ⟨hheld.gen, hheld.domain, hheld.state, hheld.streaming, rfl, hheld.paired, hheld.allowed⟩
  refine (sessionStreamoff_states env .capture hmarked hmatch (.rollback _ _)).bind
    fun _ s hstopped => ?_
  obtain ⟨x, hheld, -⟩ := hstopped
  exact Started.failed hret ⟨hheld.gen, hheld.domain, hheld.state, hheld.streaming, rfl,
    hheld.paired, hheld.allowed⟩

theorem streamonOutput_states (env : InstEnv) (hheld : Held x f none s)
    (hmatch : Matches f none x) :
    Sat sessionMachine allowed (SoundWait op) (Started f .capture)
      (Session.irisStreamonOutput env s) := by
  have hkeeps : Commanded allowed (SoundWait op) (Held x f none) := Held.soundly hmatch
  have hrunning : Held x f none (s.onInst fun inst => { inst with streamoffPending := false }) :=
    hheld.keeps ⟨rfl, rfl, .inl rfl, rfl, rfl, id, rfl, rfl⟩
  unfold Session.irisStreamonOutput
  rw [hheld.domain]
  refine Sat.orGoto (hkeeps.waitingCall env _ hrunning)
    (fun _ _ hret hheld => Started.failed hret hheld) fun s hheld => ?_
  refine orGoto_value_rule (fun hret => Started.failed hret hheld) fun _ => ?_
  refine Sat.orGoto (processStreamonOutput_states env hheld hmatch)
    (fun ret s hret hprocessed => ?_) fun s hprocessed => ?_
  · obtain ⟨x, hheld, hmatch, -⟩ := hprocessed
    exact streamonRollback_states env hret hheld hmatch
  · obtain ⟨x, hheld, hmatch, hafter⟩ := hprocessed
    exact orGoto_value_rule (fun hret => streamonRollback_states env hret hheld hmatch)
      fun _ => ⟨x, hheld, hafter⟩

/-! ### Calls -/

theorem Held.setStreaming (hheld : Held x f r s) (plane : Plane) (streaming : Bool) :
    Held x (Function.update f plane streaming) r (s.onInst (·.setStreaming plane streaming)) where
  gen := hheld.gen
  domain := hheld.domain
  state := hheld.state
  streaming := by
    rw [← hheld.streaming]
    rfl
  rollback := hheld.rollback
  paired := hheld.paired
  allowed := hheld.allowed

/-- The end of `start_streaming`: the queue is started, or all is as before. -/
def StartEnds (f : Plane → Bool) (plane : Plane) (ret : Int) (s : Session) : Prop :=
  ∃ x, Held x f none s ∧ (ret = 0 → Matches (Function.update f plane true) none x) ∧
    (ret ≠ 0 → Matches f none x)

theorem startError_states (plane : Plane) {ret : Int} (hret : ret ≠ 0) (hheld : Held x f none s) :
    Sat sessionMachine allowed (SoundWait op) (StartEnds f plane)
      (Session.startError plane ret s) := by
  have hdone : Held x f none (s.onInst (irisHelperBuffersDone plane .queued)) :=
    hheld.keeps ((Unwinds.refl _).buffersDone plane .queued).toKeepsControl
  exact ⟨_, hdone.error, fun h => absurd h hret, fun _ => .inl rfl⟩

theorem startStreaming_states (env : InstEnv) (plane : Plane) (hsteady : Steady f none s) :
    Sat sessionMachine allowed (SoundWait op) (StartEnds f plane)
      (Session.irisVb2StartStreaming env plane s) := by
  obtain ⟨x, hheld, hmatch⟩ := hsteady
  unfold Session.irisVb2StartStreaming
  split_ifs
  · exact startError_states plane (by decide) hheld
  · refine orGoto_value_rule (fun hret => startError_states plane hret hheld) fun _ => ?_
    refine Sat.orGoto (hfiSessionOpen_states env ⟨x, hheld, hmatch⟩)
      (fun ret s hret hsteady => ?_) fun s hsteady => ?_
    · obtain ⟨x, hheld, -⟩ := hsteady
      exact startError_states plane hret hheld
    · obtain ⟨x, hheld, hmatch⟩ := hsteady
      refine Sat.orGoto (?_ : Sat sessionMachine allowed (SoundWait op) (Started f plane) _)
        (fun ret s hret hstarted => ?_) fun s hstarted => ?_
      · cases plane with
        | output => exact streamonInput_states env hheld hmatch
        | capture => exact streamonOutput_states env hheld hmatch
      · obtain ⟨x, hheld, -⟩ := hstarted
        exact startError_states plane hret hheld
      · obtain ⟨x, hheld, hafter⟩ := hstarted
        refine orGoto_split (Q := Held x f none)
          (hheld.keeps ((KeepsControl.refl _).startDeferred env plane))
          (fun ret s hret hheld => startError_states plane hret hheld) fun s hheld => ?_
        exact ⟨x, hheld, hafter, fun h => absurd rfl h⟩

theorem stopStreaming_states (env : InstEnv) (plane : Plane) (hsteady : Steady f none s)
    (hstreaming : f plane = true) :
    Sat sessionMachine allowed (SoundWait (.streamoff env plane))
      (fun _ => Steady (Function.update f plane false) none)
      (Session.vb2Streamoff env plane s) := by
  obtain ⟨x, hheld, hmatch⟩ := hsteady
  unfold Session.vb2Streamoff Session.irisVb2StopStreaming
  split_ifs with hinit
  · -- CAPTURE is streaming, so the state is not INIT
    obtain ⟨rfl, hinit⟩ := hinit
    obtain herror | htells := hheld.tells hmatch
    · rw [hinit] at herror
      cases herror
    · have hcapture := htells .capture nofun
      rw [hheld.streaming, hstreaming, hinit] at hcapture
      cases hcapture
  · have hcleared : Held x f none (s.onInst fun inst =>
        inst.applyIf (inst.domain == .decoder && plane == .capture) irisVdecClearPendingOutput) :=
      hheld.keeps ((KeepsControl.refl _).applyIf _ fun _ =>
        ⟨rfl, rfl, .inl rfl, rfl, rfl, id, rfl, rfl⟩)
    have hstop : Sat sessionMachine allowed (SoundWait (.streamoff env plane))
        (fun _ s => Steady (Function.update f plane false) none
          (s.onInst (·.setStreaming plane false)))
        ((Session.irisSessionStreamoff env plane (s.onInst fun inst =>
          inst.applyIf (inst.domain == .decoder && plane == .capture)
            irisVdecClearPendingOutput)).bind fun ret s =>
          .done ret (s.onInst fun inst =>
            (irisHelperBuffersDone plane .error inst).applyIf (ret ≠ 0) Inst.enterError)) := by
      refine (sessionStreamoff_states env plane hcleared hmatch (.streamoff _ _)).bind
        fun ret s hstopped => ?_
      obtain ⟨x, hheld, hafter⟩ := hstopped
      have hdone : Held x f none (s.onInst (irisHelperBuffersDone plane .error)) :=
        hheld.keeps ((Unwinds.refl _).buffersDone plane .error).toKeepsControl
      by_cases hret : ret = 0
      · subst hret
        exact ⟨x, hdone.setStreaming plane false, hafter rfl⟩
      · rw [decide_eq_true hret]
        exact ⟨_, hdone.error.setStreaming plane false, .inl rfl⟩
    exact hstop.bind fun _ _ hsteady => hsteady

end Sections

/-- Between calls. -/
def SessionIdle (s : Session) : Prop := Steady s.inst.streaming none s

theorem Steady.idle {f : Plane → Bool} {s : Session} (hsteady : Steady f none s) :
    SessionIdle s := by
  obtain ⟨x, hheld, hmatch⟩ := hsteady
  rw [SessionIdle, hheld.streaming]
  exact ⟨x, hheld, hmatch⟩

theorem SessionIdle.sound {s : Session} (hidle : SessionIdle s) : SessionSound none s := by
  obtain ⟨x, hheld, hmatch⟩ := hidle
  exact ⟨hheld.drcLast, hheld.drainLast, hheld.allowed, fun _ => hheld.rollback,
    (hheld.tells hmatch).imp_right fun htells => .inl (hheld.rollback.symm ▸ htells)⟩

theorem Held.bufQueue {x : InstState} {f : Plane → Bool} {r : Option Plane} {s : Session}
    (hheld : Held x f r s) (ret : Int) (plane : Plane) (i : Nat) (data : QbufData) :
    Held x f r (s.vb2BufQueue ret plane i data) := by
  have hkeeps := KeepsControl.bufQueue ret plane i data s.inst
  unfold Session.vb2BufQueue Session.countIf
  split_ifs
  · exact hheld.subStep hkeeps.subStep hheld.allowed
  · exact hheld.keeps hkeeps

theorem Held.handOver {x : InstState} {f : Plane → Bool} {r : Option Plane} {s : Session}
    (hheld : Held x f r s) (plane : Plane) (bufs : List (Nat × QbufData)) :
    Held x f r (s.vb2HandOver plane bufs) := by
  unfold Session.vb2HandOver
  induction bufs generalizing s with
  | nil => exact hheld
  | cons buf rest ih => exact ih (hheld.bufQueue _ _ _ _)

theorem body_states {allowed : Allowed Session InstCall Arrival QueueCall} (call : QueueCall)
    {s : Session} (hidle : SessionIdle s) :
    Sat sessionMachine allowed (SoundWait call) (fun _ => SessionIdle) (Session.body call s) := by
  obtain ⟨x, hheld, hmatch⟩ := id hidle
  cases call with
  | reqbufs env =>
      change Sat _ _ _ _ (Session.irisVb2QueueSetup env s)
      unfold Session.irisVb2QueueSetup
      split_ifs
      · exact hidle
      · refine orGoto_value_rule (fun _ => hidle) fun _ => ?_
        exact (hfiSessionOpen_states env ⟨x, hheld, hmatch⟩).mono fun _ _ => Steady.idle
  | qbuf ret plane i data =>
      change SessionIdle (if s.inst.streaming plane then s.vb2BufQueue ret plane i data else s)
      split_ifs
      · exact Steady.idle ⟨x, hheld.bufQueue ret plane i data, hmatch⟩
      · exact hidle
  | streamon env plane bufs =>
      unfold Session.body
      dsimp only
      split_ifs
      · exact hidle
      · refine (startStreaming_states env plane ⟨x, hheld.handOver plane bufs, hmatch⟩).bind
          fun ret s hends => ?_
        obtain ⟨x, hheld, hstarted, hfailed⟩ := hends
        by_cases hret : ret = 0
        · subst hret
          exact Steady.idle ⟨x, hheld.setStreaming plane true, hstarted rfl⟩
        · rw [decide_eq_false hret]
          exact Steady.idle ⟨x, hheld, hfailed hret⟩
  | streamoff env plane =>
      unfold Session.body
      dsimp only
      split_ifs with hstreaming
      · exact (stopStreaming_states env plane ⟨x, hheld, hmatch⟩ hstreaming).mono
          fun _ _ => Steady.idle
      · exact hidle

theorem FreshDecoder.sessionIdle {inst : Inst} (hfresh : FreshDecoder inst) :
    SessionIdle (.opened inst) := by
  refine Steady.idle ⟨.deinit, ⟨hfresh.gen, hfresh.domain, .inl hfresh.state, rfl,
    hfresh.rollback, ?_, rfl⟩, .inr fun plane _ => ?_⟩
  · change Paired inst.subState
    rw [hfresh.subState]
    exact .zero
  · change inst.streaming plane = _
    rw [hfresh.idle]
    cases plane <;> rfl

theorem FreshDecoder.session_within {inst : Inst} (hfresh : FreshDecoder inst)
    (moves : List SessionMove) :
    Config.Within sessionMachine
      { event := fun _ _ => True, call := fun _ _ => True, resume := fun _ _ _ => True } SoundWait
      SessionIdle (sessionMachine.runsCall (.opened inst) moves) := by
  refine Machine.runs_within ?_ (fun call _ _ hidle => body_states call hidle) hfresh.sessionIdle
    fun _ move _ => ?_
  · rintro arrival s - ⟨x, hheld, hmatch⟩
    exact Steady.idle ⟨x, hheld.handle arrival, hmatch⟩
  · cases move with
    | event arrival => trivial
    | call op => exact fun _ => trivial
    | resume timedOut => exact fun _ _ _ => trivial

/-- What the next call finds. -/
theorem FreshDecoder.session_idle {inst : Inst} (hfresh : FreshDecoder inst)
    (moves : List SessionMove)
    (hnone : (sessionMachine.runs (.opened inst) moves).thread = none) :
    SessionIdle (sessionMachine.runs (.opened inst) moves).state := by
  have hwithin := hfresh.session_within moves
  rw [← sessionMachine.runsCall_fst] at hnone ⊢
  rw [Config.Within, hnone] at hwithin
  exact hwithin

/-- **The states of a session**, in every run of a decoder of the first generation. -/
theorem session_states {inst : Inst} (hfresh : FreshDecoder inst) (moves : List SessionMove) :
    SessionSound (sessionMachine.waiting (.opened inst) moves)
      (sessionAfter (.opened inst) moves) :=
  Machine.runs_elim (hfresh.session_within moves) (fun _ => SessionIdle.sound)
    fun _ _ _ hsound => hsound

theorem openedDecoder_freshDecoder (codec : Codec) (legacyVpu5 : Bool) :
    FreshDecoder (openedDecoder .gen1 codec legacyVpu5) where
  toFresh := openedDecoder_fresh .gen1 codec legacyVpu5
  gen := rfl
  domain := rfl
  subState := rfl
  rollback := rfl
  last := rfl

theorem output_started_sound :
    SessionSound
      (sessionMachine.waiting (.opened (openedDecoder .gen1 .h264 true)) outputStarted)
      (sessionAfter (.opened (openedDecoder .gen1 .h264 true)) outputStarted) :=
  session_states (openedDecoder_freshDecoder .h264 true) outputStarted

/-- The internal buffers of CAPTURE cannot be queued. -/
def queueInternalFails : InstEnv :=
  { undisturbed with ret := fun call => if call = .queueInternal then -enomem else 0 }

/-- The STREAMON of CAPTURE fails after the change of the state, and waits for its flush. -/
def captureRollback : List SessionMove :=
  [.call (.streamon queueInternalFails .capture [(0, frameData)]), .resume false]

/-- In the rollback the state is STREAMING, and CAPTURE has never been started. -/
theorem rollback_tells_capture :
    ¬(let inst := (sessionAfter (.opened (openedDecoder .gen1 .h264 true))
        (outputStarted ++ captureRollback)).inst
      inst.state = .error ∨ StateTells inst none) := by
  rintro (herror | htells)
  · revert herror
    decide
  · have hcapture := htells .capture nofun
    revert hcapture
    decide

end NabuIris
