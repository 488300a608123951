import NabuIris.Proof.SessionTurns

/-!
# Rules for the sections of a session

What a session keeps through the streaming functions, from what it keeps through their sections. A
property that survives the events of the others and the error state survives a command; one that
survives the sections of `session_start`, `session_stop` and `iris_session_streamoff` survives
these.
-/

namespace NabuIris

open Lib

theorem Session.resume_eq {call : InstCall} {timedOut : Bool} {s t : Session}
    (hresume : Session.resume call timedOut s = some t) :
    ∃ completion, t = { s with flushCompletion := completion } := by
  unfold Session.resume at hresume
  split at hresume
  · split at hresume
    · cases hresume
    · exact ⟨_, (Option.some.inj hresume).symm⟩
    · exact ⟨_, (Option.some.inj hresume).symm⟩
    · cases hresume
  · exact ⟨_, (Option.some.inj hresume).symm⟩

section Composition

variable {m : Machine Session InstCall Arrival QueueCall Int}
  {allowed : Allowed Session InstCall Arrival QueueCall} {Inv : InstCall → Session → Prop}
  {Mid Post : Int → Session → Prop}

theorem Sat.orGoto {call : Program} {label : Int → Session → Program} {next : Session → Program}
    (hcall : Sat m allowed Inv Mid call)
    (hlabel : ∀ ret s, ret ≠ 0 → Mid ret s → Sat m allowed Inv Post (label ret s))
    (hnext : ∀ s, Mid 0 s → Sat m allowed Inv Post (next s)) :
    Sat m allowed Inv Post (call.orGoto label next) :=
  hcall.bind fun ret s hmid => orGoto_value_rule (fun hret => hlabel ret s hret hmid)
    fun hret => hnext s (hret ▸ hmid)

end Composition

/-! ### Commands -/

/-- What the other threads keep, and the end of a wait. -/
structure Guarded (allowed : Allowed Session InstCall Arrival QueueCall) (K : Session → Prop) :
    Prop where
  stable : Lib.Stable sessionMachine allowed K
  error : ∀ s, K s → K (s.onInst Inst.enterError)
  completion : ∀ s completion, K s → K { s with flushCompletion := completion }

namespace Guarded

variable {allowed : Allowed Session InstCall Arrival QueueCall} {Inv : InstCall → Session → Prop}
  {K : Session → Prop} {s : Session} {call : InstCall}

/-- A wait, with what is said of its end. -/
theorem wait_end {Post : Int → Session → Prop} {next : Bool → Session → Program}
    (hguard : Guarded allowed K) (hinv : ∀ s, K s → Inv call s) (hs : K s)
    (hnext : ∀ timedOut t completion, K { t with flushCompletion := completion } →
      allowed.resume call timedOut t →
      Sat sessionMachine allowed Inv Post
        (next timedOut { t with flushCompletion := completion })) :
    Sat sessionMachine allowed Inv Post (.wait call s next) := by
  refine ⟨K, hguard.stable, hs, hinv, fun timedOut t u ht hallowed hresume => ?_⟩
  obtain ⟨completion, rfl⟩ := Session.resume_eq hresume
  exact hnext timedOut t completion (hguard.completion t completion ht) hallowed

theorem wait {Post : Int → Session → Prop} {next : Bool → Session → Program}
    (hguard : Guarded allowed K) (hinv : ∀ s, K s → Inv call s) (hs : K s)
    (hnext : ∀ timedOut t, K t → Sat sessionMachine allowed Inv Post (next timedOut t)) :
    Sat sessionMachine allowed Inv Post (.wait call s next) :=
  hguard.wait_end hinv hs fun timedOut _ _ ht _ => hnext timedOut _ ht

theorem response (hguard : Guarded allowed K) (hinv : ∀ s, K s → Inv call s) (hs : K s) :
    Sat sessionMachine allowed Inv (fun _ => K) (Session.irisWaitForSessionResponse call s) :=
  hguard.wait hinv hs fun timedOut t ht => by
    cases timedOut with
    | true => exact hguard.error t ht
    | false => exact ht

theorem command (hguard : Guarded allowed K) (env : InstEnv) (hinv : ∀ s, K s → Inv call s)
    (hs : K s) : Sat sessionMachine allowed Inv (fun _ => K) (Session.sessionCommand env call s) :=
  orGoto_value_rule (fun _ => hs) fun _ => hguard.response hinv hs

end Guarded

/-- What also survives the sections of `session_start` and `session_stop`. -/
structure Commanded (allowed : Allowed Session InstCall Arrival QueueCall)
    (Inv : InstCall → Session → Prop) (K : Session → Prop) : Prop
    extends Guarded allowed K where
  inv : ∀ call s, K s → Inv call s
  load : ∀ s, K s → K (s.changeSubState 0 subLoadResources).2
  unload : ∀ s, K s → K (s.changeSubState subLoadResources 0).2
  flush : ∀ s, K s → K (s.acceptFlush.onInst fun inst =>
    { inst with flushResponsesPending := inst.flushResponsesPending + 1 })
  returned : ∀ s, K s → K (s.onInst returnAllBuffers)

namespace Commanded

variable {allowed : Allowed Session InstCall Arrival QueueCall} {Inv : InstCall → Session → Prop}
  {K : Session → Prop} {s : Session}

theorem sessionCommand (hkeeps : Commanded allowed Inv K) (env : InstEnv) (call : InstCall)
    (hs : K s) : Sat sessionMachine allowed Inv (fun _ => K) (Session.sessionCommand env call s) :=
  hkeeps.command env (hkeeps.inv call) hs

theorem waitingCall (hkeeps : Commanded allowed Inv K) (env : InstEnv) (call : InstCall)
    (hs : K s) : Sat sessionMachine allowed Inv (fun _ => K) (Session.waitingCall env call s) :=
  hkeeps.wait (hkeeps.inv call) hs fun _ _ ht => ht

theorem sessionOpen (hkeeps : Commanded allowed Inv K) (env : InstEnv) (hs : K s) :
    Sat sessionMachine allowed Inv (fun _ => K) (Session.sessionOpen env s) := by
  unfold Session.sessionOpen
  split_ifs
  · exact hs
  · cases s.inst.gen with
    | gen1 => exact hkeeps.sessionCommand env _ hs
    | gen2 => exact hs

theorem streamonInputInternal (hkeeps : Commanded allowed Inv K) (env : InstEnv) (hs : K s) :
    Sat sessionMachine allowed Inv (fun _ => K) (Session.streamonInputInternal env s) :=
  Sat.orGoto (hkeeps.waitingCall env _ hs) (fun _ _ _ => id) fun _ => id

theorem sessionStart (hkeeps : Commanded allowed Inv K) (env : InstEnv) (plane : Plane)
    (hs : K s) :
    Sat sessionMachine allowed Inv (fun _ => K) (Session.sessionStart env plane s) := by
  unfold Session.sessionStart Session.irisHfiGen1SessionStart
  cases s.inst.gen with
  | gen2 => exact hs
  | gen1 =>
      cases plane with
      | capture => exact hs
      | output =>
          dsimp only
          split_ifs
          · exact hs
          · refine Sat.orGoto (hkeeps.sessionCommand env _ hs) (fun _ _ _ => id) fun s hs => ?_
            exact Sat.orGoto (hkeeps.sessionCommand env _ hs) (fun _ _ _ => id) hkeeps.load

theorem sessionRelease (hkeeps : Commanded allowed Inv K) (env : InstEnv) (hs : K s) :
    Sat sessionMachine allowed Inv (fun _ => K) (Session.sessionRelease env s) :=
  (hkeeps.sessionCommand env _ hs).bind fun _ _ hs =>
    (hkeeps.sessionCommand env _ hs).bind fun _ => hkeeps.unload

theorem sessionFlush (hkeeps : Commanded allowed Inv K) (env : InstEnv) (hs : K s) :
    Sat sessionMachine allowed Inv (fun _ => K) (Session.sessionFlush env s) := by
  have hreset : K s.reinitFlush := hkeeps.completion s 0 hs
  exact orGoto_value_rule (fun _ => hreset) fun _ =>
    hkeeps.response (hkeeps.inv _) (hkeeps.flush _ hreset)

theorem sessionStop (hkeeps : Commanded allowed Inv K) (env : InstEnv) (hs : K s) :
    Sat sessionMachine allowed Inv (fun _ => K) (Session.sessionStop env s) := by
  have hrelease := fun s (hs : K s) => (hkeeps.sessionRelease env hs).bind
    (f := Session.returnAllBuffers) fun _ => hkeeps.returned
  unfold Session.sessionStop Session.irisHfiGen1SessionStop
  cases s.inst.gen with
  | gen2 => exact hkeeps.sessionCommand env _ hs
  | gen1 =>
      cases s.inst.domain with
      | decoder =>
          dsimp only
          split_ifs
          · exact hkeeps.sessionFlush env hs
          · exact hrelease s hs
          · exact hs
      | encoder =>
          dsimp only
          split_ifs
          · exact hrelease s hs
          · exact hkeeps.returned s hs

theorem hfiSessionOpen (hkeeps : Commanded allowed Inv K)
    (hslot : ∀ opened s, K s → K (s.onInst fun inst => { inst with hfiSessionOpened := opened }))
    (hinit : ∀ s, K s → K { s with inst := (irisInstChangeState .init s.inst).2 }) (env : InstEnv)
    (hs : K s) :
    Sat sessionMachine allowed Inv (fun _ => K) (Session.irisHfiSessionOpen env s) := by
  unfold Session.irisHfiSessionOpen
  split_ifs
  · exact hs
  · refine orGoto_value_rule (fun _ => hs) fun _ => ?_
    refine Sat.orGoto (hkeeps.sessionOpen env (hslot true s hs)) (fun _ s _ => hslot false s)
      fun s hs => ?_
    split_ifs
    · exact hslot false s hs
    · exact orGoto_keep (Q := K) (hinit s hs) (fun _ s => hslot false s) fun _ => id

end Commanded

/-! ### Opening, stopping and closing -/

/-- A change that gives buffers back, but queues none. -/
structure Unwinds (s t : Inst) : Prop extends KeepsControl s t where
  ready : ∀ plane, t.ready plane ⊆ s.ready plane
  busy : ∀ plane i, (t.buf plane i).Busy → (s.buf plane i).Busy

/-- A change that leaves the buffers alone. -/
theorem KeepsControl.unwinds {s t : Inst} (hkeeps : KeepsControl s t) (hready : t.ready = s.ready)
    (hbuf : t.buf = s.buf) : Unwinds s t :=
  ⟨hkeeps, fun _ => by rw [hready]; exact fun _ => id, fun _ _ => by rw [hbuf]; exact id⟩

namespace Unwinds

variable {s t u : Inst}

theorem refl (s : Inst) : Unwinds s s := (KeepsControl.refl s).unwinds rfl rfl

theorem trans (hfirst : Unwinds s t) (hsecond : Unwinds t u) : Unwinds s u where
  toKeepsControl := hfirst.toKeepsControl.trans hsecond.toKeepsControl
  ready := fun plane => List.Subset.trans (hsecond.ready plane) (hfirst.ready plane)
  busy := fun plane i hbusy => hfirst.busy plane i (hsecond.busy plane i hbusy)

theorem enterError (hunwinds : Unwinds s t) : Unwinds s t.enterError := by
  refine hunwinds.trans ((KeepsControl.refl t).enterError.unwinds ?_ ?_)
  · rw [enterError_eq]
  · rw [enterError_eq]

theorem applyIf {change : Inst → Inst} (cond : Bool) (hunwinds : Unwinds s t)
    (hchange : Unwinds s t → Unwinds s (change t)) : Unwinds s (t.applyIf cond change) :=
  applyIf_keep (P := Unwinds s) cond hunwinds hchange

theorem update_erase (ready : Plane → List Nat) (plane : Plane) (i : Nat) (q : Plane) :
    Function.update ready plane ((ready plane).erase i) q ⊆ ready q := by
  by_cases hq : q = plane
  · subst hq
    rw [Function.update_self]
    exact List.erase_subset
  · rw [Function.update_of_ne hq]
    exact fun _ => id

theorem bufferDone (hunwinds : Unwinds s t) (plane : Plane) (i : Nat) :
    Unwinds s (irisVb2BufferDone plane i t).2 := by
  refine hunwinds.trans ⟨(KeepsControl.refl t).bufferDone plane i, ?_, ?_⟩
  · by_cases hlisted : i ∈ t.ready plane
    · obtain ⟨_, _, _, _, _, -, heq⟩ := irisVb2BufferDone_listed hlisted
      rw [heq]
      exact update_erase t.ready plane i
    · rw [irisVb2BufferDone_absent hlisted]
      exact fun _ _ => id
  · rw [irisVb2BufferDone_buf]
    exact fun _ _ => id

theorem setBuf (hunwinds : Unwinds s t) (plane : Plane) (i : Nat) {buf : IrisBuffer}
    (hbusy : buf.Busy → (t.buf plane i).Busy) : Unwinds s (t.setBuf plane i buf) := by
  refine hunwinds.trans ⟨(KeepsControl.refl t).setBuf _ _ _, fun _ _ => id, fun q k hk => ?_⟩
  by_cases hsame : q = plane ∧ k = i
  · obtain ⟨rfl, rfl⟩ := hsame
    rw [setBuf_buf] at hk
    exact hbusy hk
  · rwa [setBuf_buf_of_ne _ _ hsame] at hk

theorem helperBuffersDone (hunwinds : Unwinds s t) (plane : Plane) (state : Vb2State)
    (indices : List Nat) : Unwinds s (helperBuffersDone plane state indices t) := by
  induction indices generalizing t with
  | nil => exact hunwinds
  | cons i rest ih =>
      exact ih (hunwinds.trans ⟨⟨rfl, rfl, .inl rfl, rfl, rfl, id, rfl, rfl⟩,
        update_erase t.ready plane i, fun _ _ => id⟩)

theorem buffersDone (hunwinds : Unwinds s t) (plane : Plane) (state : Vb2State) :
    Unwinds s (irisHelperBuffersDone plane state t) :=
  hunwinds.helperBuffersDone plane state _

theorem returnAllBuffers (hunwinds : Unwinds s t) : Unwinds s (returnAllBuffers t) :=
  (hunwinds.buffersDone .output .error).buffersDone .capture .error

theorem flushDeferred (hunwinds : Unwinds s t) (plane : Plane) (indices : List Nat) :
    Unwinds s (flushDeferred plane indices t) := by
  induction indices generalizing t with
  | nil => exact hunwinds
  | cons i rest ih =>
      unfold NabuIris.flushDeferred
      dsimp only
      split_ifs
      · refine ih (bufferDone (hunwinds.setBuf plane i ?_) plane i)
        exact id
      · exact ih hunwinds

theorem flushDeferredBuffers (hunwinds : Unwinds s t) (plane : Plane) :
    Unwinds s (irisFlushDeferredBuffers plane t) :=
  hunwinds.flushDeferred plane _

theorem killSession (hunwinds : Unwinds s t) : Unwinds s (irisKillSession t) := by
  unfold irisKillSession
  split_ifs
  · exact hunwinds
  · exact hunwinds.enterError

end Unwinds

/-- The session after the label `cleanup` of `iris_hfi_session_close`. -/
def Session.afterClose (s : Session) : Session :=
  (s.onInst fun inst =>
    { inst with
      hfiSessionOpened := false
      subState := 0
      streamoffPending := false
      flushResponsesPending := 0
      lastBufferDequeued := false }).count fun t =>
    { t with flushesAccepted := 0, flushesAnswered := 0 }

/-- What also survives opening, stopping and closing. -/
structure Enduring (allowed : Allowed Session InstCall Arrival QueueCall)
    (Inv : InstCall → Session → Prop) (K : Session → Prop) : Prop
    extends Commanded allowed Inv K where
  unwinds : ∀ s inst, Unwinds s.inst inst → K s → K { s with inst }
  change : ∀ s state, K s → K { s with inst := (irisInstChangeState state s.inst).2 }
  close : ∀ s, K s → K s.afterClose

namespace Enduring

variable {allowed : Allowed Session InstCall Arrival QueueCall} {Inv : InstCall → Session → Prop}
  {K : Session → Prop} {s : Session}

theorem hfiSessionOpen (hkeeps : Enduring allowed Inv K) (env : InstEnv) (hs : K s) :
    Sat sessionMachine allowed Inv (fun _ => K) (Session.irisHfiSessionOpen env s) :=
  hkeeps.toCommanded.hfiSessionOpen (fun _ s => hkeeps.unwinds s _
    (KeepsControl.unwinds ⟨rfl, rfl, .inl rfl, rfl, rfl, id, rfl, rfl⟩ rfl rfl))
    (fun s => hkeeps.change s _) env hs

theorem hfiSessionClose (hkeeps : Enduring allowed Inv K) (env : InstEnv) (hs : K s) :
    Sat sessionMachine allowed Inv (fun _ => K) (Session.irisHfiSessionClose env s) := by
  have hclosing : Sat sessionMachine allowed Inv (fun _ => K) (Session.sessionClosing env s) := by
    unfold Session.sessionClosing
    refine Sat.orGoto (hkeeps.sessionCommand env _ hs) (fun _ _ _ => id) fun s hs => ?_
    split_ifs
    · exact hs
    · exact hkeeps.change s _ hs
    · exact hs
  unfold Session.irisHfiSessionClose
  split_ifs
  · exact hs
  · exact hclosing.bind fun _ => hkeeps.close

theorem sessionStreamoff (hkeeps : Enduring allowed Inv K) (env : InstEnv) (plane : Plane)
    (hs : K s) :
    Sat sessionMachine allowed Inv (fun _ => K) (Session.irisSessionStreamoff env plane s) := by
  have herror : ∀ (ret : Int) s, K s →
      Sat sessionMachine allowed Inv (fun _ => K) (Session.streamoffError plane ret s) :=
    fun _ s hs =>
      hkeeps.unwinds s _ ((Unwinds.refl s.inst).killSession.flushDeferredBuffers plane) hs
  have hmarked : K (s.onInst fun inst => { inst with streamoffPending := true }) :=
    hkeeps.unwinds s _
      (KeepsControl.unwinds ⟨rfl, rfl, .inl rfl, rfl, rfl, id, rfl, rfl⟩ rfl rfl) hs
  refine Sat.orGoto (hkeeps.sessionStop env hmarked) (fun ret s _ => herror ret s) fun s hs => ?_
  refine orGoto_keep (Q := K) (hkeeps.change s _ hs) (fun ret s => herror ret s)
    fun s hs => ?_
  have hflushed : K (s.onInst (irisFlushDeferredBuffers plane)) :=
    hkeeps.unwinds s _ ((Unwinds.refl s.inst).flushDeferredBuffers plane) hs
  dsimp only
  split_ifs
  · exact orGoto_value_rule (fun _ => hflushed) fun _ => hkeeps.hfiSessionClose env hflushed
  · exact hflushed

end Enduring

end NabuIris
