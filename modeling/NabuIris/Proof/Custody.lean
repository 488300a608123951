import NabuIris.Proof.EventSteps
import NabuIris.Streaming

/-!
# How the driver's functions move buffers

`Settles` is what every event and every streaming function does to the ready lists and the log: it
gives listed buffers back, one at a time, and takes none. `keep` is a set of instance states that it
does not leave, for the arguments about the state machine.
-/

namespace NabuIris

inductive Settles (keep : InstState → Prop) : Inst → Inst → Prop
  | quiet {s t : Inst} (hready : t.ready = s.ready) (hlog : t.log = s.log)
      (hstreaming : t.streaming = s.streaming) (hkeep : keep s.state → keep t.state) :
      Settles keep s t
  | note {s t : Inst} (event : BufEvent) (hevent : event.transfer = none)
      (hready : t.ready = s.ready) (hlog : t.log = s.log ++ [event])
      (hstreaming : t.streaming = s.streaming) (hkeep : keep s.state → keep t.state) :
      Settles keep s t
  | back {s t : Inst} {plane : Plane} {i : Nat} {state : Vb2State} {payload : Option Payload}
      (hlisted : i ∈ s.ready plane)
      (hready : t.ready = Function.update s.ready plane ((s.ready plane).erase i))
      (hlog : t.log = s.log ++ [.done plane i state payload])
      (hstreaming : t.streaming = s.streaming) (hkeep : keep s.state → keep t.state) :
      Settles keep s t
  | trans {s t u : Inst} (hfirst : Settles keep s t) (hsecond : Settles keep t u) : Settles keep s u

/-- The ready lists and the log agree on what the driver owns. -/
structure Books (inst : Inst) : Prop where
  ledger : Lib.Ledger BufEvent.transfer inst.log {b | b.2 ∈ inst.ready b.1}
  nodup : ∀ plane, (inst.ready plane).Nodup

theorem listed_erase {ready : Plane → List Nat} {plane : Plane} {i : Nat}
    (hnodup : (ready plane).Nodup) :
    {b : Plane × Nat | b.2 ∈ Function.update ready plane ((ready plane).erase i) b.1} =
      {b | b.2 ∈ ready b.1} \ {(plane, i)} := by
  ext ⟨p, k⟩
  by_cases hp : p = plane
  · subst hp
    simp [hnodup.mem_erase_iff, and_comm]
  · simp [hp]

namespace Settles

variable {keep : InstState → Prop} {s t u : Inst}

theorem refl (s : Inst) : Settles keep s s := .quiet rfl rfl rfl id

theorem streaming (hsettles : Settles keep s t) : t.streaming = s.streaming := by
  induction hsettles with
  | quiet _ _ h _ => exact h
  | note _ _ _ _ h _ => exact h
  | back _ _ _ h _ => exact h
  | trans _ _ hfirst hsecond => exact hsecond.trans hfirst

theorem keeps (hsettles : Settles keep s t) (hkeep : keep s.state) : keep t.state := by
  induction hsettles with
  | quiet _ _ _ h => exact h hkeep
  | note _ _ _ _ _ h => exact h hkeep
  | back _ _ _ _ h => exact h hkeep
  | trans _ _ hfirst hsecond => exact hsecond (hfirst hkeep)

theorem sublist (hsettles : Settles keep s t) (plane : Plane) :
    (t.ready plane).Sublist (s.ready plane) := by
  induction hsettles with
  | quiet h _ _ _ => exact h ▸ List.Sublist.refl _
  | note _ _ h _ _ _ => exact h ▸ List.Sublist.refl _
  | @back s t p i _ _ _ h _ _ _ =>
      rw [h]
      by_cases hplane : plane = p
      · subst hplane
        simpa using List.erase_sublist
      · have hother : Function.update s.ready p ((s.ready p).erase i) plane = s.ready plane :=
          Function.update_of_ne hplane _ _
        exact hother ▸ List.Sublist.refl _
  | trans _ _ hfirst hsecond => exact hsecond.trans hfirst

theorem empty (hsettles : Settles keep s t) {plane : Plane} (hempty : s.ready plane = []) :
    t.ready plane = [] := by
  have h := hsettles.sublist plane
  rw [hempty] at h
  exact List.sublist_nil.1 h

theorem books (hsettles : Settles keep s t) (hbooks : Books s) : Books t := by
  induction hsettles with
  | quiet hready hlog _ _ =>
      refine ⟨?_, by rw [hready]; exact hbooks.2⟩
      rw [hlog, hready]
      exact hbooks.1
  | note _ hevent hready hlog _ _ =>
      refine ⟨?_, by rw [hready]; exact hbooks.2⟩
      rw [hlog, hready]
      exact hbooks.1.note hevent
  | @back s t plane i state payload hlisted hready hlog _ _ =>
      refine ⟨?_, fun p => ?_⟩
      · rw [hlog, hready, listed_erase (hbooks.2 plane)]
        exact hbooks.1.give rfl hlisted
      · rw [hready]
        by_cases hp : p = plane
        · subst hp
          simpa using (hbooks.2 p).erase i
        · rw [Function.update_of_ne hp]
          exact hbooks.2 p
  | trans _ _ hfirst hsecond => exact hsecond (hfirst hbooks)

end Settles

/-! ### Buffers -/

namespace Settles

variable {keep : InstState → Prop} {start inst : Inst}

theorem same (hsettles : Settles keep start inst) {t : Inst} (hready : t.ready = inst.ready)
    (hlog : t.log = inst.log) (hstreaming : t.streaming = inst.streaming)
    (hstate : t.state = inst.state) : Settles keep start t :=
  hsettles.trans (.quiet hready hlog hstreaming fun h => hstate ▸ h)

theorem setBuf (hsettles : Settles keep start inst) (plane : Plane) (i : Nat) (buf : IrisBuffer) :
    Settles keep start (inst.setBuf plane i buf) :=
  hsettles.same rfl rfl rfl rfl

theorem enterError (herror : keep .error) (hsettles : Settles keep start inst) :
    Settles keep start inst.enterError := by
  rw [enterError_eq]
  exact hsettles.trans (.quiet rfl rfl rfl fun _ => herror)

theorem queueBuffer (hsettles : Settles keep start inst) (ret : Int) (plane : Plane) (i : Nat) :
    Settles keep start (irisQueueBuffer ret plane i inst).2 := by
  by_cases hret : ret = 0
  · subst hret
    exact hsettles.trans (.note (.submitted plane i) rfl rfl rfl rfl id)
  · rw [irisQueueBuffer_refused hret]
    exact hsettles

theorem bufferDone (hsettles : Settles keep start inst) (plane : Plane) (i : Nat) :
    Settles keep start (irisVb2BufferDone plane i inst).2 := by
  by_cases hlisted : i ∈ inst.ready plane
  · obtain ⟨state, payload, vbufFlags, stopped, last, -, heq⟩ := irisVb2BufferDone_listed hlisted
    rw [heq]
    exact hsettles.trans (.back hlisted rfl rfl rfl id)
  · rw [irisVb2BufferDone_absent hlisted]
    exact hsettles

theorem helperBuffersDone {plane : Plane} {indices : List Nat} (hsettles : Settles keep start inst)
    (hready : inst.ready plane = indices) (state : Vb2State) :
    Settles keep start (helperBuffersDone plane state indices inst) ∧
      (helperBuffersDone plane state indices inst).ready plane = [] := by
  induction indices generalizing inst with
  | nil => exact ⟨hsettles, hready⟩
  | cons i rest ih =>
      refine ih (hsettles.trans (.back (i := i) (by simp [hready]) rfl rfl rfl id)) ?_
      simp [v4l2M2mBufDone, v4l2M2mBufRemove, Inst.record, Inst.setReady, hready]

theorem buffersDone (hsettles : Settles keep start inst) (plane : Plane) (state : Vb2State) :
    Settles keep start (irisHelperBuffersDone plane state inst) :=
  (hsettles.helperBuffersDone rfl state).1

end Settles

theorem irisHelperBuffersDone_ready (plane : Plane) (state : Vb2State) (inst : Inst) :
    (irisHelperBuffersDone plane state inst).ready plane = [] :=
  ((Settles.refl inst : Settles (fun _ => True) inst inst).helperBuffersDone rfl state).2

/-! ### Events -/

section

variable {keep : InstState → Prop} {start inst : Inst}

theorem EventStep.settles (herror : keep .error) {touches : Plane → Prop} {s t : Inst}
    (hstep : EventStep touches s t) : Settles keep s t := by
  have hrefl : Settles keep s s := .refl s
  cases hstep with
  | fields => exact hrefl.same rfl rfl rfl rfl
  | error => exact .quiet rfl rfl rfl fun _ => herror
  | touch => exact hrefl.setBuf _ _ _
  | free => exact hrefl.setBuf _ _ _
  | complete => exact (hrefl.setBuf _ _ _).bufferDone _ _
  | submit => exact hrefl.queueBuffer _ _ _
  | requeue => exact (hrefl.setBuf _ _ _).queueBuffer _ _ _
  | recyclePending =>
      unfold irisVdecRecyclePendingOutput
      cases s.pendingOutput with
      | none => exact hrefl
      | some k =>
          refine Settles.queueBuffer ?_ _ _ _
          exact hrefl.same rfl rfl rfl rfl
  | completePending =>
      unfold irisVdecCompletePendingOutput
      cases s.pendingOutput with
      | none => exact hrefl
      | some k =>
          refine Settles.bufferDone ?_ _ _
          exact hrefl.same rfl rfl rfl rfl
  | @hold i buf =>
      unfold irisVdecHoldOutput
      split_ifs
      · exact (hrefl.setBuf _ _ _).trans (.note (.holdRefused i) rfl rfl rfl rfl id)
      · exact hrefl.same rfl rfl rfl rfl

theorem EventSteps.settles (herror : keep .error) {touches : Plane → Prop} {s t : Inst}
    (hsteps : EventSteps touches s t) : Settles keep s t := by
  induction hsteps with
  | refl => exact .refl _
  | tail _ hstep ih => exact ih.trans (hstep.settles herror)

end

end NabuIris
