import NabuIris.Proof.Queues
import NabuIris.Lib.Run

/-!
# Every buffer is given back exactly once

Over runs of QBUF, STREAMON, STREAMOFF, firmware responses, commands and errors. A QBUF that the
command queue refuses gives its buffer back and leaves it in the ready list; every other step keeps
the books.
-/

namespace NabuIris

/-- Buffers go back once before they come again, a listed buffer was not given back, and a stopped
queue owns nothing. -/
structure ExactlyOnce (inst : Inst) : Prop where
  alternates : Lib.Alternates BufEvent.transfer inst.log
  listed : ∀ plane, ∀ i ∈ inst.ready plane, driverOwns inst.log plane i = true
  stopped : ∀ plane, inst.streaming plane = false → ∀ i, driverOwns inst.log plane i = false

/-- `iris_vb2_buf_queue` links the buffer into the ready list. -/
def LinksBuffer (plane : Plane) (data : QbufData) (inst : Inst) : Prop :=
  inst.state ≠ .error ∧ ¬(data.bytesused = 0 ∧ plane = .output) ∧
    ¬(!inst.lastBufferDequeued ∧ plane = .capture ∧
      (irisDrcPending inst || irisDrainPending inst))

/-- The command queue takes the buffer of a QBUF that got as far as the ready list. -/
def Op.Accepted (inst : Inst) : Op → Prop
  | .qbuf ret plane i data =>
      inst.streaming plane = true → driverOwns inst.log plane i = false →
        LinksBuffer plane data inst → ret = 0
  | _ => True

structure Accounted (inst : Inst) : Prop where
  books : Books inst
  placed : Placed (fun _ => False) inst

theorem Books.owns_iff {inst : Inst} (hbooks : Books inst) (plane : Plane) (i : Nat) :
    driverOwns inst.log plane i = true ↔ i ∈ inst.ready plane :=
  hbooks.ledger.holds_iff (plane, i)

theorem Books.not_listed {inst : Inst} (hbooks : Books inst) {plane : Plane} {i : Nat}
    (hfree : driverOwns inst.log plane i = false) : i ∉ inst.ready plane := by
  intro hlisted
  rw [(hbooks.owns_iff plane i).2 hlisted] at hfree
  cases hfree

theorem Accounted.exactlyOnce {inst : Inst} (haccounted : Accounted inst) : ExactlyOnce inst where
  alternates := haccounted.books.ledger.alternates
  listed plane i hlisted := (haccounted.books.owns_iff plane i).2 hlisted
  stopped plane hstreaming i := by
    rw [Bool.eq_false_iff]
    intro howned
    have hlisted := (haccounted.books.owns_iff plane i).1 howned
    rw [haccounted.placed.stopped plane id hstreaming] at hlisted
    cases hlisted

/-! ### Handing a buffer over -/

theorem listed_insert {ready : Plane → List Nat} {plane : Plane} {i : Nat} :
    {b : Plane × Nat | b.2 ∈ Function.update ready plane (ready plane ++ [i]) b.1} =
      insert (plane, i) {b | b.2 ∈ ready b.1} := by
  ext ⟨p, k⟩
  by_cases hp : p = plane
  · subst hp
    simp [or_comm]
  · simp [hp]

/-- A buffer that is taken and given back at once, without being listed. -/
theorem Books.pass {s t : Inst} {plane : Plane} {i : Nat} {state : Vb2State}
    {payload : Option Payload} (hbooks : Books s) (hfree : driverOwns s.log plane i = false)
    (hready : t.ready = s.ready)
    (hlog : t.log = s.log ++ [.handed plane i] ++ [.done plane i state payload]) : Books t := by
  refine ⟨?_, by rw [hready]; exact hbooks.nodup⟩
  rw [hlog, hready]
  exact hbooks.ledger.pass rfl rfl (hbooks.not_listed hfree)

theorem books_link {inst : Inst} {plane : Plane} {i : Nat} (hbooks : Books inst)
    (hfree : driverOwns inst.log plane i = false) :
    Books (v4l2M2mBufQueue plane i (inst.record (.handed plane i))) := by
  have hnot := hbooks.not_listed hfree
  refine ⟨?_, fun q => ?_⟩
  · simp only [v4l2M2mBufQueue, Inst.setReady, Inst.record]
    rw [listed_insert]
    exact hbooks.ledger.take rfl hnot
  · simp only [v4l2M2mBufQueue, Inst.setReady, Inst.record]
    by_cases hq : q = plane
    · subst hq
      rw [Function.update_self, List.nodup_append]
      refine ⟨hbooks.nodup q, by simp, fun a ha b hb => ?_⟩
      rw [List.mem_singleton] at hb
      subst hb
      exact fun h => hnot (h ▸ ha)
    · rw [Function.update_of_ne hq]
      exact hbooks.nodup q

theorem irisQbuf_fst (ret : Int) (plane : Plane) (i : Nat) (data : QbufData) (inst : Inst) :
    (irisQbuf ret plane i data inst).1 = if inst.streaming plane = true then ret else 0 := by
  unfold irisQbuf
  cases inst.streaming plane <;> simp

theorem irisVb2BufQueue_rejected {ret : Int} {plane : Plane} {i : Nat} {data : QbufData}
    {inst : Inst} (hreject : ¬LinksBuffer plane data inst) :
    irisVb2BufQueue ret plane i data inst = bufQueueFail plane i inst ∨
      irisVb2BufQueue ret plane i data inst = bufQueueLast plane i data inst := by
  unfold irisVb2BufQueue
  split_ifs with herror hempty hlast
  · exact .inl rfl
  · exact .inl rfl
  · exact .inr rfl
  · exact absurd ⟨herror, hempty, hlast⟩ hreject

theorem irisVb2BufQueue_linked {ret : Int} {plane : Plane} {i : Nat} {data : QbufData}
    {inst : Inst} (hlinks : LinksBuffer plane data inst) :
    irisVb2BufQueue ret plane i data inst =
      if inst.streaming plane = true ∧ ret ≠ 0 then
        bufQueueFail plane i (irisQbuf ret plane i data (v4l2M2mBufQueue plane i inst)).2
      else (irisQbuf ret plane i data (v4l2M2mBufQueue plane i inst)).2 := by
  obtain ⟨herror, hempty, hlast⟩ := hlinks
  rw [irisVb2BufQueue, if_neg herror, if_neg hempty, if_neg hlast, orGoto, irisQbuf_fst]
  have hstreaming : (v4l2M2mBufQueue plane i inst).streaming = inst.streaming := rfl
  rw [hstreaming]
  cases inst.streaming plane <;> simp

/-- Handing over a buffer keeps the books unless the command queue refuses a linked one. -/
theorem Books.handOver {ret : Int} {plane : Plane} {i : Nat} {data : QbufData} {inst : Inst}
    (hbooks : Books inst)
    (hok : driverOwns inst.log plane i = false → LinksBuffer plane data inst →
      inst.streaming plane = true → ret = 0) : Books (vb2BufQueue ret plane i data inst) := by
  unfold vb2BufQueue
  split_ifs with howned
  · exact hbooks
  have hfree : driverOwns inst.log plane i = false := by simpa using howned
  by_cases hlinks : LinksBuffer plane data inst
  · have hgiven : LinksBuffer plane data
        ((inst.setVbufFlags plane i data.flags).record (.handed plane i)) := hlinks
    rw [irisVb2BufQueue_linked hgiven, if_neg fun h => h.2 (hok hfree hlinks h.1)]
    have hvbuf : Books (inst.setVbufFlags plane i data.flags) := ⟨hbooks.ledger, hbooks.nodup⟩
    have hsettles : Settles (fun _ => True) (v4l2M2mBufQueue plane i
        ((inst.setVbufFlags plane i data.flags).record (.handed plane i))) _ :=
      .qbuf ret plane i data _
    exact hsettles.books (books_link hvbuf hfree)
  · have hgiven : ¬LinksBuffer plane data
        ((inst.setVbufFlags plane i data.flags).record (.handed plane i)) := hlinks
    rcases @irisVb2BufQueue_rejected ret plane i data _ hgiven with heq | heq
    · rw [heq, bufQueueFail, enterError_eq]
      exact hbooks.pass hfree rfl rfl
    · rw [heq]
      exact hbooks.pass hfree rfl rfl

/-! ### Steps -/

theorem Books.handOvers {plane : Plane} {inst : Inst} (hbooks : Books inst)
    (bufs : List (Nat × QbufData)) : Books (vb2HandOver plane bufs inst) := by
  unfold vb2HandOver
  induction bufs generalizing inst with
  | nil => exact hbooks
  | cons buf rest ih => exact ih (hbooks.handOver fun _ _ _ => rfl)

theorem Books.start {plane : Plane} {inst : Inst} (hbooks : Books inst) (env : InstEnv) :
    Books (vb2StartStreaming env plane inst) := by
  have hsettles : Settles (fun _ => True) inst (irisVb2StartStreaming env plane inst).2 :=
    ((StreamSteps.refl inst).startStreaming (stable_true plane) env).settles
  unfold vb2StartStreaming
  refine applyIf_keep (P := Books) _ (hsettles.books hbooks) fun hstarted => ?_
  exact ⟨hstarted.ledger, hstarted.nodup⟩

theorem Books.streamoff {plane : Plane} {inst : Inst} (hbooks : Books inst) (env : InstEnv) :
    Books (vb2Streamoff env plane inst) := by
  have hsettles : Settles (fun _ => True) inst (irisVb2StopStreaming env plane inst) :=
    ((StreamSteps.refl inst).stopStreaming (stable_true plane) env).settles
  have hafter := hsettles.books hbooks
  exact ⟨hafter.ledger, hafter.nodup⟩

theorem Books.applyOp {inst : Inst} {op : Op} (hbooks : Books inst) (hok : op.Accepted inst) :
    Books (applyOp inst op) := by
  cases op with
  | reqbufs env =>
      have hsettles : Settles (fun _ => True) inst (irisVb2QueueSetup env inst).2 :=
        ((StreamSteps.refl inst).queueSetup (stable_true .output) env).settles
      exact hsettles.books hbooks
  | qbuf ret plane i data =>
      simp only [NabuIris.applyOp]
      split_ifs with hstreaming
      · exact hbooks.handOver fun hfree hlinks _ => hok hstreaming hfree hlinks
      · exact hbooks
  | streamon env plane bufs =>
      simp only [NabuIris.applyOp]
      split_ifs
      · exact hbooks
      · exact (hbooks.handOvers bufs).start env
  | streamoff env plane =>
      simp only [NabuIris.applyOp]
      split_ifs
      · exact hbooks.streamoff env
      · exact hbooks
  | event event =>
      have hsettles : Settles (fun _ => True) inst (handleEvent event inst) :=
        (handleEvent_steps event inst).settles trivial
      exact hsettles.books hbooks

theorem Accounted.applyOp {inst : Inst} {op : Op} (haccounted : Accounted inst)
    (hok : op.Accepted inst) : Accounted (applyOp inst op) :=
  ⟨haccounted.books.applyOp hok, haccounted.placed.applyOp op⟩

/-- A refused QBUF leaves a listed buffer that the driver does not own. -/
theorem accepted_of_exactlyOnce {inst : Inst} {op : Op}
    (hafter : ExactlyOnce (NabuIris.applyOp inst op)) : op.Accepted inst := by
  cases op with
  | qbuf ret plane i data =>
      intro hstreaming hfree hlinks
      by_contra hret
      have hstays := hafter.listed plane i
      simp only [NabuIris.applyOp, if_pos hstreaming, vb2BufQueue] at hstays
      rw [if_neg (by simp [hfree])] at hstays
      have hgiven : LinksBuffer plane data
          ((inst.setVbufFlags plane i data.flags).record (.handed plane i)) := hlinks
      rw [irisVb2BufQueue_linked hgiven, if_pos ⟨hstreaming, hret⟩, bufQueueFail, enterError_eq]
        at hstays
      have hlisted : i ∈ (irisQbuf ret plane i data (v4l2M2mBufQueue plane i
          ((inst.setVbufFlags plane i data.flags).record (.handed plane i)))).2.ready plane := by
        rw [irisQbuf_ready]
        simp [v4l2M2mBufQueue, Inst.setReady]
      have howned := hstays hlisted
      simp only [v4l2M2mBufDone, Inst.record, driverOwns, Lib.holds_append, Lib.holdsStep,
        BufEvent.transfer, if_true] at howned
      cases howned
  | reqbufs env => trivial
  | streamon env plane bufs => trivial
  | streamoff env plane => trivial
  | event event => trivial

/-! ### Runs -/

theorem Fresh.accounted {inst : Inst} (hfresh : Fresh inst) : Accounted inst := by
  refine ⟨⟨?_, fun plane => ?_⟩, hfresh.placed⟩
  · have hnone : {b : Plane × Nat | b.2 ∈ inst.ready b.1} = ∅ := by
      ext ⟨plane, i⟩
      simp [hfresh.ready]
    rw [hfresh.log, hnone]
    exact Lib.Ledger.nil
  · rw [hfresh.ready plane]
    exact List.nodup_nil

/-- **Buffers go back exactly once** in the runs in which every linked buffer reaches the command
queue, and in no other run. -/
theorem exactly_once_iff {inst : Inst} (hfresh : Fresh inst) (ops : List Op) :
    (∀ pre, pre <+: ops → ExactlyOnce (instAfter inst pre)) ↔
      ∀ pre op, pre ++ [op] <+: ops → op.Accepted (instAfter inst pre) :=
  @Lib.weak_prefixes_iff _ _ applyOp (fun inst op => op.Accepted inst) ops Accounted ExactlyOnce
    (fun _ => Accounted.exactlyOnce) (fun _ _ _ => Accounted.applyOp)
    (fun _ _ _ _ => accepted_of_exactlyOnce) inst hfresh.accounted

/-- A queue that is started, given a buffer and stopped. -/
theorem exactly_once_stopped :
    ExactlyOnce (instAfter (openedDecoder .gen1 .vp9 true)
      [.streamon undisturbed .output [(0, frameData)], .qbuf 0 .output 1 frameData,
        .event .systemError, .streamoff undisturbed .output]) := by
  refine (exactly_once_iff (openedDecoder_fresh _ _ _) _).2 (fun pre op hpre => ?_) _
    List.prefix_rfl
  have hmem := hpre.subset (List.mem_append_right pre (List.mem_singleton_self op))
  simp only [List.mem_cons, List.not_mem_nil, or_false] at hmem
  rcases hmem with rfl | rfl | rfl | rfl
  · trivial
  · exact fun _ _ _ => rfl
  · trivial
  · trivial

/-- The command queue is full when the buffer of a streaming CAPTURE queue is queued. -/
def refusedQbuf : List Op :=
  [.streamon undisturbed .capture [], .qbuf (-enodata) .capture 0 frameData]

theorem not_exactlyOnce_refusedQbuf :
    Fresh (openedDecoder .gen2 .h264 false) ∧
      ¬ExactlyOnce (instAfter (openedDecoder .gen2 .h264 false) refusedQbuf) := by
  refine ⟨openedDecoder_fresh _ _ _, fun hafter => ?_⟩
  have howned := hafter.listed .capture 0 (by decide)
  exact absurd howned (by decide)

end NabuIris
