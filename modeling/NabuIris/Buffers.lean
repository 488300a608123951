import NabuIris.Instance

/-!
# Queueing and completing buffers (`iris_buffer.c`, `iris_utils.c`, `iris_vdec.c`)

`ret` is what `session_queue_buf` returns: the command queue may be full, or the core not ready.
-/

namespace NabuIris

/-! ### To the firmware -/

def irisQueueBuffer (ret : Int) (plane : Plane) (i : Nat) (inst : Inst) : Int × Inst :=
  if ret ≠ 0 then (ret, inst)
  else
    let buf := inst.buf plane i
    (0, (inst.setBuf plane i
      { buf with attr := { buf.attr with deferred := false, queued := true } }).record
        (.submitted plane i))

/-- The loop of `iris_queue_deferred_buffers` over the rest of a ready list. -/
def queueDeferred (ret : Nat → Int) (plane : Plane) : List Nat → Inst → Int × Inst
  | [], inst => (0, inst)
  | i :: rest, inst =>
      if !(inst.buf plane i).attr.deferred then queueDeferred ret plane rest inst
      else
        let queue := irisQueueBuffer (ret i) plane i inst
        if queue.1 ≠ 0 then queue else queueDeferred ret plane rest queue.2

def irisQueueDeferredBuffers (ret : Nat → Int) (plane : Plane) (inst : Inst) : Int × Inst :=
  queueDeferred ret plane (inst.ready plane) inst

/-! ### To videobuf2 -/

def payloadBytesused (plane : Plane) (buf : IrisBuffer) : Option Nat :=
  match plane with
  | .output => none
  | .capture => some buf.dataSize

def irisVb2BufferDone (plane : Plane) (i : Nat) (inst : Inst) : Int × Inst :=
  let buf := inst.buf plane i
  if i ∉ inst.ready plane then (-einval, inst)
  else
    let inst := v4l2M2mBufRemove plane i inst
    if inst.startStreamingRollbackType = some plane then
      (0, v4l2M2mBufDone plane i .queued none inst)
    else
      let flags := inst.vbufFlags plane i ||| buf.flags
      let inst := inst.setVbufFlags plane i flags
      if hasFlag buf.flags v4l2BufFlagError then (0, v4l2M2mBufDone plane i .error none inst)
      else
        let last := hasFlag flags v4l2BufFlagLast
        let inst :=
          { inst with
            m2mStopped := inst.m2mStopped || last
            lastBufferDequeued := inst.lastBufferDequeued || last }
        (0, v4l2M2mBufDone plane i .done
          (some
            { bytesused := payloadBytesused plane buf
              flags := flags
              timestamp := buf.timestamp }) inst)

/-- The loop of `iris_helper_buffers_done` over a ready list. -/
def helperBuffersDone (plane : Plane) (state : Vb2State) : List Nat → Inst → Inst
  | [], inst => inst
  | i :: rest, inst =>
      helperBuffersDone plane state rest
        (v4l2M2mBufDone plane i state none (v4l2M2mBufRemove plane i inst))

def irisHelperBuffersDone (plane : Plane) (state : Vb2State) (inst : Inst) : Inst :=
  helperBuffersDone plane state (inst.ready plane) inst

/-- The loop of `iris_flush_deferred_buffers` over the rest of a ready list. -/
def flushDeferred (plane : Plane) : List Nat → Inst → Inst
  | [], inst => inst
  | i :: rest, inst =>
      let buf := inst.buf plane i
      if buf.attr.deferred && !buf.attr.bufferDone then
        flushDeferred plane rest (irisVb2BufferDone plane i (inst.setBuf plane i
          { buf with attr := { buf.attr with bufferDone := true }, dataSize := 0 })).2
      else flushDeferred plane rest inst

def irisFlushDeferredBuffers (plane : Plane) (inst : Inst) : Inst :=
  flushDeferred plane (inst.ready plane) inst

/-! ### The held VP9 frame -/

/-- A buffer as it goes back to the firmware. -/
def IrisBuffer.recycled (buf : IrisBuffer) : IrisBuffer :=
  { buf with
    dataSize := 0
    flags := 0
    timestamp := 0
    attr := { buf.attr with queued := false, dequeued := false, bufferDone := false } }

def irisVdecRecyclePendingOutput (ret : Int) (inst : Inst) : Int × Inst :=
  match inst.pendingOutput with
  | none => (0, inst)
  | some i =>
      irisQueueBuffer ret .capture i
        ({ inst with pendingOutput := none }.setBuf .capture i (inst.buf .capture i).recycled)

def irisVdecCompletePendingOutput (inst : Inst) : Int × Inst :=
  match inst.pendingOutput with
  | none => (0, inst)
  | some i => irisVb2BufferDone .capture i { inst with pendingOutput := none }

def irisVdecHoldOutput (i : Nat) (inst : Inst) : Int × Inst :=
  if inst.pendingOutput.isSome then (-ebusy, inst.record (.holdRefused i))
  else (0, { inst with pendingOutput := some i })

def irisVdecClearPendingOutput (inst : Inst) : Inst := { inst with pendingOutput := none }

end NabuIris
