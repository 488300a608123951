import NabuIris.Gen1Message
import NabuIris.StreamSections
import NabuIris.Timestamps

/-!
# The internal buffers of a legacy decoder (`iris_buffer.c`, `iris_vdec.c`, `iris_vpu_buffer.c`)

The streaming of a decoder of the first generation, section by section as in `StreamSections`, with
the buffers that the driver allocates for the firmware. The platforms of that generation share the
tables of `iris_platform_sm8250.c`. `starts` and `restarts` are not in the driver.
-/

namespace NabuIris

open Lib

/-- What a start of the CAPTURE queue creates, beside the DPBs that it finds. -/
structure Restart where
  /-- the tags of the DPBs that the firmware still holds -/
  kept : List Nat
  created : Nat
deriving DecidableEq, Repr

/-- `struct iris_buffers`; of a buffer only its attributes are looked at again. -/
structure BufferPool where
  size : U32
  minCount : U32
  list : List InternalAttr
deriving DecidableEq, Repr

structure PoolInst where
  /-- with the list and the count of `BUF_DPB` -/
  base : Gen1Message.Gen1Inst
  /-- `buffers[BUF_DPB].size` -/
  dpbSize : U32
  /-- `buffers`, for the other types -/
  pool : BufType → BufferPool
  /-- the stream starts that have allocated a buffer of the type since its list was emptied -/
  starts : BufType → Nat
  restarts : List Restart

structure PoolEnv where
  call : InstEnv
  /-- `iris_vpu_buf_size` -/
  calculated : BufType → U32
  /-- the address that `dma_alloc_attrs` gives a buffer, if there is memory -/
  alloc : BufType → Nat → Option Nat
  /-- `session_queue_buf` for the buffer at a position of its list -/
  queueRet : BufType → Nat → Int
  /-- the command of `session_release_buf` -/
  releaseRet : BufType → Nat → Int

/-- `dec_ip_int_buf_tbl`, `dec_op_int_buf_tbl` -/
def decIntBufTbl : Plane → List BufType
  | .output => [.bin, .scratch1]
  | .capture => [.dpb]

/-! ### Counts and sizes -/

def outputMinCount (s : Gen1Message.Gen1Inst) : U32 :=
  let fwMinCount := s.formats.fwMinCount
  if fwMinCount ≠ 0 then
    if s.inst.splitMode ∧ s.inst.codec = .vp9 then if 4 < fwMinCount then 4 else fwMinCount
    else fwMinCount
  else if s.inst.codec = .vp9 then 9
  else 4

def irisVpuDpbCount (s : Gen1Message.Gen1Inst) : U32 :=
  if s.inst.splitMode then
    if s.formats.fwMinCount = 0 ∧ s.inst.legacyVpu5 then BitVec.ofNat 32 videoMaxFrame
    else if s.formats.fwMinCount ≠ 0 then s.formats.fwMinCount
    else s.formats.outputMinCount
  else 0

/-- `iris_vpu_buf_count` of a decoder -/
def irisVpuBufCount (s : Gen1Message.Gen1Inst) : BufType → U32
  | .input => 4
  | .output => outputMinCount s
  | .bin | .line | .persist => 1
  | .comv | .nonComv => if s.inst.codec = .h264 ∨ s.inst.codec = .hevc then 1 else 0
  | .scratch1 | .scratch2 | .vpss | .arp => 1
  | .dpb => irisVpuDpbCount s

namespace PoolInst

def onInst (change : Inst → Inst) (s : PoolInst) : PoolInst :=
  { s with base := { s.base with inst := change s.base.inst } }

def setPool (type : BufType) (pool : BufferPool) (s : PoolInst) : PoolInst :=
  { s with pool := Function.update s.pool type pool }

def setList (type : BufType) (list : List InternalAttr) (s : PoolInst) : PoolInst :=
  s.setPool type { s.pool type with list }

def setDpbs (dpbs : List Gen1Message.Dpb) (s : PoolInst) : PoolInst :=
  { s with base := { s.base with dpbs } }

def size (s : PoolInst) : BufType → U32
  | .dpb => s.dpbSize
  | type => (s.pool type).size

def minCount (s : PoolInst) : BufType → U32
  | .dpb => s.base.dpbMinCount
  | type => (s.pool type).minCount

def irisFillInternalBufInfo (env : PoolEnv) (s : PoolInst) (type : BufType) : PoolInst :=
  let reported := s.base.fwBufferSizes type
  let calculated := env.calculated type
  let size :=
    if s.base.inst.legacyVpu5 ∧ reported ≠ 0 then reported
    else if calculated < reported then reported
    else calculated
  let minCount := irisVpuBufCount s.base type
  match type with
  | .dpb => { s with base := { s.base with dpbMinCount := minCount }, dpbSize := size }
  | type => s.setPool type { s.pool type with size, minCount }

def irisGetInternalBuffers (env : PoolEnv) (plane : Plane) (s : PoolInst) : PoolInst :=
  (decIntBufTbl plane).foldl (irisFillInternalBufInfo env) s

/-! ### Loops -/

/-- A loop over the types of a table. -/
def forTypes (f : BufType → PoolInst → Int × PoolInst) : List BufType → PoolInst → Int × PoolInst
  | [], s => (0, s)
  | type :: rest, s => orGoto (f type s) (fun ret s => (ret, s)) (forTypes f rest)

/-- `list_for_each_entry_safe` with an early return; `k` is the position of the entry. -/
def forEachEntry {β : Type} (f : Nat → β → Int × β) : Nat → List β → Int × List β
  | _, [] => (0, [])
  | k, entry :: rest =>
      let visited := f k entry
      if visited.1 ≠ 0 then (visited.1, visited.2 :: rest)
      else
        let others := forEachEntry f (k + 1) rest
        (others.1, visited.2 :: others.2)

/-! ### Creation -/

/-- A DPB as `kzalloc` and `dma_alloc_attrs` leave it. -/
def newDpb (index addr : Nat) : Gen1Message.Dpb where
  index := (BitVec.ofNat 32 (videoMaxFrame + index)).toNat
  buf :=
    { deviceAddr := addr
      dataOffset := 0
      dataSize := 0
      flags := 0
      timestamp := 0
      attr := { deferred := false, queued := false, dequeued := false, bufferDone := false } }

def irisCreateInternalBuffer (env : PoolEnv) (type : BufType) (index : Nat) (s : PoolInst) :
    Int × PoolInst :=
  if s.size type = 0 then (0, s)
  else
    match env.alloc type index, type with
    | none, _ => (-enomem, s)
    | some addr, .dpb => (0, s.setDpbs (s.base.dpbs ++ [newDpb index addr]))
    | some _, type =>
        let attr : InternalAttr := { deferred := false, pendingRelease := false, queued := false }
        (0, s.setList type ((s.pool type).list ++ [attr]))

/-- The loop over the `n` indices from `index` on. -/
def createFrom (env : PoolEnv) (type : BufType) : Nat → Nat → PoolInst → Int × PoolInst
  | 0, _, s => (0, s)
  | n + 1, index, s =>
      orGoto (irisCreateInternalBuffer env type index s) (fun ret s => (ret, s))
        (createFrom env type n (index + 1))

def createType (env : PoolEnv) (type : BufType) (s : PoolInst) : Int × PoolInst :=
  createFrom env type (s.minCount type).toNat 0 s

/-- What the start of a queue has created since `before`. -/
def noteStart (plane : Plane) (s before : PoolInst) : PoolInst :=
  match plane with
  | .output =>
      { s with
        starts := fun type =>
          if (before.pool type).list.length < (s.pool type).list.length then s.starts type + 1
          else s.starts type }
  | .capture =>
      let restart : Restart :=
        { kept := before.base.dpbs.map Gen1Message.Dpb.index
          created := s.base.dpbs.length - before.base.dpbs.length }
      { s with restarts := s.restarts ++ [restart] }

def irisCreateInternalBuffers (env : PoolEnv) (plane : Plane) (s : PoolInst) : Int × PoolInst :=
  let created := forTypes (createType env) (decIntBufTbl plane) s
  (created.1, created.2.noteStart plane s)

/-! ### To the firmware -/

/-- `iris_queue_buffer` -/
def irisQueueInternal (ret : Nat → Int) (k : Nat) (attr : InternalAttr) : Int × InternalAttr :=
  if attr.pendingRelease || attr.queued then (0, attr)
  else orGoto (ret k, attr) (fun ret attr => (ret, attr)) fun attr =>
    (0, { attr with deferred := false, queued := true })

/-- `iris_queue_buffer` for a DPB -/
def irisQueueDpb (ret : Int) (dpb : Gen1Message.Dpb) : Int × Gen1Message.Dpb :=
  orGoto (ret, dpb) (fun ret dpb => (ret, dpb)) fun dpb =>
  (0,
    { dpb with
      buf := { dpb.buf with attr := { dpb.buf.attr with deferred := false, queued := true } } })

/-- The body of the loop for a DPB, which is never released: one that is not streaming waits. -/
def queueDpb (state : InstState) (ret : Nat → Int) (k : Nat) (dpb : Gen1Message.Dpb) :
    Int × Gen1Message.Dpb :=
  if dpb.buf.attr.queued then (0, dpb)
  else if state ≠ .streaming then
    (0, { dpb with buf := { dpb.buf with attr := { dpb.buf.attr with deferred := true } } })
  else irisQueueDpb (ret k) dpb

def queueType (queueRet : BufType → Nat → Int) (type : BufType) (s : PoolInst) : Int × PoolInst :=
  match type with
  | .dpb =>
      let queued := forEachEntry (queueDpb s.base.inst.state (queueRet .dpb)) 0 s.base.dpbs
      (queued.1, s.setDpbs queued.2)
  | type =>
      let queued := forEachEntry (irisQueueInternal (queueRet type)) 0 (s.pool type).list
      (queued.1, s.setList type queued.2)

def irisQueueInternalBuffers (queueRet : BufType → Nat → Int) (plane : Plane) (s : PoolInst) :
    Int × PoolInst :=
  forTypes (queueType queueRet) (decIntBufTbl plane) s

/-- `iris_queue_internal_deferred_buffers` for `BUF_DPB` -/
def irisQueueInternalDeferredBuffers (ret : Nat → Int) (s : PoolInst) : Int × PoolInst :=
  let queued := forEachEntry (fun k dpb =>
    if !dpb.buf.attr.queued && dpb.buf.attr.deferred then irisQueueDpb (ret k) dpb else (0, dpb))
    0 s.base.dpbs
  (queued.1, s.setDpbs queued.2)

/-! ### Destruction -/

def destroyType (force : Bool) (s : PoolInst) (type : BufType) : PoolInst :=
  match type with
  | .dpb => s.setDpbs (s.base.dpbs.filter fun dpb => !force && dpb.buf.attr.queued)
  | type => s.setList type ((s.pool type).list.filter fun attr => !force && attr.queued)

def irisDestroyDequeuedInternalBuffers (plane : Plane) (s : PoolInst) : PoolInst :=
  (decIntBufTbl plane).foldl (destroyType false) s

/-- Every list that is emptied has no starts any more. -/
def irisDestroyAllInternalBuffers (plane : Plane) (s : PoolInst) : PoolInst :=
  let s := destroyType true ((decIntBufTbl plane).foldl (destroyType true) s) .persist
  { s with starts := fun type => if type ∈ decIntBufTbl plane then 0 else s.starts type }

def irisAllocAndQueuePersistBufs (env : PoolEnv) (s : PoolInst) : Int × PoolInst :=
  if (s.pool .persist).list ≠ [] then (0, s)
  else
    orGoto (createType env .persist (irisFillInternalBufInfo env s .persist))
      (fun ret s => (ret, s)) (queueType env.queueRet .persist)

end PoolInst

/-! ### Sections -/

abbrev PoolProgram := Sections PoolInst InstCall Int

def PoolProgram.orGoto (call : PoolProgram) (label : Int → PoolInst → PoolProgram)
    (next : PoolInst → PoolProgram) : PoolProgram :=
  call.bind fun ret s => NabuIris.orGoto (ret, s) label next

namespace PoolInst

/-- `return ret` -/
def giveUp (ret : Int) (s : PoolInst) : PoolProgram := .done ret s

/-- What `StreamSections` is about; nothing is counted. -/
def session (s : PoolInst) : Session where
  inst := s.base.inst
  flushCompletion := s.base.flushCompletion
  tally := .zero

def setSession (s : PoolInst) (t : Session) : PoolInst :=
  { s with base := { s.base with inst := t.inst, flushCompletion := t.flushCompletion } }

/-- A function that does not know of internal buffers. -/
def onSession (program : Session → Program) (s : PoolInst) : PoolProgram :=
  (program s.session).zoom session setSession s

/-- A call that does not wait. -/
def lift (call : Inst → Int × Inst) (s : PoolInst) : Int × PoolInst :=
  ((call s.base.inst).1, s.onInst fun inst => (call inst).2)

/-! ### The input side (`iris_alloc_and_queue_input_int_bufs`) -/

/-- `iris_release_internal_buffers`, for the positions that are left: the release of a buffer waits
for its response. -/
def releaseAt (env : PoolEnv) (type : BufType) : List Nat → PoolInst → PoolProgram
  | [], s => .done 0 s
  | k :: rest, s =>
      match (s.pool type).list[k]? with
      | none => releaseAt env type rest s
      | some attr =>
          if attr.pendingRelease || !attr.queued then releaseAt env type rest s
          else
            orGoto (env.releaseRet type k, s) giveUp fun s =>
            (onSession (Session.irisWaitForSessionResponse .inputInternal) s).orGoto giveUp fun s =>
            releaseAt env type rest
              (s.setList type ((s.pool type).list.modify k fun attr =>
                { attr with pendingRelease := true }))

def irisReleaseInternalBuffers (env : PoolEnv) (type : BufType) (s : PoolInst) : PoolProgram :=
  releaseAt env type (List.range (s.pool type).list.length) s

def releaseTypes (env : PoolEnv) : List BufType → PoolInst → PoolProgram
  | [], s => .done 0 s
  | type :: rest, s => (irisReleaseInternalBuffers env type s).orGoto giveUp (releaseTypes env rest)

def irisAllocAndQueueInputIntBufs (env : PoolEnv) (s : PoolInst) : PoolProgram :=
  (releaseTypes env (decIntBufTbl .output) (s.irisGetInternalBuffers env .output)).orGoto giveUp
    fun s =>
  orGoto (s.irisCreateInternalBuffers env .output) giveUp fun s =>
  let queued := s.irisQueueInternalBuffers env.queueRet .output
  .done queued.1 queued.2

/-! ### `iris_common.c` -/

def streamoffError (plane : Plane) (ret : Int) (s : PoolInst) : PoolProgram :=
  .done ret (s.onInst fun inst => irisFlushDeferredBuffers plane (irisKillSession inst))

/-- The destruction of a buffer cannot fail. -/
def irisSessionStreamoff (env : PoolEnv) (plane : Plane) (s : PoolInst) : PoolProgram :=
  (onSession (Session.sessionStop env.call)
    (s.onInst fun inst => { inst with streamoffPending := true })).orGoto
    (streamoffError plane) fun s =>
  orGoto (s.lift (irisInstStateChangeStreamoff plane)) (streamoffError plane) fun s =>
  let s := s.onInst (irisFlushDeferredBuffers plane)
  if s.base.inst.state = .init then
    onSession (Session.irisHfiSessionClose env.call)
      ((s.irisDestroyAllInternalBuffers .output).irisDestroyAllInternalBuffers .capture)
  else .done 0 s

def irisProcessStreamonOutput (env : PoolEnv) (s : PoolInst) : PoolProgram :=
  let drainActive := irisDrainPending s.base.inst
  let clear := Session.pendingClear s.base.inst
  let internal : PoolProgram :=
    if hasFlag s.base.inst.subState subInputPause then
      (irisAllocAndQueueInputIntBufs env s).orGoto giveUp fun s =>
      .done (firstFailure env.call [.setStage, .setPipe]) s
    else .done 0 s
  internal.orGoto giveUp (onSession (Session.streamonOutputStarted env.call drainActive clear))

/-! ### `iris_vdec.c` -/

def irisVdecStreamonInput (env : PoolEnv) (s : PoolInst) : PoolProgram :=
  (onSession (Session.waitingCall env.call .setProperties) (s.onInst fun inst =>
    { inst with streamoffPending := false, corruptOutputDrops := 0, pendingOutput := none })).orGoto
    giveUp fun s =>
  orGoto (env.call.ret .setOutputOrder, s) giveUp fun s =>
  orGoto (s.irisAllocAndQueuePersistBufs env) giveUp fun s =>
  let s := (s.irisGetInternalBuffers env .output).irisDestroyDequeuedInternalBuffers .output
  orGoto (s.irisCreateInternalBuffers env .output) giveUp fun s =>
  orGoto (s.irisQueueInternalBuffers env.queueRet .output) giveUp
    (onSession (Session.irisProcessStreamonInput env.call))

/-- The label `error` of `iris_vdec_streamon_output`. -/
def streamonRollback (env : PoolEnv) (ret : Int) (s : PoolInst) : PoolProgram :=
  (irisSessionStreamoff env .capture (s.onInst fun inst =>
    { inst with startStreamingRollbackType := some .capture })).bind fun _ s =>
  .done ret (s.onInst fun inst => { inst with startStreamingRollbackType := none })

def irisVdecStreamonOutput (env : PoolEnv) (s : PoolInst) : PoolProgram :=
  (onSession (Session.waitingCall env.call .setConfigParams)
    (s.onInst fun inst => { inst with streamoffPending := false })).orGoto giveUp fun s =>
  let s := (s.irisGetInternalBuffers env .capture).irisDestroyDequeuedInternalBuffers .capture
  orGoto (s.irisCreateInternalBuffers env .capture) giveUp fun s =>
  (irisProcessStreamonOutput env s).orGoto (streamonRollback env) fun s =>
  orGoto (s.irisQueueInternalBuffers env.queueRet .capture) (streamonRollback env) fun s =>
  .done 0 s

/-! ### `iris_vb2.c` and videobuf2 -/

def startError (plane : Plane) (ret : Int) (s : PoolInst) : PoolProgram :=
  .done ret (s.onInst fun inst => (irisHelperBuffersDone plane .queued inst).enterError)

def startDeferred (env : PoolEnv) (plane : Plane) (s : PoolInst) : Int × PoolInst :=
  let deferred (plane : Plane) (s : PoolInst) : Int × PoolInst :=
    s.lift (irisQueueDeferredBuffers (env.call.queueRet plane) plane)
  orGoto (match plane with
    | .output => deferred .output s
    | .capture => (0, s)) (fun ret s => (ret, s)) fun s =>
  if s.base.inst.state = .streaming then
    orGoto (s.irisQueueInternalDeferredBuffers (env.queueRet .dpb)) (fun ret s => (ret, s))
      (deferred .capture)
  else (0, s)

def irisVb2StartStreaming (env : PoolEnv) (plane : Plane) (s : PoolInst) : PoolProgram :=
  if s.base.inst.state = .error then startError plane (-ebusy) s
  else
    orGoto (env.call.ret .sessionSupported, s) (startError plane) fun s =>
    (onSession (Session.irisHfiSessionOpen env.call) s).orGoto (startError plane) fun s =>
    PoolProgram.orGoto (match plane with
      | .output => irisVdecStreamonInput env s
      | .capture => irisVdecStreamonOutput env s) (startError plane) fun s =>
    orGoto (s.startDeferred env plane) (startError plane) fun s => .done 0 s

def irisVb2StopStreaming (env : PoolEnv) (plane : Plane) (s : PoolInst) : PoolProgram :=
  if plane = .capture ∧ s.base.inst.state = .init then .done 0 s
  else
    (irisSessionStreamoff env plane (s.onInst fun inst =>
      inst.applyIf (plane == .capture) irisVdecClearPendingOutput)).bind fun ret s =>
    .done ret (s.onInst fun inst =>
      (irisHelperBuffersDone plane .error inst).applyIf (ret ≠ 0) Inst.enterError)

def vb2Streamon (env : PoolEnv) (plane : Plane) (bufs : List (Nat × QbufData)) (s : PoolInst) :
    PoolProgram :=
  (irisVb2StartStreaming env plane (s.setSession (s.session.vb2HandOver plane bufs))).bind
    fun ret s =>
  .done ret (s.onInst fun inst => inst.applyIf (ret = 0) (·.setStreaming plane true))

def vb2Streamoff (env : PoolEnv) (plane : Plane) (s : PoolInst) : PoolProgram :=
  (irisVb2StopStreaming env plane s).bind fun ret s =>
  .done ret (s.onInst (·.setStreaming plane false))

/-! ### Commands -/

/-- `iris_vdec_start_cmd` from the end of its wait for the flush. -/
def irisVdecStartCmdFlushed (env : CmdEnv) (dpbRet : Nat → Int) (s : PoolInst) : Int × PoolInst :=
  let fail (ret : Int) (s : PoolInst) : Int × PoolInst := (ret, s)
  let clear (ret : Int) (subState : SubState) : Int × PoolInst :=
    orGoto (ret, s) fail (lift fun inst =>
      irisInstChangeSubState (subState ||| pausedSubState inst) 0 inst)
  let inst := s.base.inst
  orGoto
    (if irisDrcPending inst then clear (resumePaused env.resumeRet inst) (subDrc ||| subDrcLast)
      else if irisDrainPending inst then
        clear (resumePaused (sessionResumeDrain inst.gen env.resumeRet) inst)
          (subDrain ||| subDrainLast)
      else (-ebusy, s.onInst Inst.enterError)) fail fun s =>
  let s := s.onInst fun inst => { inst with lastBufferDequeued := false }
  if s.base.inst.legacyVpu5 ∧ s.base.inst.state = .streaming then
    orGoto (s.irisQueueInternalBuffers (fun _ => dpbRet) .capture) fail fun s =>
    orGoto (s.lift (irisQueueDeferredBuffers (env.queueRet .capture) .capture)) fail
      (lift (irisQueueDeferredBuffers (env.queueRet .output) .output))
  else (0, s)

def irisVdecStartCmd (env : CmdEnv) (dpbRet : Nat → Int) (s : PoolInst) : Int × PoolInst :=
  let inst := s.base.inst
  if env.captureFormatChanged then (-einval, s)
  else if inst.state = .streaming ∧ !hasFlag inst.subState (subDrc ||| subDrain) then (0, s)
  else if inst.legacyVpu5 ∧ inst.flushResponsesPending ≠ 0 then (0, s)
  else irisVdecStartCmdFlushed env dpbRet s

def irisDecCmd (env : CmdEnv) (dpbRet : Nat → Int) (cmd : Cmd) (s : PoolInst) : Int × PoolInst :=
  if s.base.inst.state = .deinit then (0, s)
  else if !irisAllowCmd cmd s.base.inst then (-ebusy, s)
  else
    match cmd with
    | .start => irisVdecStartCmd env dpbRet s
    | .stop => s.lift (irisStopCmd env)

end PoolInst

/-! ### Runs -/

inductive PoolEvent
  /-- a message of the session, with what the response packet holds -/
  | message (env : Gen1Message.Gen1Env) (pktType : U32) (mem : Memory)
  | systemError
  /-- a wait that is not modelled on its own ran out -/
  | responseTimeout
  | cmd (env : CmdEnv) (dpbRet : Nat → Int) (cmd : Cmd)
  /-- the end of the wait of a start command -/
  | startFlushed (env : CmdEnv) (dpbRet : Nat → Int) (timedOut : Bool)
  /-- what the format ioctls and REQBUFS leave -/
  | negotiated (formats : Formats) (splitMode : Bool) (numBuffers : U32)

inductive PoolCall
  | reqbufs (env : InstEnv)
  | qbuf (ret : Int) (plane : Plane) (i : Nat) (data : QbufData)
  | streamon (env : PoolEnv) (plane : Plane) (bufs : List (Nat × QbufData))
  | streamoff (env : PoolEnv) (plane : Plane)

namespace PoolInst

def handle (event : PoolEvent) (s : PoolInst) : PoolInst :=
  match event with
  | .message env pktType mem =>
      { s with base := ((Gen1Message.handleSession env pktType s.base).run mem).2 }
  | .systemError => s.onInst Inst.enterError
  | .responseTimeout => s.onInst Inst.enterError
  | .cmd env dpbRet cmd => (s.irisDecCmd env dpbRet cmd).2
  | .startFlushed env dpbRet timedOut =>
      if timedOut then s.onInst Inst.enterError else (s.irisVdecStartCmdFlushed env dpbRet).2
  | .negotiated formats splitMode numBuffers =>
      { s with
        base :=
          { s.base with
            inst := { s.base.inst with splitMode }
            formats
            numBuffers } }

def resume (call : InstCall) (timedOut : Bool) (s : PoolInst) : Option PoolInst :=
  (s.session.resume call timedOut).map s.setSession

def body (call : PoolCall) (s : PoolInst) : PoolProgram :=
  let streaming := s.base.inst.streaming
  match call with
  | .reqbufs env => onSession (Session.irisVb2QueueSetup env) s
  | .qbuf ret plane i data =>
      .done 0 (if streaming plane then s.setSession (s.session.vb2BufQueue ret plane i data) else s)
  | .streamon env plane bufs =>
      if streaming plane then .done 0 s else vb2Streamon env plane bufs s
  | .streamoff env plane => if streaming plane then vb2Streamoff env plane s else .done 0 s

/-- An instance without internal buffers. -/
def opened (base : Gen1Message.Gen1Inst) : PoolInst where
  base := { base with dpbs := [], dpbMinCount := 0 }
  dpbSize := 0
  pool := fun _ => { size := 0, minCount := 0, list := [] }
  starts := fun _ => 0
  restarts := []

end PoolInst

abbrev PoolMove := Lib.Move PoolEvent PoolCall

def poolMachine : Machine PoolInst InstCall PoolEvent PoolCall Int where
  handle := PoolInst.handle
  resume := fun call timedOut s => s.resume call timedOut
  body := PoolInst.body

end NabuIris
