import NabuIris.Streaming

/-!
# The packet buffer of a session (`iris_hfi_gen2_command.c`)

`inst_hfi_gen2->packet` is where every command of the second generation but those of the core is
built. Opening the session allocates it; closing it, and killing it, frees it. The functions here
follow those of `Streaming` and keep a record of the builders that run, each with whether the buffer
was there. Where a function calls builders up to the first that fails, the record holds them all.
-/

namespace NabuIris

/-- What a command of a session is built for. -/
inductive Gen2Builder
  | open
  | close
  | start
  | stop
  | pause
  | resume
  | drain
  /-- a property, or a subscription -/
  | property
  | buffer
deriving DecidableEq, Repr

structure Gen2Session where
  inst : Inst
  /-- `inst_hfi_gen2->packet` is not NULL -/
  packet : Bool
  built : List (Gen2Builder × Bool)
  /-- the file was released -/
  released : Bool

/-- A decoder or encoder command of the client. -/
def Event.isCmd : Event → Bool
  | .cmd _ _ => true
  | _ => false

/-- The commands that an event builds: a client's, when it is not refused. -/
def eventBuilders (event : Event) (inst : Inst) : List Gen2Builder :=
  match event with
  | .cmd _ cmd =>
      if inst.state = .deinit ∨ !irisAllowCmd cmd inst then []
      else
        match cmd with
        | .start =>
            if hasFlag inst.subState (subInputPause ||| subOutputPause) then [.resume] else []
        | .stop => [.drain]
  | _ => []

/-- The commands that a STREAMON builds once the session is open. -/
def startBuilders : Plane → List Gen2Builder
  | .output => [.property, .buffer, .start, .pause]
  | .capture => [.property, .buffer, .resume, .start]

/-- No client command comes in any more. -/
def InstEnv.alone (env : InstEnv) : InstEnv :=
  { env with events := fun call => (env.events call).filter fun event => !event.isCmd }

namespace Gen2Session

def build (builders : List Gen2Builder) (s : Gen2Session) : Gen2Session :=
  { s with built := s.built ++ builders.map fun builder => (builder, s.packet) }

def change (f : Inst → Inst) (s : Gen2Session) : Gen2Session := { s with inst := f s.inst }

/-- A function of `Streaming` that leaves the buffer alone. -/
def call (f : Inst → Int × Inst) (s : Gen2Session) : Int × Gen2Session :=
  ((f s.inst).1, s.change fun inst => (f inst).2)

def giveUp (ret : Int) (s : Gen2Session) : Int × Gen2Session := (ret, s)

def handleEvent (s : Gen2Session) (event : Event) : Gen2Session :=
  (s.build (eventBuilders event s.inst)).change (NabuIris.handleEvent event)

def handleEvents (events : List Event) (s : Gen2Session) : Gen2Session :=
  events.foldl handleEvent s

def irisWaitForSessionResponse (env : InstEnv) (call : InstCall) (s : Gen2Session) :
    Int × Gen2Session :=
  let s := s.handleEvents (env.events call)
  if env.timedOut call then (-etimedout, s.change Inst.enterError) else (0, s)

/-! ### `iris_hfi_gen2_command.c` -/

/-- The result is the first failure, that of the allocation included. -/
def irisHfiGen2SessionOpen (env : InstEnv) (s : Gen2Session) : Int × Gen2Session :=
  let failFreePacket (ret : Int) (s : Gen2Session) : Int × Gen2Session :=
    (ret, { s with packet := false })
  if s.inst.state ≠ .deinit then (-ealready, s)
  else
    orGoto (env.ret .sessionOpen, { s with packet := true }.build [.open, .property])
      failFreePacket fun s => (0, s)

def irisHfiGen2SessionClose (env : InstEnv) (s : Gen2Session) : Int × Gen2Session :=
  if !s.packet then (-einval, s)
  else (env.ret .sessionClose, { s.build [.close] with packet := false })

def irisHfiGen2SessionStop (env : InstEnv) (s : Gen2Session) : Int × Gen2Session :=
  orGoto (env.ret .sessionStop, s.build [.stop]) giveUp
    (irisWaitForSessionResponse env .sessionStop)

/-! ### `iris_common.c` -/

def irisKillSession (env : InstEnv) (s : Gen2Session) : Gen2Session :=
  if s.inst.sessionId = 0 then s else (irisHfiGen2SessionClose env s).2.change Inst.enterError

def irisHfiSessionOpen (env : InstEnv) (s : Gen2Session) : Int × Gen2Session :=
  let releaseSlot (ret : Int) (s : Gen2Session) : Int × Gen2Session :=
    (ret, s.change fun inst => { inst with hfiSessionOpened := false })
  if s.inst.hfiSessionOpened then (0, s)
  else
    orGoto (env.ret .sessionSlot, s) giveUp fun s =>
    orGoto (irisHfiGen2SessionOpen env
      (s.change fun inst => { inst with hfiSessionOpened := true })) releaseSlot fun s =>
    if s.inst.state = .error then releaseSlot (-eio) s
    else orGoto (s.call (irisInstChangeState .init)) releaseSlot fun s => (0, s)

/-- `iris_hfi_session_close` up to its label `cleanup`. -/
def sessionClosing (env : InstEnv) (s : Gen2Session) : Int × Gen2Session :=
  let wasError := s.inst.state == .error
  orGoto (irisHfiGen2SessionClose env s) giveUp fun s =>
  orGoto (irisWaitForSessionResponse env .sessionClose s) giveUp fun s =>
  if !wasError ∧ s.inst.state = .error then (-eio, s)
  else if s.inst.state ≠ .error then s.call (irisInstChangeState .deinit)
  else (0, s)

def irisHfiSessionClose (env : InstEnv) (s : Gen2Session) : Int × Gen2Session :=
  if !s.inst.hfiSessionOpened then (0, s)
  else
    let closing := sessionClosing env s
    (closing.1, closing.2.change fun inst =>
      { inst with
        hfiSessionOpened := false
        subState := 0
        streamoffPending := false
        flushResponsesPending := 0
        lastBufferDequeued := false })

def irisSessionStreamoff (env : InstEnv) (plane : Plane) (s : Gen2Session) : Int × Gen2Session :=
  let error (ret : Int) (s : Gen2Session) : Int × Gen2Session :=
    (ret, (irisKillSession env s).change (irisFlushDeferredBuffers plane))
  orGoto (irisHfiGen2SessionStop env (s.change fun inst => { inst with streamoffPending := true }))
    error fun s =>
  orGoto (s.call (irisInstStateChangeStreamoff plane)) error fun s =>
  let s := s.change (irisFlushDeferredBuffers plane)
  if s.inst.state = .init then
    orGoto (firstFailure env [.destroyInternal .output, .destroyInternal .capture], s) giveUp
      (irisHfiSessionClose env)
  else (0, s)

/-! ### `iris_vdec.c`, `iris_venc.c` -/

/-- The label `error` of both. -/
def streamonRollback (env : InstEnv) (ret : Int) (s : Gen2Session) : Int × Gen2Session :=
  let s := s.change fun inst => { inst with startStreamingRollbackType := some .capture }
  (ret, (irisSessionStreamoff env .capture s).2.change fun inst =>
    { inst with startStreamingRollbackType := none })

def irisStreamonInput (env : InstEnv) (s : Gen2Session) : Int × Gen2Session :=
  (s.build (startBuilders .output)).call (NabuIris.irisStreamonInput env)

def irisStreamonOutput (env : InstEnv) (s : Gen2Session) : Int × Gen2Session :=
  let built := s.build (startBuilders .capture)
  streamonOutput env (fun ret inst => (ret, { built with inst }))
    (fun ret inst => streamonRollback env ret { built with inst })
    (fun inst => (0, { built with inst })) s.inst

/-! ### `iris_vb2.c` -/

def irisVb2QueueSetup (env : InstEnv) (s : Gen2Session) : Int × Gen2Session :=
  if s.inst.state = .error then (-ebusy, s)
  else
    orGoto (env.ret .sessionSupported, s) giveUp (irisHfiSessionOpen env)

def irisVb2StartStreaming (env : InstEnv) (plane : Plane) (s : Gen2Session) : Int × Gen2Session :=
  let error (ret : Int) (s : Gen2Session) : Int × Gen2Session :=
    (ret, s.change fun inst => (irisHelperBuffersDone plane .queued inst).enterError)
  if s.inst.state = .error then error (-ebusy) s
  else
    orGoto (env.ret .sessionSupported, s) error fun s =>
    orGoto (irisHfiSessionOpen env s) error fun s =>
    orGoto (match plane with
      | .output => irisStreamonInput env s
      | .capture => irisStreamonOutput env s) error fun s =>
    orGoto ((s.build [.buffer]).call (startDeferred env plane)) error fun s => (0, s)

def irisVb2StopStreaming (env : InstEnv) (plane : Plane) (s : Gen2Session) : Gen2Session :=
  if plane = .capture ∧ s.inst.state = .init then s
  else
    let streamoff := irisSessionStreamoff env plane
      (s.change fun inst =>
        inst.applyIf (inst.domain == .decoder && plane == .capture) irisVdecClearPendingOutput)
    streamoff.2.change fun inst =>
      (irisHelperBuffersDone plane .error inst).applyIf (streamoff.1 ≠ 0) Inst.enterError

/-! ### Runs -/

def vb2Streamon (env : InstEnv) (plane : Plane) (bufs : List (Nat × QbufData)) (s : Gen2Session) :
    Gen2Session :=
  let start := irisVb2StartStreaming env plane (s.change (vb2HandOver plane bufs))
  start.2.change fun inst => inst.applyIf (start.1 = 0) (·.setStreaming plane true)

def vb2Streamoff (env : InstEnv) (plane : Plane) (s : Gen2Session) : Gen2Session :=
  if s.inst.streaming plane then
    (irisVb2StopStreaming env plane s).change (·.setStreaming plane false)
  else s

/-- QBUF on a streaming queue builds a command unless the instance is in error. -/
def vb2Qbuf (ret : Int) (plane : Plane) (i : Nat) (data : QbufData) (s : Gen2Session) :
    Gen2Session :=
  if s.inst.streaming plane then
    (s.build (if s.inst.state = .error then [] else [.buffer])).change
      (vb2BufQueue ret plane i data)
  else s

/-- `iris_close`: mem2mem stops the queues that are still streaming, CAPTURE first. -/
def irisClose (env : Plane → InstEnv) (last : InstEnv) (s : Gen2Session) : Gen2Session :=
  let s := vb2Streamoff (env .output).alone .output (vb2Streamoff (env .capture).alone .capture s)
  { (irisHfiSessionClose last.alone s).2 with released := true }

end Gen2Session

inductive SessionOp
  | vb2 (op : Op)
  | close (env : Plane → InstEnv) (last : InstEnv)

namespace Gen2Session

def applyOp (s : Gen2Session) (op : SessionOp) : Gen2Session :=
  if s.released then s
  else
    match op with
    | .vb2 (.reqbufs env) => (irisVb2QueueSetup env s).2
    | .vb2 (.qbuf ret plane i data) => vb2Qbuf ret plane i data s
    | .vb2 (.streamon env plane bufs) =>
        if s.inst.streaming plane then s else vb2Streamon env plane bufs s
    | .vb2 (.streamoff env plane) => vb2Streamoff env plane s
    | .vb2 (.event event) => s.handleEvent event
    | .close env last => irisClose env last s

def after (s : Gen2Session) (ops : List SessionOp) : Gen2Session := ops.foldl applyOp s

/-- An instance as `iris_open` leaves it. -/
def opened (inst : Inst) : Gen2Session :=
  { inst, packet := false, built := [], released := false }

end Gen2Session

end NabuIris
