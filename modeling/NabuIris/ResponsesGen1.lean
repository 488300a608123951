import NabuIris.Buffers

/-!
# Responses of the first firmware generation (`iris_hfi_gen1_response.c`)

Each handler runs under `inst->lock`. What the format negotiation decides (whether a sequence fits
the buffers, whether it is supported) and what the command queue answers come with the packet.
-/

namespace NabuIris

/-! ### Buffer completions -/

/-- `HFI_MSG_SESSION_EMPTY_BUFFER` -/
structure EtbDone where
  packetBuffer : BitVec 32
  inputTag : Nat
  /-- `HFI_ERR_SESSION_UNSUPPORTED_STREAM` -/
  unsupportedStream : Bool
deriving DecidableEq, Repr

inductive PictureType
  | idr
  | i
  | p
  | b
  | other
deriving DecidableEq, Repr

/-- `HFI_MSG_SESSION_FILL_BUFFER` -/
structure FtbDone where
  streamId : Nat
  outputTag : Nat
  offset : Nat
  filledLen : Nat
  timestampHi : BitVec 32
  timestampLo : BitVec 32
  pictureType : PictureType
  eos : Bool
  dataCorrupt : Bool
  dropFrame : Bool
deriving DecidableEq, Repr

/-- What a buffer-done handler is told: whether a queued DPB has the packet's tag and offset, and
the results of its writes to the command queue. -/
structure FtbEnv where
  dpbFound : Bool
  flushRet : Int
  queueRet : Int
deriving DecidableEq, Repr

def FtbDone.filled (pkt : FtbDone) : Bool := pkt.filledLen ≠ 0

def FtbDone.timestamp (pkt : FtbDone) : BitVec 64 := pkt.timestampHi ++ pkt.timestampLo

/-- `HFI_CMD_SESSION_FLUSH` -/
def sessionFlush (ret : Int) (inst : Inst) : Inst :=
  inst.applyIf (ret = 0) fun inst =>
    { inst with flushResponsesPending := inst.flushResponsesPending + 1 }

/-- The buffer `i` comes back from the firmware. -/
def etbComplete (i : Nat) (inst : Inst) : Inst :=
  let buf := inst.buf .output i
  if !buf.attr.queued then inst
  else if buf.attr.bufferDone then
    inst.setBuf .output i { buf with attr := { buf.attr with queued := false } }
  else
    (irisVb2BufferDone .output i (inst.setBuf .output i
      { buf with attr := { buf.attr with queued := false, bufferDone := true } })).2

/-- A packet without a buffer, or with the sentinel address, completes a drain. -/
def irisHfiGen1SessionEtbDone (pkt : EtbDone) (inst : Inst) : Inst :=
  if pkt.packetBuffer = 0 ∨ pkt.packetBuffer = 0xdeadb000 then inst
  else if pkt.inputTag ∉ inst.ready .output then inst.enterError
  else
    etbComplete pkt.inputTag (inst.applyIf pkt.unsupportedStream fun inst =>
      (inst.setBuf .output pkt.inputTag
        { inst.buf .output pkt.inputTag with flags := v4l2BufFlagError }).enterError)

/-- The label `error` of `iris_hfi_gen1_session_ftb_done`. -/
def ftbUnmatched (inst : Inst) : Inst :=
  inst.applyIf (!(inst.streamoffPending || inst.lastBufferDequeued || inst.m2mStopped))
    Inst.enterError

/-- The loop over the destination buffers. -/
def ftbFind (pkt : FtbDone) (inst : Inst) : Option Nat :=
  (inst.ready .capture).find? fun i =>
    (inst.buf .capture i).attr.queued && i == pkt.outputTag &&
      (inst.buf .capture i).dataOffset == pkt.offset

/-- An empty completion that is the last one of a drain or of a source change. -/
def ftbLast (pkt : FtbDone) (inst : Inst) : Bool :=
  !pkt.filled && !inst.lastBufferDequeued &&
    match inst.domain with
    | .decoder => pkt.streamId == 1 && (irisDrcPending inst || irisDrainPending inst)
    | .encoder => irisDrainPending inst

def pictureFlags : PictureType → BufFlags
  | .idr => v4l2BufFlagKeyframe
  | .i => v4l2BufFlagKeyframe
  | .p => v4l2BufFlagPframe
  | .b => v4l2BufFlagBframe
  | .other => 0

/-- A filled frame of a legacy VP9 decoder, which may be a hidden alt-ref frame. -/
def ftbHeld (pkt : FtbDone) (inst : Inst) : Bool :=
  inst.domain == .decoder && pkt.filled && inst.legacyVpu5 && inst.codec == .vp9

def pendingHasTimestamp (timestamp : BitVec 64) (inst : Inst) : Bool :=
  inst.pendingOutput.any fun k => (inst.buf .capture k).timestamp == timestamp

def ftbPending (env : FtbEnv) (pkt : FtbDone) (inst : Inst) : Int × Inst :=
  if inst.domain = .decoder ∧ inst.legacyVpu5 then
    if inst.codec = .vp9 ∧ pkt.filled ∧ pendingHasTimestamp pkt.timestamp inst then
      irisVdecRecyclePendingOutput env.queueRet inst
    else irisVdecCompletePendingOutput inst
  else (0, inst)

def iris1MaxCorruptOutputDrops : Nat := 8

/-- A filled frame that goes back to the firmware instead of to userspace. -/
def ftbDropped (pkt : FtbDone) (inst : Inst) : Bool :=
  inst.domain == .decoder && pkt.filled && inst.legacyVpu5 && inst.codec != .vp9 &&
    (pkt.dataCorrupt || pkt.dropFrame) && inst.corruptOutputDrops < iris1MaxCorruptOutputDrops

/-- The matched buffer `i` is dropped and goes back to the firmware. -/
def ftbDrop (env : FtbEnv) (i : Nat) (inst : Inst) : Inst :=
  let inst := { inst with corruptOutputDrops := inst.corruptOutputDrops + 1 }
  orGoto (irisQueueBuffer env.queueRet .capture i
    (inst.setBuf .capture i (inst.buf .capture i).recycled)) (fun _ => ftbUnmatched) id

def ftbFlags (pkt : FtbDone) (last : Bool) (inst : Inst) : BufFlags :=
  (if last then v4l2BufFlagLast else 0) ||| pictureFlags pkt.pictureType |||
    (if (pkt.dataCorrupt || pkt.dropFrame) && !ftbHeld pkt inst then v4l2BufFlagError else 0)

/-- The matched buffer `i` is held, or goes to userspace. -/
def ftbDeliver (pkt : FtbDone) (last : Bool) (i : Nat) (inst : Inst) : Inst :=
  let buf := inst.buf .capture i
  let inst := inst.setBuf .capture i
    { buf with
      flags := buf.flags ||| ftbFlags pkt last inst
      attr := { buf.attr with queued := false, dequeued := true, bufferDone := true } }
  if ftbHeld pkt inst then orGoto (irisVdecHoldOutput i inst) (fun _ => ftbUnmatched) id
  else (irisVb2BufferDone .capture i inst).2

def ftbComplete (env : FtbEnv) (pkt : FtbDone) (last : Bool) (i : Nat) (inst : Inst) : Inst :=
  if ftbDropped pkt inst then ftbDrop env i inst
  else
    ftbDeliver pkt last i (inst.applyIf (inst.domain == .decoder && pkt.filled) fun inst =>
      { inst with corruptOutputDrops := 0 })

def ftbStore (pkt : FtbDone) (i : Nat) (inst : Inst) : Inst :=
  { inst with lastBufferDequeued := inst.lastBufferDequeued || ftbLast pkt inst }.setBuf .capture i
    { inst.buf .capture i with
      dataOffset := pkt.offset
      dataSize := pkt.filledLen
      timestamp := if pkt.filled then pkt.timestamp else 0 }

def ftbOutput (env : FtbEnv) (pkt : FtbDone) (i : Nat) (inst : Inst) : Inst :=
  orGoto (ftbPending env pkt (ftbStore pkt i inst)) (fun _ => ftbUnmatched)
    (ftbComplete env pkt (ftbLast pkt inst) i)

/-- The end of the stream, in an empty completion. -/
def ftbEos (env : FtbEnv) (pkt : FtbDone) (inst : Inst) : Inst :=
  inst.applyIf (pkt.eos && !pkt.filled) fun inst =>
    (irisInstSubStateChangeDrainLast (sessionFlush env.flushRet inst)).2

/-- The loop over the destination buffers, and what follows it. -/
def ftbMatch (env : FtbEnv) (pkt : FtbDone) (inst : Inst) : Inst :=
  match ftbFind pkt inst with
  | none => ftbUnmatched inst
  | some i => ftbOutput env pkt i inst

/-- A DPB, the buffer of stream 0 in split mode, is no `vb2` buffer: its completion ends here. The
visible rectangle that a VP9 resize publishes is left out. -/
def irisHfiGen1SessionFtbDone (env : FtbEnv) (pkt : FtbDone) (inst : Inst) : Inst :=
  if inst.splitMode ∧ inst.domain = .decoder ∧ pkt.streamId = 0 then
    (ftbEos env pkt inst).applyIf (!env.dpbFound) ftbUnmatched
  else ftbMatch env pkt (ftbEos env pkt inst)

/-! ### Events and command responses -/

/-- `HFI_EVENT_SESSION_SEQUENCE_CHANGED` -/
structure SeqChanged where
  /-- a sufficient or insufficient resource status, with properties -/
  valid : Bool
  /-- the bit depth or the format is not supported -/
  unsupported : Bool
  /-- the first sequence, for which the CAPTURE buffers in place suffice -/
  initialFits : Bool
  resumeRet : Int
  flushRet : Int
deriving DecidableEq, Repr

def irisHfiGen1ArmDrc (flushRet : Int) (inst : Inst) : Inst :=
  orGoto (irisInstSubStateChangeDrc inst) (fun _ => id) fun inst =>
    (irisInstSubStateChangeDrcLast
      (inst.applyIf (inst.state != .error && !hasFlag inst.subState subFirstIpsc)
        (sessionFlush flushRet))).2

/-- The first sequence of a running legacy decoder needs no drain. -/
def seqInitial (resumeRet : Int) (inst : Inst) : Inst :=
  if resumeRet ≠ 0 then inst.enterError
  else (irisInstChangeSubState (subDrc ||| subFirstIpsc ||| subInputPause) 0 inst).2

def seqReconfigure (pkt : SeqChanged) (inst : Inst) : Inst :=
  if inst.legacyVpu5 ∧ pkt.initialFits ∧ inst.state = .streaming then seqInitial pkt.resumeRet inst
  else irisHfiGen1ArmDrc pkt.flushRet inst

def irisHfiGen1EventSeqChanged (pkt : SeqChanged) (inst : Inst) : Inst :=
  if hasFlag inst.subState subDrc then inst
  else if !pkt.valid then inst.enterError
  else seqReconfigure pkt (inst.applyIf pkt.unsupported Inst.enterError)

/-- The responses to session commands that the handler tells apart. -/
inductive SessionDone
  | stop
  | flush
  | other
deriving DecidableEq, Repr

/-- `error_type` of such a response. -/
inductive SessionError
  | none
  | sameState
  | incorrectState
  | other
deriving DecidableEq, Repr

inductive Gen1Response
  | etbDone (pkt : EtbDone)
  | ftbDone (env : FtbEnv) (pkt : FtbDone)
  | sessionDone (type : SessionDone) (error : SessionError)
  | sessionError (fatal : Bool)
  | seqChanged (pkt : SeqChanged)
deriving DecidableEq, Repr

/-- Errors that a stop in progress makes harmless. -/
def sessionDoneAccepted (type : SessionDone) (error : SessionError) (inst : Inst) : Bool :=
  (error == .sameState && inst.streamoffPending) ||
    (type == .stop && error == .incorrectState && inst.streamoffPending)

def irisHfiGen1SessionDone (type : SessionDone) (error : SessionError) (inst : Inst) : Inst :=
  (inst.applyIf (!sessionDoneAccepted type error inst && error != .none) Inst.enterError).applyIf
    (type = .flush) fun inst =>
      { inst with flushResponsesPending := inst.flushResponsesPending - 1 }

def irisHfiGen1HandleResponse (response : Gen1Response) (inst : Inst) : Inst :=
  match response with
  | .etbDone pkt => irisHfiGen1SessionEtbDone pkt inst
  | .ftbDone env pkt => irisHfiGen1SessionFtbDone env pkt inst
  | .sessionDone type error => irisHfiGen1SessionDone type error inst
  | .sessionError fatal => inst.applyIf fatal Inst.enterError
  | .seqChanged pkt => irisHfiGen1EventSeqChanged pkt inst

end NabuIris
