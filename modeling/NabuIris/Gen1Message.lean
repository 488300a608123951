import NabuIris.InternalBuffers
import NabuIris.Lib.Reading
import NabuIris.ResponsesGen1
import NabuIris.SourceChange

/-!
# Messages of the first generation (`iris_hfi_gen1_response.c`)

What the handlers read of `core->response_packet`, word by word, and all that they change by it.
What they make of an instance once a packet is read is in `ResponsesGen1` and `SourceChange`. Words
that only reach a debug message, or a field that nobody uses, are not read here.
-/

namespace NabuIris.Gen1Message

open Lib Lib.Reading

/-! ### Message types, events and errors -/

def hfiMsgSysInit : U32 := 0x20001
def hfiMsgSysPcPrep : U32 := 0x20002
def hfiMsgSysSessionInit : U32 := 0x20006
def hfiMsgSysSessionEnd : U32 := 0x20007
def hfiMsgSysPropertyInfo : U32 := 0x2000a
def hfiMsgEventNotify : U32 := 0x21001
def hfiMsgSessionLoadResources : U32 := 0x221001
def hfiMsgSessionStart : U32 := 0x221002
def hfiMsgSessionStop : U32 := 0x221003
def hfiMsgSessionFlush : U32 := 0x221006
def hfiMsgSessionEmptyBuffer : U32 := 0x221007
def hfiMsgSessionFillBuffer : U32 := 0x221008
def hfiMsgSessionPropertyInfo : U32 := 0x221009
def hfiMsgSessionReleaseResources : U32 := 0x22100a
def hfiMsgSessionReleaseBuffers : U32 := 0x22100c

/-- Each type with the size of the structure that `pkt_infos` asks for. -/
def pktInfos : List (U32 × Nat) :=
  [(hfiMsgEventNotify, 24), (hfiMsgSysInit, 16), (hfiMsgSysPcPrep, 12),
    (hfiMsgSysPropertyInfo, 16), (hfiMsgSysSessionInit, 20), (hfiMsgSysSessionEnd, 16),
    (hfiMsgSessionLoadResources, 16), (hfiMsgSessionStart, 16), (hfiMsgSessionStop, 16),
    (hfiMsgSessionEmptyBuffer, 36), (hfiMsgSessionFillBuffer, 72), (hfiMsgSessionPropertyInfo, 20),
    (hfiMsgSessionFlush, 20), (hfiMsgSessionReleaseResources, 16),
    (hfiMsgSessionReleaseBuffers, 20)]

def hfiEventSysError : U32 := 0x1
def hfiEventSessionError : U32 := 0x2
def hfiEventSessionSequenceChanged : U32 := 0x1000003
def hfiEventDataSequenceChangedSufficientBufResources : U32 := 0x1000001
def hfiEventDataSequenceChangedInsufficientBufResources : U32 := 0x1000002

def hfiErrSessionIncorrectStateOperation : U32 := 0x1006
def hfiErrSessionUnsupportedSetting : U32 := 0x1008
def hfiErrSessionUnsupportedStream : U32 := 0x100d
def hfiErrSessionUnsupportBuffertype : U32 := 0x1010
def hfiErrSessionInvalidScaleFactor : U32 := 0x1012
def hfiErrSessionUpscaleNotSupported : U32 := 0x1013
def hfiErrSessionSameStateOperation : U32 := 0x1001002

def hfiPropertySysImageVersion : U32 := 0x6
def hfiPropertyConfigBufferRequirements : U32 := 0x202001

/-! ### Instances and the core -/

/-- A buffer of the list `buffers[BUF_DPB]`. -/
structure Dpb where
  index : Nat
  buf : IrisBuffer
deriving DecidableEq, Repr

/-- An instance with what the responses of the first generation read and change of it. -/
structure Gen1Inst where
  inst : Inst
  formats : Formats
  /-- `crop` of the CAPTURE buffers -/
  bufCrop : Nat → Rect
  dpbs : List Dpb
  /-- `buffers[BUF_DPB].min_count` -/
  dpbMinCount : U32
  /-- `vb2_get_num_buffers` of the CAPTURE queue -/
  numBuffers : U32
  fwBufferSizes : BufType → U32
  /-- `vb2_queue_error` on both queues -/
  queueError : Bool
  /-- `vp9_iova_hole_size` is not zero -/
  iovaHole : Bool
  /-- the `V4L2_EVENT_SOURCE_CHANGE` events for the client -/
  srcChanges : Nat
  /-- `completion` -/
  completion : Nat
  /-- `flush_completion` -/
  flushCompletion : Nat

structure Gen1Core where
  state : CoreState
  coreInitDone : Nat
  recoveryPending : Bool
  /-- `sys_error_handler` is scheduled -/
  sysErrorQueued : Bool
  instances : List Nat
  inst : Nat → Gen1Inst

/-- What the command queue and the output rules answer. -/
structure Gen1Env where
  rules : OutputRules
  flushRet : Int
  queueRet : Int
  resumeRet : Int

namespace Gen1Inst

def enterError (s : Gen1Inst) : Gen1Inst := { s with inst := s.inst.enterError }

/-- `iris_vdec_src_change` -/
def srcChange (s : Gen1Inst) : Gen1Inst :=
  { s with srcChanges := if s.inst.streaming .output then s.srcChanges + 1 else s.srcChanges }

end Gen1Inst

/-- A word of the packet. -/
def word (i : Nat) : Reading U32 := u32 (4 * i)

/-! ### Buffer completions -/

/-- The second component is the instance; the first says whether `iris_request_core_recovery` has
been called by name. -/
abbrev Handled := Bool × Gen1Inst

/-- `struct hfi_msg_session_empty_buffer_done_pkt` -/
def irisHfiGen1SessionEtbDone (s : Gen1Inst) : Reading Handled := do
  let packetBuffer ← word 7
  let inputTag ← word 6
  let errorType ← word 3
  let pkt : EtbDone :=
    { packetBuffer
      inputTag := inputTag.toNat
      unsupportedStream := errorType = hfiErrSessionUnsupportedStream }
  let rejected : Bool :=
    packetBuffer ≠ 0 ∧ packetBuffer ≠ 0xdeadb000 ∧ pkt.inputTag ∈ s.inst.ready .output ∧
      pkt.unsupportedStream
  pure (rejected,
    { s with
      inst := NabuIris.irisHfiGen1SessionEtbDone pkt s.inst
      queueError := s.queueError || rejected })

def pictureType (picType : U32) : PictureType :=
  if picType = 0x8 then .idr
  else if picType = 0x1 then .i
  else if picType = 0x2 then .p
  else if picType = 0x4 then .b
  else .other

def ftbDone (streamId outputTag offset filledLen timestampHi timestampLo picType flags : U32) :
    FtbDone where
  streamId := streamId.toNat
  outputTag := outputTag.toNat
  offset := offset.toNat
  filledLen := filledLen.toNat
  timestampHi := timestampHi
  timestampLo := timestampLo
  pictureType := pictureType picType
  eos := hasFlag flags 0x1
  dataCorrupt := hasFlag flags 0x8
  dropFrame := hasFlag flags 0x20000000

/-- `hfi_msg_session_fbd_uncompressed_plane0_pkt` of a decoder, `hfi_msg_session_fbd_compressed_pkt`
of an encoder, which has no stream. -/
def readFtbDone : Domain → Reading FtbDone
  | .decoder => do
      let timestampHi ← word 6
      let timestampLo ← word 7
      let filledLen ← word 13
      let picType ← word 22
      let outputTag ← word 21
      let flags ← word 8
      let offset ← word 14
      let streamId ← word 3
      pure (ftbDone streamId outputTag offset filledLen timestampHi timestampLo picType flags)
  | .encoder => do
      let timestampHi ← word 3
      let timestampLo ← word 4
      let filledLen ← word 12
      let picType ← word 15
      let outputTag ← word 14
      let flags ← word 6
      let offset ← word 10
      pure (ftbDone 0 outputTag offset filledLen timestampHi timestampLo picType flags)

/-- A frame whose size may differ from that of the sequence. -/
def ftbResizable (pkt : FtbDone) (s : Gen1Inst) : Bool :=
  s.inst.domain == .decoder && pkt.filled && s.inst.codec == .vp9 && s.inst.legacyVpu5 &&
    s.formats.fwMinCount != 0 && !hasFlag s.inst.subState subDrc

/-- `iris_hfi_gen1_event_vp9_resize`, with the test before it -/
def irisHfiGen1EventVp9Resize (pkt : FtbDone) (s : Gen1Inst) : Reading Gen1Inst :=
  if ftbResizable pkt s then do
    let width ← word 15
    let height ← word 16
    if width ≠ 0 ∧ height ≠ 0 ∧ (width < s.formats.crop.width ∨ height < s.formats.crop.height) then
      do
        let left ← word 17
        let top ← word 18
        pure { s with formats := { s.formats with crop := { left, top, width, height } } }.srcChange
    else pure s
  else pure s

/-- The visible rectangle that the matched buffer `i` carries. -/
def ftbCrop (pkt : FtbDone) (i : Nat) (s : Gen1Inst) : Reading Gen1Inst := do
  let s ← irisHfiGen1EventVp9Resize pkt s
  if s.inst.domain = .decoder ∧ pkt.filled then
    pure { s with bufCrop := Function.update s.bufCrop i s.formats.crop }
  else pure s

def Dpb.matched (pkt : FtbDone) (dpb : Dpb) : Bool :=
  dpb.buf.attr.queued && dpb.index == pkt.outputTag && dpb.buf.dataOffset == pkt.offset

def Dpb.completed (pkt : FtbDone) (dpb : Dpb) : Dpb :=
  { dpb with
    buf :=
      { dpb.buf with
        dataOffset := pkt.offset
        dataSize := pkt.filledLen
        timestamp := if pkt.filled then pkt.timestamp else 0
        attr := { dpb.buf.attr with queued := false, dequeued := true, bufferDone := true }
        flags := dpb.buf.flags ||| pictureFlags pkt.pictureType |||
          (if pkt.dataCorrupt || pkt.dropFrame then v4l2BufFlagError else 0) } }

/-- The loop over the buffers of stream 0 in split mode. -/
def completeDpb (pkt : FtbDone) : List Dpb → Option (List Dpb)
  | [] => none
  | dpb :: rest =>
      if dpb.matched pkt then some (dpb.completed pkt :: rest)
      else (completeDpb pkt rest).map (dpb :: ·)

def ftbHandle (env : Gen1Env) (pkt : FtbDone) (s : Gen1Inst) : Reading Handled := do
  let dpbs := completeDpb pkt s.dpbs
  let ftbEnv : FtbEnv :=
    { dpbFound := dpbs.isSome, flushRet := env.flushRet, queueRet := env.queueRet }
  let inst := NabuIris.irisHfiGen1SessionFtbDone ftbEnv pkt s.inst
  let s :=
    { s with flushCompletion := if pkt.eos && !pkt.filled then 0 else s.flushCompletion }
  if s.inst.splitMode ∧ s.inst.domain = .decoder ∧ pkt.streamId = 0 then
    pure (false, { s with inst, dpbs := dpbs.getD s.dpbs })
  else
    match ftbFind pkt (ftbEos ftbEnv pkt s.inst) with
    | none => pure (false, { s with inst })
    | some i => do
        let s ← ftbCrop pkt i s
        pure (false, { s with inst })

def irisHfiGen1SessionFtbDone (env : Gen1Env) (s : Gen1Inst) : Reading Handled := do
  let pkt ← readFtbDone s.inst.domain
  ftbHandle env pkt s

/-! ### Sequence changes -/

/-- The properties that `iris_hfi_gen1_read_changed_params` knows. -/
inductive ChangedProperty
  | frameSize
  | profileLevelCurrent
  | pixelBitdepth
  | picStruct
  | colourSpace
  | entropy
  | bufferRequirements
  | inputCrop
  | dpbCounts
deriving DecidableEq, Repr

namespace ChangedProperty

def ptype : ChangedProperty → U32
  | frameSize => 0x1001
  | profileLevelCurrent => 0x1005
  | pixelBitdepth => 0x1003007
  | picStruct => 0x1003009
  | colourSpace => 0x100300a
  | entropy => 0x1204004
  | bufferRequirements => hfiPropertyConfigBufferRequirements
  | inputCrop => 0x700000e
  | dpbCounts => 0x120300e

def all : List ChangedProperty :=
  [frameSize, profileLevelCurrent, pixelBitdepth, picStruct, colourSpace, entropy,
    bufferRequirements, inputCrop, dpbCounts]

def ofType (ptype : U32) : Option ChangedProperty := all.find? fun property =>
  property.ptype == ptype

/-- The size of the structure behind the type. -/
def size : ChangedProperty → Nat
  | frameSize => 12
  | profileLevelCurrent => 8
  | pixelBitdepth => 8
  | picStruct => 4
  | colourSpace => 4
  | entropy => 4
  | bufferRequirements => 32
  | inputCrop => 28
  | dpbCounts => 20

/-- The body of the `switch`, for the structure at `data`. -/
def read (legacyVpu5 : Bool) (property : ChangedProperty) (data : Nat) (event : HfiEventData) :
    Reading HfiEventData :=
  match property with
  | frameSize => do
      let width ← u32 (data + 4)
      let height ← u32 (data + 8)
      pure { event with width, height }
  | profileLevelCurrent => pure event
  | pixelBitdepth => do
      let bitDepth ← u32 (data + 4)
      pure { event with bitDepth }
  | picStruct => do
      let progressiveOnly ← u32 data
      pure { event with picStruct := progressiveOnly }
  | colourSpace => do
      let colourSpace ← u32 data
      pure { event with colourSpace }
  | entropy => pure event
  | bufferRequirements => do
      -- `iris_hfi_gen1_bufreq_count_min`: `hold_count` or `count_min`
      let bufCount ← u32 (if legacyVpu5 then data + 12 else data + 16)
      pure { event with bufCount }
  | inputCrop => do
      let left ← u32 (data + 12)
      let top ← u32 (data + 16)
      let width ← u32 (data + 20)
      let height ← u32 (data + 24)
      pure { event with inputCrop := { left, top, width, height } }
  | dpbCounts => do
      let fwMinCount ← u32 (data + 16)
      pure { event with bufCount := fwMinCount }

end ChangedProperty

/-- `struct hfi_event_data event = {0}` -/
def noEvent : HfiEventData where
  width := 0
  height := 0
  bitDepth := 0
  picStruct := 0
  colourSpace := 0
  bufCount := 0
  inputCrop := { left := 0, top := 0, width := 0, height := 0 }

/-- The loop over the properties that are left. `dataPtr` stays at a type that is not known. -/
def readProperties (legacyVpu5 : Bool) : Nat → Nat → HfiEventData → Reading HfiEventData
  | 0, _, event => pure event
  | n + 1, dataPtr, event => do
      let ptype ← u32 dataPtr
      match ChangedProperty.ofType ptype with
      | none => readProperties legacyVpu5 n dataPtr event
      | some property => do
          let event ← property.read legacyVpu5 (dataPtr + 4) event
          readProperties legacyVpu5 n (dataPtr + 4 + property.size) event

/-- The first sequence, for which the CAPTURE buffers in place suffice. -/
def initialFits (formats : Formats) (s : Gen1Inst) : Bool :=
  s.formats.fwMinCount = 0 ∧ s.formats.dst.width = formats.dst.width ∧
    s.formats.dst.height = formats.dst.height ∧ formats.outputSize ≤ s.formats.outputSize ∧
    formats.outputMinCount ≤ s.numBuffers ∧ formats.fwMinCount ≤ s.dpbMinCount

/-- `iris_hfi_gen1_event_seq_changed`, once the parameters are read -/
def applySequence (env : Gen1Env) (event : HfiEventData) (s : Gen1Inst) : Gen1Inst :=
  let formats := irisHfiGen1ReadChangedParams env.rules s.inst.legacyVpu5 event s.formats
  let pkt : SeqChanged :=
    { valid := true
      unsupported := unsupportedContent event formats
      initialFits := initialFits formats s
      resumeRet := env.resumeRet
      flushRet := env.flushRet }
  let read := s.inst.applyIf pkt.unsupported Inst.enterError
  let changed := { s with formats, inst := NabuIris.irisHfiGen1EventSeqChanged pkt s.inst }
  if s.inst.legacyVpu5 ∧ pkt.initialFits ∧ read.state = .streaming then
    if env.resumeRet ≠ 0 then changed else changed.srcChange
  else
    let drc := irisInstSubStateChangeDrc read
    let changed := { changed with iovaHole := false }
    if drc.1 ≠ 0 then changed
    else
      let flushes : Bool :=
        drc.2.state ≠ .error ∧ ¬hasFlag drc.2.subState subFirstIpsc ∧
          drc.2.flushResponsesPending = 0
      { changed with
        flushCompletion := if flushes then 0 else changed.flushCompletion }.srcChange

def irisHfiGen1EventSeqChanged (env : Gen1Env) (s : Gen1Inst) : Reading Handled :=
  if hasFlag s.inst.subState subDrc then pure (false, s)
  else do
    let eventData1 ← word 4
    if eventData1 ≠ hfiEventDataSequenceChangedSufficientBufResources ∧
        eventData1 ≠ hfiEventDataSequenceChangedInsufficientBufResources then
      pure (false, s.enterError)
    else do
      let numPropertiesChanged ← word 5
      if numPropertiesChanged = 0 then pure (false, s.enterError)
      else do
        let event ← readProperties s.inst.legacyVpu5 numPropertiesChanged.toNat 24 noEvent
        pure (false, applySequence env event s)

/-! ### Other responses of a session -/

def nonFatalErrors : List U32 :=
  [hfiErrSessionInvalidScaleFactor, hfiErrSessionUnsupportBuffertype,
    hfiErrSessionUnsupportedSetting, hfiErrSessionUpscaleNotSupported]

def irisHfiGen1EventSessionError (s : Gen1Inst) : Reading Handled := do
  let eventData1 ← word 4
  if eventData1 ∈ nonFatalErrors then pure (false, s)
  else pure (true, { s.enterError with queueError := true })

def irisHfiGen1SessionEventNotify (env : Gen1Env) (s : Gen1Inst) : Reading Handled := do
  let eventId ← word 3
  if eventId = hfiEventSessionError then irisHfiGen1EventSessionError s
  else if eventId = hfiEventSessionSequenceChanged then irisHfiGen1EventSeqChanged env s
  else pure (false, s)

/-- The buffers whose size a requirement states. -/
def requirementType (inst : Inst) (type : U32) : Option BufType :=
  if type = 0x2 then if inst.domain ≠ .decoder ∨ !inst.splitMode then none else some .dpb
  else if type = 0x5 then some .persist
  else if type = 0x6 then some .bin
  else if type = 0x7 then some .scratch1
  else none

/-- The loop over the `struct hfi_buffer_requirements` from `req` on. -/
def readRequirements : Nat → Nat → Gen1Inst → Reading Gen1Inst
  | 0, _, s => pure s
  | n + 1, req, s => do
      let type ← u32 req
      match requirementType s.inst type with
      | none => readRequirements n (req + 32) s
      | some bufType => do
          let size ← u32 (req + 4)
          let largest := if s.fwBufferSizes bufType < size then size else s.fwBufferSizes bufType
          readRequirements n (req + 32)
            { s with fwBufferSizes := Function.update s.fwBufferSizes bufType largest }

def irisHfiGen1SessionPropertyInfo (s : Gen1Inst) : Reading Handled := do
  let size ← word 0
  let numProperties ← word 3
  let property ← word 4
  let reqBytes := (size - 20).toNat
  if numProperties ≠ 1 ∨ property ≠ hfiPropertyConfigBufferRequirements ∨ reqBytes = 0 ∨
      reqBytes % 32 ≠ 0 then
    pure (false, { s with completion := s.completion + 1 })
  else do
    let s ← readRequirements (reqBytes / 32) 20 s
    pure (false, { s with completion := s.completion + 1 })

def sessionError (errorType : U32) : SessionError :=
  if errorType = 0 then .none
  else if errorType = hfiErrSessionSameStateOperation then .sameState
  else if errorType = hfiErrSessionIncorrectStateOperation then .incorrectState
  else .other

def sessionDone (pktType : U32) : SessionDone :=
  if pktType = hfiMsgSessionStop then .stop
  else if pktType = hfiMsgSessionFlush then .flush
  else .other

/-- The responses of which only `error_type` counts. -/
def irisHfiGen1SessionHdr (pktType : U32) (s : Gen1Inst) : Reading Handled := do
  let errorType ← word 3
  let inst := irisHfiGen1SessionDone (sessionDone pktType) (sessionError errorType) s.inst
  if pktType = hfiMsgSessionFlush then
    pure (false,
      { s with
        inst
        flushCompletion :=
          if inst.flushResponsesPending = 0 then s.flushCompletion + 1 else s.flushCompletion })
  else pure (false, { s with inst, completion := s.completion + 1 })

def handleSession (env : Gen1Env) (pktType : U32) (s : Gen1Inst) : Reading Handled :=
  if pktType = hfiMsgEventNotify then irisHfiGen1SessionEventNotify env s
  else if pktType = hfiMsgSessionEmptyBuffer then irisHfiGen1SessionEtbDone s
  else if pktType = hfiMsgSessionFillBuffer then irisHfiGen1SessionFtbDone env s
  else if pktType = hfiMsgSessionPropertyInfo then irisHfiGen1SessionPropertyInfo s
  else irisHfiGen1SessionHdr pktType s

/-! ### Responses of the core -/

def irisHfiGen1SysInitDone (core : Gen1Core) : Reading Gen1Core := do
  let errorType ← word 2
  if errorType ≠ 0 then pure { core with state := .error }
  else pure { core with coreInitDone := core.coreInitDone + 1 }

/-- `req_bytes` is an `int`. Of the version only a debug message is made. -/
def irisHfiGen1SysGetPropImageVersion : Reading Unit := do
  let size ← word 0
  let numProperties ← word 2
  if (size - 16).toInt < 127 then pure ()
  else do
    let first ← u8 16
    if first = 0 ∨ 1 < numProperties then pure ()
    else do
      let _version ← bytes 127 16
      pure ()

def irisHfiGen1SysPropertyInfo : Reading Unit := do
  let numProperties ← word 2
  if numProperties = 0 then pure ()
  else do
    let property ← word 3
    if property = hfiPropertySysImageVersion then irisHfiGen1SysGetPropImageVersion
    else pure ()

/-- An event of no session is a failure only when it is a system error. -/
def irisHfiGen1SysEventNotify (core : Gen1Core) : Reading Gen1Core := do
  let eventId ← word 3
  if eventId ≠ hfiEventSysError then pure core
  else
    let live : Bool := core.instances.any fun i => (core.inst i).inst.state != .error
    pure
      { core with
        state := .error
        sysErrorQueued := true
        recoveryPending := core.recoveryPending || live
        inst := fun i => if i ∈ core.instances then (core.inst i).enterError else core.inst i }

/-! ### The message -/

def irisGetInstance (core : Gen1Core) (sessionId : U32) : Option Nat :=
  core.instances.find? fun i => (core.inst i).inst.sessionId == sessionId

/-- The instance `i` is as its handler leaves it. `iris_inst_change_state` requests recovery too. -/
def Gen1Core.put (core : Gen1Core) (i : Nat) (handled : Handled) : Gen1Core :=
  let failed : Bool :=
    (core.inst i).inst.state ≠ .error ∧ handled.2.inst.state = .error
  { core with
    inst := Function.update core.inst i handled.2
    recoveryPending := core.recoveryPending || handled.1 || failed }

def dispatch (env : Gen1Env) (pktType : U32) (core : Gen1Core) : Reading Gen1Core :=
  if pktType = hfiMsgSysInit then irisHfiGen1SysInitDone core
  else if pktType = hfiMsgSysPcPrep then pure core
  else if pktType = hfiMsgSysPropertyInfo then do
    irisHfiGen1SysPropertyInfo
    pure core
  else do
    let sessionId ← word 2
    match irisGetInstance core sessionId with
    | none => if pktType = hfiMsgEventNotify then irisHfiGen1SysEventNotify core else pure core
    | some i => do
        let handled ← handleSession env pktType (core.inst i)
        pure (core.put i handled)

def irisHfiGen1HandleResponse (env : Gen1Env) (core : Gen1Core) : Reading Gen1Core := do
  let pktType ← word 1
  let size ← word 0
  match pktInfos.lookup pktType with
  | none => pure core
  | some pktSz => if size.toNat < pktSz then pure core else dispatch env pktType core

end NabuIris.Gen1Message
