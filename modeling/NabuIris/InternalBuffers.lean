import NabuIris.Gen2Packet
import NabuIris.Lib.KeyedList
import NabuIris.ResponsesGen2

/-!
# Internal buffers (`iris_buffer.c`, `iris_hfi_gen2_command.c`, `iris_hfi_gen2_response.c`)

The driver keeps the buffers that only the firmware uses in one list for each type. A list is keyed
by the DMA address, which no two live allocations share.
-/

namespace NabuIris

/-- `enum iris_buffer_type` -/
inductive BufType
  | input
  | output
  | bin
  | arp
  | comv
  | nonComv
  | line
  | dpb
  | persist
  | scratch1
  | scratch2
  | vpss
deriving DecidableEq, Repr

def BufType.internal : BufType → Bool
  | .input => false
  | .output => false
  | _ => true

structure InternalAttr where
  deferred : Bool
  pendingRelease : Bool
  queued : Bool
deriving DecidableEq, Repr

/-- The fields of `struct iris_buffer` that an internal buffer uses. -/
structure InternalBuffer where
  type : BufType
  index : BitVec 32
  bufferSize : BitVec 64
  dataOffset : BitVec 32
  dataSize : BitVec 64
  deviceAddr : BitVec 64
  timestamp : BitVec 64
  attr : InternalAttr
deriving DecidableEq, Repr

/-- `inst->buffers`, without the lists of the client's buffers -/
structure InternalBuffers where
  list : BufType → Lib.KeyedList InternalBuffer.deviceAddr
  typed : ∀ type, ∀ buf ∈ (list type).items, buf.type = type

structure InternalInst where
  inst : Inst
  buffers : InternalBuffers
  /-- what `dma_free_attrs` and `kfree` were called for, in order -/
  freed : List InternalBuffer

/-! ### `iris_buffer.c` -/

namespace InternalBuffers

def empty : InternalBuffers where
  list := fun _ => .empty
  typed := fun _ _ hbuf => absurd hbuf List.not_mem_nil

/-- `iris_create_internal_buffer` -/
def create (buffers : InternalBuffers) (buf : InternalBuffer)
    (hfresh : buf.deviceAddr ∉ (buffers.list buf.type).items.map InternalBuffer.deviceAddr) :
    InternalBuffers where
  list := Function.update buffers.list buf.type ((buffers.list buf.type).append buf hfresh)
  typed := by
    intro type other hother
    by_cases htype : type = buf.type
    · subst htype
      rw [Function.update_self] at hother
      rcases Lib.KeyedList.mem_append.1 hother with hold | rfl
      · exact buffers.typed _ _ hold
      · rfl
    · rw [Function.update_of_ne htype] at hother
      exact buffers.typed _ _ hother

/-- `list_del` of the buffer at an address -/
def remove (buffers : InternalBuffers) (type : BufType) (addr : BitVec 64) : InternalBuffers where
  list := Function.update buffers.list type ((buffers.list type).remove addr)
  typed := by
    intro other buf hbuf
    by_cases htype : other = type
    · subst htype
      rw [Function.update_self] at hbuf
      exact buffers.typed _ _ (Lib.KeyedList.mem_remove hbuf)
    · rw [Function.update_of_ne htype] at hbuf
      exact buffers.typed _ _ hbuf

end InternalBuffers

def irisDestroyInternalBuffer (buf : InternalBuffer) (s : InternalInst) : Int × InternalInst :=
  (0, { s with buffers := s.buffers.remove buf.type buf.deviceAddr, freed := s.freed ++ [buf] })

/-! ### `iris_hfi_gen2_command.c` -/

def irisHfiGen2GetPortFromBufType (domain : Domain) (bufferType : BufType) : BitVec 32 :=
  match domain, bufferType with
  | .decoder, .input => hfiPortBitstream
  | .decoder, .bin => hfiPortBitstream
  | .decoder, .comv => hfiPortBitstream
  | .decoder, .nonComv => hfiPortBitstream
  | .decoder, .line => hfiPortBitstream
  | .decoder, .output => hfiPortRaw
  | .decoder, .dpb => hfiPortRaw
  | .encoder, .input => hfiPortRaw
  | .encoder, .vpss => hfiPortRaw
  | .encoder, .output => hfiPortBitstream
  | .encoder, .bin => hfiPortBitstream
  | .encoder, .comv => hfiPortBitstream
  | .encoder, .nonComv => hfiPortBitstream
  | .encoder, .line => hfiPortBitstream
  | .encoder, .scratch2 => hfiPortBitstream
  | _, _ => hfiPortNone

def irisHfiGen2BufTypeFromDriver (domain : Domain) (bufferType : BufType) : BitVec 32 :=
  match domain, bufferType with
  | .decoder, .input => hfiBufferBitstream
  | .encoder, .input => hfiBufferRaw
  | .decoder, .output => hfiBufferRaw
  | .encoder, .output => hfiBufferBitstream
  | _, .bin => hfiBufferBin
  | _, .comv => hfiBufferComv
  | _, .nonComv => hfiBufferNonComv
  | _, .line => hfiBufferLine
  | _, .dpb => hfiBufferDpb
  | _, .scratch2 => hfiBufferDpb
  | _, .persist => hfiBufferPersist
  | _, .arp => hfiBufferArp
  | _, .vpss => hfiBufferVpss
  | _, .scratch1 => 0

/-- `struct iris_hfi_buffer` -/
structure HfiBufferPayload where
  type : BitVec 32
  index : BitVec 32
  baseAddress : BitVec 64
  addrOffset : BitVec 32
  bufferSize : BitVec 32
  dataOffset : BitVec 32
  dataSize : BitVec 32
  timestamp : BitVec 64
  flags : BitVec 32
deriving DecidableEq, Repr

/-- `struct iris_hfi_packet` with a buffer as its payload -/
structure BufferPacket where
  size : BitVec 32
  type : BitVec 32
  flags : BitVec 32
  payloadInfo : BitVec 32
  port : BitVec 32
  buffer : HfiBufferPayload
deriving DecidableEq, Repr

/-- The size of a decoder's bitstream buffer is aligned to 256 bytes. -/
def irisHfiGen2GetBuffer (domain : Domain) (buffer : InternalBuffer) : HfiBufferPayload :=
  let size : BitVec 64 :=
    if domain = .decoder ∧ buffer.type = .input then (buffer.bufferSize + 255) &&& ~~~255
    else buffer.bufferSize
  { type := irisHfiGen2BufTypeFromDriver domain buffer.type
    index := buffer.index
    baseAddress := buffer.deviceAddr
    addrOffset := 0
    bufferSize := size.setWidth 32
    dataOffset := buffer.dataOffset
    dataSize := buffer.dataSize.setWidth 32
    timestamp := buffer.timestamp
    flags := (if buffer.attr.pendingRelease then hfiBufHostFlagRelease else 0) |||
      hfiBufHostFlagsCbNonSecure }

/-- The result, and the command that was written. `numComvRet` is the result of
`iris_set_num_comv`. -/
def irisHfiGen2SessionQueueBuffer (numComvRet writeRet : Int) (domain : Domain)
    (buffer : InternalBuffer) : Int × Option BufferPacket :=
  if buffer.type = .comv ∧ numComvRet ≠ 0 then (numComvRet, none)
  else if writeRet ≠ 0 then (writeRet, none)
  else
    (0, some
      { size := BitVec.ofNat 32 (hfiPacketSize + hfiBufferSize)
        type := hfiCmdBuffer
        flags := hfiHostFlagsIntrRequired
        payloadInfo := hfiPayloadStructure
        port := irisHfiGen2GetPortFromBufType domain buffer.type
        buffer := irisHfiGen2GetBuffer domain buffer })

/-! ### `iris_hfi_gen2_response.c` -/

/-- `none` is the type 0. -/
def irisHfiGen2BufTypeToDriver (domain : Domain) (bufType : BitVec 32) : Option BufType :=
  if bufType = hfiBufferBitstream then some .input
  else if bufType = hfiBufferRaw then some .output
  else if bufType = hfiBufferBin then some .bin
  else if bufType = hfiBufferArp then some .arp
  else if bufType = hfiBufferComv then some .comv
  else if bufType = hfiBufferNonComv then some .nonComv
  else if bufType = hfiBufferLine then some .line
  else if bufType = hfiBufferDpb then
    match domain with
    | .decoder => some .dpb
    | .encoder => some .scratch2
  else if bufType = hfiBufferPersist then some .persist
  else none

def InternalBuffer.dequeued (buf : InternalBuffer) : InternalBuffer :=
  { buf with attr := { buf.attr with queued := false } }

/-- `none` is a null pointer dereferenced: nothing sets up the list head of the type 0. -/
def irisHfiGen2HandleReleaseInternalBuffer (buffer : HfiBufferPayload) (s : InternalInst) :
    Option (Int × InternalInst) :=
  match irisHfiGen2BufTypeToDriver s.inst.domain buffer.type with
  | none => none
  | some type =>
      match (s.buffers.list type).find buffer.baseAddress with
      | none => some (-einval, s)
      | some buf => some (irisDestroyInternalBuffer buf.dequeued s)

/-- The fields that the handlers of the client's buffers read. -/
def HfiBufferPayload.client (buffer : HfiBufferPayload) : HfiBuffer :=
  { index := buffer.index.toNat
    baseAddress := buffer.baseAddress.toNat
    dataOffset := buffer.dataOffset.toNat
    dataSize := buffer.dataSize.toNat
    flags := buffer.flags
    timestamp := buffer.timestamp }

/-- A handler of `ResponsesGen2`, on the instance. -/
def InternalInst.lift (handle : Inst → Int × Inst) (s : InternalInst) :
    Option (Int × InternalInst) :=
  some ((handle s.inst).1, { s with inst := (handle s.inst).2 })

/-- The whole handler, on a packet as it stands in the response. -/
def InternalInst.irisHfiGen2HandleSessionBuffer (info : FrameInfo) (pkt : BufferPacket)
    (s : InternalInst) : Option (Int × InternalInst) :=
  let buffer := pkt.buffer
  if pkt.payloadInfo = hfiPayloadNone then some (0, s)
  else if !irisHfiGen2ValidatePacketPayload pkt.size pkt.type pkt.payloadInfo then
    some (0, { s with inst := s.inst.enterError })
  else if !irisHfiGen2IsValidHfiBufferType buffer.type then some (0, s)
  else if !irisHfiGen2IsValidHfiPort pkt.port buffer.type then some (0, s)
  else
    match s.inst.domain with
    | .decoder =>
        if buffer.type = hfiBufferBitstream then
          s.lift (irisHfiGen2HandleInputBuffer info buffer.client)
        else if buffer.type = hfiBufferRaw then
          s.lift (irisHfiGen2HandleOutputBuffer info buffer.client)
        else irisHfiGen2HandleReleaseInternalBuffer buffer s
    | .encoder =>
        if buffer.type = hfiBufferRaw then
          s.lift (irisHfiGen2HandleInputBuffer info buffer.client)
        else if buffer.type = hfiBufferBitstream then
          s.lift (irisHfiGen2HandleOutputBuffer info buffer.client)
        else irisHfiGen2HandleReleaseInternalBuffer buffer s

end NabuIris
