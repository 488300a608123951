import NabuIris.InternalBuffers
import NabuIris.Proof.Queues

/-!
# Internal buffers that the firmware returns

The type and the port that the driver writes for an internal buffer come back through other tables.
They agree on the types that the stream-on of either queue allocates, and on no other.
-/

namespace NabuIris

variable {domain : Domain} {type : BufType} {info : FrameInfo} {s t : InternalInst}
  {buf : InternalBuffer} {pkt sent : BufferPacket}

/-- The internal types whose buffers come back. -/
def comesBack : Domain → BufType → Bool
  | .decoder, type => type ∈ [.bin, .comv, .nonComv, .line, .dpb]
  | .encoder, type => type ∈ [.bin, .comv, .nonComv, .line, .scratch2]

/-- A packet that returns what another one queued. -/
structure Returns (pkt sent : BufferPacket) : Prop where
  command : pkt.type = hfiCmdBuffer
  payload : pkt.payloadInfo = hfiPayloadStructure
  size : hfiPacketSize + hfiBufferSize ≤ pkt.size.toNat
  port : pkt.port = sent.port
  type : pkt.buffer.type = sent.buffer.type
  address : pkt.buffer.baseAddress = sent.buffer.baseAddress

/-- `t` is `s` without the buffer, which was freed. -/
structure Freed (buf : InternalBuffer) (s t : InternalInst) : Prop where
  inst : t.inst = s.inst
  others : ∀ type, type ≠ buf.type → t.buffers.list type = s.buffers.list type
  removed : ∃ before after, (s.buffers.list buf.type).items = before ++ buf :: after ∧
    (t.buffers.list buf.type).items = before ++ after
  freed : t.freed = s.freed ++ [buf.dequeued]

/-- The packet is accepted and frees the buffer; the same packet again finds nothing. -/
def FreesOnce (info : FrameInfo) (pkt : BufferPacket) (buf : InternalBuffer) (s : InternalInst) :
    Prop :=
  ∃ t, s.irisHfiGen2HandleSessionBuffer info pkt = some (0, t) ∧ Freed buf s t ∧
    t.irisHfiGen2HandleSessionBuffer info pkt = some (-einval, t)

/-! ### What was sent -/

theorem irisHfiGen2SessionQueueBuffer_sent {numComvRet writeRet : Int}
    (hsent : irisHfiGen2SessionQueueBuffer numComvRet writeRet domain buf = (0, some sent)) :
    sent.port = irisHfiGen2GetPortFromBufType domain buf.type ∧
      sent.buffer = irisHfiGen2GetBuffer domain buf := by
  unfold irisHfiGen2SessionQueueBuffer at hsent
  split_ifs at hsent
  · cases hsent
  · cases hsent
  · cases hsent
    exact ⟨rfl, rfl⟩

/-! ### The tables -/

theorem comesBack_internal (hback : comesBack domain type) : type.internal := by
  revert hback
  cases domain <;> cases type <;> decide

theorem valid_of_comesBack (hback : comesBack domain type) :
    irisHfiGen2IsValidHfiBufferType (irisHfiGen2BufTypeFromDriver domain type) ∧
      irisHfiGen2IsValidHfiPort (irisHfiGen2GetPortFromBufType domain type)
        (irisHfiGen2BufTypeFromDriver domain type) := by
  revert hback
  cases domain <;> cases type <;> decide

/-- Of the types that do not come back only one passes the checks. -/
theorem vpss_of_valid (hinternal : type.internal) (hback : ¬comesBack domain type)
    (htype : irisHfiGen2IsValidHfiBufferType (irisHfiGen2BufTypeFromDriver domain type))
    (hport : irisHfiGen2IsValidHfiPort (irisHfiGen2GetPortFromBufType domain type)
      (irisHfiGen2BufTypeFromDriver domain type)) : type = .vpss := by
  revert hinternal hback htype hport
  cases domain <;> cases type <;> decide

theorem irisHfiGen2BufTypeToDriver_fromDriver (hback : comesBack domain type) :
    irisHfiGen2BufTypeToDriver domain (irisHfiGen2BufTypeFromDriver domain type) = some type := by
  revert hback
  cases domain <;> cases type <;> decide

/-- No internal buffer is taken for one of the client. -/
theorem fromDriver_not_client (domain : Domain) (hinternal : type.internal) :
    irisHfiGen2BufTypeFromDriver domain type ≠ hfiBufferBitstream ∧
      irisHfiGen2BufTypeFromDriver domain type ≠ hfiBufferRaw := by
  revert hinternal
  cases domain <;> cases type <;> decide

/-! ### The handler -/

theorem irisHfiGen2ValidatePacketPayload_returns (hreturns : Returns pkt sent) :
    irisHfiGen2ValidatePacketPayload pkt.size pkt.type pkt.payloadInfo = true := by
  rw [hreturns.command, hreturns.payload]
  exact decide_eq_true hreturns.size

/-- A returned buffer that is not the client's: two checks, and the release. -/
theorem irisHfiGen2HandleSessionBuffer_returns (hreturns : Returns pkt sent)
    (hbitstream : pkt.buffer.type ≠ hfiBufferBitstream) (hraw : pkt.buffer.type ≠ hfiBufferRaw) :
    s.irisHfiGen2HandleSessionBuffer info pkt =
      if irisHfiGen2IsValidHfiBufferType pkt.buffer.type ∧
          irisHfiGen2IsValidHfiPort pkt.port pkt.buffer.type then
        irisHfiGen2HandleReleaseInternalBuffer pkt.buffer s
      else some (0, s) := by
  have hpayload : pkt.payloadInfo ≠ hfiPayloadNone := by
    rw [hreturns.payload]
    decide
  unfold InternalInst.irisHfiGen2HandleSessionBuffer
  simp only [if_neg hpayload, irisHfiGen2ValidatePacketPayload_returns hreturns,
    Bool.not_true, Bool.false_eq_true, if_false, Bool.not_eq_true']
  by_cases htype : irisHfiGen2IsValidHfiBufferType pkt.buffer.type
  · by_cases hport : irisHfiGen2IsValidHfiPort pkt.port pkt.buffer.type
    · simp only [htype, hport, Bool.true_eq_false, if_false, and_self, if_true]
      cases s.inst.domain with
      | decoder => simp only [if_neg hbitstream, if_neg hraw]
      | encoder => simp only [if_neg hbitstream, if_neg hraw]
    · simp [htype, hport]
  · simp [htype]

theorem irisHfiGen2HandleReleaseInternalBuffer_found
    (hlisted : buf ∈ (s.buffers.list type).items) {buffer : HfiBufferPayload}
    (htype : irisHfiGen2BufTypeToDriver s.inst.domain buffer.type = some type)
    (haddr : buffer.baseAddress = buf.deviceAddr) :
    irisHfiGen2HandleReleaseInternalBuffer buffer s =
      some (irisDestroyInternalBuffer buf.dequeued s) := by
  have hfind : (s.buffers.list type).find buffer.baseAddress = some buf := by
    rw [haddr]
    exact Lib.KeyedList.find_of_mem hlisted
  unfold irisHfiGen2HandleReleaseInternalBuffer
  simp only [htype, hfind]

theorem irisDestroyInternalBuffer_freed (hlisted : buf ∈ (s.buffers.list buf.type).items) :
    Freed buf s (irisDestroyInternalBuffer buf.dequeued s).2 where
  inst := rfl
  others := by
    intro type hne
    exact Function.update_of_ne hne _ _
  removed := by
    obtain ⟨before, after, hitems, hremove⟩ := Lib.KeyedList.remove_split hlisted
    refine ⟨before, after, hitems, ?_⟩
    rw [← hremove]
    exact congrArg Lib.KeyedList.items (Function.update_self _ _ _)
  freed := rfl

theorem irisDestroyInternalBuffer_find (hlisted : buf ∈ (s.buffers.list buf.type).items) :
    ((irisDestroyInternalBuffer buf.dequeued s).2.buffers.list buf.type).find buf.deviceAddr =
      none := by
  have hlist : (irisDestroyInternalBuffer buf.dequeued s).2.buffers.list buf.type =
      (s.buffers.list buf.type).remove buf.deviceAddr := Function.update_self _ _ _
  rw [hlist]
  exact Lib.KeyedList.find_remove hlisted

/-- A buffer whose type comes back is freed once. -/
theorem freesOnce_of_comesBack (hlisted : buf ∈ (s.buffers.list buf.type).items)
    (hreturns : Returns pkt sent)
    (hport : pkt.port = irisHfiGen2GetPortFromBufType s.inst.domain buf.type)
    (htype : pkt.buffer.type = irisHfiGen2BufTypeFromDriver s.inst.domain buf.type)
    (haddr : pkt.buffer.baseAddress = buf.deviceAddr) (hback : comesBack s.inst.domain buf.type) :
    FreesOnce info pkt buf s := by
  obtain ⟨hbitstream, hraw⟩ := fromDriver_not_client s.inst.domain
    (comesBack_internal hback)
  rw [← htype] at hbitstream hraw
  have hvalid := valid_of_comesBack hback
  rw [← htype, ← hport] at hvalid
  have hdriver := irisHfiGen2BufTypeToDriver_fromDriver hback
  rw [← htype] at hdriver
  refine ⟨(irisDestroyInternalBuffer buf.dequeued s).2, ?_,
    irisDestroyInternalBuffer_freed hlisted, ?_⟩
  · rw [irisHfiGen2HandleSessionBuffer_returns hreturns hbitstream hraw, if_pos hvalid,
      irisHfiGen2HandleReleaseInternalBuffer_found hlisted hdriver haddr]
    rfl
  · rw [irisHfiGen2HandleSessionBuffer_returns hreturns hbitstream hraw, if_pos hvalid]
    have hfind := irisDestroyInternalBuffer_find hlisted
    rw [← haddr] at hfind
    have hdomain : irisHfiGen2BufTypeToDriver
        (irisDestroyInternalBuffer buf.dequeued s).2.inst.domain pkt.buffer.type =
          some buf.type := hdriver
    unfold irisHfiGen2HandleReleaseInternalBuffer
    simp only [hdomain, hfind]

/-- Any other buffer is ignored, or its type has no list. -/
theorem not_freesOnce_of_not_comesBack (hinternal : buf.type.internal)
    (hreturns : Returns pkt sent)
    (hport : pkt.port = irisHfiGen2GetPortFromBufType s.inst.domain buf.type)
    (htype : pkt.buffer.type = irisHfiGen2BufTypeFromDriver s.inst.domain buf.type)
    (hback : ¬comesBack s.inst.domain buf.type) : ¬FreesOnce info pkt buf s := by
  obtain ⟨hbitstream, hraw⟩ := fromDriver_not_client s.inst.domain hinternal
  rw [← htype] at hbitstream hraw
  rintro ⟨t, hhandled, hfreed, -⟩
  rw [irisHfiGen2HandleSessionBuffer_returns hreturns hbitstream hraw] at hhandled
  split_ifs at hhandled with hvalid
  · rw [htype, hport] at hvalid
    have hvpss := vpss_of_valid hinternal hback hvalid.1 hvalid.2
    have hnone : irisHfiGen2BufTypeToDriver s.inst.domain pkt.buffer.type = none := by
      rw [htype, hvpss]
      cases s.inst.domain <;> rfl
    rw [irisHfiGen2HandleReleaseInternalBuffer, hnone] at hhandled
    cases hhandled
  · obtain rfl : s = t := (Prod.mk.inj (Option.some.inj hhandled)).2
    have hlength := congrArg List.length hfreed.freed
    rw [List.length_append, List.length_singleton] at hlength
    omega

/-- For a buffer that was queued with whatever attributes it had then. -/
theorem internal_release_iff (info : FrameInfo) (s : InternalInst) (buf : InternalBuffer)
    (attr : InternalAttr) (numComvRet writeRet : Int) (sent pkt : BufferPacket)
    (hinternal : buf.type.internal) (hlisted : buf ∈ (s.buffers.list buf.type).items)
    (hsent : irisHfiGen2SessionQueueBuffer numComvRet writeRet s.inst.domain
      { buf with attr := attr } = (0, some sent))
    (hreturns : Returns pkt sent) :
    FreesOnce info pkt buf s ↔ comesBack s.inst.domain buf.type := by
  obtain ⟨hport, hbuffer⟩ := irisHfiGen2SessionQueueBuffer_sent hsent
  replace hport := hreturns.port.trans hport
  have htype := hreturns.type.trans (congrArg HfiBufferPayload.type hbuffer)
  have haddr := hreturns.address.trans (congrArg HfiBufferPayload.baseAddress hbuffer)
  constructor
  · intro hfrees
    by_contra hback
    exact not_freesOnce_of_not_comesBack hinternal hreturns hport htype hback hfrees
  · intro hback
    exact freesOnce_of_comesBack hlisted hreturns hport htype haddr hback

/-! ### A buffer among others -/

def internalBufferAt (deviceAddr : BitVec 64) (type : BufType) : InternalBuffer :=
  { type
    index := 0
    bufferSize := 4096
    dataOffset := 0
    dataSize := 0
    deviceAddr
    timestamp := 0
    attr := { deferred := false, pendingRelease := false, queued := false } }

def internalBuffer (type : BufType) : InternalBuffer := internalBufferAt 0xd0001000 type

/-- The buffer has one before it and one behind it. -/
def threeBuffers (type : BufType) : Lib.KeyedList InternalBuffer.deviceAddr where
  items := [internalBufferAt 0xd0000000 type, internalBuffer type, internalBufferAt 0xd0002000 type]
  distinct := (by decide : [(0xd0000000 : BitVec 64), 0xd0001000, 0xd0002000].Nodup)

/-- A decoder with three internal buffers of the type. -/
def decoderWith (type : BufType) : InternalInst where
  inst := openedDecoder .gen2 .h264 false
  buffers :=
    { list := fun other => if other = type then threeBuffers type else .empty
      typed := by
        intro other buf hbuf
        split at hbuf
        · next htype =>
            subst htype
            simp only [threeBuffers, List.mem_cons, List.not_mem_nil, or_false] at hbuf
            rcases hbuf with rfl | rfl | rfl <;> rfl
        · exact absurd hbuf List.not_mem_nil }
  freed := []

/-- The command that queues the buffer; the firmware may return it unchanged. -/
def queuedPacket (type : BufType) : BufferPacket :=
  { size := 96
    type := hfiCmdBuffer
    flags := hfiHostFlagsIntrRequired
    payloadInfo := hfiPayloadStructure
    port := irisHfiGen2GetPortFromBufType .decoder type
    buffer := irisHfiGen2GetBuffer .decoder (internalBuffer type) }

theorem queuedPacket_returns (type : BufType) : Returns (queuedPacket type) (queuedPacket type) :=
  ⟨rfl, rfl, (by decide : hfiPacketSize + hfiBufferSize ≤ (96 : BitVec 32).toNat), rfl, rfl, rfl⟩

theorem internalBuffer_listed (type : BufType) :
    internalBuffer type ∈ ((decoderWith type).buffers.list type).items := by
  have hlist : (decoderWith type).buffers.list type = threeBuffers type := if_pos rfl
  rw [hlist]
  exact List.mem_cons_of_mem _ List.mem_cons_self

theorem internal_release_bin :
    FreesOnce .cleared (queuedPacket .bin) (internalBuffer .bin) (decoderWith .bin) :=
  (internal_release_iff .cleared (decoderWith .bin) (internalBuffer .bin)
    (internalBuffer .bin).attr 0 0 (queuedPacket .bin) (queuedPacket .bin) (by decide)
    (internalBuffer_listed .bin) rfl (queuedPacket_returns .bin)).2 (by decide)

/-- The session context of a decoder is queued on no port, and no packet for no port is accepted. -/
theorem internal_release_persist :
    irisHfiGen2SessionQueueBuffer 0 0 .decoder (internalBuffer .persist) =
        (0, some (queuedPacket .persist)) ∧
      internalBuffer .persist ∈ ((decoderWith .persist).buffers.list .persist).items ∧
      ¬FreesOnce .cleared (queuedPacket .persist) (internalBuffer .persist)
        (decoderWith .persist) :=
  ⟨rfl, internalBuffer_listed .persist,
    not_freesOnce_of_not_comesBack (by decide) (queuedPacket_returns .persist) rfl rfl (by decide)⟩

/-! ### The response as `ResponsesGen2` sees it -/

/-- What a buffer packet says. -/
def BufferPacket.read (pkt : BufferPacket) (s : InternalInst) : Gen2BufferPayload :=
  let buffer := pkt.buffer
  if pkt.payloadInfo = hfiPayloadNone then .ignored
  else if !irisHfiGen2ValidatePacketPayload pkt.size pkt.type pkt.payloadInfo then .malformed
  else if !irisHfiGen2IsValidHfiBufferType buffer.type then .ignored
  else if !irisHfiGen2IsValidHfiPort pkt.port buffer.type then .ignored
  else
    .buffer
      (if buffer.type = hfiBufferBitstream then .bitstream
        else if buffer.type = hfiBufferRaw then .raw
        else .internal ((irisHfiGen2BufTypeToDriver s.inst.domain buffer.type).any fun type =>
          ((s.buffers.list type).find buffer.baseAddress).isSome)) buffer.client

theorem irisHfiGen2HandleReleaseInternalBuffer_inst {buffer : HfiBufferPayload} {ret : Int}
    (hhandled : irisHfiGen2HandleReleaseInternalBuffer buffer s = some (ret, t)) :
    (if (irisHfiGen2BufTypeToDriver s.inst.domain buffer.type).any fun type =>
        ((s.buffers.list type).find buffer.baseAddress).isSome then (0 : Int) else -einval) = ret ∧
      t.inst = s.inst := by
  unfold irisHfiGen2HandleReleaseInternalBuffer at hhandled
  cases htype : irisHfiGen2BufTypeToDriver s.inst.domain buffer.type with
  | none => simp [htype] at hhandled
  | some type =>
      cases hfind : (s.buffers.list type).find buffer.baseAddress with
      | none =>
          simp only [htype, hfind, Option.some.injEq, Prod.mk.injEq] at hhandled
          obtain ⟨rfl, rfl⟩ := hhandled
          simp [hfind]
      | some buf =>
          simp only [htype, hfind, Option.some.injEq] at hhandled
          obtain ⟨rfl, rfl⟩ := Prod.mk.inj hhandled
          simp [hfind]

theorem lift_inst {handle : Inst → Int × Inst} {ret : Int}
    (hhandled : s.lift handle = some (ret, t)) : handle s.inst = (ret, t.inst) := by
  obtain ⟨rfl, rfl⟩ := Prod.mk.inj (Option.some.inj hhandled)
  rfl

/-- The lists of internal buffers do not change what the handler does to the instance. -/
theorem irisHfiGen2HandleSessionBuffer_refines {ret : Int}
    (hhandled : s.irisHfiGen2HandleSessionBuffer info pkt = some (ret, t)) :
    irisHfiGen2HandleSessionBuffer info (pkt.read s) s.inst = (ret, t.inst) := by
  revert hhandled
  unfold InternalInst.irisHfiGen2HandleSessionBuffer BufferPacket.read
  simp only
  by_cases hnone : pkt.payloadInfo = hfiPayloadNone
  · rw [if_pos hnone, if_pos hnone]
    rintro ⟨⟩
    rfl
  rw [if_neg hnone, if_neg hnone]
  by_cases hsize : !irisHfiGen2ValidatePacketPayload pkt.size pkt.type pkt.payloadInfo
  · rw [if_pos hsize, if_pos hsize]
    rintro ⟨⟩
    rfl
  rw [if_neg hsize, if_neg hsize]
  by_cases htype : !irisHfiGen2IsValidHfiBufferType pkt.buffer.type
  · rw [if_pos htype, if_pos htype]
    rintro ⟨⟩
    rfl
  rw [if_neg htype, if_neg htype]
  by_cases hport : !irisHfiGen2IsValidHfiPort pkt.port pkt.buffer.type
  · rw [if_pos hport, if_pos hport]
    rintro ⟨⟩
    rfl
  rw [if_neg hport, if_neg hport]
  unfold NabuIris.irisHfiGen2HandleSessionBuffer
  by_cases hbitstream : pkt.buffer.type = hfiBufferBitstream
  · have hraw : pkt.buffer.type ≠ hfiBufferRaw := by
      rw [hbitstream]
      decide
    cases s.inst.domain <;> simp only [if_pos hbitstream, if_neg hraw] <;> exact lift_inst
  by_cases hraw : pkt.buffer.type = hfiBufferRaw
  · cases s.inst.domain <;> simp only [if_neg hbitstream, if_pos hraw] <;> exact lift_inst
  intro hhandled
  have hrelease : irisHfiGen2HandleReleaseInternalBuffer pkt.buffer s = some (ret, t) := by
    revert hhandled
    cases s.inst.domain <;> simp only [if_neg hbitstream, if_neg hraw] <;> exact id
  obtain ⟨hret, hinst⟩ := irisHfiGen2HandleReleaseInternalBuffer_inst hrelease
  simp only [if_neg hbitstream, if_neg hraw, hret, hinst]

end NabuIris
