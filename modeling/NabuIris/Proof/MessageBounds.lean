import NabuIris.Gen2Message

/-!
# Where the reads of a validated message lie

Validation keeps every packet inside the buffer, but it never looks at the size that the header
states, and a packet of 32 bytes has no payload. The handlers take both for granted.
-/

namespace NabuIris.Gen2Message

open Lib Lib.Reading

variable {mem : Memory} {limit n pkt : Nat}

/-! ### The packets of a message -/

/-- Where the packets start. -/
def packetOffsets (mem : Memory) : Nat → Nat → List Nat
  | 0, _ => []
  | n + 1, pkt => pkt :: packetOffsets mem n (pkt + (wordAt mem pkt).toNat)

def packets (mem : Memory) : List Nat :=
  packetOffsets mem (wordAt mem 28).toNat hfiHeaderSize

def Accepted (mem : Memory) : Prop := irisHfiGen2ValidateHdrPacket.run mem = 0

/-- The end of the message, or of the buffer when that comes first. -/
def readLimit (mem : Memory) : Nat := min ifaceqCorePktSize (wordAt mem 0).toNat

/-- What an accepted message makes the driver read is inside the buffer and inside `hdr->size`. -/
def ValidationSound (mem : Memory) : Prop :=
  Accepted mem →
    ∀ known views, Within (readLimit mem) mem (irisHfiGen2HandleResponse known views)

/-! ### The bytes that each packet takes -/

/-- Of a buffer: up to its flags, its base address, or its type. -/
def bufferExtent (type : BitVec 32) : Nat :=
  if type = hfiBufferBitstream ∨ type = hfiBufferRaw then 44
  else if type = hfiBufferVpss then 4
  else 16

/-- Of a packet of `HFI_CMD_BUFFER`. -/
def bufferPacketExtent (mem : Memory) (pkt : Nat) : Nat :=
  let type := wordAt mem (pkt + hfiPacketSize)
  if wordAt mem (pkt + 12) = hfiPayloadNone ∨ !irisHfiGen2ValidatePacketPayload (wordAt mem pkt)
      (wordAt mem (pkt + 4)) (wordAt mem (pkt + 12)) then 16
  else if irisHfiGen2IsValidHfiBufferType type ∧
      irisHfiGen2IsValidHfiPort (wordAt mem (pkt + 16)) type then
    hfiPacketSize + bufferExtent type
  else hfiPacketSize + 4

/-- What the passes over a session response read of a packet, from its start. -/
def sessionExtent (mem : Memory) (pkt : Nat) : Nat :=
  let type := wordAt mem (pkt + 4)
  let information := hasFlag (wordAt mem (pkt + 8)) hfiFwFlagsInformation
  if type = hfiCmdStop ∨ type = hfiCmdSettingsChange then 20
  else if type = hfiCmdBuffer then bufferPacketExtent mem pkt
  else if type = hfiPropCropOffsets ∧ !information then 40
  else if wordProperties.contains type ∧ !information then 36
  else 12

/-- The packets up to the first that stops a walk. -/
def upTo (stop : Nat → Bool) : List Nat → List Nat
  | [] => []
  | pkt :: rest => if stop pkt then [pkt] else pkt :: upTo stop rest

/-- A packet at which a system response ends. -/
def isSystemError (mem : Memory) (pkt : Nat) : Bool :=
  hasFlag (wordAt mem (pkt + 8)) hfiFwFlagsSystemError ||
    inRange (hfiSystemErrorBegin, hfiSystemErrorEnd) (wordAt mem (pkt + 4))

/-- `req_bytes < IRIS_FW_VERSION_LENGTH - 1` -/
def isShort (mem : Memory) (pkt : Nat) : Bool :=
  (wordAt mem pkt - BitVec.ofNat 32 hfiPacketSize).toNat < irisFwVersionLength - 1

def isShortVersion (mem : Memory) (pkt : Nat) : Bool :=
  wordAt mem (pkt + 4) == hfiPropImageVersion && isShort mem pkt

/-- What the second pass over a system response reads of a packet. -/
def systemExtent (mem : Memory) (pkt : Nat) : Nat :=
  if wordAt mem (pkt + 4) = hfiPropImageVersion ∧ !isShort mem pkt then
    hfiPacketSize + (irisFwVersionLength - 1)
  else 12

structure SystemFits (mem : Memory) (limit : Nat) (pkts : List Nat) : Prop where
  heads : ∀ pkt ∈ upTo (isSystemError mem) pkts, pkt + 12 ≤ limit
  versions : (∀ pkt ∈ pkts, isSystemError mem pkt = false) →
    ∀ pkt ∈ upTo (isShortVersion mem) pkts, pkt + systemExtent mem pkt ≤ limit

def SessionFits (mem : Memory) (limit : Nat) (pkts : List Nat) : Prop :=
  ∀ pkt ∈ pkts, pkt + sessionExtent mem pkt ≤ limit

/-- Every packet starts inside the message and has room there for what its handlers use. -/
structure MessageFits (mem : Memory) : Prop where
  sizes : ∀ pkt ∈ packets mem, pkt + 4 ≤ readLimit mem
  handled :
    if wordAt mem 4 = 0 then SystemFits mem (readLimit mem) (packets mem)
    else SessionFits mem (readLimit mem) (packets mem)

/-! ### Fields -/

section

@[simp]
theorem run_pktSize : (pktSize pkt).run mem = wordAt mem pkt := rfl

@[simp]
theorem run_pktType : (pktType pkt).run mem = wordAt mem (pkt + 4) := rfl

@[simp]
theorem run_pktFlags : (pktFlags pkt).run mem = wordAt mem (pkt + 8) := rfl

@[simp]
theorem run_pktPayloadInfo : (pktPayloadInfo pkt).run mem = wordAt mem (pkt + 12) := rfl

@[simp]
theorem run_pktPort : (pktPort pkt).run mem = wordAt mem (pkt + 16) := rfl

@[simp]
theorem within_pktSize : Within limit mem (pktSize pkt) ↔ pkt + 4 ≤ limit := within_u32 pkt

@[simp]
theorem within_pktType : Within limit mem (pktType pkt) ↔ pkt + 8 ≤ limit := within_u32 (pkt + 4)

@[simp]
theorem within_pktFlags : Within limit mem (pktFlags pkt) ↔ pkt + 12 ≤ limit :=
  within_u32 (pkt + 8)

@[simp]
theorem within_pktPayloadInfo : Within limit mem (pktPayloadInfo pkt) ↔ pkt + 16 ≤ limit :=
  within_u32 (pkt + 12)

@[simp]
theorem within_pktPort : Within limit mem (pktPort pkt) ↔ pkt + 20 ≤ limit :=
  within_u32 (pkt + 16)

end

/-! ### Validation -/

theorem validatePacket_within :
    Within limit mem (irisHfiGen2ValidatePacket pkt) ↔ pkt + 4 ≤ limit := by
  simp only [irisHfiGen2ValidatePacket, within_bind, within_pktSize, within_ite, within_pure,
    implies_true, and_true]

theorem validatePackets_within (hrun : (validatePackets n pkt).run mem = 0) :
    Within limit mem (validatePackets n pkt) ↔
      ∀ o ∈ packetOffsets mem n pkt, o + 4 ≤ limit := by
  induction n generalizing pkt with
  | zero => simp [validatePackets, packetOffsets]
  | succ n ih =>
      simp only [validatePackets, run_bind] at hrun
      split_ifs at hrun with hret
      · exact absurd hrun hret
      · rw [run_bind, run_pktSize] at hrun
        simp only [validatePackets, within_bind, validatePacket_within, if_neg hret,
          within_pktSize, run_pktSize, packetOffsets, List.forall_mem_cons]
        rw [ih hrun]
        exact ⟨fun h => ⟨h.1, h.2.2⟩, fun h => ⟨h.1, h.1, h.2⟩⟩

theorem validatePacket_iff : (irisHfiGen2ValidatePacket pkt).run mem = 0 ↔
    hfiPacketSize ≤ (wordAt mem pkt).toNat ∧ pkt + (wordAt mem pkt).toNat ≤ ifaceqCorePktSize := by
  have hP : hfiPacketSize = 32 := rfl
  have herror : -einval ≠ 0 := by decide
  rw [irisHfiGen2ValidatePacket, run_bind, run_pktSize]
  split_ifs with hzero hshort hlong
  · have hsize : (wordAt mem pkt).toNat = 0 := congrArg BitVec.toNat hzero
    exact ⟨fun h => absurd h herror, fun h => absurd h.1 (by omega)⟩
  · exact ⟨fun h => absurd h herror, fun h => absurd h.1 (Nat.not_le.2 hshort)⟩
  · exact ⟨fun h => absurd h herror, fun h => absurd h.2 (Nat.not_le.2 hlong)⟩
  · exact ⟨fun _ => ⟨Nat.not_lt.1 hshort, Nat.not_lt.1 hlong⟩, fun _ => rfl⟩

theorem validatePackets_iff : (validatePackets n pkt).run mem = 0 ↔
    ∀ o ∈ packetOffsets mem n pkt, hfiPacketSize ≤ (wordAt mem o).toNat ∧
      o + (wordAt mem o).toNat ≤ ifaceqCorePktSize := by
  induction n generalizing pkt with
  | zero => simp [validatePackets, packetOffsets]
  | succ n ih =>
      rw [validatePackets, run_bind, packetOffsets, List.forall_mem_cons, ← ih,
        ← validatePacket_iff]
      split_ifs with hret
      · exact ⟨fun h => absurd h hret, fun h => absurd h.1 hret⟩
      · rw [run_bind, run_pktSize]
        exact ⟨fun h => ⟨not_not.1 hret, h⟩, fun h => h.2⟩

theorem accepted_size (haccepted : Accepted mem) :
    hfiHeaderSize + hfiPacketSize ≤ (wordAt mem 0).toNat ∧
      (validatePackets (wordAt mem 28).toNat hfiHeaderSize).run mem = 0 := by
  unfold Accepted irisHfiGen2ValidateHdrPacket at haccepted
  rw [run_bind] at haccepted
  split_ifs at haccepted with hsize
  · cases haccepted
  · exact ⟨Nat.not_lt.1 hsize, haccepted⟩

theorem header_le_readLimit (haccepted : Accepted mem) : hfiHeaderSize ≤ readLimit mem := by
  have hsize := (accepted_size haccepted).1
  unfold readLimit ifaceqCorePktSize
  simp only [hfiHeaderSize, hfiPacketSize] at hsize ⊢
  omega

theorem validate_within (haccepted : Accepted mem) :
    Within (readLimit mem) mem irisHfiGen2ValidateHdrPacket ↔
      ∀ pkt ∈ packets mem, pkt + 4 ≤ readLimit mem := by
  obtain ⟨hsize, hpackets⟩ := accepted_size haccepted
  have hheader := header_le_readLimit haccepted
  have hlong : ¬((u32 0).run mem).toNat < hfiHeaderSize + hfiPacketSize := Nat.not_lt.2 hsize
  simp only [irisHfiGen2ValidateHdrPacket, hdrSize, hdrNumPackets, within_bind, within_u32,
    if_neg hlong]
  rw [run_u32, validatePackets_within hpackets, packets]
  simp only [hfiHeaderSize] at hheader ⊢
  constructor
  · exact fun h => h.2.2
  · exact fun h => ⟨by omega, by omega, h⟩

/-! ### Session responses -/

theorem within_payload (i : Nat) :
    Within limit mem (pktPayload pkt i) ↔ pkt + 32 + 4 * i + 4 ≤ limit := within_u32 _

theorem findSource_within {buffer : Nat} (src : List ReadyBuffer) (hlimit : buffer + 8 ≤ limit) :
    Within limit mem (findSource buffer src) := by
  induction src with
  | nil => exact within_pure _
  | cons buf rest ih =>
      simp only [findSource, within_bind, within_ite, within_pure, bufferIndex, within_u32]
      exact ⟨hlimit, fun _ => trivial, fun _ => ih⟩

theorem findDestination_within {buffer : Nat} (dst : List ReadyBuffer)
    (hlimit : buffer + 28 ≤ limit) : Within limit mem (findDestination buffer dst) := by
  induction dst with
  | nil => exact within_pure _
  | cons buf rest ih =>
      simp only [findDestination, within_bind, within_ite, within_pure, bufferIndex,
        bufferBaseAddress, bufferDataOffset, within_u32, within_u64]
      refine ⟨by omega, fun _ => ih, fun _ => ⟨by omega, fun _ => ih, fun _ => ⟨hlimit, ?_⟩⟩⟩
      exact ⟨fun _ => ih, fun _ => trivial⟩

theorem findInternal_within {buffer : Nat} (addrs : List (BitVec 64))
    (hlimit : buffer + 16 ≤ limit) : Within limit mem (findInternal buffer addrs) := by
  induction addrs with
  | nil => exact within_pure _
  | cons addr rest ih =>
      simp only [findInternal, within_bind, within_ite, within_pure, bufferBaseAddress, within_u64]
      exact ⟨hlimit, fun _ => trivial, fun _ => ih⟩

theorem handleInputBuffer_within {view : Gen2View} {buffer : Nat} (hlimit : buffer + 44 ≤ limit) :
    Within limit mem (irisHfiGen2HandleInputBuffer view buffer) := by
  rw [irisHfiGen2HandleInputBuffer, within_bind]
  refine ⟨findSource_within _ (by omega), ?_⟩
  cases (findSource buffer view.src).run mem with
  | none => exact within_pure _
  | some buf =>
      simp only [within_ite, within_pure, within_bind, bufferFlags, within_u32]
      exact ⟨fun _ => trivial, fun _ => ⟨hlimit, trivial⟩⟩

theorem handleOutputBuffer_within {view : Gen2View} {buffer : Nat} :
    Within limit mem (irisHfiGen2HandleOutputBuffer view buffer) ↔ buffer + 44 ≤ limit := by
  rw [irisHfiGen2HandleOutputBuffer, within_bind, bufferFlags, within_u32]
  refine ⟨fun h => h.1, fun hlimit => ⟨hlimit, ?_⟩⟩
  simp only [within_ite, within_pure, within_bind]
  refine ⟨fun _ => trivial, fun _ => ⟨fun _ => trivial, fun _ =>
    ⟨findDestination_within _ (by omega), ?_⟩⟩⟩
  cases (findDestination buffer view.dst).run mem with
  | none => exact within_pure _
  | some buf =>
      simp only [within_ite, within_pure, within_bind, bufferDataOffset, bufferDataSize,
        bufferTimestamp, within_u32, within_u64]
      exact ⟨fun _ => trivial, fun _ => ⟨by omega, by omega, by omega, trivial⟩⟩

theorem bufTypeToDriver_internal {type : BitVec 32} (hvalid : irisHfiGen2IsValidHfiBufferType type)
    (hvpss : type ≠ hfiBufferVpss) (domain : Domain) :
    ∃ driver, irisHfiGen2BufTypeToDriver domain type = some driver := by
  have hmem : type ∈ [hfiBufferBitstream, hfiBufferRaw, hfiBufferBin, hfiBufferArp, hfiBufferComv,
      hfiBufferNonComv, hfiBufferLine, hfiBufferDpb, hfiBufferPersist, hfiBufferVpss] := by
    simpa [irisHfiGen2IsValidHfiBufferType] using hvalid
  simp only [List.mem_cons, List.not_mem_nil, or_false] at hmem
  rcases hmem with rfl | rfl | rfl | rfl | rfl | rfl | rfl | rfl | rfl | rfl
  case inr.inr.inr.inr.inr.inr.inr.inr.inr => exact absurd rfl hvpss
  all_goals cases domain <;> exact ⟨_, rfl⟩

/-- An instance in which every search finds what the message names. -/
def probe (mem : Memory) (buffer : Nat) : Gen2View :=
  { domain := .decoder
    src := [{ index := wordAt mem (buffer + 4), deviceAddr := 0, dataOffset := 0, queued := true }]
    dst := []
    internal := fun _ => [0]
    drainLast := 0
    drcLast := 0 }

instance : Nonempty Gen2View := ⟨probe (fun _ => 0) 0⟩

theorem handleInputBuffer_probe {buffer : Nat}
    (hwithin : Within limit mem (irisHfiGen2HandleInputBuffer (probe mem buffer) buffer)) :
    buffer + 44 ≤ limit := by
  have hfound : (findSource buffer (probe mem buffer).src).run mem =
      some
        { index := wordAt mem (buffer + 4), deviceAddr := 0, dataOffset := 0, queued := true } := by
    simp only [findSource, probe, run_bind, bufferIndex, run_u32, if_true, run_pure]
  rw [irisHfiGen2HandleInputBuffer, within_bind, hfound] at hwithin
  have hflags := hwithin.2
  simp only [Bool.not_true, Bool.false_eq_true, if_false, within_bind, bufferFlags, within_u32]
    at hflags
  exact hflags.1

theorem handleReleaseInternalBuffer_within {view : Gen2View} {buffer : Nat}
    (hlimit : buffer + 4 ≤ limit)
    (hknown : wordAt mem buffer ≠ hfiBufferVpss → buffer + 16 ≤ limit) :
    Within limit mem (irisHfiGen2HandleReleaseInternalBuffer view buffer) := by
  rw [irisHfiGen2HandleReleaseInternalBuffer, within_bind, bufferType, within_u32, run_u32]
  refine ⟨hlimit, ?_⟩
  cases htype : irisHfiGen2BufTypeToDriver view.domain (wordAt mem buffer) with
  | none => exact within_pure _
  | some type =>
      have hvpss : wordAt mem buffer ≠ hfiBufferVpss := by
        intro h
        rw [h] at htype
        cases htype
      rw [within_bind]
      exact ⟨findInternal_within _ (hknown hvpss), within_pure _⟩

theorem handleReleaseInternalBuffer_probe {buffer : Nat}
    (hvalid : irisHfiGen2IsValidHfiBufferType (wordAt mem buffer))
    (hvpss : wordAt mem buffer ≠ hfiBufferVpss)
    (hwithin : Within limit mem
      (irisHfiGen2HandleReleaseInternalBuffer (probe mem buffer) buffer)) :
    buffer + 16 ≤ limit := by
  obtain ⟨type, htype⟩ := bufTypeToDriver_internal hvalid hvpss .decoder
  have hdecoder : (probe mem buffer).domain = .decoder := rfl
  rw [irisHfiGen2HandleReleaseInternalBuffer, within_bind, bufferType, run_u32, hdecoder,
    htype] at hwithin
  have hsearch := hwithin.2
  simp only [within_bind, findInternal, probe, bufferBaseAddress, within_u64] at hsearch
  exact hsearch.1.1

theorem dispatchBuffer_within {buffer : Nat}
    (hvalid : irisHfiGen2IsValidHfiBufferType (wordAt mem buffer)) (hlimit : buffer + 4 ≤ limit) :
    (∀ view, Within limit mem (dispatchBuffer view (wordAt mem buffer) buffer)) ↔
      buffer + bufferExtent (wordAt mem buffer) ≤ limit := by
  unfold bufferExtent
  constructor
  · intro hwithin
    have hprobe := hwithin (probe mem buffer)
    have hdecoder : (probe mem buffer).domain = .decoder := rfl
    rw [dispatchBuffer, hdecoder] at hprobe
    by_cases hbitstream : wordAt mem buffer = hfiBufferBitstream
    · rw [if_pos (.inl hbitstream)]
      exact handleInputBuffer_probe ((within_ite _ _).1 hprobe |>.1 hbitstream)
    replace hprobe := ((within_ite _ _).1 hprobe).2 hbitstream
    by_cases hraw : wordAt mem buffer = hfiBufferRaw
    · rw [if_pos (.inr hraw)]
      exact handleOutputBuffer_within.1 (((within_ite _ _).1 hprobe).1 hraw)
    replace hprobe := ((within_ite _ _).1 hprobe).2 hraw
    rw [if_neg (not_or.2 ⟨hbitstream, hraw⟩)]
    split_ifs with hvpss
    · exact hlimit
    · exact handleReleaseInternalBuffer_probe hvalid hvpss hprobe
  · intro hextent view
    have hclient : wordAt mem buffer = hfiBufferBitstream ∨ wordAt mem buffer = hfiBufferRaw →
        buffer + 44 ≤ limit := fun h => by rwa [if_pos h] at hextent
    have hinternal : wordAt mem buffer ≠ hfiBufferBitstream → wordAt mem buffer ≠ hfiBufferRaw →
        Within limit mem (irisHfiGen2HandleReleaseInternalBuffer view buffer) := by
      intro hbitstream hraw
      rw [if_neg (not_or.2 ⟨hbitstream, hraw⟩)] at hextent
      refine handleReleaseInternalBuffer_within hlimit fun hvpss => ?_
      rwa [if_neg hvpss] at hextent
    unfold dispatchBuffer
    cases view.domain with
    | decoder =>
        simp only [within_ite]
        refine ⟨fun h => handleInputBuffer_within (hclient (.inl h)), fun hbitstream =>
          ⟨fun h => handleOutputBuffer_within.2 (hclient (.inr h)), hinternal hbitstream⟩⟩
    | encoder =>
        simp only [within_ite]
        refine ⟨fun h => handleInputBuffer_within (hclient (.inr h)), fun hraw =>
          ⟨fun h => handleOutputBuffer_within.2 (hclient (.inl h)), fun hbitstream =>
            hinternal hbitstream hraw⟩⟩

theorem handleSessionBuffer_within :
    (∀ view, Within limit mem (irisHfiGen2HandleSessionBuffer view pkt)) ↔
      pkt + bufferPacketExtent mem pkt ≤ limit := by
  have hdispatch := @dispatchBuffer_within mem limit (pkt + hfiPacketSize)
  simp only [irisHfiGen2HandleSessionBuffer, within_bind, within_ite, within_pure,
    within_pktPayloadInfo, within_pktType, within_pktSize, within_pktPort, bufferType, within_u32]
  simp only [run_pktPayloadInfo, run_pktType, run_pktSize, run_pktPort, run_u32]
  unfold bufferPacketExtent
  by_cases hread : wordAt mem (pkt + 12) = hfiPayloadNone ∨ !irisHfiGen2ValidatePacketPayload
      (wordAt mem pkt) (wordAt mem (pkt + 4)) (wordAt mem (pkt + 12))
  · rw [if_pos hread]
    refine ⟨fun h => (h (probe mem pkt)).1, fun hlimit view => ⟨hlimit, fun _ => trivial, ?_⟩⟩
    refine fun hnone => ⟨by omega, by omega, fun _ => trivial, fun hvalid => ?_⟩
    exact absurd (hread.resolve_left hnone) hvalid
  rw [if_neg hread]
  obtain ⟨hnone, hpayload⟩ := not_or.1 hread
  by_cases hvalid : irisHfiGen2IsValidHfiBufferType (wordAt mem (pkt + hfiPacketSize)) ∧
      irisHfiGen2IsValidHfiPort (wordAt mem (pkt + 16)) (wordAt mem (pkt + hfiPacketSize))
  · rw [if_pos hvalid, ← Nat.add_assoc]
    have htype : ¬(!irisHfiGen2IsValidHfiBufferType (wordAt mem (pkt + hfiPacketSize))) = true := by
      simp [hvalid.1]
    have hport : ¬(!irisHfiGen2IsValidHfiPort (wordAt mem (pkt + 16))
        (wordAt mem (pkt + hfiPacketSize))) = true := by
      simp [hvalid.2]
    have hextent : 4 ≤ bufferExtent (wordAt mem (pkt + hfiPacketSize)) := by
      unfold bufferExtent
      split_ifs <;> decide
    constructor
    · intro hall
      have hbuffer := fun view => ((hall view).2.2 hnone).2.2.2 hpayload
      refine (hdispatch hvalid.1 (hbuffer (probe mem pkt)).1).1 fun view => ?_
      exact ((hbuffer view).2.2 htype).2.2 hport
    · intro hlimit view
      have hwithin := (hdispatch hvalid.1 (by omega)).2 hlimit view
      simp only [hfiPacketSize] at hlimit hextent ⊢
      refine ⟨by omega, fun _ => trivial, fun _ =>
        ⟨by omega, by omega, fun _ => trivial, fun _ => ?_⟩⟩
      exact ⟨by omega, fun _ => trivial, fun _ => ⟨by omega, fun _ => trivial, fun _ => hwithin⟩⟩
  · rw [if_neg hvalid]
    simp only [hfiPacketSize] at hvalid ⊢
    constructor
    · intro hall
      exact (((hall (probe mem pkt)).2.2 hnone).2.2.2 hpayload).1
    · intro hlimit view
      refine ⟨by omega, fun _ => trivial, fun _ =>
        ⟨by omega, by omega, fun _ => trivial, fun _ => ?_⟩⟩
      refine ⟨by omega, fun _ => trivial, fun htype =>
        ⟨by omega, fun _ => trivial, fun hport => ?_⟩⟩
      exact absurd ⟨by simpa using htype, by simpa using hport⟩ hvalid

theorem sessionPacket_iff {range : (BitVec 32 × BitVec 32) × (Gen2View → Nat → Reading Unit)}
    {view : Gen2View} :
    Within limit mem (sessionPacket range view pkt) ↔
      pkt + 12 ≤ limit ∧ (inRange range.1 (wordAt mem (pkt + 4)) →
        Within limit mem (range.2 view pkt)) := by
  simp only [sessionPacket, irisHfiGen2HandleSessionError, within_bind, within_ite, within_pure,
    within_pktFlags, within_pktType]
  rw [run_pktFlags, run_pktType]
  constructor
  · rintro ⟨hflags, herror, hnone⟩
    refine ⟨hflags, ?_⟩
    by_cases hsession : hasFlag (wordAt mem (pkt + 8)) hfiFwFlagsSessionError = true
    · exact (herror hsession).2.2.1
    · exact (hnone hsession).2.1
  · rintro ⟨hflags, hhandle⟩
    have htype : pkt + 8 ≤ limit := by omega
    exact ⟨hflags, fun _ => ⟨⟨htype, trivial⟩, htype, hhandle, fun _ => trivial⟩,
      fun _ => ⟨htype, hhandle, fun _ => trivial⟩⟩

theorem handleSessionProperty_within {view : Gen2View} :
    Within limit mem (irisHfiGen2HandleSessionProperty view pkt) ↔
      pkt + 12 ≤ limit ∧ (hasFlag (wordAt mem (pkt + 8)) hfiFwFlagsInformation = false →
        (wordAt mem (pkt + 4) = hfiPropCropOffsets → pkt + 40 ≤ limit) ∧
          (wordAt mem (pkt + 4) ∈ wordProperties → pkt + 36 ≤ limit)) := by
  simp only [irisHfiGen2HandleSessionProperty, within_bind, within_ite, within_pure,
    within_pktFlags, within_pktType, within_payload, List.contains_iff_mem]
  rw [run_pktFlags, run_pktType, Bool.not_eq_true]
  constructor
  · rintro ⟨hflags, -, hstored⟩
    refine ⟨hflags, fun hinfo => ⟨fun hcrop => ?_, fun hword => ?_⟩⟩
    · have hoffsets := (hstored hinfo).2.1 hcrop
      omega
    · have hcrop : wordAt mem (pkt + 4) ≠ hfiPropCropOffsets := by
        intro h
        rw [h] at hword
        exact absurd hword (by decide)
      have hvalue := ((hstored hinfo).2.2 hcrop).1 hword
      omega
  · rintro ⟨hflags, hstored⟩
    refine ⟨hflags, fun _ => trivial, fun hinfo => ⟨by omega, fun hcrop => ?_, fun _ =>
      ⟨fun hword => ?_, fun _ => trivial⟩⟩⟩
    · have hoffsets := (hstored hinfo).1 hcrop
      exact ⟨by omega, by omega, trivial⟩
    · have hvalue := (hstored hinfo).2 hword
      exact ⟨by omega, trivial⟩

theorem handleSessionCommand_within (hlimit : pkt + 12 ≤ limit) :
    (∀ view, Within limit mem (irisHfiGen2HandleSessionCommand view pkt)) ↔
      (wordAt mem (pkt + 4) = hfiCmdStop ∨ wordAt mem (pkt + 4) = hfiCmdSettingsChange →
        pkt + 20 ≤ limit) ∧
      (wordAt mem (pkt + 4) = hfiCmdBuffer → pkt + bufferPacketExtent mem pkt ≤ limit) := by
  rw [← handleSessionBuffer_within]
  simp only [irisHfiGen2HandleSessionCommand, within_bind, within_ite, within_pure,
    within_pktFlags, within_pktType, within_pktPort]
  rw [run_pktType]
  generalize wordAt mem (pkt + 4) = type
  constructor
  · intro hall
    refine ⟨fun hport => ?_, fun hbuffer view => ?_⟩
    · have hother : ¬(type = hfiCmdClose ∨ type = hfiCmdDrain) := by
        rcases hport with rfl | rfl <;> decide
      exact (((hall (probe mem pkt)).2.2 hother).1 hport).1
    · subst hbuffer
      exact (((hall view).2.2 (by decide)).2 (by decide)).1 rfl
  · rintro ⟨hport, hbuffer⟩ view
    refine ⟨by omega, fun _ => ⟨hlimit, trivial⟩, fun _ =>
      ⟨fun h => ⟨hport h, trivial⟩, fun _ => ?_⟩⟩
    exact ⟨fun h => hbuffer h view, fun _ => trivial⟩

theorem bufferPacketExtent_le : 12 ≤ bufferPacketExtent mem pkt := by
  unfold bufferPacketExtent hfiPacketSize
  simp only
  split_ifs <;> omega

theorem sessionExtent_le :
    pkt + sessionExtent mem pkt ≤ limit ↔
      pkt + 12 ≤ limit ∧
      (wordAt mem (pkt + 4) = hfiCmdStop ∨ wordAt mem (pkt + 4) = hfiCmdSettingsChange →
        pkt + 20 ≤ limit) ∧
      (wordAt mem (pkt + 4) = hfiCmdBuffer → pkt + bufferPacketExtent mem pkt ≤ limit) ∧
      (hasFlag (wordAt mem (pkt + 8)) hfiFwFlagsInformation = false →
        (wordAt mem (pkt + 4) = hfiPropCropOffsets → pkt + 40 ≤ limit) ∧
          (wordAt mem (pkt + 4) ∈ wordProperties → pkt + 36 ≤ limit)) := by
  have hbuffer := @bufferPacketExtent_le mem pkt
  unfold sessionExtent
  generalize wordAt mem (pkt + 4) = type
  generalize hasFlag (wordAt mem (pkt + 8)) hfiFwFlagsInformation = information
  simp only [List.contains_iff_mem]
  split_ifs with hport htype hcrop hword
  · refine ⟨fun h => ⟨by omega, fun _ => h, ?_, fun _ => ⟨?_, ?_⟩⟩, fun h => h.2.1 hport⟩
    · rcases hport with rfl | rfl <;> exact fun h => absurd h (by decide)
    · rcases hport with rfl | rfl <;> exact fun h => absurd h (by decide)
    · rcases hport with rfl | rfl <;> exact fun h => absurd h (by decide)
  · subst htype
    refine ⟨fun h => ⟨by omega, ?_, fun _ => h, fun _ => ⟨?_, ?_⟩⟩, fun h => h.2.2.1 rfl⟩
    · exact fun h => absurd h (by decide)
    · exact fun h => absurd h (by decide)
    · exact fun h => absurd h (by decide)
  · obtain ⟨rfl, hinfo⟩ := hcrop
    refine ⟨fun h => ⟨by omega, ?_, ?_, fun _ => ⟨fun _ => h, ?_⟩⟩,
      fun h => (h.2.2.2 (by simpa using hinfo)).1 rfl⟩
    · exact fun h => absurd h (by decide)
    · exact fun h => absurd h (by decide)
    · exact fun h => absurd h (by decide)
  · refine ⟨fun h => ⟨by omega, fun hp => absurd hp hport, fun ht => absurd ht htype,
      fun hinfo => ⟨fun hc => absurd ⟨hc, by simp [hinfo]⟩ hcrop, fun _ => h⟩⟩, fun h => ?_⟩
    exact (h.2.2.2 (by simpa using hword.2)).2 hword.1
  · refine ⟨fun h => ⟨h, fun hp => absurd hp hport, fun ht => absurd ht htype, fun hinfo =>
      ⟨fun hc => absurd ⟨hc, by simp [hinfo]⟩ hcrop, fun hw => absurd ⟨hw, by simp [hinfo]⟩ hword⟩⟩,
      fun h => h.1⟩

/-- The handlers of all four passes, on one packet. -/
theorem sessionPacket_within :
    (∀ range ∈ sessionRanges, ∀ view, Within limit mem (sessionPacket range view pkt)) ↔
      pkt + sessionExtent mem pkt ≤ limit := by
  have hhead : ∀ view, Within limit mem (irisHfiGen2HandleSessionError view pkt) ↔
      pkt + 8 ≤ limit := by
    intro view
    simp only [irisHfiGen2HandleSessionError, within_bind, within_pktType, within_pure, and_true]
  have hinfo : ∀ view, Within limit mem (irisHfiGen2HandleSessionInfo view pkt) ↔
      pkt + 8 ≤ limit := hhead
  rw [sessionExtent_le]
  simp only [sessionRanges, List.forall_mem_cons, List.not_mem_nil, false_implies, implies_true,
    and_true, sessionPacket_iff, hhead, hinfo, handleSessionProperty_within]
  constructor
  · rintro ⟨herror, -, hproperty, hcommand⟩
    have hflags := (herror (probe mem pkt)).1
    have hhandle : inRange (hfiCmdBegin, hfiCmdEnd) (wordAt mem (pkt + 4)) = true →
        ∀ view, Within limit mem (irisHfiGen2HandleSessionCommand view pkt) :=
      fun hrange view => (hcommand view).2 hrange
    rw [handleSessionCommand_within hflags] at hhandle
    refine ⟨hflags, fun hport => (hhandle ?_).1 hport, fun hbuffer => (hhandle ?_).2 hbuffer,
      fun hinformation => ⟨fun hcrop => ?_, fun hword => ?_⟩⟩
    · rcases hport with h | h <;> rw [h] <;> decide
    · rw [hbuffer]
      decide
    · have hrange : inRange (hfiPropBegin, hfiPropEnd) (wordAt mem (pkt + 4)) = true := by
        rw [hcrop]
        decide
      exact (((hproperty (probe mem pkt)).2 hrange).2 hinformation).1 hcrop
    · have hrange : inRange (hfiPropBegin, hfiPropEnd) (wordAt mem (pkt + 4)) = true := by
        have hall : wordProperties.all (inRange (hfiPropBegin, hfiPropEnd)) = true := by decide
        exact List.all_eq_true.1 hall _ hword
      exact (((hproperty (probe mem pkt)).2 hrange).2 hinformation).2 hword
  · rintro ⟨hflags, hport, hbuffer, hproperty⟩
    have htype : pkt + 8 ≤ limit := by omega
    exact ⟨fun _ => ⟨hflags, fun _ => htype⟩, fun _ => ⟨hflags, fun _ => htype⟩,
      fun _ => ⟨hflags, fun _ => ⟨hflags, hproperty⟩⟩,
      fun view => ⟨hflags, fun _ => (handleSessionCommand_within hflags).2 ⟨hport, hbuffer⟩ view⟩⟩

/-- Every pass reads the flags and the type of every packet. -/
theorem sessionPacket_head {range : (BitVec 32 × BitVec 32) × (Gen2View → Nat → Reading Unit)}
    {view : Gen2View} (hwithin : Within limit mem (sessionPacket range view pkt)) :
    pkt + 4 ≤ limit := by
  have hflags := (sessionPacket_iff.1 hwithin).1
  omega

theorem sessionPass_within
    (range : (BitVec 32 × BitVec 32) × (Gen2View → Nat → Reading Unit)) :
    (∀ views, Within limit mem (sessionPass range views n pkt)) ↔
      ∀ o ∈ packetOffsets mem n pkt, ∀ view, Within limit mem (sessionPacket range view o) := by
  induction n generalizing pkt with
  | zero => simp [sessionPass, packetOffsets]
  | succ n ih =>
      simp only [sessionPass, within_bind, within_pktSize, run_pktSize, packetOffsets,
        List.forall_mem_cons]
      constructor
      · intro hall
        exact ⟨fun view => (hall fun _ => view).1, ih.1 fun views => (hall views).2.2⟩
      · rintro ⟨hfirst, hrest⟩ views
        exact ⟨hfirst _, sessionPacket_head (hfirst (views n)), ih.2 hrest views⟩

theorem sessionPasses_within
    (ranges : List ((BitVec 32 × BitVec 32) × (Gen2View → Nat → Reading Unit))) :
    (∀ views, Within limit mem (sessionPasses views n ranges)) ↔
      ∀ range ∈ ranges, ∀ views, Within limit mem (sessionPass range views n hfiHeaderSize) := by
  induction ranges with
  | nil => simp [sessionPasses]
  | cons range rest ih =>
      simp only [sessionPasses, within_bind, List.forall_mem_cons, forall_and, ih]

/-- The search for a settings change reads nothing that the passes do not read. -/
theorem settingsChange_within
    (hfits : ∀ o ∈ packetOffsets mem n pkt, o + sessionExtent mem o ≤ limit) :
    Within limit mem (settingsChange n pkt) := by
  induction n generalizing pkt with
  | zero => exact within_pure _
  | succ n ih =>
      rw [packetOffsets, List.forall_mem_cons] at hfits
      obtain ⟨hflags, hport, -, -⟩ := sessionExtent_le.1 hfits.1
      simp only [settingsChange, within_bind, within_ite, within_pure, within_pktType,
        within_pktPort, within_pktSize]
      rw [run_pktType, run_pktSize]
      have hnext : pkt + 4 ≤ limit ∧ Within limit mem (settingsChange n
          (pkt + (wordAt mem pkt).toNat)) := ⟨by omega, ih hfits.2⟩
      exact ⟨by omega, fun h => ⟨hport (.inr h), fun _ => trivial, fun _ => hnext⟩,
        fun _ => ⟨trivial, fun _ => trivial, fun _ => hnext⟩⟩

theorem sessionResponse_within (hheader : hfiHeaderSize ≤ limit) :
    (∀ known views, Within limit mem (irisHfiGen2HandleSessionResponse known views)) ↔
      SessionFits mem limit (packets mem) := by
  have hheaderBytes : 32 ≤ limit := hheader
  have hpasses : (∀ views, Within limit mem
      (sessionPasses views (wordAt mem 28).toNat sessionRanges)) ↔
        SessionFits mem limit (packets mem) := by
    rw [sessionPasses_within]
    simp only [sessionPass_within]
    unfold SessionFits packets
    simp only [← sessionPacket_within]
    exact ⟨fun h o ho range hr => h range hr o ho, fun h range hr o ho => h o ho range hr⟩
  simp only [irisHfiGen2HandleSessionResponse, within_bind, within_ite, within_pure,
    hdrSessionId, hdrNumPackets, within_u32]
  rw [← hpasses]
  constructor
  · intro hall views
    exact ((hall (fun _ => true) views).2.2 (by simp)).2.2
  · intro hall known views
    refine ⟨by omega, fun _ => trivial, fun _ => ⟨by omega, settingsChange_within ?_, hall views⟩⟩
    exact hpasses.1 hall

/-! ### System responses -/

variable {range : (BitVec 32 × BitVec 32) × (Nat → Reading Int)}

theorem mem_of_mem_upTo {stop : Nat → Bool} {pkts : List Nat} {o : Nat} (ho : o ∈ upTo stop pkts) :
    o ∈ pkts := by
  induction pkts with
  | nil => exact ho
  | cons first rest ih =>
      unfold upTo at ho
      split_ifs at ho
      · exact List.mem_cons.2 (.inl (List.mem_singleton.1 ho))
      · exact List.mem_cons.2 ((List.mem_cons.1 ho).imp id ih)

theorem upTo_eq {stop : Nat → Bool} {pkts : List Nat} (hnone : ∀ o ∈ pkts, stop o = false) :
    upTo stop pkts = pkts := by
  induction pkts with
  | nil => rfl
  | cons first rest ih =>
      rw [List.forall_mem_cons] at hnone
      rw [upTo, hnone.1, ih hnone.2]
      rfl

theorem systemPass_run_none (hnone : ∀ o ∈ packetOffsets mem n pkt,
    (systemPacket range o).run mem = none) : (systemPass range n pkt).run mem = none := by
  induction n generalizing pkt with
  | zero => rfl
  | succ n ih =>
      rw [packetOffsets, List.forall_mem_cons] at hnone
      simp only [systemPass, run_bind, hnone.1, run_pktSize, ih hnone.2]

theorem systemPass_run_some {o : Nat} (ho : o ∈ packetOffsets mem n pkt)
    (hsome : ((systemPacket range o).run mem).isSome = true) :
    ((systemPass range n pkt).run mem).isSome = true := by
  induction n generalizing pkt with
  | zero => cases ho
  | succ n ih =>
      simp only [systemPass, run_bind]
      cases hret : (systemPacket range pkt).run mem with
      | some ret => rfl
      | none =>
          simp only [run_bind, run_pktSize]
          rcases List.mem_cons.1 ho with rfl | hrest
          · rw [hret] at hsome
            cases hsome
          · exact ih hrest

theorem systemPacket_iff :
    Within limit mem (systemPacket range pkt) ↔
      pkt + 12 ≤ limit ∧ (hasFlag (wordAt mem (pkt + 8)) hfiFwFlagsSystemError = false →
        inRange range.1 (wordAt mem (pkt + 4)) → Within limit mem (range.2 pkt)) := by
  simp only [systemPacket, irisHfiGen2HandleSystemError, within_bind, within_ite, within_pure,
    within_pktFlags, within_pktType]
  rw [run_pktFlags, run_pktType, Bool.not_eq_true]
  constructor
  · rintro ⟨hflags, -, hrest⟩
    exact ⟨hflags, fun hsystem hrange => ((hrest hsystem).2.1 hrange).1⟩
  · rintro ⟨hflags, hhandle⟩
    have htype : pkt + 8 ≤ limit := by omega
    refine ⟨hflags, fun _ => ⟨⟨htype, trivial⟩, trivial⟩, fun hsystem => ⟨htype, fun hrange => ?_,
      fun _ => trivial⟩⟩
    exact ⟨hhandle hsystem hrange, fun _ => trivial, fun _ => ⟨fun _ => trivial, fun _ => trivial⟩⟩

/-- A pass goes on to the first packet at which it returns. -/
theorem systemPass_within (stop : Nat → Bool)
    (hstop : ∀ o ∈ packetOffsets mem n pkt, ((systemPacket range o).run mem).isSome = stop o) :
    Within limit mem (systemPass range n pkt) ↔
      ∀ o ∈ upTo stop (packetOffsets mem n pkt), Within limit mem (systemPacket range o) := by
  induction n generalizing pkt with
  | zero => simp [systemPass, packetOffsets, upTo]
  | succ n ih =>
      rw [packetOffsets, List.forall_mem_cons] at hstop
      simp only [systemPass, within_bind, packetOffsets, upTo]
      cases hret : (systemPacket range pkt).run mem with
      | some ret =>
          have hstops : stop pkt = true := by rw [← hstop.1, hret]; rfl
          simp only [hstops, if_true, List.forall_mem_singleton, within_pure, and_true]
      | none =>
          have hgoes : stop pkt = false := by rw [← hstop.1, hret]; rfl
          simp only [hgoes, Bool.false_eq_true, if_false, List.forall_mem_cons, within_bind,
            within_pktSize, run_pktSize, ih hstop.2]
          refine ⟨fun h => ⟨h.1, h.2.2⟩, fun h => ⟨h.1, ?_, h.2⟩⟩
          have hflags := (systemPacket_iff.1 h.1).1
          omega

theorem systemPacket_run :
    (systemPacket range pkt).run mem =
      if hasFlag (wordAt mem (pkt + 8)) hfiFwFlagsSystemError then some 0
      else if inRange range.1 (wordAt mem (pkt + 4)) then
        if (range.2 pkt).run mem ≠ 0 then some ((range.2 pkt).run mem)
        else if inRange (hfiSystemErrorBegin, hfiSystemErrorEnd) (wordAt mem (pkt + 4)) then some 0
        else none
      else none := by
  simp only [systemPacket, irisHfiGen2HandleSystemError, run_bind, run_ite, run_pure]
  rw [run_pktFlags, run_pktType]

theorem handleSystemProperty_within :
    Within limit mem (irisHfiGen2HandleSystemProperty pkt) ↔
      pkt + 8 ≤ limit ∧ (wordAt mem (pkt + 4) = hfiPropImageVersion → isShort mem pkt = false →
        pkt + 159 ≤ limit) := by
  simp only [irisHfiGen2HandleSystemProperty, irisHfiGen2HandleImageVersionProperty, within_bind,
    within_ite, within_pure, within_pktType, within_pktSize, within_bytes]
  rw [run_pktType, run_pktSize]
  have hlength : irisFwVersionLength - 1 = 127 := rfl
  have hpacket : hfiPacketSize = 32 := rfl
  constructor
  · rintro ⟨htype, hversion, -⟩
    refine ⟨htype, fun heq hlong => ?_⟩
    have hbytes := ((hversion heq).2.2 (decide_eq_false_iff_not.1 hlong)).1
    omega
  · rintro ⟨htype, hversion⟩
    refine ⟨htype, fun heq => ⟨by omega, fun _ => trivial, fun hlong => ⟨?_, trivial⟩⟩,
      fun _ => trivial⟩
    have hbytes := hversion heq (decide_eq_false_iff_not.2 hlong)
    omega

theorem handleSystemProperty_run :
    (irisHfiGen2HandleSystemProperty pkt).run mem =
      if isShortVersion mem pkt then -einval else 0 := by
  simp only [irisHfiGen2HandleSystemProperty, irisHfiGen2HandleImageVersionProperty, run_bind,
    run_ite, run_pure]
  rw [run_pktType, run_pktSize]
  by_cases htype : wordAt mem (pkt + 4) = hfiPropImageVersion
  · rw [if_pos htype, isShortVersion, htype, beq_self_eq_true, Bool.true_and]
    by_cases hshort : (wordAt mem pkt - BitVec.ofNat 32 hfiPacketSize).toNat <
        irisFwVersionLength - 1
    · rw [if_pos hshort, isShort, if_pos (decide_eq_true hshort)]
    · rw [if_neg hshort, isShort, decide_eq_false hshort]
      rfl
  · rw [if_neg htype, isShortVersion, beq_false_of_ne htype]
    rfl

/-- The first pass ends the response at a system error. -/
theorem errorPacket_run (o : Nat) :
    (systemPacket ((hfiSystemErrorBegin, hfiSystemErrorEnd), irisHfiGen2HandleSystemError) o).run
        mem = if isSystemError mem o then some 0 else none := by
  have hret : (irisHfiGen2HandleSystemError o).run mem = 0 := rfl
  rw [systemPacket_run, hret, isSystemError]
  cases hasFlag (wordAt mem (o + 8)) hfiFwFlagsSystemError <;>
    cases inRange (hfiSystemErrorBegin, hfiSystemErrorEnd) (wordAt mem (o + 4)) <;> rfl

theorem errorPass_within :
    Within limit mem (systemPass ((hfiSystemErrorBegin, hfiSystemErrorEnd),
        irisHfiGen2HandleSystemError) n pkt) ↔
      ∀ o ∈ upTo (isSystemError mem) (packetOffsets mem n pkt), o + 12 ≤ limit := by
  have hpacket : ∀ o, Within limit mem (systemPacket ((hfiSystemErrorBegin, hfiSystemErrorEnd),
      irisHfiGen2HandleSystemError) o) ↔ o + 12 ≤ limit := by
    intro o
    simp only [systemPacket_iff, irisHfiGen2HandleSystemError, within_bind, within_pktType,
      within_pure, and_true]
    exact ⟨fun h => h.1, fun h => ⟨h, fun _ _ => by omega⟩⟩
  rw [systemPass_within (isSystemError mem) fun o _ => ?_]
  · simp only [hpacket]
  · rw [errorPacket_run]
    cases isSystemError mem o <;> rfl

/-- Past the first pass no packet is a system error, and a handler stops only by failing. -/
theorem systemPacket_run_of_not (hnot : isSystemError mem pkt = false) :
    (systemPacket range pkt).run mem =
      if inRange range.1 (wordAt mem (pkt + 4)) ∧ (range.2 pkt).run mem ≠ 0 then
        some ((range.2 pkt).run mem)
      else none := by
  obtain ⟨hflag, hrange⟩ := Bool.or_eq_false_iff.1 hnot
  rw [systemPacket_run, hflag, hrange]
  by_cases hin : inRange range.1 (wordAt mem (pkt + 4)) = true
  · by_cases hret : (range.2 pkt).run mem = 0
    · simp [hret]
    · simp [hin, hret]
  · simp [hin]

theorem propertyPass_within
    (hnot : ∀ o ∈ packetOffsets mem n pkt, isSystemError mem o = false) :
    Within limit mem (systemPass ((hfiPropBegin, hfiPropEnd), irisHfiGen2HandleSystemProperty) n
        pkt) ↔
      ∀ o ∈ upTo (isShortVersion mem) (packetOffsets mem n pkt),
        o + systemExtent mem o ≤ limit := by
  have hversionExtent : hfiPacketSize + (irisFwVersionLength - 1) = 159 := rfl
  have hpacket : ∀ o, isSystemError mem o = false →
      (Within limit mem (systemPacket ((hfiPropBegin, hfiPropEnd),
        irisHfiGen2HandleSystemProperty) o) ↔ o + systemExtent mem o ≤ limit) := by
    intro o hno
    have hflag := (Bool.or_eq_false_iff.1 hno).1
    rw [systemPacket_iff, handleSystemProperty_within, systemExtent]
    by_cases hversion : wordAt mem (o + 4) = hfiPropImageVersion ∧ !isShort mem o
    · rw [if_pos hversion, hversionExtent]
      have hlong : isShort mem o = false := by simpa using hversion.2
      have hrange : inRange (hfiPropBegin, hfiPropEnd) (wordAt mem (o + 4)) = true := by
        rw [hversion.1]
        decide
      exact ⟨fun h => (h.2 hflag hrange).2 hversion.1 hlong, fun h =>
        ⟨Nat.le_trans (by omega) h, fun _ _ => ⟨Nat.le_trans (by omega) h, fun _ _ => h⟩⟩⟩
    · rw [if_neg hversion]
      refine ⟨fun h => h.1, fun h => ⟨h, fun _ _ => ⟨by omega, fun htype hlong => ?_⟩⟩⟩
      exact absurd ⟨htype, by simp [hlong]⟩ hversion
  rw [systemPass_within (isShortVersion mem) fun o ho => ?_]
  · exact forall₂_congr fun o ho => hpacket o (hnot o (mem_of_mem_upTo ho))
  · rw [systemPacket_run_of_not (hnot o ho), handleSystemProperty_run]
    cases hshort : isShortVersion mem o with
    | false => simp
    | true =>
        have htype : wordAt mem (o + 4) = hfiPropImageVersion := by
          simpa using (Bool.and_eq_true_iff.1 hshort).1
        rw [htype]
        decide

theorem initPass_within (hnot : ∀ o ∈ packetOffsets mem n pkt, isSystemError mem o = false)
    (hheads : ∀ o ∈ packetOffsets mem n pkt, o + 12 ≤ limit) :
    Within limit mem
      (systemPass ((hfiCmdBegin, hfiCmdEnd), irisHfiGen2HandleSystemInit) n pkt) := by
  rw [systemPass_within (fun _ => false) fun o ho => ?_]
  · intro o ho
    have hhead := hheads o (mem_of_mem_upTo ho)
    simp only [systemPacket_iff, irisHfiGen2HandleSystemInit, within_bind, within_pktFlags,
      within_pure, and_true]
    exact ⟨hhead, fun _ _ => hhead⟩
  · have hret : (irisHfiGen2HandleSystemInit o).run mem = 0 := rfl
    rw [systemPacket_run_of_not (hnot o ho), hret]
    simp

theorem systemResponse_within (hheader : hfiHeaderSize ≤ limit) :
    Within limit mem irisHfiGen2HandleSystemResponse ↔ SystemFits mem limit (packets mem) := by
  have hheaderBytes : 32 ≤ limit := hheader
  simp only [irisHfiGen2HandleSystemResponse, hdrNumPackets, within_bind, within_u32, systemRanges,
    systemPasses]
  rw [run_u32, errorPass_within]
  by_cases hnot : ∀ o ∈ packets mem, isSystemError mem o = false
  · have hgoes : (systemPass ((hfiSystemErrorBegin, hfiSystemErrorEnd),
        irisHfiGen2HandleSystemError) (wordAt mem 28).toNat hfiHeaderSize).run mem = none := by
      refine systemPass_run_none fun o ho => ?_
      rw [errorPacket_run, hnot o ho]
      rfl
    rw [hgoes]
    simp only [within_bind, propertyPass_within hnot]
    constructor
    · rintro ⟨-, hheads, hversions, -⟩
      exact ⟨hheads, fun _ => hversions⟩
    · rintro ⟨hheads, hversions⟩
      refine ⟨by omega, hheads, hversions hnot, ?_⟩
      have hall : ∀ o ∈ packets mem, o + 12 ≤ limit := by
        rwa [upTo_eq hnot] at hheads
      cases (systemPass ((hfiPropBegin, hfiPropEnd), irisHfiGen2HandleSystemProperty)
          (wordAt mem 28).toNat hfiHeaderSize).run mem with
      | some ret => exact within_pure _
      | none =>
          refine (within_bind _ _).2 ⟨initPass_within hnot hall, ?_⟩
          split <;> exact within_pure _
  · obtain ⟨o, ho, herror⟩ : ∃ o ∈ packets mem, isSystemError mem o = true := by
      simpa using hnot
    have hstops : ((systemPass ((hfiSystemErrorBegin, hfiSystemErrorEnd),
        irisHfiGen2HandleSystemError) (wordAt mem 28).toNat hfiHeaderSize).run mem).isSome := by
      refine systemPass_run_some ho ?_
      rw [errorPacket_run, herror]
      rfl
    obtain ⟨ret, hret⟩ := Option.isSome_iff_exists.1 hstops
    rw [hret]
    constructor
    · rintro ⟨-, hheads, -⟩
      exact ⟨hheads, fun hall => absurd hall hnot⟩
    · rintro ⟨hheads, -⟩
      exact ⟨by omega, hheads, within_pure _⟩

/-! ### The message -/

theorem validation_sound_iff (mem : Memory) :
    ValidationSound mem ↔ (Accepted mem → MessageFits mem) := by
  refine forall_congr' fun haccepted => ?_
  have hheader := header_le_readLimit haccepted
  have hheaderBytes : 32 ≤ readLimit mem := hheader
  have hret : irisHfiGen2ValidateHdrPacket.run mem = 0 := haccepted
  simp only [irisHfiGen2HandleResponse, hdrSessionId, within_bind, within_ite, within_u32,
    within_pure, hret, validate_within haccepted, ne_eq, not_true, not_false_eq_true, false_implies,
    true_implies, true_and, and_true]
  rw [run_u32]
  by_cases hsystem : wordAt mem 4 = 0
  · have hfits : Within (readLimit mem) mem irisHfiGen2HandleSystemResponse ↔ _ :=
      systemResponse_within hheader
    constructor
    · intro hall
      obtain ⟨hsizes, -, hresponse, -⟩ := hall (fun _ => true) fun _ => probe mem 0
      refine ⟨hsizes, ?_⟩
      rw [if_pos hsystem]
      exact hfits.1 (hresponse hsystem)
    · rintro ⟨hsizes, hhandled⟩ known views
      rw [if_pos hsystem] at hhandled
      exact ⟨hsizes, by omega, fun _ => hfits.2 hhandled, fun h => absurd hsystem h⟩
  · have hfits : (∀ known views, Within (readLimit mem) mem
        (irisHfiGen2HandleSessionResponse known views)) ↔ _ := sessionResponse_within hheader
    constructor
    · intro hall
      refine ⟨(hall (fun _ => true) fun _ => probe mem 0).1, ?_⟩
      rw [if_neg hsystem]
      exact hfits.1 fun known views => (hall known views).2.2.2 hsystem
    · rintro ⟨hsizes, hhandled⟩ known views
      rw [if_neg hsystem] at hhandled
      exact ⟨hsizes, by omega, fun h => absurd h hsystem, fun _ => hfits.2 hhandled known views⟩

/-- The second packet, with no payload, ends the buffer. -/
def overrun : Memory :=
  wordMemory [(0, 4096), (4, 1), (28, 2), (32, 4032), (4064, 32), (4068, 0x03000103)]

theorem not_validationSound_overrun : ¬ValidationSound overrun := by
  intro hsound
  have haccepted : Accepted overrun := by
    unfold Accepted
    decide +kernel
  have hlimit : readLimit overrun = 4096 := by decide +kernel
  have hread : 4096 ∈ (irisHfiGen2HandleResponse (fun _ => true) fun _ =>
      ⟨.decoder, [], [], fun _ => [], 0, 0⟩).touched overrun := by decide +kernel
  exact absurd (hsound haccepted _ _ 4096 hread) (by omega)

end NabuIris.Gen2Message
