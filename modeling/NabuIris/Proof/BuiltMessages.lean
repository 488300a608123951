import NabuIris.Gen2Build
import NabuIris.Proof.MessageBounds

/-!
# A message that is built is read back

The header counts what has been built, and every packet lies behind the one before it. A further
packet writes to the two words of the header and behind the last packet.
-/

namespace NabuIris.Gen2Message

open Lib Lib.Reading Lib.Writing

variable {mem mem' : Memory} {pkt : Nat} {packet : Gen2Packet} {packets : List Gen2Packet}

/-- `pkt->size` -/
def Gen2Packet.size (packet : Gen2Packet) : Nat := hfiPacketSize + packet.payload.length

def totalSize (packets : List Gen2Packet) : Nat := (packets.map Gen2Packet.size).sum

theorem totalSize_cons (packet : Gen2Packet) (packets : List Gen2Packet) :
    totalSize (packet :: packets) = packet.size + totalSize packets := List.sum_cons

theorem length_le_totalSize (packets : List Gen2Packet) : packets.length ≤ totalSize packets := by
  induction packets with
  | nil => exact Nat.le_refl 0
  | cons packet rest ih =>
      have hP : hfiPacketSize = 32 := rfl
      have hlength : packet.size = hfiPacketSize + packet.payload.length := rfl
      rw [totalSize_cons, List.length_cons]
      omega

theorem totalSize_append (packets packets' : List Gen2Packet) :
    totalSize (packets ++ packets') = totalSize packets + totalSize packets' := by
  rw [totalSize, List.map_append, List.sum_append]
  rfl

/-! ### Where the packets lie -/

structure PacketAt (mem : Memory) (pkt : Nat) (packet : Gen2Packet) : Prop where
  size : (wordAt mem pkt).toNat = packet.size
  type : wordAt mem (pkt + 4) = packet.type
  flags : wordAt mem (pkt + 8) = packet.flags
  payloadInfo : wordAt mem (pkt + 12) = packet.payloadInfo
  port : wordAt mem (pkt + 16) = packet.port
  packetId : wordAt mem (pkt + 20) = packet.packetId
  payload : ∀ i (hi : i < packet.payload.length),
    mem (pkt + hfiPacketSize + i) = packet.payload[i]

def PacketsAt (mem : Memory) : Nat → List Gen2Packet → Prop
  | _, [] => True
  | pkt, packet :: rest => PacketAt mem pkt packet ∧ PacketsAt mem (pkt + packet.size) rest

/-- Two memories that agree where the packet lies. -/
theorem PacketAt.congr (hpacket : PacketAt mem pkt packet)
    (hagree : ∀ i, pkt ≤ i → i < pkt + packet.size → mem' i = mem i) :
    PacketAt mem' pkt packet := by
  have hP : hfiPacketSize = 32 := rfl
  have hsize : packet.size = hfiPacketSize + packet.payload.length := rfl
  have hword : ∀ k, k + 4 ≤ hfiPacketSize → wordAt mem' (pkt + k) = wordAt mem (pkt + k) :=
    fun k hk => wordAt_congr fun i hi => hagree _ (by omega) (by omega)
  exact {
    size := (congrArg BitVec.toNat (hword 0 (by omega))).trans hpacket.size
    type := (hword 4 (by omega)).trans hpacket.type
    flags := (hword 8 (by omega)).trans hpacket.flags
    payloadInfo := (hword 12 (by omega)).trans hpacket.payloadInfo
    port := (hword 16 (by omega)).trans hpacket.port
    packetId := (hword 20 (by omega)).trans hpacket.packetId
    payload := fun i hi => (hagree _ (by omega) (by omega)).trans (hpacket.payload i hi) }

theorem PacketsAt.congr (hpackets : PacketsAt mem pkt packets)
    (hagree : ∀ i, pkt ≤ i → i < pkt + totalSize packets → mem' i = mem i) :
    PacketsAt mem' pkt packets := by
  induction packets generalizing pkt with
  | nil => trivial
  | cons packet rest ih =>
      rw [totalSize_cons] at hagree
      exact ⟨hpackets.1.congr fun i hle hlt => hagree i hle (by omega),
        ih hpackets.2 fun i hle hlt => hagree i (by omega) (by omega)⟩

theorem PacketsAt.append (hpackets : PacketsAt mem pkt packets)
    (hpacket : PacketAt mem (pkt + totalSize packets) packet) :
    PacketsAt mem pkt (packets ++ [packet]) := by
  induction packets generalizing pkt with
  | nil => exact ⟨hpacket, trivial⟩
  | cons first rest ih =>
      refine ⟨hpackets.1, ih hpackets.2 ?_⟩
      rw [Nat.add_assoc, ← totalSize_cons]
      exact hpacket

/-! ### Building -/

/-- A message of these packets. -/
structure Message (mem : Memory) (packets : List Gen2Packet) : Prop where
  size : (wordAt mem 0).toNat = hfiHeaderSize + totalSize packets
  count : (wordAt mem 28).toNat = packets.length
  packets : PacketsAt mem hfiHeaderSize packets

/-- Two memories that agree where the message lies. -/
theorem Message.congr {mem mem' : Memory} {packets : List Gen2Packet}
    (hmessage : Message mem packets)
    (hagree : ∀ i < hfiHeaderSize + totalSize packets, mem' i = mem i) : Message mem' packets := by
  have hH : hfiHeaderSize = 32 := rfl
  have hword : ∀ k, k + 4 ≤ hfiHeaderSize → wordAt mem' k = wordAt mem k :=
    fun k hk => wordAt_congr fun i hi => hagree _ (by omega)
  exact {
    size := (congrArg BitVec.toNat (hword 0 (by omega))).trans hmessage.size
    count := (congrArg BitVec.toNat (hword 28 (by omega))).trans hmessage.count
    packets := hmessage.packets.congr fun i _ hi => hagree i hi }

theorem createHeader_message (sessionId headerId : BitVec 32) (mem : Memory) :
    Message (irisHfiGen2CreateHeader sessionId headerId mem) [] where
  size := by
    unfold irisHfiGen2CreateHeader
    rw [wordAt_storeWord_outside (by omega), wordAt_storeWord_outside (by omega),
      wordAt_storeWord_outside (by omega), wordAt_storeWord]
    rfl
  count := by
    unfold irisHfiGen2CreateHeader
    rw [wordAt_storeWord]
    rfl
  packets := trivial

/-- The memory before the header counts the packet. -/
def writePacket (packet : Gen2Packet) (pkt : Nat) (pktSize : BitVec 32) (mem : Memory) : Memory :=
  let mem := clear mem pkt pktSize.toNat
  let mem := storeWord mem pkt pktSize
  let mem := storeWord mem (pkt + 4) packet.type
  let mem := storeWord mem (pkt + 8) packet.flags
  let mem := storeWord mem (pkt + 12) packet.payloadInfo
  let mem := storeWord mem (pkt + 16) packet.port
  let mem := storeWord mem (pkt + 20) packet.packetId
  if packet.payload ≠ [] then store mem (pkt + hfiPacketSize) packet.payload else mem

theorem createPacket_eq (packet : Gen2Packet) (mem : Memory) :
    irisHfiGen2CreatePacket packet mem =
      let pkt := (wordAt mem 0).toNat
      let written := writePacket packet pkt
        (BitVec.ofNat 32 hfiPacketSize + BitVec.ofNat 32 packet.payload.length) mem
      let counted := storeWord written 28 (wordAt written 28 + 1)
      storeWord counted 0 (wordAt counted 0 + wordAt counted pkt) := rfl

/-- Storing no bytes is not storing. -/
theorem ite_store (bs : List (BitVec 8)) (mem : Memory) (offset : Nat) :
    (if bs ≠ [] then store mem offset bs else mem) = store mem offset bs := by
  split_ifs with hne
  · rfl
  · funext i
    rw [not_not.1 hne, store_outside (by rw [List.length_nil]; omega)]

section Write

variable {pktSize : BitVec 32}

theorem writePacket_outside {i : Nat} (hsize : pktSize.toNat = packet.size)
    (hi : i < pkt ∨ pkt + packet.size ≤ i) : writePacket packet pkt pktSize mem i = mem i := by
  have hP : hfiPacketSize = 32 := rfl
  have hlength : packet.size = hfiPacketSize + packet.payload.length := rfl
  unfold writePacket
  rw [ite_store, store_outside (by omega), storeWord_outside (by omega),
    storeWord_outside (by omega), storeWord_outside (by omega), storeWord_outside (by omega),
    storeWord_outside (by omega), storeWord_outside (by omega), clear_outside (by omega)]

theorem packetAt_writePacket (hsize : pktSize.toNat = packet.size) :
    PacketAt (writePacket packet pkt pktSize mem) pkt packet := by
  have hP : hfiPacketSize = 32 := rfl
  unfold writePacket
  rw [ite_store]
  refine ⟨?_, ?_, ?_, ?_, ?_, ?_, fun i hi => store_inside hi⟩
  · rw [wordAt_store_outside (by omega), wordAt_storeWord_outside (by omega),
      wordAt_storeWord_outside (by omega), wordAt_storeWord_outside (by omega),
      wordAt_storeWord_outside (by omega), wordAt_storeWord_outside (by omega), wordAt_storeWord]
    exact hsize
  · rw [wordAt_store_outside (by omega), wordAt_storeWord_outside (by omega),
      wordAt_storeWord_outside (by omega), wordAt_storeWord_outside (by omega),
      wordAt_storeWord_outside (by omega), wordAt_storeWord]
  · rw [wordAt_store_outside (by omega), wordAt_storeWord_outside (by omega),
      wordAt_storeWord_outside (by omega), wordAt_storeWord_outside (by omega), wordAt_storeWord]
  · rw [wordAt_store_outside (by omega), wordAt_storeWord_outside (by omega),
      wordAt_storeWord_outside (by omega), wordAt_storeWord]
  · rw [wordAt_store_outside (by omega), wordAt_storeWord_outside (by omega), wordAt_storeWord]
  · rw [wordAt_store_outside (by omega), wordAt_storeWord]

end Write

theorem Message.createPacket (hmessage : Message mem packets)
    (hfits : hfiHeaderSize + totalSize (packets ++ [packet]) ≤ ifaceqCorePktSize) :
    Message (irisHfiGen2CreatePacket packet mem) (packets ++ [packet]) := by
  have hH : hfiHeaderSize = 32 := rfl
  have hP : hfiPacketSize = 32 := rfl
  have hmax : ifaceqCorePktSize = 4096 := rfl
  have htotal : totalSize (packets ++ [packet]) = totalSize packets + packet.size := by
    rw [totalSize_append]
    exact congrArg (totalSize packets + ·) (Nat.add_zero _)
  have hlength : packet.size = hfiPacketSize + packet.payload.length := rfl
  have hcount := length_le_totalSize packets
  have hsize : (BitVec.ofNat 32 hfiPacketSize + BitVec.ofNat 32 packet.payload.length).toNat =
      packet.size := by
    rw [BitVec.toNat_add, BitVec.toNat_ofNat, BitVec.toNat_ofNat]
    omega
  rw [createPacket_eq, hmessage.size]
  dsimp only
  generalize BitVec.ofNat 32 hfiPacketSize + BitVec.ofNat 32 packet.payload.length = pktSize at *
  have hat := @packetAt_writePacket mem (hfiHeaderSize + totalSize packets) packet pktSize hsize
  have hbefore : ∀ i, i < hfiHeaderSize + totalSize packets →
      writePacket packet (hfiHeaderSize + totalSize packets) pktSize mem i = mem i :=
    fun i hi => writePacket_outside hsize (.inl hi)
  generalize writePacket packet (hfiHeaderSize + totalSize packets) pktSize mem = written at *
  have hfirst : wordAt written 0 = wordAt mem 0 := wordAt_congr fun i hi => hbefore _ (by omega)
  have hnum : wordAt written 28 = wordAt mem 28 := wordAt_congr fun i hi => hbefore _ (by omega)
  have hbehind : ∀ w v i, hfiHeaderSize ≤ i →
      storeWord (storeWord written 28 w) 0 v i = written i := fun w v i hi => by
    rw [storeWord_outside (by omega), storeWord_outside (by omega)]
  refine ⟨?_, ?_, ?_⟩
  · have hpkt := hat.size
    rw [wordAt_storeWord, wordAt_storeWord_outside (by omega), wordAt_storeWord_outside (by omega),
      hfirst, BitVec.toNat_add, hpkt, hmessage.size, htotal, Nat.mod_eq_of_lt (by omega)]
    omega
  · rw [wordAt_storeWord_outside (by omega), wordAt_storeWord, hnum, BitVec.toNat_add,
      hmessage.count, List.length_append]
    exact Nat.mod_eq_of_lt (by simp; omega)
  · refine PacketsAt.append (hmessage.packets.congr fun i hle hlt => ?_) ?_
    · rw [hbehind _ _ i hle, hbefore i hlt]
    · exact hat.congr fun i hle _ => hbehind _ _ i (by omega)

theorem Message.createPackets (hmessage : Message mem packets) (packets' : List Gen2Packet)
    (hfits : hfiHeaderSize + totalSize (packets ++ packets') ≤ ifaceqCorePktSize) :
    Message (Gen2Message.createPackets packets' mem) (packets ++ packets') := by
  induction packets' generalizing mem packets with
  | nil =>
      rw [List.append_nil]
      exact hmessage
  | cons packet rest ih =>
      have hsplit : packets ++ packet :: rest = (packets ++ [packet]) ++ rest :=
        List.append_cons packets packet rest
      rw [hsplit] at hfits ⊢
      refine ih (hmessage.createPacket ?_) hfits
      rw [totalSize_append] at hfits
      omega

/-! ### Reading it back -/

theorem PacketsAt.validate (hpackets : PacketsAt mem pkt packets)
    (hfits : pkt + totalSize packets ≤ ifaceqCorePktSize) :
    (validatePackets packets.length pkt).run mem = 0 := by
  induction packets generalizing pkt with
  | nil => rfl
  | cons packet rest ih =>
      have hP : hfiPacketSize = 32 := rfl
      have hlength : packet.size = hfiPacketSize + packet.payload.length := rfl
      rw [totalSize_cons] at hfits
      have hsize := hpackets.1.size
      have hvalid : (irisHfiGen2ValidatePacket pkt).run mem = 0 :=
        validatePacket_iff.2 ⟨by omega, by omega⟩
      have hrest := ih hpackets.2 (by omega)
      rw [List.length_cons, validatePackets, run_bind, hvalid, if_neg (not_not.2 rfl), run_bind,
        pktSize, run_u32, hsize]
      exact hrest

theorem PacketAt.read (hpacket : PacketAt mem pkt packet) : (readPacket pkt).run mem = packet := by
  have hlength : (wordAt mem pkt).toNat - hfiPacketSize = packet.payload.length := by
    rw [hpacket.size, Gen2Packet.size, Nat.add_sub_cancel_left]
  simp only [readPacket, pktSize, pktType, pktFlags, pktPayloadInfo, pktPort, pktId, run_bind,
    run_u32, run_pure, hlength, run_bytes hpacket.payload, hpacket.type, hpacket.flags,
    hpacket.payloadInfo, hpacket.port, hpacket.packetId]

theorem PacketsAt.read (hpackets : PacketsAt mem pkt packets) :
    (readPackets packets.length pkt).run mem = packets := by
  induction packets generalizing pkt with
  | nil => rfl
  | cons packet rest ih =>
      rw [List.length_cons, readPackets, run_bind, hpackets.1.read, run_bind, pktSize, run_u32,
        hpackets.1.size, run_bind, ih hpackets.2, run_pure]

theorem Message.validate (hmessage : Message mem packets) (hne : packets ≠ [])
    (hfits : hfiHeaderSize + totalSize packets ≤ ifaceqCorePktSize) :
    irisHfiGen2ValidateHdrPacket.run mem = 0 := by
  obtain ⟨packet, rest, rfl⟩ := List.exists_cons_of_ne_nil hne
  have hsize := hmessage.size
  rw [totalSize_cons, Gen2Packet.size] at hsize
  rw [irisHfiGen2ValidateHdrPacket, run_bind, hdrSize, run_u32, if_neg (by omega), run_bind,
    hdrNumPackets, run_u32, hmessage.count]
  exact hmessage.packets.validate hfits

theorem Message.read (hmessage : Message mem packets) : readMessage.run mem = packets := by
  rw [readMessage, run_bind, hdrNumPackets, run_u32, hmessage.count]
  exact hmessage.packets.read

/-- **Round trip.** A message of at least one packet that fits in a response counts its bytes and
its packets, is valid, and holds the packets in the order in which they were made. -/
theorem create_read (sessionId headerId : BitVec 32) (mem : Memory) (packets : List Gen2Packet)
    (hne : packets ≠ []) (hfits : hfiHeaderSize + totalSize packets ≤ ifaceqCorePktSize) :
    let built := createPackets packets (irisHfiGen2CreateHeader sessionId headerId mem)
    (hdrSize.run built).toNat = hfiHeaderSize + totalSize packets ∧
      (hdrNumPackets.run built).toNat = packets.length ∧
      irisHfiGen2ValidateHdrPacket.run built = 0 ∧
      readMessage.run built = packets := by
  intro built
  have hmessage : Message built packets :=
    (createHeader_message sessionId headerId mem).createPackets packets hfits
  exact ⟨hmessage.size, hmessage.count, hmessage.validate hne hfits, hmessage.read⟩

/-- A drain behind a resolution: the second packet has no payload. -/
theorem create_read_pair :
    let packets : List Gen2Packet :=
      [⟨hfiPropBitstreamResolution, 0, 0, hfiPortBitstream, 1, [0x38, 0x04, 0x80, 0x07]⟩,
        ⟨hfiCmdDrain, 0, hfiPayloadNone, hfiPortBitstream, 2, []⟩]
    let built := createPackets packets (irisHfiGen2CreateHeader 5 1 fun _ => 0xff)
    (hdrSize.run built).toNat = 100 ∧ (hdrNumPackets.run built).toNat = 2 ∧
      irisHfiGen2ValidateHdrPacket.run built = 0 ∧ readMessage.run built = packets :=
  create_read 5 1 (fun _ => 0xff) _ (List.cons_ne_nil _ _) (by decide)

end NabuIris.Gen2Message
