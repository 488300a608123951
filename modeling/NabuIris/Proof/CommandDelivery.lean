import NabuIris.Lib.Wire
import NabuIris.Proof.CommandPackets
import NabuIris.Proof.QueueDelivery

/-!
# Commands arrive

What the firmware takes out of the packets of the first generation is what the driver was asked to
tell, in the order in which the queue accepted it.
-/

namespace NabuIris.Gen1Command

open Lib Queue Region

/-- A packet of the driver, with what it is built for. -/
structure Sent where
  command : HostCommand
  packet : CommandPacket
  built : command.packet = some packet
  contained : command.Contained

/-- The firmware takes the words that the first one counts. -/
def takeCommand (buf : PacketBuf) : Option FirmwareCommand :=
  CommandPacket.parse ((words buf.byte ((wordAt buf.byte 0).toNat / 4)).map UInt32.toBitVec)

theorem CommandPacket.toNat_head {p : CommandPacket} (hlen : 0 < p.length) :
    (p.get ⟨0, hlen⟩).toNat = p.size := by
  cases p with
  | nil => exact absurd hlen (Nat.lt_irrefl 0)
  | cons w rest => rfl

namespace Sent

variable (s : Sent)

/-- The packet as an object of the host. -/
def region : Region (4 * (s.packet.map UInt32.ofBitVec).length) :=
  ofWords (s.packet.map UInt32.ofBitVec)

theorem tells : s.packet.Tells s.command.asks := packet_tells s.contained s.built

theorem toNat_size : (UInt32.ofNat s.packet.size).toNat = s.packet.size := by
  have hle := s.tells.whole.le
  rw [UInt32.toNat_ofNat', Nat.mod_eq_of_lt (by omega)]

theorem size_eq : 4 * (s.packet.size / 4) = s.packet.size :=
  Nat.mul_div_cancel' s.tells.whole.dvd

theorem words_le : s.packet.size / 4 ≤ (s.packet.map UInt32.ofBitVec).length := by
  have hinside := s.tells.whole.inside
  rw [List.length_map]
  omega

theorem words_copied (cells : Nat → UInt8) :
    words (store cells 0 (load s.region.byte 0 s.packet.size)) (s.packet.size / 4) =
      (s.packet.map UInt32.ofBitVec).take (s.packet.size / 4) := by
  have hcopied := Region.words_copied cells s.words_le
  rwa [s.size_eq] at hcopied

/-- The first word is the size. -/
theorem wordAt_region : wordAt s.region.byte 0 = .ofNat s.packet.size := by
  have hge := s.tells.whole.ge
  have hinside := s.tells.whole.inside
  have hlen : 0 < s.packet.length := by omega
  have hlen' : 0 < (s.packet.map UInt32.ofBitVec).length := by rwa [List.length_map]
  have hword := wordAt_ofWords hlen'
  rw [Nat.mul_zero] at hword
  rw [region, hword, ← UInt32.toNat_inj, s.toNat_size, List.getElem_map]
  exact CommandPacket.toNat_head hlen

theorem wordAt_copied (cells : Nat → UInt8) :
    (wordAt (store cells 0 (load s.region.byte 0 s.packet.size)) 0).toNat = s.packet.size := by
  have hge := s.tells.whole.ge
  have hfront : wordAt (store cells 0 (load s.region.byte 0 s.packet.size)) 0 =
      wordAt s.region.byte 0 := by
    refine wordAt_congr_cells fun i _ hi => ?_
    have hlen : i < (load s.region.byte 0 s.packet.size).length := by
      rw [length_load]
      omega
    rw [← Nat.zero_add i, store_inside hlen, Nat.zero_add, ← List.getD_eq_getElem _ 0 hlen,
      getD_load _ _ (by omega), Nat.zero_add]
  rw [hfront, s.wordAt_region, s.toNat_size]

/-- A copy of the packet is taken as what was asked. -/
theorem takeCommand_copied (cells : Nat → UInt8) :
    takeCommand ⟨store cells 0 (load s.region.byte 0 s.packet.size)⟩ = s.command.asks := by
  unfold takeCommand
  rw [s.wordAt_copied, s.words_copied, ← List.map_take, List.map_map]
  have hid : UInt32.toBitVec ∘ UInt32.ofBitVec = id := rfl
  rw [hid, List.map_id]
  exact s.tells.parse

/-- `iris_hfi_queue_cmd_write(core, &pkt, pkt.hdr.size)` -/
def parcel : Parcel takeCommand where
  length := 4 * (s.packet.map UInt32.ofBitVec).length
  packet := s.region
  packetSize := .ofNat s.packet.size
  means := s.command.asks
  valid := by
    have hwhole := s.tells.whole
    refine ⟨?_, ?_, ?_, ?_⟩ <;> rw [s.toNat_size]
    · exact hwhole.dvd
    · exact le_trans (by decide) hwhole.ge
    · exact hwhole.le.trans (by decide)
    · rw [List.length_map]
      exact hwhole.inside
  sizeWord := s.wordAt_region
  taken := by
    rw [s.toNat_size]
    exact s.takeCommand_copied

end Sent

/-- **Commands arrive.** From `iris_hfi_queues_init` on, the driver may send any of its commands,
the firmware may read at any time, and both may use the other two queues: what the firmware takes
out of its buffers, followed by what still lies in the ring, is what the accepted commands ask for,
each once and in their order. -/
theorem commands_arrive (legacyVpu5 : Bool) (core tableDaddr : UInt64)
    (table : QueueTable legacyVpu5) (ops : List (DeliveryOp Sent))
    (hdaddr : tableDaddr.toNat + irisHfiQueueAllocSize legacyVpu5 ≤ dmaMask + 1)
    (hops : LineOk Sent.parcel ops) :
    ∃ answers table' packets,
      exec (sharedCall tableDaddr) (Queue.irisHfiQueuesInit legacyVpu5 core tableDaddr table)
          (ops.map (DeliveryOp.call Sent.parcel)) = some (answers, table') ∧
        Represents packets ((irisHfiQueuePtr legacyVpu5 tableDaddr .cmdq).view table'.byte) ∧
        along (DeliveryOp.accepted Sent.parcel) ops answers =
          along (DeliveryOp.received takeCommand) ops answers ++ packets.map (meaning takeCommand) ∧
        none ∉ along (DeliveryOp.accepted Sent.parcel) ops answers := by
  obtain ⟨answers, table', packets, hexec, hrep, hdelivered⟩ :=
    line_delivers core tableDaddr table hdaddr hops
  refine ⟨answers, table', packets, hexec, hrep, hdelivered, fun hnone => ?_⟩
  obtain ⟨op, -, answer, haccepted⟩ := mem_along hnone
  obtain ⟨s, -, hmeans⟩ := DeliveryOp.of_mem_accepted haccepted
  exact s.tells.ne_none hmeans.symm

/-- A session of a decoder. -/
def shortSession : CommandSession where
  sessionId := 0x1000
  domain := .decoder
  codec := .h264
  legacyVpu5 := true
  split := false

/-- A frame whose timestamp takes both words. -/
def shortInput : HfiBuffer where
  type := .input
  index := 2
  deviceAddr := 0x20000000
  bufferSize := 0x100000
  dataSize := 5000
  dataOffset := 0
  timestamp := 0x123456789a
  flags := 0
  below := by decide
  payload := by decide

/-- The start of the firmware, a frame of a session and the end of its stream; the firmware reads
the first two. -/
def shortLine : List (DeliveryOp Sent) :=
  [.send ⟨.sysInit, irisHfiGen1SysInit, rfl, trivial⟩, .fetch ⟨fun _ => 0xff⟩,
    .other .msgq (by decide) ⟨.host, .read ⟨fun _ => 0⟩⟩,
    .send ⟨.queueBuffer shortSession shortInput,
      irisHfiGen1QueueInputBuffer shortSession shortInput, rfl, trivial⟩,
    .fetch ⟨fun _ => 0xff⟩,
    .send ⟨.drain shortSession, irisHfiGen1SessionDrain shortSession, rfl, trivial⟩]

theorem commands_arrive_short :
    ∃ answers table' packets,
      exec (sharedCall 0x100000) (Queue.irisHfiQueuesInit true 0 0x100000 ⟨fun _ => 0xff⟩)
          (shortLine.map (DeliveryOp.call Sent.parcel)) = some (answers, table') ∧
        Represents packets ((irisHfiQueuePtr true 0x100000 .cmdq).view table'.byte) ∧
        along (DeliveryOp.accepted Sent.parcel) shortLine answers =
          along (DeliveryOp.received takeCommand) shortLine answers ++
            packets.map (meaning takeCommand) ∧
        none ∉ along (DeliveryOp.accepted Sent.parcel) shortLine answers := by
  have hempty : totalBytes [] < ifaceqQueueSize := by decide
  have hsend : ∀ sent, HasRoom [] (DeliveryOp.call Sent.parcel (.send sent)).2 :=
    fun _ => hasRoom_of_empty _ rfl
  refine commands_arrive true 0 0x100000 ⟨fun _ => 0xff⟩ shortLine (by decide)
    ⟨⟨hsend _, hempty, hsend _, hempty, hsend _, trivial⟩, fun k hk => ?_⟩
  cases k with
  | cmdq => exact absurd rfl hk
  | msgq => exact ⟨⟨trivial, hempty⟩, trivial⟩
  | dbgq => exact trivial

end NabuIris.Gen1Command
