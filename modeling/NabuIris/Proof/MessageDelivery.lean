import NabuIris.Proof.CommandMessages
import NabuIris.Proof.QueueDelivery

/-!
# Messages arrive

The commands of the second generation, from the session or the core that builds them to the firmware
that reads them: the core and any number of sessions share the command queue, and each message is
read as the packets that it was built of.
-/

namespace NabuIris.Gen2Command

open Lib Lib.Reading Gen2Message Queue

/-! ### Reading -/

/-- The firmware reads a message as the response side would. -/
def takeMessage (buf : PacketBuf) : List Gen2Message.Gen2Packet :=
  readMessage.run fun i => (buf.byte i).toBitVec

/-- What comes after the message is not read. -/
theorem takeMessage_copied {mem : Memory} {packets : List Gen2Message.Gen2Packet}
    (hmessage : Message mem packets) (cells : Nat → UInt8) :
    takeMessage ⟨Region.store cells 0 (Region.load (fun i => .ofBitVec (mem i)) 0
      (UInt32.ofBitVec (wordAt mem 0)).toNat)⟩ = packets := by
  refine (hmessage.congr fun i hi => ?_).read
  have hsize : i < (UInt32.ofBitVec (wordAt mem 0)).toNat := by
    rw [UInt32.toNat_ofBitVec, hmessage.size]
    exact hi
  have hlen : i < (Region.load (fun i => .ofBitVec (mem i)) 0
      (UInt32.ofBitVec (wordAt mem 0)).toNat).length := by
    rwa [Region.length_load]
  change (Region.store _ _ _ i).toBitVec = _
  rw [← Nat.zero_add i, Region.store_inside hlen, ← List.getD_eq_getElem _ 0 hlen,
    Region.getD_load _ _ hsize]

/-! ### The host -/

/-- A run of a session has handed the message over. -/
def HandedOver (m : Written) : Prop :=
  ∃ (env : QueueEnv) (tables : ParamTables) (s s' : Session)
    (ops : List (CommandInst × SessionOp)) (rets : List Int),
    tables.Fit ∧ s.written = [] ∧ Admits (sessionStep env tables) Ready s ops ∧
      exec (sessionStep env tables) s ops = some (rets, s') ∧ m ∈ s'.written

theorem HandedOver.carries {m : Written} (hm : HandedOver m) : ∃ packet, m.Carries packet := by
  obtain ⟨env, tables, s, s', ops, rets, htables, hstart, hops, hexec, hmem⟩ := hm
  have hnone : Built s := by
    intro m hm
    rw [hstart] at hm
    exact absurd hm List.not_mem_nil
  obtain ⟨rets', s'', hexec', hbuilt⟩ :=
    exec_of_admits (fun s op _ hbuilt hready =>
      sessionStep_built htables hready.ofDriver hready.packet hbuilt) hnone hops
  obtain ⟨-, rfl⟩ := Prod.mk.inj (Option.some.inj (hexec.symm.trans hexec'))
  exact hbuilt m hmem

/-- `iris_hfi_queue_cmd_write(inst->core, packet, packet->size)` -/
def sessionParcel (m : Written) (hm : HandedOver m) : Parcel takeMessage where
  length := packetAlloc
  packet := m.buffer
  packetSize := .ofBitVec m.size
  means := readMessage.run m.message
  valid := by
    obtain ⟨packet, hcarries⟩ := hm.carries
    exact hcarries.validSize
  sizeWord := by
    obtain ⟨packet, hcarries⟩ := hm.carries
    exact m.wordAt_buffer hcarries.size
  taken := by
    obtain ⟨packet, hcarries⟩ := hm.carries
    rw [hcarries.read, hcarries.size]
    exact takeMessage_copied hcarries.message

theorem CoreCommand.allocated_valid (c : CoreCommand) :
    4 ∣ c.allocated ∧ 4 ≤ c.allocated ∧ c.allocated ≤ Queue.ifaceqCorePktSize := by
  have hsizes : ∀ n ∈ [sysInitPktSize, sysNoPayloadPktSize, sysIfpcPktSize],
      4 ∣ n ∧ 4 ≤ n ∧ n ≤ Queue.ifaceqCorePktSize := by decide
  refine hsizes c.allocated ?_
  cases c <;> simp [allocated]

/-- `iris_hfi_queue_cmd_write_locked(core, hdr, hdr->size)` -/
def CoreCommand.parcel (headerId packetId : U32) (c : CoreCommand) : Parcel takeMessage where
  length := c.allocated
  packet := ⟨fun i => .ofBitVec (c.message headerId packetId i)⟩
  packetSize := .ofBitVec (wordAt (c.message headerId packetId) 0)
  means := readMessage.run (c.message headerId packetId)
  valid := by
    obtain ⟨hdvd, hge, hle⟩ := c.allocated_valid
    refine ⟨?_, ?_, ?_, ?_⟩ <;> rw [UInt32.toNat_ofBitVec, coreMessages_fill]
    · exact hdvd
    · exact hge
    · exact hle
  sizeWord := wordAt_ofBitVec _
  taken := by
    obtain ⟨packets, hmessage, -⟩ := c.message_packets headerId packetId
    rw [hmessage.read]
    exact takeMessage_copied hmessage

inductive HostMessage
  | session (m : Written) (handedOver : HandedOver m)
  | core (headerId packetId : U32) (c : CoreCommand)

namespace HostMessage

def parcel : HostMessage → Parcel takeMessage
  | session m handedOver => sessionParcel m handedOver
  | core headerId packetId c => c.parcel headerId packetId

/-- A session sends one packet at a time. -/
def numPackets : HostMessage → Nat
  | session _ _ => 1
  | core _ _ c => c.numPackets

theorem length_means (m : HostMessage) : m.parcel.means.length = m.numPackets := by
  cases m with
  | session m handedOver =>
      obtain ⟨packet, hcarries⟩ := handedOver.carries
      exact congrArg List.length hcarries.read
  | core headerId packetId c =>
      obtain ⟨packets, hmessage, hnum⟩ := c.message_packets headerId packetId
      exact (congrArg List.length hmessage.read).trans hnum

end HostMessage

/-- **Messages arrive.** From `iris_hfi_queues_init` on, the core and any sessions may send the
messages of their commands, the firmware may read at any time, and both may use the other two
queues: what the firmware reads, followed by what still lies in the ring, is what was built of the
accepted messages, each once and in their order, and every message has the packets of its sender,
one from a session. -/
theorem messages_arrive (legacyVpu5 : Bool) (core tableDaddr : UInt64)
    (table : QueueTable legacyVpu5) (ops : List (DeliveryOp HostMessage))
    (hdaddr : tableDaddr.toNat + irisHfiQueueAllocSize legacyVpu5 ≤ dmaMask + 1)
    (hops : LineOk HostMessage.parcel ops) :
    ∃ answers table' packets,
      exec (sharedCall tableDaddr) (Queue.irisHfiQueuesInit legacyVpu5 core tableDaddr table)
          (ops.map (DeliveryOp.call HostMessage.parcel)) = some (answers, table') ∧
        Represents packets ((irisHfiQueuePtr legacyVpu5 tableDaddr .cmdq).view table'.byte) ∧
        along (DeliveryOp.accepted HostMessage.parcel) ops answers =
          along (DeliveryOp.received takeMessage) ops answers ++ packets.map (meaning takeMessage) ∧
        ∀ message ∈ along (DeliveryOp.accepted HostMessage.parcel) ops answers,
          ∃ m, DeliveryOp.send m ∈ ops ∧ message = m.parcel.means ∧
            message.length = m.numPackets := by
  obtain ⟨answers, table', packets, hexec, hrep, hdelivered⟩ :=
    line_delivers core tableDaddr table hdaddr hops
  refine ⟨answers, table', packets, hexec, hrep, hdelivered, fun message hmessage => ?_⟩
  obtain ⟨op, hop, answer, haccepted⟩ := mem_along hmessage
  obtain ⟨m, rfl, rfl⟩ := DeliveryOp.of_mem_accepted haccepted
  exact ⟨m, hop, rfl, m.length_means⟩

/-- A session with its buffer that is asked to pause. -/
theorem handedOver_pause : ∃ m, HandedOver m :=
  ⟨_, fun _ => 0, sm8550Tables, { freshSession with packet := some fun _ => 0 }, _,
    [(smallDecoder .streaming, .pause .output)], _, sm8550Tables_fit, rfl,
    ⟨⟨trivial, fun _ => rfl⟩, fun _ _ _ => trivial⟩, rfl, List.mem_cons_self⟩

/-- The core prepares for the power collapse, and a session pauses. -/
def pausedLine (m : HostMessage) : List (DeliveryOp HostMessage) :=
  [.send (.core 0 0 .pcPrep), .send m, .fetch ⟨fun _ => 0xff⟩]

theorem messages_arrive_paused : ∃ m : HostMessage, ∃ answers table' packets,
    exec (sharedCall 0x100000) (Queue.irisHfiQueuesInit false 0 0x100000 ⟨fun _ => 0xff⟩)
        ((pausedLine m).map (DeliveryOp.call HostMessage.parcel)) = some (answers, table') ∧
      Represents packets ((irisHfiQueuePtr false 0x100000 .cmdq).view table'.byte) ∧
      along (DeliveryOp.accepted HostMessage.parcel) (pausedLine m) answers =
        along (DeliveryOp.received takeMessage) (pausedLine m) answers ++
          packets.map (meaning takeMessage) ∧
      ∀ message ∈ along (DeliveryOp.accepted HostMessage.parcel) (pausedLine m) answers,
        ∃ m', DeliveryOp.send m' ∈ pausedLine m ∧ message = m'.parcel.means ∧
          message.length = m'.numPackets := by
  obtain ⟨message, hmessage⟩ := handedOver_pause
  have hlarge : totalBytes [] + Queue.ifaceqCorePktSize + Queue.ifaceqCorePktSize <
      ifaceqQueueSize := by decide
  have hroom : ∀ m m' : HostMessage, HasRoom
      (sharedFifo [] (DeliveryOp.call HostMessage.parcel (.send m)).2).2
      (DeliveryOp.call HostMessage.parcel (.send m')).2 := fun m m' =>
    ((totalBytes_send_le _ m').trans (Nat.add_le_add_right (totalBytes_send_le [] m) _)).trans_lt
      hlarge
  refine ⟨.session message hmessage, messages_arrive false 0 0x100000 ⟨fun _ => 0xff⟩ _ (by decide)
    ⟨⟨hasRoom_of_empty (.send _) rfl, hroom _ _, hasRoom_read (hroom _ _), trivial⟩,
      fun k hk => ?_⟩⟩
  cases k with
  | cmdq => exact absurd rfl hk
  | msgq => exact trivial
  | dbgq => exact trivial

end NabuIris.Gen2Command
