import NabuIris.Gen2Message
import NabuIris.Lib.Writing

/-!
# Building a message of the second generation (`iris_hfi_gen2_packet.c`)

A message is built in place: a header, and packets one behind the other. Offsets start at the
header.
-/

namespace NabuIris.Gen2Message

open Lib Lib.Reading Lib.Writing

/-- The arguments of `iris_hfi_gen2_create_packet`, and what a reader finds in a packet. -/
structure Gen2Packet where
  type : BitVec 32
  flags : BitVec 32
  payloadInfo : BitVec 32
  port : BitVec 32
  packetId : BitVec 32
  payload : List (BitVec 8)
deriving DecidableEq, Repr

def irisHfiGen2CreateHeader (sessionId headerId : BitVec 32) (mem : Memory) : Memory :=
  let mem := clear mem 0 hfiHeaderSize
  let mem := storeWord mem 0 (BitVec.ofNat 32 hfiHeaderSize)
  let mem := storeWord mem 4 sessionId
  let mem := storeWord mem 8 headerId
  storeWord mem 28 0

def irisHfiGen2CreatePacket (packet : Gen2Packet) (mem : Memory) : Memory :=
  let pkt := (wordAt mem 0).toNat
  let pktSize := BitVec.ofNat 32 hfiPacketSize + BitVec.ofNat 32 packet.payload.length
  let mem := clear mem pkt pktSize.toNat
  let mem := storeWord mem pkt pktSize
  let mem := storeWord mem (pkt + 4) packet.type
  let mem := storeWord mem (pkt + 8) packet.flags
  let mem := storeWord mem (pkt + 12) packet.payloadInfo
  let mem := storeWord mem (pkt + 16) packet.port
  let mem := storeWord mem (pkt + 20) packet.packetId
  let mem := if packet.payload ≠ [] then store mem (pkt + hfiPacketSize) packet.payload else mem
  let mem := storeWord mem 28 (wordAt mem 28 + 1)
  storeWord mem 0 (wordAt mem 0 + wordAt mem pkt)

def createPackets (packets : List Gen2Packet) (mem : Memory) : Memory :=
  packets.foldl (fun mem packet => irisHfiGen2CreatePacket packet mem) mem

/-! ### Reading it back -/

def pktId (pkt : Nat) : Reading (BitVec 32) := u32 (pkt + 20)

def readPacket (pkt : Nat) : Reading Gen2Packet := do
  let size ← pktSize pkt
  let type ← pktType pkt
  let flags ← pktFlags pkt
  let payloadInfo ← pktPayloadInfo pkt
  let port ← pktPort pkt
  let packetId ← pktId pkt
  let payload ← bytes (size.toNat - hfiPacketSize) (pkt + hfiPacketSize)
  pure { type, flags, payloadInfo, port, packetId, payload }

/-- All packets, in the walk of the handlers. -/
def readPackets : Nat → Nat → Reading (List Gen2Packet)
  | 0, _ => pure []
  | n + 1, pkt => do
      let packet ← readPacket pkt
      let size ← pktSize pkt
      let rest ← readPackets n (pkt + size.toNat)
      pure (packet :: rest)

def readMessage : Reading (List Gen2Packet) := do
  let numPackets ← hdrNumPackets
  readPackets numPackets.toNat hfiHeaderSize

end NabuIris.Gen2Message
