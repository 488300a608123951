import NabuIris.Lib.Align
import NabuIris.Lib.Parts
import NabuIris.Proof.QueueFifo

/-!
# The memory of the queue table (`iris_hfi_queues_init`)

The table header, the three queue headers and the three rings are one allocation. A pointer into it
is an offset here, and an access is checked against the allocation only: nothing but the offsets
keeps one queue out of another.
-/

namespace NabuIris.Queue

open Lib Region

def ifaceqNumq : Nat := 3

def sfrSize : Nat := 0x1000

def sz4k : Nat := 0x1000

def sz1m : Nat := 0x100000

/-- `dma_mask` of every platform; no allocation for the device ends above it. -/
def dmaMask : Nat := 0xe0000000 - 1

/-! ### Layout -/

/-! The fields of `struct iris_hfi_queue_header` by their offset. -/

namespace Header

def status : Nat := 0
def startAddr : Nat := 4
def queueType : Nat := 8
def headerType : Nat := 10
def qSize : Nat := 12
def pktSize : Nat := 16
def pktDropCnt : Nat := 20
def rxWm : Nat := 24
def txWm : Nat := 28
def rxReq : Nat := 32
def txReq : Nat := 36
def rxIrqStatus : Nat := 40
def txIrqStatus : Nat := 44
def readIdx : Nat := 48
def writeIdx : Nat := 52
def size : Nat := 56

end Header

/-! The fields of the two table headers; the first six are common to both. -/

namespace TableHeader

def version : Nat := 0
def size : Nat := 4
def qhdr0Offset : Nat := 8
def qhdrSize : Nat := 12
def numQ : Nat := 16
def numActiveQ : Nat := 20
def deviceAddr : Nat := 24
def name : Nat := 32

end TableHeader

/-- `offsetof(..., q_hdr)`: the legacy header has neither the host pointer nor the name. -/
def qHdrOffset (legacyVpu5 : Bool) : Nat := if legacyVpu5 then 24 else 288

/-- `sizeof` of the table header -/
def irisHfiQueueTableSize (legacyVpu5 : Bool) : Nat :=
  qHdrOffset legacyVpu5 + ifaceqNumq * Header.size

def irisHfiQueueAllocSize (legacyVpu5 : Bool) : Nat :=
  let queueSize := alignUp sz4k (irisHfiQueueTableSize legacyVpu5 + ifaceqQueueSize * ifaceqNumq)
  if legacyVpu5 then alignUp sz1m (sfrSize + queueSize) else queueSize

/-- `struct iris_iface_q_info`, with its two pointers as offsets. -/
structure IfaceQPtr where
  qhdr : Nat
  deviceAddr : UInt64
  kernelVaddr : Nat
deriving DecidableEq, Repr

abbrev QueueTable (legacyVpu5 : Bool) := Region (irisHfiQueueAllocSize legacyVpu5)

/-! ### Writing and reading through the pointers -/

section Access

variable {size : Nat}

def irisHfiQueueWriteAt {n : Nat} (table : Region size) (qinfo : IfaceQPtr) (packet : Region n)
    (packetSize : UInt32) : Option (Int × Region size) := do
  let queueSize : UInt32 := .ofNat ifaceqQueueSize
  let writeIdx := (← table.word (qinfo.qhdr + Header.writeIdx)) * 4
  let readIdx := (← table.word (qinfo.qhdr + Header.readIdx)) * 4
  let emptySpace :=
    if writeIdx < readIdx then readIdx - writeIdx else queueSize - (writeIdx - readIdx)
  if emptySpace < packetSize then
    some (-enospc, table)
  else
    let table ← table.setWord (qinfo.qhdr + Header.txReq) 0
    let newWriteIdx := writeIdx + packetSize
    if queueSize < writeIdx then
      some (-einval, table)
    else if newWriteIdx < queueSize then
      let table ← table.memcpy (qinfo.kernelVaddr + writeIdx.toNat) packet 0 packetSize.toNat
      let table ← table.setWord (qinfo.qhdr + Header.writeIdx) (newWriteIdx / 4)
      some (0, table)
    else
      let residue := newWriteIdx - queueSize
      let table ← table.memcpy (qinfo.kernelVaddr + writeIdx.toNat) packet 0
        (packetSize - residue).toNat
      let table ← table.memcpy qinfo.kernelVaddr packet (packetSize - residue).toNat residue.toNat
      let table ← table.setWord (qinfo.qhdr + Header.writeIdx) (residue / 4)
      some (0, table)

def irisHfiQueueReadAt (table : Region size) (qinfo : IfaceQPtr) (packet : PacketBuf) :
    Option (Int × Region size × PacketBuf) := do
  let queueSize : UInt32 := .ofNat ifaceqQueueSize
  let writeIdx := (← table.word (qinfo.qhdr + Header.writeIdx)) * 4
  let readIdx := (← table.word (qinfo.qhdr + Header.readIdx)) * 4
  let queueType := halfAt table.byte (qinfo.qhdr + Header.queueType)
  let receiveRequest := if queueType = IfaceQueue.msgq.id then 1 else 0
  let consume (newReadIdx : UInt32) : Option (Region size) := do
    let table ← table.setWord (qinfo.qhdr + Header.rxReq) receiveRequest
    table.setWord (qinfo.qhdr + Header.readIdx) (newReadIdx / 4)
  if readIdx = writeIdx then
    let table ← table.setWord (qinfo.qhdr + Header.rxReq) receiveRequest
    some (-enodata, table, packet)
  else if queueSize - 4 < readIdx then
    some (-enodata, table, packet)
  else
    let packetSize ← table.word (qinfo.kernelVaddr + readIdx.toNat)
    if packetSize = 0 then
      some (-einval, table, packet)
    else
      let newReadIdx := readIdx + packetSize
      if packetSize ≤ .ofNat ifaceqCorePktSize then
        if newReadIdx < queueSize then
          let packet ← packet.memcpy 0 table (qinfo.kernelVaddr + readIdx.toNat) packetSize.toNat
          let table ← consume newReadIdx
          some (0, table, packet)
        else
          let residue := newReadIdx - queueSize
          let packet ← packet.memcpy 0 table (qinfo.kernelVaddr + readIdx.toNat)
            (packetSize - residue).toNat
          let packet ← packet.memcpy (packetSize - residue).toNat table qinfo.kernelVaddr
            residue.toNat
          let table ← consume residue
          some (0, table, packet)
      else
        let table ← consume writeIdx
        some (-ebadmsg, table, packet)

end Access

/-! ### Setting the table up -/

/-- The stores of `iris_hfi_queue_set_header` in order. -/
def setHeaderStores (queueId : IfaceQueue) (deviceAddr : UInt64) : List (Nat × List UInt8) :=
  [(Header.status, wordBytes 0x1),
    (Header.startAddr, wordBytes deviceAddr.toUInt32),
    (Header.headerType, halfBytes ifaceqDfltQhdr),
    (Header.queueType, halfBytes queueId.id),
    (Header.qSize, wordBytes (.ofNat (ifaceqQueueSize / 4))),
    (Header.pktSize, wordBytes 0),
    (Header.rxWm, wordBytes 0x1),
    (Header.txWm, wordBytes 0x1),
    (Header.rxReq, wordBytes 0x1),
    (Header.txReq, wordBytes 0x0),
    (Header.rxIrqStatus, wordBytes 0x0),
    (Header.txIrqStatus, wordBytes 0x0),
    (Header.readIdx, wordBytes 0x0),
    (Header.writeIdx, wordBytes 0x0)] ++
  if queueId = .dbgq then [(Header.rxReq, wordBytes 0)] else []

def storeAll (base : Nat) (stores : List (Nat × List UInt8)) (cells : Nat → UInt8) :
    Nat → UInt8 :=
  stores.foldl (fun cells s => store cells (base + s.1) s.2) cells

/-- The pointers that `iris_hfi_queue_init` sets. -/
def irisHfiQueuePtr (legacyVpu5 : Bool) (tableDaddr : UInt64) (queueId : IfaceQueue) : IfaceQPtr :=
  let offset := irisHfiQueueTableSize legacyVpu5 + queueId.id.toNat * ifaceqQueueSize
  { qhdr := qHdrOffset legacyVpu5 + queueId.id.toNat * Header.size
    deviceAddr := tableDaddr + .ofNat offset
    kernelVaddr := offset }

def irisHfiQueueInit (legacyVpu5 : Bool) (tableDaddr : UInt64) (queueId : IfaceQueue)
    (cells : Nat → UInt8) : Nat → UInt8 :=
  let ifaceQ := irisHfiQueuePtr legacyVpu5 tableDaddr queueId
  storeAll ifaceQ.qhdr (setHeaderStores queueId ifaceQ.deviceAddr) cells

/-- `"msm_v4l2_vidc"` with its NUL. -/
def tableName : List UInt8 :=
  [109, 115, 109, 95, 118, 52, 108, 50, 95, 118, 105, 100, 99, 0]

/-- The stores to the table header in order; `core` is the host pointer left in `device_addr`. -/
def tableHeaderStores (legacyVpu5 : Bool) (core : UInt64) : List (Nat × List UInt8) :=
  [(TableHeader.version, wordBytes 0)] ++
  (if legacyVpu5 then []
    else
      [(TableHeader.deviceAddr,
          wordBytes core.toUInt32 ++ wordBytes (core >>> 32).toUInt32),
        (TableHeader.name, tableName)]) ++
  [(TableHeader.size, wordBytes (.ofNat (irisHfiQueueTableSize legacyVpu5))),
    (TableHeader.qhdr0Offset, wordBytes (.ofNat (qHdrOffset legacyVpu5))),
    (TableHeader.qhdrSize, wordBytes (.ofNat Header.size)),
    (TableHeader.numQ, wordBytes (.ofNat ifaceqNumq)),
    (TableHeader.numActiveQ, wordBytes (.ofNat ifaceqNumq))]

/-- What `iris_hfi_queues_init` leaves in the allocation, whatever was there before. -/
def irisHfiQueuesInit (legacyVpu5 : Bool) (core tableDaddr : UInt64)
    (table : QueueTable legacyVpu5) : QueueTable legacyVpu5 :=
  let zeroed := store table.byte 0 (List.replicate (irisHfiQueueAllocSize legacyVpu5) 0)
  let cells := irisHfiQueueInit legacyVpu5 tableDaddr .cmdq zeroed
  let cells := irisHfiQueueInit legacyVpu5 tableDaddr .msgq cells
  let cells := irisHfiQueueInit legacyVpu5 tableDaddr .dbgq cells
  ⟨storeAll 0 (tableHeaderStores legacyVpu5 core) cells⟩

/-! ### The two parties -/

inductive Party
  | host
  | firmware
deriving DecidableEq, Repr

/-- Where the other side finds a queue: it knows the device address of the table and nothing else
that the host set up. -/
def walkTable {size : Nat} (table : Region size) (tableDaddr : UInt64) (queueId : IfaceQueue) :
    Option IfaceQPtr := do
  let qhdr0Offset ← table.word TableHeader.qhdr0Offset
  let qhdrSize ← table.word TableHeader.qhdrSize
  let qhdr := qhdr0Offset.toNat + queueId.id.toNat * qhdrSize.toNat
  let startAddr ← table.word (qhdr + Header.startAddr)
  some
    { qhdr
      deviceAddr := startAddr.toUInt64
      kernelVaddr := startAddr.toNat - tableDaddr.toNat }

structure SharedCall where
  party : Party
  call : Call

/-- The host goes through its own pointers, the other side through the table. -/
def queueInfo {legacyVpu5 : Bool} (tableDaddr : UInt64) (table : QueueTable legacyVpu5) :
    Party → IfaceQueue → Option IfaceQPtr
  | .host, queueId => some (irisHfiQueuePtr legacyVpu5 tableDaddr queueId)
  | .firmware, queueId => walkTable table tableDaddr queueId

/-- A write or a read on one of the queues. -/
def sharedCall {legacyVpu5 : Bool} (tableDaddr : UInt64) (table : QueueTable legacyVpu5)
    (c : IfaceQueue × SharedCall) :
    Option ((IfaceQueue × Answer) × QueueTable legacyVpu5) := do
  let qinfo ← queueInfo tableDaddr table c.2.party c.1
  match c.2.call with
  | .write packet packetSize =>
      let (ret, table) ← irisHfiQueueWriteAt table qinfo packet packetSize
      some ((c.1, .wrote ret), table)
  | .read packet =>
      let (ret, table, packet) ← irisHfiQueueReadAt table qinfo packet
      some ((c.1, .read ret packet), table)

end NabuIris.Queue
