import NabuIris.Basic
import NabuIris.Lib.Region

/-!
# The shared HFI queues (`iris_hfi_queue.c`)

A queue is a header and a ring of `IFACEQ_QUEUE_SIZE` bytes, both in memory that host and firmware
share; `ring` is what `kernel_vaddr` points at. The header's two indices count 32-bit words.
Arithmetic on them is the source's 32-bit arithmetic, and the copies are bounds-checked, so that
`none` is an access outside the ring or outside the packet buffer.
-/

namespace NabuIris.Queue

open Lib

def ifaceqQueueSize : Nat := 1024 * 50 * 16

def ifaceqCorePktSize : Nat := 1024 * 4

def ifaceqDfltQhdr : UInt16 := 0x0101

inductive IfaceQueue
  | cmdq
  | msgq
  | dbgq
deriving DecidableEq, Repr

def IfaceQueue.id : IfaceQueue → UInt16
  | .cmdq => 0
  | .msgq => 1
  | .dbgq => 2

structure QueueHeader where
  status : UInt32
  startAddr : UInt32
  queueType : UInt16
  headerType : UInt16
  qSize : UInt32
  pktSize : UInt32
  pktDropCnt : UInt32
  rxWm : UInt32
  txWm : UInt32
  rxReq : UInt32
  txReq : UInt32
  rxIrqStatus : UInt32
  txIrqStatus : UInt32
  readIdx : UInt32
  writeIdx : UInt32
deriving DecidableEq, Repr

structure IfaceQInfo where
  qhdr : QueueHeader
  deviceAddr : UInt64
  ring : Region ifaceqQueueSize

abbrev PacketBuf := Region ifaceqCorePktSize

/-! ### Writing and reading a packet -/

/-- `empty_space` of `iris_hfi_queue_write`. -/
def QueueHeader.emptySpace (queue : QueueHeader) : UInt32 :=
  let writeIdx := queue.writeIdx * 4
  let readIdx := queue.readIdx * 4
  if writeIdx < readIdx then readIdx - writeIdx
  else .ofNat ifaceqQueueSize - (writeIdx - readIdx)

def irisHfiQueueWrite {n : Nat} (qinfo : IfaceQInfo) (packet : Region n) (packetSize : UInt32) :
    Option (Int × IfaceQInfo) :=
  let queue := qinfo.qhdr
  let queueSize : UInt32 := .ofNat ifaceqQueueSize
  let writeIdx := queue.writeIdx * 4
  if queue.emptySpace < packetSize then
    some (-enospc, qinfo)
  else
    let queue := { queue with txReq := 0 }
    let newWriteIdx := writeIdx + packetSize
    -- `write_ptr` against the two ends of the ring; the pointer arithmetic itself is 64-bit
    if queueSize < writeIdx then
      some (-einval, { qinfo with qhdr := queue })
    else if newWriteIdx < queueSize then do
      let ring ← qinfo.ring.memcpy writeIdx.toNat packet 0 packetSize.toNat
      some (0, { qinfo with qhdr := { queue with writeIdx := newWriteIdx / 4 }, ring })
    else do
      let residue := newWriteIdx - queueSize
      let ring ← qinfo.ring.memcpy writeIdx.toNat packet 0 (packetSize - residue).toNat
      let ring ← ring.memcpy 0 packet (packetSize - residue).toNat residue.toNat
      some (0, { qinfo with qhdr := { queue with writeIdx := residue / 4 }, ring })

def irisHfiQueueRead (qinfo : IfaceQInfo) (packet : PacketBuf) :
    Option (Int × IfaceQInfo × PacketBuf) :=
  let queue := qinfo.qhdr
  let queueSize : UInt32 := .ofNat ifaceqQueueSize
  let writeIdx := queue.writeIdx * 4
  let readIdx := queue.readIdx * 4
  let receiveRequest := if queue.queueType = IfaceQueue.msgq.id then 1 else 0
  let consume (newReadIdx : UInt32) : IfaceQInfo :=
    { qinfo with qhdr := { queue with rxReq := receiveRequest, readIdx := newReadIdx / 4 } }
  if readIdx = writeIdx then
    some (-enodata, { qinfo with qhdr := { queue with rxReq := receiveRequest } }, packet)
  else if queueSize - 4 < readIdx then
    some (-enodata, qinfo, packet)
  else do
    let packetSize ← qinfo.ring.word readIdx.toNat
    if packetSize = 0 then
      some (-einval, qinfo, packet)
    else
      let newReadIdx := readIdx + packetSize
      if packetSize ≤ .ofNat ifaceqCorePktSize then
        if newReadIdx < queueSize then do
          let packet ← packet.memcpy 0 qinfo.ring readIdx.toNat packetSize.toNat
          some (0, consume newReadIdx, packet)
        else do
          let residue := newReadIdx - queueSize
          let packet ← packet.memcpy 0 qinfo.ring readIdx.toNat (packetSize - residue).toNat
          let packet ← packet.memcpy (packetSize - residue).toNat qinfo.ring 0 residue.toNat
          some (0, consume residue, packet)
      else
        some (-ebadmsg, consume writeIdx, packet)

/-- The locked section of `iris_hfi_queue_msg_read`; every failed read becomes `-ENODATA`. -/
def irisHfiQueueMsgRead (state : CoreState) (messageQueue : IfaceQInfo) (pkt : PacketBuf) :
    Option (Int × IfaceQInfo × PacketBuf) :=
  if state ≠ .init then
    some (-einval, messageQueue, pkt)
  else
    (irisHfiQueueRead messageQueue pkt).map fun (ret, q, pkt) =>
      (if ret ≠ 0 then -enodata else 0, q, pkt)

def irisHfiQueueSetHeader (queueId : IfaceQueue) (ifaceQ : IfaceQInfo) : IfaceQInfo :=
  { ifaceQ with
    qhdr :=
      { ifaceQ.qhdr with
        status := 0x1
        startAddr := ifaceQ.deviceAddr.toUInt32
        headerType := ifaceqDfltQhdr
        queueType := queueId.id
        qSize := .ofNat (ifaceqQueueSize / 4)
        pktSize := 0
        rxWm := 0x1
        txWm := 0x1
        rxReq := if queueId = .dbgq then 0 else 0x1
        txReq := 0x0
        rxIrqStatus := 0x0
        txIrqStatus := 0x0
        readIdx := 0x0
        writeIdx := 0x0 } }

/-! ### Byte positions -/

def IfaceQInfo.readPos (q : IfaceQInfo) : Nat := 4 * q.qhdr.readIdx.toNat

def IfaceQInfo.writePos (q : IfaceQInfo) : Nat := 4 * q.qhdr.writeIdx.toNat

/-- The offsets as the source computes them, modulo `2 ^ 32`. -/
def IfaceQInfo.readByte (q : IfaceQInfo) : Nat := (q.qhdr.readIdx * 4).toNat

def IfaceQInfo.writeByte (q : IfaceQInfo) : Nat := (q.qhdr.writeIdx * 4).toNat

structure IfaceQInfo.InRange (q : IfaceQInfo) : Prop where
  read : q.readPos < ifaceqQueueSize
  write : q.writePos < ifaceqQueueSize

/-- Bytes the reader sees as outstanding, `(write_idx - read_idx) mod IFACEQ_QUEUE_SIZE`. -/
def IfaceQInfo.outstanding (q : IfaceQInfo) : Nat :=
  (q.writePos + ifaceqQueueSize - q.readPos) % ifaceqQueueSize

def IfaceQInfo.free (q : IfaceQInfo) : Nat := ifaceqQueueSize - q.outstanding

theorem irisHfiQueueSetHeader_inRange (queueId : IfaceQueue) (q : IfaceQInfo) :
    (irisHfiQueueSetHeader queueId q).InRange :=
  ⟨by simp [irisHfiQueueSetHeader, IfaceQInfo.readPos, ifaceqQueueSize],
    by simp [irisHfiQueueSetHeader, IfaceQInfo.writePos, ifaceqQueueSize]⟩

namespace IfaceQInfo

variable {q : IfaceQInfo}

theorem outstanding_lt (q : IfaceQInfo) : q.outstanding < ifaceqQueueSize :=
  Nat.mod_lt _ (by decide)

theorem outstanding_of_le (hq : q.InRange) (hle : q.readPos ≤ q.writePos) :
    q.outstanding = q.writePos - q.readPos := by
  have hw := hq.write
  rw [outstanding, show q.writePos + ifaceqQueueSize - q.readPos =
    q.writePos - q.readPos + ifaceqQueueSize by omega, Nat.add_mod_right,
    Nat.mod_eq_of_lt (by omega)]

theorem outstanding_of_lt (hq : q.InRange) (hlt : q.writePos < q.readPos) :
    q.outstanding = q.writePos + ifaceqQueueSize - q.readPos := by
  have hr := hq.read
  rw [outstanding, Nat.mod_eq_of_lt (by omega)]

theorem writePos_eq (hq : q.InRange) :
    q.writePos = (q.readPos + q.outstanding) % ifaceqQueueSize := by
  have hr := hq.read
  have hw := hq.write
  by_cases hle : q.readPos ≤ q.writePos
  · rw [outstanding_of_le hq hle, show q.readPos + (q.writePos - q.readPos) = q.writePos by omega,
      Nat.mod_eq_of_lt hw]
  · rw [outstanding_of_lt hq (by omega),
      show q.readPos + (q.writePos + ifaceqQueueSize - q.readPos) = q.writePos + ifaceqQueueSize by
        omega, Nat.add_mod_right, Nat.mod_eq_of_lt hw]

theorem outstanding_eq_zero_iff (hq : q.InRange) :
    q.outstanding = 0 ↔ q.readPos = q.writePos := by
  have hr := hq.read
  have hw := hq.write
  by_cases hle : q.readPos ≤ q.writePos
  · rw [outstanding_of_le hq hle]
    omega
  · rw [outstanding_of_lt hq (by omega)]
    omega

end IfaceQInfo

/-! ### The effect of a call, over the naturals -/

/-- The queue after `bs` was written at byte `pos`. -/
def IfaceQInfo.afterWriteAt (q : IfaceQInfo) (pos : Nat) (bs : List UInt8) : IfaceQInfo :=
  { q with
    qhdr :=
      { q.qhdr with
        txReq := 0
        writeIdx := .ofNat ((pos + bs.length) % ifaceqQueueSize / 4) }
    ring := ⟨Ring.put q.ring.byte ifaceqQueueSize pos bs⟩ }

/-- The queue after a write of `bs` was accepted. -/
def IfaceQInfo.afterWrite (q : IfaceQInfo) (bs : List UInt8) : IfaceQInfo :=
  { q with
    qhdr :=
      { q.qhdr with
        txReq := 0
        writeIdx := .ofNat ((q.writePos + bs.length) % ifaceqQueueSize / 4) }
    ring := ⟨Ring.put q.ring.byte ifaceqQueueSize q.writePos bs⟩ }

def IfaceQInfo.receiveRequest (q : IfaceQInfo) : UInt32 :=
  if q.qhdr.queueType = IfaceQueue.msgq.id then 1 else 0

/-- The queue after the reader moved to byte `pos`. -/
def IfaceQInfo.afterRead (q : IfaceQInfo) (pos : Nat) : IfaceQInfo :=
  { q with
    qhdr := { q.qhdr with rxReq := q.receiveRequest, readIdx := .ofNat (pos / 4) } }

def IfaceQInfo.headSize (q : IfaceQInfo) : Nat :=
  (Region.wordAt q.ring.byte q.readPos).toNat

/-- The size word that a read finds. -/
def IfaceQInfo.sizeWord (q : IfaceQInfo) : Nat :=
  (Region.wordAt q.ring.byte q.readByte).toNat

section Spec

variable {q : IfaceQInfo}

theorem toNat_writeIdx_mul (hq : q.InRange) : (q.qhdr.writeIdx * 4).toNat = q.writePos := by
  have hw := hq.write
  have hN : ifaceqQueueSize = 819200 := rfl
  simp only [IfaceQInfo.writePos] at *
  rw [UInt32.toNat_mul, show UInt32.toNat 4 = 4 from rfl, Nat.mod_eq_of_lt (by omega)]
  omega

theorem toNat_readIdx_mul (hq : q.InRange) : (q.qhdr.readIdx * 4).toNat = q.readPos := by
  have hr := hq.read
  have hN : ifaceqQueueSize = 819200 := rfl
  simp only [IfaceQInfo.readPos] at *
  rw [UInt32.toNat_mul, show UInt32.toNat 4 = 4 from rfl, Nat.mod_eq_of_lt (by omega)]
  omega

theorem toNat_sub_of_toNat_le {a b : UInt32} (hle : b.toNat ≤ a.toNat) :
    (a - b).toNat = a.toNat - b.toNat :=
  UInt32.toNat_sub_of_le _ _ (UInt32.le_iff_toNat_le.2 hle)

theorem toNat_queueSize : (UInt32.ofNat ifaceqQueueSize).toNat = ifaceqQueueSize := rfl

theorem div_four_eq {x : UInt32} {pos : Nat} (hx : x.toNat = pos) :
    x / 4 = .ofNat (pos / 4) := by
  rw [← hx, ← UInt32.toNat_inj, UInt32.toNat_div, UInt32.toNat_ofNat']
  have := x.toNat_lt
  rw [Nat.mod_eq_of_lt (by omega)]
  rfl

theorem toNat_emptySpace (hq : q.InRange) : q.qhdr.emptySpace.toNat = q.free := by
  have hw := toNat_writeIdx_mul hq
  have hr := toNat_readIdx_mul hq
  have hwlt := hq.write
  have hrlt := hq.read
  by_cases hlt : q.writePos < q.readPos
  · have hcond : q.qhdr.writeIdx * 4 < q.qhdr.readIdx * 4 := by
      rw [UInt32.lt_iff_toNat_lt, hw, hr]
      exact hlt
    rw [QueueHeader.emptySpace, if_pos hcond, toNat_sub_of_toNat_le (by omega), hw, hr,
      IfaceQInfo.free,
      IfaceQInfo.outstanding_of_lt hq hlt]
    omega
  · have hcond : ¬ q.qhdr.writeIdx * 4 < q.qhdr.readIdx * 4 := by
      rw [UInt32.lt_iff_toNat_lt, hw, hr]
      exact hlt
    have hdiff : (q.qhdr.writeIdx * 4 - q.qhdr.readIdx * 4).toNat = q.writePos - q.readPos := by
      rw [toNat_sub_of_toNat_le (by omega), hw, hr]
    rw [QueueHeader.emptySpace, if_neg hcond,
      toNat_sub_of_toNat_le (by rw [hdiff, toNat_queueSize]; omega), hdiff, toNat_queueSize,
      IfaceQInfo.free, IfaceQInfo.outstanding_of_le hq (by omega)]

/-- A packet that fits is stored clockwise from the writer, unless the free bytes fall short or the
writer is outside. -/
theorem irisHfiQueueWrite_any {n : Nat} {packet : Region n} {packetSize : UInt32}
    (hpacket : packetSize.toNat ≤ n) (hsize : packetSize.toNat ≤ ifaceqQueueSize)
    (hfit : q.writeByte ≤ ifaceqQueueSize →
      q.writeByte + packetSize.toNat < 2 * ifaceqQueueSize) :
    irisHfiQueueWrite q packet packetSize =
      if q.qhdr.emptySpace.toNat < packetSize.toNat then some (-enospc, q)
      else if ifaceqQueueSize < q.writeByte then
        some (-einval, { q with qhdr := { q.qhdr with txReq := 0 } })
      else some (0, q.afterWriteAt q.writeByte (Region.load packet.byte 0 packetSize.toNat)) := by
  have hw : (q.qhdr.writeIdx * 4).toNat = q.writeByte := rfl
  have hN : ifaceqQueueSize = 819200 := rfl
  have hinside : UInt32.ofNat ifaceqQueueSize < q.qhdr.writeIdx * 4 ↔
      ifaceqQueueSize < q.writeByte := by
    rw [UInt32.lt_iff_toNat_lt, toNat_queueSize, hw]
  simp only [irisHfiQueueWrite, UInt32.lt_iff_toNat_lt (b := packetSize), hinside,
    Option.bind_eq_bind]
  by_cases hfull : q.qhdr.emptySpace.toNat < packetSize.toNat
  · simp only [hfull, if_true]
  by_cases houtside : ifaceqQueueSize < q.writeByte
  · simp only [hfull, houtside, if_true, if_false]
  have hsum := hfit (Nat.not_lt.1 houtside)
  have hnew : (q.qhdr.writeIdx * 4 + packetSize).toNat = q.writeByte + packetSize.toNat := by
    rw [UInt32.toNat_add, hw, Nat.mod_eq_of_lt (by omega)]
  simp only [hfull, houtside, if_false]
  by_cases hwrap : q.writeByte + packetSize.toNat < ifaceqQueueSize
  · have hcond : q.qhdr.writeIdx * 4 + packetSize < .ofNat ifaceqQueueSize := by
      rw [UInt32.lt_iff_toNat_lt, toNat_queueSize, hnew]
      exact hwrap
    have hput : Region.store q.ring.byte q.writeByte
        (Region.load packet.byte 0 packetSize.toNat) =
          Ring.put q.ring.byte ifaceqQueueSize q.writeByte
            (Region.load packet.byte 0 packetSize.toNat) :=
      Ring.store_eq_put (by rw [Region.length_load]; omega)
    rw [if_pos hcond, hw, Region.memcpy_eq (by omega) (by omega),
      div_four_eq (hnew.trans (Nat.mod_eq_of_lt hwrap).symm), hput]
    simp [IfaceQInfo.afterWriteAt]
  · have hcond : ¬ q.qhdr.writeIdx * 4 + packetSize < .ofNat ifaceqQueueSize := by
      rw [UInt32.lt_iff_toNat_lt, toNat_queueSize, hnew]
      exact hwrap
    have hresidue : (q.qhdr.writeIdx * 4 + packetSize - .ofNat ifaceqQueueSize).toNat =
        q.writeByte + packetSize.toNat - ifaceqQueueSize := by
      rw [toNat_sub_of_toNat_le (by rw [hnew, toNat_queueSize]; omega), hnew, toNat_queueSize]
    have hfirst : (packetSize - (q.qhdr.writeIdx * 4 + packetSize - .ofNat ifaceqQueueSize)).toNat =
        ifaceqQueueSize - q.writeByte := by
      rw [toNat_sub_of_toNat_le (by rw [hresidue]; omega), hresidue]
      omega
    have hmod : (q.writeByte + packetSize.toNat) % ifaceqQueueSize =
        q.writeByte + packetSize.toNat - ifaceqQueueSize := by
      rw [Nat.mod_eq_sub_mod (by omega), Nat.mod_eq_of_lt (by omega)]
    have hsplit : Region.load packet.byte 0 packetSize.toNat =
        Region.load packet.byte 0 (ifaceqQueueSize - q.writeByte) ++
          Region.load packet.byte (ifaceqQueueSize - q.writeByte)
            (q.writeByte + packetSize.toNat - ifaceqQueueSize) := by
      have hparts : packetSize.toNat = (ifaceqQueueSize - q.writeByte) +
          (q.writeByte + packetSize.toNat - ifaceqQueueSize) := by omega
      conv_lhs => rw [hparts, Region.load_append, Nat.zero_add]
    have hput : Region.store (Region.store q.ring.byte q.writeByte
        (Region.load packet.byte 0 (ifaceqQueueSize - q.writeByte))) 0
          (Region.load packet.byte (ifaceqQueueSize - q.writeByte)
            (q.writeByte + packetSize.toNat - ifaceqQueueSize)) =
        Ring.put q.ring.byte ifaceqQueueSize q.writeByte
          (Region.load packet.byte 0 packetSize.toNat) := by
      rw [hsplit]
      exact Ring.store_split_eq_put (by rw [Region.length_load]; omega)
        (by rw [Region.length_load]; omega)
    rw [if_neg hcond, hw, hfirst, hresidue, Region.memcpy_eq (by omega) (by omega),
      Option.bind_some, Region.memcpy_eq (by omega) (by omega), Option.bind_some, hput,
      div_four_eq (hresidue.trans hmod.symm)]
    simp only [IfaceQInfo.afterWriteAt, Region.length_load]

/-- A write is refused when the free bytes fall short, and otherwise stores the packet clockwise
from the writer. -/
theorem irisHfiQueueWrite_eq {n : Nat} {packet : Region n} {packetSize : UInt32} (hq : q.InRange)
    (hpacket : packetSize.toNat ≤ n) :
    irisHfiQueueWrite q packet packetSize =
      if q.free < packetSize.toNat then some (-enospc, q)
      else some (0, q.afterWrite (Region.load packet.byte 0 packetSize.toNat)) := by
  have hw : q.writeByte = q.writePos := toNat_writeIdx_mul hq
  have hwlt := hq.write
  have hfreeLe : q.free ≤ ifaceqQueueSize := Nat.sub_le _ _
  by_cases hfull : q.free < packetSize.toNat
  · rw [if_pos hfull, irisHfiQueueWrite]
    simp only [UInt32.lt_iff_toNat_lt (b := packetSize), toNat_emptySpace hq, hfull, if_true]
  · rw [irisHfiQueueWrite_any hpacket (by omega) (by omega), toNat_emptySpace hq, if_neg hfull,
      if_neg hfull, hw, if_neg hwlt.not_gt]
    rfl

/-- A refused write changes nothing, whatever the indices are. -/
theorem eq_of_irisHfiQueueWrite_enospc {n : Nat} {q' : IfaceQInfo} {packet : Region n}
    {packetSize : UInt32} (hret : irisHfiQueueWrite q packet packetSize = some (-enospc, q')) :
    q' = q := by
  have hzero : (0 : Int) ≠ -enospc := by decide
  have heinval : -einval ≠ -enospc := by decide
  simp only [irisHfiQueueWrite, Option.bind_eq_bind] at hret
  split at hret
  · simpa using hret.symm
  split at hret
  · simp [heinval] at hret
  split at hret
  · simp [Option.bind_eq_some_iff, hzero] at hret
  · simp [Option.bind_eq_some_iff, hzero] at hret

/-- What a read does with the size word at the head: nothing when the queue is empty, the reader is
outside or the word is zero, drop everything when the word exceeds the packet buffer, and otherwise
deliver that many bytes and step over them. -/
theorem irisHfiQueueRead_any (q : IfaceQInfo) (packet : PacketBuf) :
    irisHfiQueueRead q packet =
      if q.readByte = q.writeByte then
        some (-enodata, { q with qhdr := { q.qhdr with rxReq := q.receiveRequest } }, packet)
      else if ifaceqQueueSize - 4 < q.readByte then
        some (-enodata, q, packet)
      else if q.sizeWord = 0 then
        some (-einval, q, packet)
      else if q.sizeWord ≤ ifaceqCorePktSize then
        some (0, q.afterRead ((q.readByte + q.sizeWord) % ifaceqQueueSize),
          ⟨Region.store packet.byte 0
            (Ring.view q.ring.byte ifaceqQueueSize q.readByte q.sizeWord)⟩)
      else
        some (-ebadmsg, q.afterRead q.writeByte, packet) := by
  have hr : (q.qhdr.readIdx * 4).toNat = q.readByte := rfl
  have hN : ifaceqQueueSize = 819200 := rfl
  have hP : ifaceqCorePktSize = 4096 := rfl
  have hempty : q.qhdr.readIdx * 4 = q.qhdr.writeIdx * 4 ↔ q.readByte = q.writeByte := by
    rw [← UInt32.toNat_inj]
    rfl
  have hinside : UInt32.ofNat ifaceqQueueSize - 4 < q.qhdr.readIdx * 4 ↔
      ifaceqQueueSize - 4 < q.readByte := by
    rw [UInt32.lt_iff_toNat_lt]
    rfl
  simp only [irisHfiQueueRead, hempty, hinside, hr, Option.bind_eq_bind]
  by_cases hre : q.readByte = q.writeByte
  · simp only [hre, if_true, IfaceQInfo.receiveRequest]
  by_cases houtside : ifaceqQueueSize - 4 < q.readByte
  · simp only [hre, houtside, if_true, if_false]
  have hword : q.readByte + 4 ≤ ifaceqQueueSize := by omega
  simp only [hre, houtside, if_false, Region.word_eq hword, Option.bind_some]
  have hzero : Region.wordAt q.ring.byte q.readByte = 0 ↔ q.sizeWord = 0 := by
    rw [← UInt32.toNat_inj, UInt32.toNat_zero]
    rfl
  have hsmall : Region.wordAt q.ring.byte q.readByte ≤ .ofNat ifaceqCorePktSize ↔
      q.sizeWord ≤ ifaceqCorePktSize := by
    rw [UInt32.le_iff_toNat_le]
    rfl
  simp only [hzero, hsmall]
  by_cases hz : q.sizeWord = 0
  · simp only [hz, if_true]
  by_cases hle : q.sizeWord ≤ ifaceqCorePktSize
  · have hnew : (q.qhdr.readIdx * 4 + Region.wordAt q.ring.byte q.readByte).toNat =
        q.readByte + q.sizeWord := by
      rw [UInt32.toNat_add, hr]
      exact Nat.mod_eq_of_lt (by change q.readByte + q.sizeWord < _; omega)
    simp only [hz, hle, if_false, if_true]
    by_cases hwrap : q.readByte + q.sizeWord < ifaceqQueueSize
    · have hcond : q.qhdr.readIdx * 4 + Region.wordAt q.ring.byte q.readByte <
          .ofNat ifaceqQueueSize := by
        rw [UInt32.lt_iff_toNat_lt, toNat_queueSize, hnew]
        exact hwrap
      have hload : Region.load q.ring.byte q.readByte q.sizeWord =
          Ring.view q.ring.byte ifaceqQueueSize q.readByte q.sizeWord :=
        Ring.load_eq_view _ (by omega)
      change (if _ then (packet.memcpy 0 q.ring q.readByte q.sizeWord).bind _ else _) = _
      rw [if_pos hcond, Region.memcpy_eq (by omega) (by omega), hload,
        div_four_eq (hnew.trans (Nat.mod_eq_of_lt hwrap).symm)]
      rfl
    · have hcond : ¬ q.qhdr.readIdx * 4 + Region.wordAt q.ring.byte q.readByte <
          .ofNat ifaceqQueueSize := by
        rw [UInt32.lt_iff_toNat_lt, toNat_queueSize, hnew]
        exact hwrap
      have hresidue : (q.qhdr.readIdx * 4 + Region.wordAt q.ring.byte q.readByte -
          .ofNat ifaceqQueueSize).toNat = q.readByte + q.sizeWord - ifaceqQueueSize := by
        rw [toNat_sub_of_toNat_le (by rw [hnew, toNat_queueSize]; omega), hnew, toNat_queueSize]
      have hfirst : (Region.wordAt q.ring.byte q.readByte - (q.qhdr.readIdx * 4 +
          Region.wordAt q.ring.byte q.readByte - .ofNat ifaceqQueueSize)).toNat =
            ifaceqQueueSize - q.readByte := by
        have hhead : (Region.wordAt q.ring.byte q.readByte).toNat = q.sizeWord := rfl
        rw [toNat_sub_of_toNat_le (by rw [hresidue, hhead]; omega), hresidue, hhead]
        omega
      have hmod : (q.readByte + q.sizeWord) % ifaceqQueueSize =
          q.readByte + q.sizeWord - ifaceqQueueSize := by
        rw [Nat.mod_eq_sub_mod (by omega), Nat.mod_eq_of_lt (by omega)]
      have hjoin : Region.store (Region.store packet.byte 0
          (Region.load q.ring.byte q.readByte (ifaceqQueueSize - q.readByte)))
            (ifaceqQueueSize - q.readByte)
            (Region.load q.ring.byte 0 (q.readByte + q.sizeWord - ifaceqQueueSize)) =
          Region.store packet.byte 0
            (Ring.view q.ring.byte ifaceqQueueSize q.readByte q.sizeWord) := by
        rw [← Ring.load_split_eq_view q.ring.byte (by omega) (by omega) (by omega),
          ← Region.store_append, Region.length_load, Nat.zero_add]
      rw [if_neg hcond, hfirst, hresidue, Region.memcpy_eq (by omega) (by omega),
        Option.bind_some, Region.memcpy_eq (by omega) (by omega), Option.bind_some, hjoin,
        div_four_eq (hresidue.trans hmod.symm)]
      rfl
  · have hdropped : q.qhdr.writeIdx * 4 / 4 = .ofNat (q.writeByte / 4) := div_four_eq rfl
    simp only [hz, hle, if_false]
    rw [hdropped]
    rfl

theorem irisHfiQueueRead_eq (hq : q.InRange) (packet : PacketBuf) :
    irisHfiQueueRead q packet =
      if q.readPos = q.writePos then
        some (-enodata, { q with qhdr := { q.qhdr with rxReq := q.receiveRequest } }, packet)
      else if q.headSize = 0 then
        some (-einval, q, packet)
      else if q.headSize ≤ ifaceqCorePktSize then
        some (0, q.afterRead ((q.readPos + q.headSize) % ifaceqQueueSize),
          ⟨Region.store packet.byte 0
            (Ring.view q.ring.byte ifaceqQueueSize q.readPos q.headSize)⟩)
      else
        some (-ebadmsg, q.afterRead q.writePos, packet) := by
  have hw : q.writeByte = q.writePos := toNat_writeIdx_mul hq
  have hr : q.readByte = q.readPos := toNat_readIdx_mul hq
  have hhead : q.sizeWord = q.headSize := by rw [IfaceQInfo.sizeWord, IfaceQInfo.headSize, hr]
  have hinside : ¬ ifaceqQueueSize - 4 < q.readPos := by
    have hrlt := hq.read
    have hN : ifaceqQueueSize = 819200 := rfl
    simp only [IfaceQInfo.readPos] at *
    omega
  rw [irisHfiQueueRead_any, hw, hr, hhead, if_neg hinside]

end Spec

end NabuIris.Queue
