import NabuIris.Lib.Run
import NabuIris.Proof.QueueOccupancy

/-!
# The ring is a FIFO of packets

The abstract queue is the list of accepted packets that no read has returned yet. A ring represents
such a list when the stretch from the reader to the writer holds the packets end to end. Every
write and read of a run keeps that relation and gives the answer of the list, as long as the list
stays short of the whole ring.
-/

namespace NabuIris.Queue

open Lib

inductive Call
  | write {n : Nat} (packet : Region n) (packetSize : UInt32)
  | read (packet : PacketBuf)

inductive Answer
  | wrote (ret : Int)
  | read (ret : Int) (packet : PacketBuf)

def irisHfiQueueCall (q : IfaceQInfo) : Call → Option (Answer × IfaceQInfo)
  | .write packet packetSize =>
      (irisHfiQueueWrite q packet packetSize).map fun (ret, q') => (.wrote ret, q')
  | .read packet =>
      (irisHfiQueueRead q packet).map fun (ret, q', packet') => (.read ret packet', q')

/-! ### The abstract queue -/

def totalBytes (packets : List (List UInt8)) : Nat := (packets.map List.length).sum

/-- What a call does to the list of packets in flight: a write appends its packet unless the ring
is too small for it, a read removes the oldest packet and copies it to the front of its buffer. -/
def fifoCall (packets : List (List UInt8)) : Call → Answer × List (List UInt8)
  | .write packet packetSize =>
      if totalBytes packets + packetSize.toNat ≤ ifaceqQueueSize then
        (.wrote 0, packets ++ [Region.load packet.byte 0 packetSize.toNat])
      else
        (.wrote (-enospc), packets)
  | .read buf =>
      match packets with
      | [] => (.read (-enodata) buf, [])
      | p :: rest => (.read 0 ⟨Region.store buf.byte 0 p⟩, rest)

/-- A packet names its own length in its first word. -/
structure ValidPacket (p : List UInt8) : Prop where
  dvd : 4 ∣ p.length
  ge : 4 ≤ p.length
  le : p.length ≤ ifaceqCorePktSize
  word : (Region.wordAt (fun i => p.getD i 0) 0).toNat = p.length

/-- The writer hands over well-formed packets and never fills the ring to the last byte. -/
def CallOk (packets : List (List UInt8)) (call : Call) : Prop :=
  (match call with
    | .write (n := n) packet packetSize =>
        ValidSize n packetSize ∧ Region.wordAt packet.byte 0 = packetSize
    | .read _ => True) ∧
  totalBytes (fifoCall packets call).2 < ifaceqQueueSize

@[simp]
theorem totalBytes_cons (p : List UInt8) (packets : List (List UInt8)) :
    totalBytes (p :: packets) = p.length + totalBytes packets := rfl

@[simp]
theorem totalBytes_append (packets : List (List UInt8)) (p : List UInt8) :
    totalBytes (packets ++ [p]) = totalBytes packets + p.length := by
  simp [totalBytes]

theorem totalBytes_eq_length_flatten (packets : List (List UInt8)) :
    totalBytes packets = packets.flatten.length := by
  simp [totalBytes]

/-! ### The representation -/

structure Represents (packets : List (List UInt8)) (q : IfaceQInfo) : Prop where
  inRange : q.InRange
  outstanding : q.outstanding = totalBytes packets
  bytes : Ring.view q.ring.byte ifaceqQueueSize q.readPos (totalBytes packets) = packets.flatten
  valid : ∀ p ∈ packets, ValidPacket p

theorem represents_setHeader (queueId : IfaceQueue) (q : IfaceQInfo) :
    Represents [] (irisHfiQueueSetHeader queueId q) where
  inRange := irisHfiQueueSetHeader_inRange queueId q
  outstanding :=
    (IfaceQInfo.outstanding_eq_zero_iff (irisHfiQueueSetHeader_inRange queueId q)).2 rfl
  bytes := rfl
  valid := by simp

namespace Represents

variable {packets rest : List (List UInt8)} {p : List UInt8} {q : IfaceQInfo}

theorem free_eq (hrep : Represents packets q) : q.free = ifaceqQueueSize - totalBytes packets := by
  rw [IfaceQInfo.free, hrep.outstanding]

/-- Appending a packet writes it behind the bytes already there. -/
theorem afterWrite (hrep : Represents packets q) (hp : ValidPacket p)
    (hfit : totalBytes packets + p.length < ifaceqQueueSize) :
    Represents (packets ++ [p]) (q.afterWrite p) where
  inRange := afterWrite_inRange hrep.inRange hp.dvd
  outstanding := by
    rw [outstanding_afterWrite hrep.inRange hp.dvd, hrep.outstanding, Nat.mod_eq_of_lt hfit,
      totalBytes_append]
  bytes := by
    have hwrite := IfaceQInfo.writePos_eq hrep.inRange
    rw [hrep.outstanding] at hwrite
    have hbefore : Ring.view (Ring.put q.ring.byte ifaceqQueueSize q.writePos p) ifaceqQueueSize
        q.readPos (totalBytes packets) = packets.flatten := by
      rw [hwrite, Ring.view_put_before hrep.inRange.read (by omega), hrep.bytes]
    have hself : Ring.view (Ring.put q.ring.byte ifaceqQueueSize q.writePos p) ifaceqQueueSize
        (q.readPos + totalBytes packets) p.length = p := by
      rw [← Ring.view_mod, ← hwrite, Ring.view_put_self hrep.inRange.write (by omega)]
    rw [totalBytes_append, Ring.view_add, readPos_afterWrite]
    change Ring.view (Ring.put _ _ _ _) _ _ _ ++ Ring.view (Ring.put _ _ _ _) _ _ _ = _
    rw [hbefore, hself, List.flatten_append, List.flatten_singleton]
  valid := by
    intro p' hmem
    rcases List.mem_append.1 hmem with hold | hnew
    · exact hrep.valid p' hold
    · rw [List.mem_singleton.1 hnew]
      exact hp

theorem view_head (hrep : Represents (p :: rest) q) :
    Ring.view q.ring.byte ifaceqQueueSize q.readPos p.length = p ∧
      Ring.view q.ring.byte ifaceqQueueSize (q.readPos + p.length) (totalBytes rest) =
        rest.flatten := by
  have hbytes := hrep.bytes
  rw [totalBytes_cons, totalBytes_eq_length_flatten, List.flatten_cons] at hbytes
  rw [totalBytes_eq_length_flatten]
  exact Ring.view_prefix hbytes

/-- The size word at the head is the length of the oldest packet: the reader is word-aligned, so
the word does not cross the end of the ring. -/
theorem headSize_eq (hrep : Represents (p :: rest) q) : q.headSize = p.length := by
  have hp := hrep.valid p (by simp)
  have hr := hrep.inRange.read
  have hN : ifaceqQueueSize = 819200 := rfl
  have hge := hp.ge
  have haligned : q.readPos + 4 ≤ ifaceqQueueSize := by
    simp only [IfaceQInfo.readPos] at *
    omega
  rw [IfaceQInfo.headSize, ← hp.word]
  congr 1
  refine Region.wordAt_congr ?_
  have hbyte : ∀ i < 4, q.ring.byte (q.readPos + i) = p.getD i 0 := by
    intro i hi
    have hview := congrArg (fun l => l.getD i 0) hrep.view_head.1
    have hlen : i < p.length := by omega
    simp only [Ring.view, List.getD_eq_getElem?_getD, List.getElem?_map, List.getElem?_range hlen,
      Option.map_some, Option.getD_some, Nat.mod_eq_of_lt (show q.readPos + i < ifaceqQueueSize by
        omega)] at hview
    rw [hview, List.getD_eq_getElem?_getD]
  refine List.map_congr_left fun i hi => ?_
  rw [List.mem_range] at hi
  rw [hbyte i hi, Nat.zero_add]

theorem afterRead (hrep : Represents (p :: rest) q) :
    Represents rest (q.afterRead ((q.readPos + p.length) % ifaceqQueueSize)) := by
  have hp := hrep.valid p (by simp)
  have hr := hrep.inRange.read
  have hw := hrep.inRange.write
  have hout := hrep.outstanding
  have hdvd := hp.dvd
  have hN : ifaceqQueueSize = 819200 := rfl
  have hlt := q.outstanding_lt
  rw [totalBytes_cons] at hout
  have hread : (q.afterRead ((q.readPos + p.length) % ifaceqQueueSize)).readPos =
      (q.readPos + p.length) % ifaceqQueueSize := by
    have hmod : (q.readPos + p.length) % ifaceqQueueSize < ifaceqQueueSize :=
      Nat.mod_lt _ (by decide)
    have hdvdPos : 4 ∣ (q.readPos + p.length) % ifaceqQueueSize := by
      simp only [IfaceQInfo.readPos, hN]
      omega
    change 4 * (UInt32.ofNat _).toNat = _
    rw [UInt32.toNat_ofNat', Nat.mod_eq_of_lt (by omega)]
    omega
  have hwrite : (q.afterRead ((q.readPos + p.length) % ifaceqQueueSize)).writePos =
      q.writePos := rfl
  refine ⟨⟨?_, hw⟩, ?_, ?_, fun p' hmem => hrep.valid p' (by simp [hmem])⟩
  · rw [hread]
    exact Nat.mod_lt _ (by decide)
  · rw [IfaceQInfo.outstanding] at hout hlt ⊢
    rw [hread, hwrite]
    simp only [hN] at *
    omega
  · rw [hread, Ring.view_mod]
    exact hrep.view_head.2

end Represents

/-! ### Each call answers for the list -/

theorem load_validPacket {n : Nat} {packet : Region n} {packetSize : UInt32}
    (hsize : ValidSize n packetSize) (hword : Region.wordAt packet.byte 0 = packetSize) :
    ValidPacket (Region.load packet.byte 0 packetSize.toNat) := by
  have hge := hsize.ge
  refine ⟨dvd_length_load packet hsize, ?_, ?_, ?_⟩
  · simpa using hsize.ge
  · simpa using hsize.le
  · rw [Region.length_load]
    conv_rhs => rw [← hword]
    congr 1
    refine Region.wordAt_congr (List.map_congr_left fun i hi => ?_)
    rw [List.mem_range] at hi
    have hbyte := Region.getD_load packet.byte 0 (show i < packetSize.toNat by omega)
    simpa only [Nat.zero_add] using hbyte

theorem call_refines_fifo (packets : List (List UInt8)) (q : IfaceQInfo) (call : Call)
    (hrep : Represents packets q) (hok : CallOk packets call) :
    ∃ q', irisHfiQueueCall q call = some ((fifoCall packets call).1, q') ∧
      Represents (fifoCall packets call).2 q' := by
  obtain ⟨hcall, hbelow⟩ := hok
  cases call with
  | write packet packetSize =>
      obtain ⟨hsize, hword⟩ := hcall
      have hlt := q.outstanding_lt
      rw [hrep.outstanding] at hlt
      by_cases hfit : totalBytes packets + packetSize.toNat ≤ ifaceqQueueSize
      · have hfree : packetSize.toNat ≤ q.free := by
          rw [hrep.free_eq]
          omega
        simp only [fifoCall, hfit, if_true, totalBytes_append, Region.length_load] at hbelow ⊢
        refine ⟨_, ?_, hrep.afterWrite (load_validPacket hsize hword) ?_⟩
        · rw [irisHfiQueueCall, irisHfiQueueWrite_of_le_free packet hrep.inRange hsize hfree]
          rfl
        · rw [Region.length_load]
          exact hbelow
      · have hfull : q.free < packetSize.toNat := by
          rw [hrep.free_eq]
          omega
        simp only [fifoCall, hfit, if_false]
        refine ⟨q, ?_, hrep⟩
        rw [irisHfiQueueCall, irisHfiQueueWrite_eq hrep.inRange hsize.fits, if_pos hfull]
        rfl
  | read buf =>
      cases packets with
      | nil =>
          have hempty : q.readPos = q.writePos :=
            (IfaceQInfo.outstanding_eq_zero_iff hrep.inRange).1 hrep.outstanding
          refine ⟨{ q with qhdr := { q.qhdr with rxReq := q.receiveRequest } }, ?_,
            ⟨⟨hrep.inRange.read, hrep.inRange.write⟩, hrep.outstanding, rfl, by simp [fifoCall]⟩⟩
          rw [irisHfiQueueCall, irisHfiQueueRead_eq hrep.inRange, if_pos hempty]
          rfl
      | cons p rest =>
          have hp := hrep.valid p (by simp)
          have hge := hp.ge
          have hhead := hrep.headSize_eq
          have hne : q.readPos ≠ q.writePos := by
            intro heq
            have hzero := (IfaceQInfo.outstanding_eq_zero_iff hrep.inRange).2 heq
            rw [hrep.outstanding, totalBytes_cons] at hzero
            omega
          refine ⟨_, ?_, hrep.afterRead⟩
          rw [irisHfiQueueCall, irisHfiQueueRead_eq hrep.inRange, if_neg hne, hhead,
            if_neg (by omega), if_pos hp.le, hrep.view_head.1]
          rfl

/-- **The ring refines the list.** From a fresh header, every run of writes of well-formed packets
and reads that keeps the packets in flight short of the whole ring gives the answers of the list
and ends in a ring that holds the packets still in flight; and a write that returns `-ENOSPC`
leaves the queue as it was. -/
theorem queue_refines_fifo (queueId : IfaceQueue) (q : IfaceQInfo) (calls : List Call)
    (hcalls : Throughout fifoCall CallOk [] calls) :
    (∃ q', exec irisHfiQueueCall (irisHfiQueueSetHeader queueId q) calls =
        some ((runOps fifoCall [] calls).1, q') ∧
      Represents (runOps fifoCall [] calls).2 q') ∧
    ∀ (s s' : IfaceQInfo) (n : Nat) (packet : Region n) (packetSize : UInt32),
      irisHfiQueueWrite s packet packetSize = some (-enospc, s') → s' = s :=
  ⟨exec_refines Represents call_refines_fifo (represents_setHeader queueId q) hcalls,
    fun _ _ _ _ _ hret => eq_of_irisHfiQueueWrite_enospc hret⟩

/-- An 8-byte packet: its size word and one word of payload. -/
def shortPacket : Region 8 := ⟨fun i => if i = 0 then 8 else if i < 4 then 0 else 0xab⟩

theorem queue_refines_fifo_short :
    (∃ q', exec irisHfiQueueCall (irisHfiQueueSetHeader .msgq zeroedQueue)
        [.write shortPacket 8, .read ⟨fun _ => 0⟩, .read ⟨fun _ => 0⟩] =
          some ((runOps fifoCall []
            [.write shortPacket 8, .read ⟨fun _ => 0⟩, .read ⟨fun _ => 0⟩]).1, q') ∧
      Represents (runOps fifoCall []
        [.write shortPacket 8, .read ⟨fun _ => 0⟩, .read ⟨fun _ => 0⟩]).2 q') ∧
    ∀ (s s' : IfaceQInfo) (n : Nat) (packet : Region n) (packetSize : UInt32),
      irisHfiQueueWrite s packet packetSize = some (-enospc, s') → s' = s :=
  queue_refines_fifo .msgq zeroedQueue _
    ⟨⟨⟨⟨by decide, by decide, by decide, by decide⟩, by decide⟩, by decide⟩,
      ⟨trivial, by decide⟩, ⟨trivial, by decide⟩, trivial⟩

end NabuIris.Queue
