import NabuIris.Queue

/-!
# Occupancy of the ring

Equal indices mean an empty queue to the reader. The writer compares the packet with the free space
by `empty_space < packet_size`, so it also accepts the packet that takes the last free byte, after
which the indices are equal and the whole ring has disappeared. That packet is the only one: every
other accepted write adds its own size to what the reader sees.
-/

namespace NabuIris.Queue

open Lib

/-- Queue states met from a fresh header on, by any calls. -/
inductive Reachable : IfaceQInfo → Prop
  | setHeader (queueId : IfaceQueue) (q : IfaceQInfo) : Reachable (irisHfiQueueSetHeader queueId q)
  | write {q q' : IfaceQInfo} {n : Nat} {packet : Region n} {packetSize : UInt32} {ret : Int} :
      Reachable q → irisHfiQueueWrite q packet packetSize = some (ret, q') → Reachable q'
  | read {q q' : IfaceQInfo} {packet packet' : PacketBuf} {ret : Int} :
      Reachable q → irisHfiQueueRead q packet = some (ret, q', packet') → Reachable q'

/-- A successful write adds the packet to what the reader sees as outstanding, and in particular
does not make the queue look empty. -/
def OccupancyLaw {n : Nat} (q : IfaceQInfo) (packet : Region n) (packetSize : UInt32) : Prop :=
  ∀ q', irisHfiQueueWrite q packet packetSize = some (0, q') →
    q'.outstanding = q.outstanding + packetSize.toNat ∧ q'.qhdr.readIdx ≠ q'.qhdr.writeIdx

/-- A packet the driver may hand to `iris_hfi_queue_write`. -/
structure ValidSize (n : Nat) (packetSize : UInt32) : Prop where
  dvd : 4 ∣ packetSize.toNat
  ge : 4 ≤ packetSize.toNat
  le : packetSize.toNat ≤ ifaceqCorePktSize
  fits : packetSize.toNat ≤ n

section AfterWrite

variable {q : IfaceQInfo} {bs : List UInt8}

@[simp]
theorem readPos_afterWrite (q : IfaceQInfo) (bs : List UInt8) :
    (q.afterWrite bs).readPos = q.readPos := rfl

theorem writePos_afterWrite (q : IfaceQInfo) {bs : List UInt8} (hdvd : 4 ∣ bs.length) :
    (q.afterWrite bs).writePos = (q.writePos + bs.length) % ifaceqQueueSize := by
  have hN : ifaceqQueueSize = 819200 := rfl
  have hmod : (q.writePos + bs.length) % ifaceqQueueSize < ifaceqQueueSize :=
    Nat.mod_lt _ (by decide)
  have hdvdPos : 4 ∣ (q.writePos + bs.length) % ifaceqQueueSize := by
    simp only [IfaceQInfo.writePos, hN]
    omega
  change 4 * (UInt32.ofNat _).toNat = _
  rw [UInt32.toNat_ofNat', Nat.mod_eq_of_lt (by omega)]
  omega

theorem afterWrite_inRange (hq : q.InRange) (hdvd : 4 ∣ bs.length) :
    (q.afterWrite bs).InRange := by
  refine ⟨hq.read, ?_⟩
  rw [writePos_afterWrite q hdvd]
  exact Nat.mod_lt _ (by decide)

/-- The reader's count after a write, before it is read modulo the ring. -/
theorem outstanding_afterWrite (hq : q.InRange) (hdvd : 4 ∣ bs.length) :
    (q.afterWrite bs).outstanding = (q.outstanding + bs.length) % ifaceqQueueSize := by
  have hr := hq.read
  have hN : ifaceqQueueSize = 819200 := rfl
  rw [IfaceQInfo.outstanding, writePos_afterWrite q hdvd, readPos_afterWrite,
    IfaceQInfo.outstanding]
  simp only [hN] at *
  omega

end AfterWrite

theorem idx_eq_iff_pos_eq (q : IfaceQInfo) :
    q.qhdr.readIdx = q.qhdr.writeIdx ↔ q.readPos = q.writePos := by
  rw [← UInt32.toNat_inj]
  simp only [IfaceQInfo.readPos, IfaceQInfo.writePos]
  omega

section Law

variable {n : Nat} {q : IfaceQInfo} {packet : Region n} {packetSize : UInt32}

theorem irisHfiQueueWrite_of_le_free (packet : Region n) (hq : q.InRange)
    (hsize : ValidSize n packetSize) (hfree : packetSize.toNat ≤ q.free) :
    irisHfiQueueWrite q packet packetSize =
      some (0, q.afterWrite (Region.load packet.byte 0 packetSize.toNat)) := by
  rw [irisHfiQueueWrite_eq hq hsize.fits, if_neg (by omega)]

theorem dvd_length_load (packet : Region n) (hsize : ValidSize n packetSize) :
    4 ∣ (Region.load packet.byte 0 packetSize.toNat).length := by
  rw [Region.length_load]
  exact hsize.dvd

/-- The packet that takes the last free byte makes the queue look empty. -/
theorem not_occupancyLaw_of_fills (hq : q.InRange) (hsize : ValidSize n packetSize)
    (hfills : packetSize.toNat = q.free) : ¬ OccupancyLaw q packet packetSize := by
  intro hlaw
  have hlt := q.outstanding_lt
  have hge := hsize.ge
  obtain ⟨hgrow, -⟩ := hlaw _ (irisHfiQueueWrite_of_le_free packet hq hsize (by omega))
  rw [outstanding_afterWrite hq (dvd_length_load packet hsize), Region.length_load, hfills,
    IfaceQInfo.free, show q.outstanding + (ifaceqQueueSize - q.outstanding) = ifaceqQueueSize by
      omega, Nat.mod_self] at hgrow
  omega

theorem occupancyLaw_of_not_fills (hq : q.InRange) (hsize : ValidSize n packetSize)
    (hfills : packetSize.toNat ≠ q.free) : OccupancyLaw q packet packetSize := by
  intro q' hret
  have hlt := q.outstanding_lt
  have hge := hsize.ge
  by_cases hfull : q.free < packetSize.toNat
  · rw [irisHfiQueueWrite_eq hq hsize.fits, if_pos hfull, Option.some.injEq, Prod.mk.injEq] at hret
    exact absurd hret.1 (by decide)
  · rw [irisHfiQueueWrite_of_le_free packet hq hsize (by omega), Option.some.injEq,
      Prod.mk.injEq] at hret
    obtain ⟨-, rfl⟩ := hret
    have hgrow : (q.afterWrite (Region.load packet.byte 0 packetSize.toNat)).outstanding =
        q.outstanding + packetSize.toNat := by
      rw [IfaceQInfo.free] at hfull hfills
      rw [outstanding_afterWrite hq (dvd_length_load packet hsize), Region.length_load,
        Nat.mod_eq_of_lt (by omega)]
    refine ⟨hgrow, fun heq => ?_⟩
    rw [idx_eq_iff_pos_eq,
      ← IfaceQInfo.outstanding_eq_zero_iff (afterWrite_inRange hq (dvd_length_load packet hsize)),
      hgrow] at heq
    omega

end Law

/-- **The occupancy law and its one exception.** An in-range queue keeps the law for a packet
exactly when the packet does not fill the ring to the last byte. -/
theorem occupancyLaw_iff {n : Nat} {q : IfaceQInfo} {packet : Region n} {packetSize : UInt32}
    (hq : q.InRange) (hsize : ValidSize n packetSize) :
    OccupancyLaw q packet packetSize ↔ packetSize.toNat ≠ ifaceqQueueSize - q.outstanding :=
  ⟨fun hlaw hfills => not_occupancyLaw_of_fills hq hsize hfills hlaw,
    occupancyLaw_of_not_fills hq hsize⟩

/-- The queue region as allocated, all zero. -/
def zeroedQueue : IfaceQInfo where
  qhdr := ⟨0, 0, 0, 0, 0, 0, 0, 0, 0, 0, 0, 0, 0, 0, 0⟩
  deviceAddr := 0
  ring := ⟨fun _ => 0⟩

theorem occupancyLaw_iff_fresh :
    OccupancyLaw (irisHfiQueueSetHeader .cmdq zeroedQueue) (⟨fun _ => 0⟩ : Region 8) 8 ↔
      (8 : UInt32).toNat ≠
        ifaceqQueueSize - (irisHfiQueueSetHeader .cmdq zeroedQueue).outstanding :=
  occupancyLaw_iff (irisHfiQueueSetHeader_inRange _ _)
    ⟨by decide, by decide, by decide, by decide⟩

/-! ### A run that loses the ring

Two hundred writes of 4096 bytes fill the ring exactly. -/

def fullPacket : Region ifaceqCorePktSize := ⟨fun _ => 0⟩

theorem validSize_fullPacket : ValidSize ifaceqCorePktSize 4096 :=
  ⟨by decide, by decide, by decide, by decide⟩

theorem exists_reachable_writePos {k : Nat} (hk : k < 200) :
    ∃ q, Reachable q ∧ q.InRange ∧ q.readPos = 0 ∧ q.writePos = 4096 * k := by
  have hN : ifaceqQueueSize = 819200 := rfl
  induction k with
  | zero =>
      exact ⟨_, .setHeader .cmdq zeroedQueue, irisHfiQueueSetHeader_inRange _ _, rfl, rfl⟩
  | succ k ih =>
      obtain ⟨q, hreach, hq, hread, hwrite⟩ := ih (by omega)
      have hout : q.outstanding = 4096 * k := by
        rw [IfaceQInfo.outstanding_of_le hq (by omega), hread, hwrite]
        omega
      have hfree : (4096 : UInt32).toNat ≤ q.free := by
        rw [IfaceQInfo.free, hout]
        change 4096 ≤ _
        omega
      have hstep := irisHfiQueueWrite_of_le_free fullPacket hq validSize_fullPacket hfree
      have hdvd := dvd_length_load fullPacket validSize_fullPacket
      refine ⟨_, .write hreach hstep, afterWrite_inRange hq hdvd, hread, ?_⟩
      rw [writePos_afterWrite q hdvd, Region.length_load, hwrite]
      change (4096 * k + 4096) % ifaceqQueueSize = _
      rw [hN]
      omega

theorem not_occupancyLaw_reachable :
    ¬ ∀ q, Reachable q → q.InRange → ∀ (n : Nat) (packet : Region n) (packetSize : UInt32),
      ValidSize n packetSize → OccupancyLaw q packet packetSize := by
  intro hlaw
  have hN : ifaceqQueueSize = 819200 := rfl
  obtain ⟨q, hreach, hq, hread, hwrite⟩ := exists_reachable_writePos (k := 199) (by decide)
  have hout : q.outstanding = 815104 := by
    rw [IfaceQInfo.outstanding_of_le hq (by omega), hread, hwrite]
  refine not_occupancyLaw_of_fills hq validSize_fullPacket ?_
    (hlaw q hreach hq _ fullPacket 4096 validSize_fullPacket)
  rw [IfaceQInfo.free, hout]
  rfl

end NabuIris.Queue
