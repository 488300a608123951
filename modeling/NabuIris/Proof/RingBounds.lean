import NabuIris.Queue

/-!
# The rings against what firmware stores

Whatever the two indices and the size words are, no copy leaves the ring or the packet buffer. A
write compares its packet with the bytes that are free; a read takes as many bytes as the size word
says, also where fewer lie in front of the writer.
-/

namespace NabuIris.Queue

open Lib

variable {q : IfaceQInfo}

/-- A byte of the ring is met clockwise from `read_idx` before `write_idx`. -/
def IfaceQInfo.Between (q : IfaceQInfo) (i : Nat) : Prop :=
  if q.readByte ≤ q.writeByte then q.readByte ≤ i ∧ i < q.writeByte
  else q.readByte ≤ i ∨ i < q.writeByte

/-- The number of these bytes. -/
def IfaceQInfo.betweenLen (q : IfaceQInfo) : Nat :=
  if q.readByte ≤ q.writeByte then min q.writeByte ifaceqQueueSize - q.readByte
  else ifaceqQueueSize - q.readByte + q.writeByte

/-- The bytes of the ring that a successful read copies. -/
def IfaceQInfo.consumed (q : IfaceQInfo) : List Nat :=
  (List.range q.sizeWord).map fun k => (q.readByte + k) % ifaceqQueueSize

theorem IfaceQInfo.length_consumed (q : IfaceQInfo) : q.consumed.length = q.sizeWord := by
  rw [consumed, List.length_map, List.length_range]

theorem view_eq_consumed (q : IfaceQInfo) :
    Ring.view q.ring.byte ifaceqQueueSize q.readByte q.sizeWord =
      q.consumed.map q.ring.byte := by
  rw [IfaceQInfo.consumed, List.map_map]
  rfl

/-- A read finds a packet, of a size that it accepts. -/
structure IfaceQInfo.Readable (q : IfaceQInfo) : Prop where
  ready : q.readByte ≠ q.writeByte
  inside : q.readByte ≤ ifaceqQueueSize - 4
  positive : 0 < q.sizeWord
  fits : q.sizeWord ≤ ifaceqCorePktSize

theorem irisHfiQueueRead_readable (hq : q.Readable) (packet : PacketBuf) :
    irisHfiQueueRead q packet =
      some (0, q.afterRead ((q.readByte + q.sizeWord) % ifaceqQueueSize),
        ⟨Region.store packet.byte 0 (q.consumed.map q.ring.byte)⟩) := by
  rw [irisHfiQueueRead_any, if_neg hq.ready, if_neg hq.inside.not_gt, if_neg hq.positive.ne',
    if_pos hq.fits, view_eq_consumed]

theorem readable_of_read {packet packet' : PacketBuf} {q' : IfaceQInfo}
    (hread : irisHfiQueueRead q packet = some (0, q', packet')) : q.Readable := by
  have hret : ∀ {ret : Int} {r : IfaceQInfo × PacketBuf}, ret ≠ 0 →
      some (ret, r) ≠ some (0, q', packet') := by
    intro ret r hne heq
    exact hne (Prod.mk.inj (Option.some.inj heq)).1
  rw [irisHfiQueueRead_any] at hread
  split_ifs at hread with hempty houtside hzero hfits
  · exact absurd hread (hret (by decide))
  · exact absurd hread (hret (by decide))
  · exact absurd hread (hret (by decide))
  · exact ⟨hempty, Nat.not_lt.1 houtside, Nat.pos_of_ne_zero hzero, hfits⟩
  · exact absurd hread (hret (by decide))

/-! ### What a read takes -/

theorem IfaceQInfo.Readable.consumed_between (hq : q.Readable)
    (hsize : q.sizeWord ≤ q.betweenLen) : ∀ i ∈ q.consumed, q.Between i := by
  have hinside := hq.inside
  have hready := hq.ready
  have hN : ifaceqQueueSize = 819200 := rfl
  intro i hi
  obtain ⟨k, hk, rfl⟩ := List.mem_map.1 hi
  rw [List.mem_range] at hk
  rw [IfaceQInfo.Between]
  rw [IfaceQInfo.betweenLen] at hsize
  split_ifs at hsize ⊢ with hahead
  · rw [Nat.mod_eq_of_lt (by omega)]
    omega
  · by_cases hwrap : q.readByte + k < ifaceqQueueSize
    · rw [Nat.mod_eq_of_lt hwrap]
      exact .inl (Nat.le_add_right _ _)
    · rw [Nat.mod_eq_sub_mod (by omega), Nat.mod_eq_of_lt (by omega)]
      omega

/-- The first byte behind those that lie between is not one of them. -/
theorem IfaceQInfo.Readable.not_between (hq : q.Readable) (hsize : q.betweenLen < q.sizeWord) :
    ¬ q.Between ((q.readByte + q.betweenLen) % ifaceqQueueSize) := by
  have hinside := hq.inside
  have hready := hq.ready
  have hfits := hq.fits
  have hN : ifaceqQueueSize = 819200 := rfl
  have hP : ifaceqCorePktSize = 4096 := rfl
  rw [IfaceQInfo.Between]
  rw [IfaceQInfo.betweenLen] at hsize ⊢
  split_ifs at hsize ⊢ with hahead
  · by_cases hlast : q.writeByte < ifaceqQueueSize
    · rw [Nat.mod_eq_of_lt (by omega)]
      omega
    · have hend : q.readByte + (min q.writeByte ifaceqQueueSize - q.readByte) =
          ifaceqQueueSize := by omega
      rw [hend, Nat.mod_self]
      omega
  · have hend : q.readByte + (ifaceqQueueSize - q.readByte + q.writeByte) =
        q.writeByte + ifaceqQueueSize := by omega
    rw [hend, Nat.add_mod_right, Nat.mod_eq_of_lt (by omega)]
    omega

theorem IfaceQInfo.Readable.le_between (hq : q.Readable)
    (hconsumed : ∀ i ∈ q.consumed, q.Between i) : q.sizeWord ≤ q.betweenLen := by
  by_contra hsize
  rw [Nat.not_le] at hsize
  refine hq.not_between hsize (hconsumed _ (List.mem_map.2 ⟨q.betweenLen, ?_, rfl⟩))
  exact List.mem_range.2 hsize

/-! ### The bounds -/

/-- No call leaves the ring or the packet buffer, and a read that returns zero copies the bytes that
it moves past, all of which lie between the indices. -/
structure RingSafe (q : IfaceQInfo) (packet : PacketBuf) : Prop where
  write : ∀ {n : Nat} (command : Region n) (packetSize : UInt32), packetSize.toNat ≤ n →
    packetSize.toNat ≤ ifaceqCorePktSize → (irisHfiQueueWrite q command packetSize).isSome
  read : (irisHfiQueueRead q packet).isSome
  consumes : ∀ q' packet', irisHfiQueueRead q packet = some (0, q', packet') →
    packet' = ⟨Region.store packet.byte 0 (q.consumed.map q.ring.byte)⟩ ∧
      q'.qhdr.readIdx = .ofNat ((q.readByte + q.consumed.length) % ifaceqQueueSize / 4) ∧
      ∀ i ∈ q.consumed, q.Between i

/-- The size word of a packet that is accepted counts no more bytes than lie between. -/
def SizeWordFits (q : IfaceQInfo) : Prop := q.Readable → q.sizeWord ≤ q.betweenLen

theorem isSome_write {n : Nat} (command : Region n) {packetSize : UInt32}
    (hpacket : packetSize.toNat ≤ n) (hsize : packetSize.toNat ≤ ifaceqCorePktSize) :
    (irisHfiQueueWrite q command packetSize).isSome := by
  have hN : ifaceqQueueSize = 819200 := rfl
  have hP : ifaceqCorePktSize = 4096 := rfl
  rw [irisHfiQueueWrite_any hpacket (by omega) fun hinside => by omega]
  split_ifs <;> rfl

theorem isSome_read (q : IfaceQInfo) (packet : PacketBuf) :
    (irisHfiQueueRead q packet).isSome := by
  rw [irisHfiQueueRead_any]
  split_ifs <;> rfl

theorem RingSafe.sizeWordFits {packet : PacketBuf} (hsafe : RingSafe q packet) :
    SizeWordFits q := fun hq =>
  hq.le_between (hsafe.consumes _ _ (irisHfiQueueRead_readable hq packet)).2.2

theorem SizeWordFits.ringSafe (hfits : SizeWordFits q) (packet : PacketBuf) :
    RingSafe q packet where
  write := fun command _ => isSome_write command
  read := isSome_read q packet
  consumes := by
    intro q' packet' hread
    have hq := readable_of_read hread
    rw [irisHfiQueueRead_readable hq packet, Option.some.injEq, Prod.mk.injEq, Prod.mk.injEq]
      at hread
    obtain ⟨-, rfl, rfl⟩ := hread
    refine ⟨rfl, ?_, hq.consumed_between (hfits hq)⟩
    rw [q.length_consumed]
    rfl

/-- **Memory bounds of the rings**, for every pair of indices and every size word. -/
theorem ring_safe_iff (q : IfaceQInfo) (packet : PacketBuf) :
    RingSafe q packet ↔ SizeWordFits q :=
  ⟨RingSafe.sizeWordFits, fun hfits => hfits.ringSafe packet⟩

/-- One word before the writer, which says that the packet has two. -/
def shortQueue : IfaceQInfo where
  qhdr :=
    { status := 1
      startAddr := 0
      queueType := IfaceQueue.msgq.id
      headerType := ifaceqDfltQhdr
      qSize := .ofNat (ifaceqQueueSize / 4)
      pktSize := 0
      pktDropCnt := 0
      rxWm := 1
      txWm := 1
      rxReq := 1
      txReq := 0
      rxIrqStatus := 0
      txIrqStatus := 0
      readIdx := 0
      writeIdx := 1 }
  deviceAddr := 0
  ring := ⟨fun i => if i = 0 then 8 else 0⟩

theorem ring_unsafe : ¬ RingSafe shortQueue ⟨fun _ => 0⟩ := by
  intro hsafe
  have hreadable : shortQueue.Readable := ⟨by decide, by decide, by decide, by decide⟩
  exact absurd (hsafe.sizeWordFits hreadable) (by decide)

end NabuIris.Queue
