import NabuIris.Proof.SharedQueues

/-!
# Delivery through the shared table

The host writes packets to the command queue while both sides use the other two queues, and the
firmware reads them there. Every packet has a meaning that survives the copy into a reader's buffer,
whatever the buffer held before: the meanings that are read, followed by those still in the ring,
are those of the packets that the queue has accepted.
-/

namespace NabuIris.Queue

open Lib Region

variable {σ γ : Type} {take : PacketBuf → γ}

/-! ### The line -/

/-- A packet of the host, with what a reader that takes it by `take` makes of it. -/
structure Parcel (take : PacketBuf → γ) where
  length : Nat
  packet : Region length
  packetSize : UInt32
  means : γ
  valid : ValidSize length packetSize
  sizeWord : wordAt packet.byte 0 = packetSize
  taken : ∀ cells, take ⟨store cells 0 (load packet.byte 0 packetSize.toNat)⟩ = means

/-- What reaches the ring. -/
def Parcel.bytes (p : Parcel take) : List UInt8 := load p.packet.byte 0 p.packetSize.toNat

/-- A packet of the host, a read of the firmware, or a call on one of the other queues. -/
inductive DeliveryOp (σ : Type)
  | send (s : σ)
  | fetch (buf : PacketBuf)
  | other (k : IfaceQueue) (hk : k ≠ .cmdq) (c : SharedCall)

namespace DeliveryOp

def call (parcel : σ → Parcel take) : DeliveryOp σ → IfaceQueue × SharedCall
  | .send s => (.cmdq, ⟨.host, .write (parcel s).packet (parcel s).packetSize⟩)
  | .fetch buf => (.cmdq, ⟨.firmware, .read buf⟩)
  | .other k _ c => (k, c)

/-- What a call has put into the queue. -/
def accepted (parcel : σ → Parcel take) : DeliveryOp σ → Answer → List γ
  | .send s, .wrote ret => if ret = 0 then [(parcel s).means] else []
  | _, _ => []

/-- What a call has brought to the firmware. -/
def received (take : PacketBuf → γ) : DeliveryOp σ → Answer → List γ
  | .fetch _, .read ret buf => if ret = 0 then [take buf] else []
  | _, _ => []

end DeliveryOp

/-- What the operations have brought about, with the answers they got. -/
def along (what : DeliveryOp σ → Answer → List γ) (ops : List (DeliveryOp σ))
    (answers : List (IfaceQueue × Answer)) : List γ :=
  (List.zipWith (fun op answer => what op answer.2) ops answers).flatten

theorem mem_along {what : DeliveryOp σ → Answer → List γ} {ops : List (DeliveryOp σ)}
    {answers : List (IfaceQueue × Answer)} {c : γ} (hc : c ∈ along what ops answers) :
    ∃ op ∈ ops, ∃ answer, c ∈ what op answer := by
  induction ops generalizing answers with
  | nil => exact absurd hc List.not_mem_nil
  | cons op rest ih =>
      cases answers with
      | nil => exact absurd hc List.not_mem_nil
      | cons answer answers =>
          rcases List.mem_append.1 hc with hnow | hlater
          · exact ⟨op, List.mem_cons_self, answer.2, hnow⟩
          · obtain ⟨op', hop', hwhat⟩ := ih hlater
            exact ⟨op', List.mem_cons_of_mem _ hop', hwhat⟩

/-- What is accepted was sent. -/
theorem DeliveryOp.of_mem_accepted {parcel : σ → Parcel take} {op : DeliveryOp σ}
    {answer : Answer} {c : γ} (hc : c ∈ op.accepted parcel answer) :
    ∃ s, op = .send s ∧ c = (parcel s).means := by
  unfold accepted at hc
  split at hc
  · next s ret =>
      split_ifs at hc
      · exact ⟨s, rfl, List.mem_singleton.1 hc⟩
      · exact absurd hc List.not_mem_nil
  · exact absurd hc List.not_mem_nil

/-! ### One call -/

/-- What the firmware will make of a packet in the queue. -/
def meaning (take : PacketBuf → γ) (p : List UInt8) : γ := take ⟨store (fun _ => 0) 0 p⟩

/-- A packet that means the same in every buffer. -/
def Legible (take : PacketBuf → γ) (p : List UInt8) : Prop :=
  ∀ cells, take ⟨store cells 0 p⟩ = meaning take p

theorem Parcel.meaning_bytes (p : Parcel take) : meaning take p.bytes = p.means := p.taken _

theorem Parcel.legible (p : Parcel take) : Legible take p.bytes := fun cells =>
  (p.taken cells).trans p.meaning_bytes.symm

variable {parcel : σ → Parcel take}

/-- **One step.** What was in flight and what is accepted is what is received and what is in flight
then. -/
theorem call_delivers (packets : IfaceQueue → List (List UInt8)) (op : DeliveryOp σ)
    (hlegible : ∀ p ∈ packets .cmdq, Legible take p) :
    (∀ p ∈ (family sharedFifo packets (op.call parcel)).2 .cmdq, Legible take p) ∧
      (packets .cmdq).map (meaning take) ++
          op.accepted parcel (family sharedFifo packets (op.call parcel)).1.2 =
        op.received take (family sharedFifo packets (op.call parcel)).1.2 ++
          ((family sharedFifo packets (op.call parcel)).2 .cmdq).map (meaning take) := by
  cases op with
  | send s =>
      have hcall : sharedFifo (packets .cmdq)
          ⟨.host, .write (parcel s).packet (parcel s).packetSize⟩ =
          if totalBytes (packets .cmdq) + (parcel s).packetSize.toNat ≤ ifaceqQueueSize then
            (.wrote 0, packets .cmdq ++ [(parcel s).bytes])
          else (.wrote (-enospc), packets .cmdq) := rfl
      simp only [DeliveryOp.call, family, Function.update_self, hcall]
      split
      · refine ⟨fun p hp => ?_, ?_⟩
        · rcases List.mem_append.1 hp with hold | hnew
          · exact hlegible p hold
          · rw [List.mem_singleton.1 hnew]
            exact (parcel s).legible
        · rw [List.map_append, List.map_singleton, (parcel s).meaning_bytes]
          rfl
      · exact ⟨hlegible, List.append_nil _⟩
  | fetch buf =>
      simp only [DeliveryOp.call, family, Function.update_self]
      cases hpackets : packets .cmdq with
      | nil => exact ⟨fun p hp => absurd hp List.not_mem_nil, rfl⟩
      | cons p rest =>
          rw [hpackets] at hlegible
          refine ⟨fun p' hp' => hlegible p' (List.mem_cons_of_mem _ hp'), ?_⟩
          have hread := hlegible p List.mem_cons_self buf.byte
          change meaning take p :: rest.map (meaning take) ++ [] =
            take ⟨store buf.byte 0 p⟩ :: rest.map (meaning take)
          rw [List.append_nil, hread]
  | other k hk c =>
      have hsame : (family sharedFifo packets (k, c)).2 .cmdq = packets .cmdq :=
        Function.update_of_ne (Ne.symm hk) _ _
      change (∀ p ∈ (family sharedFifo packets (k, c)).2 .cmdq, Legible take p) ∧
        _ ++ [] = [] ++ ((family sharedFifo packets (k, c)).2 .cmdq).map (meaning take)
      rw [hsame, List.append_nil, List.nil_append]
      exact ⟨hlegible, rfl⟩

/-! ### Runs -/

theorem run_delivers (packets : IfaceQueue → List (List UInt8)) (ops : List (DeliveryOp σ))
    (hlegible : ∀ p ∈ packets .cmdq, Legible take p) :
    (packets .cmdq).map (meaning take) ++ along (DeliveryOp.accepted parcel) ops
        (runOps (family sharedFifo) packets (ops.map (DeliveryOp.call parcel))).1 =
      along (DeliveryOp.received take) ops
          (runOps (family sharedFifo) packets (ops.map (DeliveryOp.call parcel))).1 ++
        ((runOps (family sharedFifo) packets (ops.map (DeliveryOp.call parcel))).2 .cmdq).map
          (meaning take) := by
  induction ops generalizing packets with
  | nil => exact List.append_nil _
  | cons op rest ih =>
      obtain ⟨hnext, hstep⟩ := call_delivers packets op hlegible
      have hrest := ih _ hnext
      rw [List.map_cons, runOps]
      calc (packets .cmdq).map (meaning take) ++
            (op.accepted parcel (family sharedFifo packets (op.call parcel)).1.2 ++
              along (DeliveryOp.accepted parcel) rest _)
          = op.received take (family sharedFifo packets (op.call parcel)).1.2 ++
              (((family sharedFifo packets (op.call parcel)).2 .cmdq).map (meaning take) ++
                along (DeliveryOp.accepted parcel) rest _) := by
            rw [← List.append_assoc, hstep, List.append_assoc]
            rfl
        _ = op.received take (family sharedFifo packets (op.call parcel)).1.2 ++
              (along (DeliveryOp.received take) rest _ ++ _) := congrArg _ hrest
        _ = _ := (List.append_assoc _ _ _).symm

/-- The ring never fills to its last byte. -/
def HasRoom (packets : List (List UInt8)) (c : SharedCall) : Prop :=
  totalBytes (sharedFifo packets c).2 < ifaceqQueueSize

/-- A read makes room. -/
theorem hasRoom_read {packets : List (List UInt8)} {party : Party} {buf : PacketBuf}
    (hroom : totalBytes packets < ifaceqQueueSize) : HasRoom packets ⟨party, .read buf⟩ := by
  cases packets with
  | nil => exact hroom
  | cons p rest => exact lt_of_le_of_lt (Nat.le_add_left _ _) hroom

/-- A packet takes no more room than the largest. -/
theorem totalBytes_send_le (packets : List (List UInt8)) (s : σ) :
    totalBytes (sharedFifo packets ((DeliveryOp.send s).call parcel).2).2 ≤
      totalBytes packets + ifaceqCorePktSize := by
  have hle := (parcel s).valid.le
  have hcall : sharedFifo packets ((DeliveryOp.send s).call parcel).2 =
      if totalBytes packets + (parcel s).packetSize.toNat ≤ ifaceqQueueSize then
        (.wrote 0, packets ++ [(parcel s).bytes])
      else (.wrote (-enospc), packets) := rfl
  rw [hcall]
  split_ifs
  · rw [totalBytes_append, Parcel.bytes, length_load]
    omega
  · exact Nat.le_add_right _ _

theorem hasRoom_of_empty (op : DeliveryOp σ) (hop : (op.call parcel).1 = .cmdq) :
    HasRoom [] (op.call parcel).2 := by
  have hlarge : totalBytes [] + ifaceqCorePktSize < ifaceqQueueSize := by decide
  cases op with
  | send s => exact lt_of_le_of_lt (totalBytes_send_le [] s) hlarge
  | fetch buf => exact hasRoom_read (by decide)
  | other k hk c => exact absurd hop hk

theorem exists_op_of_mem {ops : List (DeliveryOp σ)} {k : IfaceQueue} {c : SharedCall}
    (hc : c ∈ ofPart k (ops.map (DeliveryOp.call parcel))) :
    ∃ op ∈ ops, op.call parcel = (k, c) := by
  obtain ⟨tagged, htagged, hpart⟩ := List.mem_filterMap.1 hc
  obtain ⟨op, hop, rfl⟩ := List.mem_map.1 htagged
  refine ⟨op, hop, ?_⟩
  split_ifs at hpart with hk
  exact Prod.ext hk (Option.some.inj hpart)

/-- The calls on the command queue are packets and reads. -/
theorem callOk_of_room {op : DeliveryOp σ} {packets : List (List UInt8)} {c : SharedCall}
    (hc : op.call parcel = (.cmdq, c)) (hroom : HasRoom packets c) : SharedCallOk packets c := by
  cases op with
  | send s =>
      obtain rfl : SharedCall.mk .host (.write (parcel s).packet (parcel s).packetSize) = c :=
        congrArg Prod.snd hc
      exact ⟨⟨(parcel s).valid, (parcel s).sizeWord⟩, hroom⟩
  | fetch buf =>
      obtain rfl : SharedCall.mk .firmware (.read buf) = c := congrArg Prod.snd hc
      exact ⟨trivial, hroom⟩
  | other k hk c => exact absurd (congrArg Prod.fst hc) hk

/-- What the run asks of the operations: room in the ring, and calls on the other queues that are in
order. -/
structure LineOk (parcel : σ → Parcel take) (ops : List (DeliveryOp σ)) : Prop where
  room : Throughout sharedFifo HasRoom [] (ofPart .cmdq (ops.map (DeliveryOp.call parcel)))
  others : ∀ k, k ≠ .cmdq →
    Throughout sharedFifo SharedCallOk [] (ofPart k (ops.map (DeliveryOp.call parcel)))

/-- **The line delivers.** -/
theorem line_delivers {legacyVpu5 : Bool} (core tableDaddr : UInt64)
    (table : QueueTable legacyVpu5) {ops : List (DeliveryOp σ)}
    (hdaddr : tableDaddr.toNat + irisHfiQueueAllocSize legacyVpu5 ≤ dmaMask + 1)
    (hops : LineOk parcel ops) :
    ∃ answers table' packets,
      exec (sharedCall tableDaddr) (irisHfiQueuesInit legacyVpu5 core tableDaddr table)
          (ops.map (DeliveryOp.call parcel)) = some (answers, table') ∧
        Represents packets ((irisHfiQueuePtr legacyVpu5 tableDaddr .cmdq).view table'.byte) ∧
        along (DeliveryOp.accepted parcel) ops answers =
          along (DeliveryOp.received take) ops answers ++ packets.map (meaning take) := by
  have hcalls : ∀ k, Throughout sharedFifo SharedCallOk []
      (ofPart k (ops.map (DeliveryOp.call parcel))) := by
    intro k
    by_cases hk : k = .cmdq
    · subst hk
      refine hops.room.mono fun packets c hc hspace => ?_
      obtain ⟨op, -, hop⟩ := exists_op_of_mem hc
      exact callOk_of_room hop hspace
    · exact hops.others k hk
  obtain ⟨table', hexec, hend⟩ :=
    exec_refines (Conversing legacyVpu5 core tableDaddr table)
      (fun packets table' c hrun hok => sharedCall_refines packets table' c hdaddr hrun hok)
      conversing_start (throughout_family hcalls)
  exact ⟨_, table', _, hexec, (hend.each .cmdq).represents,
    run_delivers (fun _ => []) ops fun p hp => absurd hp List.not_mem_nil⟩

end NabuIris.Queue
