import NabuIris.ResponseLoop
import NabuIris.Proof.QueueOccupancy

/-!
# Draining the message queue

The firmware writes the size word that a read steps over. A zero word is refused with the reader
left where it is, a word below four moves the reader by no word at all, and a word beyond the
outstanding bytes carries the reader past the writer. `SizeWordsFit` walks the size words and says
that none of these is met; it is exactly when the loops drain the queue.
-/

namespace NabuIris.Queue

open Lib

/-- The size words from `pos` on step over the `out` outstanding bytes: each one either exceeds the
packet buffer, and the rest is dropped, or holds at least one word and no more words than are
outstanding. -/
inductive SizeWordsFit (cells : Nat → UInt8) : Nat → Nat → Prop
  | empty (pos : Nat) : SizeWordsFit cells pos 0
  | oversized {pos out : Nat} :
      0 < out → ifaceqCorePktSize < (Region.wordAt cells pos).toNat → SizeWordsFit cells pos out
  | packet {pos out size : Nat} :
      (Region.wordAt cells pos).toNat = size → 4 ≤ size → size ≤ ifaceqCorePktSize →
      4 * (size / 4) ≤ out →
      SizeWordsFit cells ((pos + 4 * (size / 4)) % ifaceqQueueSize) (out - 4 * (size / 4)) →
      SizeWordsFit cells pos out

/-- The queues that successive successful reads of `q` produce. -/
inductive Visited (q : IfaceQInfo) : IfaceQInfo → Prop
  | start : Visited q q
  | next {q₁ q₂ : IfaceQInfo} {packet packet' : PacketBuf} :
      Visited q q₁ → irisHfiQueueRead q₁ packet = some (0, q₂, packet') → Visited q q₂

/-- What the message loops owe to every content of the queue: they end whatever handling a packet
does, each successful read leaves fewer outstanding bytes, and no read leaves the head of a
non-empty queue where it found it. -/
structure DrainsCleanly (q : IfaceQInfo) : Prop where
  gen1 : ∀ (σ : Type) (h : Handler σ) (host : σ) (packet : PacketBuf),
    ∃ fuel, (irisHfiGen1ResponseHandler h fuel ⟨host, q, packet⟩).isSome
  gen2 : ∀ (σ : Type) (h : Handler σ) (legacyVpu5 : Bool) (intrStatus : UInt32) (host : σ)
    (packet : PacketBuf),
    ∃ fuel, (irisHfiGen2ResponseHandler h legacyVpu5 intrStatus fuel ⟨host, q, packet⟩).isSome
  reduces : ∀ q₁ q₂ packet packet', Visited q q₁ →
    irisHfiQueueRead q₁ packet = some (0, q₂, packet') → q₂.outstanding < q₁.outstanding
  advances : ∀ q₁ q₂ packet packet' ret, Visited q q₁ → q₁.qhdr.readIdx ≠ q₁.qhdr.writeIdx →
    irisHfiQueueRead q₁ packet = some (ret, q₂, packet') → q₂.qhdr.readIdx ≠ q₁.qhdr.readIdx

/-! ### Where a successful read leaves the queue -/

section AfterRead

variable {q : IfaceQInfo} {size : Nat}

@[simp]
theorem writePos_afterRead (q : IfaceQInfo) (pos : Nat) : (q.afterRead pos).writePos = q.writePos :=
  rfl

theorem readPos_afterRead_of_lt {pos : Nat} (hpos : pos < ifaceqQueueSize) :
    (q.afterRead pos).readPos = 4 * (pos / 4) := by
  have hN : ifaceqQueueSize = 819200 := rfl
  change 4 * (UInt32.ofNat _).toNat = _
  rw [UInt32.toNat_ofNat', Nat.mod_eq_of_lt (by omega)]

/-- The reader steps over whole words. -/
theorem readPos_afterRead (q : IfaceQInfo) (size : Nat) :
    (q.afterRead ((q.readPos + size) % ifaceqQueueSize)).readPos =
      (q.readPos + 4 * (size / 4)) % ifaceqQueueSize := by
  have hN : ifaceqQueueSize = 819200 := rfl
  rw [readPos_afterRead_of_lt (Nat.mod_lt _ (by decide))]
  simp only [IfaceQInfo.readPos, hN]
  omega

theorem afterRead_inRange (hq : q.InRange) {pos : Nat} (hpos : pos < ifaceqQueueSize) :
    (q.afterRead pos).InRange := by
  refine ⟨?_, hq.write⟩
  rw [readPos_afterRead_of_lt hpos]
  omega

theorem outstanding_afterRead (hq : q.InRange) (hsize : size ≤ ifaceqCorePktSize) :
    (q.afterRead ((q.readPos + size) % ifaceqQueueSize)).outstanding =
      (q.outstanding + ifaceqQueueSize - 4 * (size / 4)) % ifaceqQueueSize := by
  have hr := hq.read
  have hw := hq.write
  have hN : ifaceqQueueSize = 819200 := rfl
  have hP : ifaceqCorePktSize = 4096 := rfl
  rw [IfaceQInfo.outstanding, readPos_afterRead, writePos_afterRead, IfaceQInfo.outstanding]
  simp only [hN, hP] at *
  omega

end AfterRead

/-- A successful read met a size word between one and the packet buffer. -/
theorem irisHfiQueueRead_zero {q q' : IfaceQInfo} {packet packet' : PacketBuf} (hq : q.InRange)
    (hread : irisHfiQueueRead q packet = some (0, q', packet')) :
    q.readPos ≠ q.writePos ∧ 0 < q.headSize ∧ q.headSize ≤ ifaceqCorePktSize ∧
      q' = q.afterRead ((q.readPos + q.headSize) % ifaceqQueueSize) := by
  rw [irisHfiQueueRead_eq hq] at hread
  split at hread
  · simp [enodata] at hread
  split at hread
  · simp [einval] at hread
  split at hread
  · rename_i hne hzero hle
    simp only [Option.some.injEq, Prod.mk.injEq, true_and] at hread
    exact ⟨hne, by omega, hle, hread.1.symm⟩
  · simp [ebadmsg] at hread

/-- `SizeWordsFit` from the reader on. -/
def Fits (q : IfaceQInfo) : Prop := SizeWordsFit q.ring.byte q.readPos q.outstanding

theorem SizeWordsFit.cases_head {cells : Nat → UInt8} {pos out : Nat}
    (hfit : SizeWordsFit cells pos out) :
    out = 0 ∨ ifaceqCorePktSize < (Region.wordAt cells pos).toNat ∨
      ∃ size, (Region.wordAt cells pos).toNat = size ∧ 4 ≤ size ∧ size ≤ ifaceqCorePktSize ∧
        4 * (size / 4) ≤ out ∧
        SizeWordsFit cells ((pos + 4 * (size / 4)) % ifaceqQueueSize) (out - 4 * (size / 4)) := by
  cases hfit with
  | empty => exact .inl rfl
  | oversized _ hlarge => exact .inr (.inl hlarge)
  | packet hword hge hle hout hrest => exact .inr (.inr ⟨_, hword, hge, hle, hout, hrest⟩)

/-! ### Fitting size words drain -/

section Drains

variable {q q' : IfaceQInfo} {packet packet' : PacketBuf}

/-- One successful read. -/
theorem Fits.read (hfit : Fits q) (hq : q.InRange)
    (hread : irisHfiQueueRead q packet = some (0, q', packet')) :
    q'.InRange ∧ Fits q' ∧ q'.outstanding < q.outstanding := by
  obtain ⟨hne, hpos, hle, rfl⟩ := irisHfiQueueRead_zero hq hread
  have hlt := q.outstanding_lt
  have hin : (q.afterRead ((q.readPos + q.headSize) % ifaceqQueueSize)).InRange :=
    afterRead_inRange hq (Nat.mod_lt _ (by decide))
  rcases hfit.cases_head with hempty | hlarge | ⟨size, hword, hge, -, hout, hrest⟩
  · exact absurd ((IfaceQInfo.outstanding_eq_zero_iff hq).1 hempty) hne
  · exact absurd hle (Nat.not_le.2 hlarge)
  · have hsize : q.headSize = size := hword
    have hafter : (q.afterRead ((q.readPos + q.headSize) % ifaceqQueueSize)).outstanding =
        q.outstanding - 4 * (size / 4) := by
      rw [outstanding_afterRead hq hle, hsize,
        show q.outstanding + ifaceqQueueSize - 4 * (size / 4) =
          q.outstanding - 4 * (size / 4) + ifaceqQueueSize by omega,
        Nat.add_mod_right, Nat.mod_eq_of_lt (by omega)]
    refine ⟨hin, ?_, by omega⟩
    rw [Fits, hafter, readPos_afterRead, hsize]
    exact hrest

theorem Fits.visited {q₁ : IfaceQInfo} (hfit : Fits q) (hq : q.InRange) (hvisit : Visited q q₁) :
    q₁.InRange ∧ Fits q₁ := by
  induction hvisit with
  | start => exact ⟨hq, hfit⟩
  | next _ hread ih =>
      obtain ⟨hin, hfit'⟩ := ih
      obtain ⟨hin', hfit'', -⟩ := hfit'.read hin hread
      exact ⟨hin', hfit''⟩

/-- A read of a non-empty queue moves the reader, also when it drops the rest. -/
theorem Fits.advances {ret : Int} (hfit : Fits q) (hq : q.InRange)
    (hne : q.qhdr.readIdx ≠ q.qhdr.writeIdx)
    (hread : irisHfiQueueRead q packet = some (ret, q', packet')) :
    q'.qhdr.readIdx ≠ q.qhdr.readIdx := by
  rw [Ne, idx_eq_iff_pos_eq] at hne
  have hr := hq.read
  have hN : ifaceqQueueSize = 819200 := rfl
  have hP : ifaceqCorePktSize = 4096 := rfl
  intro heq
  have hpos : q'.readPos = q.readPos := by rw [IfaceQInfo.readPos, heq, IfaceQInfo.readPos]
  rw [irisHfiQueueRead_eq hq, if_neg hne] at hread
  rcases hfit.cases_head with hempty | hlarge | ⟨size, hword, hge, hle, hout, -⟩
  · exact hne ((IfaceQInfo.outstanding_eq_zero_iff hq).1 hempty)
  · have hlarge' : ifaceqCorePktSize < q.headSize := hlarge
    rw [if_neg (by omega), if_neg (by omega)] at hread
    simp only [Option.some.injEq, Prod.mk.injEq] at hread
    obtain ⟨-, rfl, -⟩ := hread
    rw [readPos_afterRead_of_lt hq.write] at hpos
    simp only [IfaceQInfo.writePos] at hpos hne
    omega
  · have hsize : q.headSize = size := hword
    rw [hsize, if_neg (by omega), if_pos hle] at hread
    simp only [Option.some.injEq, Prod.mk.injEq] at hread
    obtain ⟨-, rfl, -⟩ := hread
    rw [readPos_afterRead] at hpos
    simp only [hN, hP] at *
    omega

/-- One round for each outstanding byte, and one to find the queue empty, are enough. -/
theorem messageLoop_isSome {σ : Type} (h : Handler σ) (hdrSize : Nat) (fuel : Nat) (host : σ)
    (packet : PacketBuf) (hq : q.InRange) (hfit : Fits q) (hfuel : q.outstanding < fuel) :
    (messageLoop h hdrSize fuel ⟨host, q, packet⟩).isSome := by
  induction fuel generalizing q host packet with
  | zero => omega
  | succ fuel ih =>
      rw [messageLoop]
      by_cases hinit : h.coreState host = .init
      · obtain ⟨⟨ret, q', packet'⟩, hread⟩ : ∃ r, irisHfiQueueRead q packet = some r := by
          rw [irisHfiQueueRead_eq hq]
          split_ifs <;> exact ⟨_, rfl⟩
        simp only [irisHfiQueueMsgRead, hinit, hread, ne_eq, not_true, if_false, Option.map_some,
          Option.bind_eq_bind, Option.bind_some]
        by_cases hret : ret = 0
        · subst hret
          obtain ⟨hin, hfit', hless⟩ := hfit.read hq hread
          simpa using ih _ _ hin hfit' (by omega)
        · simp [hret, enodata]
      · simp [irisHfiQueueMsgRead, hinit, einval]

theorem drainsCleanly_of_fits (hq : q.InRange) (hfit : Fits q) : DrainsCleanly q where
  gen1 σ h host packet :=
    ⟨q.outstanding + 1, messageLoop_isSome h _ _ host _ hq hfit (Nat.lt_succ_self _)⟩
  gen2 σ h legacyVpu5 intrStatus host packet := by
    refine ⟨q.outstanding + 1, ?_⟩
    rw [irisHfiGen2ResponseHandler]
    split_ifs
    · rfl
    · exact messageLoop_isSome h _ _ host _ hq hfit (Nat.lt_succ_self _)
  reduces q₁ q₂ packet packet' hvisit hread := by
    obtain ⟨hin, hfit'⟩ := hfit.visited hq hvisit
    exact (hfit'.read hin hread).2.2
  advances q₁ q₂ packet packet' ret hvisit hne hread := by
    obtain ⟨hin, hfit'⟩ := hfit.visited hq hvisit
    exact hfit'.advances hin hne hread

end Drains

/-! ### Nothing else drains -/

theorem Visited.inRange {q q₁ : IfaceQInfo} (hq : q.InRange) (hvisit : Visited q q₁) :
    q₁.InRange := by
  induction hvisit with
  | start => exact hq
  | next _ hread ih =>
      obtain ⟨-, -, -, rfl⟩ := irisHfiQueueRead_zero ih hread
      exact afterRead_inRange ih (Nat.mod_lt _ (by decide))

theorem DrainsCleanly.fits {q : IfaceQInfo} (hclean : DrainsCleanly q) (hq : q.InRange) :
    Fits q := by
  have hN : ifaceqQueueSize = 819200 := rfl
  have hP : ifaceqCorePktSize = 4096 := rfl
  -- by induction on the outstanding bytes of the queues the loop visits
  suffices hall : ∀ n q₁, Visited q q₁ → q₁.outstanding = n → Fits q₁ from hall _ q .start rfl
  intro n
  induction n using Nat.strong_induction_on with
  | _ n ih =>
      intro q₁ hvisit hn
      have hin := hvisit.inRange hq
      have hlt := q₁.outstanding_lt
      by_cases hempty : q₁.readPos = q₁.writePos
      · rw [Fits, (IfaceQInfo.outstanding_eq_zero_iff hin).2 hempty]
        exact .empty _
      have hread := irisHfiQueueRead_eq hin ⟨fun _ => 0⟩
      rw [if_neg hempty] at hread
      by_cases hzero : q₁.headSize = 0
      · rw [if_pos hzero] at hread
        have hne : q₁.qhdr.readIdx ≠ q₁.qhdr.writeIdx := by rwa [Ne, idx_eq_iff_pos_eq]
        exact absurd rfl (hclean.advances _ _ _ _ _ hvisit hne hread)
      by_cases hle : q₁.headSize ≤ ifaceqCorePktSize
      · rw [if_neg hzero, if_pos hle] at hread
        have hless := hclean.reduces _ _ _ _ hvisit hread
        have hafter := outstanding_afterRead hin hle
        have hrest := ih _ (hn ▸ hless) _ (.next hvisit hread) rfl
        have hword : 4 * (q₁.headSize / 4) ≤ q₁.outstanding ∧ 0 < 4 * (q₁.headSize / 4) := by
          rw [hafter] at hless
          simp only [hN, hP] at *
          omega
        have hleft : (q₁.outstanding + ifaceqQueueSize - 4 * (q₁.headSize / 4)) % ifaceqQueueSize =
            q₁.outstanding - 4 * (q₁.headSize / 4) := by
          rw [show q₁.outstanding + ifaceqQueueSize - 4 * (q₁.headSize / 4) =
            q₁.outstanding - 4 * (q₁.headSize / 4) + ifaceqQueueSize by omega,
            Nat.add_mod_right, Nat.mod_eq_of_lt (by omega)]
        rw [Fits, readPos_afterRead, hafter, hleft] at hrest
        have hhead : (Region.wordAt q₁.ring.byte q₁.readPos).toNat = q₁.headSize := rfl
        exact .packet hhead (by omega) hle hword.1 hrest
      · have hout : q₁.outstanding ≠ 0 := by
          rwa [Ne, IfaceQInfo.outstanding_eq_zero_iff hin]
        exact .oversized (by omega) (Nat.not_le.1 hle)

/-- **When the loops drain the queue.** For every in-range queue, exactly when its size words
fit. -/
theorem drainsCleanly_iff {q : IfaceQInfo} (hq : q.InRange) :
    DrainsCleanly q ↔ SizeWordsFit q.ring.byte q.readPos q.outstanding :=
  ⟨fun hclean => hclean.fits hq, drainsCleanly_of_fits hq⟩

/-- Two packets, of which the first runs over the end of the ring. -/
def ladenQueue : IfaceQInfo :=
  { zeroedQueue with
    qhdr :=
      { zeroedQueue.qhdr with
        queueType := IfaceQueue.msgq.id
        readIdx := 204798
        writeIdx := 3 }
    ring := ⟨fun i => if i = 819192 then 12 else if i = 4 then 8 else 0⟩ }

theorem ladenQueue_fits :
    SizeWordsFit ladenQueue.ring.byte ladenQueue.readPos ladenQueue.outstanding := by
  have hfirst : (Region.wordAt ladenQueue.ring.byte ladenQueue.readPos).toNat = 12 := by decide
  have hsecond : (Region.wordAt ladenQueue.ring.byte 4).toNat = 8 := by decide
  exact .packet hfirst (by decide) (by decide) (by decide)
    (.packet hsecond (by decide) (by decide) (by decide) (.empty _))

theorem drainsCleanly_iff_laden : ladenQueue.outstanding = 20 ∧ DrainsCleanly ladenQueue :=
  ⟨by decide, (drainsCleanly_iff ⟨by decide, by decide⟩).2 ladenQueue_fits⟩

/-! ### A queue that never drains -/

/-- One outstanding word, holding the size word `1`. -/
def stuckQueue : IfaceQInfo :=
  { zeroedQueue with
    qhdr := { zeroedQueue.qhdr with queueType := IfaceQueue.msgq.id, writeIdx := 1 }
    ring := ⟨fun i => if i = 0 then 1 else 0⟩ }

theorem stuckQueue_inRange : stuckQueue.InRange := ⟨by decide, by decide⟩

theorem not_drainsCleanly_stuckQueue :
    ¬ ∀ q : IfaceQInfo, q.InRange → DrainsCleanly q := by
  intro hclean
  have hread := irisHfiQueueRead_eq stuckQueue_inRange ⟨fun _ => 0⟩
  rw [if_neg (by decide), if_neg (by decide), if_pos (by decide)] at hread
  have hless := (hclean stuckQueue stuckQueue_inRange).reduces _ _ _ _ .start hread
  exact absurd hless (by decide)

end NabuIris.Queue
