import NabuIris.Proof.Interference
import NabuIris.Sessions

/-!
# Which instance a message reaches

Folding the address loses half of it. The session ids tell the open instances apart exactly when no
two of the addresses differ by the same bits in both halves.
-/

namespace NabuIris

open Lib Lib.Reading Gen1Message

/-! ### Folding -/

def upperHalf (ptr : BitVec 64) : U32 := ptr.extractLsb' 32 32

def lowerHalf (ptr : BitVec 64) : U32 := ptr.extractLsb' 0 32

theorem hash32Ptr_eq (ptr : BitVec 64) : hash32Ptr ptr = lowerHalf ptr ^^^ upperHalf ptr := by
  apply BitVec.eq_of_getLsbD_eq
  intro bit hbit
  simp [hash32Ptr, lowerHalf, upperHalf, hbit]

theorem xor_eq_zero {a b : U32} : a ^^^ b = 0 ↔ a = b := by
  constructor
  · intro h
    calc a = a ^^^ b ^^^ b := by rw [BitVec.xor_assoc, BitVec.xor_self, BitVec.xor_zero]
      _ = b := by rw [h, BitVec.ofNat_eq_ofNat, BitVec.zero_xor]
  · rintro rfl
    exact BitVec.xor_self

theorem hash32Ptr_eq_zero (ptr : BitVec 64) :
    hash32Ptr ptr = 0 ↔ lowerHalf ptr = upperHalf ptr := by
  rw [hash32Ptr_eq, xor_eq_zero]

/-- Two addresses fold to one id when they differ by the same bits in both halves. -/
theorem hash32Ptr_collide (ptr other : BitVec 64) :
    hash32Ptr ptr = hash32Ptr other ↔
      upperHalf ptr ^^^ upperHalf other = lowerHalf ptr ^^^ lowerHalf other := by
  have hswap : hash32Ptr ptr ^^^ hash32Ptr other =
      (upperHalf ptr ^^^ upperHalf other) ^^^ (lowerHalf ptr ^^^ lowerHalf other) := by
    rw [hash32Ptr_eq, hash32Ptr_eq]
    ac_rfl
  rw [← xor_eq_zero, hswap, xor_eq_zero]

/-! ### Routing -/

/-- `iris_hfi_gen1_handle_response` looks the instance up for these. -/
def ofSession (pktType : U32) : Bool :=
  pktType != hfiMsgSysInit && pktType != hfiMsgSysPcPrep && pktType != hfiMsgSysPropertyInfo

namespace OpenCore

variable (s : OpenCore)

def sessionId (i : Nat) : U32 := (s.core.inst i).inst.sessionId

/-- The firmware's messages for a session reach the instance whose session it is. -/
structure Routed : Prop where
  nonZero : ∀ i ∈ s.core.instances, s.sessionId i ≠ 0
  distinct : ∀ i ∈ s.core.instances, ∀ j ∈ s.core.instances, s.sessionId i = s.sessionId j → i = j
  found : ∀ i ∈ s.core.instances, irisGetInstance s.core (s.sessionId i) = some i
  delivered : ∀ i ∈ s.core.instances, ∀ (env : Gen1Env) (pktType : U32) (mem : Memory),
    ofSession pktType = true → wordAt mem 8 = s.sessionId i →
      (dispatch env pktType s.core).run mem =
        s.core.put i ((handleSession env pktType (s.core.inst i)).run mem)

/-- No address has equal halves, and no two differ by the same bits in both halves. -/
structure AddressesApart : Prop where
  halves : ∀ i ∈ s.core.instances, lowerHalf (s.address i) ≠ upperHalf (s.address i)
  pairs : ∀ i ∈ s.core.instances, ∀ j ∈ s.core.instances,
    upperHalf (s.address i) ^^^ upperHalf (s.address j) =
      lowerHalf (s.address i) ^^^ lowerHalf (s.address j) → i = j

variable {s}

theorem found_of_distinct
    (hdistinct : ∀ i ∈ s.core.instances, ∀ j ∈ s.core.instances,
      s.sessionId i = s.sessionId j → i = j) {i : Nat} (hi : i ∈ s.core.instances) :
    irisGetInstance s.core (s.sessionId i) = some i := by
  unfold irisGetInstance
  cases hfind : s.core.instances.find? fun j =>
      (s.core.inst j).inst.sessionId == s.sessionId i with
  | none =>
      have hmiss := List.find?_eq_none.1 hfind i hi
      exact absurd (beq_self_eq_true _) hmiss
  | some j =>
      have hj : j ∈ s.core.instances := List.mem_of_find?_eq_some hfind
      have hfound := List.find?_some hfind
      have hid : s.sessionId j = s.sessionId i := eq_of_beq hfound
      rw [hdistinct j hj i hi hid]

theorem delivered_of_found {i : Nat} (hfound : irisGetInstance s.core (s.sessionId i) = some i)
    (env : Gen1Env) {pktType : U32} {mem : Memory} (htype : ofSession pktType = true)
    (hword : wordAt mem 8 = s.sessionId i) :
    (dispatch env pktType s.core).run mem =
      s.core.put i ((handleSession env pktType (s.core.inst i)).run mem) := by
  simp only [ofSession, Bool.and_eq_true, bne_iff_ne] at htype
  obtain ⟨⟨hinit, hprep⟩, hversion⟩ := htype
  simp only [dispatch, if_neg hinit, if_neg hprep, if_neg hversion, run_bind, run_word,
    Nat.reduceMul, hword, hfound, run_pure]

theorem sessionId_eq {i : Nat} (hi : i ∈ s.core.instances) :
    s.sessionId i = hash32Ptr (s.address i) := s.hashed i hi

/-- **Session routing.** Messages find their sessions exactly while the addresses of the open
instances do not collide. -/
theorem routed_iff (s : OpenCore) : s.Routed ↔ s.AddressesApart := by
  constructor
  · intro hrouted
    refine ⟨fun i hi heq => ?_, fun i hi j hj heq => ?_⟩
    · apply hrouted.nonZero i hi
      rw [sessionId_eq hi, hash32Ptr_eq_zero]
      exact heq
    · apply hrouted.distinct i hi j hj
      rw [sessionId_eq hi, sessionId_eq hj, hash32Ptr_collide]
      exact heq
  · intro hapart
    have hdistinct : ∀ i ∈ s.core.instances, ∀ j ∈ s.core.instances,
        s.sessionId i = s.sessionId j → i = j := by
      intro i hi j hj heq
      apply hapart.pairs i hi j hj
      rwa [sessionId_eq hi, sessionId_eq hj, hash32Ptr_collide] at heq
    refine ⟨fun i hi hzero => hapart.halves i hi ?_, hdistinct, fun i hi =>
      found_of_distinct hdistinct hi, fun i hi env pktType mem htype hword =>
      delivered_of_found (found_of_distinct hdistinct hi) env htype hword⟩
    rwa [sessionId_eq hi, hash32Ptr_eq_zero] at hzero

/-! ### An address with equal halves -/

def noInstances : OpenCore :=
  empty
    { state := .init
      coreInitDone := 0
      recoveryPending := false
      sysErrorQueued := false
      instances := []
      inst := fun _ => probe .decoder false 0 0 0 }

/-- One decoder, 64 KiB below a boundary of 4 GiB. -/
def folded : OpenCore :=
  irisOpen 0 0xffff0000ffff0000 (probe .decoder false 0 0 0) noInstances nofun (by decide) nofun

theorem folded_unrouted : ¬ ∀ s : OpenCore, s.Routed := by
  intro hall
  have hmem : 0 ∈ folded.core.instances := List.mem_singleton.2 rfl
  have hzero : folded.sessionId 0 = 0 := by decide
  exact (hall folded).nonZero 0 hmem hzero

end OpenCore

end NabuIris
