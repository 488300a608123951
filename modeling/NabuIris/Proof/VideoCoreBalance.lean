import NabuIris.Lib.Balance
import NabuIris.Proof.AdmissionBudget
import NabuIris.VideoCores

/-!
# The balance of the video cores

The loads that `iris_hfi_gen1_decide_core` adds up do not wrap, because the core admits only so many
macroblocks. Each decoder that takes a video core is then a job placed on the lighter side.
-/

namespace NabuIris.VideoCores

open Lib
open FormatSizes (Platform)

/-! ### Loads -/

/-- What a session weighs on its video core. -/
def StreamInst.load (inst : StreamInst) : Int := irisMbpf inst.toLoadInst * inst.coreFps.toNat

namespace StreamCore

variable {core : StreamCore} {history : List Nat} {i : Nat} {mask : U32} {inst : StreamInst}

def coreWeight (core : StreamCore) (mask : U32) (k : Nat) : Int :=
  if (core.inst k).hfiCoreId = mask then (core.inst k).load else 0

/-- The load of a video core. -/
def loadOf (core : StreamCore) (mask : U32) : Int := total (core.coreWeight mask) core.instances

def assigned (core : StreamCore) : List Nat :=
  core.instances.filter fun k => (core.inst k).hfiCoreId ≠ 0

/-- The largest load of one session on a video core. -/
def largestLoad (core : StreamCore) : Int :=
  (core.assigned.map fun k => (core.inst k).load).foldl max 0

/-- What the checks of STREAMON leave, with the sessions in the order in which they took a core. -/
structure Assigned (core : StreamCore) (history : List Nat) : Prop where
  nodup : core.instances.Nodup
  mbpf : core.admission.spent mbpfWeight ≤ core.platform.maxCoreMbpf.toNat
  frame : ∀ k ∈ core.instances, (core.inst k).hfiSessionOpened = true →
    0 ≤ irisMbpf (core.inst k).toLoadInst
  session : ∀ k ∈ core.instances, (core.inst k).hfiCoreId ≠ 0 →
    (core.inst k).hfiSessionOpened = true ∧ (core.inst k).domain = .decoder
  placed : ∀ k ∈ history, k ∈ core.assigned
  loads : (core.loadOf hfiCoreId1, core.loadOf hfiCoreId2) =
    (history.map fun k => (core.inst k).load).foldl place (0, 0)

theorem mem_assigned {k : Nat} :
    k ∈ core.assigned ↔ k ∈ core.instances ∧ (core.inst k).hfiCoreId ≠ 0 := by
  simp [assigned]

theorem admission_setInst :
    (core.setInst i inst).admission = core.admission.setInst i inst.toLoadInst := by
  have hinst : (fun k => ((core.setInst i inst).inst k).toLoadInst) =
      Function.update (fun k => (core.inst k).toLoadInst) i inst.toLoadInst := by
    funext k
    by_cases hk : k = i
    · subst hk
      simp [setInst]
    · simp [setInst, hk]
  simp only [admission, AdmissionCore.setInst, hinst]
  rfl

/-! ### Words -/

theorem load_nonneg (hmbpf : 0 ≤ irisMbpf inst.toLoadInst) : 0 ≤ inst.load :=
  mul_nonneg hmbpf (Int.natCast_nonneg _)

theorem load_le (hmbpf : 0 ≤ irisMbpf inst.toLoadInst) :
    inst.load ≤ irisMbpf inst.toLoadInst * 2 ^ 32 := by
  have hfps : (inst.coreFps.toNat : Int) ≤ 2 ^ 32 := by exact_mod_cast inst.coreFps.isLt.le
  exact mul_le_mul_of_nonneg_left hfps hmbpf

theorem ofInt_load (inst : StreamInst) :
    BitVec.ofInt 64 inst.load =
      (irisGetMbpf inst.toLoadInst).signExtend 64 * inst.coreFps.zeroExtend 64 := by
  rw [StreamInst.load, BitVec.ofInt_mul, AdmissionCore.ofInt_toNat_eq_zeroExtend]
  rfl

theorem Assigned.coreWeight_nonneg (hassigned : core.Assigned history) (hmask : mask ≠ 0)
    {k : Nat} (hmem : k ∈ core.instances) : 0 ≤ core.coreWeight mask k := by
  unfold coreWeight
  split_ifs with hid
  · have hopened := (hassigned.session k hmem (hid ▸ hmask)).1
    exact load_nonneg (hassigned.frame k hmem hopened)
  · exact le_rfl

/-- A session weighs no more than its frames at the highest rate of 32 bits. -/
theorem Assigned.coreWeight_le (hassigned : core.Assigned history) (hmask : mask ≠ 0)
    {k : Nat} (hmem : k ∈ core.instances) :
    core.coreWeight mask k ≤ mbpfWeight (core.inst k).toLoadInst * 2 ^ 32 := by
  unfold coreWeight
  split_ifs with hid
  · have hopened := (hassigned.session k hmem (hid ▸ hmask)).1
    rw [mbpfWeight, if_pos hopened]
    exact load_le (hassigned.frame k hmem hopened)
  · by_cases hopened : (core.inst k).hfiSessionOpened = true
    · exact mul_nonneg (mbpfWeight_nonneg (hassigned.frame k hmem hopened)) (by norm_num)
    · rw [mbpfWeight, if_neg hopened, zero_mul]

theorem Assigned.loadOf_nonneg (hassigned : core.Assigned history) (hmask : mask ≠ 0) :
    0 ≤ core.loadOf mask :=
  total_nonneg fun _ hmem => hassigned.coreWeight_nonneg hmask hmem

theorem Assigned.loadOf_lt (hassigned : core.Assigned history) (hmask : mask ≠ 0) :
    core.loadOf mask < 2 ^ 64 := by
  have hlimit : (core.platform.maxCoreMbpf.toNat : Int) < 2 ^ 32 := by
    exact_mod_cast core.platform.maxCoreMbpf.isLt
  calc core.loadOf mask
      ≤ total (fun k => mbpfWeight (core.inst k).toLoadInst * 2 ^ 32) core.instances :=
        total_le_total fun k hmem => hassigned.coreWeight_le hmask hmem
    _ = core.admission.spent mbpfWeight * 2 ^ 32 := total_mul_right _ _ _
    _ ≤ core.platform.maxCoreMbpf.toNat * 2 ^ 32 :=
        mul_le_mul_of_nonneg_right hassigned.mbpf (by norm_num)
    _ < 2 ^ 64 := by omega

theorem Assigned.toNat_loadOf (hassigned : core.Assigned history) (hmask : mask ≠ 0) :
    ((BitVec.ofInt 64 (core.loadOf mask)).toNat : Int) = core.loadOf mask :=
  ofInt_toNat (hassigned.loadOf_nonneg hmask) (hassigned.loadOf_lt hmask)

/-- The words that the loop adds up. -/
theorem Assigned.coreLoads_eq (hassigned : core.Assigned history)
    (hfree : (core.inst i).hfiCoreId = 0) :
    coreLoads i core =
      (BitVec.ofInt 64 (core.loadOf hfiCoreId1), BitVec.ofInt 64 (core.loadOf hfiCoreId2)) := by
  have hstep : ∀ (loads : U64 × U64), ∀ k ∈ core.instances,
      (let inst := core.inst k
        if k = i ∨ !inst.hfiSessionOpened ∨ inst.domain ≠ .decoder then loads
        else
          let load := (irisGetMbpf inst.toLoadInst).signExtend 64 * inst.coreFps.zeroExtend 64
          if inst.hfiCoreId = hfiCoreId1 then (loads.1 + load, loads.2)
          else if inst.hfiCoreId = hfiCoreId2 then (loads.1, loads.2 + load)
          else loads) =
        (loads.1 + BitVec.ofInt 64 (core.coreWeight hfiCoreId1 k),
          loads.2 + BitVec.ofInt 64 (core.coreWeight hfiCoreId2 k)) := by
    intro loads k hmem
    have hdiffer : hfiCoreId1 ≠ hfiCoreId2 := by decide
    simp only [coreWeight, ← ofInt_load]
    by_cases hid : (core.inst k).hfiCoreId = 0
    · have hfirst : ¬(core.inst k).hfiCoreId = hfiCoreId1 := by simp [hid, hfiCoreId1]
      have hsecond : ¬(core.inst k).hfiCoreId = hfiCoreId2 := by simp [hid, hfiCoreId2]
      simp [hfirst, hsecond]
    · obtain ⟨hopened, hdecoder⟩ := hassigned.session k hmem hid
      have hother : k ≠ i := by
        rintro rfl
        exact hid hfree
      by_cases hfirst : (core.inst k).hfiCoreId = hfiCoreId1
      · simp [hopened, hdecoder, hother, hfirst, hdiffer]
      · by_cases hsecond : (core.inst k).hfiCoreId = hfiCoreId2
        · simp [hopened, hdecoder, hother, hsecond, hdiffer.symm]
        · simp [hfirst, hsecond]
  rw [coreLoads, List.foldl_ext _ _ _ fun loads k hmem => hstep loads k hmem, foldl_ofInt]
  simp [loadOf]

/-! ### Sessions -/

theorem of_sessionSupported (hsupported : irisCheckSessionSupported i core = 0) :
    i ∈ core.instances ∧ irisCheckInstMbpf core.platform (core.inst i).toLoadInst = 0 := by
  unfold irisCheckSessionSupported at hsupported
  have hmem : i ∈ core.instances := by
    by_contra hout
    rw [if_pos hout] at hsupported
    exact absurd hsupported (by decide)
  rw [if_neg (not_not.2 hmem)] at hsupported
  by_cases hcore : irisCheckCoreMbpf i core = 0
  · rw [if_neg (not_not.2 hcore)] at hsupported
    refine ⟨hmem, ?_⟩
    by_contra hlarge
    rw [if_pos hlarge] at hsupported
    exact hlarge hsupported
  · rw [if_pos hcore] at hsupported
    exact absurd hsupported hcore

/-- STREAMON changes nothing but the session of an instance that had none. -/
theorem irisVb2StartSession_cases (i : Nat) (initRet : Int) (core : StreamCore) :
    (irisVb2StartSession i initRet core).2 = core ∨
      i ∈ core.instances ∧ ¬(core.inst i).hfiSessionOpened = true ∧
        irisCheckInstMbpf core.platform (core.inst i).toLoadInst = 0 ∧
        ((irisVb2StartSession i initRet core).2 = core.setInst i (core.inst i).released ∨
          (irisHfiSessionOpenSection i core.admission).1 = 0 ∧
            (irisVb2StartSession i initRet core).2 =
              core.setInst i { core.inst i with
                toLoadInst := (irisHfiSessionOpenSection i core.admission).2.inst i }) := by
  by_cases hsupported : irisCheckSessionSupported i core = 0
  · obtain ⟨hmem, hmbpf⟩ := of_sessionSupported hsupported
    simp only [irisVb2StartSession, hsupported, ne_eq, not_true_eq_false, if_false,
      irisHfiSessionOpen]
    split_ifs with hopened hsection hinit
    · exact Or.inl rfl
    · exact Or.inr ⟨hmem, hopened, hmbpf, Or.inr ⟨hsection, rfl⟩⟩
    · exact Or.inr ⟨hmem, hopened, hmbpf, Or.inl rfl⟩
    · exact Or.inl rfl
  · left
    simp only [irisVb2StartSession, ne_eq, hsupported, not_false_eq_true, if_true]

theorem of_sessionOpenSection {core : AdmissionCore}
    (hopened : ¬(core.inst i).hfiSessionOpened = true)
    (hret : (irisHfiSessionOpenSection i core).1 = 0) :
    (irisHfiSessionOpenSection i core).2.inst i = { core.inst i with hfiSessionOpened := true } ∧
      ¬core.limits.maxCoreMbpf.zeroExtend 64 <
        (activeLoad core).2 + (irisGetMbpf (core.inst i)).signExtend 64 := by
  simp only [irisHfiSessionOpenSection, if_neg hopened] at hret ⊢
  by_cases hcount : core.limits.maxSessionCount ≤ (activeLoad core).1
  · rw [if_pos hcount] at hret
    exact absurd hret (by decide : -ebusy ≠ 0)
  · rw [if_neg hcount] at hret ⊢
    by_cases hframe : core.limits.maxCoreMbpf.zeroExtend 64 <
        (activeLoad core).2 + (irisGetMbpf (core.inst i)).signExtend 64
    · rw [if_pos hframe] at hret
      exact absurd hret (by decide : -enomem ≠ 0)
    · rw [if_neg hframe]
      exact ⟨Function.update_self .., hframe⟩

/-! ### One step -/

/-- The same sessions on the same video cores. -/
structure SameCores (core core' : StreamCore) : Prop where
  instances : core'.instances = core.instances
  hfiCoreId : ∀ k ∈ core.instances, (core'.inst k).hfiCoreId = (core.inst k).hfiCoreId
  load : ∀ k, (core'.inst k).load = (core.inst k).load

theorem SameCores.loadOf_eq {core' : StreamCore} (hsame : SameCores core core') :
    core'.loadOf mask = core.loadOf mask := by
  rw [loadOf, loadOf, hsame.instances]
  apply total_congr
  intro k hmem
  rw [coreWeight, coreWeight, hsame.hfiCoreId k hmem, hsame.load k]

theorem SameCores.assigned_eq {core' : StreamCore} (hsame : SameCores core core') :
    core'.assigned = core.assigned := by
  rw [StreamCore.assigned, StreamCore.assigned, hsame.instances]
  apply List.filter_congr
  intro k hmem
  rw [hsame.hfiCoreId k hmem]

/-- An instance changes, but neither its formats nor its rates. -/
theorem load_setInst (hload : inst.load = (core.inst i).load) (k : Nat) :
    ((core.setInst i inst).inst k).load = (core.inst k).load :=
  setInst_rule (P := fun k inst => inst.load = (core.inst k).load) hload (fun _ _ => rfl) k

theorem hfiCoreId_setInst (hid : inst.hfiCoreId = (core.inst i).hfiCoreId) (k : Nat) :
    ((core.setInst i inst).inst k).hfiCoreId = (core.inst k).hfiCoreId :=
  setInst_rule (P := fun k inst => inst.hfiCoreId = (core.inst k).hfiCoreId) hid (fun _ _ => rfl) k

theorem Assigned.free_of_closed (hassigned : core.Assigned history) (hmem : i ∈ core.instances)
    (hclosed : ¬(core.inst i).hfiSessionOpened = true) : (core.inst i).hfiCoreId = 0 := by
  by_contra htaken
  exact hclosed (hassigned.session i hmem htaken).1

/-- An instance without a session has no video core, whatever becomes of its session. -/
theorem Assigned.setSession (hassigned : core.Assigned history) (hmem : i ∈ core.instances)
    (hclosed : ¬(core.inst i).hfiSessionOpened = true)
    (hid : inst.hfiCoreId = 0) (hload : inst.load = (core.inst i).load)
    (hframe : inst.hfiSessionOpened = true → 0 ≤ irisMbpf inst.toLoadInst)
    (hmbpf : core.admission.spent mbpfWeight + mbpfWeight inst.toLoadInst ≤
      core.platform.maxCoreMbpf.toNat) :
    (core.setInst i inst).Assigned history ∧ SameCores core (core.setInst i inst) := by
  have hfree := hassigned.free_of_closed hmem hclosed
  have hids : ∀ k, ((core.setInst i inst).inst k).hfiCoreId = (core.inst k).hfiCoreId :=
    hfiCoreId_setInst (hid.trans hfree.symm)
  have hsame : SameCores core (core.setInst i inst) :=
    { instances := rfl, hfiCoreId := fun k _ => hids k, load := load_setInst hload }
  have hzero : mbpfWeight (core.inst i).toLoadInst = 0 := if_neg hclosed
  have hspent : core.admission.spent mbpfWeight = core.admission.spentWithout i mbpfWeight := by
    rw [AdmissionCore.spent_eq (i := i) hmem]
    show _ + mbpfWeight (core.inst i).toLoadInst = _
    rw [hzero, add_zero]
  refine ⟨⟨hassigned.nodup, ?_, ?_, ?_, ?_, ?_⟩, hsame⟩
  · rw [admission_setInst, AdmissionCore.spent_setInst hassigned.nodup hmem, ← hspent]
    exact hmbpf
  · exact setInst_rule (P := fun k inst => k ∈ core.instances →
      inst.hfiSessionOpened = true → 0 ≤ irisMbpf inst.toLoadInst)
      (fun _ => hframe) fun k _ => hassigned.frame k
  · exact setInst_rule (P := fun k inst => k ∈ core.instances →
      inst.hfiCoreId ≠ 0 → inst.hfiSessionOpened = true ∧ inst.domain = .decoder)
      (fun _ htaken => absurd hid htaken) fun k _ => hassigned.session k
  · intro k hk
    rw [hsame.assigned_eq]
    exact hassigned.placed k hk
  · rw [hsame.loadOf_eq, hsame.loadOf_eq, hassigned.loads]
    simp only [hsame.load]

theorem mbpf_nonneg {platform : Platform} {inst : LoadInst}
    (hcheck : irisCheckInstMbpf platform inst = 0) : 0 ≤ irisMbpf inst := by
  have hmax : platform.maxMbpf.toNat < 2 ^ 31 := by cases platform <;> decide
  have hle : (irisGetMbpf inst).toNat ≤ platform.maxMbpf.toNat := by
    unfold irisCheckInstMbpf at hcheck
    split_ifs at hcheck with hlarge
    · exact absurd hcheck (by decide)
    · exact BitVec.le_def.1 (BitVec.not_lt.1 hlarge)
  rw [irisMbpf, BitVec.toInt_eq_toNat_cond, if_pos (by omega)]
  exact Int.natCast_nonneg _

theorem Assigned.start (hassigned : core.Assigned history) (initRet : Int) :
    (irisVb2StartSession i initRet core).2.Assigned history ∧
      SameCores core (irisVb2StartSession i initRet core).2 := by
  obtain hsame | ⟨hmem, hclosed, hcheck, hreleased | ⟨hret, hopened⟩⟩ :=
    irisVb2StartSession_cases i initRet core
  · rw [hsame]
    exact ⟨hassigned, rfl, fun _ _ => rfl, fun _ => rfl⟩
  · rw [hreleased]
    refine hassigned.setSession hmem hclosed rfl rfl (fun hopen => Bool.noConfusion hopen) ?_
    have hzero : mbpfWeight (core.inst i).released.toLoadInst = 0 := rfl
    rw [hzero, add_zero]
    exact hassigned.mbpf
  · rw [hopened]
    have hfree := hassigned.free_of_closed hmem hclosed
    obtain ⟨hinst, hframe⟩ := of_sessionOpenSection hclosed hret
    have hmbpf := hassigned.mbpf
    have hlt := AdmissionCore.irisMbpf_lt (core.inst i).toLoadInst
    have hlimit := core.platform.maxCoreMbpf.isLt
    rw [hinst]
    refine hassigned.setSession hmem hclosed hfree rfl (fun _ => mbpf_nonneg hcheck) ?_
    rw [mbpfWeight, if_pos rfl]
    apply AdmissionCore.le_limit_of_not_lt
    · show core.admission.spent mbpfWeight + irisMbpf (core.inst i).toLoadInst < 2 ^ 64
      omega
    · rw [AdmissionCore.activeLoad_eq] at hframe
      rw [BitVec.ofInt_add]
      exact hframe

/-! ### A video core -/

theorem assignCore_of_taken (htaken : (core.inst i).hfiCoreId ≠ 0) : assignCore i core = core :=
  if_pos htaken

theorem assignCore_of_free (hfree : (core.inst i).hfiCoreId = 0) :
    ∃ mask, (mask = hfiCoreId1 ∨ mask = hfiCoreId2) ∧
      (mask = hfiCoreId2 ↔ core.platform.legacyVpu5 ∧ 1 < core.platform.numVppPipe ∧
        (coreLoads i core).2 < (coreLoads i core).1) ∧
      assignCore i core = core.setInst i ((core.inst i).onCore mask) := by
  have hdiffer : hfiCoreId1 ≠ hfiCoreId2 := by decide
  simp only [assignCore, if_neg (not_not.2 hfree)]
  split_ifs with hsecond
  · exact ⟨_, Or.inr rfl, iff_of_true rfl hsecond, rfl⟩
  · exact ⟨_, Or.inl rfl, iff_of_false hdiffer hsecond, rfl⟩

theorem decideCore_of_taken {setRet : Int} (htaken : (core.inst i).hfiCoreId ≠ 0) :
    irisHfiGen1DecideCore i setRet core = (setRet, core) := by
  simp only [irisHfiGen1DecideCore, assignCore_of_taken htaken, htaken, and_false, if_false]

theorem decideCore_of_accepted : irisHfiGen1DecideCore i 0 core = (0, assignCore i core) := by
  simp only [irisHfiGen1DecideCore, ne_eq, not_true_eq_false, false_and, if_false]

/-- A failed command leaves nothing of a new assignment. -/
theorem decideCore_of_failed {setRet : Int} (hfree : (core.inst i).hfiCoreId = 0)
    (hfailed : setRet ≠ 0) : irisHfiGen1DecideCore i setRet core = (setRet, core) := by
  obtain ⟨mask, -, -, hassign⟩ := assignCore_of_free hfree
  have hundone : unassignCore i ((assignCore i core).inst i).hfiCoreId (assignCore i core) =
      core := by
    rw [unassignCore, if_pos rfl, hassign, inst_setInst_self]
    have hinst : ((core.inst i).onCore mask).onCore 0 = core.inst i := by
      rw [← hfree]
      rfl
    simp only [setInst, Function.update_idem, hinst, Function.update_eq_self]
  simp only [irisHfiGen1DecideCore, hundone]
  rw [if_pos ⟨hfailed, hfree⟩]

theorem loadOf_onCore (hassigned : core.Assigned history) (hmem : i ∈ core.instances)
    (hfree : (core.inst i).hfiCoreId = 0) (hmask : mask ≠ 0) (taken : U32) :
    (core.setInst i ((core.inst i).onCore taken)).loadOf mask =
      core.loadOf mask + if taken = mask then (core.inst i).load else 0 := by
  have hweights : (core.setInst i ((core.inst i).onCore taken)).coreWeight mask =
      Function.update (core.coreWeight mask) i
        (if taken = mask then (core.inst i).load else 0) := by
    funext k
    by_cases hk : k = i
    · subst hk
      rw [coreWeight, inst_setInst_self, Function.update_self]
      rfl
    · rw [coreWeight, inst_setInst_of_ne hk, Function.update_of_ne hk, coreWeight]
  have hzero : core.coreWeight mask i = 0 := if_neg (hfree ▸ hmask.symm)
  rw [loadOf, loadOf, hweights]
  show total _ core.instances = _
  rw [total_update hassigned.nodup hmem, total_eq_erase hmem, hzero, add_zero]

/-- A decoder takes a video core as a job that is placed. -/
theorem Assigned.assignCore (hassigned : core.Assigned history) (hmem : i ∈ core.instances)
    (hopened : (core.inst i).hfiSessionOpened = true) (hdecoder : (core.inst i).domain = .decoder)
    (hlegacy : core.platform.legacyVpu5 = true) (hpipes : core.platform.numVppPipe = 2)
    (hfree : (core.inst i).hfiCoreId = 0) :
    (VideoCores.assignCore i core).Assigned (history ++ [i]) := by
  obtain ⟨mask, hmask, hlighter, hassign⟩ := assignCore_of_free hfree
  have hmaskPos : mask ≠ 0 := by
    rcases hmask with rfl | rfl <;> decide
  have hload : ∀ k, ((core.setInst i ((core.inst i).onCore mask)).inst k).load =
      (core.inst k).load := load_setInst rfl
  rw [hassign]
  refine ⟨hassigned.nodup, ?_, ?_, ?_, ?_, ?_⟩
  · rw [admission_setInst]
    show (core.admission.setInst i (core.admission.inst i)).spent mbpfWeight ≤ _
    rw [AdmissionCore.setInst, Function.update_eq_self]
    exact hassigned.mbpf
  · exact setInst_rule (P := fun k inst => k ∈ core.instances →
      inst.hfiSessionOpened = true → 0 ≤ irisMbpf inst.toLoadInst)
      (hassigned.frame i) fun k _ => hassigned.frame k
  · exact setInst_rule (P := fun k inst => k ∈ core.instances →
      inst.hfiCoreId ≠ 0 → inst.hfiSessionOpened = true ∧ inst.domain = .decoder)
      (fun _ _ => ⟨hopened, hdecoder⟩) fun k _ => hassigned.session k
  · intro k hk
    rw [mem_assigned]
    rcases List.mem_append.1 hk with hold | hnew
    · obtain ⟨hk, htaken⟩ := mem_assigned.1 (hassigned.placed k hold)
      have hki : k ≠ i := by
        rintro rfl
        exact htaken hfree
      rw [inst_setInst_of_ne hki]
      exact ⟨hk, htaken⟩
    · rw [List.mem_singleton.1 hnew, inst_setInst_self]
      exact ⟨hmem, hmaskPos⟩
  · have hwords : (coreLoads i core).2 < (coreLoads i core).1 ↔
        core.loadOf hfiCoreId2 < core.loadOf hfiCoreId1 := by
      have hfirst : ((BitVec.ofInt 64 (core.loadOf hfiCoreId1)).toNat : Int) =
        core.loadOf hfiCoreId1 := hassigned.toNat_loadOf (by decide)
      have hsecond : ((BitVec.ofInt 64 (core.loadOf hfiCoreId2)).toNat : Int) =
        core.loadOf hfiCoreId2 := hassigned.toNat_loadOf (by decide)
      rw [hassigned.coreLoads_eq hfree, BitVec.lt_def]
      dsimp only
      omega
    have hless : mask = hfiCoreId2 ↔ core.loadOf hfiCoreId2 < core.loadOf hfiCoreId1 := by
      simp [hlighter, hwords, hlegacy, hpipes]
    simp only [hload]
    rw [List.map_append, List.foldl_append, ← hassigned.loads,
      loadOf_onCore hassigned hmem hfree (by decide),
      loadOf_onCore hassigned hmem hfree (by decide)]
    simp only [List.map_cons, List.map_nil, List.foldl_cons, List.foldl_nil, place, ← hless]
    rcases hmask with rfl | rfl
    · rw [if_pos rfl, if_neg (by decide), if_neg (by decide), add_zero]
    · rw [if_neg (by decide), if_pos rfl, if_pos rfl, add_zero]

/-! ### Runs -/

variable {core' : StreamCore}

/-- A session on a video core stays there. -/
structure Keeps (core core' : StreamCore) : Prop where
  platform : core'.platform = core.platform
  hfiCoreId : ∀ k ∈ core.instances, (core.inst k).hfiCoreId ≠ 0 →
    (core'.inst k).hfiCoreId = (core.inst k).hfiCoreId

theorem Keeps.refl (core : StreamCore) : Keeps core core := ⟨rfl, fun _ _ _ => rfl⟩

theorem Keeps.assignCore (hfree : (core.inst i).hfiCoreId = 0) :
    Keeps core (VideoCores.assignCore i core) := by
  obtain ⟨mask, -, -, hassign⟩ := assignCore_of_free hfree
  rw [hassign]
  refine ⟨rfl, fun k hk htaken => ?_⟩
  have hki : k ≠ i := by
    rintro rfl
    exact htaken hfree
  rw [inst_setInst_of_ne hki]

theorem platform_start (initRet : Int) :
    (irisVb2StartSession i initRet core).2.platform = core.platform := by
  obtain hsame | ⟨-, -, -, hreleased | ⟨-, hopened⟩⟩ := irisVb2StartSession_cases i initRet core
  · rw [hsame]
  · rw [hreleased]
    rfl
  · rw [hopened]
    rfl

/-- One operation places at most one job, and moves none. -/
theorem Assigned.apply (hassigned : core.Assigned history)
    (hlegacy : core.platform.legacyVpu5 = true) (hpipes : core.platform.numVppPipe = 2)
    (op : StreamOnOp) :
    (∃ added, (core.apply op).Assigned (history ++ added)) ∧ Keeps core (core.apply op) := by
  have hstays : (∃ added, core.Assigned (history ++ added)) ∧ Keeps core core :=
    ⟨⟨[], by rwa [List.append_nil]⟩, .refl core⟩
  cases op with
  | start i initRet =>
      obtain ⟨hafter, hsame⟩ := hassigned.start (i := i) initRet
      refine ⟨⟨[], ?_⟩, platform_start initRet, fun k hk _ => hsame.hfiCoreId k hk⟩
      rwa [List.append_nil]
  | decideCore i setRet =>
      simp only [StreamCore.apply]
      split_ifs with hsent
      · obtain ⟨hmem, hopened, hdecoder⟩ := hsent
        by_cases hfree : (core.inst i).hfiCoreId = 0
        · by_cases hfailed : setRet = 0
          · rw [hfailed, decideCore_of_accepted]
            exact ⟨⟨[i], hassigned.assignCore hmem hopened hdecoder hlegacy hpipes hfree⟩,
              .assignCore hfree⟩
          · rw [decideCore_of_failed hfree hfailed]
            exact hstays
        · rw [decideCore_of_taken hfree]
          exact hstays
      · exact hstays

/-- An instance that has not streamed. -/
def Idle (inst : StreamInst) : Prop := inst.hfiSessionOpened = false ∧ inst.hfiCoreId = 0

theorem assigned_of_idle (hnodup : core.instances.Nodup)
    (hidle : ∀ k ∈ core.instances, Idle (core.inst k)) : core.Assigned [] := by
  have hzero : total (fun _ => 0) core.instances = 0 := by simp [total]
  have hnone : ∀ mask, mask ≠ 0 → core.loadOf mask = 0 := by
    intro mask hmask
    rw [← hzero]
    exact total_congr fun k hk => if_neg ((hidle k hk).2 ▸ hmask.symm)
  have hspent : core.admission.spent mbpfWeight = 0 := by
    rw [← hzero]
    refine total_congr fun k hk => if_neg ?_
    exact Bool.eq_false_iff.1 (hidle k hk).1
  refine ⟨hnodup, ?_, ?_, ?_, ?_, ?_⟩
  · rw [hspent]
    exact Int.natCast_nonneg _
  · intro k hk hopened
    rw [(hidle k hk).1] at hopened
    exact Bool.noConfusion hopened
  · intro k hk htaken
    exact absurd (hidle k hk).2 htaken
  · intro k hk
    exact absurd hk List.not_mem_nil
  · rw [hnone _ (by decide), hnone _ (by decide)]
    rfl

theorem Assigned.run (hassigned : core.Assigned history)
    (hlegacy : core.platform.legacyVpu5 = true) (hpipes : core.platform.numVppPipe = 2)
    (ops : List StreamOnOp) :
    (core.run ops).platform = core.platform ∧ ∃ history', (core.run ops).Assigned history' := by
  induction ops using List.reverseRecOn with
  | nil => exact ⟨rfl, history, hassigned⟩
  | append_singleton ops op ih =>
      obtain ⟨hplatform, history', hbefore⟩ := ih
      rw [← hplatform] at hlegacy hpipes
      obtain ⟨⟨added, hafter⟩, hkeeps⟩ := hbefore.apply hlegacy hpipes op
      rw [StreamCore.run, List.foldl_append]
      exact ⟨hkeeps.platform.trans hplatform, _, hafter⟩

/-- No more than the largest job apart. -/
theorem Assigned.imbalance_le (hassigned : core.Assigned history) :
    |core.loadOf hfiCoreId1 - core.loadOf hfiCoreId2| ≤ core.largestLoad := by
  have hjobs : ∀ load ∈ history.map fun k => (core.inst k).load, 0 ≤ load := by
    intro load hload
    obtain ⟨k, hk, rfl⟩ := List.mem_map.1 hload
    obtain ⟨hmem, htaken⟩ := mem_assigned.1 (hassigned.placed k hk)
    exact load_nonneg (hassigned.frame k hmem (hassigned.session k hmem htaken).1)
  have hlargest := foldl_max_le.1 (le_refl core.largestLoad)
  calc |core.loadOf hfiCoreId1 - core.loadOf hfiCoreId2|
      = imbalance ((history.map fun k => (core.inst k).load).foldl place (0, 0)) := by
        rw [← hassigned.loads, imbalance]
    _ ≤ (history.map fun k => (core.inst k).load).foldl max (imbalance (0, 0)) :=
        imbalance_foldl_le hjobs
    _ ≤ core.largestLoad := by
        have hzero : imbalance ((0, 0) : Int × Int) = 0 := rfl
        refine foldl_max_le.2 ⟨hzero.trans_le hlargest.1, fun load hload => hlargest.2 load ?_⟩
        obtain ⟨k, hk, rfl⟩ := List.mem_map.1 hload
        exact List.mem_map_of_mem (hassigned.placed k hk)

end StreamCore

open StreamCore

/-- **Balanced video cores.** Sessions that take a video core one after the other leave the two
loads no further apart than the largest of them, and stay where they are; a failed command takes
none. -/
theorem video_cores_balanced {core : StreamCore} (hlegacy : core.platform.legacyVpu5 = true)
    (hpipes : core.platform.numVppPipe = 2) (hnodup : core.instances.Nodup)
    (hidle : ∀ k ∈ core.instances, Idle (core.inst k)) (ops : List StreamOnOp) :
    let after := core.run ops
    |after.loadOf hfiCoreId1 - after.loadOf hfiCoreId2| ≤ after.largestLoad ∧
      (∀ op, ∀ k ∈ after.instances, (after.inst k).hfiCoreId ≠ 0 →
        ((after.apply op).inst k).hfiCoreId = (after.inst k).hfiCoreId) ∧
      ∀ i setRet, (after.inst i).hfiCoreId = 0 → setRet ≠ 0 →
        irisHfiGen1DecideCore i setRet after = (setRet, after) := by
  intro after
  obtain ⟨hplatform, history, hassigned⟩ :=
    (assigned_of_idle hnodup hidle).run hlegacy hpipes ops
  rw [← hplatform] at hlegacy hpipes
  refine ⟨hassigned.imbalance_le, fun op => ?_, fun i setRet => decideCore_of_failed⟩
  exact (hassigned.apply hlegacy hpipes op).2.hfiCoreId

/-- Decoders of default size, before they stream. -/
def idleDecoders (count : Nat) : StreamCore where
  platform := .sm8150
  instances := List.range count
  inst _ :=
    { toLoadInst := .opened { size := fun _ => 12451840, count := fun _ => 4 } .decoder
      frameRate := maximumFps
      operatingRate := 0
      hfiCoreId := 0 }

/-- The command of the second decoder fails, and the third takes the second video core. -/
theorem video_cores_balanced_three :
    let after := (idleDecoders 3).run
      [.start 0 0, .decideCore 0 0, .start 1 0, .decideCore 1 (-5), .start 2 0, .decideCore 2 0]
    ((List.range 3).map fun k => (after.inst k).hfiCoreId) = [1, 0, 2] ∧
      |after.loadOf hfiCoreId1 - after.loadOf hfiCoreId2| ≤ after.largestLoad := by
  refine ⟨by decide +kernel, (@video_cores_balanced (idleDecoders 3) rfl rfl ?_ ?_ _).1⟩
  · decide
  · exact fun _ _ => ⟨rfl, rfl⟩

end NabuIris.VideoCores
