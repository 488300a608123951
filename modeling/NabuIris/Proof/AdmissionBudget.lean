import Mathlib.Tactic.Linarith
import Mathlib.Tactic.Positivity
import NabuIris.Admission
import NabuIris.Lib.Run
import NabuIris.Lib.Totals

/-!
# What admission control guarantees

A session or a load is admitted within the budgets of the core, and giving one up only lowers what
is spent. What was admitted is not looked at again when its formats change, so a budget holds in
every run in which each change of the formats of an admitted instance still fits, and in no other.
-/

namespace NabuIris

open Lib

/-! ### What is spent -/

def irisMbpf (inst : LoadInst) : Int := (irisGetMbpf inst).toInt

def sessionWeight (inst : LoadInst) : Int := if inst.hfiSessionOpened then 1 else 0

def mbpfWeight (inst : LoadInst) : Int := if inst.hfiSessionOpened then irisMbpf inst else 0

def mbpsWeight (inst : LoadInst) : Int :=
  if inst.coreLoadReserved then irisMbpf inst * inst.admissionFrameRate.toNat else 0

def LoadInst.FourK (inst : LoadInst) : Prop := iris1FourKMbpf.toInt ≤ irisMbpf inst

instance (inst : LoadInst) : Decidable inst.FourK := inferInstanceAs (Decidable (_ ≤ _))

def fourKWeight (inst : LoadInst) : Int :=
  if inst.coreLoadReserved = true ∧ inst.FourK then 1 else 0

namespace AdmissionCore

def spent (core : AdmissionCore) (weight : LoadInst → Int) : Int :=
  total (fun k => weight (core.inst k)) core.instances

/-- What the other instances spend. -/
def spentWithout (core : AdmissionCore) (i : Nat) (weight : LoadInst → Int) : Int :=
  total (fun k => weight (core.inst k)) (core.instances.erase i)

/-- The budgets of the core. -/
structure WithinBudgets (core : AdmissionCore) : Prop where
  sessions : core.spent sessionWeight ≤ core.limits.maxSessionCount.toNat
  mbpf : core.spent mbpfWeight ≤ core.limits.maxCoreMbpf.toNat
  mbps : core.spent mbpsWeight ≤ core.limits.maxCoreMbps.toNat
  fourK : core.limits.legacyVpu5 = true → core.spent fourKWeight ≤ 3

/-- The budgets with `inst` in the place of instance `i`. -/
structure Admits (core : AdmissionCore) (i : Nat) (inst : LoadInst) : Prop where
  mbpf : inst.hfiSessionOpened = true →
    core.spentWithout i mbpfWeight + irisMbpf inst ≤ core.limits.maxCoreMbpf.toNat
  mbps : inst.coreLoadReserved = true →
    core.spentWithout i mbpsWeight + irisMbpf inst * inst.admissionFrameRate.toNat ≤
      core.limits.maxCoreMbps.toNat
  fourK : core.limits.legacyVpu5 = true → inst.coreLoadReserved = true → inst.FourK →
    core.spentWithout i fourKWeight < 3

def OthersMbpfFit (core : AdmissionCore) (i : Nat) : Prop :=
  core.spentWithout i mbpfWeight ≤ core.limits.maxCoreMbpf.toNat

def OthersMbpsFit (core : AdmissionCore) (i : Nat) : Prop :=
  core.spentWithout i mbpsWeight ≤ core.limits.maxCoreMbps.toNat

end AdmissionCore

/-- An admitted instance still fits when its formats change. Where the macroblocks of a frame
overflowed an `int`, the others fit without it. -/
def AdmissionOp.Fits (rules : OutputRules) (core : AdmissionCore) : AdmissionOp → Prop
  | .setFormat i change =>
      i ∈ core.instances → core.Admits i (change.apply rules core.limits (core.inst i))
  | .remove i | .releaseSlot i | .sessionClose i =>
      i ∈ core.instances → irisMbpf (core.inst i) < 0 → core.OthersMbpfFit i ∧ core.OthersMbpsFit i
  | .release i => i ∈ core.instances → irisMbpf (core.inst i) < 0 → core.OthersMbpsFit i
  | _ => True

/-! ### Weights -/

theorem mbpsWeight_nonneg {inst : LoadInst} (hmbpf : 0 ≤ irisMbpf inst) : 0 ≤ mbpsWeight inst := by
  unfold mbpsWeight
  split_ifs
  · positivity
  · exact le_rfl

theorem mbpfWeight_nonneg {inst : LoadInst} (hmbpf : 0 ≤ irisMbpf inst) : 0 ≤ mbpfWeight inst := by
  unfold mbpfWeight
  split_ifs
  · exact hmbpf
  · exact le_rfl

theorem sessionWeight_nonneg (inst : LoadInst) : 0 ≤ sessionWeight inst := by
  unfold sessionWeight
  split_ifs <;> decide

theorem fourKWeight_nonneg (inst : LoadInst) : 0 ≤ fourKWeight inst := by
  unfold fourKWeight
  split_ifs <;> decide

namespace AdmissionCore

variable {core : AdmissionCore} {i : Nat} {weight : LoadInst → Int} {inst : LoadInst}

theorem spent_eq (hmem : i ∈ core.instances) :
    core.spent weight = core.spentWithout i weight + weight (core.inst i) := total_eq_erase hmem

theorem weight_setInst : (fun k => weight ((core.setInst i inst).inst k)) =
    Function.update (fun k => weight (core.inst k)) i (weight inst) := by
  funext k
  by_cases hk : k = i
  · subst hk
    simp [setInst]
  · simp [setInst, hk]

theorem spent_setInst (hnodup : core.instances.Nodup) (hmem : i ∈ core.instances) :
    (core.setInst i inst).spent weight = core.spentWithout i weight + weight inst := by
  rw [spent, weight_setInst]
  exact total_update hnodup hmem (weight inst)

theorem withinBudgets_setInst (hnodup : core.instances.Nodup) (hmem : i ∈ core.instances) :
    (core.setInst i inst).WithinBudgets ↔
      core.spentWithout i sessionWeight + sessionWeight inst ≤ core.limits.maxSessionCount.toNat ∧
        core.spentWithout i mbpfWeight + mbpfWeight inst ≤ core.limits.maxCoreMbpf.toNat ∧
        core.spentWithout i mbpsWeight + mbpsWeight inst ≤ core.limits.maxCoreMbps.toNat ∧
        (core.limits.legacyVpu5 = true →
          core.spentWithout i fourKWeight + fourKWeight inst ≤ 3) := by
  constructor
  · intro hwithin
    have hsessions := hwithin.sessions
    have hmbpf := hwithin.mbpf
    have hmbps := hwithin.mbps
    have hfourK := hwithin.fourK
    rw [spent_setInst hnodup hmem] at hsessions hmbpf hmbps hfourK
    exact ⟨hsessions, hmbpf, hmbps, hfourK⟩
  · rintro ⟨hsessions, hmbpf, hmbps, hfourK⟩
    constructor <;> rw [spent_setInst hnodup hmem]
    · exact hsessions
    · exact hmbpf
    · exact hmbps
    · exact hfourK

/-! ### Leaving -/

theorem WithinBudgets.without (hwithin : core.WithinBudgets) (hmem : i ∈ core.instances) :
    core.spentWithout i sessionWeight ≤ core.limits.maxSessionCount.toNat ∧
      (0 ≤ irisMbpf (core.inst i) → core.OthersMbpfFit i ∧ core.OthersMbpsFit i) ∧
      (core.limits.legacyVpu5 = true → core.spentWithout i fourKWeight ≤ 3) := by
  have hsplit : ∀ weight, core.spent weight = core.spentWithout i weight + weight (core.inst i) :=
    fun weight => spent_eq hmem
  refine ⟨?_, fun hmbpf => ⟨?_, ?_⟩, fun hlegacy => ?_⟩
  · have hle := hwithin.sessions
    have hpos := sessionWeight_nonneg (core.inst i)
    rw [hsplit] at hle
    omega
  · have hle := hwithin.mbpf
    have hpos := mbpfWeight_nonneg hmbpf
    rw [hsplit] at hle
    unfold OthersMbpfFit
    omega
  · have hle := hwithin.mbps
    have hpos := mbpsWeight_nonneg hmbpf
    rw [hsplit] at hle
    unfold OthersMbpsFit
    omega
  · have hle := hwithin.fourK hlegacy
    have hpos := fourKWeight_nonneg (core.inst i)
    rw [hsplit] at hle
    omega

/-- What is left when an instance gives up all it has. -/
theorem withinBudgets_close_iff (hnodup : core.instances.Nodup) (hmem : i ∈ core.instances)
    (hwithin : core.WithinBudgets) :
    (core.setInst i (core.inst i).closed).WithinBudgets ↔
      (irisMbpf (core.inst i) < 0 → core.OthersMbpfFit i ∧ core.OthersMbpsFit i) := by
  obtain ⟨hsessions, hfit, hfourK⟩ := hwithin.without hmem
  have hsession : sessionWeight (core.inst i).closed = 0 := rfl
  have hmbpf : mbpfWeight (core.inst i).closed = 0 := rfl
  have hmbps : mbpsWeight (core.inst i).closed = 0 := rfl
  have hlarge : fourKWeight (core.inst i).closed = 0 := rfl
  rw [withinBudgets_setInst hnodup hmem, hsession, hmbpf, hmbps, hlarge]
  simp only [add_zero]
  constructor
  · rintro ⟨-, hframe, hload, -⟩ -
    exact ⟨hframe, hload⟩
  · intro hneg
    have hothers : core.OthersMbpfFit i ∧ core.OthersMbpsFit i :=
      (lt_or_ge (irisMbpf (core.inst i)) 0).elim hneg hfit
    exact ⟨hsessions, hothers.1, hothers.2, hfourK⟩

theorem withinBudgets_release_iff (hnodup : core.instances.Nodup) (hmem : i ∈ core.instances)
    (hwithin : core.WithinBudgets) :
    (irisReleaseCoreLoad i core).WithinBudgets ↔
      (irisMbpf (core.inst i) < 0 → core.OthersMbpsFit i) := by
  obtain ⟨-, hfit, hfourK⟩ := hwithin.without hmem
  have hsessions := hwithin.sessions
  have hmbpf := hwithin.mbpf
  rw [spent_eq hmem] at hsessions hmbpf
  rw [irisReleaseCoreLoad, withinBudgets_setInst hnodup hmem]
  constructor
  · rintro ⟨-, -, hload, -⟩ -
    exact (add_zero _).symm.trans_le hload
  · intro hneg
    have hothers : core.OthersMbpsFit i :=
      (lt_or_ge (irisMbpf (core.inst i)) 0).elim hneg fun hpos => (hfit hpos).2
    exact ⟨hsessions, hmbpf, (add_zero _).trans_le hothers, fun hlegacy =>
      (add_zero _).trans_le (hfourK hlegacy)⟩

/-- Without an open session an instance spends nothing but its reserved load. -/
theorem withinBudgets_sessionClose_iff (hnodup : core.instances.Nodup) (hmem : i ∈ core.instances)
    (hwithin : core.WithinBudgets) :
    (irisHfiSessionCloseSection i core).WithinBudgets ↔
      (irisMbpf (core.inst i) < 0 → core.OthersMbpfFit i ∧ core.OthersMbpsFit i) := by
  unfold irisHfiSessionCloseSection
  split_ifs with hopened
  · have hmbpf := hwithin.mbpf
    have hclosed : (core.inst i).hfiSessionOpened = false := by simpa using hopened
    have hnone : mbpfWeight (core.inst i) = 0 := by simp [mbpfWeight, hclosed]
    rw [spent_eq hmem, hnone, add_zero] at hmbpf
    rw [withinBudgets_release_iff hnodup hmem hwithin]
    exact forall_congr' fun _ => (and_iff_right hmbpf).symm
  · exact withinBudgets_close_iff hnodup hmem hwithin

theorem withinBudgets_remove_iff (hmem : i ∈ core.instances) (hwithin : core.WithinBudgets) :
    ({ core with instances := core.instances.erase i } : AdmissionCore).WithinBudgets ↔
      (irisMbpf (core.inst i) < 0 → core.OthersMbpfFit i ∧ core.OthersMbpsFit i) := by
  obtain ⟨hsessions, hfit, hfourK⟩ := hwithin.without hmem
  constructor
  · rintro hafter -
    exact ⟨hafter.mbpf, hafter.mbps⟩
  · intro hneg
    have hothers : core.OthersMbpfFit i ∧ core.OthersMbpsFit i :=
      (lt_or_ge (irisMbpf (core.inst i)) 0).elim hneg hfit
    exact ⟨hsessions, hothers.1, hothers.2, hfourK⟩

/-! ### Joining -/

theorem withinBudgets_add {rules : OutputRules} {domain : Domain} (hnew : i ∉ core.instances)
    (hwithin : core.WithinBudgets) :
    ({ core.setInst i (.opened rules domain) with instances := core.instances ++ [i] } :
      AdmissionCore).WithinBudgets := by
  have hspent : ∀ weight : LoadInst → Int, weight (.opened rules domain) = 0 →
      ({ core.setInst i (.opened rules domain) with instances := core.instances ++ [i] } :
        AdmissionCore).spent weight = core.spent weight := by
    intro weight hzero
    have hweights : (fun k => weight ((core.setInst i (.opened rules domain)).inst k)) =
        Function.update (fun k => weight (core.inst k)) i 0 := by
      rw [← hzero]
      exact weight_setInst
    rw [spent, hweights, total_join hnew, add_zero, spent]
  constructor
  · rw [hspent sessionWeight rfl]
    exact hwithin.sessions
  · rw [hspent mbpfWeight rfl]
    exact hwithin.mbpf
  · rw [hspent mbpsWeight rfl]
    exact hwithin.mbps
  · rw [hspent fourKWeight rfl]
    exact hwithin.fourK

/-! ### Admission -/

theorem activeLoad_eq (core : AdmissionCore) :
    activeLoad core =
      (BitVec.ofInt 32 (core.spent sessionWeight), BitVec.ofInt 64 (core.spent mbpfWeight)) := by
  have hstep : (fun (active : BitVec 32 × BitVec 64) k =>
      if !(core.inst k).hfiSessionOpened then active
      else (active.1 + 1, active.2 + (irisGetMbpf (core.inst k)).signExtend 64)) =
      fun active k =>
        (active.1 + BitVec.ofInt 32 (sessionWeight (core.inst k)),
          active.2 + BitVec.ofInt 64 (mbpfWeight (core.inst k))) := by
    funext active k
    by_cases hopened : (core.inst k).hfiSessionOpened
    · simp [hopened, sessionWeight, mbpfWeight, irisMbpf, BitVec.signExtend]
    · simp [hopened, sessionWeight, mbpfWeight]
  rw [activeLoad, hstep, foldl_ofInt, spent, spent]
  simp

theorem ofInt_toNat_eq_zeroExtend (word : U32) :
    BitVec.ofInt 64 word.toNat = word.zeroExtend 64 := by
  apply BitVec.eq_of_toNat_eq
  simp

theorem toInt_eq_toNat {word : U32} (hpos : 0 ≤ word.toInt) : word.toInt = word.toNat := by
  have hlt := word.isLt
  rw [BitVec.toInt_eq_toNat_cond] at hpos ⊢
  split_ifs at hpos ⊢ <;> omega

theorem ofInt_mbpsWeight (hreserved : inst.coreLoadReserved = true) :
    BitVec.ofInt 64 (mbpsWeight inst) =
      (irisGetMbpf inst).signExtend 64 * inst.admissionFrameRate.zeroExtend 64 := by
  rw [mbpsWeight, if_pos hreserved, BitVec.ofInt_mul, ofInt_toNat_eq_zeroExtend]
  rfl

theorem fourK_sle : iris1FourKMbpf.sle (irisGetMbpf inst) = decide inst.FourK :=
  BitVec.sle_eq_decide

theorem reservedLoad_eq (core : AdmissionCore) :
    reservedLoad core =
      (BitVec.ofInt 64 (core.spent mbpsWeight), BitVec.ofInt 32 (core.spent fourKWeight)) := by
  have hstep : (fun (sums : BitVec 64 × BitVec 32) k =>
      let inst := core.inst k
      if !inst.coreLoadReserved then sums
      else
        (sums.1 + (irisGetMbpf inst).signExtend 64 * inst.admissionFrameRate.zeroExtend 64,
          if iris1FourKMbpf.sle (irisGetMbpf inst) then sums.2 + 1 else sums.2)) =
      fun sums k =>
        (sums.1 + BitVec.ofInt 64 (mbpsWeight (core.inst k)),
          sums.2 + BitVec.ofInt 32 (fourKWeight (core.inst k))) := by
    funext sums k
    by_cases hreserved : (core.inst k).coreLoadReserved
    · simp only [ofInt_mbpsWeight hreserved, fourK_sle, fourKWeight, hreserved]
      by_cases hlarge : (core.inst k).FourK <;> simp [hlarge]
    · simp [hreserved, mbpsWeight, fourKWeight]
  rw [reservedLoad, hstep, foldl_ofInt, spent, spent]
  simp

/-- A word compared with a limit bounds the sum that it holds, which may be negative. -/
theorem le_limit_of_not_lt {limit : U32} {sum : Int} (hsum : sum < 2 ^ 64)
    (hlimit : ¬limit.zeroExtend 64 < BitVec.ofInt 64 sum) : sum ≤ limit.toNat := by
  have hword : (BitVec.ofInt 64 sum).toNat ≤ (limit.zeroExtend 64).toNat :=
    BitVec.le_def.1 (BitVec.not_lt.1 hlimit)
  have hzero : (limit.zeroExtend 64).toNat = limit.toNat :=
    BitVec.toNat_setWidth_of_le (by decide)
  exact le_of_ofInt_toNat_le hsum (hword.trans_eq hzero)

theorem irisMbpf_lt (inst : LoadInst) : irisMbpf inst < 2 ^ 31 := BitVec.toInt_lt

theorem count_lt_of_not_le {limit : U32} {sum : Int} (hpos : 0 ≤ sum) (hsum : sum ≤ limit.toNat)
    (hlimit : ¬limit ≤ BitVec.ofInt 32 sum) : sum < limit.toNat := by
  have hbound : (limit.toNat : Int) < 2 ^ 32 := by exact_mod_cast limit.isLt
  have hword : (BitVec.ofInt 32 sum).toNat < limit.toNat := BitVec.lt_def.1 (BitVec.not_le.1 hlimit)
  calc sum = (BitVec.ofInt 32 sum).toNat := (ofInt_toNat hpos (hsum.trans_lt hbound)).symm
    _ < limit.toNat := by exact_mod_cast hword

theorem withinBudgets_sessionOpen (hnodup : core.instances.Nodup) (hmem : i ∈ core.instances)
    (hwithin : core.WithinBudgets) :
    (irisHfiSessionOpenSection i core).2.WithinBudgets := by
  have hsessions := hwithin.sessions
  have hmbpf := hwithin.mbpf
  have hmbps := hwithin.mbps
  have hfourK := hwithin.fourK
  simp only [irisHfiSessionOpenSection, activeLoad_eq]
  split_ifs with hopened hcount hframe
  · exact hwithin
  · exact hwithin
  · exact hwithin
  · have hpos : 0 ≤ core.spent sessionWeight := total_nonneg fun _ _ => sessionWeight_nonneg _
    have hroom : core.spent sessionWeight < _ := count_lt_of_not_le hpos hsessions hcount
    have hlt := irisMbpf_lt (core.inst i)
    have hlimit := core.limits.maxCoreMbpf.isLt
    have hsum : core.spent mbpfWeight + irisMbpf (core.inst i) ≤ core.limits.maxCoreMbpf.toNat := by
      apply le_limit_of_not_lt
      · omega
      · rw [BitVec.ofInt_add]
        exact hframe
    have hsession : sessionWeight (core.inst i) = 0 := if_neg hopened
    have hmbpfZero : mbpfWeight (core.inst i) = 0 := if_neg hopened
    rw [spent_eq hmem] at hroom hsum hmbps hfourK
    rw [hsession] at hroom
    rw [hmbpfZero] at hsum
    rw [withinBudgets_setInst hnodup hmem]
    refine ⟨?_, ?_, hmbps, hfourK⟩
    · show core.spentWithout i sessionWeight + 1 ≤ _
      omega
    · show core.spentWithout i mbpfWeight + irisMbpf (core.inst i) ≤ _
      omega

/-- The load is added up with the macroblocks of a frame as an unsigned number. -/
theorem load_le_limit {limit rate : U32} {sum : Int} (hsum : sum ≤ limit.toNat)
    (hlimit : ¬limit.zeroExtend 64 <
      BitVec.ofInt 64 sum + (irisGetMbpf inst).zeroExtend 64 * rate.zeroExtend 64) :
    sum + irisMbpf inst * rate.toNat ≤ limit.toNat := by
  have hrate : (rate.toNat : Int) < 2 ^ 32 := by exact_mod_cast rate.isLt
  have hbound := limit.isLt
  rcases lt_or_ge (irisMbpf inst) 0 with hneg | hpos
  · have hproduct : irisMbpf inst * rate.toNat ≤ 0 :=
      mul_nonpos_of_nonpos_of_nonneg hneg.le (Int.natCast_nonneg _)
    omega
  · have hword : (irisGetMbpf inst).zeroExtend 64 * rate.zeroExtend 64 =
        BitVec.ofInt 64 (irisMbpf inst * rate.toNat) := by
      rw [BitVec.ofInt_mul, ofInt_toNat_eq_zeroExtend, irisMbpf, toInt_eq_toNat hpos,
        ofInt_toNat_eq_zeroExtend]
    have hproduct : irisMbpf inst * rate.toNat ≤ 2 ^ 31 * 2 ^ 32 :=
      mul_le_mul (irisMbpf_lt inst).le hrate.le (Int.natCast_nonneg _) (by decide)
    apply le_limit_of_not_lt
    · omega
    · rwa [BitVec.ofInt_add, ← hword]

theorem le_unsigned_of_fourK (hlarge : inst.FourK) : iris1FourKMbpf ≤ irisGetMbpf inst := by
  have hconst : iris1FourKMbpf.toInt = iris1FourKMbpf.toNat := by decide
  have hle : iris1FourKMbpf.toInt ≤ (irisGetMbpf inst).toInt := hlarge
  have hpos : 0 ≤ (irisGetMbpf inst).toInt := by omega
  rw [hconst, toInt_eq_toNat hpos] at hle
  exact BitVec.le_def.2 (by exact_mod_cast hle)

theorem withinBudgets_reserve {rate : U32} (hnodup : core.instances.Nodup)
    (hmem : i ∈ core.instances) (hwithin : core.WithinBudgets) :
    (irisReserveCoreLoad i rate core).2.WithinBudgets := by
  have hsessions := hwithin.sessions
  have hmbpf := hwithin.mbpf
  have hmbps := hwithin.mbps
  simp only [irisReserveCoreLoad, reservedLoad_eq]
  generalize (if rate < 1 then 1 else rate) = rate
  split_ifs with hreserved hload hfourK
  · exact hwithin
  · exact hwithin
  · exact hwithin
  · have hsum := load_le_limit hmbps hload
    have hmbpsZero : mbpsWeight (core.inst i) = 0 := if_neg hreserved
    have hlargeZero : fourKWeight (core.inst i) = 0 := if_neg fun hboth => hreserved hboth.1
    have hothers : core.spent fourKWeight = core.spentWithout i fourKWeight := by
      rw [spent_eq hmem, hlargeZero, add_zero]
    rw [spent_eq hmem] at hsessions hmbpf hsum
    rw [hmbpsZero, add_zero] at hsum
    rw [withinBudgets_setInst hnodup hmem]
    refine ⟨hsessions, hmbpf, hsum, fun hlegacy => ?_⟩
    have hpos : 0 ≤ core.spent fourKWeight := total_nonneg fun _ _ => fourKWeight_nonneg _
    have hthree := hwithin.fourK hlegacy
    by_cases hlarge : (core.inst i).FourK
    · have hcount : core.spent fourKWeight < iris1Max4KSessions.toNat :=
        count_lt_of_not_le hpos hthree fun hfull =>
          hfourK ⟨hlegacy, le_unsigned_of_fourK hlarge, hfull⟩
      have hmax : iris1Max4KSessions.toNat = 3 := rfl
      calc core.spentWithout i fourKWeight + fourKWeight _ = core.spent fourKWeight + 1 := by
            rw [hothers]
            congr 1
            exact if_pos ⟨rfl, hlarge⟩
        _ ≤ 3 := by omega
    · calc core.spentWithout i fourKWeight + fourKWeight _ = core.spent fourKWeight + 0 := by
            rw [hothers]
            congr 1
            exact if_neg fun hboth => hlarge hboth.2
        _ ≤ 3 := by omega

/-! ### Formats -/

/-- The instance stays admitted as it was. -/
theorem withinBudgets_setInst_iff (hnodup : core.instances.Nodup) (hmem : i ∈ core.instances)
    (hwithin : core.WithinBudgets)
    (hopened : inst.hfiSessionOpened = (core.inst i).hfiSessionOpened)
    (hreserved : inst.coreLoadReserved = (core.inst i).coreLoadReserved) :
    (core.setInst i inst).WithinBudgets ↔ core.Admits i inst := by
  have hsessions := hwithin.sessions
  have hmbpf := hwithin.mbpf
  have hmbps := hwithin.mbps
  have hfourK := hwithin.fourK
  rw [spent_eq hmem] at hsessions hmbpf hmbps hfourK
  rw [withinBudgets_setInst hnodup hmem]
  constructor
  · rintro ⟨-, hframe, hload, hlarge⟩
    refine ⟨fun hopen => ?_, fun hreserve => ?_, fun hlegacy hreserve h4k => ?_⟩
    · rwa [mbpfWeight, if_pos hopen] at hframe
    · rwa [mbpsWeight, if_pos hreserve] at hload
    · have hle := hlarge hlegacy
      rw [fourKWeight, if_pos ⟨hreserve, h4k⟩] at hle
      omega
  · rintro ⟨hframe, hload, hlarge⟩
    refine ⟨?_, ?_, ?_, fun hlegacy => ?_⟩
    · rwa [sessionWeight, hopened]
    · by_cases hopen : inst.hfiSessionOpened = true
      · rw [mbpfWeight, if_pos hopen]
        exact hframe hopen
      · rw [mbpfWeight, if_neg (hopened ▸ hopen)] at hmbpf
        rwa [mbpfWeight, if_neg hopen]
    · by_cases hreserve : inst.coreLoadReserved = true
      · rw [mbpsWeight, if_pos hreserve]
        exact hload hreserve
      · rw [mbpsWeight, if_neg (hreserved ▸ hreserve)] at hmbps
        rwa [mbpsWeight, if_neg hreserve]
    · by_cases h4k : inst.coreLoadReserved = true ∧ inst.FourK
      · have hroom := hlarge hlegacy h4k.1 h4k.2
        rw [fourKWeight, if_pos h4k]
        omega
      · have hle := hfourK hlegacy
        have hpos := fourKWeight_nonneg (core.inst i)
        rw [fourKWeight, if_neg h4k]
        omega

end AdmissionCore

theorem FormatChange.apply_frame (rules : OutputRules) (limits : AdmissionLimits)
    (change : FormatChange) (inst : LoadInst) :
    (change.apply rules limits inst).hfiSessionOpened = inst.hfiSessionOpened ∧
      (change.apply rules limits inst).coreLoadReserved = inst.coreLoadReserved := by
  unfold FormatChange.apply
  split_ifs
  · cases change with
    | vencSelection width height =>
        simp only [FormatChange.change, irisVencSSelection]
        split_ifs <;> exact ⟨rfl, rfl⟩
    | _ => exact ⟨rfl, rfl⟩
  · exact ⟨rfl, rfl⟩

/-! ### Runs -/

theorem instances_applyAdmission (rules : OutputRules) (core : AdmissionCore) {op : AdmissionOp}
    (hadd : ∀ i domain, op ≠ .add i domain) (hremove : ∀ i, op ≠ .remove i) :
    (applyAdmission rules core op).instances = core.instances := by
  cases op with
  | add i domain => exact absurd rfl (hadd i domain)
  | remove i => exact absurd rfl (hremove i)
  | sessionOpen i =>
      simp only [applyAdmission, irisHfiSessionOpenSection]
      split_ifs <;> rfl
  | sessionClose i =>
      simp only [applyAdmission, irisHfiSessionCloseSection]
      split_ifs <;> rfl
  | reserve i rate =>
      simp only [applyAdmission, irisReserveCoreLoad]
      split_ifs <;> rfl
  | releaseSlot i | release i | setFormat i change =>
      simp only [applyAdmission]
      split_ifs <;> rfl

theorem nodup_applyAdmission {core : AdmissionCore} (rules : OutputRules) (op : AdmissionOp)
    (hnodup : core.instances.Nodup) : (applyAdmission rules core op).instances.Nodup := by
  cases op with
  | add i domain =>
      simp only [applyAdmission]
      split_ifs with hmem
      · exact hnodup
      · exact List.nodup_append.2 ⟨hnodup, List.nodup_singleton i, by
          rintro k hk j hj rfl
          exact hmem (List.mem_singleton.1 hj ▸ hk)⟩
  | remove i => exact hnodup.erase i
  | _ =>
      refine (congrArg List.Nodup (instances_applyAdmission rules core ?_ ?_)).mpr hnodup
      · nofun
      · nofun

/-- One step keeps the budgets exactly when it fits. -/
theorem withinBudgets_applyAdmission_iff {core : AdmissionCore} (rules : OutputRules)
    (op : AdmissionOp) (hnodup : core.instances.Nodup) (hwithin : core.WithinBudgets) :
    (applyAdmission rules core op).WithinBudgets ↔ op.Fits rules core := by
  cases op with
  | add i domain =>
      simp only [applyAdmission, AdmissionOp.Fits, iff_true]
      split_ifs with hmem
      · exact hwithin
      · exact AdmissionCore.withinBudgets_add hmem hwithin
  | sessionOpen i =>
      simp only [applyAdmission, AdmissionOp.Fits, iff_true]
      split_ifs with hmem
      · exact AdmissionCore.withinBudgets_sessionOpen hnodup hmem hwithin
      · exact hwithin
  | reserve i rate =>
      simp only [applyAdmission, AdmissionOp.Fits, iff_true]
      split_ifs with hmem
      · exact AdmissionCore.withinBudgets_reserve hnodup hmem hwithin
      · exact hwithin
  | remove i =>
      simp only [applyAdmission, AdmissionOp.Fits]
      by_cases hmem : i ∈ core.instances
      · rw [AdmissionCore.withinBudgets_remove_iff hmem hwithin, forall_prop_of_true hmem]
      · rw [List.erase_of_not_mem hmem]
        exact iff_of_true hwithin fun hin => absurd hin hmem
  | releaseSlot i =>
      simp only [applyAdmission, AdmissionOp.Fits]
      split_ifs with hmem
      · rw [AdmissionCore.withinBudgets_close_iff hnodup hmem hwithin, forall_prop_of_true hmem]
      · exact iff_of_true hwithin fun hin => absurd hin hmem
  | sessionClose i =>
      simp only [applyAdmission, AdmissionOp.Fits]
      split_ifs with hmem
      · rw [AdmissionCore.withinBudgets_sessionClose_iff hnodup hmem hwithin,
          forall_prop_of_true hmem]
      · exact iff_of_true hwithin fun hin => absurd hin hmem
  | release i =>
      simp only [applyAdmission, AdmissionOp.Fits]
      split_ifs with hmem
      · rw [AdmissionCore.withinBudgets_release_iff hnodup hmem hwithin, forall_prop_of_true hmem]
      · exact iff_of_true hwithin fun hin => absurd hin hmem
  | setFormat i change =>
      simp only [applyAdmission, AdmissionOp.Fits]
      split_ifs with hmem
      · obtain ⟨hopened, hreserved⟩ := change.apply_frame rules core.limits (core.inst i)
        rw [AdmissionCore.withinBudgets_setInst_iff hnodup hmem hwithin hopened hreserved,
          forall_prop_of_true hmem]
      · exact iff_of_true hwithin fun hin => absurd hin hmem

theorem withinBudgets_start (rules : OutputRules) (limits : AdmissionLimits) :
    (AdmissionCore.start rules limits).WithinBudgets := by
  constructor
  · exact Int.natCast_nonneg _
  · exact Int.natCast_nonneg _
  · exact Int.natCast_nonneg _
  · exact fun _ => Int.natCast_nonneg 3

/-- **Admission control.** A run stays within the budgets exactly when every change of formats fits
what was admitted, and an instance whose frame overflowed leaves only others that fit. -/
theorem admission_within_budgets_iff (rules : OutputRules) (limits : AdmissionLimits)
    (ops : List AdmissionOp) :
    (∀ pre, pre <+: ops → (admissionAfter rules (.start rules limits) pre).WithinBudgets) ↔
      ∀ pre op, pre ++ [op] <+: ops →
        op.Fits rules (admissionAfter rules (.start rules limits) pre) :=
  @good_prefixes_iff _ _ (applyAdmission rules) (fun core op => op.Fits rules core) ops
    (fun core => core.instances.Nodup) AdmissionCore.WithinBudgets
    (fun _ op _ hnodup => nodup_applyAdmission rules op hnodup)
    (fun _ op _ hnodup hwithin => withinBudgets_applyAdmission_iff rules op hnodup hwithin) _
    List.nodup_nil (withinBudgets_start rules limits)

/-- Four decoders ask for CAPTURE buffers, and then for 4K streams. -/
def fourDecoders : List AdmissionOp :=
  ((List.range 4).flatMap fun i => [.add i .decoder, .sessionOpen i, .reserve i 60]) ++
    (List.range 4).map fun i => .setFormat i (.vdecOutput (some .h264) 3840 2160)

theorem admission_fourth_4k :
    ¬∀ (rules : OutputRules) (limits : AdmissionLimits) (ops : List AdmissionOp),
      ∀ pre, pre <+: ops → (admissionAfter rules (.start rules limits) pre).WithinBudgets := by
  intro hall
  have hwithin := hall { size := fun _ => 12451840, count := fun _ => 4 } sm8150Limits fourDecoders
    fourDecoders List.prefix_rfl
  have hthree := hwithin.fourK (by decide +kernel)
  revert hthree
  decide +kernel

end NabuIris
