import NabuIris.PipeFrequency
import NabuIris.Proof.ControlValues

/-!
# The rate of a stream on several pipes

No control stands for the number of pipes or for the stage, so both stay what their table says: a
decoder divides by its pipes and never triples its bitstream cycles, an encoder divides by zero.
-/

namespace NabuIris.Controls

open Lib Gen2Command Gen2Message

/-! ### Capabilities without a control -/

section Frozen

variable {caps : CapId → Cap} {domain : Domain} {inst : CtrlInst} {id other : CapId}

theorem setProperty_value {hfiId payloadType w : U32} :
    (setProperty inst hfiId id payloadType w).value other = inst.value other := rfl

theorem store_value_of_ne {v : Int} (hne : other ≠ id) :
    (inst.store id v).value other = inst.value other := by
  change (Function.update inst.fwCaps id _ other).value = _
  rw [Function.update_of_ne hne]
  rfl

/-- Two functions store, each to its own capability. -/
theorem run_value {set : Setter} (hfits : set.Fits caps id) (hpeak : other ≠ .bitratePeak)
    (hentropy : other ≠ .entropyMode) : (set.run id inst).value other = inst.value other := by
  cases set with
  | peakBitrate =>
      obtain ⟨-, rfl, -⟩ := hfits
      change (irisSetPeakBitrate .bitratePeak inst).value other = _
      unfold irisSetPeakBitrate
      dsimp only
      split_ifs
      · rfl
      all_goals exact setProperty_value.trans (store_value_of_ne hpeak)
  | entropyModeGen2 =>
      obtain ⟨-, rfl, -⟩ := hfits
      change (irisSetEntropyModeGen2 .entropyMode inst).value other = _
      unfold irisSetEntropyModeGen2
      dsimp only
      split_ifs
      · rfl
      all_goals exact setProperty_value.trans (store_value_of_ne hentropy)
  | minQp =>
      change (setQpBound _ _ id inst).value other = _
      unfold setQpBound
      dsimp only
      split_ifs <;> rfl
  | maxQp =>
      change (setQpBound _ _ id inst).value other = _
      unfold setQpBound
      dsimp only
      split_ifs <;> rfl
  | frameQp =>
      change (irisSetFrameQp id inst).value other = _
      unfold irisSetFrameQp
      split
      dsimp only
      split_ifs <;> rfl
  | _ => rfl

theorem applyCap_value (hsound : SoundTable caps) (hkept : Kept caps domain inst)
    (hpeak : other ≠ .bitratePeak) (hentropy : other ≠ .entropyMode) :
    (applyCap inst id).value other = inst.value other := by
  unfold applyCap
  cases hset : (inst.fwCaps id).set with
  | none => rfl
  | some set =>
      obtain ⟨-, hfits⟩ := hsound.setter id set ((hkept.set id).symm.trans hset)
      exact run_value hfits hpeak hentropy

/-- A capability that no control, no function and no source change writes to. -/
structure Frozen (id : CapId) : Prop where
  control : irisGetV4l2Id id = none
  stream : id.fromStream = false

theorem Frozen.ne_peak (hfrozen : Frozen id) : id ≠ .bitratePeak := by
  rintro rfl
  exact absurd hfrozen.control (by simp [irisGetV4l2Id])

theorem Frozen.ne_entropy (hfrozen : Frozen id) : id ≠ .entropyMode := by
  rintro rfl
  exact absurd hfrozen.control (by simp [irisGetV4l2Id])

theorem setProperties_value (hsound : SoundTable caps) (hkept : Kept caps domain inst)
    (hfrozen : Frozen other) (configRet : Int) :
    (irisSetProperties configRet inst).2.value other = inst.value other := by
  unfold irisSetProperties
  split_ifs with hret
  · rfl
  · dsimp only
    generalize CapId.all = ids
    induction ids generalizing inst with
    | nil => rfl
    | cons id rest ih =>
        rw [List.foldl_cons]
        by_cases hvalid : (inst.fwCaps id).capId.isSome
        · rw [if_pos hvalid]
          exact (ih (hkept.applyCap hsound id)).trans
            (applyCap_value hsound hkept hfrozen.ne_peak hfrozen.ne_entropy)
        · rw [if_neg hvalid]
          exact ih hkept

theorem sCtrl_value (hsound : SoundTable caps) (hkept : Kept caps domain inst)
    (hfrozen : Frozen other) {ctrl : CtrlId} {val : Int}
    (hval : ∀ id, irisGetCapId ctrl = some id → (caps id).Allows val) :
    (irisOpSCtrl ctrl val inst).2.value other = inst.value other := by
  unfold irisOpSCtrl
  split
  · split_ifs <;> rfl
  · split_ifs <;> rfl
  · split
    · rfl
    next id hid =>
      have hne : other ≠ id := by
        rintro rfl
        rw [irisGetCapId_eq_some_iff, hfrozen.control] at hid
        exact absurd hid (by simp)
      have hstored : ({ inst with
          fwCaps := Function.update inst.fwCaps id
            { inst.fwCaps id with
              value := val
              flags := { (inst.fwCaps id).flags with clientSet := true } } } : CtrlInst).value other
          = inst.value other := by
        change (Function.update inst.fwCaps id _ other).value = _
        rw [Function.update_of_ne hne]
        rfl
      dsimp only
      split_ifs
      · rfl
      · exact (applyCap_value hsound (hkept.stored hid hval) hfrozen.ne_peak
          hfrozen.ne_entropy).trans hstored
      · exact hstored

theorem sourceChange_value (hfrozen : Frozen other) (params : SubscriptionParams) :
    (readInputSubcrParams params inst).value other = inst.value other := by
  have hne : ∀ id : CapId, id.fromStream → other ≠ id := by
    rintro id hid rfl
    exact Bool.false_ne_true (hfrozen.stream.symm.trans hid)
  unfold readInputSubcrParams
  cases inst.codec <;>
  · dsimp only
    rw [store_value_of_ne (hne _ rfl), store_value_of_ne (hne _ rfl), store_value_of_ne (hne _ rfl),
      store_value_of_ne (hne _ rfl)]

theorem step_value (hsound : SoundTable caps) (hkept : Kept caps domain inst)
    (hfrozen : Frozen other) {op : CtrlOp} (hop : OfFramework caps domain op) :
    (ctrlStep inst op).value other = inst.value other := by
  cases op with
  | sCtrl ctrl val => exact sCtrl_value hsound hkept hfrozen hop
  | setProperties configRet => exact setProperties_value hsound hkept hfrozen configRet
  | sourceChange params => exact sourceChange_value hfrozen params
  | surround surroundings => rfl

/-- **What no control stands for** stays what the table says. -/
theorem run_frozen (hsound : SoundTable caps) (hfrozen : Frozen other) {ops : List CtrlOp}
    (hkept : Kept caps domain inst) (hops : ∀ op ∈ ops, OfFramework caps domain op) :
    (ops.foldl ctrlStep inst).value other = inst.value other := by
  induction ops generalizing inst with
  | nil => rfl
  | cons op rest ih =>
      have hop := hops op List.mem_cons_self
      rw [List.foldl_cons]
      exact (ih (hkept.step hsound hop) fun other hother =>
        hops other (List.mem_cons_of_mem _ hother)).trans (step_value hsound hkept hfrozen hop)

end Frozen

/-! ### The rate -/

/-- `mult_frac` loses nothing by dividing first. -/
theorem div_mul_add_mod_mul_div (x n : Nat) {d : Nat} (hd : 0 < d) :
    x / d * n + x % d * n / d = x * n / d := by
  conv_rhs => rw [← Nat.div_add_mod x d, Nat.add_mul, Nat.mul_assoc]
  rw [Nat.mul_add_div hd]

theorem multFrac_eq {x n d : U32} (hd : d ≠ 0) (hfits : x.toNat * n.toNat < 2 ^ 32) :
    ∃ y, multFrac x n d = some y ∧ y.toNat = x.toNat * n.toNat / d.toNat := by
  have hpos : 0 < d.toNat := by
    rw [Nat.pos_iff_ne_zero]
    exact fun h => hd (BitVec.eq_of_toNat_eq h)
  refine ⟨_, if_neg hd, ?_⟩
  have hsplit := div_mul_add_mod_mul_div x.toNat n.toNat hpos
  have hle : x.toNat * n.toNat / d.toNat ≤ x.toNat * n.toNat := Nat.div_le_self _ _
  have hquotient : x.toNat / d.toNat * n.toNat ≤ x.toNat * n.toNat :=
    Nat.mul_le_mul_right _ (Nat.div_le_self _ _)
  have hrest : x.toNat % d.toNat * n.toNat ≤ x.toNat * n.toNat :=
    Nat.mul_le_mul_right _ (Nat.mod_le _ _)
  rw [BitVec.toNat_add, BitVec.toNat_mul, BitVec.toNat_udiv, BitVec.toNat_udiv, BitVec.toNat_mul,
    BitVec.toNat_umod, Nat.mod_eq_of_lt (by omega : x.toNat / d.toNat * n.toNat < 2 ^ 32),
    Nat.mod_eq_of_lt (by omega : x.toNat % d.toNat * n.toNat < 2 ^ 32), hsplit]
  exact Nat.mod_eq_of_lt (by omega)

def Platform.pipes : Platform → Nat
  | .sm8550 => 4
  | .qcs8300 => 2

/-- The rate in natural numbers, for this many macroblocks of a frame and bytes of a buffer. -/
def cycles (platform : Platform) (mbpf dataSize : Nat) : Nat :=
  let caps := platform.cycleCaps
  let vpp := mbpf * 30 * caps.vpp.toNat / platform.pipes
  let vpp := vpp + max (vpp / 20) (30 * caps.fwVpp.toNat)
  let vpp := vpp + vpp * 59 / 1000
  let vsp := 30 * dataSize * 8 / 2 * 21 / 20
  max (max vpp vsp) (30 * caps.fw.toNat)

section Rate

variable {platform : Platform} {fwCaps : CapId → Cap} {inst : LoadInst} {dataSize : U64}

theorem ite_lt_toNat {w : Nat} (a b : BitVec w) :
    (if a < b then b else a).toNat = max a.toNat b.toNat := by
  by_cases h : a < b
  · rw [if_pos h, Nat.max_eq_right (Nat.le_of_lt h)]
  · rw [if_neg h, Nat.max_eq_left (Nat.le_of_not_lt h)]

theorem toNat_overhead {v k : U64} (hv : v.toNat < 2 ^ 40) (hk : k.toNat < 2 ^ 32) :
    (v + if v / 20 < k then k else v / 20).toNat = v.toNat + max (v.toNat / 20) k.toNat := by
  have hdiv : (v / 20).toNat = v.toNat / 20 := BitVec.toNat_udiv
  rw [BitVec.toNat_add, ite_lt_toNat, hdiv]
  exact Nat.mod_eq_of_lt (by omega)

theorem toNat_multiPipe {v : U64} (hv : v.toNat < 2 ^ 48) :
    (v + v * 59 / 1000).toNat = v.toNat + v.toNat * 59 / 1000 := by
  have hmul : (v * 59).toNat = v.toNat * 59 := by
    rw [BitVec.toNat_mul]
    exact Nat.mod_eq_of_lt (by change v.toNat * 59 < 2 ^ 64; omega)
  have hdiv : (v * 59 / 1000).toNat = v.toNat * 59 / 1000 := by
    rw [BitVec.toNat_udiv, hmul]
    rfl
  rw [BitVec.toNat_add, hdiv]
  exact Nat.mod_eq_of_lt (by omega)

theorem toNat_bitstream {data : U64} (hdata : data.toNat < 2 ^ 32) :
    (BitVec.setWidth 64 (30 : U32) * data * 8 / 2 * 21 / 20).toNat =
      30 * data.toNat * 8 / 2 * 21 / 20 := by
  have h30 : (BitVec.setWidth 64 (30 : U32)).toNat = 30 := rfl
  have hrate : (BitVec.setWidth 64 (30 : U32) * data).toNat = 30 * data.toNat := by
    rw [BitVec.toNat_mul, h30]
    exact Nat.mod_eq_of_lt (by omega)
  have hbits : (BitVec.setWidth 64 (30 : U32) * data * 8).toNat = 30 * data.toNat * 8 := by
    rw [BitVec.toNat_mul, hrate]
    exact Nat.mod_eq_of_lt (by change 30 * data.toNat * 8 < 2 ^ 64; omega)
  have hhalf : (BitVec.setWidth 64 (30 : U32) * data * 8 / 2).toNat =
      30 * data.toNat * 8 / 2 := by
    rw [BitVec.toNat_udiv, hbits]
    rfl
  have hmul : (BitVec.setWidth 64 (30 : U32) * data * 8 / 2 * 21).toNat =
      30 * data.toNat * 8 / 2 * 21 := by
    rw [BitVec.toNat_mul, hhalf]
    exact Nat.mod_eq_of_lt (by change 30 * data.toNat * 8 / 2 * 21 < 2 ^ 64; omega)
  rw [BitVec.toNat_udiv, hmul]
  rfl

/-- With its pipes a decoder computes the rate without a carry. -/
theorem calculateFrequency_of_pipes (hpipe : (fwCaps .pipe).value = platform.pipes)
    (hstage : (fwCaps .stage).value = 2) (hmbpf : (irisGetMbpf inst).toNat ≤ 262144)
    (hdata : dataSize.toNat < 2 ^ 32) :
    ∃ rate, irisVpu3xCalculateFrequency platform.cycleCaps fwCaps inst dataSize = some rate ∧
      rate.toNat = cycles platform (irisGetMbpf inst).toNat dataSize.toNat := by
  have hmbps : (irisGetMbpf inst * 30).toNat = (irisGetMbpf inst).toNat * 30 := by
    rw [BitVec.toNat_mul]
    exact Nat.mod_eq_of_lt (by change (irisGetMbpf inst).toNat * 30 < 2 ^ 32; omega)
  have hvppCaps : platform.cycleCaps.vpp.toNat = 200 := by cases platform <;> rfl
  have hfwVpp : (30 * platform.cycleCaps.fwVpp).toNat = 30 * platform.cycleCaps.fwVpp.toNat := by
    cases platform <;> rfl
  have hfw : (30 * platform.cycleCaps.fw).toNat = 30 * platform.cycleCaps.fw.toNat := by
    cases platform <;> rfl
  have hpipes : (BitVec.ofInt 32 (fwCaps .pipe).value).toNat = platform.pipes := by
    rw [hpipe]
    cases platform <;> rfl
  have hdivisor : BitVec.ofInt 32 (fwCaps .pipe).value ≠ 0 := by
    rw [hpipe]
    cases platform <;> decide
  have hmany : 1 < (fwCaps .pipe).value := by
    rw [hpipe]
    cases platform <;> decide
  have hstage1 : (fwCaps .stage).value ≠ 1 := by
    rw [hstage]
    decide
  obtain ⟨vpp, hvpp, hvppNat⟩ := multFrac_eq (n := platform.cycleCaps.vpp) hdivisor
    (by rw [hmbps, hvppCaps]; omega)
  rw [hmbps, hpipes, hvppCaps] at hvppNat
  have hvppLt : vpp.toNat < 2 ^ 32 := vpp.isLt
  have hwide : (vpp.setWidth 64).toNat = vpp.toNat := by
    rw [BitVec.toNat_setWidth]
    exact Nat.mod_eq_of_lt (by omega)
  have hwideFwVpp : ((30 * platform.cycleCaps.fwVpp).setWidth 64).toNat =
      30 * platform.cycleCaps.fwVpp.toNat := by
    rw [BitVec.toNat_setWidth, hfwVpp]
    cases platform <;> rfl
  have hwideFw : ((30 * platform.cycleCaps.fw).setWidth 64).toNat =
      30 * platform.cycleCaps.fw.toNat := by
    rw [BitVec.toNat_setWidth, hfw]
    cases platform <;> rfl
  have hfwVppLt : 30 * platform.cycleCaps.fwVpp.toNat < 2 ^ 32 := by
    rw [← hfwVpp]
    exact (30 * platform.cycleCaps.fwVpp).isLt
  unfold irisVpu3xCalculateFrequency
  simp only [hvpp, Option.bind_eq_bind, Option.bind_some, if_pos hmany, if_neg hstage1]
  refine ⟨_, rfl, ?_⟩
  have hoverhead := toNat_overhead (v := vpp.setWidth 64)
    (k := (30 * platform.cycleCaps.fwVpp).setWidth 64) (by omega) (by omega)
  rw [hwide, hwideFwVpp] at hoverhead
  rw [ite_lt_toNat, ite_lt_toNat, toNat_bitstream hdata, hwideFw,
    toNat_multiPipe (by rw [hoverhead]; omega), hoverhead, hvppNat]
  simp only [cycles, hvppCaps]

/-- **The rate of a stream.** Whatever a client sets and the firmware says, a decoder with frames of
up to 8192 by 8192 divides by the pipes of its platform and gets the rate without any overflow,
never with the factor for a single stage; an encoder has no number of pipes, and divides by zero. -/
theorem pipes_divide_decoders_only (platform : Platform) (domain : Domain) (ops : List CtrlOp)
    (hops : ∀ op ∈ ops, OfFramework (irisSessionInitCaps (platform.instFwCaps domain)) domain op)
    (inst : LoadInst) (dataSize : U64) (hmbpf : (irisGetMbpf inst).toNat ≤ 262144)
    (hdata : dataSize.toNat < 2 ^ 32) :
    let rate := irisVpu3xCalculateFrequency platform.cycleCaps
      (ops.foldl ctrlStep (instInit platform domain)).fwCaps inst dataSize
    match domain with
    | .decoder =>
        ∃ hz, rate = some hz ∧
          hz.toNat = cycles platform (irisGetMbpf inst).toNat dataSize.toNat
    | .encoder => rate = none := by
  intro rate
  have hfrozen : ∀ id, Frozen id → ((ops.foldl ctrlStep (instInit platform domain)).fwCaps id).value
      = (irisSessionInitCaps (platform.instFwCaps domain) id).value := fun id hid =>
    run_frozen (soundTable_instFwCaps platform domain) hid (kept_instInit platform domain) hops
  have hpipe := hfrozen .pipe ⟨rfl, rfl⟩
  have hstage := hfrozen .stage ⟨rfl, rfl⟩
  cases domain with
  | decoder =>
      refine calculateFrequency_of_pipes (hpipe.trans ?_) (hstage.trans ?_) hmbpf hdata
      · cases platform <;> decide +kernel
      · cases platform <;> decide +kernel
  | encoder =>
      have hzero : (irisSessionInitCaps (platform.instFwCaps .encoder) .pipe).value = 0 := by
        cases platform <;> decide +kernel
      change irisVpu3xCalculateFrequency _ _ _ _ = none
      unfold irisVpu3xCalculateFrequency
      rw [hpipe, hzero]
      rfl

def landscape : LoadInst :=
  let format : PixFormat :=
    { width := 1920, height := 1088, bytesperline := 0, sizeimage := 0, color := .default }
  { domain := .decoder
    codec := .h264
    formats :=
      { src := format
        dst := format
        rawFormat := .nv12
        crop := ⟨0, 0, 1920, 1080⟩
        fwMinCount := 4
        outputMinCount := 4
        outputSize := 0
        captureFormatChanged := false
        interlaced := false }
    hfiSessionOpened := true
    coreLoadReserved := false
    coreLoadRejected := false
    admissionFrameRate := 0 }

theorem pipes_divide_decoders_only_landscape :
    ∃ hz, irisVpu3xCalculateFrequency Platform.sm8550.cycleCaps
        ([CtrlOp.setProperties 0].foldl ctrlStep (instInit .sm8550 .decoder)).fwCaps landscape
          100000 = some hz ∧
      hz.toNat = cycles .sm8550 (irisGetMbpf landscape).toNat (100000 : U64).toNat := by
  refine pipes_divide_decoders_only .sm8550 .decoder [.setProperties 0] ?_ landscape 100000
    (by decide) (by decide)
  intro op hop
  rw [List.mem_singleton.1 hop]
  trivial

end Rate

end NabuIris.Controls
