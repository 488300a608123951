import NabuIris.Controls
import NabuIris.Proof.CommandMessages

/-!
# What the controls let through

Nothing but the values of the capabilities and their mark of the client changes after the tables are
copied, and a value stays within the bounds of its entry. What reaches the firmware is then within
the bounds of its property.
-/

namespace NabuIris.Controls

open Lib Lib.Reading Gen2Command Gen2Message

/-! ### Identifiers -/

theorem CapId.mem_all (id : CapId) : id ∈ CapId.all := by
  cases id <;> simp [CapId.all]

/-- The two translations are inverse to each other. -/
theorem irisGetCapId_eq_some_iff {ctrl : CtrlId} {id : CapId} :
    irisGetCapId ctrl = some id ↔ irisGetV4l2Id id = some ctrl := by
  constructor
  · intro h
    cases ctrl with
    | codec ctrl => cases ctrl <;> (cases h; rfl)
    | _ => exact absurd h (by simp [irisGetCapId])
  · intro h
    cases id <;> first | (cases h; rfl) | exact absurd h (by simp [irisGetV4l2Id])

/-! ### Words -/

theorem getLsbD_of_lt_byte {x : U32} (hx : x < 0x100) {i : Nat} (hi : 8 ≤ i) :
    x.getLsbD i = false := by
  have hlt : x.toNat < 2 ^ 8 := by simpa [BitVec.lt_def] using hx
  exact Nat.testBit_lt_two_pow (lt_of_lt_of_le hlt (Nat.pow_le_pow_right (by decide) hi))

/-- The packed word has a byte for each of its parts. -/
theorem byteOf_packQp {i p b : U32} (enable : U32) (hi : i < 0x100) (hp : p < 0x100)
    (hb : b < 0x100) :
    byteOf (packQp i p b enable) 0 = i.setWidth 8 ∧
      byteOf (packQp i p b enable) 1 = p.setWidth 8 ∧
      byteOf (packQp i p b enable) 2 = b.setWidth 8 ∧
      byteOf (packQp i p b enable) 3 = enable.setWidth 8 := by
  have hhigh := @getLsbD_of_lt_byte
  refine ⟨?_, ?_, ?_, ?_⟩ <;>
  · apply BitVec.eq_of_getLsbD_eq
    intro j hj
    simp only [byteOf, packQp, BitVec.getLsbD_extractLsb', BitVec.getLsbD_or,
      BitVec.getLsbD_shiftLeft, BitVec.getLsbD_setWidth]
    grind

/-- Three quantization parameters, and which of them are enabled. -/
def QpWord (w : U32) : Prop :=
  (∀ k < 3, 1 ≤ (byteOf w k).toNat ∧ (byteOf w k).toNat ≤ 51) ∧
    1 ≤ (byteOf w 3).toNat ∧ (byteOf w 3).toNat ≤ 7

/-- A word from one number to another. -/
def Between (low high : Nat) (w : U32) : Prop := low ≤ w.toNat ∧ w.toNat ≤ high

theorem Between.lt_byte {w : U32} (h : Between 1 51 w) : w < 0x100 := by
  rw [BitVec.lt_def]
  exact Nat.lt_of_le_of_lt h.2 (by decide)

theorem toNat_setWidth_byte {w : U32} (hw : w < 0x100) : (w.setWidth 8).toNat = w.toNat := by
  rw [BitVec.toNat_setWidth]
  exact Nat.mod_eq_of_lt (by simpa [BitVec.lt_def] using hw)

theorem qpEnable_between {i p b : Bool} (h : qpEnable i p b ≠ 0) :
    Between 1 7 (qpEnable i p b) := by
  revert h
  cases i <;> cases p <;> cases b <;> simp [qpEnable, Between]

theorem qpWord_packQp {i p b enable : U32} (hi : Between 1 51 i) (hp : Between 1 51 p)
    (hb : Between 1 51 b) (henable : Between 1 7 enable) : QpWord (packQp i p b enable) := by
  obtain ⟨h0, h1, h2, h3⟩ := byteOf_packQp enable hi.lt_byte hp.lt_byte hb.lt_byte
  have hsmall : enable < 0x100 := by
    rw [BitVec.lt_def]
    exact Nat.lt_of_le_of_lt henable.2 (by decide)
  refine ⟨fun k hk => ?_, ?_⟩
  · obtain rfl | rfl | rfl : k = 0 ∨ k = 1 ∨ k = 2 := by omega
    · rw [h0, toNat_setWidth_byte hi.lt_byte]
      exact hi
    · rw [h1, toNat_setWidth_byte hp.lt_byte]
      exact hp
    · rw [h2, toNat_setWidth_byte hb.lt_byte]
      exact hb
  · rw [h3, toNat_setWidth_byte hsmall]
    exact henable

/-- A value from one number to another is the word of that number. -/
theorem between_ofInt {low high : Nat} {v : Int} (hlow : (low : Int) ≤ v) (hhigh : v ≤ high)
    (hmax : high < 2 ^ 32) : Between low high (BitVec.ofInt 32 v) := by
  obtain ⟨n, rfl⟩ : ∃ n : Nat, v = n := ⟨v.toNat, by omega⟩
  have hn : n < 2 ^ 32 := by omega
  have hword : (BitVec.ofInt 32 (n : Int)).toNat = n := by
    rw [BitVec.ofInt_natCast, BitVec.toNat_ofNat]
    exact Nat.mod_eq_of_lt hn
  unfold Between
  rw [hword]
  omega

/-! ### What each property takes -/

/-- The words of a property that has bounds of its own. -/
def InSpec (hfiId w : U32) : Prop :=
  if hfiId = hfiPropMinQpPacked ∨ hfiId = hfiPropMaxQpPacked ∨ hfiId = hfiPropQpPacked then QpWord w
  else if hfiId = hfiPropTotalBitrate then Between 1 220000000 w
  else if hfiId = hfiPropTotalPeakBitrate then Between 1 245000000 w
  else if hfiId = hfiPropRateControl then
    w = hfiRcVbrCfr ∨ w = hfiRcCbrCfr ∨ w = hfiRcOff ∨ w = hfiRcCbrVfr
  else if hfiId = hfiPropCabacSession then Between 0 1 w
  else if hfiId = hfiPropSeqHeaderMode then
    w = hfiSeqHeaderSeperateFrame ∨ w = hfiSeqHeaderJoinedWith1stFrame ∨
      w = hfiSeqHeaderPrefixWithSyncFrame
  else if hfiId = hfiPropStage then Between 1 2 w
  else if hfiId = hfiPropPipe then Between 1 4 w
  else True

/-- One word, of a property, within its bounds. -/
structure Proper (call : PropertyCall) : Prop where
  property : inRange (hfiPropBegin, hfiPropEnd) call.hfiId
  word : ∃ w, call.words = [w] ∧ InSpec call.hfiId w

theorem Proper.ofDriver {call : PropertyCall} (hproper : Proper call) : call.op.OfDriver := by
  obtain ⟨w, hwords, -⟩ := hproper.word
  refine ⟨hproper.property, ?_⟩
  rw [hwords]
  simp

/-! ### The tables -/

/-- The bounds of the capability are within these. -/
def Cap.Spans (cap : Cap) (low high : Int) : Prop := low ≤ cap.min ∧ cap.max ≤ high

instance (cap : Cap) (low high : Int) : Decidable (cap.Spans low high) :=
  inferInstanceAs (Decidable (_ ∧ _))

def qpSpans (caps : CapId → Cap) (types : List CapId) : Prop :=
  ∀ id ∈ types, (caps id).Spans 1 51

instance (caps : CapId → Cap) (types : List CapId) : Decidable (qpSpans caps types) :=
  inferInstanceAs (Decidable (∀ id ∈ types, _))

/-- A property without bounds of its own. -/
def Unbounded (hfiId : U32) : Prop :=
  hfiId ∉ [hfiPropMinQpPacked, hfiPropMaxQpPacked, hfiPropQpPacked, hfiPropTotalBitrate,
    hfiPropTotalPeakBitrate, hfiPropRateControl, hfiPropCabacSession, hfiPropSeqHeaderMode,
    hfiPropStage, hfiPropPipe]

instance (hfiId : U32) : Decidable (Unbounded hfiId) := inferInstanceAs (Decidable (_ ∉ _))

def IsProperty (hfiId : U32) : Prop := inRange (hfiPropBegin, hfiPropEnd) hfiId

instance (hfiId : U32) : Decidable (IsProperty hfiId) := inferInstanceAs (Decidable (inRange _ _))

/-- What a table has to say for a function to keep to the bounds of its property. -/
def Setter.Fits (caps : CapId → Cap) (id : CapId) : Setter → Prop
  | .u32Enum | .u32 => Unbounded (caps id).hfiId
  | .stage => (caps id).hfiId = hfiPropStage
  | .pipe => (caps id).hfiId = hfiPropPipe ∧ (caps .pipe).Spans 1 4
  | .profile =>
      ∀ source ∈ [CapId.profileH264, .profileHevc],
        IsProperty (caps source).hfiId ∧ Unbounded (caps source).hfiId
  | .level =>
      ∀ source ∈ [CapId.levelH264, .levelHevc],
        IsProperty (caps source).hfiId ∧ Unbounded (caps source).hfiId
  | .headerModeGen2 => (caps id).hfiId = hfiPropSeqHeaderMode
  | .bitrate => (caps id).hfiId = hfiPropTotalBitrate ∧ id = .bitrate ∧ (caps id).Spans 1 245000000
  | .peakBitrate =>
      (caps id).hfiId = hfiPropTotalPeakBitrate ∧ id = .bitratePeak ∧
        (caps .bitrate).Spans 1 245000000 ∧ (caps id).min = 1 ∧ (caps id).max = 245000000 ∧
        (caps id).flags.menu = false
  | .bitrateModeGen2 => (caps id).hfiId = hfiPropRateControl ∧ (caps .bitrateMode).Spans 0 1
  | .entropyModeGen2 =>
      (caps id).hfiId = hfiPropCabacSession ∧ id = .entropyMode ∧ (caps id).Spans 0 1 ∧
        (caps id).Allows 0
  | .minQp =>
      (caps id).hfiId = hfiPropMinQpPacked ∧
        qpSpans caps [.minFrameQpH264, .iFrameMinQpH264, .pFrameMinQpH264, .bFrameMinQpH264,
          .minFrameQpHevc, .iFrameMinQpHevc, .pFrameMinQpHevc, .bFrameMinQpHevc]
  | .maxQp =>
      (caps id).hfiId = hfiPropMaxQpPacked ∧
        qpSpans caps [.maxFrameQpH264, .iFrameMaxQpH264, .pFrameMaxQpH264, .bFrameMaxQpH264,
          .maxFrameQpHevc, .iFrameMaxQpHevc, .pFrameMaxQpHevc, .bFrameMaxQpHevc]
  | .frameQp =>
      (caps id).hfiId = hfiPropQpPacked ∧
        qpSpans caps [.iFrameQpH264, .pFrameQpH264, .bFrameQpH264, .iFrameQpHevc, .pFrameQpHevc,
          .bFrameQpHevc]

instance (caps : CapId → Cap) (id : CapId) (set : Setter) : Decidable (set.Fits caps id) := by
  cases set <;> unfold Setter.Fits <;> infer_instance

/-- A table of capabilities that a driver can run with. -/
structure SoundTable (caps : CapId → Cap) : Prop where
  default : ∀ id, (caps id).Allows (caps id).value
  setter : ∀ id set, (caps id).set = some set → IsProperty (caps id).hfiId ∧ set.Fits caps id

/-- The two conditions, decided for the entry of one capability. -/
def soundEntry (caps : CapId → Cap) (id : CapId) : Bool :=
  decide ((caps id).Allows (caps id).value) &&
    match (caps id).set with
    | none => true
    | some set => decide (IsProperty (caps id).hfiId ∧ set.Fits caps id)

theorem soundTable_of_all {caps : CapId → Cap} (hall : CapId.all.all (soundEntry caps)) :
    SoundTable caps := by
  have hentry : ∀ id, soundEntry caps id := fun id =>
    List.all_eq_true.1 hall id (CapId.mem_all id)
  refine ⟨fun id => ?_, fun id set hset => ?_⟩
  · have h := hentry id
    rw [soundEntry, Bool.and_eq_true] at h
    exact of_decide_eq_true h.1
  · have h := hentry id
    rw [soundEntry, Bool.and_eq_true, hset] at h
    exact of_decide_eq_true h.2

/-- The tables of the platforms of the second generation. -/
theorem soundTable_instFwCaps (platform : Platform) (domain : Domain) :
    SoundTable (irisSessionInitCaps (platform.instFwCaps domain)) := by
  cases platform <;> cases domain <;> exact soundTable_of_all (by decide +kernel)

/-! ### The invariant -/

/-- What the firmware says about the stream is kept without a check. -/
def CapId.fromStream : CapId → Bool
  | .profileH264 | .profileHevc | .profileVp9 | .levelH264 | .levelHevc | .levelVp9 | .poc
  | .tier => true
  | _ => false

/-- An instance that started with these capabilities. -/
structure Kept (caps : CapId → Cap) (domain : Domain) (inst : CtrlInst) : Prop where
  sameDomain : inst.domain = domain
  entry : ∀ id, ∃ value clientSet, inst.fwCaps id =
    { caps id with value, flags := { (caps id).flags with clientSet } }
  allowed : ∀ id, ¬(domain = .decoder ∧ id.fromStream) → (caps id).Allows (inst.value id)
  calls : ∀ call ∈ inst.calls, Proper call

section Kept

variable {caps : CapId → Cap} {domain : Domain} {inst : CtrlInst} {id : CapId} {low high : Nat}

theorem Kept.hfiOf (hkept : Kept caps domain inst) (id : CapId) :
    hfiOf inst id = (caps id).hfiId := by
  obtain ⟨value, clientSet, hentry⟩ := hkept.entry id
  rw [Controls.hfiOf, hentry]

theorem Kept.set (hkept : Kept caps domain inst) (id : CapId) :
    (inst.fwCaps id).set = (caps id).set := by
  obtain ⟨value, clientSet, hentry⟩ := hkept.entry id
  rw [hentry]

theorem Kept.value_between (hkept : Kept caps domain inst) (hstream : id.fromStream = false)
    (hspans : (caps id).Spans low high) : (low : Int) ≤ inst.value id ∧ inst.value id ≤ high := by
  have hallowed := hkept.allowed id fun h => Bool.false_ne_true (hstream.symm.trans h.2)
  exact ⟨hspans.1.trans hallowed.1, hallowed.2.1.trans hspans.2⟩

theorem Kept.word_between (hkept : Kept caps domain inst) (hstream : id.fromStream = false)
    (hspans : (caps id).Spans low high) (hmax : high < 2 ^ 32) :
    Between low high (inst.word id) := by
  obtain ⟨hlow, hhigh⟩ := hkept.value_between hstream hspans
  exact between_ofInt hlow hhigh hmax

theorem Kept.setProperty {hfiId payloadType w : U32} (hkept : Kept caps domain inst)
    (hproperty : IsProperty hfiId) (hspec : InSpec hfiId w) :
    Kept caps domain (setProperty inst hfiId id payloadType w) := by
  refine ⟨hkept.sameDomain, hkept.entry, hkept.allowed, fun call hcall => ?_⟩
  rcases List.mem_append.1 hcall with hold | hnew
  · exact hkept.calls call hold
  · rw [List.mem_singleton.1 hnew]
    exact ⟨hproperty, w, rfl, hspec⟩

theorem Kept.update {cap : Cap} (hkept : Kept caps domain inst)
    (hentry : ∃ value clientSet, cap =
      { caps id with value, flags := { (caps id).flags with clientSet } })
    (hallowed : ¬(domain = .decoder ∧ id.fromStream) → (caps id).Allows cap.value) :
    Kept caps domain { inst with fwCaps := Function.update inst.fwCaps id cap } := by
  refine ⟨hkept.sameDomain, fun other => ?_, fun other hother => ?_, hkept.calls⟩
  · change ∃ value clientSet, Function.update inst.fwCaps id cap other = _
    by_cases heq : other = id
    · subst heq
      rw [Function.update_self]
      exact hentry
    · rw [Function.update_of_ne heq]
      exact hkept.entry other
  · change (caps other).Allows (Function.update inst.fwCaps id cap other).value
    by_cases heq : other = id
    · subst heq
      rw [Function.update_self]
      exact hallowed hother
    · rw [Function.update_of_ne heq]
      exact hkept.allowed other hother

theorem Kept.store {value : Int} (hkept : Kept caps domain inst)
    (hallowed : ¬(domain = .decoder ∧ id.fromStream) → (caps id).Allows value) :
    Kept caps domain (inst.store id value) := by
  obtain ⟨old, clientSet, hentry⟩ := hkept.entry id
  exact hkept.update ⟨value, clientSet, by rw [hentry]⟩ hallowed

end Kept

/-! ### The functions -/

section Setters

variable {caps : CapId → Cap} {domain : Domain} {inst : CtrlInst} {id : CapId}

theorem inSpec_of_unbounded {hfiId w : U32} (h : Unbounded hfiId) : InSpec hfiId w := by
  simp only [Unbounded, List.mem_cons, List.not_mem_nil, or_false, not_or] at h
  obtain ⟨h1, h2, h3, h4, h5, h6, h7, h8, h9, h10⟩ := h
  simp only [InSpec, h1, h2, h3, h4, h5, h6, h7, h8, h9, h10, or_self, if_false]

theorem Kept.setOfCodec {h264 hevc : CapId} (hkept : Kept caps domain inst)
    (hsources : ∀ source ∈ [h264, hevc],
      IsProperty (caps source).hfiId ∧ Unbounded (caps source).hfiId) :
    Kept caps domain (setOfCodec h264 hevc id inst) := by
  have hsource : ∀ b : Prop, [Decidable b] → (if b then h264 else hevc) ∈ [h264, hevc] := by
    intro b _
    split_ifs <;> simp
  obtain ⟨hproperty, hfree⟩ := hsources _ (hsource (inst.codec = .h264))
  unfold Controls.setOfCodec
  dsimp only
  rw [hkept.hfiOf]
  exact hkept.setProperty hproperty (inSpec_of_unbounded hfree)

theorem Kept.setBitrate (hkept : Kept caps domain inst) (hproperty : IsProperty (caps id).hfiId)
    (hfits : Setter.bitrate.Fits caps id) : Kept caps domain (irisSetBitrate id inst) := by
  obtain ⟨hhfi, rfl, hspans⟩ := hfits
  have hword := hkept.word_between rfl hspans (by decide)
  unfold irisSetBitrate
  dsimp only
  rw [hkept.hfiOf]
  refine hkept.setProperty hproperty ?_
  rw [hhfi]
  change Between 1 220000000 _
  have hcabac : Gen1Properties.cabacMaxBitrate.toNat = 160000000 := rfl
  have hcavlc : Gen1Properties.cavlcMaxBitrate.toNat = 220000000 := rfl
  obtain ⟨hlow, -⟩ := hword
  split_ifs with hcabacMode hlt hlt
  · exact ⟨by omega, by omega⟩
  · rw [BitVec.lt_def] at hlt
    exact ⟨hlow, by omega⟩
  · exact ⟨by omega, by omega⟩
  · rw [BitVec.lt_def] at hlt
    exact ⟨hlow, by omega⟩

theorem Kept.setPeakBitrate (hkept : Kept caps domain inst)
    (hproperty : IsProperty (caps id).hfiId) (hfits : Setter.peakBitrate.Fits caps id) :
    Kept caps domain (irisSetPeakBitrate id inst) := by
  obtain ⟨hhfi, rfl, hbitrate, hmin, hmax, hmenu⟩ := hfits
  have hrate : Between 1 245000000 (inst.word .bitrate) :=
    hkept.word_between rfl hbitrate (by decide)
  have hpeak : Between 1 245000000 (inst.word .bitratePeak) :=
    hkept.word_between rfl ⟨hmin.ge, hmax.le⟩ (by decide)
  have hallows : ∀ w, Between 1 245000000 w → (caps .bitratePeak).Allows w.toNat := by
    intro w hw
    obtain ⟨hlow, hhigh⟩ := hw
    refine ⟨by omega, by omega, fun h => ?_⟩
    rw [hmenu] at h
    exact absurd h Bool.false_ne_true
  unfold irisSetPeakBitrate
  dsimp only
  split_ifs with hmode hset hlt
  · exact hkept
  all_goals
    rw [hkept.hfiOf]
    refine (hkept.store fun _ => hallows _ ?_).setProperty hproperty ?_
    · assumption
    · rw [hhfi]
      assumption

theorem Kept.setEntropyMode (hkept : Kept caps domain inst)
    (hproperty : IsProperty (caps id).hfiId) (hfits : Setter.entropyModeGen2.Fits caps id) :
    Kept caps domain (irisSetEntropyModeGen2 id inst) := by
  obtain ⟨hhfi, rfl, hspans, hcavlc⟩ := hfits
  have hword : Between 0 1 (inst.word .entropyMode) := hkept.word_between rfl hspans (by decide)
  have hvalue : 0 ≤ inst.value .entropyMode ∧ inst.value .entropyMode ≤ 1 :=
    hkept.value_between rfl hspans
  have hallowed : (caps .entropyMode).Allows (inst.word .entropyMode).toNat := by
    have hback : ((inst.word .entropyMode).toNat : Int) = inst.value .entropyMode := by
      obtain ⟨n, hn⟩ : ∃ n : Nat, inst.value .entropyMode = n := ⟨_, (Int.toNat_of_nonneg
        (by omega)).symm⟩
      rw [CtrlInst.word, hn, BitVec.ofInt_natCast, BitVec.toNat_ofNat, Nat.mod_eq_of_lt (by omega)]
    rw [hback]
    exact hkept.allowed _ fun h => Bool.false_ne_true h.2
  unfold irisSetEntropyModeGen2
  dsimp only
  split_ifs with hcodec hbaseline
  · exact hkept
  all_goals
    rw [hkept.hfiOf]
    refine (hkept.store fun _ => ?_).setProperty hproperty ?_
    · assumption
    · rw [hhfi]
      first | assumption | exact ⟨Nat.le_refl 0, Nat.zero_le 1⟩

theorem Kept.setQpBound {pick : Int → Int → Int} {types : QpCaps} {all : List CapId}
    (hpick : ∀ a b : Int, pick a b = a ∨ pick a b = b) (hkept : Kept caps domain inst)
    (hproperty : IsProperty (caps id).hfiId)
    (hhfi : (caps id).hfiId = hfiPropMinQpPacked ∨ (caps id).hfiId = hfiPropMaxQpPacked)
    (hspans : qpSpans caps all)
    (htypes : ∀ type ∈ [types.frame, types.i, types.p, types.b],
      type ∈ all ∧ type.fromStream = false) :
    Kept caps domain (setQpBound pick types id inst) := by
  have hvalue : ∀ type ∈ [types.frame, types.i, types.p, types.b],
      1 ≤ inst.value type ∧ inst.value type ≤ 51 := by
    intro type htype
    obtain ⟨hall, hstream⟩ := htypes type htype
    exact hkept.value_between hstream (hspans type hall)
  have hqp : ∀ type ∈ [types.i, types.p, types.b],
      Between 1 51 (BitVec.ofInt 32 (pick (inst.value type) (inst.value types.frame))) := by
    intro type htype
    have hframe := hvalue types.frame List.mem_cons_self
    have hown := hvalue type (List.mem_cons_of_mem _ htype)
    rcases hpick (inst.value type) (inst.value types.frame) with h | h <;> rw [h]
    · exact between_ofInt hown.1 hown.2 (by decide)
    · exact between_ofInt hframe.1 hframe.2 (by decide)
  unfold Controls.setQpBound
  dsimp only
  split_ifs with henable
  · exact hkept
  · rw [hkept.hfiOf]
    refine hkept.setProperty hproperty ?_
    rw [InSpec, if_pos (hhfi.imp_right .inl)]
    exact qpWord_packQp (hqp _ (by simp)) (hqp _ (by simp)) (hqp _ (by simp))
      (qpEnable_between henable)

theorem Kept.setFrameQp (hkept : Kept caps domain inst) (hproperty : IsProperty (caps id).hfiId)
    (hfits : Setter.frameQp.Fits caps id) : Kept caps domain (irisSetFrameQp id inst) := by
  obtain ⟨hhfi, hspans⟩ := hfits
  have hword : ∀ type ∈ [CapId.iFrameQpH264, .pFrameQpH264, .bFrameQpH264, .iFrameQpHevc,
      .pFrameQpHevc, .bFrameQpHevc], type.fromStream = false → Between 1 51 (inst.word type) :=
    fun type htype hstream => hkept.word_between hstream (hspans type htype) (by decide)
  unfold irisSetFrameQp
  split
  next i p b htypes =>
    have hall : Between 1 51 (inst.word i) ∧ Between 1 51 (inst.word p) ∧
        Between 1 51 (inst.word b) := by
      split_ifs at htypes <;>
      · simp only [Prod.mk.injEq] at htypes
        obtain ⟨rfl, rfl, rfl⟩ := htypes
        exact ⟨hword _ (by simp) rfl, hword _ (by simp) rfl, hword _ (by simp) rfl⟩
    dsimp only
    split_ifs with hstreaming henable
    · exact hkept
    · exact hkept
    · rw [hkept.hfiOf]
      refine hkept.setProperty hproperty ?_
      rw [hhfi]
      exact qpWord_packQp hall.1 hall.2.1 hall.2.2 (qpEnable_between henable)

theorem Kept.setBitrateMode (hkept : Kept caps domain inst)
    (hproperty : IsProperty (caps id).hfiId) (hfits : Setter.bitrateModeGen2.Fits caps id) :
    Kept caps domain (irisSetBitrateModeGen2 id inst) := by
  obtain ⟨hhfi, hspans⟩ := hfits
  obtain ⟨-, hmode⟩ : Between 0 1 (inst.word .bitrateMode) :=
    hkept.word_between rfl hspans (by decide)
  have hsame : ∀ rc, Kept caps domain { inst with hfiRcType := rc } := fun _ =>
    ⟨hkept.sameDomain, hkept.entry, hkept.allowed, hkept.calls⟩
  unfold irisSetBitrateModeGen2
  dsimp only
  rw [hkept.hfiOf]
  refine (hsame _).setProperty hproperty ?_
  rw [hhfi]
  change _ = hfiRcVbrCfr ∨ _ = hfiRcCbrCfr ∨ _ = hfiRcOff ∨ _ = hfiRcCbrVfr
  by_cases hrc : inst.word .frameRcEnable = 0
  · rw [if_pos hrc]
    exact .inr (.inr (.inl rfl))
  rw [if_neg hrc]
  obtain h | h : (inst.word .bitrateMode).toNat = 0 ∨ (inst.word .bitrateMode).toNat = 1 := by
    omega
  · rw [h]
    exact .inl rfl
  · rw [h]
    split_ifs
    · exact .inr (.inr (.inr rfl))
    · exact .inr (.inl rfl)

/-- **A function of a capability** keeps the bounds. -/
theorem Kept.run {set : Setter} (hkept : Kept caps domain inst)
    (hproperty : IsProperty (caps id).hfiId) (hfits : set.Fits caps id) :
    Kept caps domain (set.run id inst) := by
  cases set with
  | u32Enum =>
      change Kept caps domain (irisSetU32Enum id inst)
      rw [irisSetU32Enum, hkept.hfiOf]
      exact hkept.setProperty hproperty (inSpec_of_unbounded hfits)
  | u32 =>
      change Kept caps domain (irisSetU32 id inst)
      rw [irisSetU32, hkept.hfiOf]
      exact hkept.setProperty hproperty (inSpec_of_unbounded hfits)
  | stage =>
      have hhfi : (caps id).hfiId = hfiPropStage := hfits
      change Kept caps domain (irisSetStage id inst)
      unfold irisSetStage
      dsimp only
      rw [hkept.hfiOf]
      refine hkept.setProperty hproperty ?_
      rw [hhfi]
      change Between 1 2 _
      split_ifs <;> simp [Between]
  | pipe =>
      obtain ⟨hhfi, hspans⟩ := hfits
      change Kept caps domain (irisSetPipe id inst)
      rw [irisSetPipe, hkept.hfiOf]
      refine hkept.setProperty hproperty ?_
      rw [hhfi]
      exact hkept.word_between rfl hspans (by decide)
  | profile => exact hkept.setOfCodec hfits
  | level => exact hkept.setOfCodec hfits
  | headerModeGen2 =>
      have hhfi : (caps id).hfiId = hfiPropSeqHeaderMode := hfits
      change Kept caps domain (irisSetHeaderModeGen2 id inst)
      unfold irisSetHeaderModeGen2
      dsimp only
      rw [hkept.hfiOf]
      refine hkept.setProperty hproperty ?_
      rw [hhfi]
      change _ = hfiSeqHeaderSeperateFrame ∨ _ = hfiSeqHeaderJoinedWith1stFrame ∨
        _ = hfiSeqHeaderPrefixWithSyncFrame
      split_ifs <;> simp
  | bitrate => exact hkept.setBitrate hproperty hfits
  | peakBitrate => exact hkept.setPeakBitrate hproperty hfits
  | bitrateModeGen2 => exact hkept.setBitrateMode hproperty hfits
  | entropyModeGen2 => exact hkept.setEntropyMode hproperty hfits
  | minQp =>
      refine hkept.setQpBound (fun a b => max_choice a b) hproperty (.inl hfits.1) hfits.2 ?_
      cases inst.codec <;> simp [minQpCaps, CapId.fromStream]
  | maxQp =>
      refine hkept.setQpBound (fun a b => min_choice a b) hproperty (.inr hfits.1) hfits.2 ?_
      cases inst.codec <;> simp [maxQpCaps, CapId.fromStream]
  | frameQp => exact hkept.setFrameQp hproperty hfits

end Setters

/-! ### Every run -/

section Runs

variable {caps : CapId → Cap} {domain : Domain} {inst : CtrlInst}

theorem Kept.applyCap (hsound : SoundTable caps) (hkept : Kept caps domain inst) (id : CapId) :
    Kept caps domain (applyCap inst id) := by
  unfold Controls.applyCap
  cases hset : (inst.fwCaps id).set with
  | none => exact hkept
  | some set =>
      obtain ⟨hproperty, hfits⟩ := hsound.setter id set ((hkept.set id).symm.trans hset)
      exact hkept.run hproperty hfits

theorem Kept.setProperties (hsound : SoundTable caps) (hkept : Kept caps domain inst)
    (configRet : Int) : Kept caps domain (irisSetProperties configRet inst).2 := by
  unfold irisSetProperties
  split_ifs with hret
  · exact hkept
  · dsimp only
    generalize CapId.all = ids
    induction ids generalizing inst with
    | nil => exact hkept
    | cons id rest ih =>
        rw [List.foldl_cons]
        refine ih ?_
        split_ifs
        · exact hkept.applyCap hsound id
        · exact hkept

/-- What a step takes from outside: the value of a control of the instance that the framework lets
through, or a source change of a decoder. -/
def OfFramework (caps : CapId → Cap) (domain : Domain) : CtrlOp → Prop
  | .sCtrl ctrl val => ∀ id, irisGetCapId ctrl = some id → (caps id).Allows val
  | .sourceChange _ => domain = .decoder
  | .setProperties _ | .surround _ => True

/-- A value that the framework lets through is stored, and marked. -/
theorem Kept.stored (hkept : Kept caps domain inst) {ctrl : CtrlId} {val : Int} {id : CapId}
    (hid : irisGetCapId ctrl = some id)
    (hval : ∀ id, irisGetCapId ctrl = some id → (caps id).Allows val) :
    Kept caps domain
      { inst with
        fwCaps := Function.update inst.fwCaps id
          { inst.fwCaps id with
            value := val
            flags := { (inst.fwCaps id).flags with clientSet := true } } } := by
  obtain ⟨old, clientSet, hentry⟩ := hkept.entry id
  exact hkept.update ⟨val, true, by rw [hentry]⟩ fun _ => hval id hid

theorem Kept.sCtrl (hsound : SoundTable caps) (hkept : Kept caps domain inst) {ctrl : CtrlId}
    {val : Int} (hval : ∀ id, irisGetCapId ctrl = some id → (caps id).Allows val) :
    Kept caps domain (irisOpSCtrl ctrl val inst).2 := by
  have hother : ∀ inst' : CtrlInst, inst'.domain = inst.domain → inst'.fwCaps = inst.fwCaps →
      inst'.calls = inst.calls → Kept caps domain inst' := by
    intro inst' hdomain hcaps hcalls
    refine ⟨hdomain.trans hkept.sameDomain, ?_, ?_, ?_⟩
    · rw [hcaps]
      exact hkept.entry
    · unfold CtrlInst.value
      rw [hcaps]
      exact hkept.allowed
    · rw [hcalls]
      exact hkept.calls
  unfold irisOpSCtrl
  split
  · split_ifs
    · exact hkept
    · exact hother _ rfl rfl rfl
  · split_ifs
    · exact hkept
    · exact hother _ rfl rfl rfl
  · split
    · exact hkept
    next id hid =>
      have hstored := hkept.stored hid hval
      dsimp only
      split_ifs
      · exact hkept
      · exact hstored.applyCap hsound id
      · exact hstored

theorem Kept.sourceChange (hkept : Kept caps domain inst) (hdecoder : domain = .decoder)
    (params : SubscriptionParams) : Kept caps domain (readInputSubcrParams params inst) := by
  have hstream : ∀ {id : CapId} {v : Int}, id.fromStream → ∀ {inst' : CtrlInst},
      Kept caps domain inst' → Kept caps domain (inst'.store id v) := fun hid _ hkept' =>
    hkept'.store fun h => absurd ⟨hdecoder, hid⟩ h
  unfold readInputSubcrParams
  cases inst.codec <;>
    exact hstream rfl (hstream rfl (hstream rfl (hstream rfl hkept)))

theorem Kept.step (hsound : SoundTable caps) (hkept : Kept caps domain inst) {op : CtrlOp}
    (hop : OfFramework caps domain op) : Kept caps domain (ctrlStep inst op) := by
  cases op with
  | sCtrl ctrl val => exact hkept.sCtrl hsound hop
  | setProperties configRet => exact hkept.setProperties hsound configRet
  | sourceChange params => exact hkept.sourceChange hop params
  | surround surroundings =>
      exact ⟨hkept.sameDomain, hkept.entry, hkept.allowed, hkept.calls⟩

/-- An instance starts with the entries of its table. -/
theorem kept_instInit (platform : Platform) (domain : Domain) :
    Kept (irisSessionInitCaps (platform.instFwCaps domain)) domain
      (instInit platform domain) where
  sameDomain := rfl
  entry := fun _ => ⟨_, _, rfl⟩
  allowed := fun id _ => (soundTable_instFwCaps platform domain).default id
  calls := fun _ hcall => absurd hcall List.not_mem_nil

theorem kept_run (platform : Platform) (domain : Domain) {ops : List CtrlOp}
    (hops : ∀ op ∈ ops, OfFramework (irisSessionInitCaps (platform.instFwCaps domain)) domain op) :
    Kept (irisSessionInitCaps (platform.instFwCaps domain)) domain
      (ops.foldl ctrlStep (instInit platform domain)) := by
  have hsound := soundTable_instFwCaps platform domain
  have hgeneral : ∀ inst, Kept (irisSessionInitCaps (platform.instFwCaps domain)) domain inst →
      Kept (irisSessionInitCaps (platform.instFwCaps domain)) domain (ops.foldl ctrlStep inst) := by
    induction ops with
    | nil => exact fun _ h => h
    | cons op rest ih =>
        intro inst hkept
        rw [List.foldl_cons]
        exact ih (fun other hother => hops other (List.mem_cons_of_mem _ hother)) _
          (hkept.step hsound (hops op List.mem_cons_self))
  exact hgeneral _ (kept_instInit platform domain)

/-- **Values within their bounds.** Over every run of new values that the framework lets through,
properties that are set, source changes of a decoder and streaming, every capability keeps the
bounds of its table and a value within them (but for what the firmware says about the stream of a
decoder), and every call of `session_set_property` is one word, of a property, within the bounds of
that property. -/
theorem controls_stay_in_bounds (platform : Platform) (domain : Domain) (ops : List CtrlOp)
    (hops : ∀ op ∈ ops, OfFramework (irisSessionInitCaps (platform.instFwCaps domain)) domain op) :
    let table := irisSessionInitCaps (platform.instFwCaps domain)
    let inst := ops.foldl ctrlStep (instInit platform domain)
    (∀ id, (inst.fwCaps id).min = (table id).min ∧ (inst.fwCaps id).max = (table id).max ∧
        (inst.fwCaps id).stepOrMask = (table id).stepOrMask) ∧
      (∀ id, ¬(domain = .decoder ∧ id.fromStream) → (inst.fwCaps id).Allows (inst.value id)) ∧
      ∀ call ∈ inst.calls, Proper call ∧ call.op.OfDriver := by
  intro table inst
  have hkept : Kept table domain inst := kept_run platform domain hops
  refine ⟨fun id => ?_, fun id hid => ?_, fun call hcall => ?_⟩
  · obtain ⟨value, clientSet, hentry⟩ := hkept.entry id
    rw [hentry]
    exact ⟨rfl, rfl, rfl⟩
  · have hallowed := hkept.allowed id hid
    obtain ⟨value, clientSet, hentry⟩ := hkept.entry id
    unfold Cap.Allows at hallowed ⊢
    rw [hentry]
    exact hallowed
  · exact ⟨hkept.calls call hcall, (hkept.calls call hcall).ofDriver⟩

/-- A bit rate, a constant one, and a bound for the quantization of a stream. -/
def encoderControls : List CtrlOp :=
  [.sCtrl (.codec .bitrate) 8000000, .sCtrl (.codec .bitrateMode) 1, .sCtrl (.codec .h264MinQp) 12,
    .setProperties 0]

theorem controls_stay_in_bounds_encoder :
    let table := irisSessionInitCaps (Platform.sm8550.instFwCaps .encoder)
    let inst := encoderControls.foldl ctrlStep (instInit .sm8550 .encoder)
    (∀ id, (inst.fwCaps id).min = (table id).min ∧ (inst.fwCaps id).max = (table id).max ∧
        (inst.fwCaps id).stepOrMask = (table id).stepOrMask) ∧
      (∀ id, ¬(Domain.encoder = .decoder ∧ id.fromStream) →
        (inst.fwCaps id).Allows (inst.value id)) ∧
      ∀ call ∈ inst.calls, Proper call ∧ call.op.OfDriver := by
  refine controls_stay_in_bounds .sm8550 .encoder encoderControls ?_
  intro op hop
  simp only [encoderControls, List.mem_cons, List.not_mem_nil, or_false] at hop
  rcases hop with rfl | rfl | rfl | rfl
  · intro id hid
    cases hid
    decide +kernel
  · intro id hid
    cases hid
    decide +kernel
  · intro id hid
    cases hid
    decide +kernel
  · trivial

end Runs

end NabuIris.Controls
