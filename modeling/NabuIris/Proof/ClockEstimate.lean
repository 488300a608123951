import NabuIris.Frequency
import NabuIris.Proof.FormatExactness

/-!
# Where the clock estimate is exact

The estimate is the larger of two terms, and a term that wraps around is below its exact value.
So the estimate is exact when the larger term is, and an exact estimate is not below that of
any lighter stream, whether that one wraps around or not.
-/

namespace NabuIris

open FormatSizes

variable {platform : Platform} {mbs fps data mbs' fps' data' : Nat}

/-! ### The formula -/

def vppCycles (platform : Platform) (mbs fps : Nat) : Nat := mbs * fps * platform.mbCyclesVpp.toNat

def vppRate (platform : Platform) (mbs fps : Nat) : Nat :=
  vppCycles platform mbs fps + vppCycles platform mbs fps / 20

def vspRate (platform : Platform) (mbs fps data : Nat) : Nat :=
  mbs * fps * platform.mbCyclesVsp.toNat + fps * data * 8 * 10 / 7

/-- The rate that a stream needs. -/
def clockRate (platform : Platform) (mbs fps data : Nat) : Nat :=
  max (vppRate platform mbs fps) (vspRate platform mbs fps data)

theorem clockRate_mono (hmbs : mbs' ≤ mbs) (hfps : fps' ≤ fps) (hdata : data' ≤ data) :
    clockRate platform mbs' fps' data' ≤ clockRate platform mbs fps data := by
  have hproduct : mbs' * fps' ≤ mbs * fps := Nat.mul_le_mul hmbs hfps
  have hvpp : vppCycles platform mbs' fps' ≤ vppCycles platform mbs fps :=
    Nat.mul_le_mul_right _ hproduct
  refine max_le_max (Nat.add_le_add hvpp (Nat.div_le_div_right hvpp)) ?_
  refine Nat.add_le_add (Nat.mul_le_mul_right _ hproduct) (Nat.div_le_div_right ?_)
  gcongr

/-! ### The terms with their wrap-around -/

def wrappedVppRate (platform : Platform) (mbs fps : Nat) : Nat :=
  vppCycles platform mbs fps % 2 ^ 32 + vppCycles platform mbs fps % 2 ^ 32 / 20

def wrappedVspRate (platform : Platform) (mbs fps data : Nat) : Nat :=
  mbs * fps * platform.mbCyclesVsp.toNat + fps * data * 8 * 10 % 2 ^ 64 / 7

theorem wrappedVppRate_le : wrappedVppRate platform mbs fps ≤ vppRate platform mbs fps :=
  Nat.add_le_add (Nat.mod_le _ _) (Nat.div_le_div_right (Nat.mod_le _ _))

theorem wrappedVspRate_le :
    wrappedVspRate platform mbs fps data ≤ vspRate platform mbs fps data :=
  Nat.add_le_add_left (Nat.div_le_div_right (Nat.mod_le _ _)) _

theorem wrappedVppRate_eq_iff :
    wrappedVppRate platform mbs fps = vppRate platform mbs fps ↔
      vppCycles platform mbs fps < 2 ^ 32 := by
  unfold wrappedVppRate vppRate
  omega

theorem wrappedVspRate_eq_iff :
    wrappedVspRate platform mbs fps data = vspRate platform mbs fps data ↔
      fps * data * 8 * 10 < 2 ^ 64 := by
  unfold wrappedVspRate vspRate
  omega

/-- The larger of two lowered terms is the larger term exactly where that one is not lowered. -/
theorem max_lowered_eq_iff {a b a' b' : Nat} (ha : a' ≤ a) (hb : b' ≤ b) :
    max a' b' = max a b ↔ b ≤ a ∧ a' = a ∨ a ≤ b ∧ b' = b := by
  omega

/-! ### Streams -/

namespace RateInst

/-- The macroblocks of a frame. -/
def macroblocks (inst : RateInst) : Nat :=
  frameMbs (max inst.formats.src.width.toNat inst.formats.crop.width.toNat)
    (max inst.formats.src.height.toNat inst.formats.crop.height.toNat)

def rate (inst : RateInst) : Nat := (irisGetOperatingFps inst).toNat

/-- A resolution and a rate that the platform allows. -/
structure Allowed (platform : Platform) (inst : RateInst) : Prop where
  macroblocks_le : inst.macroblocks ≤ platform.maxMbpf.toNat
  rate_le : inst.rate ≤ maximumFps.toNat

end RateInst

/-- A frame of few macroblocks is counted without a wrap-around. -/
theorem wrappedMbs_eq {width height : Nat} (hfew : frameMbs width height < 2 ^ 27) :
    wrappedMbs width height = frameMbs width height := by
  unfold wrappedMbs
  unfold frameMbs at hfew ⊢
  rcases Nat.eq_zero_or_pos ((height + 15) / 16) with hrows | hrows
  · have hwrapped : (height + 15) % 2 ^ 32 / 16 = 0 := by omega
    rw [hrows, hwrapped, Nat.zero_mul, Nat.zero_mul, Nat.zero_mod]
  rcases Nat.eq_zero_or_pos ((width + 15) / 16) with hcols | hcols
  · have hwrapped : (width + 15) % 2 ^ 32 / 16 = 0 := by omega
    rw [hcols, hwrapped, Nat.mul_zero, Nat.mul_zero, Nat.zero_mod]
  have hrows' := (Nat.le_mul_of_pos_right ((height + 15) / 16) hcols).trans_lt hfew
  have hcols' := (Nat.le_mul_of_pos_left ((width + 15) / 16) hrows).trans_lt hfew
  rw [Nat.mod_eq_of_lt (by omega : height + 15 < 2 ^ 32),
    Nat.mod_eq_of_lt (by omega : width + 15 < 2 ^ 32)]
  exact Nat.mod_eq_of_lt (hfew.trans (by decide))

theorem maxMbpf_le (platform : Platform) : platform.maxMbpf.toNat ≤ 139264 := by
  cases platform <;> decide

theorem mbCyclesVsp_le (platform : Platform) : platform.mbCyclesVsp.toNat ≤ 25 := by
  cases platform <;> decide

/-- The words hold the terms with their wrap-around. -/
theorem irisVpu2CalcFreq_toNat {inst : RateInst} (hinst : inst.Allowed platform) (dataSize : U64) :
    (irisVpu2CalcFreq platform inst dataSize).toNat =
      max (wrappedVppRate platform inst.macroblocks inst.rate)
        (wrappedVspRate platform inst.macroblocks inst.rate dataSize.toNat) := by
  have hfps : inst.rate ≤ 480 := hinst.rate_le
  have hmbs : inst.macroblocks ≤ 139264 := hinst.macroblocks_le.trans (maxMbpf_le platform)
  have hfew : inst.macroblocks < 2 ^ 27 := by omega
  have hmbpf : (irisGetMbpf inst.toLoadInst).toNat = inst.macroblocks :=
    (irisGetMbpf_toNat inst.toLoadInst).trans (wrappedMbs_eq hfew)
  have hproduct : inst.macroblocks * inst.rate ≤ 139264 * 480 := Nat.mul_le_mul hmbs hfps
  have hvsp : inst.macroblocks * inst.rate * platform.mbCyclesVsp.toNat ≤ 139264 * 480 * 25 :=
    Nat.mul_le_mul hproduct (mbCyclesVsp_le platform)
  have hsecond : (irisGetMbpf inst.toLoadInst * irisGetOperatingFps inst).toNat =
      inst.macroblocks * inst.rate := by
    rw [BitVec.toNat_mul, hmbpf]
    exact Nat.mod_eq_of_lt (by omega : inst.macroblocks * inst.rate < 2 ^ 32)
  have hbytes : ((irisGetOperatingFps inst).setWidth 64 * dataSize * 8 * 10 : U64).toNat =
      inst.rate * dataSize.toNat * 8 * 10 % 2 ^ 64 := by
    rw [BitVec.toNat_mul, BitVec.toNat_mul, BitVec.toNat_mul, BitVec.toNat_setWidth]
    change inst.rate % 2 ^ 64 * dataSize.toNat % 2 ^ 64 * 8 % 2 ^ 64 * 10 % 2 ^ 64 = _
    rw [Nat.mod_eq_of_lt (by omega : inst.rate < 2 ^ 64)]
    omega
  have hvppWord : ((irisGetMbpf inst.toLoadInst * irisGetOperatingFps inst *
      platform.mbCyclesVpp).setWidth 64).toNat =
        vppCycles platform inst.macroblocks inst.rate % 2 ^ 32 := by
    rw [BitVec.toNat_setWidth, BitVec.toNat_mul, hsecond, vppCycles]
    omega
  have hvspWord : ((irisGetMbpf inst.toLoadInst * irisGetOperatingFps inst *
      platform.mbCyclesVsp).setWidth 64).toNat =
        inst.macroblocks * inst.rate * platform.mbCyclesVsp.toNat := by
    rw [BitVec.toNat_setWidth, BitVec.toNat_mul, hsecond]
    omega
  have htwenty : (20 : U64).toNat = 20 := rfl
  have hseven : (7 : U64).toNat = 7 := rfl
  dsimp only [irisVpu2CalcFreq]
  rw [toNat_larger, BitVec.toNat_add, BitVec.toNat_add, BitVec.toNat_udiv, BitVec.toNat_udiv,
    hvppWord, hvspWord, hbytes, htwenty, hseven]
  unfold wrappedVppRate wrappedVspRate
  omega

/-! ### The estimate -/

/-- The larger term does not wrap around. -/
def LargerTermFits (platform : Platform) (mbs fps data : Nat) : Prop :=
  vspRate platform mbs fps data ≤ vppRate platform mbs fps ∧
      vppCycles platform mbs fps < 2 ^ 32 ∨
    vppRate platform mbs fps ≤ vspRate platform mbs fps data ∧ fps * data * 8 * 10 < 2 ^ 64

theorem wrapped_eq_clockRate_iff :
    max (wrappedVppRate platform mbs fps) (wrappedVspRate platform mbs fps data) =
        clockRate platform mbs fps data ↔
      LargerTermFits platform mbs fps data := by
  rw [clockRate, max_lowered_eq_iff wrappedVppRate_le wrappedVspRate_le, wrappedVppRate_eq_iff,
    wrappedVspRate_eq_iff]
  rfl

theorem wrapped_le_clockRate :
    max (wrappedVppRate platform mbs fps) (wrappedVspRate platform mbs fps data) ≤
      clockRate platform mbs fps data :=
  max_le_max wrappedVppRate_le wrappedVspRate_le

/-- **Clock estimate.** The estimate is that of the natural numbers, and not below that of any
lighter stream, exactly where its larger term fits its word. -/
theorem calc_freq_exact_iff {inst : RateInst} (hinst : inst.Allowed platform) (dataSize : U64) :
    ((irisVpu2CalcFreq platform inst dataSize).toNat =
          clockRate platform inst.macroblocks inst.rate dataSize.toNat ∧
        ∀ (inst' : RateInst) (dataSize' : U64), inst'.Allowed platform →
          inst'.macroblocks ≤ inst.macroblocks → inst'.rate ≤ inst.rate → dataSize' ≤ dataSize →
          irisVpu2CalcFreq platform inst' dataSize' ≤ irisVpu2CalcFreq platform inst dataSize) ↔
      LargerTermFits platform inst.macroblocks inst.rate dataSize.toNat := by
  rw [irisVpu2CalcFreq_toNat hinst, wrapped_eq_clockRate_iff]
  refine ⟨And.left, fun hfits => ⟨hfits, fun inst' dataSize' hinst' hmbs hfps hdata => ?_⟩⟩
  rw [BitVec.le_def, irisVpu2CalcFreq_toNat hinst, irisVpu2CalcFreq_toNat hinst',
    wrapped_eq_clockRate_iff.2 hfits]
  exact wrapped_le_clockRate.trans (clockRate_mono hmbs hfps (BitVec.le_def.1 hdata))

/-- A decoder of frames of this size, at this rate. -/
def decoding (width height frameRate : U32) : RateInst :=
  let inst := (FormatInst.allocated .decoder).toLoadInst
  { inst with
    formats := { inst.formats with src := { inst.formats.src with width, height } }
    frameRate }

theorem calc_freq_exact_1080p :
    (irisVpu2CalcFreq .sm8150 (decoding 1920 1080 60) 262144).toNat =
      clockRate .sm8150 8160 60 262144 :=
  ((calc_freq_exact_iff ⟨by decide, by decide⟩ 262144).2
    (by unfold LargerTermFits; decide)).1

/-- 8192x4320, the most macroblocks that the platform allows: at 156 frames a second the product of
the macroblocks and their cycles is above 32 bits. -/
theorem calc_freq_wraps :
    (decoding 8192 4320 156).Allowed .sm8150 ∧ (decoding 8192 4320 155).Allowed .sm8150 ∧
      (irisVpu2CalcFreq .sm8150 (decoding 8192 4320 156) 65536).toNat ≠
        clockRate .sm8150 138240 156 65536 ∧
      irisVpu2CalcFreq .sm8150 (decoding 8192 4320 156) 65536 <
        irisVpu2CalcFreq .sm8150 (decoding 8192 4320 155) 65536 :=
  ⟨⟨by decide, by decide⟩, ⟨by decide, by decide⟩, by decide, by decide⟩

end NabuIris
