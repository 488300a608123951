import Mathlib.Data.Nat.Bitwise
import NabuIris.Gen2Commands

/-!
# Which colours survive the firmware

A colour description goes to the firmware as one word and comes back as one word, through tables
that are not inverse to each other. The word keeps its fields apart, so what survives is decided
table by table.
-/

namespace NabuIris

open Lib Gen2Command

/-! ### Tables -/

section Tables

variable {enc dec : List (U32 × U32)} {f g c : U32} {kept : List U32}

theorem lookupCode_of_not_mem {table : List (U32 × U32)} (hcode : c ∉ table.map Prod.fst) :
    lookupCode table f c = f := by
  have hnone : (table.find? fun entry => entry.1 == c) = none := by
    rw [List.find?_eq_none]
    intro entry hentry heq
    exact hcode (List.mem_map.2 ⟨entry, hentry, beq_iff_eq.1 heq⟩)
  rw [lookupCode, hnone]
  rfl

/-- What is true of the fallback and of every code in the table is true of whatever is looked up. -/
theorem lookupCode_induction {P : U32 → U32 → Prop} {table : List (U32 × U32)}
    (hmem : ∀ c ∈ table.map Prod.fst, P c (lookupCode table f c))
    (hother : ∀ c, c ∉ table.map Prod.fst → P c f) : P c (lookupCode table f c) := by
  by_cases hcode : c ∈ table.map Prod.fst
  · exact hmem c hcode
  · rw [lookupCode_of_not_mem hcode]
    exact hother c hcode

/-- A code survives two tables exactly when it is one of those that do so by computation. -/
theorem lookupCode_roundTrip
    (hkept : ∀ c ∈ kept, c ∈ enc.map Prod.fst)
    (hmem : ∀ c ∈ enc.map Prod.fst, lookupCode dec g (lookupCode enc f c) = c ↔ c ∈ kept)
    (hback : lookupCode dec g f ∈ enc.map Prod.fst) :
    lookupCode dec g (lookupCode enc f c) = c ↔ c ∈ kept := by
  refine lookupCode_induction (P := fun c code => lookupCode dec g code = c ↔ c ∈ kept) hmem ?_
  intro c hcode
  constructor
  · rintro rfl
    exact absurd hback hcode
  · exact fun hc => absurd (hkept c hc) hcode

end Tables

/-! ### The word -/

section Word

variable {m t p cd fr vf vs x : U32}

theorem and_ff_of_lt (hx : x < 0x100) : x &&& 0xff = x := by
  have hlt : x.toNat < 2 ^ 8 := by simpa [BitVec.lt_def] using hx
  rw [← BitVec.toNat_inj, BitVec.toNat_and]
  exact Nat.and_two_pow_sub_one_of_lt_two_pow hlt

theorem shifted_byte (hx : x < 0x100) :
    ((x <<< 8) &&& 0xff00) >>> 8 = x ∧ ((x <<< 16) &&& 0xff0000) >>> 16 = x := by
  have hlt : x.toNat < 2 ^ 8 := by simpa [BitVec.lt_def] using hx
  constructor
  · rw [BitVec.ushiftRight_and_distrib]
    have hshift : x <<< 8 >>> 8 = x := by
      rw [← BitVec.toNat_inj, BitVec.toNat_ushiftRight, BitVec.toNat_shiftLeft,
        Nat.shiftLeft_eq, Nat.mod_eq_of_lt (by omega), Nat.shiftRight_eq_div_pow]
      omega
    rw [hshift]
    exact and_ff_of_lt hx
  · rw [BitVec.ushiftRight_and_distrib]
    have hshift : x <<< 16 >>> 16 = x := by
      rw [← BitVec.toNat_inj, BitVec.toNat_ushiftRight, BitVec.toNat_shiftLeft,
        Nat.shiftLeft_eq, Nat.mod_eq_of_lt (by omega), Nat.shiftRight_eq_div_pow]
      omega
    rw [hshift]
    exact and_ff_of_lt hx

theorem colorInfo_matrix (hm : m < 0x100) :
    irisHfiGen2GetColorInfo m t p cd fr vf vs &&& 0xff = m := by
  unfold irisHfiGen2GetColorInfo
  simp only [BitVec.and_or_distrib_right, BitVec.and_assoc]
  simpa using and_ff_of_lt hm

theorem colorInfo_transfer (ht : t < 0x100) :
    (irisHfiGen2GetColorInfo m t p cd fr vf vs &&& 0xff00) >>> 8 = t := by
  unfold irisHfiGen2GetColorInfo
  simp only [BitVec.and_or_distrib_right, BitVec.and_assoc]
  simpa using (shifted_byte ht).1

theorem colorInfo_primaries (hp : p < 0x100) :
    (irisHfiGen2GetColorInfo m t p cd fr vf vs &&& 0xff0000) >>> 16 = p := by
  unfold irisHfiGen2GetColorInfo
  simp only [BitVec.and_or_distrib_right, BitVec.and_assoc]
  simpa using (shifted_byte hp).2

theorem colorInfo_flags (m t p vf : U32) (hcd : cd = 0 ∨ cd = 1) (hfr : fr = 0 ∨ fr = 1)
    (hvs : vs = 0 ∨ vs = 1) :
    (irisHfiGen2GetColorInfo m t p cd fr vf vs &&& 0x1000000) >>> 24 = cd ∧
      (irisHfiGen2GetColorInfo m t p cd fr vf vs &&& 0x2000000) >>> 25 = fr ∧
      (irisHfiGen2GetColorInfo m t p cd fr vf vs &&& 0x20000000) >>> 29 = vs := by
  unfold irisHfiGen2GetColorInfo
  simp only [BitVec.and_or_distrib_right, BitVec.and_assoc]
  refine ⟨?_, ?_, ?_⟩
  · rcases hcd with rfl | rfl <;> simp
  · rcases hfr with rfl | rfl <;> simp
  · rcases hvs with rfl | rfl <;> simp

/-- What is described by a word whose fields are these. -/
theorem describedColor_fields (hm : m < 0x100) (ht : t < 0x100) (hp : p < 0x100)
    (hcd : cd = 0 ∨ cd = 1) (hfr : fr = 0 ∨ fr = 1) (hvs : vs = 0 ∨ vs = 1) :
    describedColor (irisHfiGen2GetColorInfo m t p cd fr vf vs) =
      if vs = 0 then .default
      else if cd = 0 then { Colorimetry.default with quantization := if fr ≠ 0 then 1 else 2 }
      else
        { colorspace := irisHfiGetV4l2ColorPrimaries p
          xferFunc := irisHfiGetV4l2TransferChar t
          ycbcrEnc := irisHfiGetV4l2MatrixCoefficients m
          quantization := if fr ≠ 0 then 1 else 2 } := by
  obtain ⟨hcd', hfr', hvs'⟩ := colorInfo_flags m t p vf hcd hfr hvs
  simp only [describedColor, hcd', hfr', hvs', colorInfo_matrix hm, colorInfo_transfer ht,
    colorInfo_primaries hp]

end Word

/-! ### What survives -/

section Survives

variable {c : Colorimetry}

def keptColorspaces : List U32 := [0, 1, 2, 3, 5, 6, 10]

def keptXferFuncs : List U32 := [0, 1, 2, 4, 7]

/-- `V4L2_YCBCR_ENC_XV709` comes back as `V4L2_YCBCR_ENC_709`. -/
def keptYcbcrEncs : List U32 := [0, 1, 2, 3, 6, 7, 8]

/-- Nothing is described, or the range is given and every code is in both tables. -/
def Colorimetry.Kept (c : Colorimetry) : Prop :=
  c = .default ∨
    (c.quantization = 1 ∨ c.quantization = 2) ∧ c.colorspace ∈ keptColorspaces ∧
      c.xferFunc ∈ keptXferFuncs ∧ c.ycbcrEnc ∈ keptYcbcrEncs

theorem colorPrimaries_lt (w : U32) : irisHfiGen2GetColorPrimaries w < 0x100 :=
  lookupCode_induction (P := fun _ code => code < 0x100) (by simp [lookupCode])
    fun _ _ => by decide

theorem transferChar_lt (w : U32) : irisHfiGen2GetTransferChar w < 0x100 :=
  lookupCode_induction (P := fun _ code => code < 0x100) (by simp [lookupCode])
    fun _ _ => by decide

theorem matrixCoefficients_lt (w : U32) : irisHfiGen2GetMatrixCoefficients w < 0x100 :=
  lookupCode_induction (P := fun _ code => code < 0x100) (by simp [lookupCode])
    fun _ _ => by decide

theorem colorspace_roundTrip (w : U32) :
    irisHfiGetV4l2ColorPrimaries (irisHfiGen2GetColorPrimaries w) = w ↔ w ∈ keptColorspaces :=
  lookupCode_roundTrip (by simp [keptColorspaces]) (by simp [lookupCode, keptColorspaces])
    (by simp [lookupCode])

theorem xferFunc_roundTrip (w : U32) :
    irisHfiGetV4l2TransferChar (irisHfiGen2GetTransferChar w) = w ↔ w ∈ keptXferFuncs :=
  lookupCode_roundTrip (by simp [keptXferFuncs]) (by simp [lookupCode, keptXferFuncs])
    (by simp [lookupCode])

theorem ycbcrEnc_roundTrip (w : U32) :
    irisHfiGetV4l2MatrixCoefficients (irisHfiGen2GetMatrixCoefficients w) = w ↔
      w ∈ keptYcbcrEncs :=
  lookupCode_roundTrip (by simp [keptYcbcrEncs]) (by simp [lookupCode, keptYcbcrEncs])
    (by simp [lookupCode])

def Colorimetry.Described (c : Colorimetry) : Prop :=
  c.colorspace ≠ 0 ∨ c.ycbcrEnc ≠ 0 ∨ c.xferFunc ≠ 0

instance (c : Colorimetry) : Decidable c.Described :=
  inferInstanceAs (Decidable (_ ∨ _ ∨ _))

/-- A range comes back full or limited. -/
def returnedRange (q : U32) : U32 := if q = 1 then 1 else 2

theorem returnedRange_eq_iff (q : U32) : returnedRange q = q ↔ q = 1 ∨ q = 2 := by
  unfold returnedRange
  split_ifs with h
  · simp [h]
  · exact ⟨fun heq => .inr heq.symm, fun hor => (hor.resolve_left h).symm⟩

def Colorimetry.ranged (q : U32) : Colorimetry := { Colorimetry.default with quantization := q }

/-- A description always comes back with a range. -/
theorem describedColor_colorInfoOf (c : Colorimetry) :
    describedColor (colorInfoOf c) =
      if c.Described then
        { colorspace := irisHfiGetV4l2ColorPrimaries (irisHfiGen2GetColorPrimaries c.colorspace)
          xferFunc := irisHfiGetV4l2TransferChar (irisHfiGen2GetTransferChar c.xferFunc)
          ycbcrEnc := irisHfiGetV4l2MatrixCoefficients
            (irisHfiGen2GetMatrixCoefficients c.ycbcrEnc)
          quantization := returnedRange c.quantization }
      else if c.quantization = 0 then .default
      else .ranged (returnedRange c.quantization) := by
  have hm := matrixCoefficients_lt c.ycbcrEnc
  have ht := transferChar_lt c.xferFunc
  have hp := colorPrimaries_lt c.colorspace
  have hrange : (if c.quantization ≠ 0 then (if c.quantization = 1 then 1 else 0) else 0 : U32) =
      if c.quantization = 1 then 1 else 0 := by
    split_ifs with h0 h1 h1
    · rfl
    · rfl
    · exact absurd h1 (by rw [not_not.1 h0]; decide)
    · rfl
  have hbit : (if c.quantization = 1 then 1 else 0 : U32) = 0 ∨
      (if c.quantization = 1 then 1 else 0 : U32) = 1 := by
    split_ifs <;> simp
  have hfull : (if (if c.quantization = 1 then 1 else 0 : U32) ≠ 0 then 1 else 2) =
      returnedRange c.quantization := by
    unfold returnedRange
    by_cases h : c.quantization = 1 <;> simp [h]
  unfold colorInfoOf
  simp only [decide_eq_true_eq, hrange]
  by_cases hdescribed : c.Described
  · have hflag : c.colorspace ≠ 0 ∨ c.ycbcrEnc ≠ 0 ∨ c.xferFunc ≠ 0 := hdescribed
    simp only [if_pos hdescribed, if_pos hflag, if_pos (Or.inl hflag)]
    rw [describedColor_fields hm ht hp (.inr rfl) hbit (.inr rfl), if_neg (by decide),
      if_neg (by decide), hfull]
  · have hflag : ¬(c.colorspace ≠ 0 ∨ c.ycbcrEnc ≠ 0 ∨ c.xferFunc ≠ 0) := hdescribed
    simp only [if_neg hdescribed, if_neg hflag]
    by_cases hranged : c.quantization = 0
    · rw [if_neg (not_or_intro hflag (not_not.2 hranged)), if_pos hranged,
        describedColor_fields (by decide) (by decide) (by decide) (.inl rfl) hbit (.inl rfl),
        if_pos rfl]
    · have hsignal : (c.colorspace ≠ 0 ∨ c.ycbcrEnc ≠ 0 ∨ c.xferFunc ≠ 0) ∨ c.quantization ≠ 0 :=
        .inr hranged
      rw [if_pos hsignal, if_neg hranged,
        describedColor_fields (by decide) (by decide) (by decide) (.inl rfl) hbit (.inr rfl),
        if_neg (by decide), if_pos rfl, hfull]
      rfl

theorem kept_default : Colorimetry.default.Kept := .inl rfl

theorem kept_ranged {q : U32} (hrange : q = 1 ∨ q = 2) : (Colorimetry.ranged q).Kept :=
  .inr ⟨hrange, by simp [Colorimetry.ranged, Colorimetry.default, keptColorspaces],
    by simp [Colorimetry.ranged, Colorimetry.default, keptXferFuncs],
    by simp [Colorimetry.ranged, Colorimetry.default, keptYcbcrEncs]⟩

theorem kept_ranged_iff {q : U32} (hq : q ≠ 0) : (Colorimetry.ranged q).Kept ↔ q = 1 ∨ q = 2 := by
  refine ⟨?_, kept_ranged⟩
  rintro (hdefault | ⟨hrange, -⟩)
  · exact absurd (congrArg Colorimetry.quantization hdefault) hq
  · exact hrange

/-- **The kept colours**, and no others, come back as they were sent. -/
theorem kept_iff (c : Colorimetry) : describedColor (colorInfoOf c) = c ↔ c.Kept := by
  rw [describedColor_colorInfoOf]
  obtain ⟨space, xfer, ycbcr, q⟩ := c
  by_cases hdescribed : (Colorimetry.mk space xfer ycbcr q).Described
  · rw [if_pos hdescribed, Colorimetry.mk.injEq, colorspace_roundTrip, xferFunc_roundTrip,
      ycbcrEnc_roundTrip, returnedRange_eq_iff]
    constructor
    · rintro ⟨hspace, hxfer, hycbcr, hq⟩
      exact .inr ⟨hq, hspace, hxfer, hycbcr⟩
    · rintro (hdefault | ⟨hq, hspace, hxfer, hycbcr⟩)
      · rw [hdefault] at hdescribed
        exact absurd hdescribed (by decide)
      · exact ⟨hspace, hxfer, hycbcr, hq⟩
  · obtain ⟨rfl, rfl, rfl⟩ : space = 0 ∧ ycbcr = 0 ∧ xfer = 0 := by
      simpa only [Colorimetry.Described, not_or, not_not] using hdescribed
    rw [if_neg hdescribed]
    by_cases hq : q = 0
    · subst hq
      exact iff_of_true rfl kept_default
    · rw [if_neg hq]
      change Colorimetry.ranged _ = Colorimetry.ranged q ↔ (Colorimetry.ranged q).Kept
      rw [kept_ranged_iff hq, ← returnedRange_eq_iff]
      exact ⟨congrArg Colorimetry.quantization, congrArg Colorimetry.ranged⟩

/-! ### What the firmware describes -/

/-- The word describes the primaries with the code that is crossed over in the driver's table. -/
def CrossedPrimaries (w : U32) : Prop :=
  w &&& 0x20000000 ≠ 0 ∧ w &&& 0x1000000 ≠ 0 ∧ (w &&& 0xff0000) >>> 16 = 12

theorem v4l2ColorPrimaries_kept_iff (p : U32) :
    irisHfiGetV4l2ColorPrimaries p ∈ keptColorspaces ↔ p ≠ 12 :=
  lookupCode_induction (P := fun p code => code ∈ keptColorspaces ↔ p ≠ 12)
    (by simp [lookupCode, keptColorspaces])
    fun p hp => iff_of_true (by simp [keptColorspaces]) fun h => hp (by simp [h])

theorem v4l2TransferChar_kept (t : U32) : irisHfiGetV4l2TransferChar t ∈ keptXferFuncs :=
  lookupCode_induction (P := fun _ code => code ∈ keptXferFuncs)
    (by simp [lookupCode, keptXferFuncs]) fun _ _ => by simp [keptXferFuncs]

theorem v4l2MatrixCoefficients_kept (m : U32) :
    irisHfiGetV4l2MatrixCoefficients m ∈ keptYcbcrEncs :=
  lookupCode_induction (P := fun _ code => code ∈ keptYcbcrEncs)
    (by simp [lookupCode, keptYcbcrEncs]) fun _ _ => by simp [keptYcbcrEncs]

/-- A flag is set in its place exactly when it is set at the bottom. -/
theorem flag_eq_zero_iff {mask : U32} {k : Nat} (hmask : mask.toNat = 2 ^ k) (w : U32) :
    (w &&& mask) >>> k = 0 ↔ w &&& mask = 0 := by
  have hand : (w &&& mask).toNat = (w.toNat.testBit k).toNat * 2 ^ k := by
    rw [BitVec.toNat_and, hmask, Nat.and_two_pow]
  rw [← BitVec.toNat_inj, ← BitVec.toNat_inj, BitVec.toNat_ushiftRight, hand,
    Nat.shiftRight_eq_div_pow, Nat.mul_div_cancel _ (Nat.two_pow_pos k)]
  constructor
  · intro h
    rw [h]
    exact Nat.zero_mul _
  · intro h
    exact (Nat.mul_eq_zero.1 h).resolve_right (Nat.two_pow_pos k).ne'

theorem describedColor_kept_iff (w : U32) : (describedColor w).Kept ↔ ¬CrossedPrimaries w := by
  have hrange : ∀ b : Prop, [Decidable b] → (if b then 1 else 2 : U32) = 1 ∨
      (if b then 1 else 2 : U32) = 2 := by
    intro b _
    split_ifs <;> simp
  unfold describedColor CrossedPrimaries
  have hmask : (0x20000000 : U32).toNat = 2 ^ 29 ∧ (0x1000000 : U32).toNat = 2 ^ 24 := by decide
  simp only [flag_eq_zero_iff hmask.1 w, flag_eq_zero_iff hmask.2 w]
  by_cases hsignal : w &&& 0x20000000 = 0
  · rw [if_pos hsignal]
    exact iff_of_true kept_default fun h => h.1 hsignal
  rw [if_neg hsignal]
  by_cases hcolour : w &&& 0x1000000 = 0
  · rw [if_pos hcolour]
    refine iff_of_true ?_ fun h => h.2.1 hcolour
    exact kept_ranged (hrange ((w &&& 0x2000000) >>> 25 ≠ 0))
  rw [if_neg hcolour]
  constructor
  · rintro (hdefault | ⟨-, hspace, -⟩) ⟨-, -, hprimaries⟩
    · have hq := congrArg Colorimetry.quantization hdefault
      rcases hrange ((w &&& 0x2000000) >>> 25 ≠ 0) with h | h
      · exact absurd (h.symm.trans hq) (by decide)
      · exact absurd (h.symm.trans hq) (by decide)
    · exact (v4l2ColorPrimaries_kept_iff _).1 hspace hprimaries
  · intro hcrossed
    have hprimaries : (w &&& 0xff0000) >>> 16 ≠ 12 := fun h => hcrossed ⟨hsignal, hcolour, h⟩
    exact .inr ⟨hrange _, (v4l2ColorPrimaries_kept_iff _).2 hprimaries, v4l2TransferChar_kept _,
      v4l2MatrixCoefficients_kept _⟩

/-- The driver never sends the crossed code. -/
theorem colorInfoOf_not_crossed (c : Colorimetry) : ¬CrossedPrimaries (colorInfoOf c) := by
  have hnever : ∀ w, irisHfiGen2GetColorPrimaries w ≠ 12 := fun w =>
    lookupCode_induction (P := fun _ code => code ≠ 12) (by simp [lookupCode])
      fun _ _ => by decide
  have hsent : ∀ b : Prop, [Decidable b] →
      (if b then irisHfiGen2GetColorPrimaries c.colorspace else 0) < 0x100 ∧
        (if b then irisHfiGen2GetColorPrimaries c.colorspace else 0) ≠ 12 := by
    intro b _
    split_ifs
    · exact ⟨colorPrimaries_lt _, hnever _⟩
    · exact ⟨by decide, by decide⟩
  rintro ⟨-, -, hprimaries⟩
  exact (hsent _).2 ((colorInfo_primaries (hsent _).1).symm.trans hprimaries)

/-- **Colours through the firmware.** A colour description comes back from the word it is sent in
exactly when it is one of the kept ones. What is read from any word of the firmware comes back from
the word it is sent in, unless the word has the crossed code for its primaries. So one pass settles
every description. -/
theorem colours_settle (c : Colorimetry) (w : U32) :
    (describedColor (colorInfoOf c) = c ↔ c.Kept) ∧
      (describedColor (colorInfoOf (describedColor w)) = describedColor w ↔
        ¬CrossedPrimaries w) ∧
      describedColor (colorInfoOf (describedColor (colorInfoOf c))) =
        describedColor (colorInfoOf c) :=
  ⟨kept_iff c, (kept_iff _).trans (describedColor_kept_iff w),
    (kept_iff _).2 ((describedColor_kept_iff _).2 (colorInfoOf_not_crossed c))⟩

end Survives

end NabuIris
