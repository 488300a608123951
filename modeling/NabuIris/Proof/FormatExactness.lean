import Mathlib.Tactic.Ring
import NabuIris.FormatSizes
import NabuIris.Lib.Align

/-!
# The sizes that S_FMT reports

The 32-bit sizes are those of the natural numbers modulo `2 ^ 32`. The sizes of the bitstream queue
of a decoder are computed from clamped dimensions; the other requests reach them unclamped.
-/

namespace NabuIris.FormatSizes

open Lib

/-! ### The formulas -/

/-- Both planes of a frame, each padded, in whole pages. -/
def yuvArea (lineBytes height : Nat) : Nat :=
  alignUp 128 lineBytes * (alignUp 32 height + alignUp 16 ((height + 1) / 2))

def yuvBytes (lineBytes height : Nat) : Nat := alignUp 4096 (yuvArea lineBytes height)

def sampleBytes : RawFormat → Nat
  | .nv12 => 1
  | .p010 => 2

def frameMbs (width height : Nat) : Nat := (height + 15) / 16 * ((width + 15) / 16)

/-- A bitstream buffer of a decoder: what the frames of its side of 4096x2304 need at most. -/
def bitstreamBytes (platform : Platform) (codec : Codec) (above : Bool) : Nat :=
  match above with
  | true => alignUp 4096 (platform.maxMbpf.toNat * 256 * 3 / 2 / 4)
  | false => alignUp 4096 (36864 * 256 * 3 / 2 / (if codec = .vp9 then 1 else 2))

/-- A bitstream buffer of an encoder, from the padded area and its triple. -/
def encodedBytes (area triple : Nat) (rateControl : Bool) : Nat :=
  let bytes :=
    if 4096 * 2176 < area then triple / 8 else if 1280 * 720 < area then triple / 4 else triple
  alignUp 4096 (if rateControl = false ∧ bytes < triple / 2 then bytes * 2 else bytes)

/-! ### Alignment -/

theorem align_ofNat {a : U32} {k : Nat} (ha : a = BitVec.ofNat 32 (2 ^ k)) (hk : k < 32) (n : Nat) :
    align (BitVec.ofNat 32 n) a = BitVec.ofNat 32 (alignUp (2 ^ k) n) := by
  subst ha
  exact ofNat_alignUp hk n

theorem align_16 (n : Nat) : align (BitVec.ofNat 32 n) 16 = BitVec.ofNat 32 (alignUp 16 n) :=
  align_ofNat (k := 4) rfl (by decide) n

theorem align_32 (n : Nat) : align (BitVec.ofNat 32 n) 32 = BitVec.ofNat 32 (alignUp 32 n) :=
  align_ofNat (k := 5) rfl (by decide) n

theorem align_128 (n : Nat) : align (BitVec.ofNat 32 n) 128 = BitVec.ofNat 32 (alignUp 128 n) :=
  align_ofNat (k := 7) rfl (by decide) n

theorem align_256 (n : Nat) : align (BitVec.ofNat 32 n) 256 = BitVec.ofNat 32 (alignUp 256 n) :=
  align_ofNat (k := 8) rfl (by decide) n

theorem align_4096 (n : Nat) : align (BitVec.ofNat 32 n) 4096 = BitVec.ofNat 32 (alignUp 4096 n) :=
  align_ofNat (k := 12) rfl (by decide) n

/-! ### Frames -/

/-- Halving the wrapped height is off by a multiple of `2 ^ 31`. -/
theorem half_ofNat (n : Nat) : ∃ c, (n + 1) / 2 =
    ((BitVec.ofNat 32 n + 1) >>> 1 : U32).toNat + 2 ^ 31 * c := by
  refine ⟨(n + 1) / 2 ^ 32, ?_⟩
  have hsum : (BitVec.ofNat 32 n + 1 : U32) = BitVec.ofNat 32 (n + 1) := (BitVec.ofNat_add n 1).symm
  rw [hsum, BitVec.toNat_ushiftRight, BitVec.toNat_ofNat, Nat.shiftRight_eq_div_pow]
  omega

/-- **The size of a frame is exact modulo `2 ^ 32`**: a line is a multiple of 128 bytes, which
absorbs what the halved height has lost. -/
theorem irisYuvBufferSize_ofNat (lineBytes height : Nat) :
    irisYuvBufferSize (BitVec.ofNat 32 lineBytes) (BitVec.ofNat 32 height) =
      BitVec.ofNat 32 (yuvBytes lineBytes height) := by
  obtain ⟨c, hhalf⟩ := half_ofNat height
  obtain ⟨stride, hstride⟩ := dvd_alignUp 128 lineBytes
  have huv : align ((BitVec.ofNat 32 height + 1) >>> 1) 16 =
      BitVec.ofNat 32 (alignUp 16 ((BitVec.ofNat 32 height + 1) >>> 1 : U32).toNat) := by
    rw [← align_16, BitVec.ofNat_toNat, BitVec.setWidth_eq]
  have hchroma : alignUp 16 ((height + 1) / 2) =
      alignUp 16 ((BitVec.ofNat 32 height + 1) >>> 1 : U32).toNat + 2 ^ 31 * c := by
    have hsplit : 2 ^ 31 * c = 16 * (2 ^ 27 * c) := by omega
    rw [hhalf, hsplit, alignUp_add_mul (by decide)]
  unfold irisYuvBufferSize
  rw [align_128, align_32, huv]
  simp only [← BitVec.ofNat_mul, ← BitVec.ofNat_add]
  rw [align_4096]
  have harea : yuvArea lineBytes height = alignUp 128 lineBytes * alignUp 32 height +
      alignUp 128 lineBytes * alignUp 16 ((BitVec.ofNat 32 height + 1) >>> 1 : U32).toNat +
        4096 * (2 ^ 26 * (stride * c)) := by
    rw [yuvArea, hchroma, hstride]
    ring
  unfold yuvBytes
  rw [harea, alignUp_add_mul (by decide)]
  apply BitVec.eq_of_toNat_eq
  rw [BitVec.toNat_ofNat, BitVec.toNat_ofNat]
  omega

/-- A frame whose padded planes leave room for the last page has its exact size. -/
theorem yuvBytes_lt_iff (lineBytes height : Nat) :
    yuvBytes lineBytes height < 2 ^ 32 ↔ yuvArea lineBytes height ≤ 2 ^ 32 - 4096 := by
  have hdvd : 4096 ∣ 2 ^ 32 - 4096 := by decide
  rw [← alignUp_le_iff (by decide) hdvd, yuvBytes]
  obtain ⟨pages, hpages⟩ := dvd_alignUp 4096 (yuvArea lineBytes height)
  omega

/-- The size is the one of the formula, and both planes of the reported geometry fit in it. -/
structure RawExact (f : PixFormat) (lineBytes height : Nat) : Prop where
  sizeimage : f.sizeimage.toNat = yuvBytes lineBytes height
  covers : f.bytesperline.toNat * f.height.toNat +
    f.bytesperline.toNat * ((f.height.toNat + 1) / 2) ≤ f.sizeimage.toNat

theorem rawExact_iff {f : PixFormat} {lineBytes height : Nat}
    (hsize : f.sizeimage = BitVec.ofNat 32 (yuvBytes lineBytes height))
    (hline : f.bytesperline = BitVec.ofNat 32 (alignUp 128 lineBytes))
    (hheight : f.height.toNat ≤ height) :
    RawExact f lineBytes height ↔ yuvArea lineBytes height ≤ 2 ^ 32 - 4096 := by
  have hexact : f.sizeimage.toNat = yuvBytes lineBytes height ↔
      yuvArea lineBytes height ≤ 2 ^ 32 - 4096 := by
    rw [hsize, toNat_ofNat_eq_iff, yuvBytes_lt_iff]
  constructor
  · intro hraw
    exact hexact.1 hraw.sizeimage
  · intro hfits
    refine ⟨hexact.2 hfits, ?_⟩
    have hstride : f.bytesperline.toNat ≤ alignUp 128 lineBytes := by
      rw [hline, BitVec.toNat_ofNat]
      exact Nat.mod_le _ _
    have hluma : f.height.toNat ≤ alignUp 32 height := hheight.trans (le_alignUp (by decide) _)
    have hchroma : (f.height.toNat + 1) / 2 ≤ alignUp 16 ((height + 1) / 2) :=
      (Nat.div_le_div_right (Nat.add_le_add_right hheight 1)).trans (le_alignUp (by decide) _)
    calc
      f.bytesperline.toNat * f.height.toNat +
          f.bytesperline.toNat * ((f.height.toNat + 1) / 2)
          = f.bytesperline.toNat * (f.height.toNat + (f.height.toNat + 1) / 2) :=
        (Nat.mul_add _ _ _).symm
      _ ≤ yuvArea lineBytes height := Nat.mul_le_mul hstride (Nat.add_le_add hluma hchroma)
      _ ≤ yuvBytes lineBytes height := le_alignUp (by decide) _
      _ = f.sizeimage.toNat := (hexact.2 hfits).symm

/-- The bytes of a line of the CAPTURE queue of a decoder. -/
def rawLineBytes (format : RawFormat) (width : U32) : Nat :=
  sampleBytes format * alignUp 128 width.toNat

theorem align_16_toNat (n : U32) : align n 16 = BitVec.ofNat 32 (alignUp 16 n.toNat) := by
  rw [← align_16, BitVec.ofNat_toNat, BitVec.setWidth_eq]

theorem align_32_toNat (n : U32) : align n 32 = BitVec.ofNat 32 (alignUp 32 n.toNat) := by
  rw [← align_32, BitVec.ofNat_toNat, BitVec.setWidth_eq]

theorem align_128_toNat (n : U32) : align n 128 = BitVec.ofNat 32 (alignUp 128 n.toNat) := by
  rw [← align_128, BitVec.ofNat_toNat, BitVec.setWidth_eq]

theorem align_4096_toNat (n : U32) : align n 4096 = BitVec.ofNat 32 (alignUp 4096 n.toNat) := by
  rw [← align_4096, BitVec.ofNat_toNat, BitVec.setWidth_eq]

theorem irisVdecRawStride_eq (format : RawFormat) (width : U32) :
    irisVdecRawStride width format =
      BitVec.ofNat 32 (alignUp 128 (rawLineBytes format width)) := by
  cases format with
  | nv12 =>
      rw [irisVdecRawStride, align_128_toNat, rawLineBytes, sampleBytes, Nat.one_mul,
        alignUp_alignUp (by decide) (dvd_refl _)]
  | p010 =>
      have hdouble : width * 2 = BitVec.ofNat 32 (2 * width.toNat) := by
        rw [BitVec.ofNat_mul, BitVec.ofNat_toNat, BitVec.setWidth_eq, BitVec.mul_comm]
        rfl
      have hpair : alignUp 256 (2 * width.toNat) = 2 * alignUp 128 width.toNat :=
        alignUp_mul (a := 128) 2 (by decide) (by decide)
      have hdvd : 128 ∣ 2 * alignUp 128 width.toNat := (dvd_alignUp 128 _).mul_left 2
      rw [irisVdecRawStride, hdouble, align_256, hpair, rawLineBytes, sampleBytes,
        alignUp_of_dvd (a := 128) (by decide) hdvd]

variable {formats : Formats} {width height : U32}

theorem irisRawBufferSize_ofNat (hwidth : formats.dst.width = align width 128)
    (hheight : formats.dst.height = align height 32) :
    irisRawBufferSize formats = BitVec.ofNat 32
      (yuvBytes (rawLineBytes formats.rawFormat width) (alignUp 32 height.toNat)) := by
  rw [align_128_toNat] at hwidth
  rw [align_32_toNat] at hheight
  unfold irisRawBufferSize rawLineBytes sampleBytes
  cases formats.rawFormat with
  | nv12 =>
      change irisYuvBufferSize formats.dst.width formats.dst.height = _
      rw [hwidth, hheight, irisYuvBufferSize_ofNat, Nat.one_mul]
  | p010 =>
      change irisYuvBufferSize (formats.dst.width * 2) formats.dst.height = _
      have hdouble : formats.dst.width * 2 = BitVec.ofNat 32 (2 * alignUp 128 width.toNat) := by
        rw [hwidth, BitVec.ofNat_mul, BitVec.mul_comm]
        rfl
      rw [hdouble, hheight, irisYuvBufferSize_ofNat]

/-- The CAPTURE queue of a decoder after S_FMT. -/
theorem rawExact_dst_iff (hwidth : formats.dst.width = align width 128)
    (hheight : formats.dst.height = align height 32)
    (hline : formats.dst.bytesperline = irisVdecRawStride width formats.rawFormat)
    (hsize : formats.dst.sizeimage = irisRawBufferSize formats) :
    RawExact formats.dst (rawLineBytes formats.rawFormat width) (alignUp 32 height.toNat) ↔
      yuvArea (rawLineBytes formats.rawFormat width) (alignUp 32 height.toNat) ≤ 2 ^ 32 - 4096 := by
  rw [irisRawBufferSize_ofNat hwidth hheight] at hsize
  rw [irisVdecRawStride_eq] at hline
  refine rawExact_iff hsize hline ?_
  rw [hheight, align_32_toNat, BitVec.toNat_ofNat]
  exact Nat.mod_le _ _

/-! ### Bitstreams of a decoder -/

def sideOf (mbs : Nat) : Bool := decide (36864 < mbs)

theorem irisDecBitstreamBufferSize_toNat (platform : Platform) (inst : LoadInst) :
    (irisDecBitstreamBufferSize platform inst).toNat =
      bitstreamBytes platform inst.codec (sideOf (irisGetMbpf inst).toNat) := by
  have hside : sideOf (irisGetMbpf inst).toNat = decide (numMbs4K < irisGetMbpf inst) := rfl
  rw [hside]
  unfold irisDecBitstreamBufferSize
  by_cases habove : numMbs4K < irisGetMbpf inst
  · simp only [habove, if_true, decide_true]
    cases platform <;> rfl
  · simp only [habove, if_false, decide_false]
    cases inst.codec <;> rfl

/-- The two sides of 4096x2304 ask for different sizes on every platform. -/
theorem bitstreamBytes_inj {platform : Platform} {codec : Codec} {above above' : Bool} :
    bitstreamBytes platform codec above = bitstreamBytes platform codec above' ↔
      above = above' := by
  cases platform <;> cases codec <;> cases above <;> cases above' <;> decide

/-- `iris_get_mbpf`, with the wrap-around of its sums and of its product. -/
def wrappedMbs (width height : Nat) : Nat :=
  (height + 15) % 2 ^ 32 / 16 * ((width + 15) % 2 ^ 32 / 16) % 2 ^ 32

theorem numMbsPerFrame_toNat (height width : U32) :
    (numMbsPerFrame height width).toNat = wrappedMbs width.toNat height.toNat := by
  unfold numMbsPerFrame divRoundUp16 wrappedMbs
  rw [BitVec.toNat_mul, BitVec.toNat_udiv, BitVec.toNat_udiv, BitVec.toNat_add, BitVec.toNat_add]
  rfl

theorem toNat_larger {w : Nat} (a b : BitVec w) :
    (if b < a then a else b).toNat = max a.toNat b.toNat := by
  by_cases hlt : b < a
  · rw [if_pos hlt, max_eq_left (BitVec.lt_def.1 hlt).le]
  · rw [if_neg hlt, max_eq_right (Nat.le_of_not_lt fun h => hlt (BitVec.lt_def.2 h))]

theorem irisGetMbpf_toNat (inst : LoadInst) :
    (irisGetMbpf inst).toNat =
      wrappedMbs (max inst.formats.src.width.toNat inst.formats.crop.width.toNat)
        (max inst.formats.src.height.toNat inst.formats.crop.height.toNat) := by
  rw [irisGetMbpf, numMbsPerFrame_toNat, toNat_larger, toNat_larger]

theorem wrappedMbs_le (width height : Nat) : wrappedMbs width height ≤ frameMbs width height :=
  (Nat.mod_le _ _).trans (Nat.mul_le_mul (Nat.div_le_div_right (Nat.mod_le _ _))
    (Nat.div_le_div_right (Nat.mod_le _ _)))

/-- The wrap-around only matters for a frame that it takes below 4096x2304. -/
theorem sideOf_wrapped_iff (width height : Nat) :
    sideOf (wrappedMbs width height) = sideOf (frameMbs width height) ↔
      frameMbs width height ≤ 36864 ∨ 36864 < wrappedMbs width height := by
  have hle := wrappedMbs_le width height
  unfold sideOf
  rw [decide_eq_decide]
  omega

/-! ### Bitstreams of an encoder -/

def FormatInst.RateControlled (inst : FormatInst) : Bool :=
  decide (inst.frameRc ≠ 0 ∧ inst.bitrateMode ≠ bitrateModeCq)

def codedArea (width height : Nat) : Nat := alignUp 32 width * alignUp 32 height

/-- The padded area of the CAPTURE format. -/
def FormatInst.dstArea (inst : FormatInst) : Nat :=
  codedArea inst.formats.dst.width.toNat inst.formats.dst.height.toNat

theorem encodedBytes_lt {area triple : Nat} (hle : triple ≤ 3 * area) (htriple : triple < 2 ^ 32)
    (rateControl : Bool) : encodedBytes area triple rateControl < 2 ^ 31 := by
  unfold encodedBytes alignUp
  grind

theorem toNat_ite (p : Prop) [Decidable p] (a b : U32) :
    (if p then a else b).toNat = if p then a.toNat else b.toNat := by
  split_ifs <;> rfl

/-- The shifts of a padded area, on words and on numbers. -/
theorem encoded_toNat (area : U32) (rateControl : Bool) :
    let bytes :=
      if 4096 * 2176 < area then (area * 3) >>> 3
      else if 1280 * 720 < area then (area * 3) >>> 2 else area * 3
    (align (if rateControl = false ∧ bytes < (area * 3) >>> 1 then bytes <<< 1 else bytes)
      4096).toNat = encodedBytes area.toNat (3 * area.toNat % 2 ^ 32) rateControl := by
  intro bytes
  have htriple : (area * 3).toNat = 3 * area.toNat % 2 ^ 32 := by
    rw [BitVec.toNat_mul, Nat.mul_comm]
    rfl
  have hbytes : bytes.toNat =
      if 4096 * 2176 < area.toNat then 3 * area.toNat % 2 ^ 32 / 8
      else if 1280 * 720 < area.toNat then 3 * area.toNat % 2 ^ 32 / 4
      else 3 * area.toNat % 2 ^ 32 := by
    change (if _ then _ else _ : U32).toNat = _
    rw [toNat_ite, toNat_ite, BitVec.toNat_ushiftRight, BitVec.toNat_ushiftRight,
      Nat.shiftRight_eq_div_pow, Nat.shiftRight_eq_div_pow, htriple]
    rfl
  have hhalf : bytes < (area * 3) >>> 1 ↔ bytes.toNat < 3 * area.toNat % 2 ^ 32 / 2 := by
    rw [BitVec.lt_def, BitVec.toNat_ushiftRight, Nat.shiftRight_eq_div_pow, htriple]
  have hdouble : (if rateControl = false ∧ bytes < (area * 3) >>> 1 then bytes <<< 1
      else bytes).toNat =
      if rateControl = false ∧ bytes.toNat < 3 * area.toNat % 2 ^ 32 / 2 then bytes.toNat * 2
      else bytes.toNat := by
    rw [toNat_ite, BitVec.toNat_shiftLeft, Nat.shiftLeft_eq]
    simp only [hhalf]
    split_ifs with hcond
    · omega
    · rfl
  have hlt : encodedBytes area.toNat (3 * area.toNat % 2 ^ 32) rateControl < 2 ^ 31 :=
    encodedBytes_lt (Nat.mod_le _ _) (Nat.mod_lt _ (by decide)) rateControl
  rw [align_4096_toNat, hdouble, hbytes]
  exact toNat_ofNat_eq_iff.2 (hlt.trans (by decide))

theorem irisEncBitstreamBufferSize_toNat (inst : FormatInst) :
    (irisEncBitstreamBufferSize inst).toNat =
      encodedBytes (inst.dstArea % 2 ^ 32) (3 * inst.dstArea % 2 ^ 32) inst.RateControlled := by
  have harea : (align inst.formats.dst.width 32 * align inst.formats.dst.height 32).toNat =
      inst.dstArea % 2 ^ 32 := by
    rw [align_32_toNat, align_32_toNat, ← BitVec.ofNat_mul, BitVec.toNat_ofNat]
    rfl
  have huncontrolled : (inst.frameRc = 0 ∨ inst.bitrateMode = bitrateModeCq) ↔
      inst.RateControlled = false := by
    unfold FormatInst.RateControlled
    rw [decide_eq_false_iff_not]
    tauto
  have hsize := encoded_toNat (align inst.formats.dst.width 32 * align inst.formats.dst.height 32)
    inst.RateControlled
  unfold irisEncBitstreamBufferSize
  simp only [huncontrolled]
  rw [hsize, harea]
  congr 1
  omega

theorem dvd_codedArea (width height : Nat) : 1024 ∣ codedArea width height :=
  Nat.mul_dvd_mul (dvd_alignUp 32 width) (dvd_alignUp 32 height)

/-- An area whose triple overflows needs more than any wrapped area is given. -/
theorem encodedBytes_wrapped_iff {area : Nat} (hdvd : 1024 ∣ area) (rateControl : Bool) :
    encodedBytes (area % 2 ^ 32) (3 * area % 2 ^ 32) rateControl =
      encodedBytes area (3 * area) rateControl ↔ 3 * area < 2 ^ 32 := by
  obtain ⟨blocks, rfl⟩ := hdvd
  constructor
  · intro heq
    by_contra hover
    have hlarge : 4096 * 2176 < 1024 * blocks := by omega
    unfold encodedBytes alignUp at heq
    simp only [hlarge, if_true] at heq
    grind
  · intro hlt
    rw [Nat.mod_eq_of_lt hlt, Nat.mod_eq_of_lt (by omega)]

/-! ### S_FMT -/

def PixelFormat.codecOr (fallback : Codec) : PixelFormat → Codec
  | .coded codec => codec
  | _ => fallback

def PixelFormat.rawOr (fallback : RawFormat) : PixelFormat → RawFormat
  | .nv12 => .nv12
  | .p010 => .p010
  | _ => fallback

/-- The longer of a rounded side of the bitstream and the same side of the crop rectangle. -/
def codedLength (codec : Codec) (length crop : U32) : Nat :=
  max (alignUp (if codec = .hevc then 32 else 16) length.toNat) crop.toNat

/-- S_FMT on the OUTPUT queue of an encoder also sizes its CAPTURE queue. -/
def SizesCapture (inst : FormatInst) (f : FmtRequest) : Prop :=
  (f.width ≠ inst.formats.crop.width ∨ f.height ≠ inst.formats.crop.height) ∧ inst.codec ≠ .vp9

/-- Every size that a request computes is the one of its formula, and a frame of the reported
geometry fits in it. -/
def SizesExact (platform : Platform) (f : FmtRequest) (inst after : FormatInst) : Prop :=
  match inst.domain, f.type with
  | .decoder, .output =>
      let f := irisVdecTryFmt platform inst f
      let codec := f.pixelformat.codecOr inst.codec
      after.formats.src.sizeimage.toNat =
          bitstreamBytes platform codec
            (sideOf (frameMbs (codedLength codec f.width inst.formats.crop.width)
              (codedLength codec f.height inst.formats.crop.height))) ∧
        RawExact after.formats.dst (rawLineBytes inst.formats.rawFormat f.width)
          (alignUp 32 f.height.toNat)
  | .decoder, .capture =>
      let f := irisVdecTryFmt platform inst f
      RawExact after.formats.dst
        (rawLineBytes (f.pixelformat.rawOr inst.formats.rawFormat) f.width)
        (alignUp 32 f.height.toNat)
  | .encoder, .output =>
      let f := irisVencTryFmt inst f
      let area := codedArea f.width.toNat f.height.toNat
      RawExact after.formats.src f.width.toNat f.height.toNat ∧
        (SizesCapture inst f → after.formats.dst.sizeimage.toNat =
          encodedBytes area (3 * area) inst.RateControlled)
  | .encoder, .capture =>
      after.formats.dst.sizeimage.toNat =
        encodedBytes inst.dstArea (3 * inst.dstArea) inst.RateControlled

/-- The dimensions for which no size wraps around. -/
def SizesFit (platform : Platform) (f : FmtRequest) (inst : FormatInst) : Prop :=
  match inst.domain, f.type with
  | .decoder, .output =>
      let f := irisVdecTryFmt platform inst f
      let codec := f.pixelformat.codecOr inst.codec
      let width := codedLength codec f.width inst.formats.crop.width
      let height := codedLength codec f.height inst.formats.crop.height
      frameMbs width height ≤ 36864 ∨ 36864 < wrappedMbs width height
  | .decoder, .capture =>
      let f := irisVdecTryFmt platform inst f
      yuvArea (rawLineBytes (f.pixelformat.rawOr inst.formats.rawFormat) f.width)
        (alignUp 32 f.height.toNat) ≤ 2 ^ 32 - 4096
  | .encoder, .output =>
      let f := irisVencTryFmt inst f
      yuvArea f.width.toNat f.height.toNat ≤ 2 ^ 32 - 4096 ∧
        (SizesCapture inst f → 3 * codedArea f.width.toNat f.height.toNat < 2 ^ 32)
  | .encoder, .capture => 3 * inst.dstArea < 2 ^ 32

variable {platform : Platform} {count : Formats → U32} {f : FmtRequest} {inst : FormatInst}

theorem ebusy_ne_zero : -ebusy ≠ 0 := by decide

theorem einval_ne_zero : -einval ≠ 0 := by decide

theorem irisVdecTryFmt_type : (irisVdecTryFmt platform inst f).type = f.type := by
  obtain ⟨type, pixelformat, width, height⟩ := f
  unfold irisVdecTryFmt
  cases type with
  | output => cases pixelformat <;> rfl
  | capture => split_ifs <;> rfl

theorem irisVdecTryFmt_coded (htype : f.type = .output) :
    (irisVdecTryFmt platform inst f).pixelformat =
      .coded ((irisVdecTryFmt platform inst f).pixelformat.codecOr inst.codec) := by
  obtain ⟨type, pixelformat, width, height⟩ := f
  subst htype
  unfold irisVdecTryFmt
  cases pixelformat <;> rfl

theorem clamp_le {n low high : U32} (hle : low ≤ high) : clamp n low high ≤ high := by
  unfold clamp
  split_ifs with hlow hhigh
  · exact hle
  · exact BitVec.le_refl high
  · exact BitVec.not_lt.1 hhigh

theorem irisVdecTryFmt_le (htype : f.type = .output) :
    (irisVdecTryFmt platform inst f).width ≤ 8192 ∧
      (irisVdecTryFmt platform inst f).height ≤ 8192 := by
  obtain ⟨type, pixelformat, width, height⟩ := f
  subst htype
  have hwidth : ∀ n, clamp n platform.instCaps.minFrameWidth platform.instCaps.maxFrameWidth ≤
      8192 := by
    intro n
    refine BitVec.le_trans (clamp_le ?_) ?_ <;> cases platform <;> decide
  have hheight : ∀ n, clamp n platform.instCaps.minFrameHeight platform.instCaps.maxFrameHeight ≤
      8192 := by
    intro n
    refine BitVec.le_trans (clamp_le ?_) ?_ <;> cases platform <;> decide
  unfold irisVdecTryFmt
  cases pixelformat <;> exact ⟨hwidth _, hheight _⟩

/-- What S_FMT on the OUTPUT queue of a decoder sets. -/
theorem irisVdecSFmt_output (htype : f.type = .output)
    (haccepted : (irisVdecSFmt platform count f inst).1 = 0) :
    (irisVdecSFmt platform count f inst).2 =
      inst.setCoded platform ((irisVdecTryFmt platform inst f).pixelformat.codecOr inst.codec)
        (irisVdecTryFmt platform inst f).width (irisVdecTryFmt platform inst f).height := by
  have htried : (irisVdecTryFmt platform inst f).type = .output := irisVdecTryFmt_type.trans htype
  have hcoded : (irisVdecTryFmt platform inst f).pixelformat = _ := irisVdecTryFmt_coded htype
  unfold irisVdecSFmt at haccepted ⊢
  by_cases hbusy : (inst.queue f.type).busy = true
  · rw [if_pos hbusy] at haccepted
    exact absurd haccepted ebusy_ne_zero
  · rw [if_neg hbusy]
    simp only [htried]
    rw [hcoded]
    rfl

theorem irisVdecSFmt_capture (htype : f.type = .capture)
    (haccepted : (irisVdecSFmt platform count f inst).1 = 0) :
    (irisVdecSFmt platform count f inst).2 =
      inst.setRaw platform count
        ((irisVdecTryFmt platform inst f).pixelformat.rawOr inst.formats.rawFormat)
        (irisVdecTryFmt platform inst f).width (irisVdecTryFmt platform inst f).height := by
  have htried : (irisVdecTryFmt platform inst f).type = .capture :=
    irisVdecTryFmt_type.trans htype
  unfold irisVdecSFmt at haccepted ⊢
  by_cases hbusy : (inst.queue f.type).busy = true
  · rw [if_pos hbusy] at haccepted
    exact absurd haccepted ebusy_ne_zero
  · rw [if_neg hbusy] at haccepted ⊢
    simp only [htried] at haccepted ⊢
    cases hformat : (irisVdecTryFmt platform inst f).pixelformat with
    | nv12 => rfl
    | p010 =>
        rw [hformat] at haccepted
        by_cases hsupported : platform.irisVdecP010Supported = true
        · simp only [hsupported, if_true]
          rfl
        · simp only [hsupported] at haccepted
          exact absurd haccepted einval_ne_zero
    | coded codec =>
        rw [hformat] at haccepted
        exact absurd haccepted einval_ne_zero
    | other fourcc =>
        rw [hformat] at haccepted
        exact absurd haccepted einval_ne_zero

theorem irisVencTryFmt_nv12 (htype : f.type = .output) :
    (irisVencTryFmt inst f).pixelformat = .nv12 := by
  unfold irisVencTryFmt
  by_cases hformat : f.pixelformat = .nv12
  · simp [htype, hformat]
  · simp [htype, hformat]

/-- What sizing the CAPTURE queue of an encoder leaves, when it is not refused. -/
theorem irisVencSFmtOutput_sizes {g : FmtRequest}
    (haccepted : (irisVencSFmtOutput platform g inst).1 = 0) :
    (irisVencSFmtOutput platform g inst).2.formats.dst.sizeimage =
      irisGetBufferSize platform inst .capture := by
  unfold irisVencSFmtOutput at haccepted ⊢
  cases hcodec : (irisVencTryFmt inst g).pixelformat.vencCodec with
  | none =>
      simp only [hcodec] at haccepted
      exact absurd haccepted einval_ne_zero
  | some codec =>
      simp only [hcodec]
      rfl

theorem irisVencSFmtOutput_src (g : FmtRequest) :
    (irisVencSFmtOutput platform g inst).2.formats.src = inst.formats.src := by
  unfold irisVencSFmtOutput
  cases hcodec : (irisVencTryFmt inst g).pixelformat.vencCodec with
  | none => simp only [hcodec]
  | some codec =>
      simp only [hcodec]
      rfl

theorem irisVencSFmtOutput_accepted (hcodec : inst.codec ≠ .vp9) :
    (irisVencSFmtOutput platform inst.dstRequest inst).1 = 0 := by
  have hknown : (PixelFormat.coded inst.codec).vencCodec = some inst.codec := by
    cases hc : inst.codec with
    | h264 => rfl
    | hevc => rfl
    | vp9 => exact absurd hc hcodec
  simp [irisVencSFmtOutput, irisVencTryFmt, FormatInst.dstRequest, hknown]

/-- The size of a CAPTURE buffer does not depend on the crop rectangle. -/
theorem setCrop_size (width height : U32) :
    irisGetBufferSize platform (inst.setCrop width height) .capture =
      irisGetBufferSize platform inst .capture := by
  unfold irisGetBufferSize FormatInst.setCrop
  cases inst.domain <;> rfl

theorem irisVencSFmtInput_src (htype : f.type = .output) :
    (irisVencSFmtInput platform f inst).2.formats.src =
      (inst.setFrame platform (irisVencTryFmt inst f).width
        (irisVencTryFmt inst f).height).formats.src := by
  have hformat : ¬(irisVencTryFmt inst f).pixelformat ≠ .nv12 :=
    not_not.2 (irisVencTryFmt_nv12 htype)
  unfold irisVencSFmtInput
  simp only [hformat, if_false]
  split_ifs with hresized
  · exact irisVencSFmtOutput_src _
  · rfl

theorem irisVencSFmtInput_dst (htype : f.type = .output)
    (hsizes : SizesCapture inst (irisVencTryFmt inst f)) :
    (irisVencSFmtInput platform f inst).2.formats.dst.sizeimage =
      irisGetBufferSize platform
        (inst.setFrame platform (irisVencTryFmt inst f).width (irisVencTryFmt inst f).height)
        .capture := by
  have hformat : ¬(irisVencTryFmt inst f).pixelformat ≠ .nv12 :=
    not_not.2 (irisVencTryFmt_nv12 htype)
  obtain ⟨hresized, hcodec⟩ := hsizes
  have hcropped : ((inst.setFrame platform (irisVencTryFmt inst f).width
      (irisVencTryFmt inst f).height).setCrop (irisVencTryFmt inst f).width
      (irisVencTryFmt inst f).height).codec ≠ .vp9 := hcodec
  unfold irisVencSFmtInput
  simp only [hformat, if_false, hresized, if_true]
  rw [irisVencSFmtOutput_sizes (irisVencSFmtOutput_accepted hcropped), setCrop_size]

theorem irisVencSFmt_accepted (haccepted : (irisVencSFmt platform f inst).1 = 0) :
    (f.type = .output →
        (irisVencSFmt platform f inst).2 = (irisVencSFmtInput platform f inst).2) ∧
      (f.type = .capture → (irisVencSFmtOutput platform f inst).1 = 0 ∧
        (irisVencSFmt platform f inst).2 = (irisVencSFmtOutput platform f inst).2) := by
  unfold irisVencSFmt at haccepted ⊢
  by_cases hbusy : (inst.queue f.type).busy = true
  · rw [if_pos hbusy] at haccepted
    exact absurd haccepted ebusy_ne_zero
  · rw [if_neg hbusy] at haccepted ⊢
    refine ⟨fun htype => ?_, fun htype => ?_⟩
    · rw [htype]
    · rw [htype] at haccepted ⊢
      exact ⟨haccepted, rfl⟩

/-! ### Exactness -/

/-- A frame that the platform supports is far from the width of a word. -/
theorem yuvArea_supported (format : RawFormat) {width height : U32} (hwidth : width ≤ 8192)
    (hheight : height ≤ 8192) :
    yuvArea (rawLineBytes format width) (alignUp 32 height.toNat) ≤ 2 ^ 28 := by
  have hwide : alignUp 128 width.toNat ≤ 8192 :=
    (alignUp_le_iff (by decide) (by decide)).2 (BitVec.le_def.1 hwidth)
  have hhigh : alignUp 32 height.toNat ≤ 8192 :=
    (alignUp_le_iff (by decide) (by decide)).2 (BitVec.le_def.1 hheight)
  have hline : rawLineBytes format width ≤ 2 * 8192 := by
    unfold rawLineBytes
    refine Nat.mul_le_mul ?_ hwide
    cases format <;> decide
  have hstride : alignUp 128 (rawLineBytes format width) ≤ 2 * 8192 :=
    (alignUp_le_iff (by decide) (by decide)).2 hline
  have hluma : alignUp 32 (alignUp 32 height.toNat) ≤ 8192 :=
    (alignUp_le_iff (by decide) (by decide)).2 hhigh
  have hchroma : alignUp 16 ((alignUp 32 height.toNat + 1) / 2) ≤ 4096 :=
    (alignUp_le_iff (by decide) (by decide)).2 (by omega)
  calc
    yuvArea (rawLineBytes format width) (alignUp 32 height.toNat)
        ≤ 2 * 8192 * (8192 + 4096) := Nat.mul_le_mul hstride (Nat.add_le_add hluma hchroma)
    _ ≤ 2 ^ 28 := by decide

theorem codedLength_eq (codec : Codec) {length : U32} (crop : U32) (hle : length ≤ 8192) :
    max (align length (if codec = .hevc then 32 else 16)).toNat crop.toNat =
      codedLength codec length crop := by
  have hlt : ∀ a, 0 < a → a ∣ 8192 → alignUp a length.toNat < 2 ^ 32 := by
    intro a ha hdvd
    have haligned := (alignUp_le_iff ha hdvd).2 (BitVec.le_def.1 hle)
    exact lt_of_le_of_lt haligned (by decide)
  have haligned : (align length (if codec = .hevc then 32 else 16)).toNat =
      alignUp (if codec = .hevc then 32 else 16) length.toNat := by
    split_ifs
    · rw [align_32_toNat]
      exact toNat_ofNat_eq_iff.2 (hlt 32 (by decide) (by decide))
    · rw [align_16_toNat]
      exact toNat_ofNat_eq_iff.2 (hlt 16 (by decide) (by decide))
  rw [haligned, codedLength]

/-- The bitstream size of a decoder is that of the side on which the wrapped frame lies. -/
theorem setCoded_src_toNat (hdomain : inst.domain = .decoder) (codec : Codec)
    {width height : U32} (hwidth : width ≤ 8192) (hheight : height ≤ 8192) :
    (inst.setCoded platform codec width height).formats.src.sizeimage.toNat =
      bitstreamBytes platform codec
        (sideOf (wrappedMbs (codedLength codec width inst.formats.crop.width)
          (codedLength codec height inst.formats.crop.height))) := by
  unfold FormatInst.setCoded irisGetBufferSize
  simp only [hdomain]
  rw [irisDecBitstreamBufferSize_toNat, irisGetMbpf_toNat]
  simp only
  rw [codedLength_eq codec _ hwidth, codedLength_eq codec _ hheight]

theorem setCoded_dst_sizeimage (hdomain : inst.domain = .decoder) (codec : Codec)
    (width height : U32) :
    (inst.setCoded platform codec width height).formats.dst.sizeimage =
      irisRawBufferSize (inst.setCoded platform codec width height).formats := by
  unfold FormatInst.setCoded irisGetBufferSize irisRawBufferSize
  simp only [hdomain]
  cases inst.formats.rawFormat <;> rfl

theorem setRaw_dst_sizeimage (hdomain : inst.domain = .decoder) (format : RawFormat)
    (width height : U32) :
    (inst.setRaw platform count format width height).formats.dst.sizeimage =
      irisRawBufferSize (inst.setRaw platform count format width height).formats := by
  unfold FormatInst.setRaw irisGetBufferSize irisRawBufferSize
  simp only [hdomain]
  cases format <;> rfl

/-- The OUTPUT queue of a decoder: the request is clamped, so that only a crop rectangle left from
before can wrap around. -/
theorem setCoded_exact_iff (hdomain : inst.domain = .decoder) (codec : Codec)
    {width height : U32} (hwidth : width ≤ 8192) (hheight : height ≤ 8192) :
    ((inst.setCoded platform codec width height).formats.src.sizeimage.toNat =
        bitstreamBytes platform codec
          (sideOf (frameMbs (codedLength codec width inst.formats.crop.width)
            (codedLength codec height inst.formats.crop.height))) ∧
      RawExact (inst.setCoded platform codec width height).formats.dst
        (rawLineBytes inst.formats.rawFormat width) (alignUp 32 height.toNat)) ↔
      frameMbs (codedLength codec width inst.formats.crop.width)
          (codedLength codec height inst.formats.crop.height) ≤ 36864 ∨
        36864 < wrappedMbs (codedLength codec width inst.formats.crop.width)
          (codedLength codec height inst.formats.crop.height) := by
  have hraw : RawExact (inst.setCoded platform codec width height).formats.dst
      (rawLineBytes inst.formats.rawFormat width) (alignUp 32 height.toNat) :=
    (@rawExact_dst_iff (inst.setCoded platform codec width height).formats width height rfl rfl rfl
      (setCoded_dst_sizeimage hdomain codec width height)).2
      ((yuvArea_supported inst.formats.rawFormat hwidth hheight).trans (by decide))
  rw [and_iff_left hraw, setCoded_src_toNat hdomain codec hwidth hheight, bitstreamBytes_inj,
    sideOf_wrapped_iff]

/-- The CAPTURE queue of a decoder. -/
theorem setRaw_exact_iff (hdomain : inst.domain = .decoder) (format : RawFormat)
    (width height : U32) :
    RawExact (inst.setRaw platform count format width height).formats.dst
        (rawLineBytes format width) (alignUp 32 height.toNat) ↔
      yuvArea (rawLineBytes format width) (alignUp 32 height.toNat) ≤ 2 ^ 32 - 4096 :=
  @rawExact_dst_iff (inst.setRaw platform count format width height).formats width height rfl rfl
    rfl (setRaw_dst_sizeimage hdomain format width height)

theorem setFrame_src_sizeimage (hdomain : inst.domain = .encoder) (width height : U32) :
    (inst.setFrame platform width height).formats.src.sizeimage =
      BitVec.ofNat 32 (yuvBytes width.toNat height.toNat) := by
  have hraw : (inst.setFrame platform width height).formats.src.sizeimage =
      irisYuvBufferSize width height := by
    unfold FormatInst.setFrame irisGetBufferSize
    simp only [hdomain]
    rfl
  rw [hraw, ← irisYuvBufferSize_ofNat, BitVec.ofNat_toNat, BitVec.ofNat_toNat,
    BitVec.setWidth_eq, BitVec.setWidth_eq]

/-- The OUTPUT queue of an encoder. -/
theorem setFrame_src_iff (hdomain : inst.domain = .encoder) (width height : U32) :
    RawExact (inst.setFrame platform width height).formats.src width.toNat height.toNat ↔
      yuvArea width.toNat height.toNat ≤ 2 ^ 32 - 4096 :=
  rawExact_iff (setFrame_src_sizeimage hdomain width height) (align_128_toNat width) le_rfl

/-- The CAPTURE queue of an encoder. -/
theorem captureSize_exact_iff (hdomain : inst.domain = .encoder) :
    (irisGetBufferSize platform inst .capture).toNat =
        encodedBytes inst.dstArea (3 * inst.dstArea) inst.RateControlled ↔
      3 * inst.dstArea < 2 ^ 32 := by
  have hsize : irisGetBufferSize platform inst .capture = irisEncBitstreamBufferSize inst := by
    unfold irisGetBufferSize
    rw [hdomain]
  rw [hsize, irisEncBitstreamBufferSize_toNat]
  exact encodedBytes_wrapped_iff (dvd_codedArea _ _) _

/-- **S_FMT computes exact sizes precisely for the dimensions that fit.** -/
theorem sFmt_exact_iff (haccepted : (irisSFmt platform count f inst).1 = 0) :
    SizesExact platform f inst (irisSFmt platform count f inst).2 ↔ SizesFit platform f inst := by
  cases hdomain : inst.domain with
  | decoder =>
      have hcall : irisSFmt platform count f inst = irisVdecSFmt platform count f inst := by
        rw [irisSFmt, hdomain]
      rw [hcall] at haccepted ⊢
      cases htype : f.type with
      | output =>
          have hclamped : (irisVdecTryFmt platform inst f).width ≤ 8192 ∧
              (irisVdecTryFmt platform inst f).height ≤ 8192 := irisVdecTryFmt_le htype
          obtain ⟨hwidth, hheight⟩ := hclamped
          rw [irisVdecSFmt_output htype haccepted]
          simp only [SizesExact, SizesFit, hdomain, htype]
          exact setCoded_exact_iff hdomain _ hwidth hheight
      | capture =>
          rw [irisVdecSFmt_capture htype haccepted]
          simp only [SizesExact, SizesFit, hdomain, htype]
          exact setRaw_exact_iff hdomain _ _ _
  | encoder =>
      have hcall : irisSFmt platform count f inst = irisVencSFmt platform f inst := by
        rw [irisSFmt, hdomain]
      rw [hcall] at haccepted ⊢
      obtain ⟨houtput, hcapture⟩ := irisVencSFmt_accepted haccepted
      cases htype : f.type with
      | output =>
          rw [houtput htype]
          simp only [SizesExact, SizesFit, hdomain, htype]
          rw [irisVencSFmtInput_src htype, setFrame_src_iff hdomain]
          refine and_congr_right' (imp_congr_right fun hsizes => ?_)
          rw [irisVencSFmtInput_dst htype hsizes]
          exact captureSize_exact_iff hdomain
      | capture =>
          obtain ⟨haccepted, hafter⟩ := hcapture htype
          rw [hafter]
          simp only [SizesExact, SizesFit, hdomain, htype]
          rw [irisVencSFmtOutput_sizes haccepted]
          exact captureSize_exact_iff hdomain

/-- A 1080p request on the CAPTURE queue of a decoder. -/
theorem sFmt_exact_1080p :
    SizesExact .sm8150 ⟨.capture, .nv12, 1920, 1080⟩ (.opened .sm8150 (fun _ => 4) .decoder)
        (irisSFmt .sm8150 (fun _ => 4) ⟨.capture, .nv12, 1920, 1080⟩
          (.opened .sm8150 (fun _ => 4) .decoder)).2 ↔
      SizesFit .sm8150 ⟨.capture, .nv12, 1920, 1080⟩ (.opened .sm8150 (fun _ => 4) .decoder) :=
  sFmt_exact_iff (by decide)

/-- A square of 65536 pixels a side is accepted with a size of 2 GiB, a third of what it takes. -/
theorem sFmt_wraps :
    let inst := FormatInst.opened .sm8150 (fun _ => 4) .decoder
    let request : FmtRequest := ⟨.capture, .nv12, 65536, 65536⟩
    let answer := irisSFmt .sm8150 (fun _ => 4) request inst
    answer.1 = 0 ∧ answer.2.formats.dst.sizeimage = 2147483648 ∧
      yuvBytes 65536 65536 = 6442450944 ∧ ¬SizesExact .sm8150 request inst answer.2 :=
  ⟨by decide, by decide, by decide, fun hexact => absurd hexact.sizeimage (by decide)⟩

end NabuIris.FormatSizes
