import NabuIris.DecoderFormats
import NabuIris.Proof.FormatExactness

/-!
# What TRY_FMT of a decoder leaves out

Both calls settle on the same pixel format and dimensions. S_FMT then rounds the dimensions up and
computes the line and the size of a buffer; TRY_FMT does neither, and so returns what S_FMT would
only where the request is in that form already.
-/

namespace NabuIris.DecoderFormats

open Lib FormatSizes

variable {platform : Platform} {count : Formats → U32} {inst : FormatInst}

/-- TRY_FMT returns what an accepted S_FMT sets and returns. -/
def TryAgrees (platform : Platform) (count : Formats → U32) (inst : FormatInst) (f : V4l2Format) :
    Prop :=
  let answer := irisVdecSFmt platform count f inst
  answer.ret = 0 ∧ answer.f = irisVdecTryFmt platform inst f ∧
    queueFormat answer.inst f.type = irisVdecTryFmt platform inst f

/-- The raw format that a request on the CAPTURE queue comes down to. -/
def askedRaw (platform : Platform) (inst : FormatInst) (f : FmtRequest) : RawFormat :=
  if knownFormat platform f then f.pixelformat.rawOr inst.formats.rawFormat
  else inst.formats.rawFormat

/-- The request is in the form in which S_FMT returns it. -/
def InForm (platform : Platform) (inst : FormatInst) (f : V4l2Format) : Prop :=
  let width := askedWidth platform inst f.toFmtRequest
  let height := askedHeight platform inst f.toFmtRequest
  match f.type with
  | .output =>
      let codec := f.pixelformat.codecOr inst.codec
      let codecAlign := if codec = .hevc then 32 else 16
      codecAlign ∣ width.toNat ∧ codecAlign ∣ height.toNat ∧ f.bytesperline = 0 ∧
        f.sizeimage.toNat = bitstreamBytes platform codec
          (sideOf (wrappedMbs (codedLength codec width inst.formats.crop.width)
            (codedLength codec height inst.formats.crop.height)))
  | .capture =>
      let raw := askedRaw platform inst f.toFmtRequest
      (raw = .p010 → platform.irisVdecP010Supported = true) ∧
        128 ∣ width.toNat ∧ 32 ∣ height.toNat ∧
        f.bytesperline.toNat = rawLineBytes raw width % 2 ^ 32 ∧
        f.sizeimage.toNat = yuvBytes (rawLineBytes raw width) height.toNat % 2 ^ 32

/-! ### Rounding -/

theorem ofNat_alignUp_eq_iff {a : Nat} (ha : 0 < a) (hdvd : a ∣ 2 ^ 32) (n : U32) :
    BitVec.ofNat 32 (alignUp a n.toNat) = n ↔ a ∣ n.toNat := by
  have hlt := n.isLt
  constructor
  · intro heq
    have hle : alignUp a n.toNat ≤ 2 ^ 32 := (alignUp_le_iff ha hdvd).2 hlt.le
    have hmod : alignUp a n.toNat % 2 ^ 32 = n.toNat := by
      rw [← BitVec.toNat_ofNat, heq]
    rw [← hmod]
    exact (Nat.dvd_mod_iff hdvd).2 (dvd_alignUp a _)
  · intro hmultiple
    rw [alignUp_of_dvd ha hmultiple, BitVec.ofNat_toNat, BitVec.setWidth_eq]

theorem align_16_eq_iff (n : U32) : align n 16 = n ↔ 16 ∣ n.toNat := by
  rw [align_16_toNat]
  exact ofNat_alignUp_eq_iff (by decide) (by decide) n

theorem align_32_eq_iff (n : U32) : align n 32 = n ↔ 32 ∣ n.toNat := by
  rw [align_32_toNat]
  exact ofNat_alignUp_eq_iff (by decide) (by decide) n

theorem align_128_eq_iff (n : U32) : align n 128 = n ↔ 128 ∣ n.toNat := by
  rw [align_128_toNat]
  exact ofNat_alignUp_eq_iff (by decide) (by decide) n

theorem codecAlign_eq_iff (codec : Codec) (n : U32) :
    align n (if codec = .hevc then 32 else 16) = n ↔
      (if codec = .hevc then 32 else 16) ∣ n.toNat := by
  split_ifs
  · exact align_32_eq_iff n
  · exact align_16_eq_iff n

theorem rawStride_ofNat (raw : RawFormat) (width : U32) :
    irisVdecRawStride width raw = BitVec.ofNat 32 (rawLineBytes raw width) := by
  have hdvd : 128 ∣ rawLineBytes raw width := (dvd_alignUp 128 width.toNat).mul_left _
  rw [irisVdecRawStride_eq, alignUp_of_dvd (by decide) hdvd]

/-! ### TRY_FMT -/

theorem irisVdecTryFmt_output {f : FmtRequest} (htype : f.type = .output) :
    FormatSizes.irisVdecTryFmt platform inst f =
      { type := .output
        pixelformat := .coded (f.pixelformat.codecOr inst.codec)
        width := askedWidth platform inst f
        height := askedHeight platform inst f } := by
  obtain ⟨type, pixelformat, width, height⟩ := f
  subst htype
  cases pixelformat <;> rfl

theorem irisVdecTryFmt_capture {f : FmtRequest} (htype : f.type = .capture) :
    FormatSizes.irisVdecTryFmt platform inst f =
      { type := .capture
        pixelformat := .raw (askedRaw platform inst f)
        width := askedWidth platform inst f
        height := askedHeight platform inst f } := by
  obtain ⟨type, pixelformat, width, height⟩ := f
  subst htype
  unfold FormatSizes.irisVdecTryFmt askedRaw askedWidth askedHeight knownFormat
  cases hsupported : platform.irisVdecP010Supported <;>
    cases hstreaming : (inst.queue .output).streaming <;> cases pixelformat <;>
      simp [PixelFormat.rawOr, PixelFormat.raw]

/-! ### S_FMT -/

theorem irisVdecSFmt_idle_output {f : FmtRequest} (htype : f.type = .output)
    (hidle : (inst.queue f.type).busy = false) :
    FormatSizes.irisVdecSFmt platform count f inst =
      (0, inst.setCoded platform (f.pixelformat.codecOr inst.codec) (askedWidth platform inst f)
        (askedHeight platform inst f)) := by
  unfold FormatSizes.irisVdecSFmt
  rw [if_neg (Bool.eq_false_iff.1 hidle), irisVdecTryFmt_output htype]

theorem irisVdecSFmt_idle_capture {f : FmtRequest} (htype : f.type = .capture)
    (hidle : (inst.queue f.type).busy = false) :
    FormatSizes.irisVdecSFmt platform count f inst =
      if askedRaw platform inst f = .p010 → platform.irisVdecP010Supported = true then
        (0, inst.setRaw platform count (askedRaw platform inst f) (askedWidth platform inst f)
          (askedHeight platform inst f))
      else (-einval, inst) := by
  unfold FormatSizes.irisVdecSFmt
  rw [if_neg (Bool.eq_false_iff.1 hidle), irisVdecTryFmt_capture htype]
  cases askedRaw platform inst f with
  | nv12 => simp [PixelFormat.raw]
  | p010 => simp [PixelFormat.raw]

/-! ### Agreement -/

theorem tryAgrees_of_accepted {f : V4l2Format} {after : FormatInst}
    (hidle : (inst.queue f.type).busy = false)
    (haccepted : FormatSizes.irisVdecSFmt platform count f.toFmtRequest inst = (0, after)) :
    TryAgrees platform count inst f ↔
      queueFormat after f.type = irisVdecTryFmt platform inst f := by
  unfold TryAgrees irisVdecSFmt
  rw [if_neg (Bool.eq_false_iff.1 hidle), haccepted]
  simp

theorem not_tryAgrees_of_refused {f : V4l2Format} {after : FormatInst} {ret : Int}
    (hidle : (inst.queue f.type).busy = false) (hret : ret ≠ 0)
    (hrefused : FormatSizes.irisVdecSFmt platform count f.toFmtRequest inst = (ret, after)) :
    ¬TryAgrees platform count inst f := by
  unfold TryAgrees irisVdecSFmt
  rw [if_neg (Bool.eq_false_iff.1 hidle), hrefused]
  exact fun hagrees => hret hagrees.1

theorem tryAgrees_output {f : V4l2Format} (hdomain : inst.domain = .decoder)
    (htype : f.type = .output) (hidle : (inst.queue f.type).busy = false) :
    TryAgrees platform count inst f ↔ InForm platform inst f := by
  have hle := @irisVdecTryFmt_le platform f.toFmtRequest inst htype
  rw [irisVdecTryFmt_output htype] at hle
  rw [tryAgrees_of_accepted hidle (irisVdecSFmt_idle_output htype hidle)]
  unfold irisVdecTryFmt InForm
  rw [irisVdecTryFmt_output htype, htype]
  generalize askedWidth platform inst f.toFmtRequest = width at *
  generalize askedHeight platform inst f.toFmtRequest = height at *
  generalize f.pixelformat.codecOr inst.codec = codec
  have hsize := @setCoded_src_toNat platform inst hdomain codec _ _ hle.1 hle.2
  have hwidth : ((inst.setCoded platform codec width height).format .output).width =
      align width (if codec = .hevc then 32 else 16) := rfl
  have hheight : ((inst.setCoded platform codec width height).format .output).height =
      align height (if codec = .hevc then 32 else 16) := rfl
  have hline : ((inst.setCoded platform codec width height).format .output).bytesperline = 0 := rfl
  have hcodec : (inst.setCoded platform codec width height).codec = codec := rfl
  simp only [queueFormat, V4l2Format.mk.injEq, FmtRequest.mk.injEq, hwidth, hheight, hline, hcodec,
    codecAlign_eq_iff, true_and, and_assoc]
  refine and_congr_right fun _ => and_congr_right fun _ => and_congr eq_comm ?_
  rw [eq_comm, ← BitVec.toNat_inj, ← hsize]
  rfl

theorem tryAgrees_capture {f : V4l2Format} (hdomain : inst.domain = .decoder)
    (htype : f.type = .capture) (hidle : (inst.queue f.type).busy = false) :
    TryAgrees platform count inst f ↔ InForm platform inst f := by
  have hanswer := @irisVdecSFmt_idle_capture platform count inst _ htype hidle
  unfold InForm
  rw [htype]
  by_cases hsupported : askedRaw platform inst f.toFmtRequest = .p010 →
      platform.irisVdecP010Supported = true
  · rw [if_pos hsupported] at hanswer
    rw [tryAgrees_of_accepted hidle hanswer]
    unfold irisVdecTryFmt
    rw [irisVdecTryFmt_capture htype, htype]
    generalize askedWidth platform inst f.toFmtRequest = width at *
    generalize askedHeight platform inst f.toFmtRequest = height at *
    generalize askedRaw platform inst f.toFmtRequest = raw at *
    have hwidth : ((inst.setRaw platform count raw width height).format .capture).width =
        align width 128 := rfl
    have hheight : ((inst.setRaw platform count raw width height).format .capture).height =
        align height 32 := rfl
    have hline : ((inst.setRaw platform count raw width height).format .capture).bytesperline =
        BitVec.ofNat 32 (rawLineBytes raw width) := rawStride_ofNat raw width
    have hformat : (inst.setRaw platform count raw width height).formats.rawFormat = raw := rfl
    have hsize : ((inst.setRaw platform count raw width height).format .capture).sizeimage =
        BitVec.ofNat 32 (yuvBytes (rawLineBytes raw width) (alignUp 32 height.toNat)) :=
      (setRaw_dst_sizeimage hdomain raw width height).trans (irisRawBufferSize_ofNat rfl rfl)
    simp only [queueFormat, V4l2Format.mk.injEq, FmtRequest.mk.injEq, hwidth, hheight, hline, hsize,
      hformat, align_128_eq_iff, align_32_eq_iff, true_and, and_assoc]
    rw [and_iff_right hsupported]
    refine and_congr_right fun _ => and_congr_right fun hmultiple => ?_
    rw [alignUp_of_dvd (by decide) hmultiple]
    refine and_congr ?_ ?_
    · rw [eq_comm, ← BitVec.toNat_inj, BitVec.toNat_ofNat]
    · rw [eq_comm, ← BitVec.toNat_inj, BitVec.toNat_ofNat]
  · rw [if_neg hsupported] at hanswer
    refine iff_of_false (not_tryAgrees_of_refused hidle einval_ne_zero hanswer) ?_
    exact fun hform => hsupported hform.1

/-- **TRY_FMT** of a decoder agrees with S_FMT exactly on requests that have the form already. -/
theorem try_fmt_agrees_iff {platform : Platform} {count : Formats → U32} {inst : FormatInst}
    {f : V4l2Format} (hdomain : inst.domain = .decoder)
    (hidle : (inst.queue f.type).busy = false) :
    TryAgrees platform count inst f ↔ InForm platform inst f := by
  cases htype : f.type with
  | output => exact tryAgrees_output hdomain htype hidle
  | capture => exact tryAgrees_capture hdomain htype hidle

/-- A request for an H.264 stream. -/
def h264Request (width height sizeimage : U32) : V4l2Format where
  type := .output
  pixelformat := .coded .h264
  width := width
  height := height
  bytesperline := 0
  sizeimage := sizeimage

/-- What S_FMT returns for full HD. -/
theorem try_fmt_agrees_1088 :
    TryAgrees .sm8150 (fun _ => 4) (.opened .sm8150 (fun _ => 4) .decoder)
      (h264Request 1920 1088 7077888) := by
  refine (try_fmt_agrees_iff rfl rfl).2 ⟨?_, ?_, rfl, ?_⟩
  · decide +kernel
  · decide +kernel
  · decide +kernel

/-- TRY_FMT returns 1080 lines, and no size; S_FMT 1088 lines. -/
theorem try_fmt_unaligned :
    ¬∀ (platform : Platform) (count : Formats → U32) (inst : FormatInst) (f : V4l2Format),
      inst.domain = .decoder → (inst.queue f.type).busy = false →
        TryAgrees platform count inst f := by
  intro hall
  have hagrees := hall .sm8150 (fun _ => 4) (.opened .sm8150 (fun _ => 4) .decoder)
    (h264Request 1920 1080 0) rfl rfl
  have hheight := congrArg (fun f => f.height) hagrees.2.1
  revert hheight
  decide +kernel

end NabuIris.DecoderFormats
