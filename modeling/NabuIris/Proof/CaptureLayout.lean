import NabuIris.Proof.NegotiatedSizes

/-!
# The layout of decoded frames

Four requests set the CAPTURE format of a decoder. All of them take the stride from the visible
width and the size from dimensions that are aligned already; the frames that the stride describes
fit in the size either way.
-/

namespace NabuIris.FormatSizes

open Lib

variable {platform : Platform} {count : Formats → U32} {inst : FormatInst} {width height : U32}

/-! ### Agreement -/

/-- Both planes of a frame of the reported height, in lines of the reported stride, fit in the
reported size, which is the size of the buffers. -/
structure Agrees (formats : Formats) : Prop where
  planes : formats.dst.bytesperline.toNat * (alignUp 32 formats.dst.height.toNat +
    alignUp 16 ((formats.dst.height.toNat + 1) / 2)) ≤ formats.dst.sizeimage.toNat
  buffers : formats.outputSize = formats.dst.sizeimage

/-- What a visible size makes of the CAPTURE format. The second generation knows no P010 and takes
the stride of NV12. -/
structure LaidOut (width height : U32) (formats : Formats) : Prop where
  width_eq : formats.dst.width = align width 128
  height_eq : formats.dst.height = align height 32
  stride : formats.dst.bytesperline = irisVdecRawStride width formats.rawFormat ∨
    formats.dst.bytesperline = align width 128
  size : formats.dst.sizeimage = irisRawBufferSize formats
  buffers : formats.outputSize = formats.dst.sizeimage

theorem toNat_ofNat_le (n : Nat) : (BitVec.ofNat 32 n).toNat ≤ n := by
  rw [BitVec.toNat_ofNat]
  exact Nat.mod_le _ _

/-- Neither stride is longer than a padded line. -/
theorem LaidOut.stride_le {formats : Formats} (hlaid : LaidOut width height formats) :
    formats.dst.bytesperline.toNat ≤ alignUp 128 (rawLineBytes formats.rawFormat width) := by
  rcases hlaid.stride with hraw | hluma
  · rw [hraw, irisVdecRawStride_eq]
    exact toNat_ofNat_le _
  · rw [hluma, align_128_toNat]
    have hsample : 1 ≤ sampleBytes formats.rawFormat := by cases formats.rawFormat <;> decide
    calc (BitVec.ofNat 32 (alignUp 128 width.toNat)).toNat
        ≤ alignUp 128 width.toNat := toNat_ofNat_le _
      _ = 1 * alignUp 128 width.toNat := (Nat.one_mul _).symm
      _ ≤ rawLineBytes formats.rawFormat width := Nat.mul_le_mul_right _ hsample
      _ ≤ alignUp 128 (rawLineBytes formats.rawFormat width) := le_alignUp (by decide) _

theorem LaidOut.height_le {formats : Formats} (hlaid : LaidOut width height formats) :
    formats.dst.height.toNat ≤ alignUp 32 height.toNat := by
  rw [hlaid.height_eq, align_32_toNat]
  exact toNat_ofNat_le _

/-- The size does not wrap around up to 8192x8192. -/
theorem LaidOut.sizeimage_toNat {formats : Formats} (hlaid : LaidOut width height formats)
    (hwidth : width ≤ 8192) (hheight : height ≤ 8192) :
    formats.dst.sizeimage.toNat =
      yuvBytes (rawLineBytes formats.rawFormat width) (alignUp 32 height.toNat) := by
  rw [hlaid.size, irisRawBufferSize_ofNat hlaid.width_eq hlaid.height_eq, toNat_ofNat_eq_iff,
    yuvBytes_lt_iff]
  exact (yuvArea_supported formats.rawFormat hwidth hheight).trans (by decide)

theorem LaidOut.agrees {formats : Formats} (hlaid : LaidOut width height formats)
    (hwidth : width ≤ 8192) (hheight : height ≤ 8192) : Agrees formats := by
  refine ⟨?_, hlaid.buffers⟩
  have hhigh := hlaid.height_le
  have hluma : alignUp 32 formats.dst.height.toNat ≤ alignUp 32 (alignUp 32 height.toNat) :=
    alignUp_mono hhigh
  have hchroma : alignUp 16 ((formats.dst.height.toNat + 1) / 2) ≤
      alignUp 16 ((alignUp 32 height.toNat + 1) / 2) :=
    alignUp_mono (Nat.div_le_div_right (Nat.add_le_add_right hhigh 1))
  rw [hlaid.sizeimage_toNat hwidth hheight]
  calc formats.dst.bytesperline.toNat * (alignUp 32 formats.dst.height.toNat +
        alignUp 16 ((formats.dst.height.toNat + 1) / 2))
      ≤ yuvArea (rawLineBytes formats.rawFormat width) (alignUp 32 height.toNat) :=
        Nat.mul_le_mul hlaid.stride_le (Nat.add_le_add hluma hchroma)
    _ ≤ yuvBytes (rawLineBytes formats.rawFormat width) (alignUp 32 height.toNat) :=
        le_alignUp (by decide) _

/-! ### The four requests -/

theorem setCoded_laidOut (hdomain : inst.domain = .decoder) (codec : Codec) (width height : U32) :
    LaidOut width height (inst.setCoded platform codec width height).formats :=
  ⟨rfl, rfl, .inl rfl, setCoded_dst_sizeimage hdomain codec width height, rfl⟩

theorem setRaw_laidOut (hdomain : inst.domain = .decoder) (format : RawFormat)
    (width height : U32) :
    LaidOut width height (inst.setRaw platform count format width height).formats :=
  ⟨rfl, rfl, .inl rfl, setRaw_dst_sizeimage hdomain format width height, rfl⟩

theorem gen1_laidOut (legacyVpu5 : Bool) (event : HfiEventData) (formats : Formats) :
    LaidOut event.width event.height
      (irisHfiGen1ReadChangedParams { size := irisRawBufferSize, count } legacyVpu5 event
        formats) :=
  ⟨rfl, rfl, .inl rfl, rfl, rfl⟩

theorem gen2_laidOut (params : SubscriptionParams) (formats : Formats) :
    LaidOut (paramsFrame params).width (paramsFrame params).height
      (subscribedFormats { size := irisRawBufferSize, count } params formats) :=
  ⟨rfl, rfl, .inr rfl, rfl, rfl⟩

/-! ### Runs -/

/-- A decoder with the visible size that its CAPTURE format was last set from. -/
structure CaptureRun where
  inst : FormatInst
  width : U32
  height : U32

namespace CaptureRun

def opened (platform : Platform) (count : Formats → U32) : CaptureRun where
  inst := irisVdecInstInit platform count
  width := defaultWidth
  height := defaultHeight

def apply (platform : Platform) (count : Formats → U32) (s : CaptureRun) (op : FormatOp) :
    CaptureRun :=
  let s' : CaptureRun := { s with inst := applyFormat platform count s.inst op }
  match op with
  | .sFmt f =>
      let tried := irisVdecTryFmt platform s.inst f
      if (irisSFmt platform count f s.inst).1 = 0 then
        { s' with width := tried.width, height := tried.height }
      else s'
  | .gen1SeqChanged event _ =>
      if s.inst.expects platform .gen1 then
        { s' with width := event.width, height := event.height }
      else s'
  | .gen2SrcChange params _ =>
      if s.inst.expects platform .gen2 then
        { s' with width := (paramsFrame params).width, height := (paramsFrame params).height }
      else s'
  | _ => s'

structure Consistent (s : CaptureRun) : Prop where
  domain : s.inst.domain = .decoder
  laidOut : LaidOut s.width s.height s.inst.formats

variable {s : CaptureRun}

theorem Consistent.opened : (opened platform count).Consistent where
  domain := rfl
  laidOut := ⟨rfl, rfl, .inl rfl, rfl, rfl⟩

theorem Consistent.sFmt (hconsistent : s.Consistent) (f : FmtRequest) :
    (s.apply platform count (.sFmt f)).Consistent := by
  have hcall : irisSFmt platform count f s.inst = irisVdecSFmt platform count f s.inst := by
    rw [irisSFmt, hconsistent.domain]
  unfold CaptureRun.apply
  simp only [applyFormat]
  split_ifs with haccepted
  · rw [hcall] at haccepted ⊢
    cases htype : f.type with
    | output =>
        rw [irisVdecSFmt_output htype haccepted]
        exact ⟨hconsistent.domain, setCoded_laidOut hconsistent.domain _ _ _⟩
    | capture =>
        rw [irisVdecSFmt_capture htype haccepted]
        exact ⟨hconsistent.domain, setRaw_laidOut hconsistent.domain _ _ _⟩
  · rw [irisSFmt_refused haccepted]
    exact hconsistent

/-- **One request.** -/
theorem Consistent.apply (hconsistent : s.Consistent) (op : FormatOp) :
    (s.apply platform count op).Consistent := by
  have hencoder : s.inst.domain ≠ .encoder := by
    rw [hconsistent.domain]
    decide
  cases op with
  | sFmt f => exact hconsistent.sFmt f
  | sSelection width height =>
      simp only [CaptureRun.apply, applyFormat, hencoder, if_false]
      exact hconsistent
  | sCtrl control value =>
      simp only [CaptureRun.apply, applyFormat, hencoder, if_false]
      exact hconsistent
  | reqbufs plane busy =>
      simp only [CaptureRun.apply, applyFormat]
      split_ifs
      · exact hconsistent
      · exact ⟨hconsistent.domain, hconsistent.laidOut⟩
  | streamon plane => exact ⟨hconsistent.domain, hconsistent.laidOut⟩
  | streamoff plane => exact ⟨hconsistent.domain, hconsistent.laidOut⟩
  | gen1SeqChanged event armed =>
      simp only [CaptureRun.apply, applyFormat]
      split_ifs
      · exact ⟨hconsistent.domain, gen1_laidOut _ event s.inst.formats⟩
      · exact hconsistent
  | gen1Vp9Resize crop =>
      simp only [CaptureRun.apply, applyFormat]
      split_ifs
      · obtain ⟨hwidth, hheight, hstride, hsize, hbuffers⟩ := hconsistent.laidOut
        exact ⟨hconsistent.domain, hwidth, hheight, hstride, hsize, hbuffers⟩
      · exact hconsistent
  | gen2SrcChange params armed =>
      simp only [CaptureRun.apply, applyFormat]
      split_ifs
      · exact ⟨hconsistent.domain, gen2_laidOut params s.inst.formats⟩
      · exact hconsistent
  | drcDone => exact ⟨hconsistent.domain, hconsistent.laidOut⟩

theorem Consistent.run (platform : Platform) (count : Formats → U32) (ops : List FormatOp) :
    (ops.foldl (CaptureRun.apply platform count) (.opened platform count)).Consistent :=
  List.foldlRecOn ops _ .opened fun _ hconsistent op _ => hconsistent.apply op

end CaptureRun

/-- **Stride and size agree** for every visible size up to 8192x8192, whichever request has set the
CAPTURE format last. -/
theorem capture_sizes_agree (platform : Platform) (count : Formats → U32) (ops : List FormatOp)
    (hwidth : (ops.foldl (CaptureRun.apply platform count) (.opened platform count)).width ≤ 8192)
    (hheight : (ops.foldl (CaptureRun.apply platform count) (.opened platform count)).height ≤
      8192) :
    Agrees (ops.foldl (CaptureRun.apply platform count) (.opened platform count)).inst.formats :=
  (CaptureRun.Consistent.run platform count ops).laidOut.agrees hwidth hheight

/-- A ten-bit stream of 8192x4320 behind an S_FMT of 1080p. -/
theorem capture_sizes_agree_8k :
    Agrees ([.sFmt ⟨.output, .coded .hevc, 1920, 1080⟩,
      .gen1SeqChanged
        { width := 8192
          height := 4320
          bitDepth := hfiBitDepth10
          picStruct := 1
          colourSpace := 0
          bufCount := 4
          inputCrop := { left := 0, top := 0, width := 0, height := 0 } } false].foldl
      (CaptureRun.apply .sm8150 fun _ => 4) (.opened .sm8150 fun _ => 4)).inst.formats :=
  capture_sizes_agree .sm8150 (fun _ => 4) _ (by decide) (by decide)

end NabuIris.FormatSizes
