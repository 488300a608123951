import NabuIris.Lib.Run
import NabuIris.Proof.FormatExactness

/-!
# Negotiated buffers

The check that a buffer passes before it is queued computes the required size from the state of the
instance at that moment. What a queue has been told is enough as long as nothing but S_FMT moves a
decoder to the other side of 4096x2304 or takes the rate control from an encoder.
-/

namespace NabuIris.FormatSizes

open Lib

/-- A buffer of the reported size passes the check of its queue. -/
def Accepts (platform : Platform) (inst : FormatInst) : Prop :=
  ∀ plane, irisVb2BufPrepare platform inst plane .none (inst.format plane).sizeimage = 0

variable {platform : Platform} {count : Formats → U32} {inst : FormatInst}

/-! ### The check -/

/-- A size from `2 ^ 31` on is negative as an `int`: as it is compared, larger than any buffer. -/
theorem zeroExtend_lt_signExtend_iff (size required : U32) :
    size.zeroExtend 64 < required.signExtend 64 ↔
      ¬(required.toNat < 2 ^ 31 ∧ required.toNat ≤ size.toNat) := by
  have hsize := size.isLt
  have hrequired := required.isLt
  rw [BitVec.lt_def, BitVec.toNat_signExtend, BitVec.toNat_setWidth, BitVec.toNat_setWidth,
    BitVec.msb_eq_decide]
  by_cases hneg : 2 ^ 31 ≤ required.toNat
  · simp only [hneg, decide_true, if_true]
    omega
  · simp only [hneg, decide_false, Bool.false_eq_true, if_false]
    omega

theorem prepare_iff (plane : Plane) (size : U32) :
    irisVb2BufPrepare platform inst plane .none size = 0 ↔
      inst.drc = true ∨ ((irisGetBufferSize platform inst plane).toNat < 2 ^ 31 ∧
        (irisGetBufferSize platform inst plane).toNat ≤ size.toNat) := by
  have hfield : ¬(plane = .output ∧ Field.none = Field.other) := fun h => Field.noConfusion h.2
  unfold irisVb2BufPrepare
  rw [if_neg hfield]
  cases hdrc : inst.drc with
  | true => simp
  | false =>
      simp only [Bool.false_eq_true, if_false, false_or, zeroExtend_lt_signExtend_iff]
      rw [ite_not]
      split_ifs with hlarge
      · exact iff_of_true rfl hlarge
      · exact iff_of_false einval_ne_zero hlarge

theorem accepts_planes : Accepts platform inst ↔
    irisVb2BufPrepare platform inst .output .none inst.formats.src.sizeimage = 0 ∧
      irisVb2BufPrepare platform inst .capture .none inst.formats.dst.sizeimage = 0 := by
  constructor
  · intro haccepts
    exact ⟨haccepts .output, haccepts .capture⟩
  · intro hplanes plane
    cases plane
    · exact hplanes.1
    · exact hplanes.2

/-! ### Decoders -/

/-- The frame that a decoder is at: its coded size and the visible rectangle. -/
structure CodedFrame where
  width : U32
  height : U32
  crop : Rect

/-- The side of 4096x2304 that the larger of the two dimensions lies on. -/
def CodedFrame.above (frame : CodedFrame) : Bool :=
  sideOf (wrappedMbs (max frame.width.toNat frame.crop.width.toNat)
    (max frame.height.toNat frame.crop.height.toNat))

def formatsFrame (formats : Formats) : CodedFrame :=
  ⟨formats.src.width, formats.src.height, formats.crop⟩

/-- A bitstream buffer of the given size is large enough for the side that the frame lies on. -/
def Serves (platform : Platform) (codec : Codec) (sizeimage : U32) (frame : CodedFrame) : Prop :=
  bitstreamBytes platform codec frame.above ≤ sizeimage.toNat

theorem bitstreamBytes_lt (codec : Codec) (above : Bool) :
    bitstreamBytes platform codec above < 2 ^ 31 := by
  cases platform <;> cases codec <;> cases above <;> decide

theorem accepts_decoder_iff (hdomain : inst.domain = .decoder)
    (hsize : inst.formats.dst.sizeimage = irisRawBufferSize inst.formats) :
    Accepts platform inst ↔ inst.drc = true ∨
      (Serves platform inst.codec inst.formats.src.sizeimage (formatsFrame inst.formats) ∧
        inst.formats.dst.sizeimage.toNat < 2 ^ 31) := by
  have houtput : (irisGetBufferSize platform inst .output).toNat =
      bitstreamBytes platform inst.codec (formatsFrame inst.formats).above := by
    unfold irisGetBufferSize
    rw [hdomain]
    change (irisDecBitstreamBufferSize platform inst.toLoadInst).toNat = _
    rw [irisDecBitstreamBufferSize_toNat, irisGetMbpf_toNat]
    rfl
  have hcapture : irisGetBufferSize platform inst .capture = inst.formats.dst.sizeimage := by
    unfold irisGetBufferSize
    rw [hdomain, hsize]
  rw [accepts_planes, prepare_iff, prepare_iff, houtput, hcapture, ← or_and_left]
  refine or_congr_right (and_congr ?_ ?_)
  · exact and_iff_right (bitstreamBytes_lt _ _)
  · exact and_iff_left le_rfl

/-! ### What keeps buffers acceptable -/

/-- The CAPTURE size of a decoder, modulo `2 ^ 32`, is not negative as an `int`. -/
def RawBelow (format : RawFormat) (width height : U32) : Prop :=
  yuvBytes (rawLineBytes format width) (alignUp 32 height.toNat) % 2 ^ 32 < 2 ^ 31

/-- The frame that a sequence change of the first generation announces. -/
def eventFrame (event : HfiEventData) : CodedFrame :=
  { width := event.width
    height := event.height
    crop :=
      if 0 < event.inputCrop.width ∧ 0 < event.inputCrop.height then event.inputCrop
      else { left := 0, top := 0, width := event.width, height := event.height } }

def eventRaw (platform : Platform) (event : HfiEventData) (format : RawFormat) : RawFormat :=
  if platform.legacyVpu5 = true ∧ event.bitDepth = hfiBitDepth10 then .p010 else format

/-- The frame that a source change of the second generation announces. -/
def paramsFrame (params : SubscriptionParams) : CodedFrame :=
  let width := (params.bitstreamResolution &&& 0xffff0000) >>> 16
  let height := params.bitstreamResolution &&& 0xffff
  let top := params.cropOffsets0 &&& 0xffff
  let left := (params.cropOffsets0 >>> 16) &&& 0xffff
  { width
    height
    crop :=
      { left
        top
        width := width - ((params.cropOffsets1 >>> 16) &&& 0xffff) - left
        height := height - (params.cropOffsets1 &&& 0xffff) - top } }

/-- The request keeps the frame on the side that the OUTPUT queue has buffers for, and its raw size
is not negative as an `int`. -/
def FmtKeeps (platform : Platform) (f : FmtRequest) (inst : FormatInst) : Prop :=
  match inst.domain, f.type with
  | .decoder, .output =>
      let f := irisVdecTryFmt platform inst f
      let codec := f.pixelformat.codecOr inst.codec
      let above := sideOf (wrappedMbs (codedLength codec f.width f.width)
        (codedLength codec f.height f.height))
      let sized := sideOf (wrappedMbs (codedLength codec f.width inst.formats.crop.width)
        (codedLength codec f.height inst.formats.crop.height))
      bitstreamBytes platform codec above ≤ bitstreamBytes platform codec sized
  | .decoder, .capture =>
      let f := irisVdecTryFmt platform inst f
      Serves platform inst.codec inst.formats.src.sizeimage
          ⟨inst.formats.src.width, inst.formats.src.height, ⟨0, 0, f.width, f.height⟩⟩ ∧
        RawBelow (f.pixelformat.rawOr inst.formats.rawFormat) f.width f.height
  | .encoder, .output =>
      let f := irisVencTryFmt inst f
      yuvBytes f.width.toNat f.height.toNat % 2 ^ 32 < 2 ^ 31
  | .encoder, .capture => True

/-- Nothing but S_FMT takes a decoder to the side of 4096x2304 with the larger buffers, or the rate
control from an encoder, unless the size of the queue is large enough already. -/
def FormatOp.Keeps (platform : Platform) (count : Formats → U32) (inst : FormatInst) :
    FormatOp → Prop
  | .sFmt f => (irisSFmt platform count f inst).1 = 0 → inst.drc = false → FmtKeeps platform f inst
  | .sCtrl .frameRc false =>
      inst.domain = .encoder → (inst.queue .output).streaming = false →
        encodedBytes (inst.dstArea % 2 ^ 32) (3 * inst.dstArea % 2 ^ 32) false ≤
          inst.formats.dst.sizeimage.toNat
  | .gen1SeqChanged event armed =>
      inst.expects platform .gen1 = true → armed = false →
        Serves platform inst.codec inst.formats.src.sizeimage (eventFrame event) ∧
          RawBelow (eventRaw platform event inst.formats.rawFormat) event.width event.height
  | .gen1Vp9Resize crop =>
      inst.shrinks platform crop = true →
        Serves platform inst.codec inst.formats.src.sizeimage
          ⟨inst.formats.src.width, inst.formats.src.height, crop⟩
  | .gen2SrcChange params armed =>
      inst.expects platform .gen2 = true → armed = false →
        Serves platform inst.codec inst.formats.src.sizeimage (paramsFrame params) ∧
          RawBelow inst.formats.rawFormat (paramsFrame params).width (paramsFrame params).height
  | .drcDone =>
      inst.domain = .decoder → inst.drc = true →
        Serves platform inst.codec inst.formats.src.sizeimage (formatsFrame inst.formats) ∧
          inst.formats.dst.sizeimage.toNat < 2 ^ 31
  | _ => True

/-! ### Refused requests -/

theorem irisVdecSFmt_refused {f : FmtRequest}
    (hrefused : (irisVdecSFmt platform count f inst).1 ≠ 0) :
    (irisVdecSFmt platform count f inst).2 = inst := by
  unfold irisVdecSFmt at hrefused ⊢
  by_cases hbusy : (inst.queue f.type).busy = true
  · rw [if_pos hbusy]
  · rw [if_neg hbusy] at hrefused ⊢
    dsimp only at hrefused ⊢
    split at hrefused
    · exact absurd rfl hrefused
    · exact absurd rfl hrefused
    · split_ifs at hrefused ⊢ with hsupported
      · exact absurd rfl hrefused
      · rfl
    · rfl

theorem irisVencSFmtOutput_refused {f : FmtRequest}
    (hrefused : (irisVencSFmtOutput platform f inst).1 ≠ 0) :
    (irisVencSFmtOutput platform f inst).2 = inst := by
  unfold irisVencSFmtOutput at hrefused ⊢
  dsimp only at hrefused ⊢
  split at hrefused
  · rfl
  · exact absurd rfl hrefused

theorem irisVencSFmtInput_refused {f : FmtRequest}
    (hrefused : (irisVencSFmtInput platform f inst).1 ≠ 0) :
    (irisVencSFmtInput platform f inst).2 = inst := by
  unfold irisVencSFmtInput at hrefused ⊢
  dsimp only at hrefused ⊢
  split_ifs at hrefused ⊢ with hformat hresized
  · rfl
  · exact absurd rfl hrefused
  · exact absurd rfl hrefused

theorem irisSFmt_refused {f : FmtRequest} (hrefused : (irisSFmt platform count f inst).1 ≠ 0) :
    (irisSFmt platform count f inst).2 = inst := by
  unfold irisSFmt at hrefused ⊢
  cases hdomain : inst.domain with
  | decoder =>
      rw [hdomain] at hrefused
      exact irisVdecSFmt_refused hrefused
  | encoder =>
      rw [hdomain] at hrefused
      dsimp only at hrefused ⊢
      unfold irisVencSFmt at hrefused ⊢
      split_ifs at hrefused ⊢ with hbusy
      · rfl
      · cases htype : f.type with
        | output =>
            rw [htype] at hrefused
            exact irisVencSFmtInput_refused hrefused
        | capture =>
            rw [htype] at hrefused
            exact irisVencSFmtOutput_refused hrefused

/-! ### Steps of a decoder -/

/-- The CAPTURE format of a decoder has the size of its dimensions. -/
structure DecoderSized (inst : FormatInst) : Prop where
  domain : inst.domain = .decoder
  capture : inst.formats.dst.sizeimage = irisRawBufferSize inst.formats

theorem DecoderSized.accepts_iff (hsized : DecoderSized inst) :
    Accepts platform inst ↔ inst.drc = true ∨
      (Serves platform inst.codec inst.formats.src.sizeimage (formatsFrame inst.formats) ∧
        inst.formats.dst.sizeimage.toNat < 2 ^ 31) :=
  accepts_decoder_iff hsized.domain hsized.capture

theorem true_or_iff (b : Bool) (p : Prop) : b = true ∨ p ↔ (b = false → p) := by
  cases b <;> simp

/-- What a source change leaves of the sizes, for both generations. -/
structure Announces (formats after : Formats) (frame : CodedFrame) (format : RawFormat) : Prop where
  frame_eq : formatsFrame after = frame
  output : after.src.sizeimage = formats.src.sizeimage
  format_eq : after.rawFormat = format
  width : after.dst.width = align frame.width 128
  height : after.dst.height = align frame.height 32
  capture : after.dst.sizeimage = irisRawBufferSize after

theorem gen1_announces (platform : Platform) (count : Formats → U32) (event : HfiEventData)
    (formats : Formats) :
    Announces formats
      (irisHfiGen1ReadChangedParams { size := irisRawBufferSize, count } platform.legacyVpu5 event
        formats) (eventFrame event) (eventRaw platform event formats.rawFormat) := by
  refine ⟨rfl, rfl, ?_, rfl, rfl, rfl⟩
  unfold irisHfiGen1ReadChangedParams eventRaw
  change (if _ then RawFormat.p010 else formats.rawFormat) = _
  cases platform.legacyVpu5 <;> cases hraw : formats.rawFormat <;> simp

theorem gen2_announces (count : Formats → U32) (params : SubscriptionParams) (formats : Formats) :
    Announces formats (subscribedFormats { size := irisRawBufferSize, count } params formats)
      (paramsFrame params) formats.rawFormat :=
  ⟨rfl, rfl, rfl, rfl, rfl, rfl⟩

theorem rawBelow_iff {formats : Formats} {width height : U32}
    (hwidth : formats.dst.width = align width 128) (hheight : formats.dst.height = align height 32)
    (hsize : formats.dst.sizeimage = irisRawBufferSize formats) :
    RawBelow formats.rawFormat width height ↔ formats.dst.sizeimage.toNat < 2 ^ 31 := by
  rw [hsize, irisRawBufferSize_ofNat hwidth hheight, BitVec.toNat_ofNat]
  rfl

/-- A source change of either generation. -/
theorem sourceChange_accepts (hsized : DecoderSized inst) {after : Formats} {frame : CodedFrame}
    {format : RawFormat} (hannounces : Announces inst.formats after frame format) (armed : Bool) :
    DecoderSized { inst with formats := after, drc := armed } ∧
      (Accepts platform { inst with formats := after, drc := armed } ↔
        (armed = false → Serves platform inst.codec inst.formats.src.sizeimage frame ∧
          RawBelow format frame.width frame.height)) := by
  have hafter : DecoderSized { inst with formats := after, drc := armed } :=
    ⟨hsized.domain, hannounces.capture⟩
  refine ⟨hafter, ?_⟩
  have hraw := rawBelow_iff hannounces.width hannounces.height hannounces.capture
  rw [hannounces.format_eq] at hraw
  rw [hafter.accepts_iff, hraw]
  change armed = true ∨ (Serves _ _ after.src.sizeimage (formatsFrame after) ∧ _) ↔ _
  rw [hannounces.output, hannounces.frame_eq]
  exact true_or_iff armed _

theorem setCoded_accepts (hsized : DecoderSized inst) (codec : Codec) {width height : U32}
    (hwidth : width ≤ 8192) (hheight : height ≤ 8192) :
    DecoderSized (inst.setCoded platform codec width height) ∧
      (Accepts platform (inst.setCoded platform codec width height) ↔ (inst.drc = false →
        bitstreamBytes platform codec (sideOf (wrappedMbs (codedLength codec width width)
            (codedLength codec height height))) ≤
          bitstreamBytes platform codec
            (sideOf (wrappedMbs (codedLength codec width inst.formats.crop.width)
              (codedLength codec height inst.formats.crop.height))))) := by
  have hafter : DecoderSized (inst.setCoded platform codec width height) :=
    ⟨hsized.domain, setCoded_dst_sizeimage hsized.domain codec width height⟩
  refine ⟨hafter, ?_⟩
  have hraw : (inst.setCoded platform codec width height).formats.dst.sizeimage.toNat <
      2 ^ 31 := by
    refine (rawBelow_iff rfl rfl hafter.capture).1 ?_
    have hle : yuvBytes (rawLineBytes inst.formats.rawFormat width) (alignUp 32 height.toNat) ≤
        2 ^ 28 :=
      (alignUp_le_iff (by decide) (by decide)).2
        (yuvArea_supported inst.formats.rawFormat hwidth hheight)
    exact lt_of_le_of_lt ((Nat.mod_le _ _).trans hle) (by decide)
  have hside : (formatsFrame (inst.setCoded platform codec width height).formats).above =
      sideOf (wrappedMbs (codedLength codec width width) (codedLength codec height height)) := by
    rw [← codedLength_eq codec width hwidth, ← codedLength_eq codec height hheight]
    rfl
  rw [hafter.accepts_iff, and_iff_left hraw, Serves, hside,
    setCoded_src_toNat hsized.domain codec hwidth hheight]
  exact true_or_iff inst.drc _

theorem setRaw_accepts (hsized : DecoderSized inst) (format : RawFormat) (width height : U32) :
    DecoderSized (inst.setRaw platform count format width height) ∧
      (Accepts platform (inst.setRaw platform count format width height) ↔ (inst.drc = false →
        Serves platform inst.codec inst.formats.src.sizeimage
            ⟨inst.formats.src.width, inst.formats.src.height, ⟨0, 0, width, height⟩⟩ ∧
          RawBelow format width height)) := by
  have hafter : DecoderSized (inst.setRaw platform count format width height) :=
    ⟨hsized.domain, setRaw_dst_sizeimage hsized.domain format width height⟩
  refine ⟨hafter, ?_⟩
  have hraw := @rawBelow_iff (inst.setRaw platform count format width height).formats width height
    rfl rfl hafter.capture
  rw [hafter.accepts_iff, ← hraw]
  exact true_or_iff inst.drc _

theorem decoder_sFmt (hsized : DecoderSized inst) (haccepts : Accepts platform inst)
    (f : FmtRequest) :
    DecoderSized (irisSFmt platform count f inst).2 ∧
      (Accepts platform (irisSFmt platform count f inst).2 ↔
        FormatOp.Keeps platform count inst (.sFmt f)) := by
  by_cases hanswer : (irisSFmt platform count f inst).1 = 0
  · have hcall : irisSFmt platform count f inst = irisVdecSFmt platform count f inst := by
      rw [irisSFmt, hsized.domain]
    simp only [FormatOp.Keeps, hanswer, forall_const]
    rw [hcall] at hanswer ⊢
    cases htype : f.type with
    | output =>
        have hclamped : (irisVdecTryFmt platform inst f).width ≤ 8192 ∧
            (irisVdecTryFmt platform inst f).height ≤ 8192 := irisVdecTryFmt_le htype
        rw [irisVdecSFmt_output htype hanswer]
        simp only [FmtKeeps, hsized.domain, htype]
        exact setCoded_accepts hsized _ hclamped.1 hclamped.2
    | capture =>
        rw [irisVdecSFmt_capture htype hanswer]
        simp only [FmtKeeps, hsized.domain, htype]
        exact setRaw_accepts hsized _ _ _
  · rw [irisSFmt_refused hanswer]
    exact ⟨hsized, iff_of_true haccepts fun haccepted => absurd haccepted hanswer⟩

theorem decoder_vp9Resize (hsized : DecoderSized inst) (haccepts : Accepts platform inst)
    (crop : Rect) (hshrinks : inst.shrinks platform crop = true) :
    DecoderSized { inst with formats.crop := crop } ∧
      (Accepts platform { inst with formats.crop := crop } ↔
        Serves platform inst.codec inst.formats.src.sizeimage
          ⟨inst.formats.src.width, inst.formats.src.height, crop⟩) := by
  have hafter : DecoderSized { inst with formats.crop := crop } := ⟨hsized.domain, hsized.capture⟩
  have hdrc : inst.drc = false := by
    simp only [FormatInst.shrinks, FormatInst.expects, Bool.and_eq_true] at hshrinks
    simpa using hshrinks.1.1.1.1.1.1.2
  have hraw := ((true_or_iff _ _).1 (hsized.accepts_iff.1 haccepts) hdrc).2
  refine ⟨hafter, ?_⟩
  rw [hafter.accepts_iff, and_iff_left hraw]
  exact (true_or_iff inst.drc _).trans (forall_prop_of_true hdrc)

theorem decoder_drcDone (hsized : DecoderSized inst) (haccepts : Accepts platform inst) :
    DecoderSized { inst with drc := false } ∧
      (Accepts platform { inst with drc := false } ↔
        FormatOp.Keeps platform count inst .drcDone) := by
  have hafter : DecoderSized { inst with drc := false } := ⟨hsized.domain, hsized.capture⟩
  refine ⟨hafter, ?_⟩
  rw [hafter.accepts_iff]
  simp only [FormatOp.Keeps, hsized.domain, forall_const, Bool.false_eq_true, false_or]
  rw [hsized.accepts_iff] at haccepts
  cases hdrc : inst.drc with
  | true => simp
  | false =>
      rw [true_or_iff] at haccepts
      exact iff_of_true (haccepts hdrc) fun h => absurd h Bool.false_ne_true

/-- **One step of a decoder.** -/
theorem decoder_step (hsized : DecoderSized inst) (haccepts : Accepts platform inst)
    (op : FormatOp) :
    DecoderSized (applyFormat platform count inst op) ∧
      (Accepts platform (applyFormat platform count inst op) ↔ op.Keeps platform count inst) := by
  have hencoder : inst.domain ≠ .encoder := by
    rw [hsized.domain]
    decide
  have hsame : DecoderSized inst ∧ (Accepts platform inst ↔ True) :=
    ⟨hsized, iff_true_intro haccepts⟩
  cases op with
  | sFmt f => exact decoder_sFmt hsized haccepts f
  | sSelection width height =>
      simp only [applyFormat, hencoder, if_false]
      exact hsame
  | sCtrl control value =>
      simp only [applyFormat, hencoder, if_false]
      cases control with
      | bitrateMode => exact hsame
      | frameRc =>
          cases value with
          | true => exact hsame
          | false => exact ⟨hsized, iff_of_true haccepts fun h => absurd h hencoder⟩
  | reqbufs plane busy =>
      unfold applyFormat
      dsimp only
      split_ifs
      · exact hsame
      · exact ⟨⟨hsized.domain, hsized.capture⟩, iff_true_intro haccepts⟩
  | streamon plane => exact ⟨⟨hsized.domain, hsized.capture⟩, iff_true_intro haccepts⟩
  | streamoff plane => exact ⟨⟨hsized.domain, hsized.capture⟩, iff_true_intro haccepts⟩
  | gen1SeqChanged event armed =>
      by_cases hexpects : inst.expects platform .gen1 = true
      · simp only [applyFormat, FormatOp.Keeps, hexpects, if_true, forall_const]
        exact sourceChange_accepts hsized (gen1_announces platform count event inst.formats) armed
      · simp only [applyFormat, FormatOp.Keeps, hexpects]
        exact ⟨hsized, iff_of_true haccepts fun h => absurd h Bool.false_ne_true⟩
  | gen1Vp9Resize crop =>
      by_cases hshrinks : inst.shrinks platform crop = true
      · simp only [applyFormat, FormatOp.Keeps, hshrinks, if_true, forall_const]
        exact decoder_vp9Resize hsized haccepts crop hshrinks
      · simp only [applyFormat, FormatOp.Keeps, hshrinks]
        exact ⟨hsized, iff_of_true haccepts fun h => absurd h Bool.false_ne_true⟩
  | gen2SrcChange params armed =>
      by_cases hexpects : inst.expects platform .gen2 = true
      · simp only [applyFormat, FormatOp.Keeps, hexpects, if_true, forall_const]
        exact sourceChange_accepts hsized (gen2_announces count params inst.formats) armed
      · simp only [applyFormat, FormatOp.Keeps, hexpects]
        exact ⟨hsized, iff_of_true haccepts fun h => absurd h Bool.false_ne_true⟩
  | drcDone => exact decoder_drcDone hsized haccepts

/-! ### Steps of an encoder -/

/-- The OUTPUT format of an encoder has the size of its dimensions, and its CAPTURE format has the
dimensions of the crop rectangle. -/
structure EncoderSized (inst : FormatInst) : Prop where
  domain : inst.domain = .encoder
  drc : inst.drc = false
  codec : inst.codec ≠ .vp9
  mode : inst.bitrateMode ≠ bitrateModeCq
  output : inst.formats.src.sizeimage = irisYuvBufferSizeNv12 inst.formats.src
  width : inst.formats.dst.width = inst.formats.crop.width
  height : inst.formats.dst.height = inst.formats.crop.height

theorem EncoderSized.setQueue (hsized : EncoderSized inst) (plane : Plane) (queue : VideoQueue) :
    EncoderSized (inst.setQueue plane queue) :=
  { domain := hsized.domain
    drc := hsized.drc
    codec := hsized.codec
    mode := hsized.mode
    output := hsized.output
    width := hsized.width
    height := hsized.height }

/-- What a CAPTURE buffer of an encoder needs. -/
def FormatInst.encodedNeed (inst : FormatInst) : Nat :=
  encodedBytes (inst.dstArea % 2 ^ 32) (3 * inst.dstArea % 2 ^ 32) inst.RateControlled

theorem encodedNeed_lt (inst : FormatInst) : inst.encodedNeed < 2 ^ 31 :=
  encodedBytes_lt (by omega) (Nat.mod_lt _ (by decide)) _

theorem encodedBytes_mono (area triple : Nat) (rateControl : Bool) :
    encodedBytes area triple true ≤ encodedBytes area triple rateControl := by
  unfold encodedBytes
  refine alignUp_mono ?_
  grind

theorem EncoderSized.capture_toNat (hsized : EncoderSized inst) :
    (irisGetBufferSize platform inst .capture).toNat = inst.encodedNeed := by
  unfold irisGetBufferSize
  rw [hsized.domain]
  exact irisEncBitstreamBufferSize_toNat inst

theorem EncoderSized.accepts_iff (hsized : EncoderSized inst) :
    Accepts platform inst ↔ inst.formats.src.sizeimage.toNat < 2 ^ 31 ∧
      inst.encodedNeed ≤ inst.formats.dst.sizeimage.toNat := by
  have houtput : irisGetBufferSize platform inst .output = inst.formats.src.sizeimage := by
    unfold irisGetBufferSize
    rw [hsized.domain, hsized.output]
  rw [accepts_planes, prepare_iff, prepare_iff, houtput, hsized.capture_toNat, true_or_iff,
    true_or_iff, forall_prop_of_true hsized.drc, forall_prop_of_true hsized.drc,
    and_iff_left le_rfl, and_iff_right (encodedNeed_lt inst)]

/-- Sizing the CAPTURE queue makes it large enough. -/
theorem setEncoded_accepts (platform : Platform) (hsized : EncoderSized inst) {codec : Codec}
    (hcodec : codec ≠ .vp9) :
    EncoderSized (inst.setEncoded platform codec) ∧
      (Accepts platform (inst.setEncoded platform codec) ↔
        inst.formats.src.sizeimage.toNat < 2 ^ 31) := by
  have hafter : EncoderSized (inst.setEncoded platform codec) :=
    { domain := hsized.domain
      drc := hsized.drc
      codec := hcodec
      mode := hsized.mode
      output := hsized.output
      width := hsized.width
      height := hsized.height }
  have hsize : (irisGetBufferSize platform inst .capture).toNat = inst.encodedNeed :=
    hsized.capture_toNat
  have hneed : (inst.setEncoded platform codec).encodedNeed ≤
      (inst.setEncoded platform codec).formats.dst.sizeimage.toNat := hsize.ge
  refine ⟨hafter, ?_⟩
  rw [hafter.accepts_iff, and_iff_left hneed]
  rfl

/-- An encoder sizes its CAPTURE queue unless it refuses the codec. -/
theorem irisVencSFmtOutput_eq {f : FmtRequest}
    (haccepted : (irisVencSFmtOutput platform f inst).1 = 0) :
    ∃ codec, codec ≠ .vp9 ∧
      (irisVencSFmtOutput platform f inst).2 = inst.setEncoded platform codec := by
  unfold irisVencSFmtOutput at haccepted ⊢
  cases hcodec : (irisVencTryFmt inst f).pixelformat.vencCodec with
  | none =>
      simp only [hcodec] at haccepted
      exact absurd haccepted einval_ne_zero
  | some codec =>
      refine ⟨codec, ?_, by simp only [hcodec]⟩
      rintro rfl
      revert hcodec
      cases (irisVencTryFmt inst f).pixelformat with
      | coded known => cases known <;> simp [PixelFormat.vencCodec]
      | _ => simp [PixelFormat.vencCodec]

theorem encoder_resize (platform : Platform) (hsized : EncoderSized inst) :
    EncoderSized (irisVencSFmtOutput platform inst.dstRequest inst).2 ∧
      (Accepts platform (irisVencSFmtOutput platform inst.dstRequest inst).2 ↔
        inst.formats.src.sizeimage.toNat < 2 ^ 31) := by
  have haccepted : (irisVencSFmtOutput platform inst.dstRequest inst).1 = 0 :=
    irisVencSFmtOutput_accepted hsized.codec
  obtain ⟨codec, hcodec, hafter⟩ := irisVencSFmtOutput_eq haccepted
  rw [hafter]
  exact setEncoded_accepts platform hsized hcodec

theorem setFrame_output (hdomain : inst.domain = .encoder) (width height : U32) :
    (inst.setFrame platform width height).formats.src.sizeimage =
      irisYuvBufferSizeNv12 (inst.setFrame platform width height).formats.src := by
  unfold FormatInst.setFrame irisGetBufferSize
  simp only [hdomain]
  rfl

theorem EncoderSized.setFrame_setCrop (hsized : EncoderSized inst) (width height : U32) :
    EncoderSized ((inst.setFrame platform width height).setCrop width height) where
  domain := hsized.domain
  drc := hsized.drc
  codec := hsized.codec
  mode := hsized.mode
  output := setFrame_output hsized.domain width height
  width := rfl
  height := rfl

theorem EncoderSized.setFrame (hsized : EncoderSized inst) {width height : U32}
    (hwidth : width = inst.formats.crop.width) (hheight : height = inst.formats.crop.height) :
    EncoderSized (inst.setFrame platform width height) where
  domain := hsized.domain
  drc := hsized.drc
  codec := hsized.codec
  mode := hsized.mode
  output := setFrame_output hsized.domain width height
  width := hwidth
  height := hheight

theorem encoder_sFmtInput (hsized : EncoderSized inst) (haccepts : Accepts platform inst)
    {f : FmtRequest} (htype : f.type = .output) :
    EncoderSized (irisVencSFmtInput platform f inst).2 ∧
      (Accepts platform (irisVencSFmtInput platform f inst).2 ↔
        yuvBytes (irisVencTryFmt inst f).width.toNat (irisVencTryFmt inst f).height.toNat %
          2 ^ 32 < 2 ^ 31) := by
  have hformat : ¬(irisVencTryFmt inst f).pixelformat ≠ .nv12 :=
    not_not.2 (irisVencTryFmt_nv12 htype)
  have hsize : (inst.setFrame platform (irisVencTryFmt inst f).width
      (irisVencTryFmt inst f).height).formats.src.sizeimage.toNat =
      yuvBytes (irisVencTryFmt inst f).width.toNat (irisVencTryFmt inst f).height.toNat %
        2 ^ 32 := by
    rw [setFrame_src_sizeimage hsized.domain, BitVec.toNat_ofNat]
  unfold irisVencSFmtInput
  simp only [hformat, if_false]
  rw [← hsize]
  split_ifs with hresized
  · exact encoder_resize platform (hsized.setFrame_setCrop _ _)
  · -- the CAPTURE dimensions stay those of the crop rectangle
    rw [not_or, not_not, not_not] at hresized
    obtain ⟨hwidth, hheight⟩ := hresized
    have hafter : EncoderSized (inst.setFrame platform (irisVencTryFmt inst f).width
        (irisVencTryFmt inst f).height) := hsized.setFrame hwidth hheight
    have harea : (inst.setFrame platform (irisVencTryFmt inst f).width
        (irisVencTryFmt inst f).height).encodedNeed = inst.encodedNeed := by
      unfold FormatInst.encodedNeed FormatInst.dstArea
      rw [hsized.width, hsized.height, ← hwidth, ← hheight]
      rfl
    refine ⟨hafter, ?_⟩
    rw [hafter.accepts_iff, harea]
    exact and_iff_left (hsized.accepts_iff.1 haccepts).2

theorem encoder_sFmt (hsized : EncoderSized inst) (haccepts : Accepts platform inst)
    (f : FmtRequest) :
    EncoderSized (irisSFmt platform count f inst).2 ∧
      (Accepts platform (irisSFmt platform count f inst).2 ↔
        FormatOp.Keeps platform count inst (.sFmt f)) := by
  by_cases hanswer : (irisSFmt platform count f inst).1 = 0
  · have hcall : irisSFmt platform count f inst = irisVencSFmt platform f inst := by
      rw [irisSFmt, hsized.domain]
    simp only [FormatOp.Keeps, hanswer, hsized.drc, forall_const]
    rw [hcall] at hanswer ⊢
    obtain ⟨houtput, hcapture⟩ := irisVencSFmt_accepted hanswer
    cases htype : f.type with
    | output =>
        rw [houtput htype]
        simp only [FmtKeeps, hsized.domain, htype]
        exact encoder_sFmtInput hsized haccepts htype
    | capture =>
        obtain ⟨hsizes, hafter⟩ := hcapture htype
        obtain ⟨codec, hcodec, hencoded⟩ := irisVencSFmtOutput_eq hsizes
        rw [hafter, hencoded]
        simp only [FmtKeeps, hsized.domain, htype]
        obtain ⟨hkept, hiff⟩ := setEncoded_accepts platform hsized hcodec
        exact ⟨hkept, iff_true_intro (hiff.2 (hsized.accepts_iff.1 haccepts).1)⟩
  · rw [irisSFmt_refused hanswer]
    exact ⟨hsized, iff_of_true haccepts fun haccepted => absurd haccepted hanswer⟩

theorem encoder_sSelection (hsized : EncoderSized inst) (haccepts : Accepts platform inst)
    (width height : U32) :
    EncoderSized (irisVencSSelection platform width height inst).2 ∧
      Accepts platform (irisVencSSelection platform width height inst).2 := by
  unfold irisVencSSelection
  split_ifs with hlarge
  · exact ⟨hsized, haccepts⟩
  · have hcropped : EncoderSized
        { inst.setCrop width height with
          formats.dst.width := width
          formats.dst.height := height } :=
      { domain := hsized.domain
        drc := hsized.drc
        codec := hsized.codec
        mode := hsized.mode
        output := hsized.output
        width := rfl
        height := rfl }
    obtain ⟨hkept, hiff⟩ := encoder_resize platform hcropped
    exact ⟨hkept, hiff.2 (hsized.accepts_iff.1 haccepts).1⟩

/-- A control changes what a CAPTURE buffer needs, and nothing else. -/
theorem EncoderSized.control_accepts (hsized : EncoderSized inst) (haccepts : Accepts platform inst)
    (rc : Int) {mode : Int} (hmode : mode ≠ bitrateModeCq) :
    EncoderSized { inst with bitrateMode := mode, frameRc := rc } ∧
      (Accepts platform { inst with bitrateMode := mode, frameRc := rc } ↔
        encodedBytes (inst.dstArea % 2 ^ 32) (3 * inst.dstArea % 2 ^ 32) (decide (rc ≠ 0)) ≤
          inst.formats.dst.sizeimage.toNat) := by
  have hafter : EncoderSized { inst with bitrateMode := mode, frameRc := rc } :=
    { domain := hsized.domain
      drc := hsized.drc
      codec := hsized.codec
      mode := hmode
      output := hsized.output
      width := hsized.width
      height := hsized.height }
  have hcontrolled : FormatInst.RateControlled { inst with bitrateMode := mode, frameRc := rc } =
      decide (rc ≠ 0) := by
    unfold FormatInst.RateControlled
    simp [hmode]
  refine ⟨hafter, ?_⟩
  rw [hafter.accepts_iff, and_iff_right (hsized.accepts_iff.1 haccepts).1, FormatInst.encodedNeed,
    hcontrolled]
  rfl

theorem encoder_sCtrl (hsized : EncoderSized inst) (haccepts : Accepts platform inst)
    (control : SizeControl) (value : Bool) :
    EncoderSized (irisOpSCtrl control value inst).2 ∧
      (Accepts platform (irisOpSCtrl control value inst).2 ↔
        FormatOp.Keeps platform count inst (.sCtrl control value)) := by
  have hneed : encodedBytes (inst.dstArea % 2 ^ 32) (3 * inst.dstArea % 2 ^ 32)
      inst.RateControlled ≤ inst.formats.dst.sizeimage.toNat := (hsized.accepts_iff.1 haccepts).2
  have hcontrolled : inst.RateControlled = decide (inst.frameRc ≠ 0) := by
    unfold FormatInst.RateControlled
    simp [hsized.mode]
  unfold irisOpSCtrl
  by_cases hstreaming : (inst.queue .output).streaming = true
  · rw [if_pos hstreaming]
    refine ⟨hsized, iff_of_true haccepts ?_⟩
    cases control with
    | bitrateMode => trivial
    | frameRc =>
        cases value with
        | true => trivial
        | false => exact fun _ hidle => absurd hstreaming (by rw [hidle]; decide)
  · rw [if_neg hstreaming]
    have hidle : (inst.queue .output).streaming = false := by simpa using hstreaming
    cases control with
    | bitrateMode =>
        have hmode : (if value then 1 else 0) ≠ bitrateModeCq := by cases value <;> decide
        obtain ⟨hkept, hiff⟩ := hsized.control_accepts haccepts inst.frameRc hmode
        exact ⟨hkept, iff_true_intro (hiff.2 (hcontrolled ▸ hneed))⟩
    | frameRc =>
        cases value with
        | true =>
            obtain ⟨hkept, hiff⟩ := hsized.control_accepts haccepts 1 hsized.mode
            exact ⟨hkept, iff_true_intro (hiff.2 ((encodedBytes_mono _ _ _).trans hneed))⟩
        | false =>
            obtain ⟨hkept, hiff⟩ := hsized.control_accepts haccepts 0 hsized.mode
            refine ⟨hkept, hiff.trans ?_⟩
            simp only [FormatOp.Keeps, hsized.domain, hidle, forall_const]
            rfl

/-- **One step of an encoder.** -/
theorem encoder_step (hsized : EncoderSized inst) (haccepts : Accepts platform inst)
    (op : FormatOp) :
    EncoderSized (applyFormat platform count inst op) ∧
      (Accepts platform (applyFormat platform count inst op) ↔ op.Keeps platform count inst) := by
  have hexpects : ∀ gen, inst.expects platform gen = false := by
    intro gen
    simp [FormatInst.expects, hsized.domain]
  have hsame : EncoderSized inst ∧ (Accepts platform inst ↔ True) :=
    ⟨hsized, iff_true_intro haccepts⟩
  have hdecoder : inst.domain ≠ .decoder := by
    rw [hsized.domain]
    decide
  cases op with
  | sFmt f => exact encoder_sFmt hsized haccepts f
  | sSelection width height =>
      simp only [applyFormat, hsized.domain, if_true]
      obtain ⟨hkept, hafter⟩ := encoder_sSelection hsized haccepts width height
      exact ⟨hkept, iff_true_intro hafter⟩
  | sCtrl control value =>
      simp only [applyFormat, hsized.domain, if_true]
      exact encoder_sCtrl hsized haccepts control value
  | reqbufs plane busy =>
      unfold applyFormat
      dsimp only
      split_ifs
      · exact hsame
      · exact ⟨hsized.setQueue _ _, iff_true_intro haccepts⟩
  | streamon plane => exact ⟨hsized.setQueue _ _, iff_true_intro haccepts⟩
  | streamoff plane => exact ⟨hsized.setQueue _ _, iff_true_intro haccepts⟩
  | gen1SeqChanged event armed =>
      simp only [applyFormat, FormatOp.Keeps, hexpects]
      exact ⟨hsized, iff_of_true haccepts fun h => absurd h Bool.false_ne_true⟩
  | gen1Vp9Resize crop =>
      have hshrinks : inst.shrinks platform crop = false := by
        simp [FormatInst.shrinks, hexpects]
      simp only [applyFormat, FormatOp.Keeps, hshrinks]
      exact ⟨hsized, iff_of_true haccepts fun h => absurd h Bool.false_ne_true⟩
  | gen2SrcChange params armed =>
      simp only [applyFormat, FormatOp.Keeps, hexpects]
      exact ⟨hsized, iff_of_true haccepts fun h => absurd h Bool.false_ne_true⟩
  | drcDone =>
      have hidle : applyFormat platform count inst .drcDone = inst := by
        unfold applyFormat
        rw [← hsized.drc]
      rw [hidle]
      exact ⟨hsized, iff_of_true haccepts fun h => absurd h hdecoder⟩

/-! ### Runs -/

/-- What holds of the formats of an instance in every reachable state. -/
def Sized (inst : FormatInst) : Prop := DecoderSized inst ∨ EncoderSized inst

theorem step_accepts (hsized : Sized inst) (haccepts : Accepts platform inst) (op : FormatOp) :
    Sized (applyFormat platform count inst op) ∧
      (Accepts platform (applyFormat platform count inst op) ↔ op.Keeps platform count inst) := by
  rcases hsized with hdecoder | hencoder
  · exact (decoder_step hdecoder haccepts op).imp_left .inl
  · exact (encoder_step hencoder haccepts op).imp_left .inr

theorem opened_sized (platform : Platform) (count : Formats → U32) (domain : Domain) :
    Sized (.opened platform count domain) := by
  cases domain with
  | decoder => exact .inl ⟨rfl, rfl⟩
  | encoder =>
      exact .inr
        { domain := rfl
          drc := rfl
          codec := (by decide : Codec.h264 ≠ .vp9)
          mode := (by decide : 0 ≠ bitrateModeCq)
          output := rfl
          width := rfl
          height := rfl }

theorem opened_accepts (platform : Platform) (count : Formats → U32) (domain : Domain) :
    Accepts platform (.opened platform count domain) := by
  intro plane
  -- no size reads the number of CAPTURE buffers
  have hcount : irisVb2BufPrepare platform (.opened platform (fun _ => 0) domain) plane .none
      ((FormatInst.opened platform (fun _ => 0) domain).format plane).sizeimage = 0 := by
    cases platform <;> cases domain <;> cases plane <;> decide
  cases domain <;> exact hcount

/-- **Negotiated buffers stay acceptable exactly in the runs whose steps keep them so.** -/
theorem negotiated_iff (platform : Platform) (count : Formats → U32) (domain : Domain)
    (ops : List FormatOp) :
    (∀ pre, pre <+: ops →
        Accepts platform (formatsAfter platform count (.opened platform count domain) pre)) ↔
      ∀ pre op, pre ++ [op] <+: ops →
        op.Keeps platform count
          (formatsAfter platform count (.opened platform count domain) pre) := by
  refine @weak_prefixes_iff _ _ (applyFormat platform count) (FormatOp.Keeps platform count) ops
    (fun inst => Sized inst ∧ Accepts platform inst) (Accepts platform) (fun _ h => h.2) ?_ ?_ _
    ⟨opened_sized platform count domain, opened_accepts platform count domain⟩
  · intro inst op _ hinst hkeeps
    obtain ⟨hsized, haccepts⟩ := @step_accepts platform count inst hinst.1 hinst.2 op
    exact ⟨hsized, haccepts.2 hkeeps⟩
  · intro inst op _ hinst hafter
    exact (step_accepts hinst.1 hinst.2 op).2.1 hafter

/-- An encoder whose rate control is switched off after its 1080p format was set, and a decoder
whose first source change announces 8192x4352, refuse buffers of the size that they report. -/
theorem negotiated_refused :
    let uncontrolled : List FormatOp :=
      [.sFmt ⟨.output, .nv12, 1920, 1080⟩, .sCtrl .frameRc false]
    let change : List FormatOp :=
      [.gen2SrcChange
        { bitstreamResolution := 0x20001100, cropOffsets0 := 0, cropOffsets1 := 0
          bitDepth := bitDepth8, codedFrames := 1, fwMinCount := 4, picOrderCnt := 0
          colorInfo := 0, profile := 0, level := 0, tier := 0 } false]
    let encoder := formatsAfter .sm8550 (fun _ => 4) (.opened .sm8550 (fun _ => 4) .encoder)
      uncontrolled
    let decoder := formatsAfter .sm8550 (fun _ => 4) (.opened .sm8550 (fun _ => 4) .decoder) change
    irisVb2BufPrepare .sm8550 encoder .capture .none encoder.formats.dst.sizeimage = -einval ∧
      irisVb2BufPrepare .sm8550 decoder .output .none decoder.formats.src.sizeimage = -einval := by
  decide

end NabuIris.FormatSizes
