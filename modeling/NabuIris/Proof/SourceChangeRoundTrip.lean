import Mathlib.Data.BitVec
import NabuIris.Lib.Halves
import NabuIris.Proof.Queues
import NabuIris.SourceChange

/-!
# A source change without properties

The second generation packs the formats of an instance into its subscription parameters and reads
them back. Width, height and crop size survive, but the crop origin is subtracted twice and the
colour description loses the flags that say that it is there.
-/

namespace NabuIris

open Lib

/-- The formats that a source change negotiates are the same. -/
structure SameGeometry (s t : Formats) : Prop where
  width : t.src.width = s.src.width
  height : t.src.height = s.src.height
  crop : t.crop = s.crop
  srcColor : t.src.color = s.src.color
  dstColor : t.dst.color = s.dst.color

/-- The frame fits the packed resolution and holds the crop rectangle. -/
structure Packable (formats : Formats) : Prop where
  width : formats.src.width < 0x10000
  height : formats.src.height < 0x10000
  horizontal : formats.crop.left.toNat + formats.crop.width.toNat ≤ formats.src.width.toNat
  vertical : formats.crop.top.toNat + formats.crop.height.toNat ≤ formats.src.height.toNat

/-- The crop rectangle starts at the origin, and no colour is described. -/
structure AtOrigin (formats : Formats) : Prop where
  left : formats.crop.left = 0
  top : formats.crop.top = 0
  srcColor : formats.src.color = .default
  dstColor : formats.dst.color = .default

theorem lt_half_of_le {a b : U32} (hle : a.toNat ≤ b.toNat) (hb : b < 0x10000) : a < 0x10000 := by
  rw [BitVec.lt_def] at hb ⊢
  exact lt_of_le_of_lt hle hb

theorem sub_lt_half {a b : U32} (hle : b.toNat ≤ a.toNat) (ha : a < 0x10000) :
    a - b < 0x10000 := by
  refine lt_half_of_le ?_ ha
  rw [BitVec.toNat_sub_of_le hle]
  exact Nat.sub_le _ _

/-- A colour word without the two flags describes nothing. -/
theorem describedColor_unflagged (matrixCoeff transferChar primaries fullRange videoFormat : U32) :
    describedColor (irisHfiGen2GetColorInfo matrixCoeff transferChar primaries 0 fullRange
      videoFormat 0) = .default := by
  have hflag : irisHfiGen2GetColorInfo matrixCoeff transferChar primaries 0 fullRange
      videoFormat 0 &&& 0x20000000 = 0 := by
    unfold irisHfiGen2GetColorInfo
    simp only [BitVec.and_or_distrib_right, BitVec.and_assoc]
    simp
  unfold describedColor
  simp only [hflag]
  rfl

/-- What is read back of what was packed. -/
theorem subscribedFormats_init (rules : OutputRules) {dec : Gen2Decoder}
    (hpack : Packable dec.formats) (formats : Formats) :
    let read := subscribedFormats rules (irisHfiGen2InitSrcChangeParam dec).params formats
    read.src.width = dec.formats.src.width ∧ read.src.height = dec.formats.src.height ∧
      read.crop =
        { left := dec.formats.crop.left
          top := dec.formats.crop.top
          width := dec.formats.crop.width - dec.formats.crop.left
          height := dec.formats.crop.height - dec.formats.crop.top } ∧
      read.src.color = .default ∧ read.dst.color = .default := by
  obtain ⟨hwidth, hheight, hhorizontal, hvertical⟩ := hpack
  have hleft : dec.formats.crop.left < 0x10000 :=
    lt_half_of_le (le_trans (Nat.le_add_right _ _) hhorizontal) hwidth
  have htop : dec.formats.crop.top < 0x10000 :=
    lt_half_of_le (le_trans (Nat.le_add_right _ _) hvertical) hheight
  have hright : dec.formats.src.width - dec.formats.crop.width < 0x10000 :=
    sub_lt_half (le_trans (Nat.le_add_left _ _) hhorizontal) hwidth
  have hbottom : dec.formats.src.height - dec.formats.crop.height < 0x10000 :=
    sub_lt_half (le_trans (Nat.le_add_left _ _) hvertical) hheight
  have hpacked : ∀ high low : U32, high <<< 16 ||| low = halves high low := fun _ _ => rfl
  simp only [subscribedFormats, Formats.setOutput, irisHfiGen2InitSrcChangeParam,
    describedColor_unflagged, hpacked, halves_and_low hheight, halves_and_high hwidth hheight,
    halves_and_low htop, halves_shift_low hleft htop, halves_and_low hbottom,
    halves_shift_low hright hbottom, sub_sub_cancel, and_self]

/-- The sub-state of a source change is accepted in the state that the message's flags leave. -/
def Gen2Decoder.AcceptsDrc (sessionError : Bool) (dec : Gen2Decoder) : Prop :=
  (irisInstSubStateChangeDrc (dec.inst.applyIf sessionError Inst.enterError)).1 = 0

theorem settingsChange_formats (rules : OutputRules) (sessionError : Bool) (dec : Gen2Decoder) :
    (dec.AcceptsDrc sessionError →
      (handleSrcChangeMessage rules sessionError [.settingsChange true] dec).formats =
        subscribedFormats rules (irisHfiGen2InitSrcChangeParam dec).params dec.formats) ∧
      (¬dec.AcceptsDrc sessionError →
        (handleSrcChangeMessage rules sessionError [.settingsChange true] dec).formats =
          dec.formats) := by
  unfold Gen2Decoder.AcceptsDrc
  have hmessage : handleSrcChangeMessage rules sessionError [.settingsChange true] dec =
      SrcChangePacket.handleCommand rules (.settingsChange true)
        { irisHfiGen2InitSrcChangeParam dec with
          inst := dec.inst.applyIf sessionError Inst.enterError } := by
    simp [handleSrcChangeMessage, SrcChangePacket.handleProperty, irisHfiGen2InitSrcChangeParam]
  rw [hmessage]
  simp only [SrcChangePacket.handleCommand, handleSrcChange]
  constructor
  · intro haccepts
    rw [if_neg (not_not.2 haccepts)]
    rfl
  · intro hrefuses
    rw [if_pos hrefuses]
    rfl

/-- **A source change without properties** leaves the negotiated formats alone exactly when its
sub-state is refused, or the crop rectangle starts at the origin and no colour is described. -/
theorem settings_change_unchanged_iff (rules : OutputRules) (sessionError : Bool)
    {dec : Gen2Decoder} (hpack : Packable dec.formats) :
    SameGeometry dec.formats
        (handleSrcChangeMessage rules sessionError [.settingsChange true] dec).formats ↔
      ¬dec.AcceptsDrc sessionError ∨ AtOrigin dec.formats := by
  obtain ⟨haccepted, hrefused⟩ := settingsChange_formats rules sessionError dec
  by_cases haccepts : dec.AcceptsDrc sessionError
  · rw [haccepted haccepts]
    obtain ⟨hwidth, hheight, hcrop, hsrc, hdst⟩ := subscribedFormats_init rules hpack dec.formats
    constructor
    · intro hsame
      have hcrops := hsame.crop
      rw [hcrop] at hcrops
      refine .inr ⟨?_, ?_, hsame.srcColor.symm.trans hsrc, hsame.dstColor.symm.trans hdst⟩
      · have hsize : dec.formats.crop.width - dec.formats.crop.left = dec.formats.crop.width :=
          congrArg Rect.width hcrops
        exact sub_eq_self.1 hsize
      · have hsize : dec.formats.crop.height - dec.formats.crop.top = dec.formats.crop.height :=
          congrArg Rect.height hcrops
        exact sub_eq_self.1 hsize
    · rintro (hnot | horigin)
      · exact absurd haccepts hnot
      · refine ⟨hwidth, hheight, ?_, hsrc.trans horigin.srcColor.symm,
          hdst.trans horigin.dstColor.symm⟩
        rw [hcrop]
        apply Rect.ext
        · rfl
        · rfl
        · simp only [horigin.left, sub_zero]
        · simp only [horigin.top, sub_zero]
  · rw [hrefused haccepts]
    exact ⟨fun _ => .inl haccepts, fun _ => ⟨rfl, rfl, rfl, rfl, rfl⟩⟩

def fixedRules : OutputRules := { size := fun _ => 3133440, count := fun _ => 4 }

/-- The parameters of a source change to `width` by `height`. -/
def changedParams (width height cropOffsets0 cropOffsets1 colorInfo : U32) : SubscriptionParams :=
  { bitstreamResolution := halves width height
    cropOffsets0
    cropOffsets1
    bitDepth := bitDepth8
    codedFrames := hfiBitmaskFrameMbsOnlyFlag
    fwMinCount := 4
    picOrderCnt := 0
    colorInfo
    profile := 0
    level := 0
    tier := 0 }

def smallFormats : Formats :=
  let format : PixFormat :=
    { width := 320, height := 240, bytesperline := 0, sizeimage := 0, color := .default }
  { src := format
    dst := format
    rawFormat := .nv12
    crop := { left := 0, top := 0, width := 320, height := 240 }
    fwMinCount := 4
    outputMinCount := 4
    outputSize := 0
    captureFormatChanged := false
    interlaced := false }

/-- A streaming decoder after an earlier source change. -/
def changedDecoder (params : SubscriptionParams) : Gen2Decoder :=
  { inst := { openedDecoder .gen2 .h264 false with state := .streaming }
    formats := subscribedFormats fixedRules params smallFormats
    params
    fwCaps := fun cap => if cap = .bitDepth then bitDepth8 else 0 }

/-- A 1920x1080 stream without a colour description. -/
theorem settings_change_keeps_1080p :
    SameGeometry (changedDecoder (changedParams 1920 1088 0 8 0)).formats
      (handleSrcChangeMessage fixedRules false [.settingsChange true]
        (changedDecoder (changedParams 1920 1088 0 8 0))).formats :=
  (settings_change_unchanged_iff fixedRules false ⟨by decide, by decide, by decide, by decide⟩).2
    (.inr ⟨by decide, by decide, by decide, by decide⟩)

/-- A BT.709 stream whose visible rectangle starts 8 pixels from the left. -/
def croppedParams : SubscriptionParams :=
  changedParams 1920 1088 (halves 8 0) (halves 8 8) 0x21010101

theorem settings_change_shrinks_crop :
    Packable (changedDecoder croppedParams).formats ∧
      (changedDecoder croppedParams).formats.crop =
        { left := 8, top := 0, width := 1904, height := 1080 } ∧
      (changedDecoder croppedParams).formats.src.color.colorspace = 3 ∧
      ¬SameGeometry (changedDecoder croppedParams).formats
        (handleSrcChangeMessage fixedRules false [.settingsChange true]
          (changedDecoder croppedParams)).formats := by
  refine ⟨⟨by decide, by decide, by decide, by decide⟩, by decide, by decide, fun hsame => ?_⟩
  have hcrop := hsame.crop
  exact absurd hcrop (by decide)

end NabuIris
