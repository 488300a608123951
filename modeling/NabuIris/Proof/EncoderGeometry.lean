import NabuIris.EncoderFormats
import NabuIris.Proof.NegotiatedSizes

/-!
# The geometry of an encoder

Crop rectangle, both formats and the sizes that are kept of them agree after every call. A size is
not computed anew where the new frame has the dimensions of the old crop rectangle, which the
CAPTURE format had already.
-/

namespace NabuIris.EncoderFormats

open FormatSizes

section Formats

variable {platform : Platform} {inst : FormatInst}

/-- The crop rectangle lies in the source format and is what is encoded. -/
structure Cropped (inst : FormatInst) : Prop where
  domain : inst.domain = .encoder
  codec : inst.codec ≠ .vp9
  left : inst.formats.crop.left = 0
  top : inst.formats.crop.top = 0
  cropWidth : inst.formats.crop.width ≤ inst.formats.src.width
  cropHeight : inst.formats.crop.height ≤ inst.formats.src.height
  width : inst.formats.dst.width = inst.formats.crop.width
  height : inst.formats.dst.height = inst.formats.crop.height

structure Shaped (platform : Platform) (inst : FormatInst) : Prop extends Cropped inst where
  capture : inst.formats.dst.sizeimage = irisGetBufferSize platform inst .capture
  output : inst.formats.outputSize = inst.formats.dst.sizeimage

/-- The size of the CAPTURE format is a function of its dimensions and the controls. -/
theorem captureSize_congr {inst inst' : FormatInst} (hdomain : inst.domain = .encoder)
    (hdomain' : inst'.domain = .encoder) (hwidth : inst'.formats.dst.width = inst.formats.dst.width)
    (hheight : inst'.formats.dst.height = inst.formats.dst.height)
    (hmode : inst'.bitrateMode = inst.bitrateMode) (hrc : inst'.frameRc = inst.frameRc) :
    irisGetBufferSize platform inst' .capture = irisGetBufferSize platform inst .capture := by
  unfold irisGetBufferSize
  rw [hdomain, hdomain']
  simp only [irisEncBitstreamBufferSize, hwidth, hheight, hmode, hrc]

/-! ### The CAPTURE queue -/

theorem Cropped.setEncoded (hcropped : Cropped inst) {codec : Codec} (hcodec : codec ≠ .vp9) :
    Shaped platform (inst.setEncoded platform codec) where
  domain := hcropped.domain
  codec := hcodec
  left := hcropped.left
  top := hcropped.top
  cropWidth := hcropped.cropWidth
  cropHeight := hcropped.cropHeight
  width := hcropped.width
  height := hcropped.height
  capture := captureSize_congr hcropped.domain hcropped.domain rfl rfl rfl rfl
  output := rfl

/-- An accepted call sizes the CAPTURE format for the crop rectangle. -/
theorem Cropped.sFmtOutput (hcropped : Cropped inst) {f : FmtRequest}
    (haccepted : (irisVencSFmtOutput platform f inst).1 = 0) :
    Shaped platform (irisVencSFmtOutput platform f inst).2 := by
  obtain ⟨codec, hcodec, hafter⟩ := irisVencSFmtOutput_eq haccepted
  rw [hafter]
  exact hcropped.setEncoded hcodec

/-- The driver asks for the codec that the encoder has. -/
theorem Cropped.resize (hcropped : Cropped inst) :
    Shaped platform (irisVencSFmtOutput platform inst.dstRequest inst).2 :=
  hcropped.sFmtOutput (irisVencSFmtOutput_accepted hcropped.codec)

theorem Shaped.sFmtOutput (hshaped : Shaped platform inst) (f : FmtRequest) :
    Shaped platform (irisVencSFmtOutput platform f inst).2 := by
  by_cases haccepted : (irisVencSFmtOutput platform f inst).1 = 0
  · exact hshaped.toCropped.sFmtOutput haccepted
  · rw [irisVencSFmtOutput_refused haccepted]
    exact hshaped

/-! ### The OUTPUT queue -/

/-- A frame of other dimensions is cropped to its own, and the CAPTURE format sized anew. A frame
of the dimensions of the crop rectangle leaves those of the CAPTURE format, and its size. -/
theorem Shaped.sFmtInput (hshaped : Shaped platform inst) (f : FmtRequest) :
    Shaped platform (FormatSizes.irisVencSFmtInput platform f inst).2 := by
  unfold FormatSizes.irisVencSFmtInput
  generalize irisVencTryFmt inst f = f
  dsimp only
  split_ifs with hformat hother
  · exact hshaped
  · apply Cropped.resize
    exact
      { domain := hshaped.domain
        codec := hshaped.codec
        left := rfl
        top := rfl
        cropWidth := BitVec.le_refl _
        cropHeight := BitVec.le_refl _
        width := rfl
        height := rfl }
  · obtain ⟨hwidth, hheight⟩ := not_or.1 hother
    have hcropWidth := not_not.1 hwidth
    have hcropHeight := not_not.1 hheight
    exact
      { domain := hshaped.domain
        codec := hshaped.codec
        left := hshaped.left
        top := hshaped.top
        cropWidth := BitVec.le_of_eq hcropWidth.symm
        cropHeight := BitVec.le_of_eq hcropHeight.symm
        width := hcropWidth
        height := hcropHeight
        capture := hshaped.capture.trans (captureSize_congr hshaped.domain hshaped.domain
          (hshaped.width.trans hcropWidth.symm) (hshaped.height.trans hcropHeight.symm) rfl rfl)
        output := hshaped.output }

theorem Shaped.sFmt (hshaped : Shaped platform inst) (f : FmtRequest) :
    Shaped platform (FormatSizes.irisVencSFmt platform f inst).2 := by
  unfold FormatSizes.irisVencSFmt
  by_cases hbusy : (inst.queue f.type).busy = true
  · rw [if_pos hbusy]
    exact hshaped
  · rw [if_neg hbusy]
    cases f.type with
    | output => exact hshaped.sFmtInput f
    | capture => exact hshaped.sFmtOutput f

/-! ### The crop rectangle -/

theorem Shaped.sSelection (hshaped : Shaped platform inst) (width height : U32) :
    Shaped platform (FormatSizes.irisVencSSelection platform width height inst).2 := by
  unfold FormatSizes.irisVencSSelection
  split_ifs with hlarge
  · exact hshaped
  · obtain ⟨hwidth, hheight⟩ := not_or.1 hlarge
    apply Cropped.resize
    exact
      { domain := hshaped.domain
        codec := hshaped.codec
        left := rfl
        top := rfl
        cropWidth := BitVec.not_lt.1 hwidth
        cropHeight := BitVec.not_lt.1 hheight
        width := rfl
        height := rfl }

theorem irisVencSSelection_src (width height : U32) :
    (FormatSizes.irisVencSSelection platform width height inst).2.formats.src =
      inst.formats.src := by
  unfold FormatSizes.irisVencSSelection
  split_ifs
  · rfl
  · exact irisVencSFmtOutput_src _

end Formats

/-! ### The size that is kept of the OUTPUT queue -/

variable {platform : Platform} {inst : EncoderInst}

structure Geometry (platform : Platform) (inst : EncoderInst) : Prop
    extends Shaped platform inst.toFormatInst where
  input : inst.inputSize = inst.formats.src.sizeimage

theorem inputSize_sFmt (hinput : inst.inputSize = inst.formats.src.sizeimage) (f : FmtRequest) :
    (irisVencSFmt platform f inst).2.inputSize =
      (irisVencSFmt platform f inst).2.formats.src.sizeimage := by
  unfold irisVencSFmt
  by_cases hbusy : (inst.queue f.type).busy = true
  · rw [if_pos hbusy]
    exact hinput
  · rw [if_neg hbusy]
    cases f.type with
    | capture =>
        refine hinput.trans (congrArg PixFormat.sizeimage ?_)
        exact (irisVencSFmtOutput_src f).symm
    | output =>
        unfold irisVencSFmtInput
        generalize irisVencTryFmt inst.toFormatInst f = f
        dsimp only
        split_ifs
        · exact hinput
        · let cropped := (inst.setFrame platform f.width f.height).setCrop f.width f.height
          have hsrc : (irisVencSFmtOutput platform cropped.dstRequest cropped).2.formats.src =
              cropped.formats.src := irisVencSFmtOutput_src _
          exact (congrArg PixFormat.sizeimage hsrc).symm
        · rfl

theorem Geometry.sFmt (hgeometry : Geometry platform inst) (f : FmtRequest) :
    Geometry platform (irisVencSFmt platform f inst).2 := by
  have hshaped : Shaped platform (irisVencSFmt platform f inst).2.toFormatInst := by
    have hafter := hgeometry.toShaped.sFmt f
    rwa [irisVencSFmt_toFormatInst] at hafter
  exact { toShaped := hshaped, input := inputSize_sFmt hgeometry.input f }

theorem Geometry.sSelection (hgeometry : Geometry platform inst) (s : SelectionRequest) :
    Geometry platform (irisVencSSelection platform s inst).2 := by
  unfold irisVencSSelection
  by_cases htype : s.type ≠ .output
  · rw [if_pos htype]
    exact hgeometry
  · rw [if_neg htype]
    cases s.target with
    | other => exact hgeometry
    | crop =>
        refine { toShaped := hgeometry.toShaped.sSelection s.r.width s.r.height, input := ?_ }
        refine hgeometry.input.trans (congrArg PixFormat.sizeimage ?_)
        exact (irisVencSSelection_src s.r.width s.r.height).symm

/-! ### Runs -/

theorem Geometry.apply (hgeometry : Geometry platform inst) (call : EncoderCall) :
    Geometry platform (applyCall platform inst call) := by
  cases call with
  | sFmt f => exact hgeometry.sFmt f
  | sSelection s => exact hgeometry.sSelection s
  | queues queue =>
      exact
        { domain := hgeometry.domain
          codec := hgeometry.codec
          left := hgeometry.left
          top := hgeometry.top
          cropWidth := hgeometry.cropWidth
          cropHeight := hgeometry.cropHeight
          width := hgeometry.width
          height := hgeometry.height
          capture := hgeometry.capture
          output := hgeometry.output
          input := hgeometry.input }

/-- A frame of the default size needs the same buffers under any rate control. -/
theorem default_captureSize {inst : FormatInst} (hwidth : inst.formats.dst.width = defaultWidth)
    (hheight : inst.formats.dst.height = defaultHeight) :
    irisEncBitstreamBufferSize inst = 320 * 256 * 3 := by
  have hlarge : ¬4096 * 2176 < align defaultWidth 32 * align defaultHeight 32 := by decide
  have hmiddle : ¬1280 * 720 < align defaultWidth 32 * align defaultHeight 32 := by decide
  have hdoubled : ¬align defaultWidth 32 * align defaultHeight 32 * 3 <
      (align defaultWidth 32 * align defaultHeight 32 * 3) >>> 1 := by decide
  simp only [irisEncBitstreamBufferSize, hwidth, hheight, if_neg hlarge, if_neg hmiddle]
  rw [if_neg fun hboth => hdoubled hboth.2]
  decide

theorem opened_geometry (platform : Platform) (count : Formats → U32) (bitrateMode frameRc : Int) :
    Geometry platform (.opened platform count bitrateMode frameRc) where
  domain := rfl
  codec := fun h => Codec.noConfusion h
  left := rfl
  top := rfl
  cropWidth := BitVec.le_refl _
  cropHeight := BitVec.le_refl _
  width := rfl
  height := rfl
  input := rfl
  capture := (default_captureSize rfl rfl).trans (default_captureSize rfl rfl).symm
  output := rfl

/-- What the formats of an encoder say of one another. -/
structure EncoderInst.Consistent (platform : Platform) (inst : EncoderInst) : Prop where
  inside : inst.formats.crop.left.toNat + inst.formats.crop.width.toNat ≤
      inst.formats.src.width.toNat ∧
    inst.formats.crop.top.toNat + inst.formats.crop.height.toNat ≤ inst.formats.src.height.toNat
  width : inst.formats.dst.width = inst.formats.crop.width
  height : inst.formats.dst.height = inst.formats.crop.height
  capture : inst.formats.dst.sizeimage = irisGetBufferSize platform inst.toFormatInst .capture
  inputSize : inst.inputSize = inst.formats.src.sizeimage
  outputSize : inst.formats.outputSize = inst.formats.dst.sizeimage

theorem Geometry.consistent (hgeometry : Geometry platform inst) : inst.Consistent platform where
  inside := by
    have hwidth := BitVec.le_def.1 hgeometry.cropWidth
    have hheight := BitVec.le_def.1 hgeometry.cropHeight
    rw [hgeometry.left, hgeometry.top]
    exact ⟨(Nat.zero_add _).trans_le hwidth, (Nat.zero_add _).trans_le hheight⟩
  width := hgeometry.width
  height := hgeometry.height
  capture := hgeometry.capture
  inputSize := hgeometry.input
  outputSize := hgeometry.output

/-- **The geometry of an encoder** is consistent after any calls, refused ones among them. -/
theorem encoder_geometry (platform : Platform) (count : Formats → U32) (bitrateMode frameRc : Int)
    (calls : List EncoderCall) :
    (callsAfter platform (.opened platform count bitrateMode frameRc) calls).Consistent
      platform := by
  have hgeometry : Geometry platform
      (callsAfter platform (.opened platform count bitrateMode frameRc) calls) :=
    List.foldlRecOn calls (applyCall platform) (opened_geometry platform count bitrateMode frameRc)
      fun _ hbefore call _ => hbefore.apply call
  exact hgeometry.consistent

end NabuIris.EncoderFormats
