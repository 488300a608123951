import NabuIris.Proof.FormatExactness
import NabuIris.VpuBuffers

/-!
# Internal buffers have their exact sizes

Up to 8192 pixels in both directions and 138240 macroblocks, no operation of a size formula leaves
32 bits, and no size reaches the sign bit of an `int`. Most bounds follow from the sides alone; the
products that grow with the area are bounded by the macroblocks.
-/

namespace NabuIris.VpuBuffers

open Lib Lib.SizeArith FormatSizes

variable {x w h p : U32} {n a W H P : Nat} {ok : Bool}

theorem alignDma_checked (hx : Checked x n a ok) :
    Checked (alignDma x) (alignDma n) (alignUp (2 ^ 8) a)
      (ok && decide (8 < 32 ∧ alignUp (2 ^ 8) a < 2 ^ 32)) :=
  hx.alignTo 8

theorem align4K_checked (hx : Checked x n a ok) :
    Checked (align4K x) (align4K n) (alignUp (2 ^ 12) a)
      (ok && decide (12 < 32 ∧ alignUp (2 ^ 12) a < 2 ^ 32)) :=
  hx.alignTo 12

theorem capCmd_checked (hx : Checked x n a ok) :
    Checked (capCmd x) (capCmd n) (max vppCmdMaxSize a) ok := by
  refine ⟨fun hok => ?_⟩
  have hcap : Within (ofNat vppCmdMaxSize : U32) (ofNat vppCmdMaxSize) vppCmdMaxSize :=
    .ofNat vppCmdMaxSize (by decide)
  exact .ite (hcap.lt_eq (hx.within_of hok)) hcap (hx.within_of hok)

/-! ### Bins -/

/-- The padded frame, from its macroblocks. -/
theorem alignUp_16_mul (hmbs : frameMbs W H ≤ 138240) :
    alignUp (2 ^ 4) W * alignUp (2 ^ 4) H ≤ 138240 * 256 := by
  calc alignUp (2 ^ 4) W * alignUp (2 ^ 4) H
      = (W + 15) / 16 * 16 * ((H + 15) / 16 * 16) := rfl
    _ = (H + 15) / 16 * ((W + 15) / 16) * 256 := by ring
    _ ≤ 138240 * 256 := Nat.mul_le_mul_right 256 hmbs

theorem area_within (hw : Within w W 8192) (hh : Within h H 8192)
    (hmbs : frameMbs W H ≤ 138240) :
    Within (mul (alignTo w 4) (alignTo h 4)) (mul (alignTo W 4) (alignTo H 4)) (138240 * 256) :=
  ((hw.checked.alignTo 4).mulOf (hh.checked.alignTo 4) (alignUp_16_mul hmbs)).within (by decide)

/-- One of the two parts of a bin, spread over the pipes. -/
theorem binPart_within {ratio : Nat} (hratio : ratio ≤ 3) (hx : Within x n 53084160)
    (hp : Within p P 4) :
    Within (mul (alignDma (div (mul x (ofNat ratio)) p)) p)
      (mul (alignDma (div (mul n (ofNat ratio)) P)) P) 637009920 := by
  have hratio' : Within (ofNat ratio : U32) (ofNat ratio) 3 :=
    (Within.ofNat ratio (by omega)).mono hratio
  have hpart := alignDma_checked ((hx.checked.mul hratio'.checked).div hp.checked)
  exact (hpart.mul hp.checked).within (by decide)

theorem sizeHwBinBuffer_within {hdrRatio resRatio : Nat} (hhdr : hdrRatio ≤ 3) (hres : resRatio ≤ 3)
    (hw : Within w W 8192) (hh : Within h H 8192) (hmbs : frameMbs W H ≤ 138240)
    (hp : Within p P 4) :
    Within (sizeHwBinBuffer hdrRatio resRatio (alignTo w 4) (alignTo h 4) p)
      (sizeHwBinBuffer hdrRatio resRatio (alignTo W 4) (alignTo H 4) P) 1274019840 := by
  have harea := area_within hw hh hmbs
  have hlarge := ((harea.checked.mul (.ofNat 3)).shiftRight 1).within (b := 53084160) (by decide)
  have hsmall := (Within.ofNat (w := 32) (binBufferThreshold * 3 / 2) (by decide)).mono
    (b := 53084160) (by decide)
  have hyuv := Within.ite ((Within.ofNat binBufferThreshold (by decide)).lt_eq harea) hlarge hsmall
  have hhdrPart := binPart_within hhdr hyuv hp
  have hresPart := binPart_within hres hyuv hp
  exact (hhdrPart.checked.add hresPart.checked).within (by decide)

theorem hfiBufferBinVp9d_within (hw : Within w W 8192) (hh : Within h H 8192)
    (hmbs : frameMbs W H ≤ 138240) (hp : Within p P 4) :
    Within (hfiBufferBinVp9d w h p) (hfiBufferBinVp9d W H P) 1274019840 := by
  have hyuv := (((area_within hw hh hmbs).checked.mul (.ofNat 3)).divBy 2).larger
    (.ofNat (binBufferThreshold * 3 / 2))
  have hhdr := alignDma_checked ((((hyuv.mul (.ofNat 1)).divBy 2).mul (.ofNat 2)).div hp.checked)
  have hres := alignDma_checked ((((hyuv.mul (.ofNat 3)).divBy 2).mul (.ofNat 2)).div hp.checked)
  exact ((hhdr.add hres).mul hp.checked).within (by decide)

/-! ### Motion vectors -/

/-- A pair of lines has at most 128 bytes a macroblock. -/
theorem colArea_le {k : Nat} (hwide : W ≤ 512) (hmbs : W * H ≤ 138240) (hk : k ≤ 7) :
    alignUp (2 ^ 4) (W * 2 ^ k) * ((H + 1) / 2 ^ 1) ≤ 8880128 := by
  have hpow : 2 ^ k ≤ 128 := Nat.pow_le_pow_right (by decide) hk
  have hline : alignUp (2 ^ 4) (W * 2 ^ k) ≤ W * 128 :=
    (alignUp_le_iff (by decide) ((by decide : 2 ^ 4 ∣ 128).mul_left W)).2
      (Nat.mul_le_mul_left W hpow)
  calc alignUp (2 ^ 4) (W * 2 ^ k) * ((H + 1) / 2 ^ 1)
      ≤ W * 128 * ((H + 1) / 2) := Nat.mul_le_mul_right _ hline
    _ = W * (64 * ((H + 1) / 2 * 2)) := by ring
    _ ≤ W * (64 * (H + 1)) :=
        Nat.mul_le_mul_left W (Nat.mul_le_mul_left 64 (Nat.div_mul_le_self _ 2))
    _ = 64 * (W * H + W) := by ring
    _ ≤ 8880128 := by omega

theorem sizeCol_within {k : Nat} (hw : Within w W 512) (hh : Within h H 512)
    (hmbs : W * H ≤ 138240) (hk : k ≤ 7) :
    Within (sizeCol w h k) (sizeCol W H k) 17760256 := by
  have hpow : 2 ^ k ≤ 128 := Nat.pow_le_pow_right (by decide) hk
  have hwide : Within (shiftLeft w k) (shiftLeft W k) 65536 :=
    (hw.shiftLeft k (by omega)).mono (by omega)
  have hpair := (hh.checked.add (.ofNat 1)).shiftRight 1
  have harea := (hwide.checked.alignTo 4).mulOf hpair (colArea_le hw.le hmbs hk)
  exact (((harea.alignTo 6).shiftLeft 1).alignTo 9).within (by decide)

theorem divRoundUp_16_within (hw : Within w W 8192) :
    Within (divRoundUp w 16) (divRoundUp W 16) 512 :=
  (hw.checked.divRoundUp 16).within (by decide)

theorem mbs_le (hmbs : frameMbs W H ≤ 138240) :
    (divRoundUp W 16 : Nat) * divRoundUp H 16 ≤ 138240 :=
  (Nat.mul_comm _ _).trans_le hmbs

theorem hfiBufferComvH264d_within (hw : Within w W 8192) (hh : Within h H 8192)
    (hmbs : frameMbs W H ≤ 138240) :
    Within (hfiBufferComvH264d w h (ofNat videoMaxFrame))
      (hfiBufferComvH264d W H (ofNat videoMaxFrame)) 1136673280 := by
  have hwide := divRoundUp_16_within hw
  have hhigh := divRoundUp_16_within hh
  have hcolloc := (sizeCol_within (k := 7) hwide hhigh (mbs_le hmbs) (by decide)).checked
  have hzero := (sizeCol_within (k := 2) hwide hhigh (mbs_le hmbs) (by decide)).checked
  have hframe := hcolloc.add (hzero.add (.ofNat 512))
  exact ((hframe.mul (.ofNat videoMaxFrame)).add (.ofNat 512)).within (by decide)

theorem hfiBufferComvH265d_within (hw : Within w W 8192) (hh : Within h H 8192)
    (hmbs : frameMbs W H ≤ 138240) :
    Within (hfiBufferComvH265d w h (ofNat videoMaxFrame))
      (hfiBufferComvH265d W H (ofNat videoMaxFrame)) 1136673280 := by
  have hwide := (hw.checked.add (.ofNat 15)).shiftRight 4
  have hhigh := (hh.checked.add (.ofNat 15)).shiftRight 4
  have hframe := ((hwide.mulOf hhigh (mbs_le hmbs)).shiftLeft 8).alignTo 9
  exact ((hframe.mul (.ofNat videoMaxFrame)).add (.ofNat 512)).within (by decide)

/-! ### Commands -/

theorem sizeH264dCmdBuf_within (sizePerBuf : Nat) (hh : Within h H 8192)
    (hfits : h264dMaxSlice * sizePerBuf < 2 ^ 32) :
    Within (sizeH264dCmdBuf sizePerBuf h) (sizeH264dCmdBuf sizePerBuf H)
      (h264dMaxSlice * sizePerBuf) := by
  have hslices : Within _ _ h264dMaxSlice :=
    ((((hh.checked.alignTo 5).divRoundUp 16).mul (.ofNat 48)).smaller
      (.ofNat h264dMaxSlice)).within (by decide)
  have hsize : sizePerBuf < 2 ^ 32 := by
    have hle : sizePerBuf ≤ h264dMaxSlice * sizePerBuf := Nat.le_mul_of_pos_left _ (by decide)
    exact hle.trans_lt hfits
  exact hslices.mul (.ofNat sizePerBuf hsize) hfits

theorem hfiBufferNonComvH264d_within (hh : Within h H 8192) :
    Within (hfiBufferNonComvH264d h) (hfiBufferNonComvH264d H) (2 ^ 24) := by
  have hbse := alignDma_checked (sizeH264dCmdBuf_within 128 hh (by decide)).checked
  have hvpp := alignDma_checked
    (capCmd_checked (sizeH264dCmdBuf_within 512 hh (by decide)).checked)
  have hpic := alignDma_checked (.ofNat (numHwPicBuf * 2 ^ 11))
  exact (alignDma_checked ((hbse.add hvpp).add hpic)).within (by decide)

theorem numLcus_within (hx : Within x n 8192) : Within (numLcus x) (numLcus n) 512 :=
  ((hx.checked.alignTo 6).divBy 16).within (by decide)

theorem h265dSlices_within (hw : Within w W 8192) (hh : Within h H 8192) :
    Within (h265dSlices w h) (h265dSlices W H) (h265dMaxSlice + 1) := by
  have hlcus := (numLcus_within hw).checked.mul (numLcus_within hh).checked
  have hslices := alignDma_checked (hlcus.mul (.ofNat numHwPicBuf))
  exact (hslices.smaller (.ofNat (h265dMaxSlice + 1))).within (by decide)

theorem hfiBufferNonComvH265d_within (hw : Within w W 8192) (hh : Within h H 8192) :
    Within (hfiBufferNonComvH265d w h) (hfiBufferNonComvH265d W H) (2 ^ 24) := by
  have hslices := (h265dSlices_within hw hh).checked
  have hbse := alignDma_checked (((Checked.ofNat 2).mul hslices).mul (.ofNat 64))
  have hvpp := alignDma_checked
    (capCmd_checked (((Checked.ofNat 2).mul (hslices.alignTo 2)).mul (.ofNat 256)))
  have hlcus := alignDma_checked
    (((Checked.ofNat 4).mul (numLcus_within hw).checked).mul (numLcus_within hh).checked)
  have hsei := alignDma_checked (.ofNat (numHwPicBuf * 20 * 22 * 4))
  have hpic := alignDma_checked (.ofNat (numHwPicBuf * 2 ^ 11))
  have hsize := ((((hbse.add hvpp).add hsei).add hlcus).add hpic).add
    (.ofNat hdr10HistExtradataSize)
  exact (alignDma_checked hsize).within (by decide)

/-! ### Lines -/

theorem sizeVpssLb_within (hw : Within w W 8192) (hh : Within h H 8192) :
    Within (sizeVpssLb w h) (sizeVpssLb W H) (2 ^ 21) := by
  have hluma := (alignDma_checked (((hw.checked.alignTo 5).divBy 32).mul (.ofNat 256))).add
    (.ofNat ((maxTileColumns - 1) * 256))
  have hside := (Checked.ofNat 32).mul (hh.checked.alignTo 3)
  have hllb := (((hh.checked.alignTo 3).divBy 2).mul (.ofNat 64)).alignTo 5
  have hmax := hluma.larger hside
  exact (((hmax.add hmax).add hllb).add hllb).within (by decide)

theorem opb_within (isOpb : Bool) (hw : Within w W 8192) (hh : Within h H 8192) :
    Within (if isOpb then sizeVpssLb w h else ofNat 0)
      (if isOpb then sizeVpssLb W H else ofNat 0) (2 ^ 21) :=
  (Within.ite rfl (sizeVpssLb_within hw hh) (.ofNat 0 (by decide))).mono (by decide)

theorem sizeH264dQp_within (hw : Within w W 8192) (hh : Within h H 8192) :
    Within (sizeH264dQp w h) (sizeH264dQp W H) (2 ^ 21) :=
  (((hw.checked.divRoundUp 64).mul (hh.checked.divRoundUp 64)).mul (.ofNat 128)).within (by decide)

theorem hfiBufferLineH264d_within (isOpb : Bool) (hw : Within w W 8192) (hh : Within h H 8192)
    (hp : Within p P 4) :
    Within (hfiBufferLineH264d w h isOpb p) (hfiBufferLineH264d W H isOpb P) (2 ^ 27) := by
  have hwide := (divRoundUp_16_within hw).checked
  have hhigh := (divRoundUp_16_within hh).checked
  have hfeTop := alignDma_checked
    (((Checked.ofNat 640).mul (hw.checked.alignTo 4)).mul (.ofNat 3))
  have hfeCtrl := alignDma_checked ((Checked.ofNat 64).mul hwide)
  have hfeLeft := (alignDma_checked ((Checked.ofNat 64).mul hhigh)).mul hp.checked
  have hseTop := alignDma_checked ((Checked.ofNat 16).mul hwide)
  have hseLeft := (alignDma_checked ((Checked.ofNat 16).mul hhigh)).mul hp.checked
  have hpeTop := alignDma_checked ((Checked.ofNat 384).mul hwide)
  have hvsp := alignDma_checked (hwide.shiftLeft 7)
  have hrecon := (alignDma_checked ((hh.checked.alignTo 4).mul (.ofNat 32))).mul (.ofNat 2)
  have hqp := alignDma_checked (sizeH264dQp_within hw hh).checked
  have hsize := alignDma_checked ((((((((hfeTop.add hfeCtrl).add hfeLeft).add hseTop).add
    hseLeft).add hpeTop).add hvsp).add hrecon).add hqp)
  exact (alignDma_checked (hsize.add (opb_within isOpb hw hh).checked)).within (by decide)

theorem hfiBufferLineH265d_within (isOpb : Bool) (hw : Within w W 8192) (hh : Within h H 8192)
    (hp : Within p P 4) :
    Within (hfiBufferLineH265d w h isOpb p) (hfiBufferLineH265d W H isOpb P) (2 ^ 27) := by
  have hfeTop := alignDma_checked
    (((Checked.ofNat 640).mul ((hw.checked.alignTo 6).add (.ofNat 8))).mul (.ofNat 2))
  have hfeCtrl := alignDma_checked ((Checked.ofNat 64).mul (numLcus_within hw).checked)
  have hfeLeft := (alignDma_checked
    ((Checked.ofNat 64).mul (numLcus_within hh).checked)).mul hp.checked
  have hseLeft := (alignDma_checked
    ((((hh.checked.add (.ofNat 15)).divBy 8).mul (.ofNat 16)).larger
      ((((hh.checked.add (.ofNat 31)).divBy 8).mul (.ofNat 16)).larger
        (((hh.checked.add (.ofNat 63)).divBy 8).mul (.ofNat 16))))).mul hp.checked
  have hseTop := alignDma_checked
    ((Checked.ofNat 128).mul ((hw.checked.add (.ofNat 15)).shiftRight 4))
  have hpeTop := alignDma_checked ((Checked.ofNat 384).mul ((hw.checked.alignTo 4).divBy 16))
  have hvspTop := alignDma_checked
    (((hw.checked.add (.ofNat 63)).shiftRight 6).mul (.ofNat 128))
  have hvspLeft := (alignDma_checked
    (((hh.checked.add (.ofNat 63)).shiftRight 6).mul (.ofNat 128))).mul hp.checked
  have hrecon := (alignDma_checked ((hh.checked.alignTo 4).mul (.ofNat 32))).mul (.ofNat 4)
  have hqp := alignDma_checked (sizeH264dQp_within hw hh).checked
  have hsize := ((((((((hfeTop.add hfeCtrl).add hfeLeft).add hseLeft).add hseTop).add
    hpeTop).add hvspTop).add hvspLeft).add hrecon).add hqp
  exact (alignDma_checked (hsize.add (opb_within isOpb hw hh).checked)).within (by decide)

theorem sizeVpxdLbLeftCtrl_within (bytes : Nat) (hh : Within h H 8192) (hbytes : bytes ≤ 64) :
    Within (sizeVpxdLbLeftCtrl bytes h) (sizeVpxdLbLeftCtrl bytes H) (2 ^ 16) := by
  have hblock : Within (ofNat bytes : U32) (ofNat bytes) 64 :=
    (Within.ofNat bytes (by omega)).mono hbytes
  exact ((((hh.checked.add (.ofNat 15)).shiftRight 4).mul hblock.checked).larger
    ((((hh.checked.add (.ofNat 31)).shiftRight 5).mul hblock.checked).larger
      (((hh.checked.add (.ofNat 63)).shiftRight 6).mul hblock.checked))).within (by decide)

theorem hfiBufferLineVp9d_within (isOpb : Bool) (hw : Within w W 8192) (hh : Within h H 8192)
    (hp : Within p P 4) :
    Within (hfiBufferLineVp9d w h isOpb p) (hfiBufferLineVp9d W H isOpb P) (2 ^ 27) := by
  have hcolumns := ((hw.checked.alignTo 3).alignTo 6).shiftRight 6
  have hfeLeft := (alignDma_checked
    (sizeVpxdLbLeftCtrl_within 64 hh (by decide)).checked).mul hp.checked
  have hseLeft := (alignDma_checked
    (sizeVpxdLbLeftCtrl_within 16 hh (by decide)).checked).mul hp.checked
  have hvspTop := alignDma_checked
    (((hcolumns.mul (.ofNat 64)).mul (.ofNat 8)).add (.ofNat 256))
  have hfeCtrl := alignDma_checked
    ((((hw.checked.alignTo 6).add (.ofNat 8)).mul (.ofNat 10)).mul (.ofNat 2))
  have hrecon := (Checked.ofNat 2).mul
    (alignDma_checked ((((hh.checked.alignTo 3).divBy 2).mul (.ofNat 64)).alignTo 5))
  have hseTop := alignDma_checked
    (((hw.checked.add (.ofNat 15)).shiftRight 4).mul (.ofNat 64))
  have hpeTop := alignDma_checked (hcolumns.mul (.ofNat 176))
  have hfeTop := alignDma_checked
    (((((hw.checked.alignTo 3).alignTo 6).add (.ofNat 8)).mul (.ofNat 10)).mul (.ofNat 2))
  have hqp := alignDma_checked (sizeH264dQp_within hw hh).checked
  have hsize := (((((((hfeLeft.add hseLeft).add hvspTop).add hfeCtrl).add hrecon).add
    hseTop).add hpeTop).add hfeTop).add hqp
  exact ((hsize.add (opb_within isOpb hw hh).checked).add (.ofNat 4096)).within (by decide)

/-! ### Frames of the firmware -/

theorem irisYuvBufferSizeQc08c_within (hw : Within w W 8192) (hh : Within h H 8192) :
    Within (irisYuvBufferSizeQc08c w h) (irisYuvBufferSizeQc08c W H) (2 ^ 28) := by
  have hw := hw.checked
  have hh := hh.checked
  have hyMeta := align4K_checked
    (((hw.divRoundUp 32).alignTo 6).mul ((hh.divRoundUp 8).alignTo 4))
  have hy := align4K_checked ((hw.alignTo 7).mul (hh.alignTo 5))
  have huvMeta := align4K_checked
    ((((hw.divBy 2).divRoundUp 16).alignTo 6).mul (((hh.divBy 2).divRoundUp 8).alignTo 4))
  have huv := align4K_checked ((hw.alignTo 7).mul ((hh.divBy 2).alignTo 5))
  exact (align4K_checked (((hyMeta.add hy).add huvMeta).add huv)).within (by decide)

theorem irisYuvBufferSizeQc10c_within (hw : Within w W 8192) (hh : Within h H 8192) :
    Within (irisYuvBufferSizeQc10c w h) (irisYuvBufferSizeQc10c W H) (2 ^ 28) := by
  have hw := hw.checked
  have hh := hh.checked
  have hstride := ((hw.mul (.ofNat 4)).divBy 3).alignTo 8
  have hhalfWidth := (hw.add (.ofNat 1)).shiftRight 1
  have hhalfHeight := (hh.add (.ofNat 1)).shiftRight 1
  have hy := align4K_checked (hstride.mul (hh.alignTo 4))
  have huv := align4K_checked (hstride.mul (hhalfHeight.alignTo 4))
  have hyMeta := align4K_checked
    (((hw.divRoundUp 48).alignTo 6).mul ((hh.divRoundUp 4).alignTo 4))
  have huvMeta := align4K_checked
    (((hhalfWidth.divRoundUp 24).alignTo 6).mul ((hhalfHeight.divRoundUp 4).alignTo 4))
  have hextra := (Checked.ofNat (16384 + 8192)).larger (hstride.mul (.ofNat 48))
  have hsize := (((hy.add huv).add hyMeta).add huvMeta).add hextra
  exact (align4K_checked hsize).within (by decide)

/-! ### Sizes -/

namespace VpuInst

variable {inst : VpuInst U32}

/-- The instance in numbers. -/
def exact (inst : VpuInst U32) : VpuInst Nat where
  codec := inst.codec
  width := inst.width.toNat
  height := inst.height.toNat
  dstWidth := inst.dstWidth.toNat
  dstHeight := inst.dstHeight.toNat
  rawFormat := inst.rawFormat
  numVppPipe := inst.numVppPipe.toNat

/-- What a decoder may have negotiated. -/
structure Supported (inst : VpuInst U32) : Prop where
  width : inst.width.toNat ≤ 8192
  height : inst.height.toNat ≤ 8192
  mbs : frameMbs inst.width.toNat inst.height.toNat ≤ 138240
  dstWidth : inst.dstWidth.toNat ≤ 8192
  dstHeight : inst.dstHeight.toNat ≤ 8192
  pipes : 1 ≤ inst.numVppPipe.toNat ∧ inst.numVppPipe.toNat ≤ 4

theorem Supported.width_within (hinst : inst.Supported) :
    Within inst.width inst.exact.width 8192 := ⟨rfl, hinst.width⟩

theorem Supported.height_within (hinst : inst.Supported) :
    Within inst.height inst.exact.height 8192 := ⟨rfl, hinst.height⟩

theorem Supported.pipes_within (hinst : inst.Supported) :
    Within inst.numVppPipe inst.exact.numVppPipe 4 := ⟨rfl, hinst.pipes.2⟩

theorem binSize_within (hinst : inst.Supported) :
    Within inst.irisVpuDecBinSize inst.exact.irisVpuDecBinSize 1274019840 := by
  have hw := hinst.width_within
  have hh := hinst.height_within
  have hp := hinst.pipes_within
  have hmbs := hinst.mbs
  obtain ⟨codec, width, height, dstWidth, dstHeight, rawFormat, numVppPipe⟩ := inst
  cases codec with
  | h264 => exact sizeHwBinBuffer_within (by decide) (by decide) hw hh hmbs hp
  | hevc => exact sizeHwBinBuffer_within (by decide) (by decide) hw hh hmbs hp
  | vp9 => exact hfiBufferBinVp9d_within hw hh hmbs hp

theorem comvSize_within (hinst : inst.Supported) :
    Within inst.irisVpuDecComvSize inst.exact.irisVpuDecComvSize 1136673280 := by
  have hw := hinst.width_within
  have hh := hinst.height_within
  have hmbs := hinst.mbs
  obtain ⟨codec, width, height, dstWidth, dstHeight, rawFormat, numVppPipe⟩ := inst
  cases codec with
  | h264 => exact hfiBufferComvH264d_within hw hh hmbs
  | hevc => exact hfiBufferComvH265d_within hw hh hmbs
  | vp9 => exact (Checked.ofNat 0).within (by decide)

theorem nonComvSize_within (hinst : inst.Supported) :
    Within inst.irisVpuDecNonComvSize inst.exact.irisVpuDecNonComvSize (2 ^ 24) := by
  have hw := hinst.width_within
  have hh := hinst.height_within
  obtain ⟨codec, width, height, dstWidth, dstHeight, rawFormat, numVppPipe⟩ := inst
  cases codec with
  | h264 => exact hfiBufferNonComvH264d_within hh
  | hevc => exact hfiBufferNonComvH265d_within hw hh
  | vp9 => exact (Checked.ofNat 0).within (by decide)

theorem lineSize_within (hinst : inst.Supported) :
    Within inst.irisVpuDecLineSize inst.exact.irisVpuDecLineSize (2 ^ 27) := by
  have hw := hinst.width_within
  have hh := hinst.height_within
  have hp := hinst.pipes_within
  obtain ⟨codec, width, height, dstWidth, dstHeight, rawFormat, numVppPipe⟩ := inst
  cases codec with
  | h264 => exact hfiBufferLineH264d_within _ hw hh hp
  | hevc => exact hfiBufferLineH265d_within _ hw hh hp
  | vp9 => exact hfiBufferLineVp9d_within _ hw hh hp

theorem persistSize_within (inst : VpuInst U32) :
    Within inst.irisVpuDecPersistSize inst.exact.irisVpuDecPersistSize (2 ^ 24) := by
  obtain ⟨codec, width, height, dstWidth, dstHeight, rawFormat, numVppPipe⟩ := inst
  cases codec with
  | h264 => exact (alignDma_checked (.ofNat _)).within (by decide)
  | hevc => exact (alignDma_checked (.ofNat _)).within (by decide)
  | vp9 =>
      exact (((((((alignDma_checked (.ofNat _)).add (alignDma_checked (.ofNat _))).add
        (alignDma_checked (.ofNat _))).add (alignDma_checked (.ofNat _))).add
        (alignDma_checked (.ofNat _))).add (alignDma_checked (.ofNat _))).add
        (.ofNat _)).within (by decide)

theorem dpbSize_within (hinst : inst.Supported) :
    Within inst.irisVpuDecDpbSize inst.exact.irisVpuDecDpbSize (2 ^ 28) := by
  have hw : Within inst.dstWidth inst.exact.dstWidth 8192 := ⟨rfl, hinst.dstWidth⟩
  have hh : Within inst.dstHeight inst.exact.dstHeight 8192 := ⟨rfl, hinst.dstHeight⟩
  obtain ⟨codec, width, height, dstWidth, dstHeight, rawFormat, numVppPipe⟩ := inst
  cases rawFormat with
  | nv12 => exact irisYuvBufferSizeQc08c_within hw hh
  | p010 => exact irisYuvBufferSizeQc10c_within hw hh

/-- Every size is exact and below the sign bit. -/
theorem bufSize_within (hinst : inst.Supported) (bufferType : BufType) :
    Within (inst.bufSize bufferType) (inst.exact.bufSize bufferType) (2 ^ 31 - 1) := by
  cases bufferType with
  | bin => exact (binSize_within hinst).mono (by decide)
  | comv => exact (comvSize_within hinst).mono (by decide)
  | nonComv => exact (nonComvSize_within hinst).mono (by decide)
  | line => exact (lineSize_within hinst).mono (by decide)
  | persist => exact (persistSize_within inst).mono (by decide)
  | dpb => exact (dpbSize_within hinst).mono (by decide)
  | scratch1 =>
      exact (((comvSize_within hinst).checked.add (nonComvSize_within hinst).checked).add
        (lineSize_within hinst).checked).within (by decide)
  | input => exact (Checked.ofNat 0).within (by decide)
  | output => exact (Checked.ofNat 0).within (by decide)
  | arp => exact (Checked.ofNat 0).within (by decide)
  | scratch2 => exact (Checked.ofNat 0).within (by decide)
  | vpss => exact (Checked.ofNat 0).within (by decide)

end VpuInst

/-- **Internal buffers are exact.** No size wraps around, and the `int` that is returned is the
exact size. -/
theorem vpu_buf_size_exact {inst : VpuInst U32} (hinst : inst.Supported) (bufferType : BufType) :
    (inst.bufSize bufferType).toNat = inst.exact.bufSize bufferType ∧
      irisVpuBufSize inst bufferType = inst.exact.bufSize bufferType ∧
      0 ≤ irisVpuBufSize inst bufferType := by
  obtain ⟨hexact, hle⟩ := VpuInst.bufSize_within hinst bufferType
  have hint : irisVpuBufSize inst bufferType = inst.exact.bufSize bufferType := by
    rw [irisVpuBufSize, BitVec.toInt_eq_toNat_of_lt (by omega), hexact]
  exact ⟨hexact, hint, hint ▸ Int.natCast_nonneg _⟩

/-- A ten-bit HEVC stream of 8192x4320, as large as a platform allows. -/
def largestInst : VpuInst U32 where
  codec := .hevc
  width := 8192
  height := 4320
  dstWidth := 8192
  dstHeight := 4320
  rawFormat := .p010
  numVppPipe := 4

theorem vpu_buf_size_exact_largest :
    (largestInst.bufSize .scratch1).toNat = largestInst.exact.bufSize .scratch1 ∧
      irisVpuBufSize largestInst .scratch1 = largestInst.exact.bufSize .scratch1 ∧
      0 ≤ irisVpuBufSize largestInst .scratch1 :=
  vpu_buf_size_exact ⟨by decide, by decide, by decide, by decide, by decide, by decide⟩ .scratch1

end NabuIris.VpuBuffers
