import NabuIris.EncoderBuffers
import NabuIris.Proof.ClockEstimate
import NabuIris.Proof.EncoderGeometry
import NabuIris.Proof.VpuBufferSizes

/-!
# Internal buffers of an encoder have their exact sizes

An encoder does not clamp what S_FMT asks for. What keeps the sizes exact is that the CAPTURE format
stays inside the OUTPUT format over any calls, and that the OUTPUT format is checked before a buffer
of the firmware is sized.
-/

namespace NabuIris.EncoderBuffers

open Lib Lib.SizeArith VpuBuffers FormatSizes EncoderFormats VideoCores

variable {x y w h : U32} {n m a W H k pipes : Nat} {ok ok' : Bool} {standard : Standard}

theorem pipes_within (hpipes : pipes ≤ 4) : Within (ofNat pipes : U32) (ofNat pipes) 4 :=
  (Within.ofNat pipes (by omega)).mono hpipes

/-! ### Bins -/

theorem area_le (hmbs : frameMbs W H ≤ 139264) : W * H ≤ 139264 * 256 := by
  have hwide : W ≤ (W + 15) / 16 * 16 := by omega
  have hhigh : H ≤ (H + 15) / 16 * 16 := by omega
  calc W * H
      ≤ (W + 15) / 16 * 16 * ((H + 15) / 16 * 16) := Nat.mul_le_mul hwide hhigh
    _ = (H + 15) / 16 * ((W + 15) / 16) * 256 := by ring
    _ ≤ 139264 * 256 := Nat.mul_le_mul_right 256 hmbs

/-- The macroblocks that are counted cover the frame. -/
theorem area_le_mbs (W H : Nat) :
    W * H ≤ alignUp (2 ^ 4) (alignUp (2 ^ 5) H) * alignUp (2 ^ 4) (alignUp (2 ^ 5) W) := by
  have hcover : ∀ n, n ≤ alignUp (2 ^ 4) (alignUp (2 ^ 5) n) := fun n =>
    (le_alignUp (by decide) n).trans (le_alignUp (by decide) _)
  rw [Nat.mul_comm W H]
  exact Nat.mul_le_mul (hcover H) (hcover W)

theorem encodedFrameSize_within (hw : Within w W 8192) (hh : Within h H 8192)
    (hmbs : frameMbs W H ≤ 139264) :
    Within (encodedFrameSize w h) (encodedFrameSize W H) 26738688 := by
  have harea := (hw.checked.mulOf hh.checked (area_le hmbs)).within (b := 35651584) (by decide)
  have hmbsWithin := ((((hh.checked.alignTo 5).alignTo 4).mul
    ((hw.checked.alignTo 5).alignTo 4)).divBy 256).within (b := 262144) (by decide)
  have hframe := harea.checked.mul (.ofNat 3)
  refine Within.iteOf (hmbsWithin.lt_eq (.ofNat numMbs720P (by decide))) (fun hsmall => ?_)
    fun _ => ?_
  · have hlt : alignUp (2 ^ 4) (alignUp (2 ^ 5) H) * alignUp (2 ^ 4) (alignUp (2 ^ 5) W) / 256 <
        3680 := of_decide_eq_true hsmall
    have hcover := area_le_mbs W H
    have hle : W * H ≤ 3680 * 256 := by omega
    exact (((hw.checked.mulOf hh.checked hle).mul (.ofNat 3)).shiftLeft 1).within (by decide)
  · have hlarge := congrArg Bool.not ((Within.ofNat numMbs4K (by decide)).lt_eq hmbsWithin)
    exact Within.iteOf hlarge (fun _ => (hframe.shiftRight 2).within (by decide))
      fun _ => (hframe.shiftRight 3).within (by decide)

theorem sizeBinBitstreamEnc_within (rcType : U32) (hw : Within w W 8192) (hh : Within h H 8192)
    (hmbs : frameMbs W H ≤ 139264) :
    Within (sizeBinBitstreamEnc w h rcType) (sizeBinBitstreamEnc W H rcType) 66846720 := by
  have hframe := encodedFrameSize_within hw hh hmbs
  have hdoubled := Within.ite (rfl : rateControlOff rcType = rateControlOff rcType)
    ((hframe.checked.shiftLeft 1).within (b := 53477376) (by decide)) hframe
  exact (align4K_checked ((hdoubled.checked.mul (.ofNat 5)).divBy 4)).within (by decide)

/-- What `bitbinSize` is at most, which the number of bins makes up for. -/
def bitbinBound (workMode : U32) : Nat := if workMode == stage2 then 113639424 else 201326592

theorem bitbinSize_within (workMode rcType : U32) (hk : k = 4 ∨ k = 5) (hw : Within w W 8192)
    (hh : Within h H 8192) (hmbs : frameMbs W H ≤ 139264) :
    Within (bitbinSize w h workMode k rcType) (bitbinSize W H workMode k rcType)
      (bitbinBound workMode) := by
  refine Within.iteOf rfl (fun htwo => ?_) fun hone => ?_
  · have hstream := alignDma_checked (sizeBinBitstreamEnc_within rcType hw hh hmbs).checked
    rw [bitbinBound, if_pos htwo]
    exact (alignDma_checked ((hstream.mul (.ofNat 17)).divBy 10)).within (by decide)
  · rw [bitbinBound, hone]
    obtain rfl | rfl := hk
    · exact (alignDma_checked (((hw.checked.alignTo 4).mul (hh.checked.alignTo 4)).mul
        (.ofNat 3))).within (by decide)
    · exact (alignDma_checked (((hw.checked.alignTo 5).mul (hh.checked.alignTo 5)).mul
        (.ofNat 3))).within (by decide)

theorem saoBinBufferSize_within (hw : Within w W 8192) (hh : Within h H 8192) :
    Within (saoBinBufferSize w h) (saoBinBufferSize W H) 4227520 := by
  have harea := (hw.checked.add (.ofNat 32)).mul (hh.checked.add (.ofNat 32))
  exact (((Checked.ofNat 64).mul (harea.shiftRight 10)).add (.ofNat 384)).within (by decide)

theorem hfiBufferBinEnc_within (workMode rcType : U32) (hk : k = 4 ∨ k = 5)
    (hpipes : pipes ≤ 4) (hw : Within w W 8192) (hh : Within h H 8192)
    (hmbs : frameMbs W H ≤ 139264) :
    Within (hfiBufferBinEnc w h workMode k pipes rcType)
      (hfiBufferBinEnc W H workMode k pipes rcType) (2 ^ 31 - 1) := by
  have hp := (pipes_within hpipes).checked
  have hsao := (saoBinBufferSize_within hw hh).checked
  have hbin := bitbinSize_within workMode rcType hk hw hh hmbs
  unfold hfiBufferBinEnc
  cases hstage : workMode == stage2 with
  | true =>
      rw [bitbinBound, hstage] at hbin
      have hpipe := Within.ite (rfl : decide (2 < pipes) = decide (2 < pipes))
        ((hbin.checked.divBy 2).within (b := 113639424) (by decide)) hbin
      have hpadded := alignDma_checked (alignDma_checked hpipe.checked)
      have hall := alignDma_checked ((alignDma_checked (hsao.add hpadded)).mul hp)
      exact ((hall.mul (.ofNat 3)).add (.ofNat 512)).within (by decide)
  | false =>
      rw [bitbinBound, hstage] at hbin
      have hpipe := Within.ite (rfl : decide (2 < pipes) = decide (2 < pipes))
        ((hbin.checked.divBy 2).within (b := 201326592) (by decide)) hbin
      have hpadded := alignDma_checked (alignDma_checked hpipe.checked)
      have hall := alignDma_checked ((alignDma_checked (hsao.add hpadded)).mul hp)
      exact ((hall.mul (.ofNat 1)).add (.ofNat 512)).within (by decide)

/-! ### Motion vectors -/

theorem lcus_within (hk : k = 4 ∨ k = 5) (hw : Within w W 8192) :
    Within (divRoundUp w (2 ^ k)) (divRoundUp W (2 ^ k)) 512 := by
  obtain rfl | rfl := hk
  · exact (hw.checked.divRoundUp _).within (by decide)
  · exact (hw.checked.divRoundUp _).within (by decide)

theorem lcusInFrame_within (hk : k = 4 ∨ k = 5) (hw : Within w W 8192) (hh : Within h H 8192) :
    Within (lcusInFrame k w h) (lcusInFrame k W H) 262144 :=
  ((lcus_within hk hw).checked.mul (lcus_within hk hh).checked).within (by decide)

theorem coded_within (hk : k = 4 ∨ k = 5) (hw : Within w W 8192) :
    Within (coded k w) (coded k W) 8192 := by
  obtain rfl | rfl := hk
  · exact ((hw.checked.divRoundUp _).mul (.ofNat _)).within (by decide)
  · exact ((hw.checked.divRoundUp _).mul (.ofNat _)).within (by decide)

theorem sizeCollocMv_within (standard : Standard) (hx : Within x n 262144) :
    Within (sizeCollocMv standard x) (sizeCollocMv standard n) 16778752 := by
  cases standard with
  | hevc =>
      exact ((Checked.ofNat 16).mul ((hx.checked.shiftLeft 2).add (.ofNat 32))).within (by decide)
  | avc => exact ((Checked.ofNat 48).mul (hx.checked.add (.ofNat 32))).within (by decide)

theorem sizeCollocRc_within (hw : Within w W 512) (hh : Within h H 512) :
    Within (sizeCollocRc w h) (sizeCollocRc W H) (2 ^ 20) :=
  ((((((hw.checked.add (.ofNat 7)).shiftRight 3).mul (.ofNat 16)).mul (.ofNat 2)).mul
    hh.checked)).within (by decide)

theorem hfiBufferComvEnc_within (standard : Standard) (hk : k = 4 ∨ k = 5)
    (hw : Within w W 8192) (hh : Within h H 8192) :
    Within (hfiBufferComvEnc w h k 2 standard) (hfiBufferComvEnc W H k 2 standard) (2 ^ 26) := by
  have hmbWidth := ((hw.checked.add (.ofNat 15)).shiftRight 4).within (b := 512) (by decide)
  have hmbHeight := ((hh.checked.add (.ofNat 15)).shiftRight 4).within (b := 512) (by decide)
  have hmv := alignDma_checked (sizeCollocMv_within standard (lcusInFrame_within hk hw hh)).checked
  have hrc := alignDma_checked (sizeCollocRc_within hmbWidth hmbHeight).checked
  exact ((hmv.mul (.ofNat 2)).add (hrc.mul (.ofNat hfiMaxColFrame))).within (by decide)

/-! ### Commands -/

theorem perPipe_within (hpipes : pipes ≤ 4) (hx : Within x n (2 ^ 20)) :
    Within (perPipe pipes x) (perPipe pipes n) (2 ^ 22) := by
  have hp := (pipes_within hpipes).checked
  exact Within.iteOf rfl (fun _ => ((alignDma_checked hx.checked).mul hp).within (by decide))
    fun _ => hx.mono (by decide)

theorem sizeFrameRcBufSize_within (statistics : Nat) (standard : Standard)
    (hstatistics : statistics ≤ 11) (hpipes : pipes ≤ 4) (hh : Within h H 8192) :
    Within (sizeFrameRcBufSize statistics standard h pipes)
      (sizeFrameRcBufSize statistics standard H pipes) (2 ^ 25) := by
  have hcount : Within (ofNat statistics : U32) (ofNat statistics) 11 :=
    (Within.ofNat statistics (by omega)).mono hstatistics
  cases standard with
  | hevc =>
      have hsize := ((Checked.ofNat 256).add ((Checked.ofNat 16).mul ((Checked.ofNat 14).add
        (((hh.checked.shiftRight 5).add (.ofNat 7)).shiftRight 3)))).mul hcount.checked
      have hall := perPipe_within hpipes (hsize.within (by decide))
      exact ((hall.checked.alignTo 9).mul (.ofNat hfiMaxColFrame)).within (by decide)
  | avc =>
      have hsize := ((Checked.ofNat 256).add ((Checked.ofNat 16).mul ((Checked.ofNat 14).add
        (((hh.checked.shiftRight 4).add (.ofNat 7)).shiftRight 3)))).mul hcount.checked
      have hall := perPipe_within hpipes (hsize.within (by decide))
      exact ((hall.checked.alignTo 9).mul (.ofNat hfiMaxColFrame)).within (by decide)

section

variable (hx : Within x n 262144)

include hx

theorem sizeEncSliceInfoBuf_within :
    Within (sizeEncSliceInfoBuf x) (sizeEncSliceInfoBuf n) (2 ^ 23) :=
  (alignDma_checked ((Checked.ofNat 256).add (hx.checked.shiftLeft 4))).within (by decide)

theorem encBitcntBufSize_within :
    Within (encBitcntBufSize x) (encBitcntBufSize n) (2 ^ 21) :=
  (alignDma_checked ((Checked.ofNat 256).add ((Checked.ofNat 4).mul hx.checked))).within
    (by decide)

theorem encBitmapBufSize_within :
    Within (encBitmapBufSize x) (encBitmapBufSize n) (2 ^ 16) :=
  (alignDma_checked ((Checked.ofNat 256).add (hx.checked.shiftRight 3))).within (by decide)

theorem irBufSize_within : Within (irBufSize x) (irBufSize n) (2 ^ 21) :=
  (((hx.checked.shiftLeft 1).alignTo 3).mul (.ofNat 3)).within (by decide)

end

theorem numLcumb_within (hk : k = 4 ∨ k = 5) (hw : Within w W 8192) (hh : Within h H 8192) :
    Within (numLcumb k w h) (numLcumb k W H) (2 ^ 19) := by
  obtain rfl | rfl := hk
  · exact ((hh.checked.divBy _).mul ((hw.checked.add (.ofNat _)).divBy _)).within (by decide)
  · exact ((hh.checked.divBy _).mul ((hw.checked.add (.ofNat _)).divBy _)).within (by decide)

theorem sizeOverrideBuf_within (hx : Within x n (2 ^ 19)) :
    Within (sizeOverrideBuf x) (sizeOverrideBuf n) (2 ^ 22) :=
  ((alignDma_checked ((Checked.ofNat 16).mul ((hx.checked.add (.ofNat 7)).shiftRight 3))).mul
    (.ofNat 2)).within (by decide)

theorem hfiBufferNonComvEnc_within (standard : Standard) (hk : k = 4 ∨ k = 5)
    (hpipes : pipes ≤ 4) (hw : Within w W 8192) (hh : Within h H 8192) :
    Within (hfiBufferNonComvEnc w h pipes k standard) (hfiBufferNonComvEnc W H pipes k standard)
      (2 ^ 27) := by
  have hlcus := lcusInFrame_within hk hw hh
  have hwide := coded_within hk hw
  have hhigh := coded_within hk hh
  have hrc := (sizeFrameRcBufSize_within _ standard le_rfl hpipes hhigh).checked
  have hoverride := (sizeOverrideBuf_within (numLcumb_within hk hwide hhigh)).checked
  exact ((((((((((sizeEncSliceInfoBuf_within hlcus).checked.add (.ofNat sizeSliceCmdBuffer)).add
    (.ofNat sizeSpsPpsSliceHdr)).add hrc).add (encBitcntBufSize_within hlcus).checked).add
    (encBitmapBufSize_within hlcus).checked).add (.ofNat sizeBseSliceCmdBuf)).add
    (.ofNat sizeLambdaLut)).add hoverride).add
    (alignDma_checked (irBufSize_within hlcus).checked)).within (by decide)

/-! ### Lines -/

theorem alignPipes_within (hpipes : pipes ≤ 4) (hx : Within x n (2 ^ 20)) :
    Within (alignPipes pipes x) (alignPipes pipes n) (2 ^ 20) := by
  have hdvd : 2 ^ (8 + (pipes - 1)) ∣ 2 ^ 20 := pow_dvd_pow 2 (by omega)
  have hbound : alignUp (2 ^ (8 + (pipes - 1))) (2 ^ 20) = 2 ^ 20 :=
    alignUp_of_dvd (Nat.two_pow_pos _) hdvd
  have halign := hx.alignTo (8 + (pipes - 1)) (by omega) (by rw [hbound]; decide)
  exact halign.mono hbound.le

section

variable (hh : Within h H 8192)

include hh

theorem sizeLinebuffData_within (isTenBit : Bool) :
    Within (sizeLinebuffData isTenBit h) (sizeLinebuffData isTenBit H) (2 ^ 18) := by
  have hdepth : Within (ofNat (if isTenBit then 10 else 8) : U32)
      (ofNat (if isTenBit then 10 else 8)) 10 := by
    cases isTenBit with
    | true => exact (Checked.ofNat 10).within (by decide)
    | false => exact (Checked.ofNat 8).within (by decide)
  have hbits := (hdepth.checked.mul hh.checked).add (.ofNat 1024)
  exact (((alignDma_checked hbits).mul (.ofNat 1)).add
    ((alignDma_checked (hbits.shiftRight 1)).mul (.ofNat 2))).within (by decide)

theorem sizeLeftLinebuffCtrl_within (standard : Standard) (hpipes : pipes ≤ 4) :
    Within (sizeLeftLinebuffCtrl standard h pipes) (sizeLeftLinebuffCtrl standard H pipes)
      (2 ^ 18) := by
  have hp := (pipes_within hpipes).checked
  cases standard with
  | hevc =>
      have hsize := ((((hh.checked.add (.ofNat 32)).divBy 32).mul (.ofNat 4)).mul
        (.ofNat 16)).within (b := 2 ^ 15) (by decide)
      have hall := Within.ite (rfl : decide (1 < pipes) = decide (1 < pipes))
        ((((hsize.checked.add (.ofNat 512)).alignTo 9).mul hp).within (b := 2 ^ 18) (by decide))
        hsize
      exact (alignDma_checked hall.checked).within (by decide)
  | avc =>
      have hsize := ((((hh.checked.add (.ofNat 15)).divBy 16).mul (.ofNat 5)).mul
        (.ofNat 16)).within (b := 2 ^ 15 + 2 ^ 13) (by decide)
      have hall := Within.ite (rfl : decide (1 < pipes) = decide (1 < pipes))
        ((((hsize.checked.add (.ofNat 512)).alignTo 9).mul hp).within (b := 2 ^ 18) (by decide))
        hsize
      exact (alignDma_checked hall.checked).within (by decide)

theorem sizeLeftLinebuffReconPix_within (isTenBit : Bool) (hpipes : pipes ≤ 4) :
    Within (sizeLeftLinebuffReconPix isTenBit h pipes)
      (sizeLeftLinebuffReconPix isTenBit H pipes) (2 ^ 20) := by
  have hsamples : Within (ofNat ((isTenBit.toNat + 1) * 2) : U32)
      (ofNat ((isTenBit.toNat + 1) * 2)) 4 := by
    cases isTenBit with
    | true => exact (Checked.ofNat 4).within (by decide)
    | false => exact (Checked.ofNat 2).within (by decide)
  have hsize := ((hsamples.checked.mul hh.checked).add (.ofNat 256)).within (b := 2 ^ 20)
    (by decide)
  exact ((alignPipes_within hpipes hsize).checked.mul (.ofNat 1)).within (by decide)

theorem sizeTopLinebuffCtrlFe_within (standard : Standard) :
    Within (sizeTopLinebuffCtrlFe h standard) (sizeTopLinebuffCtrlFe H standard) (2 ^ 15) := by
  cases standard with
  | hevc =>
      exact (alignDma_checked ((Checked.ofNat 64).mul (hh.checked.shiftRight 5))).within
        (by decide)
  | avc =>
      exact (alignDma_checked ((Checked.ofNat 256).add
        ((Checked.ofNat 16).mul (hh.checked.shiftRight 4)))).within (by decide)

theorem sizeLeftLinebuffCtrlFe_within (hpipes : pipes ≤ 4) :
    Within (sizeLeftLinebuffCtrlFe h pipes) (sizeLeftLinebuffCtrlFe H pipes) (2 ^ 22) := by
  have hsize := ((Checked.ofNat 256).add
    ((Checked.ofNat 64).mul (hh.checked.shiftRight 4))).within (b := 2 ^ 20) (by decide)
  exact (((alignPipes_within hpipes hsize).checked.mul (.ofNat 1)).mul
    (pipes_within hpipes).checked).within (by decide)

theorem sizeLeftLinebuffMetadataRecon_within {lines : Nat} (hlines : lines = 8 ∨ lines = 4)
    (isTenBit : Bool) (hpipes : pipes ≤ 4) :
    Within (sizeLeftLinebuffMetadataRecon lines h isTenBit pipes)
      (sizeLeftLinebuffMetadataRecon lines H isTenBit pipes) (2 ^ 22) := by
  have htile : lines * (if isTenBit then 4 else 8) < 2 ^ 32 := by
    obtain rfl | rfl := hlines <;> cases isTenBit <;> decide
  have hsize := (Checked.ofNat 256).add
    ((Checked.ofNat 64).mul (hh.checked.div (Within.ofNat _ htile).checked))
  exact ((alignDma_checked hsize).mul (pipes_within hpipes).checked).within (by decide)

theorem sizeLinebuffReconPix_within (isTenBit : Bool) :
    Within (sizeLinebuffReconPix isTenBit h) (sizeLinebuffReconPix isTenBit H) (2 ^ 15) := by
  cases isTenBit with
  | true => exact (alignDma_checked ((Checked.ofNat 3).mul hh.checked)).within (by decide)
  | false => exact (alignDma_checked ((Checked.ofNat 2).mul hh.checked)).within (by decide)

theorem sizeLineBufCtrl_within : Within (sizeLineBufCtrl h) (sizeLineBufCtrl H) (2 ^ 13) :=
  (alignDma_checked hh.checked).within (by decide)

theorem sizeLineBufSde_within : Within (sizeLineBufSde h) (sizeLineBufSde H) (2 ^ 14) :=
  (alignDma_checked ((Checked.ofNat 256).add
    ((Checked.ofNat 16).mul (hh.checked.shiftRight 4)))).within (by decide)

theorem sizeTopLineBufFirstStgSao_within :
    Within (sizeTopLineBufFirstStgSao h) (sizeTopLineBufFirstStgSao H) (2 ^ 12) :=
  (alignDma_checked ((Checked.ofNat 16).mul (hh.checked.shiftRight 5))).within (by decide)

end

theorem vpssLineBuf_within (hpipes : pipes ≤ 4) (hh : Within h H 8192) (hw : Within w W 8192) :
    Within (vpssLineBuf pipes h w) (vpssLineBuf pipes H W) (2 ^ 21) := by
  have hlines := (((hw.checked.larger hh.checked).add (.ofNat 3)).shiftRight 2).shiftLeft 5
  have hstage := ((Checked.ofNat (8192 / 4 * 32)).mul (pipes_within hpipes).checked).add
    (.ofNat 64)
  exact (hstage.add ((hlines.add (.ofNat 256)).mul (.ofNat 16))).within (by decide)

theorem hfiBufferLineEnc_within (isTenBit : Bool) (standard : Standard) (hk : k = 4 ∨ k = 5)
    (hpipes : pipes ≤ 4) (hw : Within w W 8192) (hh : Within h H 8192) :
    Within (hfiBufferLineEnc w h isTenBit pipes k standard)
      (hfiBufferLineEnc W H isTenBit pipes k standard) (2 ^ 25) := by
  have hwide := coded_within hk hw
  have hhigh := coded_within hk hh
  have hctrl := (sizeLineBufCtrl_within hwide).checked
  have hy := sizeLeftLinebuffMetadataRecon_within hhigh (.inl rfl) isTenBit hpipes
  have huv := sizeLeftLinebuffMetadataRecon_within hhigh (.inr rfl) isTenBit hpipes
  have htop := ((((hctrl.add hctrl).add (sizeLinebuffData_within hwide isTenBit).checked).add
    (sizeLeftLinebuffCtrl_within hhigh standard hpipes).checked).add
    (sizeLeftLinebuffReconPix_within hhigh isTenBit hpipes).checked).add
    (sizeTopLinebuffCtrlFe_within hwide standard).checked
  have hleft := (((htop.add hy.checked).add huv.checked).add
    (sizeLinebuffReconPix_within hwide isTenBit).checked).add
    (sizeLeftLinebuffCtrlFe_within hhigh hpipes).checked
  exact (((hleft.add (sizeLineBufSde_within hwide).checked).add
    (alignDma_checked (vpssLineBuf_within hpipes hhigh hwide).checked)).add
    (sizeTopLineBufFirstStgSao_within hwide).checked).within (by decide)

/-! ### Reference frames -/

theorem ubwcMetadataPlaneBufferSize_within (tileWidth tileHeight : Nat)
    (hwidth : 32 ≤ tileWidth ∧ tileWidth ≤ 64) (hheight : 4 ≤ tileHeight ∧ tileHeight ≤ 8)
    (hw : Within w W 8192) (hh : Within h H 8192) :
    Within (ubwcMetadataPlaneBufferSize w h tileWidth tileHeight)
      (ubwcMetadataPlaneBufferSize W H tileWidth tileHeight) (2 ^ 23) := by
  have hline : (8192 + (tileWidth - 1)) / tileWidth ≤ 256 :=
    Nat.le_of_lt_succ ((Nat.div_lt_iff_lt_mul (by omega)).2 (by omega))
  have hcolumn : (8192 + (tileHeight - 1)) / tileHeight ≤ 2048 :=
    Nat.le_of_lt_succ ((Nat.div_lt_iff_lt_mul (by omega)).2 (by omega))
  have hstride := (hw.divRoundUp tileWidth (by omega) (by omega)).mono hline
  have hlines := (hh.divRoundUp tileHeight (by omega) (by omega)).mono hcolumn
  exact (align4K_checked ((hstride.checked.alignTo 6).mul (hlines.checked.alignTo 4))).within
    (by decide)

/-- A reference frame, whose lines are aligned to 32 or to 128 pixels. -/
theorem sizeRefFrame_within {refWidthShift : Nat} (isTenBit : Bool)
    (hshift : refWidthShift = 5 ∨ refWidthShift = 7) (hw : Within w W 8192)
    (hh : Within h H 8192) :
    Within (sizeRefFrame refWidthShift w h isTenBit) (sizeRefFrame refWidthShift W H isTenBit)
      (2 ^ 28) := by
  cases isTenBit with
  | false =>
      have hmeta := (ubwcMetadataPlaneBufferSize_within 32 8 (by decide) (by decide)
        hw hh).checked
      have hlines := (hh.checked.alignTo 5).add ((hh.checked.shiftRight 1).alignTo 5)
      obtain rfl | rfl := hshift
      · exact (((hlines.mul (hw.checked.alignTo 5)).add hmeta).add hmeta).within (by decide)
      · exact (((hlines.mul (hw.checked.alignTo 7)).add hmeta).add hmeta).within (by decide)
  | true =>
      have hmeta := (ubwcMetadataPlaneBufferSize_within 48 4 (by decide) (by decide)
        hw hh).checked
      have hstride := ((Checked.ofNat 4).mul
        (((hw.checked.divRoundUp 192).mul (.ofNat 192)).divBy 3)).alignTo 7
      have hluma := align4K_checked ((hh.checked.alignTo 5).mul hstride)
      have hchroma := align4K_checked
        (hstride.mul (((hh.checked.add (.ofNat 1)).shiftRight 1).alignTo 5))
      exact (((hluma.add hchroma).add hmeta).add hmeta).within (by decide)

/-! ### Scratch -/

theorem seStatsBufsize_within (hw : Within w W 8192) (hh : Within h H 8192)
    (hx : Within x n 262144) :
    Within (seStatsBufsize w h x) (seStatsBufsize W H n) (2 ^ 29 + 2 ^ 10) := by
  have harea := (hw.checked.mul hh.checked).within (b := 2 ^ 26) (by decide)
  have hlarge := (Checked.ofNat (w := 32) 0).within (b := 2 ^ 28 + 2 ^ 9) (by decide)
  have hmiddle := ((((Checked.ofNat 160).mul hx.checked).add (.ofNat 256)).add
    (.ofNat 256)).within (b := 2 ^ 28 + 2 ^ 9) (by decide)
  have hsmall := ((((Checked.ofNat 1024).mul hx.checked).add (.ofNat 256)).add
    (.ofNat 256)).within (b := 2 ^ 28 + 2 ^ 9) (by decide)
  have hsize := Within.iteOf ((Within.ofNat (4096 * 2160) (by decide)).lt_eq harea)
    (fun _ => hlarge) fun _ =>
      Within.iteOf ((Within.ofNat (1920 * 1088) (by decide)).lt_eq harea) (fun _ => hmiddle)
        fun _ => hsmall
  exact ((alignDma_checked hsize.checked).mul (.ofNat 2)).within (by decide)

theorem colrcbufSize_within (hpipes : pipes ≤ 4) (hw : Within w W 512) (hh : Within h H 512) :
    Within (colrcbufSize w h pipes) (colrcbufSize W H pipes) (2 ^ 25) :=
  ((alignDma_checked (perPipe_within hpipes (sizeCollocRc_within hw hh)).checked).mul
    (.ofNat hfiMaxColFrame)).within (by decide)

theorem hfiBufferScratch1Enc_within (tenBit : Bool) (standard : Standard) (hk : k = 4 ∨ k = 5)
    (hpipes : pipes ≤ 4) (hw : Within w W 8192) (hh : Within h H 8192) :
    Within (hfiBufferScratch1Enc w h k 1 tenBit pipes standard)
      (hfiBufferScratch1Enc W H k 1 tenBit pipes standard) (2 ^ 30) := by
  have hlcus := lcusInFrame_within hk hw hh
  have hwide := coded_within hk hw
  have hhigh := coded_within hk hh
  have hctrl := (sizeLineBufCtrl_within hwide).checked
  have hmv := alignDma_checked (sizeCollocMv_within standard hlcus).checked
  have hy := sizeLeftLinebuffMetadataRecon_within hhigh (.inl rfl) tenBit hpipes
  have huv := sizeLeftLinebuffMetadataRecon_within hhigh (.inr rfl) tenBit hpipes
  have hcolrc := colrcbufSize_within hpipes (lcus_within hk hw) (lcus_within hk hh)
  have hrc := sizeFrameRcBufSize_within 6 standard (by decide) hpipes hhigh
  have hoverride := sizeOverrideBuf_within (numLcumb_within hk hwide hhigh)
  have hlines := ((((hctrl.add (sizeLinebuffData_within hwide tenBit).checked).add hctrl).add
    (sizeLeftLinebuffCtrl_within hhigh standard hpipes).checked).add
    (vpssLineBuf_within hpipes hhigh hwide).checked).add (hmv.mul (.ofNat 2))
  have hleft := (((((hlines.add (sizeTopLinebuffCtrlFe_within hwide standard).checked).add
    (sizeLeftLinebuffCtrlFe_within hhigh hpipes).checked).add
    (sizeLinebuffReconPix_within hwide tenBit).checked).add
    (sizeLeftLinebuffReconPix_within hhigh tenBit hpipes).checked).add hy.checked).add huv.checked
  have hrates := ((((hleft.add hcolrc.checked).add hrc.checked).add
    (encBitcntBufSize_within hlcus).checked).add (encBitmapBufSize_within hlcus).checked).add
    (sizeLineBufSde_within hwide).checked
  have hregs := (((((hrates.add (sizeTopLineBufFirstStgSao_within hwide).checked).add
    hoverride.checked).add (.ofNat (512 * 8 * 4))).add (.ofNat (2048 * 8 * 10))).add
    (.ofNat sizeSpsPpsSliceHdr)).add (.ofNat sizeSliceCmdBuffer)
  exact ((((((hregs.add (.ofNat (8192 * 4 * 6))).add (irBufSize_within hlcus).checked).add
    (sizeEncSliceInfoBuf_within hlcus).checked).add (.ofNat sizeLambdaLut)).add
    (seStatsBufsize_within hwide hhigh hlcus).checked).add (.ofNat 1024)).within (by decide)

/-! ### Sizes -/

namespace EncInst

variable {inst : EncInst U32}

/-- The instance in numbers. -/
def exact (inst : EncInst U32) : EncInst Nat :=
  { inst with width := inst.width.toNat, height := inst.height.toNat }

/-- What an encoder that may stream has negotiated. -/
structure Supported (inst : EncInst U32) : Prop where
  width : inst.width.toNat ≤ 8192
  height : inst.height.toNat ≤ 8192
  mbs : frameMbs inst.width.toNat inst.height.toNat ≤ 139264
  pipes : inst.pipes ≤ 4

theorem lcuShift_eq (inst : EncInst U32) : inst.lcuShift = 4 ∨ inst.lcuShift = 5 := by
  unfold lcuShift
  split_ifs
  · exact .inr rfl
  · exact .inl rfl

section

variable (hinst : inst.Supported)

include hinst

theorem Supported.width_within : Within inst.width inst.exact.width 8192 := ⟨rfl, hinst.width⟩

theorem Supported.height_within : Within inst.height inst.exact.height 8192 :=
  ⟨rfl, hinst.height⟩

theorem nonComvSize_within :
    Within inst.irisVpuEncNonComvSize inst.exact.irisVpuEncNonComvSize (2 ^ 28) := by
  have hsize := hfiBufferNonComvEnc_within inst.standard inst.lcuShift_eq hinst.pipes
    hinst.width_within hinst.height_within
  exact Within.iteOf rfl
    (fun _ => (hsize.checked.add (.ofNat sizeOneSliceBuf)).within (by decide))
    fun _ => hsize.mono (by decide)

theorem scratch1Size_within :
    Within inst.irisVpuEncScratch1Size inst.exact.irisVpuEncScratch1Size (2 ^ 30) := by
  have hw := hinst.width_within
  have hh := hinst.height_within
  have hpipes := hinst.pipes
  obtain ⟨codec, width, height, stage, hfiRcType, scaling, pipes⟩ := inst
  cases codec with
  | h264 => exact hfiBufferScratch1Enc_within false .avc (.inl rfl) hpipes hw hh
  | hevc => exact hfiBufferScratch1Enc_within false .hevc (.inr rfl) hpipes hw hh
  | vp9 => exact (Checked.ofNat 0).within (by decide)

theorem scratch2Size_within :
    Within inst.irisVpuEncScratch2Size inst.exact.irisVpuEncScratch2Size (2 ^ 30 + 2 ^ 12) := by
  have hframe := sizeRefFrame_within false (.inr rfl) hinst.width_within hinst.height_within
  exact ((hframe.checked.mul (.ofNat 4)).add (.ofNat 4096)).within (by decide)

theorem vpssSize_within :
    Within inst.irisVpuEncVpssSize inst.exact.irisVpuEncVpssSize (2 ^ 28) :=
  Within.iteOf rfl
    (fun _ => sizeRefFrame_within false (.inl rfl) hinst.width_within hinst.height_within)
    fun _ => (Checked.ofNat 0).within (by decide)

/-- Every size is exact and below the sign bit. -/
theorem bufSize_within (bufferType : BufType) :
    Within (inst.bufSize bufferType) (inst.exact.bufSize bufferType) (2 ^ 31 - 1) := by
  have hw := hinst.width_within
  have hh := hinst.height_within
  have hk := inst.lcuShift_eq
  cases bufferType with
  | bin => exact hfiBufferBinEnc_within _ _ hk hinst.pipes hw hh hinst.mbs
  | comv => exact (hfiBufferComvEnc_within inst.standard hk hw hh).mono (by decide)
  | nonComv => exact (nonComvSize_within hinst).mono (by decide)
  | line => exact (hfiBufferLineEnc_within false _ hk hinst.pipes hw hh).mono (by decide)
  | arp => exact (Checked.ofNat hfiBufferArpEnc).within (by decide)
  | vpss => exact (vpssSize_within hinst).mono (by decide)
  | scratch1 => exact (scratch1Size_within hinst).mono (by decide)
  | scratch2 => exact (scratch2Size_within hinst).mono (by decide)
  | input => exact (Checked.ofNat 0).within (by decide)
  | output => exact (Checked.ofNat 0).within (by decide)
  | persist => exact (Checked.ofNat 0).within (by decide)
  | dpb => exact (Checked.ofNat 0).within (by decide)

end

end EncInst

/-! ### Runs -/

variable {platform : Platform} {inst : EncoderInst}

/-- What the checks before STREAMON leave of the OUTPUT format holds of the CAPTURE format, which is
inside it. -/
theorem supported_of_checks (hgeometry : Geometry platform inst)
    (hmbpf : irisCheckInstMbpf platform inst.toLoadInst = 0)
    (hresolution : irisCheckResolutionSupported platform.instCaps inst.toLoadInst = 0)
    (stage hfiRcType : U32) (compose : Rect) :
    (EncInst.ofEncoder platform stage hfiRcType compose inst).Supported := by
  have hsrc : inst.formats.src.width.toNat ≤ 8192 ∧ inst.formats.src.height.toNat ≤ 8192 := by
    unfold irisCheckResolutionSupported at hresolution
    by_cases hout : ¬(platform.instCaps.minFrameWidth ≤ inst.formats.src.width ∧
        inst.formats.src.width ≤ platform.instCaps.maxFrameWidth) ∨
      ¬(platform.instCaps.minFrameHeight ≤ inst.formats.src.height ∧
        inst.formats.src.height ≤ platform.instCaps.maxFrameHeight)
    · rw [if_pos hout] at hresolution
      exact absurd hresolution einval_ne_zero
    · obtain ⟨⟨-, hwidth⟩, ⟨-, hheight⟩⟩ := not_or.1 hout |>.imp not_not.1 not_not.1
      have hcaps : platform.instCaps.maxFrameWidth.toNat ≤ 8192 ∧
          platform.instCaps.maxFrameHeight.toNat ≤ 8192 := by
        cases platform <;> decide
      exact ⟨(BitVec.le_def.1 hwidth).trans hcaps.1, (BitVec.le_def.1 hheight).trans hcaps.2⟩
  have hcropWidth := BitVec.le_def.1 hgeometry.cropWidth
  have hcropHeight := BitVec.le_def.1 hgeometry.cropHeight
  have hfew : frameMbs inst.formats.src.width.toNat inst.formats.src.height.toNat < 2 ^ 27 := by
    have hrows : (inst.formats.src.height.toNat + 15) / 16 ≤ 512 := by omega
    have hcols : (inst.formats.src.width.toNat + 15) / 16 ≤ 512 := by omega
    exact (Nat.mul_le_mul hrows hcols).trans_lt (by decide)
  have hmbs : frameMbs inst.formats.src.width.toNat inst.formats.src.height.toNat ≤ 139264 := by
    have hcount : (irisGetMbpf inst.toLoadInst).toNat =
        frameMbs inst.formats.src.width.toNat inst.formats.src.height.toNat := by
      rw [irisGetMbpf_toNat, max_eq_left hcropWidth, max_eq_left hcropHeight, wrappedMbs_eq hfew]
    unfold irisCheckInstMbpf at hmbpf
    by_cases hmany : platform.maxMbpf < irisGetMbpf inst.toLoadInst
    · rw [if_pos hmany] at hmbpf
      exact absurd hmbpf (by decide)
    · rw [← hcount]
      exact (Nat.le_of_not_lt fun hlt => hmany (BitVec.lt_def.2 hlt)).trans (maxMbpf_le platform)
  have hwidth : inst.formats.dst.width.toNat ≤ inst.formats.src.width.toNat :=
    (congrArg BitVec.toNat hgeometry.width).trans_le hcropWidth
  have hheight : inst.formats.dst.height.toNat ≤ inst.formats.src.height.toNat :=
    (congrArg BitVec.toNat hgeometry.height).trans_le hcropHeight
  have hpipes : platform.numVppPipe.toNat ≤ 4 := by cases platform <;> decide
  exact
    { width := hwidth.trans hsrc.1
      height := hheight.trans hsrc.2
      mbs := (Nat.mul_le_mul (Nat.div_le_div_right (Nat.add_le_add_right hheight 15))
        (Nat.div_le_div_right (Nat.add_le_add_right hwidth 15))).trans hmbs
      pipes := hpipes }

/-- **Internal buffers of an encoder are exact.** Whatever calls have set its formats, once the
checks before STREAMON pass no size wraps around, and the `int` that is returned is the size. -/
theorem encoder_buf_size_exact (platform : Platform) (count : Formats → U32)
    (bitrateMode frameRc : Int) (calls : List EncoderCall) (stage hfiRcType : U32)
    (compose : Rect) (bufferType : BufType)
    (hmbpf : irisCheckInstMbpf platform
      (callsAfter platform (.opened platform count bitrateMode frameRc) calls).toLoadInst = 0)
    (hresolution : irisCheckResolutionSupported platform.instCaps
      (callsAfter platform (.opened platform count bitrateMode frameRc) calls).toLoadInst = 0) :
    irisVpuBufSize
        (.ofEncoder platform stage hfiRcType compose
          (callsAfter platform (.opened platform count bitrateMode frameRc) calls)) bufferType =
      (EncInst.ofEncoder platform stage hfiRcType compose
        (callsAfter platform (.opened platform count bitrateMode frameRc) calls)).exact.bufSize
          bufferType := by
  have hgeometry : Geometry platform
      (callsAfter platform (.opened platform count bitrateMode frameRc) calls) :=
    List.foldlRecOn calls (applyCall platform) (opened_geometry platform count bitrateMode frameRc)
      fun _ hbefore call _ => hbefore.apply call
  obtain ⟨hexact, hle⟩ := EncInst.bufSize_within
    (supported_of_checks hgeometry hmbpf hresolution stage hfiRcType compose) bufferType
  rw [irisVpuBufSize, BitVec.toInt_eq_toNat_of_lt (by omega), hexact]

/-- A 1080p stream of HEVC, cropped to whole macroblocks. -/
def croppedCalls : List EncoderCall :=
  [.sFmt ⟨.output, .nv12, 1920, 1088⟩, .sFmt ⟨.capture, .coded .hevc, 0, 0⟩,
    .sSelection ⟨.output, .crop, ⟨0, 0, 1920, 1072⟩⟩]

theorem encoder_buf_size_exact_cropped :
    irisVpuBufSize
        (.ofEncoder .sm8150 stage2 2 ⟨0, 0, 0, 0⟩
          (callsAfter .sm8150 (.opened .sm8150 (fun _ => 4) 0 1) croppedCalls)) .scratch1 =
      (EncInst.ofEncoder .sm8150 stage2 2 ⟨0, 0, 0, 0⟩
        (callsAfter .sm8150 (.opened .sm8150 (fun _ => 4) 0 1) croppedCalls)).exact.bufSize
          .scratch1 :=
  encoder_buf_size_exact .sm8150 (fun _ => 4) 0 1 croppedCalls stage2 2 ⟨0, 0, 0, 0⟩ .scratch1
    (by decide) (by decide)

end NabuIris.EncoderBuffers
