import NabuIris.EncoderFormats
import NabuIris.VideoCores
import NabuIris.VpuBuffers

/-!
# Internal buffers of an encoder (`iris_vpu_buffer.c`)

The sizes of the buffers in which the firmware encodes, as formulas over `SizeArith`. A coding unit
has `2 ^ lcuShift` pixels a side, and the pipes are those of the platform: both are constants in
every call. The one scratch buffer of the first generation spells out again what the line, motion
vector and command buffers of the second have as functions of their own; here they share them.
-/

namespace NabuIris.EncoderBuffers

open Lib Lib.SizeArith VpuBuffers FormatSizes EncoderFormats

variable {α : Type} [SizeArith α]

/-- `HFI_CODEC_ENCODE_*` -/
inductive Standard
  | avc
  | hevc
deriving DecidableEq, Repr

def numMbs720P : Nat := 80 * 46
def numMbs4K : Nat := 256 * 144
def hfiMaxColFrame : Nat := 6
def sizeSliceCmdBuffer : Nat := 20480
def sizeSpsPpsSliceHdr : Nat := 2048 + 4096
def sizeBseSliceCmdBuf : Nat := 8192 * 4 * 3
def sizeLambdaLut : Nat := 256 * 11
def sizeOneSliceBuf : Nat := 256
def hfiBufferArpEnc : Nat := 204800

/-- `STAGE_2` -/
def stage2 : U32 := 2

/-- `HFI_RATE_CONTROL_OFF`, `HFI_RATE_CONTROL_CQ`, `HFI_RC_OFF` and `HFI_RC_CQ`: one name for each
generation, and both are tested -/
def rateControlOff (rcType : U32) : Bool :=
  rcType == 0x1000001 || rcType == 0x1000008 || rcType == 3 || rcType == 2

/-! ### Bins -/

/-- The bytes of a frame that `size_bin_bitstream_enc` starts from, by its macroblocks. -/
def encodedFrameSize (width height : α) : α :=
  let alignedHeight := alignTo height 5
  let alignedWidth := alignTo width 5
  let frameSize := width * height * 3
  let mbsPerFrame := alignTo alignedHeight 4 * alignTo alignedWidth 4 / 256
  if lt mbsPerFrame (ofNat numMbs720P) then frameSize <<< 1
  else if !lt (ofNat numMbs4K) mbsPerFrame then frameSize >>> 2
  else frameSize >>> 3

def sizeBinBitstreamEnc (width height : α) (rcType : U32) : α :=
  let frameSize := encodedFrameSize width height
  let frameSize := if rateControlOff rcType then frameSize <<< 1 else frameSize
  align4K (frameSize * 5 / 4)

/-- `bitbin_size` of `hfi_buffer_bin_enc`, before it is spread over the pipes -/
def bitbinSize (width height : α) (workMode : U32) (lcuShift : Nat) (rcType : U32) : α :=
  let bitstreamSize := alignDma (sizeBinBitstreamEnc width height rcType)
  if workMode == stage2 then alignDma (bitstreamSize * 17 / 10)
  else alignDma (alignTo width lcuShift * alignTo height lcuShift * 3)

def saoBinBufferSize (width height : α) : α :=
  (64 : α) * (((width + 32) * (height + 32)) >>> 10) + 384

def hfiBufferBinEnc (width height : α) (workMode : U32) (lcuShift pipes : Nat) (rcType : U32) :
    α :=
  let totalBitbinBuffers : α := ofNat (if workMode == stage2 then 3 else 1)
  let bitbinSize := bitbinSize width height workMode lcuShift rcType
  let sizeSinglePipe := if decide (2 < pipes) then bitbinSize / 2 else bitbinSize
  let paddedBinSize := alignDma (alignDma sizeSinglePipe)
  let sizeSinglePipe := alignDma (saoBinBufferSize width height + paddedBinSize)
  alignDma (sizeSinglePipe * ofNat pipes) * totalBitbinBuffers + 512

/-! ### Motion vectors -/

/-- the pixels of a side that coding units cover -/
def coded (lcuShift : Nat) (n : α) : α := divRoundUp n (2 ^ lcuShift) * ofNat (2 ^ lcuShift)

/-- `num_lcu_in_frame` -/
def lcusInFrame (lcuShift : Nat) (frameWidth frameHeight : α) : α :=
  divRoundUp frameWidth (2 ^ lcuShift) * divRoundUp frameHeight (2 ^ lcuShift)

/-- `size_colloc_mv` for one frame -/
def sizeCollocMv (standard : Standard) (numLcuInFrame : α) : α :=
  match standard with
  | .hevc => (16 : α) * ((numLcuInFrame <<< 2) + 32)
  | .avc => 48 * (numLcuInFrame + 32)

/-- `size_colloc_rc`, for a frame in macroblocks or in coding units -/
def sizeCollocRc (width height : α) : α := ((width + 7) >>> 3) * 16 * 2 * height

def hfiBufferComvEnc (frameWidth frameHeight : α) (lcuShift numRecon : Nat) (standard : Standard) :
    α :=
  let numLcuInFrame := lcusInFrame lcuShift frameWidth frameHeight
  let mbHeight := (frameHeight + 15) >>> 4
  let mbWidth := (frameWidth + 15) >>> 4
  alignDma (sizeCollocMv standard numLcuInFrame) * ofNat numRecon +
    alignDma (sizeCollocRc mbWidth mbHeight) * ofNat hfiMaxColFrame

/-! ### Commands -/

/-- A size that every pipe has, when there are several. -/
def perPipe (pipes : Nat) (size : α) : α :=
  if decide (1 < pipes) then alignDma size * ofNat pipes else size

/-- `size_frame_rc_buf_size`, which has 11 statistics a frame, and its copy with 6 -/
def sizeFrameRcBufSize (statistics : Nat) (standard : Standard) (frameHeightCoded : α)
    (pipes : Nat) : α :=
  let lines : α :=
    match standard with
    | .hevc => frameHeightCoded >>> 5
    | .avc => frameHeightCoded >>> 4
  let size := ((256 : α) + (16 : α) * ((14 : α) + ((lines + 7) >>> 3))) * ofNat statistics
  alignTo (perPipe pipes size) 9 * ofNat hfiMaxColFrame

def sizeEncSliceInfoBuf (numLcuInFrame : α) : α := alignDma ((256 : α) + (numLcuInFrame <<< 4))

def encBitcntBufSize (numLcuInFrame : α) : α := alignDma (256 + 4 * numLcuInFrame)

def encBitmapBufSize (numLcuInFrame : α) : α := alignDma ((256 : α) + (numLcuInFrame >>> 3))

def sizeOverrideBuf (numLcumb : α) : α := alignDma ((16 : α) * ((numLcumb + 7) >>> 3)) * 2

/-- `size_ir_buf` before it is aligned -/
def irBufSize (numLcuInFrame : α) : α := alignTo (numLcuInFrame <<< 1) 3 * 3

def sizeIrBuf (numLcuInFrame : α) : α := alignDma (irBufSize numLcuInFrame)

/-- `num_lcumb` -/
def numLcumb (lcuShift : Nat) (frameWidthCoded frameHeightCoded : α) : α :=
  (frameHeightCoded / ofNat (2 ^ lcuShift)) *
    ((frameWidthCoded + ofNat (2 ^ lcuShift * 8)) / ofNat (2 ^ lcuShift))

def hfiBufferNonComvEnc (frameWidth frameHeight : α) (pipes lcuShift : Nat)
    (standard : Standard) : α :=
  let numLcuInFrame := lcusInFrame lcuShift frameWidth frameHeight
  let frameHeightCoded := coded lcuShift frameHeight
  let frameWidthCoded := coded lcuShift frameWidth
  sizeEncSliceInfoBuf numLcuInFrame +
    ofNat sizeSliceCmdBuffer +
    ofNat sizeSpsPpsSliceHdr +
    sizeFrameRcBufSize 11 standard frameHeightCoded pipes +
    encBitcntBufSize numLcuInFrame +
    encBitmapBufSize numLcuInFrame +
    ofNat sizeBseSliceCmdBuf +
    ofNat sizeLambdaLut +
    sizeOverrideBuf (numLcumb lcuShift frameWidthCoded frameHeightCoded) +
    sizeIrBuf numLcuInFrame

/-! ### Lines -/

/-- To a multiple of `256 << (num_vpp_pipes_enc - 1)`. -/
def alignPipes (pipes : Nat) (size : α) : α := alignTo size (8 + (pipes - 1))

def sizeLinebuffData (isTenBit : Bool) (frameWidthCoded : α) : α :=
  let bits : α := ofNat (if isTenBit then 10 else 8) * frameWidthCoded + 1024
  alignDma bits * (1 : α) + alignDma (bits >>> 1 : α) * (2 : α)

def sizeLeftLinebuffCtrl (standard : Standard) (frameHeightCoded : α) (pipes : Nat) : α :=
  let size : α :=
    match standard with
    | .hevc => (frameHeightCoded + 32) / 32 * 4 * 16
    | .avc => (frameHeightCoded + 15) / 16 * 5 * 16
  alignDma (if decide (1 < pipes) then alignTo (size + 512) 9 * ofNat pipes else size)

def sizeLeftLinebuffReconPix (isTenBit : Bool) (frameHeightCoded : α) (pipes : Nat) : α :=
  alignPipes pipes (ofNat ((isTenBit.toNat + 1) * 2) * frameHeightCoded + 256) * 1

def sizeTopLinebuffCtrlFe (frameWidthCoded : α) (standard : Standard) : α :=
  alignDma
    (match standard with
    | .hevc => (64 : α) * (frameWidthCoded >>> 5)
    | .avc => (256 : α) + (16 : α) * (frameWidthCoded >>> 4))

def sizeLeftLinebuffCtrlFe (frameHeightCoded : α) (pipes : Nat) : α :=
  alignPipes pipes ((256 : α) + (64 : α) * (frameHeightCoded >>> 4)) * 1 * ofNat pipes

/-- `size_left_linebuff_metadata_recon_y` and `size_left_linebuff_metadata_recon_uv`, for 8 and for
4 lines a tile -/
def sizeLeftLinebuffMetadataRecon (lines : Nat) (frameHeightCoded : α) (isTenBit : Bool)
    (pipes : Nat) : α :=
  alignDma (256 + 64 * (frameHeightCoded / ofNat (lines * if isTenBit then 4 else 8))) *
    ofNat pipes

def sizeLinebuffReconPix (isTenBit : Bool) (frameWidthCoded : α) : α :=
  alignDma (ofNat (if isTenBit then 3 else 2) * frameWidthCoded)

/-- `size_line_buf_ctrl` and `size_line_buf_ctrl_id2` -/
def sizeLineBufCtrl (frameWidthCoded : α) : α := alignDma frameWidthCoded

def sizeLineBufSde (frameWidthCoded : α) : α :=
  alignDma ((256 : α) + (16 : α) * (frameWidthCoded >>> 4))

/-- `size_vpss_line_buf` before it is aligned -/
def vpssLineBuf (pipes : Nat) (frameHeightCoded frameWidthCoded : α) : α :=
  let longer := larger frameWidthCoded frameHeightCoded
  let lines : α := ((longer + 3) >>> 2) <<< 5
  (ofNat (8192 / 4 * 32) * ofNat pipes + (64 : α)) + (lines + (256 : α)) * (16 : α)

def sizeVpssLineBuf (pipes : Nat) (frameHeightCoded frameWidthCoded : α) : α :=
  alignDma (vpssLineBuf pipes frameHeightCoded frameWidthCoded)

def sizeTopLineBufFirstStgSao (frameWidthCoded : α) : α :=
  alignDma ((16 : α) * (frameWidthCoded >>> 5))

def hfiBufferLineEnc (frameWidth frameHeight : α) (isTenBit : Bool) (pipes lcuShift : Nat)
    (standard : Standard) : α :=
  let frameHeightCoded := coded lcuShift frameHeight
  let frameWidthCoded := coded lcuShift frameWidth
  sizeLineBufCtrl frameWidthCoded +
    sizeLineBufCtrl frameWidthCoded +
    sizeLinebuffData isTenBit frameWidthCoded +
    sizeLeftLinebuffCtrl standard frameHeightCoded pipes +
    sizeLeftLinebuffReconPix isTenBit frameHeightCoded pipes +
    sizeTopLinebuffCtrlFe frameWidthCoded standard +
    sizeLeftLinebuffMetadataRecon 8 frameHeightCoded isTenBit pipes +
    sizeLeftLinebuffMetadataRecon 4 frameHeightCoded isTenBit pipes +
    sizeLinebuffReconPix isTenBit frameWidthCoded +
    sizeLeftLinebuffCtrlFe frameHeightCoded pipes +
    sizeLineBufSde frameWidthCoded +
    sizeVpssLineBuf pipes frameHeightCoded frameWidthCoded +
    sizeTopLineBufFirstStgSao frameWidthCoded

/-! ### Reference frames -/

/-- `ALIGN(n, 32)`, and of half of it, for lines of `stride` bytes -/
def sizeEncRefBuffer (stride frameHeight : α) : α :=
  (alignTo frameHeight 5 + alignTo (frameHeight >>> 1) 5) * stride

def sizeEncTenBitRefBuffer (frameWidth frameHeight : α) : α :=
  let refLumaStrideInBytes := divRoundUp frameWidth 192 * 192
  let uRefStride := alignTo (4 * (refLumaStrideInBytes / 3)) 7
  let lumaSize := align4K (alignTo frameHeight 5 * uRefStride)
  let chromaSize := align4K (uRefStride * alignTo ((frameHeight + 1) >>> 1) 5)
  lumaSize + chromaSize

/-- `hfi_ubwc_metadata_plane_buffer_size`, for tiles of `tileWidth` by `tileHeight` -/
def ubwcMetadataPlaneBufferSize (frameWidth frameHeight : α) (tileWidth tileHeight : Nat) : α :=
  align4K (alignTo (divRoundUp frameWidth tileWidth) 6 *
    alignTo (divRoundUp frameHeight tileHeight) 4)

/-- A reference frame with its metadata, both of whose planes have the same size. -/
def sizeRefFrame (refWidthShift : Nat) (frameWidth frameHeight : α) (isTenBit : Bool) : α :=
  match isTenBit with
  | false =>
      sizeEncRefBuffer (alignTo frameWidth refWidthShift) frameHeight +
        ubwcMetadataPlaneBufferSize frameWidth frameHeight 32 8 +
        ubwcMetadataPlaneBufferSize frameWidth frameHeight 32 8
  | true =>
      sizeEncTenBitRefBuffer frameWidth frameHeight +
        ubwcMetadataPlaneBufferSize frameWidth frameHeight 48 4 +
        ubwcMetadataPlaneBufferSize frameWidth frameHeight 48 4

def hfiBufferDpbEnc (frameWidth frameHeight : α) (isTenBit : Bool) : α :=
  sizeRefFrame 5 frameWidth frameHeight isTenBit

def hfiBufferVpssEnc (dswidth dsheight : α) (dsEnable blur isTenBit : Bool) : α :=
  if dsEnable || blur then hfiBufferDpbEnc dswidth dsheight isTenBit else 0

def hfiBufferScratch2Enc (frameWidth frameHeight : α) (numRef : Nat) (tenBit : Bool) : α :=
  sizeRefFrame 7 frameWidth frameHeight tenBit * ofNat (numRef + 3) + 4096

/-! ### Scratch -/

def seStatsBufsize (widthCoded heightCoded frameNumLcu : α) : α :=
  let size : α :=
    if lt (ofNat (4096 * 2160)) (widthCoded * heightCoded) then 0
    else if lt (ofNat (1920 * 1088)) (widthCoded * heightCoded) then
      160 * frameNumLcu + 256 + 256
    else 1024 * frameNumLcu + 256 + 256
  alignDma size * 2

/-- `h265e_colrcbuf_size`, from the coding units of both standards -/
def colrcbufSize (widthLcuNum heightLcuNum : α) (pipes : Nat) : α :=
  alignDma (perPipe pipes (sizeCollocRc widthLcuNum heightLcuNum)) * ofNat hfiMaxColFrame

def hfiBufferScratch1Enc (frameWidth frameHeight : α) (lcuShift numRef : Nat) (tenBit : Bool)
    (pipes : Nat) (standard : Standard) : α :=
  let widthLcuNum := divRoundUp frameWidth (2 ^ lcuShift)
  let heightLcuNum := divRoundUp frameHeight (2 ^ lcuShift)
  let frameNumLcu := lcusInFrame lcuShift frameWidth frameHeight
  let widthCoded := coded lcuShift frameWidth
  let heightCoded := coded lcuShift frameHeight
  sizeLineBufCtrl widthCoded + sizeLinebuffData tenBit widthCoded +
    sizeLineBufCtrl widthCoded + sizeLeftLinebuffCtrl standard heightCoded pipes +
    vpssLineBuf pipes heightCoded widthCoded +
    alignDma (sizeCollocMv standard frameNumLcu) * ofNat (numRef + 1) +
    sizeTopLinebuffCtrlFe widthCoded standard +
    sizeLeftLinebuffCtrlFe heightCoded pipes + sizeLinebuffReconPix tenBit widthCoded +
    sizeLeftLinebuffReconPix tenBit heightCoded pipes +
    sizeLeftLinebuffMetadataRecon 8 heightCoded tenBit pipes +
    sizeLeftLinebuffMetadataRecon 4 heightCoded tenBit pipes +
    colrcbufSize widthLcuNum heightLcuNum pipes +
    sizeFrameRcBufSize 6 standard heightCoded pipes + encBitcntBufSize frameNumLcu +
    encBitmapBufSize frameNumLcu + sizeLineBufSde widthCoded +
    sizeTopLineBufFirstStgSao widthCoded +
    sizeOverrideBuf (numLcumb lcuShift widthCoded heightCoded) +
    ofNat (512 * 8 * 4) + ofNat (2048 * 8 * 10) + ofNat sizeSpsPpsSliceHdr +
    ofNat sizeSliceCmdBuffer + ofNat (8192 * 4 * 6) +
    irBufSize frameNumLcu + sizeEncSliceInfoBuf frameNumLcu + ofNat sizeLambdaLut +
    seStatsBufsize widthCoded heightCoded frameNumLcu + 1024

/-! ### Sizes -/

/-- An encoder, with what the sizes of its internal buffers read. -/
structure EncInst (α : Type) where
  codec : Codec
  /-- `fmt_dst` -/
  width : α
  height : α
  /-- `fw_caps[STAGE].value` -/
  stage : U32
  hfiRcType : U32
  /-- `is_scaling_enabled` -/
  scaling : Bool
  pipes : Nat
deriving DecidableEq, Repr

namespace EncInst

variable (inst : EncInst α)

def lcuShift : Nat := if inst.codec = .hevc then 5 else 4

def standard : Standard := if inst.codec = .hevc then .hevc else .avc

def irisVpuEncBinSize : α :=
  hfiBufferBinEnc inst.width inst.height inst.stage inst.lcuShift inst.pipes inst.hfiRcType

def irisVpuEncComvSize : α :=
  hfiBufferComvEnc inst.width inst.height inst.lcuShift 2 inst.standard

def irisVpuEncNonComvSize : α :=
  let size := hfiBufferNonComvEnc inst.width inst.height inst.pipes inst.lcuShift inst.standard
  if inst.codec == .hevc then size + ofNat sizeOneSliceBuf else size

def irisVpuEncLineSize : α :=
  hfiBufferLineEnc inst.width inst.height false inst.pipes inst.lcuShift inst.standard

def irisVpuEncVpssSize : α :=
  hfiBufferVpssEnc inst.width inst.height inst.scaling false false

def irisVpuEncScratch1Size : α :=
  match inst.codec with
  | .h264 => hfiBufferScratch1Enc inst.width inst.height 4 1 false inst.pipes .avc
  | .hevc => hfiBufferScratch1Enc inst.width inst.height 5 1 false inst.pipes .hevc
  | .vp9 => 0

def irisVpuEncScratch2Size : α := hfiBufferScratch2Enc inst.width inst.height 1 false

/-- `size` of `iris_vpu_buf_size`, from the table of an encoder -/
def bufSize : BufType → α
  | .bin => inst.irisVpuEncBinSize
  | .comv => inst.irisVpuEncComvSize
  | .nonComv => inst.irisVpuEncNonComvSize
  | .line => inst.irisVpuEncLineSize
  | .arp => ofNat hfiBufferArpEnc
  | .vpss => inst.irisVpuEncVpssSize
  | .scratch1 => inst.irisVpuEncScratch1Size
  | .scratch2 => inst.irisVpuEncScratch2Size
  | _ => 0

end EncInst

def isScalingEnabled (crop compose : Rect) : Bool :=
  crop.left != compose.left || crop.top != compose.top || crop.width != compose.width ||
    crop.height != compose.height

/-- What the sizes read of an encoder that is open. -/
def EncInst.ofEncoder (platform : Platform) (stage hfiRcType : U32) (compose : Rect)
    (inst : EncoderInst) : EncInst U32 where
  codec := inst.codec
  width := inst.formats.dst.width
  height := inst.formats.dst.height
  stage
  hfiRcType
  scaling := isScalingEnabled inst.formats.crop compose
  pipes := platform.numVppPipe.toNat

/-- A `u32` that is returned as an `int` -/
def irisVpuBufSize (inst : EncInst U32) (bufferType : BufType) : Int :=
  (inst.bufSize bufferType).toInt

end NabuIris.EncoderBuffers
