import NabuIris.InternalBuffers
import NabuIris.Lib.SizeArith
import NabuIris.SourceChange
import NabuIris.Timestamps

/-!
# Internal buffers of a decoder (`iris_vpu_buffer.c`, `iris_buffer.c`)

The sizes of the buffers that the firmware works in. Every formula is one over `SizeArith`: in words
of 32 bits it is what the driver computes, in `Nat` it is the exact size. A term with `sizeof` has
64 bits in the source and is cut to 32 when it is assigned; sums, products and `ALIGN` may be cut
at once.
-/

namespace NabuIris.VpuBuffers

open Lib Lib.SizeArith

variable {α : Type} [SizeArith α]

/-- `ALIGN(n, DMA_ALIGNMENT)` -/
def alignDma (n : α) : α := alignTo n 8

/-- `ALIGN(n, SZ_4K)` -/
def align4K (n : α) : α := alignTo n 12

def binBufferThreshold : Nat := 1280 * 736
def numHwPicBuf : Nat := 32
def maxTileColumns : Nat := 32
def vppCmdMaxSize : Nat := 2 ^ 20
def h264dMaxSlice : Nat := 1800
def h265dMaxSlice : Nat := 1200
def hdr10HistExtradataSize : Nat := 4 * 1024

/-! ### Bins -/

/-- `size_h264d_hw_bin_buffer` and `size_h265d_hw_bin_buffer`, with their CABAC ratios -/
def sizeHwBinBuffer (hdrRatio resRatio : Nat) (frameWidth frameHeight numVppPipes : α) : α :=
  let sizeYuv :=
    if lt (ofNat binBufferThreshold) (frameWidth * frameHeight) then
      (frameWidth * frameHeight * 3) >>> 1
    else ofNat (binBufferThreshold * 3 / 2)
  let sizeBinHdr := sizeYuv * ofNat hdrRatio
  let sizeBinRes := sizeYuv * ofNat resRatio
  let sizeBinHdr := alignDma (sizeBinHdr / numVppPipes) * numVppPipes
  let sizeBinRes := alignDma (sizeBinRes / numVppPipes) * numVppPipes
  sizeBinHdr + sizeBinRes

def hfiBufferBinH264d (frameWidth frameHeight numVppPipes : α) : α :=
  sizeHwBinBuffer 1 3 (alignTo frameWidth 4) (alignTo frameHeight 4) numVppPipes

def hfiBufferBinH265d (frameWidth frameHeight numVppPipes : α) : α :=
  sizeHwBinBuffer 2 2 (alignTo frameWidth 4) (alignTo frameHeight 4) numVppPipes

def hfiBufferBinVp9d (frameWidth frameHeight numVppPipes : α) : α :=
  let sizeYuv := alignTo frameWidth 4 * alignTo frameHeight 4 * 3 / 2
  let sizeYuv := larger sizeYuv (ofNat (binBufferThreshold * 3 / 2))
  let size := alignDma (sizeYuv * 1 / 2 * 2 / numVppPipes) +
    alignDma (sizeYuv * 3 / 2 * 2 / numVppPipes)
  size * numVppPipes

/-! ### Motion vectors -/

/-- A field of `hfi_buffer_comv_h264d`, of `2 ^ k` bytes a macroblock in a line of macroblocks -/
def sizeCol (frameWidthInMbs frameHeightInMbs : α) (k : Nat) : α :=
  let alignedWidth := alignTo (frameWidthInMbs <<< k) 4
  let size := alignedWidth * ((frameHeightInMbs + 1) >>> 1)
  alignTo (alignTo size 6 <<< 1) 9

def hfiBufferComvH264d (frameWidth frameHeight comvBufcount : α) : α :=
  let frameHeightInMbs := divRoundUp frameHeight 16
  let frameWidthInMbs := divRoundUp frameWidth 16
  let colZeroSize := sizeCol frameWidthInMbs frameHeightInMbs 2
  let sizeColloc := sizeCol frameWidthInMbs frameHeightInMbs 7
  let sizeColloc := sizeColloc + (colZeroSize + 512)
  sizeColloc * comvBufcount + 512

def hfiBufferComvH265d (frameWidth frameHeight comvBufcount : α) : α :=
  let frameHeightInMbs := (frameHeight + 15) >>> 4
  let frameWidthInMbs := (frameWidth + 15) >>> 4
  let size := alignTo ((frameWidthInMbs * frameHeightInMbs) <<< 8) 9
  size * comvBufcount + 512

/-! ### Commands -/

/-- `size_h264d_bse_cmd_buf`, and `size_h264d_vpp_cmd_buf` before its cap, for their buffers -/
def sizeH264dCmdBuf (sizePerBuf : Nat) (frameHeight : α) : α :=
  smaller (divRoundUp (alignTo frameHeight 5) 16 * 48) (ofNat h264dMaxSlice) * ofNat sizePerBuf

def capCmd (size : α) : α :=
  if lt (ofNat vppCmdMaxSize) size then ofNat vppCmdMaxSize else size

def sizeH264dBseCmdBuf (frameHeight : α) : α := sizeH264dCmdBuf 128 frameHeight

def sizeH264dVppCmdBuf (frameHeight : α) : α := capCmd (sizeH264dCmdBuf 512 frameHeight)

/-- `ALIGN(n, LCU_MAX_SIZE_PELS) / LCU_MIN_SIZE_PELS` -/
def numLcus (n : α) : α := alignTo n 6 / 16

/-- the slices that both command buffers of HEVC have room for -/
def h265dSlices (frameWidth frameHeight : α) : α :=
  smaller (alignDma (numLcus frameWidth * numLcus frameHeight * ofNat numHwPicBuf))
    (ofNat (h265dMaxSlice + 1))

def sizeH265dBseCmdBuf (frameWidth frameHeight : α) : α :=
  2 * h265dSlices frameWidth frameHeight * 64

def sizeH265dVppCmdBuf (frameWidth frameHeight : α) : α :=
  capCmd (2 * alignTo (h265dSlices frameWidth frameHeight) 2 * 256)

def hfiBufferNonComvH264d (frameHeight : α) : α :=
  alignDma (alignDma (sizeH264dBseCmdBuf frameHeight) + alignDma (sizeH264dVppCmdBuf frameHeight) +
    alignDma (ofNat (numHwPicBuf * 2 ^ 11)))

def hfiBufferNonComvH265d (frameWidth frameHeight : α) : α :=
  alignDma (alignDma (sizeH265dBseCmdBuf frameWidth frameHeight) +
    alignDma (sizeH265dVppCmdBuf frameWidth frameHeight) +
    alignDma (ofNat (numHwPicBuf * 20 * 22 * 4)) +
    alignDma (4 * numLcus frameWidth * numLcus frameHeight) +
    alignDma (ofNat (numHwPicBuf * 2 ^ 11)) +
    ofNat hdr10HistExtradataSize)

/-! ### Lines -/

def sizeVpssLb (frameWidth frameHeight : α) : α :=
  let luma := alignTo frameWidth 5 / 32 * 256
  let luma := alignDma luma + ofNat ((maxTileColumns - 1) * 256)
  let luma := larger luma (32 * alignTo frameHeight 3)
  let uv := alignTo (alignTo frameHeight 3 / 2 * 64) 5
  let y := alignTo (alignTo frameHeight 3 / 2 * 64) 5
  luma + luma + uv + y

def sizeH264dLbFeTopData (frameWidth : α) : α := 640 * alignTo frameWidth 4 * 3

def sizeH264dLbFeTopCtrl (frameWidth : α) : α := 64 * divRoundUp frameWidth 16

def sizeH264dLbFeLeftCtrl (frameHeight : α) : α := 64 * divRoundUp frameHeight 16

def sizeH264dLbSeTopCtrl (frameWidth : α) : α := 16 * divRoundUp frameWidth 16

def sizeH264dLbSeLeftCtrl (frameHeight : α) : α := 16 * divRoundUp frameHeight 16

def sizeH264dLbPeTopData (frameWidth : α) : α := 384 * divRoundUp frameWidth 16

def sizeH264dLbVspTop (frameWidth : α) : α := divRoundUp frameWidth 16 <<< 7

def sizeH264dLbReconDmaMetadataWr (frameHeight : α) : α := alignTo frameHeight 4 * 32

def sizeH264dQp (frameWidth frameHeight : α) : α :=
  divRoundUp frameWidth 64 * divRoundUp frameHeight 64 * 128

def hfiBufferLineH264d (frameWidth frameHeight : α) (isOpb : Bool) (numVppPipes : α) : α :=
  let size := alignDma (sizeH264dLbFeTopData frameWidth) +
    alignDma (sizeH264dLbFeTopCtrl frameWidth) +
    alignDma (sizeH264dLbFeLeftCtrl frameHeight) * numVppPipes +
    alignDma (sizeH264dLbSeTopCtrl frameWidth) +
    alignDma (sizeH264dLbSeLeftCtrl frameHeight) * numVppPipes +
    alignDma (sizeH264dLbPeTopData frameWidth) +
    alignDma (sizeH264dLbVspTop frameWidth) +
    alignDma (sizeH264dLbReconDmaMetadataWr frameHeight) * 2 +
    alignDma (sizeH264dQp frameWidth frameHeight)
  let size := alignDma size
  alignDma (size + if isOpb then sizeVpssLb frameWidth frameHeight else 0)

def sizeH265dLbFeTopData (frameWidth : α) : α := 640 * (alignTo frameWidth 6 + 8) * 2

/-- `size_h265d_lb_fe_top_ctrl` and `size_h265d_lb_fe_left_ctrl` -/
def sizeH265dLbFeCtrl (n : α) : α := 64 * numLcus n

def sizeH265dLbSeTopCtrl (frameWidth : α) : α := (128 : α) * ((frameWidth + 15) >>> 4)

def sizeH265dLbSeLeftCtrl (frameHeight : α) : α :=
  larger ((frameHeight + 15) / 8 * 16)
    (larger ((frameHeight + 31) / 8 * 16) ((frameHeight + 63) / 8 * 16))

def sizeH265dLbPeTopData (frameWidth : α) : α := 384 * (alignTo frameWidth 4 / 16)

/-- `size_h265d_lb_vsp_top` and `size_h265d_lb_vsp_left` -/
def sizeH265dLbVsp (n : α) : α := ((n + 63) >>> 6) * 128

def hfiBufferLineH265d (frameWidth frameHeight : α) (isOpb : Bool) (numVppPipes : α) : α :=
  let size := alignDma (sizeH265dLbFeTopData frameWidth) +
    alignDma (sizeH265dLbFeCtrl frameWidth) +
    alignDma (sizeH265dLbFeCtrl frameHeight) * numVppPipes +
    alignDma (sizeH265dLbSeLeftCtrl frameHeight) * numVppPipes +
    alignDma (sizeH265dLbSeTopCtrl frameWidth) +
    alignDma (sizeH265dLbPeTopData frameWidth) +
    alignDma (sizeH265dLbVsp frameWidth) +
    alignDma (sizeH265dLbVsp frameHeight) * numVppPipes +
    alignDma (sizeH264dLbReconDmaMetadataWr frameHeight) * 4 +
    alignDma (sizeH264dQp frameWidth frameHeight)
  alignDma (size + if isOpb then sizeVpssLb frameWidth frameHeight else 0)

/-- `size_vpxd_lb_fe_left_ctrl` and `size_vpxd_lb_se_left_ctrl`, for the bytes of a block -/
def sizeVpxdLbLeftCtrl (bytes : Nat) (frameHeight : α) : α :=
  larger (((frameHeight + 15) >>> 4) * ofNat bytes)
    (larger (((frameHeight + 31) >>> 5) * ofNat bytes) (((frameHeight + 63) >>> 6) * ofNat bytes))

def sizeVpxdLbFeTopCtrl (frameWidth : α) : α := (alignTo frameWidth 6 + 8) * 10 * 2

def sizeVpxdLbSeTopCtrl (frameWidth : α) : α := ((frameWidth + 15) >>> 4) * 64

def sizeVpxdLbReconDmaMetadataWr (frameHeight : α) : α :=
  alignTo (alignTo frameHeight 3 / 2 * 64) 5

def sizeVp9dLbFeTopData (frameWidth : α) : α := (alignTo (alignTo frameWidth 3) 6 + 8) * 10 * 2

def sizeVp9dLbPeTopData (frameWidth : α) : α := (alignTo (alignTo frameWidth 3) 6 >>> 6) * 176

def sizeVp9dLbVspTop (frameWidth : α) : α := (alignTo (alignTo frameWidth 3) 6 >>> 6) * 64 * 8 + 256

def hfiIris3Vp9dLbSize (frameWidth frameHeight numVppPipes : α) : α :=
  alignDma (sizeVpxdLbLeftCtrl 64 frameHeight) * numVppPipes +
    alignDma (sizeVpxdLbLeftCtrl 16 frameHeight) * numVppPipes +
    alignDma (sizeVp9dLbVspTop frameWidth) +
    alignDma (sizeVpxdLbFeTopCtrl frameWidth) +
    2 * alignDma (sizeVpxdLbReconDmaMetadataWr frameHeight) +
    alignDma (sizeVpxdLbSeTopCtrl frameWidth) +
    alignDma (sizeVp9dLbPeTopData frameWidth) +
    alignDma (sizeVp9dLbFeTopData frameWidth) +
    alignDma (sizeH264dQp frameWidth frameHeight)

def hfiBufferLineVp9d (frameWidth frameHeight : α) (isOpb : Bool) (numVppPipes : α) : α :=
  hfiIris3Vp9dLbSize frameWidth frameHeight numVppPipes +
    (if isOpb then sizeVpssLb frameWidth frameHeight else 0) + 4096

/-! ### Persistent data -/

def hfiBufferPersistH264d : α :=
  alignDma (ofNat (512 * (256 + 32) + 3328 * 66 + numHwPicBuf * 4096))

/-- without an RPU -/
def hfiBufferPersistH265d : α :=
  alignDma (ofNat (2 ^ 10 * (80 + 20) + 48 * 3072 + (128 * 32 + 1) * 4 + numHwPicBuf * 4096))

def hfiIris3Vp9dComvSize : Nat := (8192 + 63) / 64 * ((4320 + 63) / 64) * 8 * 8 * 2 * 8

def hfiBufferPersistVp9d : α :=
  alignDma (ofNat ((32 + 4) * 3840)) + alignDma (ofNat hfiIris3Vp9dComvSize) +
    alignDma (ofNat 34) + alignDma (ofNat (3 * 128)) + alignDma (ofNat (32 * 512)) +
    alignDma (ofNat (32 * 6144)) + ofNat hdr10HistExtradataSize

/-! ### Frames of the firmware -/

def irisYuvBufferSizeQc08c (width height : α) : α :=
  let yMetaPlane := alignTo (divRoundUp width 32) 6 * alignTo (divRoundUp height 8) 4
  let yPlane := align4K (alignTo width 7 * alignTo height 5)
  let uvMetaPlane := alignTo (divRoundUp (width / 2) 16) 6 * alignTo (divRoundUp (height / 2) 8) 4
  let uvPlane := align4K (alignTo width 7 * alignTo (height / 2) 5)
  align4K (align4K yMetaPlane + yPlane + align4K uvMetaPlane + uvPlane)

def irisYuvBufferSizeQc10c (width height : α) : α :=
  let stride := alignTo (width * 4 / 3) 8
  let yPlane := align4K (stride * alignTo height 4)
  let uvPlane := align4K (stride * alignTo ((height + 1) >>> 1) 4)
  let yMetaPlane := align4K (alignTo (divRoundUp width 48) 6 * alignTo (divRoundUp height 4) 4)
  let uvMetaPlane := align4K (alignTo (divRoundUp ((width + 1) >>> 1) 24) 6 *
    alignTo (divRoundUp ((height + 1) >>> 1) 4) 4)
  let size := yPlane + uvPlane + yMetaPlane + uvMetaPlane
  align4K (size + larger (ofNat (16384 + 8192)) (stride * 48))

/-! ### Sizes -/

/-- A decoder, with what the sizes of its internal buffers read. -/
structure VpuInst (α : Type) where
  codec : Codec
  /-- `fmt_src` -/
  width : α
  height : α
  /-- `fmt_dst` -/
  dstWidth : α
  dstHeight : α
  rawFormat : RawFormat
  numVppPipe : α
deriving DecidableEq, Repr

namespace VpuInst

variable (inst : VpuInst α)

def irisVpuDecBinSize : α :=
  match inst.codec with
  | .h264 => hfiBufferBinH264d inst.width inst.height inst.numVppPipe
  | .hevc => hfiBufferBinH265d inst.width inst.height inst.numVppPipe
  | .vp9 => hfiBufferBinVp9d inst.width inst.height inst.numVppPipe

def irisVpuDecComvSize : α :=
  match inst.codec with
  | .h264 => hfiBufferComvH264d inst.width inst.height (ofNat videoMaxFrame)
  | .hevc => hfiBufferComvH265d inst.width inst.height (ofNat videoMaxFrame)
  | .vp9 => 0

def irisVpuDecPersistSize : α :=
  match inst.codec with
  | .h264 => hfiBufferPersistH264d
  | .hevc => hfiBufferPersistH265d
  | .vp9 => hfiBufferPersistVp9d

/-- NV12 or P010, which are all that a decoder has -/
def irisSplitModeEnabled : Bool := inst.rawFormat == .nv12 || inst.rawFormat == .p010

/-- `iris_get_buffer_size` for `BUF_DPB` -/
def irisVpuDecDpbSize : α :=
  if inst.irisSplitModeEnabled then
    match inst.rawFormat with
    | .p010 => irisYuvBufferSizeQc10c inst.dstWidth inst.dstHeight
    | .nv12 => irisYuvBufferSizeQc08c inst.dstWidth inst.dstHeight
  else 0

def irisVpuDecNonComvSize : α :=
  match inst.codec with
  | .h264 => hfiBufferNonComvH264d inst.height
  | .hevc => hfiBufferNonComvH265d inst.width inst.height
  | .vp9 => 0

def irisVpuDecLineSize : α :=
  let isOpb := inst.irisSplitModeEnabled
  match inst.codec with
  | .h264 => hfiBufferLineH264d inst.width inst.height isOpb inst.numVppPipe
  | .hevc => hfiBufferLineH265d inst.width inst.height isOpb inst.numVppPipe
  | .vp9 => hfiBufferLineVp9d inst.width inst.height isOpb inst.numVppPipe

def irisVpuDecScratch1Size : α :=
  inst.irisVpuDecComvSize + inst.irisVpuDecNonComvSize + inst.irisVpuDecLineSize

/-- `size` of `iris_vpu_buf_size`, from the table of a decoder -/
def bufSize : BufType → α
  | .bin => inst.irisVpuDecBinSize
  | .comv => inst.irisVpuDecComvSize
  | .nonComv => inst.irisVpuDecNonComvSize
  | .line => inst.irisVpuDecLineSize
  | .persist => inst.irisVpuDecPersistSize
  | .dpb => inst.irisVpuDecDpbSize
  | .scratch1 => inst.irisVpuDecScratch1Size
  | _ => 0

end VpuInst

/-- A `u32` that is returned as an `int` -/
def irisVpuBufSize (inst : VpuInst U32) (bufferType : BufType) : Int :=
  (inst.bufSize bufferType).toInt

end NabuIris.VpuBuffers
