import NabuIris.Proof.ClockEstimate

/-!
# Bitstream buffers of larger streams

A bitstream buffer depends on the side of 4096x2304 that a stream lies on. Above it H.264 and HEVC
get more and VP9, whose smaller streams get a whole frame, gets less.
-/

namespace NabuIris.FormatSizes

open Lib

variable {platform : Platform} {codec : Codec} {small large : LoadInst}

/-! ### Streams -/

def streamWidth (inst : LoadInst) : Nat :=
  max inst.formats.src.width.toNat inst.formats.crop.width.toNat

def streamHeight (inst : LoadInst) : Nat :=
  max inst.formats.src.height.toNat inst.formats.crop.height.toNat

def streamMbs (inst : LoadInst) : Nat := frameMbs (streamWidth inst) (streamHeight inst)

/-- The limit that the platform sets is far from the width of a word. -/
theorem irisGetMbpf_stream {inst : LoadInst} (hlimit : streamMbs inst ≤ platform.maxMbpf.toNat) :
    (irisGetMbpf inst).toNat = streamMbs inst := by
  have hfew : streamMbs inst < 2 ^ 27 :=
    (hlimit.trans (maxMbpf_le platform)).trans_lt (by decide)
  rw [irisGetMbpf_toNat]
  exact wrappedMbs_eq hfew

theorem frameMbs_mono {width height width' height' : Nat} (hwidth : width ≤ width')
    (hheight : height ≤ height') : frameMbs width height ≤ frameMbs width' height' :=
  Nat.mul_le_mul (Nat.div_le_div_right (Nat.add_le_add_right hheight 15))
    (Nat.div_le_div_right (Nat.add_le_add_right hwidth 15))

/-- A platform that has larger streams gives them less than it gives VP9 below. -/
theorem bitstreamBytes_le_iff (hlarge : 36864 < platform.maxMbpf.toNat) (codec : Codec) :
    bitstreamBytes platform codec false ≤ bitstreamBytes platform codec true ↔ codec ≠ .vp9 := by
  cases platform with
  | qcs8300 => exact absurd hlarge (by decide)
  | sm8150 => cases codec <;> decide
  | sm8250 => cases codec <;> decide
  | sm8550 => cases codec <;> decide
  | sm8650 => cases codec <;> decide

/-- **Bitstream buffers are monotone** for every codec but VP9, and for VP9 on either side of
4096x2304. -/
theorem dec_bitstream_size_le_iff (hcodec : small.codec = large.codec)
    (hwidth : streamWidth small ≤ streamWidth large)
    (hheight : streamHeight small ≤ streamHeight large)
    (hlimit : streamMbs large ≤ platform.maxMbpf.toNat) :
    (irisDecBitstreamBufferSize platform small).toNat ≤
        (irisDecBitstreamBufferSize platform large).toNat ↔
      ¬(small.codec = .vp9 ∧ streamMbs small ≤ 36864 ∧ 36864 < streamMbs large) := by
  have hmbs : streamMbs small ≤ streamMbs large := frameMbs_mono hwidth hheight
  rw [irisDecBitstreamBufferSize_toNat, irisDecBitstreamBufferSize_toNat,
    irisGetMbpf_stream (hmbs.trans hlimit), irisGetMbpf_stream hlimit, ← hcodec, sideOf, sideOf]
  rcases Nat.lt_or_ge 36864 (streamMbs small) with hsmall | hsmall
  · rw [decide_eq_true hsmall, decide_eq_true (hsmall.trans_le hmbs)]
    exact iff_of_true le_rfl fun h => absurd h.2.1 (Nat.not_le.2 hsmall)
  rcases Nat.lt_or_ge 36864 (streamMbs large) with hlarge | hlarge
  · rw [decide_eq_false (Nat.not_lt.2 hsmall), decide_eq_true hlarge,
      bitstreamBytes_le_iff (hlarge.trans_le hlimit)]
    exact not_congr ⟨fun h => ⟨h, hsmall, hlarge⟩, fun h => h.1⟩
  · rw [decide_eq_false (Nat.not_lt.2 hsmall), decide_eq_false (Nat.not_lt.2 hlarge)]
    exact iff_of_true le_rfl fun h => absurd h.2.2 (Nat.not_lt.2 hlarge)

/-- A decoder for a stream of the given size. -/
def streamInst (codec : Codec) (width height : U32) : LoadInst :=
  { (FormatInst.allocated .decoder).toLoadInst with
    codec
    formats.src.width := width
    formats.src.height := height
    formats.crop := { left := 0, top := 0, width, height } }

theorem dec_bitstream_size_le_iff_hevc :
    (irisDecBitstreamBufferSize .sm8150 (streamInst .hevc 4096 2304)).toNat ≤
        (irisDecBitstreamBufferSize .sm8150 (streamInst .hevc 8192 4320)).toNat ↔
      ¬((streamInst .hevc 4096 2304).codec = .vp9 ∧
        streamMbs (streamInst .hevc 4096 2304) ≤ 36864 ∧
        36864 < streamMbs (streamInst .hevc 8192 4320)) :=
  dec_bitstream_size_le_iff rfl (by decide) (by decide) (by decide)

/-- A VP9 stream of 4096x2304 has larger buffers than one of 8192x4320. -/
theorem dec_bitstream_size_vp9 :
    streamMbs (streamInst .vp9 8192 4320) = Platform.sm8150.maxMbpf.toNat ∧
      ¬(irisDecBitstreamBufferSize .sm8150 (streamInst .vp9 4096 2304)).toNat ≤
        (irisDecBitstreamBufferSize .sm8150 (streamInst .vp9 8192 4320)).toNat := by
  decide

end NabuIris.FormatSizes
