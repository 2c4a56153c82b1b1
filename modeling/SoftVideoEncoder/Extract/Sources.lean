import SoftVideoEncoder.Extract.GraphicBuffer
import SoftVideoEncoder.Omx.ScratchBuffer

/-!
# How the converters address the source

`extractGraphicBuffer` describes the locked buffer to the converter by a pitch and plane
addresses derived from the `ANativeWindowBuffer`. The pitch is `stride * 4` on PowerVR for every
format, and for the CPU formats other than the three YUV ones elsewhere: so the read-back
`mShmData`, packed by `glReadPixels` at `4 * width` bytes a row, is walked at `4 * stride`, and a
YV12 buffer on PowerVR at four times its luma pitch. The YV12 descriptor takes the chroma pitch
as `stride / 2`, where the HAL aligns it to 16 bytes; on a CPU build the two agree for strides
that are multiples of 32 and even heights, and the destination then holds the planar frame of
the HAL's planes (`extractGraphicBuffer_yv12_planarFrame`).
-/

namespace SoftVideoEncoder

def anwMetadata (format stride height : I32) : MetadataBuffer :=
  ⟨kMetadataBufferTypeANWBuffer, ⟨1, stride, height, format⟩, -1, 0⟩

def lockedAt (bits : Addr) : MapperEnv := ⟨true, true, bits, ⟨0, 0, 0, 0, 0, 0⟩⟩

theorem readMetadata_powervr_srcStride {L : MetadataLayout} {fenceOk : Bool} {src : MetadataBuffer}
    {srcSize width height : SizeT} {info : SourceLayout} {metadata : MetadataBuffer}
    (hanw : src.eType = kMetadataBufferTypeANWBuffer)
    (h : readMetadata L true fenceOk src srcSize width height = (some info, metadata)) :
    info.srcStride = int32ToSizeT src.pBuffer.stride * 4 := by
  unfold readMetadata at h
  simp only [hanw, if_true, true_or] at h
  split_ifs at h <;> cases h <;> rfl

def powervrWithDisplay : Component :=
  initEgl (qcifAvcPowervr.initial lp64) qcifRgbaMetadata ⟨1, 1, 1, 1⟩

def paddedRgbaExtraction : Extraction :=
  extractGraphicBuffer lp64 powervrWithDisplay 0x300000 (lockedAt 0x200000) 0x100000 1573632
    (anwMetadata halPixelFormatRGBA8888 1408 768) 24 1366 768

/-- `glReadPixels` packs the 1366-pixel rows at 5464 bytes, and the converter walks them at
5632: the luma it stores for pixel `(0, 767)` comes from offset `767 * 5632` of `mShmData`, past
the `4 * 1366 * 768` bytes read back. -/
theorem paddedRgbaReadback_walkedAtGrallocStride (mem : Mem) :
    paddedRgbaExtraction.readback = some ⟨0x300000, 1366, 768⟩ ∧
      paddedRgbaExtraction.conversion =
        some (.rgb32 0x100000 1366 768 0x300000 1366 768 5632 false) ∧
      (5632 : SizeT) ≠ 4 * 1366 ∧
      (∃ stores, (Conversion.rgb32 0x100000 1366 768 0x300000 1366 768 5632 false).stores mem =
          some stores ∧ ∃ v, ((0x100000 : Addr) + lumaOffset 1366 767 0, v) ∈ stores ∧
        (v.toNat : Int) = atPixel bt601Luma mem 0x300000 5632 false 767 0) ∧
      4 * 1366 * 768 ≤ 767 * 5632 := by
  refine ⟨by decide, by decide, by decide, ?_, by decide⟩
  have hw : (1366 : SizeT).toNat % 2 = 0 := by decide
  have hh : (768 : SizeT).toNat % 2 = 0 := by decide
  exact ⟨_, convertRGB32ToPlanar_eq_some mem 0x100000 1366 768 0x300000 1366 768 5632 false hw hh,
    _, (mem_rgbRows_zero mem 0x100000 1366 768 0x300000 1366 768 5632 false _ _).mpr
      ⟨767, by decide, 0, by decide, .inl ⟨by decide, rfl⟩⟩, readPixel_luma_toNat _ _ _⟩

def align16 (x : Nat) : Nat := (x + 15) / 16 * 16

/-- A YV12 buffer of stride `s` and height `hb` at `bits` as the HAL defines the format: luma
pitch `s`, the Cr plane after the luma plane and the Cb plane after it, chroma rows of
`ALIGN(s/2, 16)` bytes. -/
def halYv12Ycbcr (bits : Addr) (s hb : Nat) : AndroidYcbcr :=
  ⟨bits, bits + (s * hb + align16 (s / 2) * hb / 2 : Nat), bits + (s * hb : Nat), (s : SizeT),
    (align16 (s / 2) : Nat), 1⟩

/-- A QCIF YV12 buffer of stride 176 on a CPU build: the descriptor's chroma pitch is 88 and its
Cb plane starts `88 * 72` bytes after Cr, where the HAL has 96 and `96 * 72`. -/
theorem yv12Stride176_chromaPitchUnaligned :
    (extractGraphicBuffer lp64 (qcifAvc.initial lp64) 0 (lockedAt 0x200000) 0x100000 38016
        (anwMetadata halPixelFormatYV12 176 144) 24 176 144).conversion =
      some (.flexYUV 0x100000 176 144
        ⟨0x200000, 0x200000 + 176 * 144 + 88 * 72, 0x200000 + 176 * 144, 176, 88, 1⟩ 176 144) ∧
    halYv12Ycbcr 0x200000 176 144 =
      ⟨0x200000, 0x200000 + 176 * 144 + 96 * 72, 0x200000 + 176 * 144, 176, 96, 1⟩ :=
  ⟨by decide, by decide⟩

theorem flexYUV_stores_planarFrame (mem old : Mem) (dst : Addr) {width height : SizeT}
    (ycbcr : AndroidYcbcr) (hw : width.toNat < 2 ^ 31) (hh : height.toNat < 2 ^ 31) :
    ∃ stores, (Conversion.flexYUV dst width height ycbcr (sizeTToInt32 width)
        (sizeTToInt32 height)).stores mem = some stores ∧
      PlanarFrame dst width.toNat height.toNat width.toNat height.toNat (ycbcrLuma mem ycbcr)
        (ycbcrChroma mem ycbcr ycbcr.cb) (ycbcrChroma mem ycbcr ycbcr.cr) old
        (applyStores old stores) := by
  have hw' := sizeTToInt32_toNat_of_lt hw
  have hh' := sizeTToInt32_toNat_of_lt hh
  have hprod : width.toNat * height.toNat < 2 ^ 31 * 2 ^ 31 := Nat.mul_lt_mul'' hw hh
  have hhalf : height.toNat / 2 * (width.toNat / 2) ≤ width.toNat * height.toNat := by
    rw [Nat.mul_comm width.toNat]
    exact Nat.mul_le_mul (Nat.div_le_self _ _) (Nat.div_le_self _ _)
  have h := planarFrame_flexLuma_append mem dst width height ycbcr old
    (msb_eq_false_of_toNat_lt (by rwa [hw'])) hw'.le (msb_eq_false_of_toNat_lt (by rwa [hh']))
    hh'.le (by omega) (mem_flexChroma mem dst width height ycbcr _ _)
  rw [hw', hh'] at h
  exact ⟨_, rfl, h⟩

private theorem readMetadata_yv12_cpu {L : MetadataLayout} {fenceOk : Bool} {src : MetadataBuffer}
    {srcSize width height : SizeT} {info : SourceLayout} {metadata : MetadataBuffer}
    (hanw : src.eType = kMetadataBufferTypeANWBuffer)
    (hfmt : src.pBuffer.format = halPixelFormatYV12)
    (h : readMetadata L false fenceOk src srcSize width height = (some info, metadata)) :
    info.format = halPixelFormatYV12 ∧ info.srcStride = int32ToSizeT src.pBuffer.stride ∧
      info.srcVStride = int32ToSizeT src.pBuffer.height := by
  unfold readMetadata at h
  simp only [hanw, hfmt, if_true, Bool.false_eq_true, false_or, ne_eq, not_true_eq_false,
    false_and, if_false] at h
  split_ifs at h <;> cases h <;> exact ⟨rfl, rfl, rfl⟩

private theorem yv12Descriptor_eq_hal (bits : Addr) {stride vstride : SizeT}
    (hs32 : stride.toNat % 32 = 0) (hv2 : vstride.toNat % 2 = 0) :
    (⟨bits, bits + stride * vstride + (stride >>> 1) * (vstride >>> 1), bits + stride * vstride,
      stride, stride >>> 1, 1⟩ : AndroidYcbcr) =
      halYv12Ycbcr bits stride.toNat vstride.toNat := by
  have haligned : align16 (stride.toNat / 2) = stride.toNat / 2 := by unfold align16; omega
  obtain ⟨t, ht⟩ : ∃ t, vstride.toNat = 2 * t := ⟨vstride.toNat / 2, by omega⟩
  have hchroma : stride.toNat / 2 * vstride.toNat / 2 = stride.toNat / 2 * (vstride.toNat / 2) := by
    rw [ht, Nat.mul_left_comm, Nat.mul_div_cancel_left _ two_pos, Nat.mul_div_cancel_left _ two_pos]
  simp only [halYv12Ycbcr, haligned, hchroma, ushiftRight_one_eq_natCast stride,
    ushiftRight_one_eq_natCast vstride, Nat.cast_add, Nat.cast_mul, natCast_toNat, add_assoc]

section Yv12

variable {L : MetadataLayout} {s : Component} {shmData : Addr} {env : MapperEnv} {dst : Addr}
  {dstSize : SizeT} {src : MetadataBuffer} {srcSize width height : SizeT}
  (hcpu : s.mIsPowervr = false) (hanw : src.eType = kMetadataBufferTypeANWBuffer)
  (hfmt : src.pBuffer.format = halPixelFormatYV12) (hs : src.pBuffer.stride.msb = false)
  (hs32 : src.pBuffer.stride.toNat % 32 = 0) (hv : src.pBuffer.height.msb = false)
  (hv2 : src.pBuffer.height.toNat % 2 = 0)
include hcpu hanw hfmt hs hs32 hv hv2

private theorem extractGraphicBuffer_yv12_halLayout {c : Conversion}
    (hc : (extractGraphicBuffer L s shmData env dst dstSize src srcSize width height).conversion =
      some c) :
    c = .flexYUV dst width height
      (halYv12Ycbcr env.bits src.pBuffer.stride.toNat src.pBuffer.height.toNat)
      (sizeTToInt32 width) (sizeTToInt32 height) := by
  obtain ⟨info, metadata, hmeta, -, -, hswitch⟩ := extractGraphicBuffer_conversion_eq_some hc
  rw [hcpu] at hmeta
  obtain ⟨hf, hstride, hvstride⟩ := readMetadata_yv12_cpu hanw hfmt hmeta
  rw [formatSwitch, if_pos hf] at hswitch
  cases hswitch
  rw [← int32ToSizeT_toNat_of_msb_false hs, ← int32ToSizeT_toNat_of_msb_false hv, hstride,
    hvstride, ← yv12Descriptor_eq_hal]
  · rwa [int32ToSizeT_toNat_of_msb_false hs]
  · rwa [int32ToSizeT_toNat_of_msb_false hv]

example : (extractGraphicBuffer lp64 (qcifAvc.initial lp64) 0 (lockedAt 0x200000) 0x100000 38016
    (anwMetadata halPixelFormatYV12 192 144) 24 176 144).conversion =
      some (.flexYUV 0x100000 176 144 (halYv12Ycbcr 0x200000 192 144) 176 144) := by
  decide

/-- With a geometry below `2^31`, the conversion of such a buffer leaves the planar frame of the
HAL's planes. -/
theorem extractGraphicBuffer_yv12_planarFrame (hw : width.toNat < 2 ^ 31)
    (hh : height.toNat < 2 ^ 31) {c : Conversion}
    (hc : (extractGraphicBuffer L s shmData env dst dstSize src srcSize width height).conversion =
      some c) (mem old : Mem) :
    ∃ stores, c.stores mem = some stores ∧
      PlanarFrame dst width.toNat height.toNat width.toNat height.toNat
        (ycbcrLuma mem (halYv12Ycbcr env.bits src.pBuffer.stride.toNat src.pBuffer.height.toNat))
        (ycbcrChroma mem (halYv12Ycbcr env.bits src.pBuffer.stride.toNat src.pBuffer.height.toNat)
          (halYv12Ycbcr env.bits src.pBuffer.stride.toNat src.pBuffer.height.toNat).cb)
        (ycbcrChroma mem (halYv12Ycbcr env.bits src.pBuffer.stride.toNat src.pBuffer.height.toNat)
          (halYv12Ycbcr env.bits src.pBuffer.stride.toNat src.pBuffer.height.toNat).cr)
        old (applyStores old stores) := by
  rw [extractGraphicBuffer_yv12_halLayout hcpu hanw hfmt hs hs32 hv hv2 hc]
  exact flexYUV_stores_planarFrame mem old dst _ hw hh

end Yv12

theorem qcifYv12Stride192_planarFrame :
    ∃ c, (extractGraphicBuffer lp64 (qcifAvc.initial lp64) 0 (lockedAt 0x200000) 0x100000 38016
        (anwMetadata halPixelFormatYV12 192 144) 24 176 144).conversion = some c ∧
      ∃ stores, c.stores addressByte = some stores ∧
        PlanarFrame 0x100000 (176 : SizeT).toNat (144 : SizeT).toNat (176 : SizeT).toNat
          (144 : SizeT).toNat
          (ycbcrLuma addressByte (halYv12Ycbcr 0x200000 (192 : I32).toNat (144 : I32).toNat))
          (ycbcrChroma addressByte (halYv12Ycbcr 0x200000 (192 : I32).toNat (144 : I32).toNat)
            (halYv12Ycbcr 0x200000 (192 : I32).toNat (144 : I32).toNat).cb)
          (ycbcrChroma addressByte (halYv12Ycbcr 0x200000 (192 : I32).toNat (144 : I32).toNat)
            (halYv12Ycbcr 0x200000 (192 : I32).toNat (144 : I32).toNat).cr)
          addressByte (applyStores addressByte stores) :=
  have hc : (extractGraphicBuffer lp64 (qcifAvc.initial lp64) 0 (lockedAt 0x200000) 0x100000
      38016 (anwMetadata halPixelFormatYV12 192 144) 24 176 144).conversion =
        some (.flexYUV 0x100000 176 144 (halYv12Ycbcr 0x200000 192 144) 176 144) := by
    decide
  ⟨_, hc, extractGraphicBuffer_yv12_planarFrame (by rfl) (by rfl) (by rfl) (by decide) (by decide)
    (by decide) (by decide) (by decide) (by decide) hc addressByte addressByte⟩

end SoftVideoEncoder
