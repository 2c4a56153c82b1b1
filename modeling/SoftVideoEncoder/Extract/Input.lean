import SoftVideoEncoder.Extract.Mapper

/-!
# From an accepted input buffer to the planar frame

In metadata mode, a buffer `validateInputBuffer` accepts is long enough for both metadata records,
so `extractGraphicBuffer` never rejects it for its size
(`validateInputBuffer_meta_passesSizeCheck`).

On a component not built for PowerVR, `extractGraphicBuffer` reads nothing back through the GPU and
unlocks every buffer it locked (`extractGraphicBuffer_cpu_releasesLock`). It hands every YUV
buffer to `ConvertFlexYUVToPlanar` and every RGB buffer to `ConvertRGB32ToPlanar`, reading the
buffer where the mapper locked it, and for the two fixed layouts the destination then holds what
the format means: an NV21 buffer (`HAL_PIXEL_FORMAT_YCrCb_420_SP`, Cr first in each chroma pair)
gives the planar frame whose Cb plane is the odd bytes of the pairs
(`extractGraphicBuffer_nv21_planarFrame`), and an RGBA, RGBX or BGRA buffer gives the BT.601 frame
of its pixels at a pitch of four bytes a pixel of its stride
(`extractGraphicBuffer_rgb_planarFrame`). A flexible YUV buffer gives the planar frame of the planes
the mapper's `lockYCbCr` describes (`extractGraphicBuffer_flexYcbcr_planarFrame`).

On PowerVR with a display, the GPU formats are read back into `mShmData` at `4 * width` bytes a
row and converted from there at four bytes a pixel of the buffer's stride; when the stride is the
width the two agree and the frame is the BT.601 frame of the read-back pixels
(`extractGraphicBuffer_powervr_planarFrame`). The converter still takes BGRA order for a BGRA
buffer, although the read-back bytes are in the `GL_RGBA` order `glReadPixels` was asked for.

A gralloc-source record carries no format and no stride, and on either platform the buffer behind
it is converted as RGBA at four bytes a pixel of the picture's width
(`extractGraphicBuffer_grallocSource_planarFrame`).
-/

namespace SoftVideoEncoder

/-- In metadata mode, a buffer the validator accepts passes the size check of either metadata
type: only a fence that fails to signal, or a type that is neither, makes the extraction return
before it locks. -/
theorem validateInputBuffer_meta_passesSizeCheck (L : MetadataLayout) {s : Component}
    (hmeta : s.mInputDataIsMeta = true) {nFilledLen : U32}
    (hacc : validateInputBuffer L s nFilledLen = .errorNone) {src : MetadataBuffer}
    (htype : src.eType = kMetadataBufferTypeANWBuffer ∨
      src.eType = kMetadataBufferTypeGrallocSource)
    (isPowervr : Bool) (width height : SizeT) :
    (readMetadata L isPowervr true src (nFilledLen.setWidth 64) width height).1.isSome = true := by
  have hbound : L.bufferSize < 2 ^ 64 := L.fits.trans (by decide)
  have hlen : L.bufferSize ≤ nFilledLen.toNat := by
    simp only [validateInputBuffer, hmeta, if_true, BitVec.lt_def, BitVec.toNat_setWidth,
      BitVec.toNat_ofNat, Nat.mod_eq_of_lt hbound] at hacc
    split at hacc
    · cases hacc
    · rename_i h
      have := nFilledLen.isLt
      rw [Nat.mod_eq_of_lt (by omega)] at h
      omega
  have hsizes : ∀ n ≤ L.bufferSize,
      ¬ nFilledLen.setWidth 64 < BitVec.ofNat 64 n := by
    intro n hn
    rw [BitVec.lt_def, BitVec.toNat_setWidth, BitVec.toNat_ofNat,
      Nat.mod_eq_of_lt (by omega)]
    omega
  have hnative := hsizes _ (le_max_left L.sizeofVideoNativeMetadata L.sizeofVideoGrallocMetadata)
  have hgralloc := hsizes _ (le_max_right L.sizeofVideoNativeMetadata L.sizeofVideoGrallocMetadata)
  unfold readMetadata
  rcases htype with h | h
  · simp only [h, if_true, hnative, if_false]
    split_ifs <;> rfl
  · simp only [h, kMetadataBufferTypeANWBuffer, kMetadataBufferTypeGrallocSource, hgralloc]
    rfl

theorem metadataMode_rgbaPassesSizeCheck :
    (readMetadata lp64 false true qcifRgbaMetadata ((24 : U32).setWidth 64) 176 144).1.isSome =
      true :=
  validateInputBuffer_meta_passesSizeCheck lp64
    (s := step lp64 (qcifAvc.initial lp64)
      (.setParameter (.storeMetaData ⟨true, kInputPortIndex, omxTrue⟩)))
    (by decide) (by decide) (.inl rfl) false 176 144

section Metadata

variable {L : MetadataLayout} {fenceOk : Bool} {src : MetadataBuffer} {srcSize width height : SizeT}
  {info : SourceLayout} {metadata : MetadataBuffer}
  (hanw : src.eType = kMetadataBufferTypeANWBuffer)
include hanw

private theorem readMetadata_cpuYuv (hfmt : src.pBuffer.format = halPixelFormatYV12 ∨
      src.pBuffer.format = halPixelFormatYCrCb420SP ∨
      src.pBuffer.format = halPixelFormatYCbCr420888)
    (h : readMetadata L false fenceOk src srcSize width height = (some info, metadata)) :
    info.format = src.pBuffer.format ∧ info.srcStride = int32ToSizeT src.pBuffer.stride ∧
      info.srcVStride = int32ToSizeT src.pBuffer.height := by
  have hyuv : ¬ (src.pBuffer.format ≠ halPixelFormatYV12 ∧
      src.pBuffer.format ≠ halPixelFormatYCrCb420SP ∧
      src.pBuffer.format ≠ halPixelFormatYCbCr420888) := by tauto
  unfold readMetadata at h
  simp only [hanw, if_true, Bool.false_eq_true, false_or, if_neg hyuv] at h
  split_ifs at h <;> cases h <;> exact ⟨rfl, rfl, rfl⟩

private theorem readMetadata_cpuRgb (hfmt : src.pBuffer.format ≠ halPixelFormatYV12 ∧
      src.pBuffer.format ≠ halPixelFormatYCrCb420SP ∧
      src.pBuffer.format ≠ halPixelFormatYCbCr420888)
    (h : readMetadata L false fenceOk src srcSize width height = (some info, metadata)) :
    info.format = src.pBuffer.format ∧ info.srcStride = int32ToSizeT src.pBuffer.stride * 4 := by
  unfold readMetadata at h
  simp only [hanw, if_true, Bool.false_eq_true, false_or, if_pos hfmt] at h
  split_ifs at h <;> cases h <;> exact ⟨rfl, rfl⟩

end Metadata

private theorem frameBytes_le {width height : SizeT} (hw : width.toNat < 2 ^ 31)
    (hh : height.toNat < 2 ^ 31) :
    width.toNat * height.toNat + 2 * (height.toNat / 2 * (width.toNat / 2)) ≤ 2 ^ 64 := by
  have hprod : width.toNat * height.toNat < 2 ^ 31 * 2 ^ 31 := Nat.mul_lt_mul'' hw hh
  have hhalf : height.toNat / 2 * (width.toNat / 2) ≤ width.toNat * height.toNat := by
    rw [Nat.mul_comm width.toNat]
    exact Nat.mul_le_mul (Nat.div_le_self _ _) (Nat.div_le_self _ _)
  omega

section Cpu

variable {L : MetadataLayout} {s : Component} {shmData : Addr} {env : MapperEnv} {dst : Addr}
  {dstSize : SizeT} {src : MetadataBuffer} {srcSize width height : SizeT}

/-- On a CPU build, with a geometry below `2^31`, an NV21 buffer is converted to the planar frame
whose luma is its first plane and whose Cb and Cr planes are the second and first bytes of its
chroma pairs. -/
theorem extractGraphicBuffer_nv21_planarFrame (hcpu : s.mIsPowervr = false)
    (hanw : src.eType = kMetadataBufferTypeANWBuffer)
    (hfmt : src.pBuffer.format = halPixelFormatYCrCb420SP) (hw : width.toNat < 2 ^ 31)
    (hh : height.toNat < 2 ^ 31) {c : Conversion}
    (hc : (extractGraphicBuffer L s shmData env dst dstSize src srcSize width height).conversion =
      some c) (mem old : Mem) :
    ∃ stores, c.stores mem = some stores ∧
      PlanarFrame dst width.toNat height.toNat width.toNat height.toNat
        (fun j i => mem (env.bits + j * int32ToSizeT src.pBuffer.stride + i))
        (fun r c => mem (env.bits + int32ToSizeT src.pBuffer.stride *
          int32ToSizeT src.pBuffer.height + 1 + r * int32ToSizeT src.pBuffer.stride + c * 2))
        (fun r c => mem (env.bits + int32ToSizeT src.pBuffer.stride *
          int32ToSizeT src.pBuffer.height + r * int32ToSizeT src.pBuffer.stride + c * 2))
        old (applyStores old stores) := by
  obtain ⟨info, metadata, hmeta, -, -, hswitch⟩ := extractGraphicBuffer_conversion_eq_some hc
  rw [hcpu] at hmeta
  obtain ⟨hf, hstride, hvstride⟩ := readMetadata_cpuYuv hanw (.inr (.inl hfmt)) hmeta
  rw [hfmt] at hf
  rw [formatSwitch, if_neg (by rw [hf]; decide), if_pos hf] at hswitch
  cases hswitch
  rw [← hstride, ← hvstride]
  exact flexYUV_stores_planarFrame mem old dst _ hw hh

def qcifNv21Extraction : Extraction :=
  extractGraphicBuffer lp64 (qcifAvc.initial lp64) 0 (lockedAt 0x200000) 0x100000 38016
    (anwMetadata halPixelFormatYCrCb420SP 176 144) 24 176 144

theorem qcifNv21_planarFrame :
    ∃ c, qcifNv21Extraction.conversion = some c ∧
      ∃ stores, c.stores addressByte = some stores ∧
        PlanarFrame 0x100000 (176 : SizeT).toNat (144 : SizeT).toNat (176 : SizeT).toNat
          (144 : SizeT).toNat
          (fun j i => addressByte (0x200000 + j * int32ToSizeT 176 + i))
          (fun r c => addressByte (0x200000 + int32ToSizeT 176 * int32ToSizeT 144 + 1 +
            r * int32ToSizeT 176 + c * 2))
          (fun r c => addressByte (0x200000 + int32ToSizeT 176 * int32ToSizeT 144 +
            r * int32ToSizeT 176 + c * 2))
          addressByte (applyStores addressByte stores) :=
  have hc : qcifNv21Extraction.conversion = some (.flexYUV 0x100000 176 144
      ⟨0x200000, 0x200000 + 176 * 144 + 1, 0x200000 + 176 * 144, 176, 176, 2⟩ 176 144) := by
    decide
  ⟨_, hc, extractGraphicBuffer_nv21_planarFrame (by rfl) (by rfl) (by rfl) (by decide) (by decide)
    hc addressByte addressByte⟩

/-- On a CPU build, with a geometry below `2^31`, a flexible YUV buffer
(`HAL_PIXEL_FORMAT_YCbCr_420_888`) is converted to the planar frame of the planes the mapper's
`lockYCbCr` describes. -/
theorem extractGraphicBuffer_flexYcbcr_planarFrame (hcpu : s.mIsPowervr = false)
    (hanw : src.eType = kMetadataBufferTypeANWBuffer)
    (hfmt : src.pBuffer.format = halPixelFormatYCbCr420888) (hw : width.toNat < 2 ^ 31)
    (hh : height.toNat < 2 ^ 31) {c : Conversion}
    (hc : (extractGraphicBuffer L s shmData env dst dstSize src srcSize width height).conversion =
      some c) (mem old : Mem) :
    ∃ stores, c.stores mem = some stores ∧
      PlanarFrame dst width.toNat height.toNat width.toNat height.toNat (ycbcrLuma mem env.ycbcr)
        (ycbcrChroma mem env.ycbcr env.ycbcr.cb) (ycbcrChroma mem env.ycbcr env.ycbcr.cr) old
        (applyStores old stores) := by
  obtain ⟨info, metadata, hmeta, -, -, hswitch⟩ := extractGraphicBuffer_conversion_eq_some hc
  rw [hcpu] at hmeta
  obtain ⟨hf, -, -⟩ := readMetadata_cpuYuv hanw (.inr (.inr hfmt)) hmeta
  rw [hfmt] at hf
  rw [formatSwitch, if_neg (by rw [hf]; decide), if_neg (by rw [hf]; decide), if_pos hf, hcpu,
    if_neg Bool.false_ne_true] at hswitch
  cases hswitch
  exact flexYUV_stores_planarFrame mem old dst _ hw hh

def qcifI420Lock : MapperEnv :=
  ⟨true, true, 0x200000, ⟨0x200000, 0x200000 + 176 * 144, 0x200000 + 176 * 144 + 88 * 72, 176, 88, 1⟩⟩

def qcifFlexExtraction : Extraction :=
  extractGraphicBuffer lp64 (qcifAvc.initial lp64) 0 qcifI420Lock 0x100000 38016
    (anwMetadata halPixelFormatYCbCr420888 176 144) 24 176 144

theorem qcifFlex_planarFrame :
    ∃ c, qcifFlexExtraction.conversion = some c ∧
      ∃ stores, c.stores addressByte = some stores ∧
        PlanarFrame 0x100000 (176 : SizeT).toNat (144 : SizeT).toNat (176 : SizeT).toNat
          (144 : SizeT).toNat (ycbcrLuma addressByte qcifI420Lock.ycbcr)
          (ycbcrChroma addressByte qcifI420Lock.ycbcr qcifI420Lock.ycbcr.cb)
          (ycbcrChroma addressByte qcifI420Lock.ycbcr qcifI420Lock.ycbcr.cr)
          addressByte (applyStores addressByte stores) :=
  have hc : qcifFlexExtraction.conversion = some (.flexYUV 0x100000 176 144 qcifI420Lock.ycbcr
      (sizeTToInt32 176) (sizeTToInt32 144)) := by
    decide
  ⟨_, hc, extractGraphicBuffer_flexYcbcr_planarFrame (by rfl) (by rfl) (by rfl) (by decide)
    (by decide) hc addressByte addressByte⟩

/-- On a CPU build, an even picture with a geometry below `2^31` read from an RGBA, RGBX or BGRA
buffer is converted to the BT.601 frame of the buffer's pixels, at a pitch of four bytes a pixel
of the buffer's stride, the channels swapped for BGRA. -/
theorem extractGraphicBuffer_rgb_planarFrame (hcpu : s.mIsPowervr = false)
    (hanw : src.eType = kMetadataBufferTypeANWBuffer)
    (hfmt : src.pBuffer.format = halPixelFormatRGBX8888 ∨
      src.pBuffer.format = halPixelFormatRGBA8888 ∨ src.pBuffer.format = halPixelFormatBGRA8888)
    (hw : width.toNat < 2 ^ 31) (hh : height.toNat < 2 ^ 31) (hw2 : width.toNat % 2 = 0)
    (hh2 : height.toNat % 2 = 0) {c : Conversion}
    (hc : (extractGraphicBuffer L s shmData env dst dstSize src srcSize width height).conversion =
      some c) (mem old : Mem) :
    ∃ stores, c.stores mem = some stores ∧
      PlanarFrame dst width.toNat height.toNat width.toNat height.toNat
        (bt601Byte bt601Luma mem env.bits (int32ToSizeT src.pBuffer.stride * 4)
          (decide (src.pBuffer.format = halPixelFormatBGRA8888)))
        (fun r c => bt601Byte bt601U mem env.bits (int32ToSizeT src.pBuffer.stride * 4)
          (decide (src.pBuffer.format = halPixelFormatBGRA8888)) (2 * r) (2 * c))
        (fun r c => bt601Byte bt601V mem env.bits (int32ToSizeT src.pBuffer.stride * 4)
          (decide (src.pBuffer.format = halPixelFormatBGRA8888)) (2 * r) (2 * c))
        old (applyStores old stores) := by
  obtain ⟨info, metadata, hmeta, -, -, hswitch⟩ := extractGraphicBuffer_conversion_eq_some hc
  rw [hcpu] at hmeta
  have hrgb : src.pBuffer.format ≠ halPixelFormatYV12 ∧
      src.pBuffer.format ≠ halPixelFormatYCrCb420SP ∧
      src.pBuffer.format ≠ halPixelFormatYCbCr420888 := by
    rcases hfmt with h | h | h <;> rw [h] <;> decide
  obtain ⟨hf, hstride⟩ := readMetadata_cpuRgb hanw hrgb hmeta
  rw [formatSwitch, hf, if_neg hrgb.1, if_neg hrgb.2.1, if_neg hrgb.2.2, if_pos hfmt,
    hcpu] at hswitch
  cases hswitch
  rw [hstride]
  exact convertRGB32ToPlanar_planarFrame mem dst width height env.bits width height _ _ old hw2 hh2
    le_rfl le_rfl (frameBytes_le hw hh)

def qcifBgraExtraction : Extraction :=
  extractGraphicBuffer lp64 (qcifAvc.initial lp64) 0 (lockedAt 0x200000) 0x100000 38016
    (anwMetadata halPixelFormatBGRA8888 176 144) 24 176 144

theorem qcifBgra_planarFrame :
    ∃ c, qcifBgraExtraction.conversion = some c ∧
      ∃ stores, c.stores addressByte = some stores ∧
        PlanarFrame 0x100000 (176 : SizeT).toNat (144 : SizeT).toNat (176 : SizeT).toNat
          (144 : SizeT).toNat
          (bt601Byte bt601Luma addressByte 0x200000 (int32ToSizeT 176 * 4) true)
          (fun r c => bt601Byte bt601U addressByte 0x200000 (int32ToSizeT 176 * 4) true
            (2 * r) (2 * c))
          (fun r c => bt601Byte bt601V addressByte 0x200000 (int32ToSizeT 176 * 4) true
            (2 * r) (2 * c))
          addressByte (applyStores addressByte stores) :=
  have hc : qcifBgraExtraction.conversion = some (.rgb32 0x100000 176 144 0x200000 176 144
      (176 * 4) true) := by
    decide
  ⟨_, hc, extractGraphicBuffer_rgb_planarFrame (by rfl) (by rfl) (.inr (.inr (by rfl)))
    (by decide) (by decide) (by decide) (by decide) hc addressByte addressByte⟩

end Cpu

section Gpu

variable {L : MetadataLayout} {s : Component} {shmData : Addr} {env : MapperEnv} {dst : Addr}
  {dstSize : SizeT} {src : MetadataBuffer} {srcSize width height : SizeT}

private theorem formatSwitch_gpu (hpvr : s.mIsPowervr = true) (hdisp : s.mEglDisplay ≠ eglNoDisplay)
    {info : SourceLayout} (hfmt : IsGpuReadbackFormat info.format) {dstStride dstVStride : SizeT} :
    formatSwitch s shmData env info dst dstStride dstVStride width height =
      ⟨some (.rgb32 dst dstStride dstVStride shmData width height info.srcStride
          (decide (info.format = halPixelFormatBGRA8888))),
        some ⟨shmData, width, height⟩, some dst, false⟩ := by
  simp only [formatSwitch, hpvr, hdisp, if_true, ne_eq, not_false_eq_true]
  rcases hfmt with h | h | h | h <;>
    simp [h, halPixelFormatYV12, halPixelFormatYCrCb420SP, halPixelFormatYCbCr420888,
      halPixelFormatRGBX8888, halPixelFormatRGBA8888, halPixelFormatBGRA8888]

/-- On PowerVR with an EGL display, a buffer of a GPU format whose stride is the picture's width
is read back as `width x height` RGBA pixels, and the converter walks the read-back bytes at
`4 * width` a row, the row size `glReadPixels` packs: an even picture with a geometry below
`2^31` gives the BT.601 frame of the read-back pixels, the channels taken in BGRA order for a
BGRA buffer. -/
theorem extractGraphicBuffer_powervr_planarFrame (hpvr : s.mIsPowervr = true)
    (hdisp : s.mEglDisplay ≠ eglNoDisplay) (hanw : src.eType = kMetadataBufferTypeANWBuffer)
    (hfmt : IsGpuReadbackFormat src.pBuffer.format)
    (hpitch : int32ToSizeT src.pBuffer.stride = width) (hw : width.toNat < 2 ^ 31)
    (hh : height.toNat < 2 ^ 31) (hw2 : width.toNat % 2 = 0) (hh2 : height.toNat % 2 = 0)
    {c : Conversion}
    (hc : (extractGraphicBuffer L s shmData env dst dstSize src srcSize width height).conversion =
      some c) (mem old : Mem) :
    (extractGraphicBuffer L s shmData env dst dstSize src srcSize width height).readback =
        some ⟨shmData, width, height⟩ ∧
      ∃ stores, c.stores mem = some stores ∧
        PlanarFrame dst width.toNat height.toNat width.toNat height.toNat
          (bt601Byte bt601Luma mem shmData (width * 4)
            (decide (src.pBuffer.format = halPixelFormatBGRA8888)))
          (fun r c => bt601Byte bt601U mem shmData (width * 4)
            (decide (src.pBuffer.format = halPixelFormatBGRA8888)) (2 * r) (2 * c))
          (fun r c => bt601Byte bt601V mem shmData (width * 4)
            (decide (src.pBuffer.format = halPixelFormatBGRA8888)) (2 * r) (2 * c))
          old (applyStores old stores) := by
  obtain ⟨info, metadata, hmeta, hsize, hlock, hswitch⟩ :=
    extractGraphicBuffer_conversion_eq_some hc
  rw [hpvr] at hmeta
  have hstride := readMetadata_powervr_srcStride hanw hmeta
  have hf : info.format = src.pBuffer.format := by
    unfold readMetadata at hmeta
    simp only [hanw, if_true] at hmeta
    split_ifs at hmeta <;> cases hmeta <;> rfl
  rw [← hf] at hfmt ⊢
  have hgpu : formatSwitch s shmData env info dst width height width height = _ :=
    formatSwitch_gpu hpvr hdisp hfmt
  refine ⟨?_, ?_⟩
  · unfold extractGraphicBuffer
    rw [hpvr, hmeta]
    simp only [hsize, hlock, hgpu, if_false, Bool.false_eq_true, Bool.true_eq_false]
  · rw [hgpu] at hswitch
    cases hswitch
    rw [hstride, hpitch]
    exact convertRGB32ToPlanar_planarFrame mem dst width height shmData width height _ _ old hw2
      hh2 le_rfl le_rfl (frameBytes_le hw hh)

def unpaddedRgbaExtraction : Extraction :=
  extractGraphicBuffer lp64 powervrWithDisplay 0x300000 (lockedAt 0x200000) 0x100000 38016
    qcifRgbaMetadata 24 176 144

theorem unpaddedRgbaReadback_planarFrame :
    ∃ c, unpaddedRgbaExtraction.conversion = some c ∧
      unpaddedRgbaExtraction.readback = some ⟨0x300000, 176, 144⟩ ∧
      ∃ stores, c.stores addressByte = some stores ∧
        PlanarFrame 0x100000 (176 : SizeT).toNat (144 : SizeT).toNat (176 : SizeT).toNat
          (144 : SizeT).toNat
          (bt601Byte bt601Luma addressByte 0x300000 (176 * 4) false)
          (fun r c => bt601Byte bt601U addressByte 0x300000 (176 * 4) false (2 * r) (2 * c))
          (fun r c => bt601Byte bt601V addressByte 0x300000 (176 * 4) false (2 * r) (2 * c))
          addressByte (applyStores addressByte stores) :=
  have hc : unpaddedRgbaExtraction.conversion = some (.rgb32 0x100000 176 144 0x300000 176 144
      (176 * 4) false) := by
    decide
  ⟨_, hc, extractGraphicBuffer_powervr_planarFrame (by rfl) (by decide) (by rfl)
    (.inr (.inr (.inl (by rfl)))) (by decide) (by decide) (by decide) (by decide) (by decide) hc
    addressByte addressByte⟩

end Gpu

section GrallocSource

variable {L : MetadataLayout} {s : Component} {shmData : Addr} {env : MapperEnv} {dst : Addr}
  {dstSize : SizeT} {src : MetadataBuffer} {srcSize width height : SizeT}

private theorem readMetadata_grallocSource {isPowervr fenceOk : Bool} {info : SourceLayout}
    {metadata : MetadataBuffer} (hgr : src.eType = kMetadataBufferTypeGrallocSource)
    (h : readMetadata L isPowervr fenceOk src srcSize width height = (some info, metadata)) :
    info = ⟨src.pHandle, halPixelFormatRGBA8888, width * 4, height⟩ := by
  unfold readMetadata at h
  rw [if_neg (by rw [hgr]; decide), if_pos hgr] at h
  split_ifs at h <;> cases h
  rfl

/-- On either platform, an even picture with a geometry below `2^31` behind a gralloc-source
record is converted as an unpadded RGBA buffer of the picture's width: from the locked buffer on
the CPU build, and on PowerVR from the `mShmData` readback. -/
theorem extractGraphicBuffer_grallocSource_planarFrame
    (hgr : src.eType = kMetadataBufferTypeGrallocSource) (hw : width.toNat < 2 ^ 31)
    (hh : height.toNat < 2 ^ 31) (hw2 : width.toNat % 2 = 0) (hh2 : height.toNat % 2 = 0)
    {c : Conversion}
    (hc : (extractGraphicBuffer L s shmData env dst dstSize src srcSize width height).conversion =
      some c) (mem old : Mem) :
    ∃ stores, c.stores mem = some stores ∧
      PlanarFrame dst width.toNat height.toNat width.toNat height.toNat
        (bt601Byte bt601Luma mem (if s.mIsPowervr then shmData else env.bits) (width * 4) false)
        (fun r c => bt601Byte bt601U mem (if s.mIsPowervr then shmData else env.bits) (width * 4)
          false (2 * r) (2 * c))
        (fun r c => bt601Byte bt601V mem (if s.mIsPowervr then shmData else env.bits) (width * 4)
          false (2 * r) (2 * c))
        old (applyStores old stores) := by
  obtain ⟨info, metadata, hmeta, -, -, hswitch⟩ := extractGraphicBuffer_conversion_eq_some hc
  obtain rfl := readMetadata_grallocSource hgr hmeta
  -- the read-back or the locked bytes, whichever the platform converts from
  have hframe (a : Addr) := convertRGB32ToPlanar_planarFrame mem dst width height a width height
    (width * 4) false old hw2 hh2 le_rfl le_rfl (frameBytes_le hw hh)
  have hrgba : halPixelFormatRGBA8888 ≠ halPixelFormatYV12 ∧
      halPixelFormatRGBA8888 ≠ halPixelFormatYCrCb420SP ∧
      halPixelFormatRGBA8888 ≠ halPixelFormatYCbCr420888 := by decide
  rw [formatSwitch, if_neg hrgba.1, if_neg hrgba.2.1, if_neg hrgba.2.2, if_pos (.inr (.inl rfl))]
    at hswitch
  cases hp : s.mIsPowervr <;> rw [hp] at hswitch
  case false =>
    cases hswitch
    exact hframe env.bits
  case true =>
    -- without a display the switch returns before any conversion
    simp only [if_true] at hswitch
    split_ifs at hswitch
    cases hswitch
    exact hframe shmData

def qcifGrallocExtraction : Extraction :=
  extractGraphicBuffer lp64 powervrWithDisplay 0x300000 (lockedAt 0x200000) 0x100000 38016
    ⟨kMetadataBufferTypeGrallocSource, ⟨0, 0, 0, 0⟩, -1, 1⟩ 16 176 144

theorem qcifGralloc_planarFrame :
    ∃ c, qcifGrallocExtraction.conversion = some c ∧
      ∃ stores, c.stores addressByte = some stores ∧
        PlanarFrame 0x100000 (176 : SizeT).toNat (144 : SizeT).toNat (176 : SizeT).toNat
          (144 : SizeT).toNat
          (bt601Byte bt601Luma addressByte 0x300000 (176 * 4) false)
          (fun r c => bt601Byte bt601U addressByte 0x300000 (176 * 4) false (2 * r) (2 * c))
          (fun r c => bt601Byte bt601V addressByte 0x300000 (176 * 4) false (2 * r) (2 * c))
          addressByte (applyStores addressByte stores) :=
  have hc : qcifGrallocExtraction.conversion = some (.rgb32 0x100000 176 144 0x300000 176 144
      (176 * 4) false) := by
    decide
  ⟨_, hc, extractGraphicBuffer_grallocSource_planarFrame (by rfl) (by decide) (by decide)
    (by decide) (by decide) hc addressByte addressByte⟩

end GrallocSource

end SoftVideoEncoder
