import SoftVideoEncoder.Extract.Sources

/-!
# The destination size check

`extractGraphicBuffer` refuses a destination smaller than `neededSize`, which is
`width*height + 2*((height/2)*(width/2))`, the end of the planar frame. For dimensions below `2^31`
nothing wraps and the check keeps every store of either converter inside the destination
(`extractGraphicBuffer_stores_within`). The check is computed in `size_t` and the converters
receive the geometry as `int32_t`: a caller that sign-extends a negative `mWidth` passes
`2^64 - 2`, `neededSize` wraps to 6, and the luma loop copies `2^64 - 2` bytes a row.
-/

namespace SoftVideoEncoder

private theorem neededSize_toNat {width height : SizeT} (hw : width.toNat < 2 ^ 31)
    (hh : height.toNat < 2 ^ 31) :
    (neededSize width height width height).toNat =
      width.toNat * height.toNat + 2 * (height.toNat / 2 * (width.toNat / 2)) := by
  have hcast : neededSize width height width height =
      ((width.toNat * height.toNat + 2 * (height.toNat / 2 * (width.toNat / 2)) : Nat) : SizeT) := by
    rw [neededSize, ushiftRight_one_eq_natCast width, ushiftRight_one_eq_natCast height]
    push_cast [natCast_toNat]
    ring
  have hprod : width.toNat * height.toNat < 2 ^ 31 * 2 ^ 31 := Nat.mul_lt_mul'' hw hh
  have hhalf : height.toNat / 2 * (width.toNat / 2) ≤ width.toNat * height.toNat := by
    rw [Nat.mul_comm width.toNat]
    exact Nat.mul_le_mul (Nat.div_le_self _ _) (Nat.div_le_self _ _)
  rw [hcast, toNat_natCast_of_lt (by omega)]

section Within

variable {L : MetadataLayout} {s : Component} {shmData : Addr} {env : MapperEnv} {dst : Addr}
  {dstSize : SizeT} {src : MetadataBuffer} {srcSize width height : SizeT}

/-- For dimensions below `2^31`, every byte the dispatched converter stores lies inside the
`dstSize` bytes at `dst`, whatever the format, the platform and the source. -/
theorem extractGraphicBuffer_stores_within (mem : Mem) (hw : width.toNat < 2 ^ 31)
    (hh : height.toNat < 2 ^ 31) {c : Conversion}
    (hc : (extractGraphicBuffer L s shmData env dst dstSize src srcSize width height).conversion =
      some c)
    {stores : List Store} (hs : c.stores mem = some stores) {a : Addr} {v : Byte}
    (hav : (a, v) ∈ stores) :
    ∃ k < dstSize.toNat, a = dst + k := by
  obtain ⟨info, metadata, -, hsize, -, hswitch⟩ := extractGraphicBuffer_conversion_eq_some hc
  have hneeded : (neededSize width height width height).toNat ≤ dstSize.toNat := by
    rw [BitVec.lt_def] at hsize
    omega
  obtain ⟨k, hk, rfl⟩ : ∃ k, PlanarOffset width.toNat height.toNat width.toNat height.toNat k ∧
      a = dst + k := by
    rcases formatSwitch_conversion hswitch with ⟨ycbcr, rfl⟩ | ⟨src', srcStride, bgr, rfl⟩
    · cases hs
      have hw' : (sizeTToInt32 width).msb = false :=
        msb_eq_false_of_toNat_lt (by rwa [sizeTToInt32_toNat_of_lt hw])
      have hh' : (sizeTToInt32 height).msb = false :=
        msb_eq_false_of_toNat_lt (by rwa [sizeTToInt32_toNat_of_lt hh])
      have hplanar := (flexStore_iff_planarStore mem dst width height ycbcr hw' hh'
        (mem_flexChroma mem dst width height ycbcr _ _) a v).mp hav
      rw [sizeTToInt32_toNat_of_lt hw, sizeTToInt32_toNat_of_lt hh] at hplanar
      exact hplanar.offset
    · obtain ⟨hwe, hhe⟩ :=
        even_of_convertRGB32ToPlanar_eq_some mem dst width height src' width height srcStride bgr hs
      rw [Conversion.stores, convertRGB32ToPlanar_eq_some mem dst width height src' width height
        srcStride bgr hwe hhe] at hs
      cases hs
      exact ((mem_rgbRows_iff_bt601Store mem dst width height src' width height srcStride bgr hwe
        hhe a v).mp hav).offset
  exact ⟨k, (planarOffset_lt hk).trans_le (by rwa [neededSize_toNat hw hh] at hneeded), rfl⟩

end Within

def tinyYv12Extraction : Extraction :=
  extractGraphicBuffer lp64 (qcifAvc.initial lp64) 0 (lockedAt 0x200000) 0x100000 6
    (anwMetadata halPixelFormatYV12 2 2) 24 2 2

theorem tinyYv12_lastChromaStoreWithin :
    ∃ c, tinyYv12Extraction.conversion = some c ∧
      ∃ stores, c.stores addressByte = some stores ∧
        ((0x100000 : Addr) + 5, addressByte (0x200000 + 2 * 2)) ∈ stores ∧
        ∃ k < (6 : SizeT).toNat, (0x100000 : Addr) + 5 = 0x100000 + k :=
  have hc : tinyYv12Extraction.conversion =
      some (.flexYUV 0x100000 2 2
        ⟨0x200000, 0x200000 + 2 * 2 + 1 * 1, 0x200000 + 2 * 2, 2, 1, 1⟩ 2 2) := by
    decide
  have hlast : ((0x100000 : Addr) + 5, addressByte (0x200000 + 2 * 2)) ∈
      convertFlexYUVToPlanar addressByte 0x100000 2 2
        ⟨0x200000, 0x200000 + 2 * 2 + 1 * 1, 0x200000 + 2 * 2, 2, 1, 1⟩ 2 2 := by
    decide
  ⟨_, hc, _, rfl, hlast, extractGraphicBuffer_stores_within addressByte (by decide) (by decide) hc
    rfl hlast⟩

def wrappedDimension : SizeT := -2

def wrappedDimensionExtraction : Extraction :=
  extractGraphicBuffer lp64 (qcifAvc.initial lp64) 0 (lockedAt 0x200000) 0x100000 6
    (anwMetadata halPixelFormatYV12 176 144) 24 wrappedDimension wrappedDimension

def qcifYv12At (bits : Addr) : AndroidYcbcr :=
  ⟨bits, bits + 176 * 144 + 88 * 72, bits + 176 * 144, 176, 88, 1⟩

/-- The size check passes with `neededSize = 6`, the conversion runs with the geometry as its
destination strides, and its first luma row stores a byte at offset 6. -/
theorem wrappedDimension_writesPastDestination (mem : Mem) :
    neededSize wrappedDimension wrappedDimension wrappedDimension wrappedDimension = 6 ∧
      wrappedDimensionExtraction.conversion =
        some (.flexYUV 0x100000 wrappedDimension wrappedDimension (qcifYv12At 0x200000)
          (sizeTToInt32 wrappedDimension) (sizeTToInt32 wrappedDimension)) ∧
      ∃ stores, (Conversion.flexYUV 0x100000 wrappedDimension wrappedDimension
          (qcifYv12At 0x200000) (sizeTToInt32 wrappedDimension)
          (sizeTToInt32 wrappedDimension)).stores mem = some stores ∧
        ∃ v, ((0x100000 : Addr) + 6, v) ∈ stores :=
  ⟨by decide, by decide, _, rfl, _,
    (mem_convertFlexYUVToPlanar mem _ _ _ _ _ _ _ _).mpr
      (.inl ⟨0, by decide, 6, by decide, by decide, rfl⟩)⟩

end SoftVideoEncoder
