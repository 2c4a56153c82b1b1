import SoftVideoEncoder.Convert.Planar

/-!
# `ConvertFlexYUVToPlanar`

Luma is copied row by row at the source's `ystride`. Chroma takes one of two loops: a row copy
when the source planes are planar (`cstride == ystride >> 1`, step 1), and otherwise a walk that
moves each pointer by the chroma step per pixel and then by `(dstStride >> 1) - (width >> 1)` or
`cstride - (width >> 1) * chroma_step` per row, in `size_t` arithmetic that may wrap. Both loops
store, for each chroma row `r` and column `c`, the byte `cb + r*cstride + c*chroma_step` at
`dstU + r*(dstStride >> 1) + c`, and likewise for `cr`.
-/

namespace SoftVideoEncoder

/-- `struct android_ycbcr`: plane addresses, and strides and chroma step in bytes. -/
structure AndroidYcbcr where
  y : Addr
  cb : Addr
  cr : Addr
  ystride : SizeT
  cstride : SizeT
  chromaStep : SizeT
  deriving DecidableEq, Repr

def lumaRows (mem : Mem) (dstStride ystride : SizeT) (width : Nat) :
    Nat → Addr → Addr → List Store
  | 0, _, _ => []
  | n + 1, dst, src =>
    memcpy mem dst src width ++ lumaRows mem dstStride ystride width n (dst + dstStride) (src + ystride)

def planarChromaRows (mem : Mem) (dstStride cstride : SizeT) (halfWidth : Nat) :
    Nat → (dstU srcU dstV srcV : Addr) → List Store
  | 0, _, _, _, _ => []
  | n + 1, dstU, srcU, dstV, srcV =>
    memcpy mem dstU srcU halfWidth ++ memcpy mem dstV srcV halfWidth ++
      planarChromaRows mem dstStride cstride halfWidth n (dstU + (dstStride >>> 1))
        (srcU + cstride) (dstV + (dstStride >>> 1)) (srcV + cstride)

structure ChromaCursor where
  dstU : Addr
  srcU : Addr
  dstV : Addr
  srcV : Addr

def chromaRowPixels (mem : Mem) (step : SizeT) : Nat → ChromaCursor → List Store × ChromaCursor
  | 0, c => ([], c)
  | n + 1, c =>
    let rest := chromaRowPixels mem step n ⟨c.dstU + 1, c.srcU + step, c.dstV + 1, c.srcV + step⟩
    ((c.dstU, mem c.srcU) :: (c.dstV, mem c.srcV) :: rest.1, rest.2)

def arbitraryChromaRows (mem : Mem) (step dstSkip srcSkip : SizeT) (halfWidth : Nat) :
    Nat → ChromaCursor → List Store
  | 0, _ => []
  | n + 1, c =>
    let row := chromaRowPixels mem step halfWidth c
    row.1 ++ arbitraryChromaRows mem step dstSkip srcSkip halfWidth n
      ⟨row.2.dstU + dstSkip, row.2.srcU + srcSkip, row.2.dstV + dstSkip, row.2.srcV + srcSkip⟩

/-- The fast branch, taken when the chroma planes are planar. -/
def flexChromaPlanar (mem : Mem) (dst : Addr) (dstStride dstVStride : SizeT) (ycbcr : AndroidYcbcr)
    (width height : I32) : List Store :=
  let dstU := dst + dstVStride * dstStride
  let dstV := dstU + (dstVStride >>> 1) * (dstStride >>> 1)
  planarChromaRows mem dstStride ycbcr.cstride (int32ToSizeT (width.sshiftRight 1)).toNat
    (int32ToSizeT (height.sshiftRight 1)).toNat dstU ycbcr.cb dstV ycbcr.cr

/-- The per-pixel branch. -/
def flexChromaArbitrary (mem : Mem) (dst : Addr) (dstStride dstVStride : SizeT)
    (ycbcr : AndroidYcbcr) (width height : I32) : List Store :=
  let dstU := dst + dstVStride * dstStride
  let dstV := dstU + (dstVStride >>> 1) * (dstStride >>> 1)
  let halfWidth := int32ToSizeT (width.sshiftRight 1)
  arbitraryChromaRows mem ycbcr.chromaStep ((dstStride >>> 1) - halfWidth)
    (ycbcr.cstride - halfWidth * ycbcr.chromaStep) halfWidth.toNat
    (int32ToSizeT (height.sshiftRight 1)).toNat ⟨dstU, ycbcr.cb, dstV, ycbcr.cr⟩

/-- The luma loop, `height` rows of `width` bytes. -/
def flexLuma (mem : Mem) (dst : Addr) (dstStride : SizeT) (ycbcr : AndroidYcbcr)
    (width height : I32) : List Store :=
  lumaRows mem dstStride ycbcr.ystride (int32ToSizeT width).toNat (int32ToSizeT height).toNat dst
    ycbcr.y

/-- The chroma loops: the row copy when the planes are planar, the per-pixel walk otherwise. -/
def flexChroma (mem : Mem) (dst : Addr) (dstStride dstVStride : SizeT) (ycbcr : AndroidYcbcr)
    (width height : I32) : List Store :=
  if ycbcr.cstride = ycbcr.ystride >>> 1 ∧ ycbcr.chromaStep = 1
  then flexChromaPlanar mem dst dstStride dstVStride ycbcr width height
  else flexChromaArbitrary mem dst dstStride dstVStride ycbcr width height

def convertFlexYUVToPlanar (mem : Mem) (dst : Addr) (dstStride dstVStride : SizeT)
    (ycbcr : AndroidYcbcr) (width height : I32) : List Store :=
  flexLuma mem dst dstStride ycbcr width height ++
    flexChroma mem dst dstStride dstVStride ycbcr width height

section Stores

variable (mem : Mem)

private theorem mem_lumaRows (dstStride ystride : SizeT) (width height : Nat) (dst src a : Addr)
    (v : Byte) :
    (a, v) ∈ lumaRows mem dstStride ystride width height dst src ↔
      ∃ j < height, ∃ i < width,
        a = dst + j * dstStride + i ∧ v = mem (src + j * ystride + i) := by
  induction height generalizing dst src with
  | zero => simp [lumaRows]
  | succ n ih =>
    rw [lumaRows, List.mem_append, mem_memcpy, ih, Nat.exists_lt_succ_left]
    simp only [Nat.cast_zero, zero_mul, add_zero, Nat.cast_succ, add_one_mul, add_assoc,
      add_comm dstStride, add_comm ystride]

def ChromaStore (dstU dstV srcU srcV : Addr) (dstPitch cstride step : SizeT) (rows cols : Nat)
    (a : Addr) (v : Byte) : Prop :=
  ∃ r < rows, ∃ c < cols,
    (a = dstU + r * dstPitch + c ∧ v = mem (srcU + r * cstride + c * step)) ∨
      (a = dstV + r * dstPitch + c ∧ v = mem (srcV + r * cstride + c * step))

private theorem mem_planarChromaRows (dstStride cstride : SizeT) (halfWidth rows : Nat)
    (dstU srcU dstV srcV a : Addr) (v : Byte) :
    (a, v) ∈ planarChromaRows mem dstStride cstride halfWidth rows dstU srcU dstV srcV ↔
      ChromaStore mem dstU dstV srcU srcV (dstStride >>> 1) cstride 1 rows halfWidth a v := by
  unfold ChromaStore
  induction rows generalizing dstU srcU dstV srcV with
  | zero => simp [planarChromaRows]
  | succ n ih =>
    rw [planarChromaRows, List.mem_append, List.mem_append, mem_memcpy, mem_memcpy, ih,
      Nat.exists_lt_succ_left, ← exists_or]
    simp only [Nat.cast_zero, zero_mul, add_zero, mul_one, Nat.cast_succ, add_one_mul, add_assoc,
      add_comm (dstStride >>> 1), add_comm cstride, ← exists_or, exists_prop, and_or_left]

private theorem chromaRowPixels_cursor (step : SizeT) (n : Nat) (c : ChromaCursor) :
    (chromaRowPixels mem step n c).2 =
      ⟨c.dstU + n, c.srcU + n * step, c.dstV + n, c.srcV + n * step⟩ := by
  induction n generalizing c with
  | zero => simp [chromaRowPixels]
  | succ n ih =>
    simp only [chromaRowPixels, ih, ChromaCursor.mk.injEq]
    push_cast
    refine ⟨?_, ?_, ?_, ?_⟩ <;> ring

private theorem mem_chromaRowPixels (step : SizeT) (n : Nat) (c : ChromaCursor) (a : Addr) (v : Byte) :
    (a, v) ∈ (chromaRowPixels mem step n c).1 ↔
      ∃ k < n, (a = c.dstU + k ∧ v = mem (c.srcU + k * step)) ∨
        (a = c.dstV + k ∧ v = mem (c.srcV + k * step)) := by
  induction n generalizing c with
  | zero => simp [chromaRowPixels]
  | succ n ih =>
    rw [chromaRowPixels, List.mem_cons, List.mem_cons, ih, Nat.exists_lt_succ_left]
    simp only [Prod.mk.injEq, Nat.cast_zero, zero_mul, add_zero, Nat.cast_succ, add_one_mul,
      add_assoc, add_comm (1 : SizeT), add_comm step, or_assoc]

private theorem mem_arbitraryChromaRows (step dstSkip srcSkip : SizeT) (halfWidth rows : Nat)
    (c : ChromaCursor) (a : Addr) (v : Byte) :
    (a, v) ∈ arbitraryChromaRows mem step dstSkip srcSkip halfWidth rows c ↔
      ChromaStore mem c.dstU c.dstV c.srcU c.srcV (halfWidth + dstSkip)
        (halfWidth * step + srcSkip) step rows halfWidth a v := by
  unfold ChromaStore
  induction rows generalizing c with
  | zero => simp [arbitraryChromaRows]
  | succ n ih =>
    rw [arbitraryChromaRows, List.mem_append, mem_chromaRowPixels, ih, chromaRowPixels_cursor,
      Nat.exists_lt_succ_left]
    simp only [Nat.cast_zero, zero_mul, add_zero, Nat.cast_succ, add_one_mul, add_assoc,
      add_comm ((halfWidth : SizeT) + dstSkip), add_comm ((halfWidth : SizeT) * step + srcSkip)]

variable (dst : Addr) (dstStride dstVStride : SizeT) (ycbcr : AndroidYcbcr) (width height : I32)
  (a : Addr) (v : Byte)

def FlexChromaStore : Prop :=
  ChromaStore mem (dst + dstVStride * dstStride)
    (dst + dstVStride * dstStride + (dstVStride >>> 1) * (dstStride >>> 1)) ycbcr.cb ycbcr.cr
    (dstStride >>> 1) ycbcr.cstride ycbcr.chromaStep (int32ToSizeT (height.sshiftRight 1)).toNat
    (int32ToSizeT (width.sshiftRight 1)).toNat a v

private theorem mem_flexChromaPlanar (h : ycbcr.chromaStep = 1) :
    (a, v) ∈ flexChromaPlanar mem dst dstStride dstVStride ycbcr width height ↔
      FlexChromaStore mem dst dstStride dstVStride ycbcr width height a v := by
  rw [flexChromaPlanar, mem_planarChromaRows, FlexChromaStore, h]

private theorem mem_flexChromaArbitrary :
    (a, v) ∈ flexChromaArbitrary mem dst dstStride dstVStride ycbcr width height ↔
      FlexChromaStore mem dst dstStride dstVStride ycbcr width height a v := by
  simp only [flexChromaArbitrary, mem_arbitraryChromaRows, natCast_toNat, add_sub_cancel]
  rfl

theorem mem_flexChroma :
    (a, v) ∈ flexChroma mem dst dstStride dstVStride ycbcr width height ↔
      FlexChromaStore mem dst dstStride dstVStride ycbcr width height a v := by
  rw [flexChroma]
  split_ifs with h
  · exact mem_flexChromaPlanar mem dst dstStride dstVStride ycbcr width height a v h.2
  · exact mem_flexChromaArbitrary mem dst dstStride dstVStride ycbcr width height a v

theorem mem_convertFlexYUVToPlanar :
    (a, v) ∈ convertFlexYUVToPlanar mem dst dstStride dstVStride ycbcr width height ↔
      (∃ j < (int32ToSizeT height).toNat, ∃ i < (int32ToSizeT width).toNat,
        a = dst + j * dstStride + i ∧ v = mem (ycbcr.y + j * ycbcr.ystride + i)) ∨
      FlexChromaStore mem dst dstStride dstVStride ycbcr width height a v := by
  rw [convertFlexYUVToPlanar, List.mem_append, flexLuma, mem_lumaRows, mem_flexChroma]

end Stores

def ycbcrLuma (mem : Mem) (ycbcr : AndroidYcbcr) (j i : Nat) : Byte :=
  mem (ycbcr.y + j * ycbcr.ystride + i)

def ycbcrChroma (mem : Mem) (ycbcr : AndroidYcbcr) (plane : Addr) (r c : Nat) : Byte :=
  mem (plane + r * ycbcr.cstride + c * ycbcr.chromaStep)

section Frame

variable (mem : Mem) (dst : Addr) (dstStride dstVStride : SizeT) (ycbcr : AndroidYcbcr)
  {width height : I32}

theorem flexStore_iff_planarStore (hw : width.msb = false) (hh : height.msb = false)
    {chroma : List Store}
    (hc : ∀ a v, (a, v) ∈ chroma ↔ FlexChromaStore mem dst dstStride dstVStride ycbcr width height a v)
    (a : Addr) (v : Byte) :
    (a, v) ∈ flexLuma mem dst dstStride ycbcr width height ++ chroma ↔
      PlanarStore dst dstStride.toNat dstVStride.toNat width.toNat height.toNat
        (ycbcrLuma mem ycbcr) (ycbcrChroma mem ycbcr ycbcr.cb) (ycbcrChroma mem ycbcr ycbcr.cr)
        a v := by
  rw [List.mem_append, hc, flexLuma, mem_lumaRows, FlexChromaStore, ChromaStore, PlanarStore,
    int32ToSizeT_toNat_of_msb_false hw, int32ToSizeT_toNat_of_msb_false hh,
    int32ToSizeT_sshiftRight_toNat hw 1, int32ToSizeT_sshiftRight_toNat hh 1, pow_one]
  simp only [natCast_lumaOffset, natCast_cbOffset, natCast_crOffset, ycbcrLuma, ycbcrChroma,
    add_assoc, mul_comm dstVStride dstStride]

section Fits

variable (m : Mem) (hw : width.msb = false) (hwS : width.toNat ≤ dstStride.toNat)
  (hh : height.msb = false) (hhS : height.toNat ≤ dstVStride.toNat)
  (hfit : dstStride.toNat * dstVStride.toNat + 2 * (dstVStride.toNat / 2 * (dstStride.toNat / 2))
    ≤ 2 ^ 64)
include hw hwS hh hhS hfit

theorem planarFrame_flexLuma_append {chroma : List Store}
    (hc : ∀ a v, (a, v) ∈ chroma ↔ FlexChromaStore mem dst dstStride dstVStride ycbcr width height a v) :
    PlanarFrame dst dstStride.toNat dstVStride.toNat width.toNat height.toNat
      (ycbcrLuma mem ycbcr) (ycbcrChroma mem ycbcr ycbcr.cb) (ycbcrChroma mem ycbcr ycbcr.cr) m
      (applyStores m (flexLuma mem dst dstStride ycbcr width height ++ chroma)) :=
  planarFrame_applyStores dst (ycbcrLuma mem ycbcr) (ycbcrChroma mem ycbcr ycbcr.cb)
    (ycbcrChroma mem ycbcr ycbcr.cr) hwS hhS hfit
    (flexStore_iff_planarStore mem dst dstStride dstVStride ycbcr hw hh hc) m

/-- A non-negative picture inside its planes, with the three planes inside the address space,
is converted to the planar frame of the source planes; and the row-copy branch leaves the same
frame as the per-pixel branch whenever the chroma step is 1. -/
theorem convertFlexYUVToPlanar_planarFrame :
    PlanarFrame dst dstStride.toNat dstVStride.toNat width.toNat height.toNat
        (ycbcrLuma mem ycbcr) (ycbcrChroma mem ycbcr ycbcr.cb) (ycbcrChroma mem ycbcr ycbcr.cr) m
        (applyStores m (convertFlexYUVToPlanar mem dst dstStride dstVStride ycbcr width height)) ∧
      (ycbcr.chromaStep = 1 →
        applyStores m (flexLuma mem dst dstStride ycbcr width height ++
            flexChromaPlanar mem dst dstStride dstVStride ycbcr width height) =
          applyStores m (flexLuma mem dst dstStride ycbcr width height ++
            flexChromaArbitrary mem dst dstStride dstVStride ycbcr width height)) :=
  ⟨planarFrame_flexLuma_append mem dst dstStride dstVStride ycbcr m hw hwS hh hhS hfit
      (mem_flexChroma mem dst dstStride dstVStride ycbcr width height),
    fun h1 => PlanarFrame.unique _ _ _ _
      (planarFrame_flexLuma_append mem dst dstStride dstVStride ycbcr m hw hwS hh hhS hfit
        (mem_flexChromaPlanar mem dst dstStride dstVStride ycbcr width height · · h1))
      (planarFrame_flexLuma_append mem dst dstStride dstVStride ycbcr m hw hwS hh hhS hfit
        (mem_flexChromaArbitrary mem dst dstStride dstVStride ycbcr width height))⟩

end Fits

end Frame

def qcifYcbcr : AndroidYcbcr := ⟨0x10000, 0x10000 + 176 * 144, 0x10000 + 176 * 144 + 88 * 72, 176, 88, 1⟩

theorem convertFlexYUVToPlanar_planarFrame_qcif :
    (176 : I32).msb = false ∧ (176 : I32).toNat ≤ (176 : SizeT).toNat ∧
      (144 : I32).msb = false ∧ (144 : I32).toNat ≤ (144 : SizeT).toNat ∧
      (176 : SizeT).toNat * (144 : SizeT).toNat +
          2 * ((144 : SizeT).toNat / 2 * ((176 : SizeT).toNat / 2)) ≤ 2 ^ 64 ∧
      (PlanarFrame 0x100000 (176 : SizeT).toNat (144 : SizeT).toNat (176 : I32).toNat
          (144 : I32).toNat (ycbcrLuma addressByte qcifYcbcr)
          (ycbcrChroma addressByte qcifYcbcr qcifYcbcr.cb)
          (ycbcrChroma addressByte qcifYcbcr qcifYcbcr.cr) addressByte
          (applyStores addressByte
            (convertFlexYUVToPlanar addressByte 0x100000 176 144 qcifYcbcr 176 144)) ∧
        (qcifYcbcr.chromaStep = 1 →
          applyStores addressByte (flexLuma addressByte 0x100000 176 qcifYcbcr 176 144 ++
              flexChromaPlanar addressByte 0x100000 176 144 qcifYcbcr 176 144) =
            applyStores addressByte (flexLuma addressByte 0x100000 176 qcifYcbcr 176 144 ++
              flexChromaArbitrary addressByte 0x100000 176 144 qcifYcbcr 176 144))) :=
  ⟨by decide, by decide, by decide, by decide, by decide,
    convertFlexYUVToPlanar_planarFrame addressByte 0x100000 176 144 qcifYcbcr addressByte
      (by decide) (by decide) (by decide) (by decide) (by decide)⟩

def wrappingStride : SizeT := 2 ^ 32

def tinyYcbcr : AndroidYcbcr := ⟨0x1001, 0x2002, 0x3003, 2, 1, 1⟩

theorem wrappedChromaPlane_overwritesLuma :
    (2 : I32).msb = false ∧ (2 : I32).toNat ≤ wrappingStride.toNat ∧
      applyStores addressByte
          (convertFlexYUVToPlanar addressByte 0 wrappingStride wrappingStride tinyYcbcr 2 2)
          (0 + lumaOffset wrappingStride.toNat 0 0) ≠
        ycbcrLuma addressByte tinyYcbcr 0 0 := by
  decide

end SoftVideoEncoder
