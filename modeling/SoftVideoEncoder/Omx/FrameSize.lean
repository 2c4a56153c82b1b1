import SoftVideoEncoder.Omx.PortSync
import SoftVideoEncoder.Convert.SemiPlanar

/-!
# The input frame size

Three places compute the size of a raw YUV420 input frame from the geometry: `updatePortParams`
in `OMX_U32` arithmetic, `validateInputBuffer` in `int32_t` arithmetic widened to `size_t`, and
the port definition `internalGetParameter` reports, in `int32_t`. `internalSetPortParams` takes
any 32-bit width and height, and all three products wrap.

While they do not, the validator accepts in raw mode exactly the buffers of at least
`⌊3·W·H/2⌋` bytes, which is every byte `ConvertYUV420SemiPlanarToYUV420Planar` reads for that
geometry (`validateInputBuffer_coversSemiPlanarInput`).
-/

namespace SoftVideoEncoder

section Exact

variable (L : MetadataLayout) (s : Component)

private theorem inputFrameSizes_exact (hsmall : 3 * s.mWidth.toNat * s.mHeight.toNat < 2 ^ 31) :
    (rawBufferSize s).toNat = 3 * s.mWidth.toNat * s.mHeight.toNat / 2 ∧
      (int32ToSizeT ((s.mWidth * s.mHeight * 3).sdiv 2)).toNat =
        3 * s.mWidth.toNat * s.mHeight.toNat / 2 ∧
      ((s.mWidth * s.mHeight * 3).sdiv 2).toNat = 3 * s.mWidth.toNat * s.mHeight.toNat / 2 := by
  rw [mul_assoc] at hsmall ⊢
  have hp : s.mWidth.toNat * s.mHeight.toNat < 2 ^ 32 := by omega
  have hprod : (s.mWidth * s.mHeight * 3).toNat = 3 * (s.mWidth.toNat * s.mHeight.toNat) := by
    simp only [BitVec.toNat_mul, BitVec.ofNat_eq_ofNat, BitVec.toNat_ofNat, Nat.mod_eq_of_lt hp]
    omega
  have hlt : (s.mWidth * s.mHeight * 3).toNat < 2 ^ 31 := hprod ▸ hsmall
  refine ⟨?_, ?_, ?_⟩
  · simp only [rawBufferSize, BitVec.toNat_udiv, hprod]
    rfl
  · rw [int32ToSizeT_sdiv_two_toNat hlt, hprod]
  · rw [sdiv_two_of_msb_false (msb_eq_false_of_toNat_lt hlt), BitVec.udiv_eq,
      BitVec.toNat_udiv, hprod]
    rfl

private theorem validateInputBuffer_raw_iff (hraw : s.mInputDataIsMeta = false)
    (hsmall : 3 * s.mWidth.toNat * s.mHeight.toNat < 2 ^ 31) (n : U32) :
    validateInputBuffer L s n = .errorNone ↔
      3 * s.mWidth.toNat * s.mHeight.toNat / 2 ≤ n.toNat := by
  have h := (inputFrameSizes_exact s hsmall).2.1
  unfold validateInputBuffer
  simp only [hraw, Bool.false_eq_true, ite_false, BitVec.lt_def, BitVec.toNat_setWidth, h]
  split <;> simp <;> omega

end Exact

def squareInputDefinition (s : Component) (side : U32) : PortDefinition :=
  { s.inDef with nFrameWidth := side, nFrameHeight := side }

def wrappedGeometry : OmxError × Component :=
  internalSetParameter lp64 (qcifAvc.initial lp64)
    (.portDefinition (squareInputDefinition (qcifAvc.initial lp64) 65536) .errorNone)

theorem wrappedGeometry_acceptsEmptyBuffer :
    Reachable lp64 wrappedGeometry.2 ∧ wrappedGeometry.1 = .errorNone ∧
      wrappedGeometry.2.mWidth.toNat = 65536 ∧ wrappedGeometry.2.mHeight.toNat = 65536 ∧
      wrappedGeometry.2.inDef.nBufferSize = 0 ∧
      validateInputBuffer lp64 wrappedGeometry.2 0 = .errorNone ∧
      (∃ d, internalGetParameter wrappedGeometry.2
          (.portDefinition kInputPortIndex .errorNone "default") =
        some (.errorNone, .portDefinition d) ∧ d.nBufferSize = 0) ∧
      3 * 65536 * 65536 / 2 = 6442450944 :=
  ⟨.after (.setParameter _) (.initial qcifAvc), by decide, by decide, by decide, by decide,
    by decide, ⟨_, rfl, by decide⟩, rfl⟩

/-- In raw mode, for a geometry whose width is a multiple of 4 and whose height is even, an input
buffer the validator accepts holds every byte `ConvertYUV420SemiPlanarToYUV420Planar` reads: the
frame converted from it depends only on the bytes the header reports filled. -/
theorem validateInputBuffer_coversSemiPlanarInput (L : MetadataLayout) (s : Component)
    (hraw : s.mInputDataIsMeta = false) (hw : s.mWidth.msb = false) (hh : s.mHeight.msb = false)
    (hsmall : 3 * s.mWidth.toNat * s.mHeight.toNat < 2 ^ 31) (hw4 : s.mWidth.toNat % 4 = 0)
    (hh2 : s.mHeight.toNat % 2 = 0) {nFilledLen : U32}
    (hacc : validateInputBuffer L s nFilledLen = .errorNone) (inYVU outYUV : Addr) {mem mem' : Mem}
    (hfill : ∀ k < nFilledLen.toNat, mem (inYVU + (k : Nat)) = mem' (inYVU + (k : Nat)))
    (old : Mem) :
    applyStores old (convertYUV420SemiPlanarToYUV420Planar mem inYVU outYUV s.mWidth s.mHeight) =
      applyStores old
        (convertYUV420SemiPlanarToYUV420Planar mem' inYVU outYUV s.mWidth s.mHeight) := by
  have hfilled := (validateInputBuffer_raw_iff L s hraw hsmall nFilledLen).mp hacc
  obtain ⟨q, hq⟩ : ∃ q, s.mWidth.toNat = 4 * q := ⟨s.mWidth.toNat / 4, by omega⟩
  obtain ⟨r, hr⟩ : ∃ r, s.mHeight.toNat = 2 * r := ⟨s.mHeight.toNat / 2, by omega⟩
  -- the luma plane holds `8qr` bytes and each chroma plane `2qr`
  have hsize : s.mWidth.toNat * s.mHeight.toNat = 8 * (q * r) := by rw [hq, hr]; ring
  have hplane : s.mHeight.toNat / 2 * (s.mWidth.toNat / 2) = 2 * (q * r) := by
    rw [hq, hr, show 2 * r / 2 = r by omega, show 4 * q / 2 = 2 * q by omega]; ring
  rw [mul_assoc, hsize] at hsmall hfilled
  have hprod : s.mWidth.toNat * s.mHeight.toNat < 2 ^ 31 := by omega
  refine (convertYUV420SemiPlanarToYUV420Planar_planarFrame mem inYVU outYUV hw hh hprod hw4 hh2
    old).eq_of_agree outYUV _ _ _
    (convertYUV420SemiPlanarToYUV420Planar_planarFrame mem' inYVU outYUV hw hh hprod hw4 hh2 old)
    (fun j hj i hi => hfill _ ?_) (fun r' hr' c hc => hfill _ ?_) (fun r' hr' c hc => hfill _ ?_)
  · have := rowMajor_lt hj hi
    rw [Nat.mul_comm s.mHeight.toNat, hsize] at this
    omega
  all_goals
    have := rowMajor_lt hr' hc
    rw [hplane] at this
    omega

def qcifFilledOnly : Mem := fun a => if a.toNat < 0x10000 + 38016 then addressByte a else 0

theorem qcifRawFrame_coversSemiPlanarInput :
    addressByte (0x10000 + 38016) ≠ qcifFilledOnly (0x10000 + 38016) ∧
      applyStores addressByte (convertYUV420SemiPlanarToYUV420Planar addressByte 0x10000 0x100000
          (qcifAvc.initial lp64).mWidth (qcifAvc.initial lp64).mHeight) =
        applyStores addressByte (convertYUV420SemiPlanarToYUV420Planar qcifFilledOnly 0x10000
          0x100000 (qcifAvc.initial lp64).mWidth (qcifAvc.initial lp64).mHeight) := by
  have hfill : ∀ k < (38016 : U32).toNat,
      addressByte (0x10000 + (k : Nat)) = qcifFilledOnly (0x10000 + (k : Nat)) := by
    intro k hk
    have hk' : k < 38016 := hk
    have hlt : ((0x10000 : Addr) + (k : Nat)).toNat < 0x10000 + 38016 := by
      rw [BitVec.toNat_add, toNat_natCast_of_lt (by omega),
        show (0x10000 : Addr).toNat = 0x10000 from rfl]
      omega
    simp only [qcifFilledOnly, if_pos hlt]
  exact ⟨by decide, validateInputBuffer_coversSemiPlanarInput lp64 (qcifAvc.initial lp64) rfl
    (by decide) (by decide) (by decide) (by decide) (by decide)
    (show validateInputBuffer lp64 (qcifAvc.initial lp64) 38016 = .errorNone by decide) 0x10000
    0x100000 hfill addressByte⟩

end SoftVideoEncoder
