import SoftVideoEncoder.Omx.Egl

/-!
# Port definitions against the authoritative fields

Every handler that changes `mWidth`, `mHeight`, `mFramerate`, `mBitrate` or `mColorFormat` ends
with `updatePortParams`, which re-derives both definitions from the fields and reads nothing it
writes, so one call of it puts the ports in step. The exception is the input branch of
`internalSetPortParams`: it writes the geometry and the frame rate (and on PowerVR allocates the
readback buffer) before it checks the formats, and a rejection there returns with the fields
ahead of the definitions.
-/

namespace SoftVideoEncoder

/-- The definitions are those `updatePortParams` derives from the fields. -/
def PortsInSync (L : MetadataLayout) (s : Component) : Prop := updatePortParams L s = s

instance (L : MetadataLayout) (s : Component) : Decidable (PortsInSync L s) :=
  inferInstanceAs (Decidable (_ = _))

/-- A valid input-port definition whose formats `internalSetPortParams` rejects, which it does
only after writing the geometry and the frame rate. -/
def writesThenRejects (port : PortDefinition) : Prop :=
  port.validHeader = true ∧ port.nPortIndex = kInputPortIndex ∧
    (port.eCompressionFormat ≠ omxVideoCodingUnused ∨ ¬ isSupportedColorFormat port.eColorFormat)

/-- A call other than a port definition that `internalSetPortParams` rejects after writing. -/
def Call.keepsPortsInSync : Call → Prop
  | .setParameter (.portDefinition port _) => ¬ writesThenRejects port
  | _ => True

section Spec

variable (L : MetadataLayout) (s : Component)

def SameNegotiation (s t : Component) : Prop :=
  t.mWidth = s.mWidth ∧ t.mHeight = s.mHeight ∧ t.mFramerate = s.mFramerate ∧
    t.mBitrate = s.mBitrate ∧ t.mColorFormat = s.mColorFormat ∧
    t.mMinOutputBufferSize = s.mMinOutputBufferSize ∧
    t.mMinCompressionRatio = s.mMinCompressionRatio ∧ t.inDef = s.inDef ∧ t.outDef = s.outDef

theorem portsInSync_iff :
    PortsInSync L s ↔
      s.inDef = (updatePortParams L s).inDef ∧ s.outDef = (updatePortParams L s).outDef := by
  constructor
  · intro h
    rw [h]
    exact ⟨rfl, rfl⟩
  · rintro ⟨hi, ho⟩
    rw [PortsInSync, updatePortParams_eq, ← hi, ← ho]

theorem PortsInSync.congr {s t : Component} (h : SameNegotiation s t) (hs : PortsInSync L s) :
    PortsInSync L t := by
  obtain ⟨hw, hh, hf, hb, hc, hm, hr, hi, ho⟩ := h
  rw [portsInSync_iff] at hs ⊢
  simpa only [updatePortParams_inDef, updatePortParams_outDef, rawBufferSize, hw, hh, hf, hb, hc,
    hm, hr, hi, ho] using hs

private theorem initEgl_sameNegotiation (src : MetadataBuffer) (drv : EglDriver) :
    SameNegotiation s (initEgl s src drv) := by
  unfold initEgl SameNegotiation
  split_ifs <;> simp

private theorem closeEgl_sameNegotiation : SameNegotiation s (closeEgl s) := by
  by_cases hp : s.mIsPowervr <;> by_cases hd : s.mEglDisplay = eglNoDisplay <;>
    simp [closeEgl, SameNegotiation, hp, hd]

theorem portsInSync_updatePortParams : PortsInSync L (updatePortParams L s) :=
  updatePortParams_idem L s

theorem portsInSync_initial (c : Creation) : PortsInSync L (c.initial L) :=
  portsInSync_updatePortParams L _

private theorem internalSetPortParams_spec (port : PortDefinition) :
    ((internalSetPortParams L s port).1 = .errorNone ∧
        ∃ t, (internalSetPortParams L s port).2 = updatePortParams L t) ∨
      ((internalSetPortParams L s port).1 ≠ .errorNone ∧ (internalSetPortParams L s port).2 = s) ∨
      writesThenRejects port := by
  unfold internalSetPortParams writesThenRejects
  split_ifs <;> simp_all

@[simp] theorem internalSetParameter_portDefinition_snd (port : PortDefinition) (b : OmxError) :
    (internalSetParameter L s (.portDefinition port b)).2 = (internalSetPortParams L s port).2 := by
  simp only [internalSetParameter]
  split_ifs <;> rfl

private theorem internalSetParameter_state (p : SetParameter) :
    (internalSetParameter L s p).2 = s ∨ (∃ t, (internalSetParameter L s p).2 = updatePortParams L t) ∨
      ∃ port b, p = .portDefinition port b ∧ writesThenRejects port := by
  cases p with
  | portDefinition port b =>
    rcases internalSetPortParams_spec L s port with ⟨-, t, h⟩ | ⟨-, h⟩ | h
    · right; left; exact ⟨t, by rw [internalSetParameter_portDefinition_snd, h]⟩
    · left; rw [internalSetParameter_portDefinition_snd, h]
    · right; right; exact ⟨port, b, rfl, h⟩
  | _ =>
    -- every branch answers `s` or re-derives the ports
    refine Or.imp_right Or.inl ?_
    simp only [internalSetParameter, apply_ite Prod.snd,
      apply_ite (fun r => r = s ∨ ∃ t, r = updatePortParams L t)]
    simp

private theorem portsInSync_step {s : Component} (hs : PortsInSync L s) (c : Call)
    (hc : c.keepsPortsInSync) : PortsInSync L (step L s c) := by
  cases c with
  | setParameter p =>
    rcases internalSetParameter_state L s p with h | ⟨t, h⟩ | ⟨port, b, rfl, h⟩
    · simpa [step, h] using hs
    · simpa [step, h] using portsInSync_updatePortParams L t
    · exact absurd h hc
  | initEgl _ _ src drv => exact hs.congr L (initEgl_sameNegotiation s src drv)
  | closeEgl => exact hs.congr L (closeEgl_sameNegotiation s)

/-- Along every run from `initPorts` in which no input-port definition is rejected after its
writes, the definitions stay those `updatePortParams` derives. -/
theorem portsInSync_run (c : Creation) (calls : List Call)
    (hcalls : ∀ call ∈ calls, call.keepsPortsInSync) : PortsInSync L (run L (c.initial L) calls) := by
  suffices ∀ s, PortsInSync L s → PortsInSync L (run L s calls) from
    this _ (portsInSync_initial L c)
  induction calls with
  | nil => intro s hs; exact hs
  | cons call calls ih =>
    intro s hs
    exact ih (fun c hc => hcalls c (.tail _ hc)) _
      (portsInSync_step L hs call (hcalls call (.head _)))

theorem portsInSync_run_metadataThenFormat :
    PortsInSync lp64 (run lp64 (qcifAvc.initial lp64)
      [.setParameter (.storeMetaData ⟨true, kInputPortIndex, omxTrue⟩),
        .setParameter
          (.videoPortFormat ⟨true, kInputPortIndex, 0, 0, omxColorFormatYUV420SemiPlanar, 0⟩),
        .closeEgl]) :=
  portsInSync_run lp64 qcifAvc _ fun call hc => by
    simp only [List.mem_cons, List.mem_singleton, List.not_mem_nil, or_false] at hc
    rcases hc with rfl | rfl | rfl <;> trivial

/-- A rejected request leaves the state as it was, unless it is a port definition that
`internalSetPortParams` rejects after writing, or one it accepts and the base class rejects. -/
theorem internalSetParameter_rejected (p : SetParameter)
    (herr : (internalSetParameter L s p).1 ≠ .errorNone) :
    (internalSetParameter L s p).2 = s ∨
      ∃ port b, p = .portDefinition port b ∧
        (writesThenRejects port ∨ (internalSetPortParams L s port).1 = .errorNone) := by
  cases p with
  | portDefinition port b =>
    rcases internalSetPortParams_spec L s port with ⟨h, -⟩ | ⟨-, h⟩ | h
    · exact .inr ⟨port, b, rfl, .inr h⟩
    · exact .inl (by rw [internalSetParameter_portDefinition_snd, h])
    · exact .inr ⟨port, b, rfl, .inl h⟩
  | _ =>
    -- every branch that rejects answers `s`
    refine .inl ?_
    revert herr
    simp only [internalSetParameter,
      apply_ite (fun r : OmxError × Component => r.1 ≠ .errorNone → r.2 = s)]
    simp

theorem rgb565PortFormat_rejected :
    (internalSetParameter lp64 (qcifAvc.initial lp64)
        (.videoPortFormat ⟨true, kInputPortIndex, 0, 0, 6, 0⟩)).2 = qcifAvc.initial lp64 ∨
      ∃ port b, SetParameter.videoPortFormat ⟨true, kInputPortIndex, 0, 0, 6, 0⟩ =
          .portDefinition port b ∧
        (writesThenRejects port ∨
          (internalSetPortParams lp64 (qcifAvc.initial lp64) port).1 = .errorNone) :=
  internalSetParameter_rejected lp64 _ _ (by decide)

theorem PortsInSync.nBufferSize {s : Component} (hs : PortsInSync L s) :
    s.inDef.nBufferSize = if s.mColorFormat = omxColorFormatAndroidOpaque
      then BitVec.ofNat 32 L.bufferSize else rawBufferSize s :=
  calc s.inDef.nBufferSize = (updatePortParams L s).inDef.nBufferSize := by rw [hs]
    _ = _ := by simp

end Spec

def rgb565InputDefinition (s : Component) : PortDefinition :=
  { s.inDef with nFrameWidth := 320, nFrameHeight := 240, eColorFormat := 6 }

def rgb565Rejection (L : MetadataLayout) : OmxError × Component :=
  internalSetParameter L (qcifAvc.initial L)
    (.portDefinition (rgb565InputDefinition (qcifAvc.initial L)) .errorNone)

theorem rgb565InputDefinition_leavesPortsBehind (L : MetadataLayout) :
    Reachable L (rgb565Rejection L).2 ∧ (rgb565Rejection L).1 = .errorUnsupportedSetting ∧
      (rgb565Rejection L).2.mWidth = 320 ∧ (rgb565Rejection L).2.inDef.nFrameWidth = 176 ∧
      (rgb565Rejection L).2.inDef.nBufferSize = 38016 :=
  ⟨.after (.setParameter _) (.initial qcifAvc), rfl, rfl, rfl, rfl⟩

theorem rgb565InputDefinition_writesGeometry (L : MetadataLayout) :
    Reachable L (qcifAvc.initial L) ∧ (rgb565Rejection L).1 = .errorUnsupportedSetting ∧
      (rgb565Rejection L).2.mWidth = 320 ∧ (qcifAvc.initial L).mWidth = 176 ∧
      (rgb565Rejection L).2.mHeight = 240 ∧ (qcifAvc.initial L).mHeight = 144 :=
  ⟨.initial qcifAvc, rfl, rfl, rfl, rfl, rfl⟩

def opaqueWithoutMetadata : Component :=
  (internalSetParameter lp64 (qcifAvc.initial lp64)
    (.videoPortFormat ⟨true, kInputPortIndex, 0, 0, omxColorFormatAndroidOpaque, 0⟩)).2

theorem opaqueFormatWithoutMetadata_rejectsAdvertisedSize :
    Reachable lp64 opaqueWithoutMetadata ∧ opaqueWithoutMetadata.mInputDataIsMeta = false ∧
      opaqueWithoutMetadata.inDef.nBufferSize = 24 ∧
      validateInputBuffer lp64 opaqueWithoutMetadata 24 = .errorUndefined :=
  ⟨.after (.setParameter _) (.initial qcifAvc), rfl, by decide, by decide⟩

/-- With the definitions derived from the fields, metadata mode on exactly for the opaque
format, and the 32-bit product `mWidth*mHeight*3` below `2^31`, the validator accepts exactly
the lengths the input definition advertises. -/
theorem validateInputBuffer_accepts_iff_bufferSize (L : MetadataLayout) (s : Component)
    (hs : PortsInSync L s)
    (hmeta : s.mInputDataIsMeta = true ↔ s.mColorFormat = omxColorFormatAndroidOpaque)
    (hraw : s.mInputDataIsMeta = false → (s.mWidth * s.mHeight * 3).toNat < 2 ^ 31) (n : U32) :
    validateInputBuffer L s n = .errorNone ↔ s.inDef.nBufferSize ≤ n := by
  rw [hs.nBufferSize]
  have hfits := L.fits
  unfold validateInputBuffer
  cases hm : s.mInputDataIsMeta
  · have hc : s.mColorFormat ≠ omxColorFormatAndroidOpaque := by simpa [hm] using hmeta
    have h := int32ToSizeT_sdiv_two_toNat (hraw hm)
    simp only [hc, Bool.false_eq_true, ite_false, rawBufferSize, BitVec.lt_def, BitVec.le_def,
      BitVec.toNat_setWidth, h, BitVec.toNat_udiv, BitVec.reduceToNat, ite_eq_right_iff,
      reduceCtorEq, imp_false, not_lt]
    omega
  · have hc : s.mColorFormat = omxColorFormatAndroidOpaque := hmeta.mp hm
    simp only [hc, ite_true, BitVec.lt_def, BitVec.le_def, BitVec.toNat_setWidth,
      BitVec.toNat_ofNat, MetadataLayout.bufferSize, ite_eq_right_iff, reduceCtorEq, imp_false,
      not_lt]
    omega

theorem validateInputBuffer_accepts_iff_bufferSize_qcif :
    PortsInSync lp64 (qcifAvc.initial lp64) ∧
      ((qcifAvc.initial lp64).mInputDataIsMeta = true ↔
        (qcifAvc.initial lp64).mColorFormat = omxColorFormatAndroidOpaque) ∧
      ((qcifAvc.initial lp64).mInputDataIsMeta = false →
        ((qcifAvc.initial lp64).mWidth * (qcifAvc.initial lp64).mHeight * 3).toNat < 2 ^ 31) ∧
      (validateInputBuffer lp64 (qcifAvc.initial lp64) 38016 = .errorNone ↔
        (qcifAvc.initial lp64).inDef.nBufferSize ≤ 38016) :=
  have hs := portsInSync_initial lp64 qcifAvc
  have hm : (qcifAvc.initial lp64).mInputDataIsMeta = true ↔
      (qcifAvc.initial lp64).mColorFormat = omxColorFormatAndroidOpaque := by decide
  have hr : (qcifAvc.initial lp64).mInputDataIsMeta = false →
      ((qcifAvc.initial lp64).mWidth * (qcifAvc.initial lp64).mHeight * 3).toNat < 2 ^ 31 := by
    decide
  ⟨hs, hm, hr, validateInputBuffer_accepts_iff_bufferSize lp64 _ hs hm hr 38016⟩

end SoftVideoEncoder
