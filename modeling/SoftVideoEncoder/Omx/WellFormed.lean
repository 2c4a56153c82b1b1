import SoftVideoEncoder.Omx.PortSync
import SoftVideoEncoder.Omx.Repeat
import SoftVideoEncoder.Omx.ScratchBuffer

/-!
# The states a run can reach

Every call writes only a few fields. A parameter request writes the geometry, the frame rate and,
on PowerVR, the readback buffer, as well as the bitrate, metadata mode and the colour format. It
writes the colour format only to one of the three supported formats. Afterwards it re-derives both
definitions, or it does not (`internalSetParameter_stepWrite`). `initEgl` and `closeEgl` write
the EGL objects and the readback buffer, and only on PowerVR (`EglWrite`).

So every reachable state is `WellFormed` (`WellFormed.of_reachable`):
- its definitions are what `updatePortParams` derives, up to the geometry and frame rate that a
  rejected input definition leaves behind;
- its colour format is supported;
- both definitions keep the header `initPorts` gave them;
- a CPU build has no EGL object and no readback buffer.

No call writes the fields the constructor and `initPorts` set (`run_sameCreation`). Read over a
run from `initPorts`, these give the results of the last section: the output definition never
asks for less than the minimum buffer size, the output keeps the coding type, and a CPU build
never touches EGL.
-/

namespace SoftVideoEncoder

section Writes

variable (L : MetadataLayout) (s : Component)

/-- What a parameter request may change: the geometry, the frame rate, the readback buffer (only
on PowerVR), the bitrate, metadata mode, and the colour format (only to a supported one). -/
def ParamWrite (s t : Component) : Prop :=
  t = { s with
    mWidth := t.mWidth, mHeight := t.mHeight, mFramerate := t.mFramerate, mShmData := t.mShmData,
    mBitrate := t.mBitrate, mInputDataIsMeta := t.mInputDataIsMeta,
    mColorFormat := t.mColorFormat } ∧
  (t.mShmData ≠ s.mShmData → s.mIsPowervr = true) ∧
  (t.mColorFormat ≠ s.mColorFormat → isSupportedColorFormat t.mColorFormat)

/-- A request's effect: the writes followed by `updatePortParams`, or writes that leave the
definitions, the colour format, the bitrate and metadata mode as they were. -/
def StepWrite (s r : Component) : Prop :=
  ∃ t, ParamWrite s t ∧
    (r = updatePortParams L t ∨
      r = t ∧ t.mColorFormat = s.mColorFormat ∧ t.mBitrate = s.mBitrate ∧
        t.mInputDataIsMeta = s.mInputDataIsMeta)

theorem ParamWrite.refl : ParamWrite s s := ⟨rfl, fun h => absurd rfl h, fun h => absurd rfl h⟩

theorem StepWrite.refl : StepWrite L s s := ⟨s, .refl s, .inr ⟨rfl, rfl, rfl, rfl⟩⟩

theorem StepWrite.updatePortParams {t : Component} (ht : ParamWrite s t) :
    StepWrite L s (SoftVideoEncoder.updatePortParams L t) :=
  ⟨t, ht, .inl rfl⟩

private theorem internalSetPortParams_input_stepWrite {port : PortDefinition}
    (hv : port.validHeader = true) (hi : port.nPortIndex = kInputPortIndex) :
    StepWrite L s (internalSetPortParams L s port).2 := by
  simp only [internalSetPortParams, hv, hi, Bool.not_true, Bool.false_eq_true, if_false, if_true]
  have hw : ∀ shm c, (shm ≠ s.mShmData → s.mIsPowervr = true) →
      (c ≠ s.mColorFormat → isSupportedColorFormat c) → ParamWrite s
        { s with
          mWidth := port.nFrameWidth, mHeight := port.nFrameHeight, mShmData := shm,
          mFramerate := port.xFramerate, mColorFormat := c } :=
    fun _ _ hshm hc => ⟨rfl, hshm, hc⟩
  -- the readback buffer is allocated only on PowerVR, and only a supported format is taken
  split_ifs with hr halloc halloc
  · exact ⟨_, hw _ _ (fun _ => halloc.1) (fun h => absurd rfl h), .inr ⟨rfl, rfl, rfl, rfl⟩⟩
  · exact ⟨_, hw _ _ (fun h => absurd rfl h) (fun h => absurd rfl h), .inr ⟨rfl, rfl, rfl, rfl⟩⟩
  all_goals
    refine .updatePortParams L s (hw _ _ ?_ fun _ => not_not.mp (not_or.mp hr).2)
  exacts [fun _ => halloc.1, fun h => absurd rfl h]

private theorem internalSetPortParams_stepWrite (port : PortDefinition) :
    StepWrite L s (internalSetPortParams L s port).2 := by
  by_cases hv : port.validHeader = true
  · by_cases hi : port.nPortIndex = kInputPortIndex
    · exact internalSetPortParams_input_stepWrite L s hv hi
    by_cases ho : port.nPortIndex = kOutputPortIndex
    · simp only [internalSetPortParams, hv, hi, ho, kOutputPortIndex_ne_input, Bool.not_true,
        Bool.false_eq_true, if_false, if_true, apply_ite Prod.snd]
      split_ifs
      exacts [.refl L s,
        .updatePortParams L s ⟨rfl, fun h => absurd rfl h, fun h => absurd rfl h⟩]
    · simpa [internalSetPortParams, hv, hi, ho] using StepWrite.refl L s
  · simpa [internalSetPortParams, hv] using StepWrite.refl L s

theorem internalSetParameter_stepWrite (p : SetParameter) :
    StepWrite L s (internalSetParameter L s p).2 := by
  cases p with
  | portDefinition port b =>
    rw [internalSetParameter_portDefinition_snd]
    exact internalSetPortParams_stepWrite L s port
  | videoPortFormat f =>
    simp only [internalSetParameter, apply_ite Prod.snd]
    split_ifs with hv hi hs
    exacts [.refl L s, .updatePortParams L s ⟨rfl, fun h => absurd rfl h, fun _ => hs⟩,
      .refl L s, .refl L s, .refl L s, .refl L s]
  | storeMetaData sp =>
    simp only [internalSetParameter, apply_ite Prod.snd]
    split_ifs
    any_goals exact .refl L s
    -- metadata mode picks the opaque format, and leaving it picks the planar one
    all_goals refine .updatePortParams L s ⟨rfl, fun h => absurd rfl h, fun hc => ?_⟩
    exacts [.inr (.inr rfl), .inl rfl, absurd rfl hc]
  | videoErrorCorrection => exact .refl L s
  | standardComponentRole v r =>
    simp only [internalSetParameter, apply_ite Prod.snd, ite_self]
    exact .refl L s
  | other i b => exact .refl L s

/-- What `initEgl` and `closeEgl` may change: the EGL objects and the readback buffer, and
nothing at all on a CPU build. -/
def EglWrite (s t : Component) : Prop :=
  t = { s with
    mEglDisplay := t.mEglDisplay, mEglContext := t.mEglContext, mEglSurface := t.mEglSurface,
    mProgram := t.mProgram, mShmData := t.mShmData } ∧
  (s.mIsPowervr = false → t = s)

theorem initEgl_eglWrite (src : MetadataBuffer) (drv : EglDriver) :
    EglWrite s (initEgl s src drv) := by
  unfold initEgl
  split_ifs with h
  exacts [⟨rfl, fun _ => rfl⟩, ⟨rfl, fun hp => by simp [hp] at h⟩, ⟨rfl, fun _ => rfl⟩]

theorem closeEgl_eglWrite : EglWrite s (closeEgl s) := by
  dsimp only [closeEgl]
  split_ifs with hp
  exacts [⟨rfl, fun h => by simp [hp] at h⟩, ⟨rfl, fun h => by simp [hp] at h⟩,
    ⟨rfl, fun _ => rfl⟩]

end Writes

section Frames

variable {L : MetadataLayout} {r s t : Component}

def SameCreation (s t : Component) : Prop :=
  t.mCodingType = s.mCodingType ∧ t.mComponentRole = s.mComponentRole ∧
    t.mProfileLevels = s.mProfileLevels ∧ t.mMinOutputBufferSize = s.mMinOutputBufferSize ∧
    t.mMinCompressionRatio = s.mMinCompressionRatio ∧ t.mIsPowervr = s.mIsPowervr

theorem SameCreation.trans (h₁ : SameCreation r s) (h₂ : SameCreation s t) :
    SameCreation r t := by
  obtain ⟨a₁, b₁, c₁, d₁, e₁, f₁⟩ := h₁
  obtain ⟨a₂, b₂, c₂, d₂, e₂, f₂⟩ := h₂
  exact
    ⟨a₂.trans a₁, b₂.trans b₁, c₂.trans c₁, d₂.trans d₁, e₂.trans e₁, f₂.trans f₁⟩

theorem ParamWrite.frame (ht : ParamWrite s t) :
    SameCreation s t ∧ t.inDef = s.inDef ∧ t.outDef = s.outDef ∧
      t.mEglDisplay = s.mEglDisplay ∧ t.mEglContext = s.mEglContext ∧
      t.mEglSurface = s.mEglSurface ∧ t.mProgram = s.mProgram := by
  rw [ht.1]
  exact ⟨⟨rfl, rfl, rfl, rfl, rfl, rfl⟩, rfl, rfl, rfl, rfl, rfl, rfl⟩

theorem EglWrite.frame (ht : EglWrite s t) :
    SameNegotiation s t ∧ SameCreation s t := by
  rw [ht.1]
  exact ⟨⟨rfl, rfl, rfl, rfl, rfl, rfl, rfl, rfl, rfl⟩, rfl, rfl, rfl, rfl, rfl, rfl⟩

theorem step_sameCreation (call : Call) : SameCreation s (step L s call) := by
  cases call with
  | setParameter p =>
    obtain ⟨t, ht, h | ⟨h, -⟩⟩ := internalSetParameter_stepWrite L s p <;>
      rw [SoftVideoEncoder.step, h]
    exacts [ht.frame.1, ht.frame.1]
  | initEgl _ _ src drv => exact (initEgl_eglWrite s src drv).frame.2
  | closeEgl => exact (closeEgl_eglWrite s).frame.2

theorem run_sameCreation (calls : List Call) : SameCreation s (run L s calls) := by
  induction calls generalizing s with
  | nil => exact ⟨rfl, rfl, rfl, rfl, rfl, rfl⟩
  | cons call calls ih => exact (step_sameCreation call).trans ih

def SameEgl (s t : Component) : Prop :=
  t.mEglDisplay = s.mEglDisplay ∧ t.mEglContext = s.mEglContext ∧
    t.mEglSurface = s.mEglSurface ∧ t.mProgram = s.mProgram

theorem SameEgl.trans (h₁ : SameEgl r s) (h₂ : SameEgl s t) : SameEgl r t :=
  ⟨h₂.1.trans h₁.1, h₂.2.1.trans h₁.2.1, h₂.2.2.1.trans h₁.2.2.1, h₂.2.2.2.trans h₁.2.2.2⟩

private theorem step_sameEgl (hdisp : s.mEglDisplay ≠ eglNoDisplay) {call : Call}
    (hcall : call ≠ .closeEgl) : SameEgl s (step L s call) := by
  cases call with
  | setParameter p =>
    obtain ⟨t, ht, h | ⟨h, -⟩⟩ := internalSetParameter_stepWrite L s p <;>
      rw [SoftVideoEncoder.step, h] <;>
      obtain ⟨-, -, -, hd, hc, hsf, hp⟩ := ht.frame
    exacts [⟨hd, hc, hsf, hp⟩, ⟨hd, hc, hsf, hp⟩]
  | initEgl _ _ src drv =>
    rw [SoftVideoEncoder.step, initEgl, if_neg fun h => hdisp h.2]
    exact ⟨rfl, rfl, rfl, rfl⟩
  | closeEgl => exact absurd rfl hcall

/-- Along a run without `closeEgl`, an initialised display and the objects created with it stay
as they are. -/
theorem run_sameEgl (hdisp : s.mEglDisplay ≠ eglNoDisplay) (calls : List Call)
    (hno : Call.closeEgl ∉ calls) : SameEgl s (run L s calls) := by
  induction calls generalizing s with
  | nil => exact ⟨rfl, rfl, rfl, rfl⟩
  | cons call calls ih =>
    have hstep := step_sameEgl (L := L) hdisp fun h => hno (h ▸ .head _)
    exact hstep.trans (ih (hstep.1 ▸ hdisp) fun h => hno (.tail _ h))

theorem initEglFirst_keepsEgl :
    SameEgl initEglFirst (run lp64 initEglFirst
      [.setParameter (.storeMetaData ⟨true, kInputPortIndex, omxTrue⟩),
        .initEgl 176 144 qcifRgbaMetadata ⟨2, 2, 2, 2⟩]) :=
  run_sameEgl (by decide) _ (by decide)

/-- Closing twice is closing once. -/
theorem closeEgl_closeEgl : closeEgl (closeEgl s) = closeEgl s := by
  by_cases hp : s.mIsPowervr <;> by_cases hd : s.mEglDisplay = eglNoDisplay <;>
    simp [closeEgl, hp, hd]

end Frames

/-- The part of `WellFormed` every write keeps on its own, whatever it does to the definitions. -/
structure PortShape (s : Component) : Prop where
  /-- The colour format is one of `kSupportedColorFormats`. -/
  colorFormat : isSupportedColorFormat s.mColorFormat
  /-- The input definition keeps the header and compression format `initPorts` gave it. -/
  inHeader : s.inDef.validHeader = true ∧ s.inDef.nPortIndex = kInputPortIndex ∧
    s.inDef.eCompressionFormat = omxVideoCodingUnused
  /-- The output definition keeps its header, the coding type and no colour format. -/
  outHeader : s.outDef.validHeader = true ∧ s.outDef.nPortIndex = kOutputPortIndex ∧
    s.outDef.eCompressionFormat = s.mCodingType ∧ s.outDef.eColorFormat = omxColorFormatUnused
  /-- A CPU build has no EGL object and no readback buffer. -/
  cpu : s.mIsPowervr = false → s.mShmData = none ∧ s.mEglDisplay = eglNoDisplay ∧
    s.mEglContext = eglNoContext ∧ s.mEglSurface = eglNoSurface ∧ s.mProgram = 0

/-- What holds in every state a run reaches. -/
structure WellFormed (L : MetadataLayout) (s : Component) extends PortShape s : Prop where
  /-- The definitions are those `updatePortParams` derives, up to the geometry and frame rate
  that an input definition may write before it is rejected. -/
  lag : ∃ w h f, PortsInSync L { s with mWidth := w, mHeight := h, mFramerate := f }

section Preserve

variable {L : MetadataLayout} {s t : Component}

theorem PortShape.paramWrite (hs : PortShape s) (ht : ParamWrite s t) : PortShape t := by
  obtain ⟨⟨hcode, -, -, -, -, hpvr⟩, hin, hout, hd, hc, hsf, hp⟩ := ht.frame
  refine ⟨?_, hin ▸ hs.inHeader, ?_, fun hcpu => ?_⟩
  · by_cases h : t.mColorFormat = s.mColorFormat
    · exact h ▸ hs.colorFormat
    · exact ht.2.2 h
  · simpa only [hout, hcode] using hs.outHeader
  · have hcpu' : s.mIsPowervr = false := hpvr ▸ hcpu
    have hshm : t.mShmData = s.mShmData := by
      by_contra hne
      simp [ht.2.1 hne] at hcpu'
    simpa only [hshm, hd, hc, hsf, hp] using hs.cpu hcpu'

theorem PortShape.updatePortParams (hs : PortShape t) : PortShape (updatePortParams L t) :=
  ⟨hs.colorFormat, hs.inHeader, hs.outHeader, hs.cpu⟩

theorem PortShape.eglWrite (hs : PortShape s) (ht : EglWrite s t) : PortShape t := by
  obtain ⟨⟨-, -, -, -, hcol, -, -, hin, hout⟩, hcode, -, -, -, -, hpvr⟩ := ht.frame
  refine ⟨hcol ▸ hs.colorFormat, hin ▸ hs.inHeader, ?_, fun hcpu => ?_⟩
  · simpa only [hout, hcode] using hs.outHeader
  · rw [ht.2 (hpvr ▸ hcpu)]
    exact hs.cpu (hpvr ▸ hcpu)

theorem WellFormed.initial (c : Creation) : WellFormed L (c.initial L) where
  lag := ⟨_, _, _, portsInSync_initial L c⟩
  colorFormat := .inl rfl
  inHeader := ⟨rfl, rfl, rfl⟩
  outHeader := ⟨rfl, rfl, rfl, rfl⟩
  cpu := fun _ => ⟨rfl, rfl, rfl, rfl, rfl⟩

theorem WellFormed.lag_congr (hs : WellFormed L s)
    (h : t.mBitrate = s.mBitrate ∧ t.mColorFormat = s.mColorFormat ∧
      t.mMinOutputBufferSize = s.mMinOutputBufferSize ∧
      t.mMinCompressionRatio = s.mMinCompressionRatio ∧ t.inDef = s.inDef ∧
      t.outDef = s.outDef) :
    ∃ w h f, PortsInSync L { t with mWidth := w, mHeight := h, mFramerate := f } := by
  obtain ⟨w, h', f, hsync⟩ := hs.lag
  exact ⟨w, h', f, hsync.congr L (by exact ⟨rfl, rfl, rfl, h⟩)⟩

theorem WellFormed.eglWrite (hs : WellFormed L s) (ht : EglWrite s t) : WellFormed L t := by
  obtain ⟨⟨-, -, -, hb, hcol, hmin, hratio, hin, hout⟩, -⟩ := ht.frame
  exact ⟨hs.toPortShape.eglWrite ht, hs.lag_congr ⟨hb, hcol, hmin, hratio, hin, hout⟩⟩

theorem WellFormed.step (hs : WellFormed L s) (call : Call) : WellFormed L (step L s call) := by
  cases call with
  | setParameter p =>
    obtain ⟨t, ht, h | ⟨h, hcol, hbit, -⟩⟩ := internalSetParameter_stepWrite L s p <;>
      rw [SoftVideoEncoder.step, h]
    · exact ⟨(hs.paramWrite ht).updatePortParams, _, _, _, portsInSync_updatePortParams L t⟩
    · obtain ⟨⟨-, -, -, hmin, hratio, -⟩, hin, hout, -⟩ := ht.frame
      exact ⟨hs.paramWrite ht, hs.lag_congr ⟨hbit, hcol, hmin, hratio, hin, hout⟩⟩
  | initEgl _ _ src drv => exact hs.eglWrite (initEgl_eglWrite s src drv)
  | closeEgl => exact hs.eglWrite (closeEgl_eglWrite s)

theorem WellFormed.of_reachable (h : Reachable L s) : WellFormed L s :=
  h.induction WellFormed.initial fun _ call hs => hs.step call

end Preserve

theorem WellFormed.minOutputBufferSize_le {L : MetadataLayout} {s : Component}
    (hs : WellFormed L s) : s.mMinOutputBufferSize ≤ s.outDef.nBufferSize := by
  obtain ⟨w, h, f, hsync⟩ := hs.lag
  have hsize := congrArg (fun t => t.outDef.nBufferSize) hsync
  simp only [updatePortParams_outDef] at hsize
  rw [BitVec.le_def, ← hsize, toNat_wordMax]
  exact le_max_left _ _

section Runs

variable (L : MetadataLayout) (c : Creation) (calls : List Call)

private theorem wellFormed_run : WellFormed L (run L (c.initial L) calls) :=
  .of_reachable ((Reachable.initial c).run calls)

/-- After any calls, the port definitions are those `updatePortParams` derives from the fields,
except for the geometry and frame rate they were last derived from. -/
theorem run_definitions_lagOnlyInGeometry :
    ∃ w h f, PortsInSync L
      { run L (c.initial L) calls with mWidth := w, mHeight := h, mFramerate := f } :=
  (wellFormed_run L c calls).lag

theorem run_colorFormat_supported :
    isSupportedColorFormat (run L (c.initial L) calls).mColorFormat :=
  (wellFormed_run L c calls).colorFormat

/-- No request ever writes a client's header, port index or formats into a definition. -/
theorem run_portHeaders :
    (run L (c.initial L) calls).inDef.validHeader = true ∧
      (run L (c.initial L) calls).inDef.nPortIndex = kInputPortIndex ∧
      (run L (c.initial L) calls).inDef.eCompressionFormat = omxVideoCodingUnused ∧
      (run L (c.initial L) calls).outDef.validHeader = true ∧
      (run L (c.initial L) calls).outDef.nPortIndex = kOutputPortIndex ∧
      (run L (c.initial L) calls).outDef.eCompressionFormat = c.codingType ∧
      (run L (c.initial L) calls).outDef.eColorFormat = omxColorFormatUnused := by
  obtain ⟨hv, hi, hc⟩ := (wellFormed_run L c calls).inHeader
  obtain ⟨hv', hi', hc', hf'⟩ := (wellFormed_run L c calls).outHeader
  exact ⟨hv, hi, hc, hv', hi', hc'.trans (run_sameCreation calls).1, hf'⟩

/-- The fields the constructor and `initPorts` set keep their values through every call. -/
theorem run_creationFields :
    (run L (c.initial L) calls).mCodingType = c.codingType ∧
      (run L (c.initial L) calls).mComponentRole = c.componentRole ∧
      (run L (c.initial L) calls).mProfileLevels = c.profileLevels ∧
      (run L (c.initial L) calls).mMinOutputBufferSize = c.outputBufferSize ∧
      (run L (c.initial L) calls).mMinCompressionRatio = c.minCompressionRatio ∧
      (run L (c.initial L) calls).mIsPowervr = (c.eglProperty == "powervr") :=
  run_sameCreation calls

/-- A component not built for PowerVR never allocates the readback buffer and never holds an
EGL object, whatever calls it gets. -/
theorem run_cpuBuild_noEglState (hcpu : c.eglProperty ≠ "powervr") :
    (run L (c.initial L) calls).mShmData = none ∧
      (run L (c.initial L) calls).mEglDisplay = eglNoDisplay ∧
      (run L (c.initial L) calls).mEglContext = eglNoContext ∧
      (run L (c.initial L) calls).mEglSurface = eglNoSurface ∧
      (run L (c.initial L) calls).mProgram = 0 := by
  refine (wellFormed_run L c calls).cpu ?_
  rw [(run_sameCreation calls).2.2.2.2.2]
  exact beq_eq_false_iff_ne.mpr hcpu

def qvgaEglSession : List Call :=
  [.setParameter (.portDefinition
      { (qcifAvc.initial lp64).inDef with nFrameWidth := 320, nFrameHeight := 240 } .errorNone),
    .initEgl 320 240 qcifRgbaMetadata ⟨1, 1, 1, 1⟩,
    .setParameter (.storeMetaData ⟨true, kInputPortIndex, omxTrue⟩)]

theorem run_cpuBuild_noEglState_qcif :
    qcifAvc.eglProperty ≠ "powervr" ∧
      (run lp64 (qcifAvc.initial lp64) qvgaEglSession).mShmData = none ∧
      (run lp64 (qcifAvc.initial lp64) qvgaEglSession).mEglDisplay = eglNoDisplay ∧
      (run lp64 (qcifAvc.initial lp64) qvgaEglSession).mEglContext = eglNoContext ∧
      (run lp64 (qcifAvc.initial lp64) qvgaEglSession).mEglSurface = eglNoSurface ∧
      (run lp64 (qcifAvc.initial lp64) qvgaEglSession).mProgram = 0 :=
  ⟨by decide, run_cpuBuild_noEglState lp64 qcifAvc qvgaEglSession (by decide)⟩

/-- The output definition never advertises a buffer smaller than the size `initPorts` was
given. -/
theorem run_outputBufferSize_ge_min :
    c.outputBufferSize ≤ (run L (c.initial L) calls).outDef.nBufferSize := by
  have hmin : (run L (c.initial L) calls).mMinOutputBufferSize = c.outputBufferSize :=
    (run_sameCreation calls).2.2.2.1
  exact hmin ▸ (wellFormed_run L c calls).minOutputBufferSize_le

end Runs

end SoftVideoEncoder
