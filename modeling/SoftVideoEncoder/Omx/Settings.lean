import SoftVideoEncoder.Omx.Query

/-!
# The negotiated settings

What the port negotiation is for, stated apart from the code. A client negotiates six settings:
the input geometry, frame rate, colour format and metadata mode, and the output bitrate. Each
parameter request is checked in full and then applied, or rejected with no effect
(`Settings.request`). The port definitions are a view of the settings: `updatePortParams` derives
them from the settings and the constants `initPorts` set.

`internalSetParameter` refines this machine. It answers every request with the abstract
machine's error (`internalSetParameter_error`). Its settings after a request are the abstract
ones (`internalSetParameter_refines`), except after an input-port definition that
`internalSetPortParams` rejects after writing, which leaves the port's geometry and frame rate
behind (`internalSetPortParams_refines`). Along a run free of those, the component's settings
follow the abstract machine step for step (`run_settings`).

The settings are also all a client sees. No call writes a field of a definition that
`updatePortParams` does not derive (`PortStatics.run`), and `internalGetParameter` reads only the
settings, the creation constants and the definitions (`internalGetParameter_congr`). So two such
runs that reach the same settings answer every query alike, whatever EGL objects and readback
buffer they hold (`internalGetParameter_run_of_settings`).
-/

namespace SoftVideoEncoder

/-- The settings a client negotiates. -/
structure Settings where
  width : I32
  height : I32
  framerate : U32
  colorFormat : U32
  inputDataIsMeta : Bool
  bitrate : U32
  deriving DecidableEq, Repr

def Component.settings (s : Component) : Settings :=
  ⟨s.mWidth, s.mHeight, s.mFramerate, s.mColorFormat, s.mInputDataIsMeta, s.mBitrate⟩

namespace Settings

def setInput (a : Settings) (port : PortDefinition) : OmxError × Settings :=
  if port.eCompressionFormat = omxVideoCodingUnused ∧ isSupportedColorFormat port.eColorFormat
  then (.errorNone, { a with
    width := port.nFrameWidth, height := port.nFrameHeight, framerate := port.xFramerate,
    colorFormat := port.eColorFormat })
  else (.errorUnsupportedSetting, a)

def setOutput (codingType : U32) (a : Settings) (port : PortDefinition) : OmxError × Settings :=
  if port.eCompressionFormat = codingType ∧ port.eColorFormat = omxColorFormatUnused
  then (.errorNone, { a with bitrate := port.nBitrate })
  else (.errorUnsupportedSetting, a)

def setPort (codingType : U32) (a : Settings) (port : PortDefinition) : OmxError × Settings :=
  if !port.validHeader then (.errorBadParameter, a)
  else if port.nPortIndex = kInputPortIndex then a.setInput port
  else if port.nPortIndex = kOutputPortIndex then a.setOutput codingType port
  else (.errorBadPortIndex, a)

/-- Metadata mode on the input port: the opaque format while it is on, and the planar format in
place of the opaque one when it goes off. -/
def setMetadataMode (a : Settings) (meta : Bool) : Settings :=
  { a with
    inputDataIsMeta := meta,
    colorFormat := if meta then omxColorFormatAndroidOpaque
      else if a.colorFormat = omxColorFormatAndroidOpaque then omxColorFormatYUV420Planar
      else a.colorFormat }

/-- A request checked in full and then applied, or rejected with no effect. `codingType` and
`role` are the constants the component was created with; `baseResult` is the base class's
answer to a port definition the component accepts. -/
def request (codingType : U32) (role : String) (a : Settings) :
    SetParameter → OmxError × Settings
  | .videoErrorCorrection => (.errorNotImplemented, a)
  | .standardComponentRole validHeader cRole =>
    (if !validHeader then .errorBadParameter
      else if cRole.take (omxMaxStringnameSize - 1) ≠ role.take (omxMaxStringnameSize - 1)
      then .errorUnsupportedSetting else .errorNone, a)
  | .portDefinition port baseResult =>
    let r := a.setPort codingType port
    if r.1 ≠ .errorNone then r else (baseResult, r.2)
  | .videoPortFormat f =>
    if !f.validHeader then (.errorBadParameter, a)
    else if f.nPortIndex = kInputPortIndex then
      if isSupportedColorFormat f.eColorFormat
      then (.errorNone, { a with colorFormat := f.eColorFormat })
      else (.errorUnsupportedSetting, a)
    else if f.nPortIndex = kOutputPortIndex then
      (if f.eCompressionFormat = codingType then .errorNone else .errorUnsupportedSetting, a)
    else (.errorBadPortIndex, a)
  | .storeMetaData sp =>
    if !sp.validHeader then (.errorBadParameter, a)
    else if sp.nPortIndex = kOutputPortIndex then
      (if sp.bStoreMetaData ≠ 0 then .errorUnsupportedSetting else .errorNone, a)
    else if sp.nPortIndex ≠ kInputPortIndex then (.errorBadPortIndex, a)
    else (.errorNone, a.setMetadataMode (sp.bStoreMetaData = omxTrue))
  | .other _ baseResult => (baseResult, a)

def step (codingType : U32) (role : String) (a : Settings) : Call → Settings
  | .setParameter p => (a.request codingType role p).2
  | _ => a

def run (codingType : U32) (role : String) (a : Settings) (calls : List Call) : Settings :=
  calls.foldl (step codingType role) a

end Settings

instance (port : PortDefinition) : Decidable (writesThenRejects port) :=
  inferInstanceAs (Decidable (_ ∧ _ ∧ _))

section Refinement

variable (L : MetadataLayout) (s : Component)

@[simp] theorem settings_updatePortParams (t : Component) :
    (updatePortParams L t).settings = t.settings := rfl

/-- A port definition: the abstract error, and the abstract settings except that an input
definition rejected after its writes leaves the port's geometry and frame rate behind. -/
theorem internalSetPortParams_refines (port : PortDefinition) :
    (internalSetPortParams L s port).1 = (s.settings.setPort s.mCodingType port).1 ∧
      (internalSetPortParams L s port).2.settings =
        if writesThenRejects port then
          { s.settings with
            width := port.nFrameWidth, height := port.nFrameHeight, framerate := port.xFramerate }
        else (s.settings.setPort s.mCodingType port).2 := by
  by_cases hv : port.validHeader = true
  · by_cases hi : port.nPortIndex = kInputPortIndex
    · have hw : writesThenRejects port ↔ ¬ (port.eCompressionFormat = omxVideoCodingUnused ∧
          isSupportedColorFormat port.eColorFormat) := by
        simp only [writesThenRejects, hv, hi, true_and, not_and_or, ne_eq]
      simp only [internalSetPortParams, Settings.setPort, Settings.setInput, hv, hi, hw,
        Bool.not_true, Bool.false_eq_true, if_false, if_true, ne_eq, ← not_and_or, ite_not]
      split_ifs <;> exact ⟨rfl, rfl⟩
    · have hw : ¬ writesThenRejects port := fun h => hi h.2.1
      by_cases ho : port.nPortIndex = kOutputPortIndex
      · simp only [internalSetPortParams_output L s hv ho, Settings.setPort, Settings.setOutput, hv,
          ho, kOutputPortIndex_ne_input, hw, Bool.not_true, Bool.false_eq_true, if_false, if_true,
          ne_eq, ← not_and_or, ite_not]
        split_ifs <;> exact ⟨rfl, rfl⟩
      · simp [internalSetPortParams, Settings.setPort, hv, hi, ho, hw]
  · have hw : ¬ writesThenRejects port := fun h => hv h.1
    simp [internalSetPortParams, Settings.setPort, hv, hw]

theorem EglWrite.settings {t : Component} (ht : EglWrite s t) : t.settings = s.settings := by
  rw [ht.1]
  rfl

/-- Every request is answered with the abstract machine's error. -/
theorem internalSetParameter_error (p : SetParameter) :
    (internalSetParameter L s p).1 = (s.settings.request s.mCodingType s.mComponentRole p).1 := by
  cases p with
  | portDefinition port b =>
    have h := (internalSetPortParams_refines L s port).1
    rcases hq : internalSetPortParams L s port with ⟨e, t⟩
    simp only [internalSetParameter, Settings.request, hq, apply_ite Prod.fst] at h ⊢
    rw [h]
  | _ => simp only [internalSetParameter, Settings.request] <;> split_ifs <;> rfl

/-- Along every request that `internalSetPortParams` does not reject after writing, the settings
move as the abstract machine's. -/
theorem internalSetParameter_refines (p : SetParameter) (hp : (Call.setParameter p).keepsPortsInSync) :
    (internalSetParameter L s p).2.settings =
      (s.settings.request s.mCodingType s.mComponentRole p).2 := by
  cases p with
  | portDefinition port b =>
    rw [internalSetParameter_portDefinition_snd, (internalSetPortParams_refines L s port).2,
      if_neg hp]
    simp only [Settings.request]
    split_ifs <;> rfl
  | storeMetaData sp =>
    simp only [internalSetParameter, Settings.request, Settings.setMetadataMode,
      Component.settings, decide_eq_true_eq]
    split_ifs <;> rfl
  | _ => simp only [internalSetParameter, Settings.request] <;> split_ifs <;> rfl

private theorem step_settings (call : Call) (h : call.keepsPortsInSync) :
    (step L s call).settings = Settings.step s.mCodingType s.mComponentRole s.settings call := by
  cases call with
  | setParameter p => exact internalSetParameter_refines L s p h
  | initEgl _ _ src drv => exact (initEgl_eglWrite s src drv).settings s
  | closeEgl => exact (closeEgl_eglWrite s).settings s

/-- Along a run free of input definitions rejected after their writes, the component's settings
are the abstract machine's, from the same settings and the constants of its creation. -/
theorem run_settings (calls : List Call) (hcalls : ∀ call ∈ calls, call.keepsPortsInSync) :
    (run L s calls).settings = Settings.run s.mCodingType s.mComponentRole s.settings calls := by
  induction calls generalizing s with
  | nil => rfl
  | cons call calls ih =>
    have hc : SameCreation s (step L s call) := step_sameCreation call
    rw [run_cons, ih _ fun c h => hcalls c (.tail _ h), hc.1, hc.2.1,
      step_settings L s call (hcalls call (.head _))]
    rfl

def qvgaMetadataSession : List Call :=
  [.setParameter (.storeMetaData ⟨true, kInputPortIndex, omxTrue⟩),
    .setParameter (.portDefinition qvgaSemiPlanarInput .errorNone), .closeEgl]

theorem qvgaMetadataSession_settings :
    (∀ call ∈ qvgaMetadataSession, call.keepsPortsInSync) ∧
      (run lp64 (qcifAvc.initial lp64) qvgaMetadataSession).settings =
        Settings.run (qcifAvc.initial lp64).mCodingType (qcifAvc.initial lp64).mComponentRole
          (qcifAvc.initial lp64).settings qvgaMetadataSession := by
  have hcalls : ∀ call ∈ qvgaMetadataSession, call.keepsPortsInSync := by
    simp only [qvgaMetadataSession, List.mem_cons, List.mem_singleton, List.not_mem_nil, or_false]
    rintro _ (rfl | rfl | rfl)
    exacts [trivial, show ¬ writesThenRejects qvgaSemiPlanarInput by decide, trivial]
  exact ⟨hcalls, run_settings lp64 _ qvgaMetadataSession hcalls⟩

end Refinement

section Observation

variable {L : MetadataLayout} {d e : PortDefinition} {s t u : Component}

/-- The definitions of `t` are `d` and `e` up to the fields `updatePortParams` derives. -/
def PortStatics (L : MetadataLayout) (d e : PortDefinition) (t : Component) : Prop :=
  updatePortParams L { t with inDef := d, outDef := e } = updatePortParams L t

theorem PortStatics.paramWrite (hs : PortStatics L d e s) (ht : ParamWrite s t) :
    PortStatics L d e t := by
  rw [PortStatics, ht.1]
  exact congrArg (fun v => updatePortParams L { v with
    mWidth := t.mWidth, mHeight := t.mHeight, mFramerate := t.mFramerate, mShmData := t.mShmData,
    mBitrate := t.mBitrate, mInputDataIsMeta := t.mInputDataIsMeta,
    mColorFormat := t.mColorFormat }) hs

theorem PortStatics.updatePortParams (ht : PortStatics L d e t) :
    PortStatics L d e (SoftVideoEncoder.updatePortParams L t) := ht

theorem PortStatics.eglWrite (hs : PortStatics L d e s) (ht : EglWrite s t) :
    PortStatics L d e t := by
  rw [PortStatics, ht.1]
  exact congrArg (fun v => SoftVideoEncoder.updatePortParams L { v with
    mEglDisplay := t.mEglDisplay, mEglContext := t.mEglContext, mEglSurface := t.mEglSurface,
    mProgram := t.mProgram, mShmData := t.mShmData }) hs

theorem PortStatics.step (hs : PortStatics L d e s) (call : Call) :
    PortStatics L d e (step L s call) := by
  cases call with
  | setParameter p =>
    obtain ⟨t, ht, h | ⟨h, -⟩⟩ := internalSetParameter_stepWrite L s p <;>
      rw [SoftVideoEncoder.step, h]
    exacts [(hs.paramWrite ht).updatePortParams, hs.paramWrite ht]
  | initEgl _ _ src drv => exact hs.eglWrite (initEgl_eglWrite s src drv)
  | closeEgl => exact hs.eglWrite (closeEgl_eglWrite s)

theorem PortStatics.run (hs : PortStatics L d e s) (calls : List Call) :
    PortStatics L d e (run L s calls) := by
  induction calls generalizing s with
  | nil => exact hs
  | cons call calls ih => exact ih (hs.step call)

/-- `internalGetParameter` reads only the settings, the coding type, the profile levels and the
two definitions. -/
theorem internalGetParameter_congr (hs : t.settings = u.settings)
    (hc : t.mCodingType = u.mCodingType) (hp : t.mProfileLevels = u.mProfileLevels)
    (hin : t.inDef = u.inDef) (hout : t.outDef = u.outDef) (q : GetParameter) :
    internalGetParameter t q = internalGetParameter u q := by
  obtain ⟨hw, hh, hf, hcf, -, -⟩ := Settings.mk.inj hs
  cases q <;> simp only [internalGetParameter, hw, hh, hf, hcf, hc, hp, hin, hout]

theorem PortStatics.defs_eq (hst : PortStatics L d e t) (hsu : PortStatics L d e u)
    (ht : PortsInSync L t) (hu : PortsInSync L u) (hs : t.settings = u.settings)
    (hct : SameCreation s t) (hcu : SameCreation s u) : t.inDef = u.inDef ∧ t.outDef = u.outDef := by
  obtain ⟨hw, hh, hf, hcf, -, hb⟩ := Settings.mk.inj hs
  rw [← ht, ← hu, ← hst, ← hsu]
  simp only [updatePortParams_inDef, updatePortParams_outDef, rawBufferSize, hw, hh, hf, hcf, hb,
    hct.2.2.2.1, hct.2.2.2.2.1, hcu.2.2.2.1, hcu.2.2.2.2.1, and_self]

/-- Two runs from `initPorts` in which no input definition is rejected after its writes, and that
reach the same settings, answer every query alike: the EGL objects, the readback buffer and the
calls that led there do not show through `getParameter`. -/
theorem internalGetParameter_run_of_settings (c : Creation) (calls₁ calls₂ : List Call)
    (h₁ : ∀ call ∈ calls₁, call.keepsPortsInSync) (h₂ : ∀ call ∈ calls₂, call.keepsPortsInSync)
    (hs : (run L (c.initial L) calls₁).settings = (run L (c.initial L) calls₂).settings)
    (q : GetParameter) :
    internalGetParameter (run L (c.initial L) calls₁) q =
      internalGetParameter (run L (c.initial L) calls₂) q := by
  have hst (calls : List Call) :
      PortStatics L (c.initial L).inDef (c.initial L).outDef (run L (c.initial L) calls) :=
    PortStatics.run rfl calls
  have hc₁ : SameCreation (c.initial L) (run L (c.initial L) calls₁) := run_sameCreation calls₁
  have hc₂ : SameCreation (c.initial L) (run L (c.initial L) calls₂) := run_sameCreation calls₂
  obtain ⟨hin, hout⟩ := (hst calls₁).defs_eq (hst calls₂) (portsInSync_run L c calls₁ h₁)
    (portsInSync_run L c calls₂ h₂) hs hc₁ hc₂
  exact internalGetParameter_congr hs (hc₁.1.trans hc₂.1.symm) (hc₁.2.2.1.trans hc₂.2.2.1.symm)
    hin hout q

def eglMetadataDetour : List Call :=
  [.initEgl 176 144 qcifRgbaMetadata ⟨1, 1, 1, 1⟩,
    .setParameter (.storeMetaData ⟨true, kInputPortIndex, omxTrue⟩),
    .setParameter (.storeMetaData ⟨true, kInputPortIndex, 0⟩)]

theorem eglMetadataDetour_unobservable :
    (run lp64 (qcifAvcPowervr.initial lp64) []).settings =
        (run lp64 (qcifAvcPowervr.initial lp64) eglMetadataDetour).settings ∧
      internalGetParameter (run lp64 (qcifAvcPowervr.initial lp64) [])
          (.portDefinition kInputPortIndex .errorNone "powervr") =
        internalGetParameter (run lp64 (qcifAvcPowervr.initial lp64) eglMetadataDetour)
          (.portDefinition kInputPortIndex .errorNone "powervr") := by
  have hs : (run lp64 (qcifAvcPowervr.initial lp64) []).settings =
      (run lp64 (qcifAvcPowervr.initial lp64) eglMetadataDetour).settings := by decide
  have h₂ : ∀ call ∈ eglMetadataDetour, call.keepsPortsInSync := by
    simp only [eglMetadataDetour, List.mem_cons, List.mem_singleton, List.not_mem_nil, or_false]
    rintro _ (rfl | rfl | rfl) <;> trivial
  exact ⟨hs, internalGetParameter_run_of_settings qcifAvcPowervr [] eglMetadataDetour
    (fun _ h => absurd h (List.not_mem_nil _)) h₂ hs _⟩

end Observation

end SoftVideoEncoder
