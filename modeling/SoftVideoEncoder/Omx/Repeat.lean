import SoftVideoEncoder.Omx.SetParameter

/-!
# Repeating a request

`internalSetPortParams` and the video-port-format and store-metadata handlers of
`internalSetParameter` overwrite the fields they set from their argument and end with
`updatePortParams`, which recomputes both definitions from the fields. Issuing one of them twice
in a row therefore answers the same and leaves the same component as issuing it once, whether it
accepts or rejects, in every state (`setParameterTwice_eq_once`). Two writes read the state: the
PowerVR allocation of `mShmData`, made only while the pointer is `NULL` and leaving it allocated,
and the store-metadata handler's colour format, which maps `OMX_COLOR_FormatAndroidOpaque` to a
format it then leaves alone.
-/

namespace SoftVideoEncoder

theorem kOutputPortIndex_ne_input : kOutputPortIndex ≠ kInputPortIndex := by decide

private theorem omxColorFormatYUV420Planar_ne_opaque :
    omxColorFormatYUV420Planar ≠ omxColorFormatAndroidOpaque := by decide

section Repeat

variable (L : MetadataLayout) (s : Component)

@[simp] theorem updatePortParams_mColorFormat :
    (updatePortParams L s).mColorFormat = s.mColorFormat := rfl

def HoldsInputWrites (port : PortDefinition) (t : Component) : Prop :=
  t.mWidth = port.nFrameWidth ∧ t.mHeight = port.nFrameHeight ∧
    t.mFramerate = port.xFramerate ∧ (t.mIsPowervr = true → t.mShmData ≠ none)

theorem internalSetPortParams_input {port : PortDefinition} (hv : port.validHeader = true)
    (hi : port.nPortIndex = kInputPortIndex) :
    ∃ t, HoldsInputWrites port t ∧ internalSetPortParams L s port =
      if port.eCompressionFormat ≠ omxVideoCodingUnused ∨
          ¬ isSupportedColorFormat port.eColorFormat then (.errorUnsupportedSetting, t)
      else (.errorNone, updatePortParams L { t with mColorFormat := port.eColorFormat }) := by
  simp only [internalSetPortParams, hv, hi, Bool.not_true, Bool.false_eq_true, if_false, if_true]
  refine ⟨_, ?_, rfl⟩
  split_ifs with halloc
  · exact ⟨rfl, rfl, rfl, fun _ => Option.some_ne_none _⟩
  · exact ⟨rfl, rfl, rfl, fun hp h => halloc ⟨hp, h⟩⟩

private theorem internalSetPortParams_input_of_holds {port : PortDefinition}
    (hv : port.validHeader = true) (hi : port.nPortIndex = kInputPortIndex) {t : Component}
    (ht : HoldsInputWrites port t) :
    internalSetPortParams L t port =
      if port.eCompressionFormat ≠ omxVideoCodingUnused ∨
          ¬ isSupportedColorFormat port.eColorFormat then (.errorUnsupportedSetting, t)
      else (.errorNone, updatePortParams L { t with mColorFormat := port.eColorFormat }) := by
  obtain ⟨hw, hh, hf, hshm⟩ := ht
  have halloc : ¬ (t.mIsPowervr = true ∧ t.mShmData = none) := fun h => hshm h.1 h.2
  cases t
  simp only at hw hh hf halloc
  subst hw hh hf
  simp only [internalSetPortParams, hv, hi, halloc, Bool.not_true, Bool.false_eq_true, if_false,
    if_true]

theorem HoldsInputWrites.updatePortParams {port : PortDefinition} {t : Component}
    (ht : HoldsInputWrites port t) (c : U32) :
    HoldsInputWrites port (SoftVideoEncoder.updatePortParams L { t with mColorFormat := c }) := ht

theorem internalSetPortParams_output {port : PortDefinition} (hv : port.validHeader = true)
    (ho : port.nPortIndex = kOutputPortIndex) :
    internalSetPortParams L s port =
      if port.eCompressionFormat ≠ s.mCodingType ∨ port.eColorFormat ≠ omxColorFormatUnused
      then (.errorUnsupportedSetting, s)
      else (.errorNone, updatePortParams L { s with mBitrate := port.nBitrate }) := by
  simp only [internalSetPortParams, hv, ho, kOutputPortIndex_ne_input, Bool.not_true,
    Bool.false_eq_true, if_false, if_true]

private theorem internalSetPortParams_twice (port : PortDefinition) :
    internalSetPortParams L (internalSetPortParams L s port).2 port =
      internalSetPortParams L s port := by
  by_cases hv : port.validHeader = true
  · by_cases hi : port.nPortIndex = kInputPortIndex
    · obtain ⟨t, ht, heq⟩ := internalSetPortParams_input L s hv hi
      rw [heq]
      split_ifs with hr
      · rw [internalSetPortParams_input_of_holds L hv hi ht, if_pos hr]
      · rw [internalSetPortParams_input_of_holds L hv hi (ht.updatePortParams L _), if_neg hr]
        rfl
    · by_cases ho : port.nPortIndex = kOutputPortIndex
      · rw [internalSetPortParams_output L s hv ho]
        split_ifs with hr
        · rw [internalSetPortParams_output L s hv ho, if_pos hr]
        · rw [internalSetPortParams_output L _ hv ho]
          exact if_neg hr
      · simp [internalSetPortParams, hv, hi, ho]
  · simp [internalSetPortParams, hv]

private theorem videoPortFormat_twice (format : PortFormat) :
    internalSetParameter L (internalSetParameter L s (.videoPortFormat format)).2
        (.videoPortFormat format) = internalSetParameter L s (.videoPortFormat format) := by
  by_cases hv : format.validHeader = true
  · by_cases hi : format.nPortIndex = kInputPortIndex
    · by_cases hs : isSupportedColorFormat format.eColorFormat
      · simp only [internalSetParameter, hv, hi, hs, Bool.not_true, Bool.false_eq_true, if_false,
          if_true]
        rfl
      · simp [internalSetParameter, hv, hi, hs]
    · by_cases ho : format.nPortIndex = kOutputPortIndex
      · by_cases hc : format.eCompressionFormat = s.mCodingType <;>
          simp [internalSetParameter, hv, hi, ho, hc, kOutputPortIndex_ne_input]
      · simp [internalSetParameter, hv, hi, ho]
  · simp [internalSetParameter, hv]

private theorem storeMetaData_twice (sp : StoreMetaDataInBuffersParams) :
    internalSetParameter L (internalSetParameter L s (.storeMetaData sp)).2 (.storeMetaData sp) =
      internalSetParameter L s (.storeMetaData sp) := by
  by_cases hv : sp.validHeader = true
  · by_cases ho : sp.nPortIndex = kOutputPortIndex
    · simp [internalSetParameter, hv, ho]
    · by_cases hi : sp.nPortIndex = kInputPortIndex
      · have hio := kOutputPortIndex_ne_input.symm
        by_cases hm : sp.bStoreMetaData = omxTrue
        · simp only [internalSetParameter, hv, hi, hio, hm, Bool.not_true, Bool.false_eq_true,
            if_false, if_true, ne_eq, not_true_eq_false, not_false_eq_true, decide_True]
          rfl
        -- without metadata the colour format leaves the opaque format, and only it
        · by_cases hc : s.mColorFormat = omxColorFormatAndroidOpaque <;>
          simp only [internalSetParameter, hv, hi, hio, hm, hc, Bool.not_true, Bool.false_eq_true,
            if_false, if_true, ne_eq, not_true_eq_false, not_false_eq_true, decide_False,
            omxColorFormatYUV420Planar_ne_opaque, updatePortParams_mColorFormat] <;>
          rfl
      · simp [internalSetParameter, hv, hi, ho]
  · simp [internalSetParameter, hv]

/-- Issuing the same `internalSetPortParams`, video-port-format or store-metadata request twice
in a row answers the same and leaves the same component (every field, both port definitions and
`mShmData`) as issuing it once, in every state, for accepted and rejected requests alike. -/
theorem setParameterTwice_eq_once :
    (∀ port, internalSetPortParams L (internalSetPortParams L s port).2 port =
        internalSetPortParams L s port) ∧
      (∀ format, internalSetParameter L (internalSetParameter L s (.videoPortFormat format)).2
          (.videoPortFormat format) = internalSetParameter L s (.videoPortFormat format)) ∧
      ∀ sp, internalSetParameter L (internalSetParameter L s (.storeMetaData sp)).2
          (.storeMetaData sp) = internalSetParameter L s (.storeMetaData sp) :=
  ⟨internalSetPortParams_twice L s, videoPortFormat_twice L s, storeMetaData_twice L s⟩

end Repeat

end SoftVideoEncoder
