import SoftVideoEncoder.Omx.WellFormed
import SoftVideoEncoder.Omx.ScratchBuffer

/-!
# Reading the settings back

`internalGetParameter` answers the two queries a client makes before it configures a port: the
video port formats, enumerated by index, and the port definitions. A client that sets what it
read gets it accepted. On the input port the formats offered are exactly those
`internalSetParameter` accepts (`videoPortFormat_offered_iff_accepted`). A port definition read
from a synchronised reachable state and set back changes nothing, except that on PowerVR the
input definition allocates the readback buffer if there is none yet (`portDefinition_roundTrip`).

The port definition query aborts on its `CHECK` in exactly the reachable states whose colour
format is `OMX_COLOR_FormatAndroidOpaque`, on devices whose EGL is not `mesa`, `powervr` or
`emulation` (`internalGetParameter_portDefinition_aborts_iff`).
-/

namespace SoftVideoEncoder

section PortFormat

variable (L : MetadataLayout) (s : Component)

private theorem mem_kSupportedColorFormats {c : U32} :
    c ∈ kSupportedColorFormats ↔ isSupportedColorFormat c := by
  simp only [kSupportedColorFormats, List.mem_cons, List.mem_singleton, List.not_mem_nil,
    or_false, isSupportedColorFormat]

private theorem exists_index_kSupportedColorFormats {c : U32} :
    (∃ i : U32, kSupportedColorFormats[i.toNat]? = some c) ↔ isSupportedColorFormat c := by
  rw [← mem_kSupportedColorFormats, List.mem_iff_getElem?]
  constructor
  · rintro ⟨i, hi⟩
    exact ⟨_, hi⟩
  · rintro ⟨n, hn⟩
    have hlt : n < 2 ^ 32 := (List.getElem?_eq_some_iff.mp hn).1.trans (by decide)
    exact ⟨BitVec.ofNat 32 n, by rwa [BitVec.toNat_ofNat, Nat.mod_eq_of_lt hlt]⟩

/-- The input formats the enumeration offers are exactly the formats the input port accepts. -/
theorem videoPortFormat_offered_iff_accepted (f : PortFormat) (hv : f.validHeader = true)
    (hi : f.nPortIndex = kInputPortIndex) (c : U32) :
    (∃ i : U32, ∃ g, internalGetParameter s (.videoPortFormat { f with nIndex := i }) =
        some (.errorNone, .portFormat g) ∧ g.eColorFormat = c) ↔
      (internalSetParameter L s (.videoPortFormat { f with eColorFormat := c })).1 =
        .errorNone := by
  have hset : (internalSetParameter L s (.videoPortFormat { f with eColorFormat := c })).1 =
      .errorNone ↔ isSupportedColorFormat c := by
    by_cases hc : isSupportedColorFormat c <;>
      simp [internalSetParameter, hv, hi, hc]
  rw [hset, ← exists_index_kSupportedColorFormats]
  refine exists_congr fun i => ?_
  cases hc : kSupportedColorFormats[i.toNat]? <;> simp [internalGetParameter, hv, hi, hc]

def qcifInputFormat : PortFormat :=
  ⟨true, kInputPortIndex, 0, omxVideoCodingUnused, omxColorFormatUnused, 0⟩

theorem semiPlanarFormat_offered_qcif :
    ∃ i : U32, ∃ g, internalGetParameter (qcifAvc.initial lp64)
        (.videoPortFormat { qcifInputFormat with nIndex := i }) =
          some (.errorNone, .portFormat g) ∧ g.eColorFormat = omxColorFormatYUV420SemiPlanar :=
  (videoPortFormat_offered_iff_accepted lp64 _ qcifInputFormat rfl rfl _).mpr (by decide)

/-- A format the query answers, set back on its port, is accepted: the input port re-derives
the definitions for its colour format, and the output port is left as it was. -/
theorem videoPortFormat_reply_accepted {f g : PortFormat}
    (h : internalGetParameter s (.videoPortFormat f) = some (.errorNone, .portFormat g)) :
    internalSetParameter L s (.videoPortFormat g) =
      (.errorNone, if g.nPortIndex = kInputPortIndex
        then updatePortParams L { s with mColorFormat := g.eColorFormat } else s) := by
  simp only [internalGetParameter] at h
  split_ifs at h with hv hi ho
  · cases h
  · rw [Bool.not_eq_true', Bool.not_eq_false] at hv
    cases hc : kSupportedColorFormats[f.nIndex.toNat]? with
    | none => simp [hc] at h
    | some c =>
      simp only [hc, Option.some.injEq, Prod.mk.injEq, GetReply.portFormat.injEq, true_and] at h
      subst h
      have hs : isSupportedColorFormat c := exists_index_kSupportedColorFormats.mp ⟨_, hc⟩
      simp [internalSetParameter, hv, hi, hs]
  · rw [Bool.not_eq_true', Bool.not_eq_false] at hv
    simp only [Option.some.injEq, Prod.mk.injEq, GetReply.portFormat.injEq, true_and] at h
    subst h
    simp [internalSetParameter, hv, ho, kOutputPortIndex_ne_input]
  · cases h

theorem opaqueFormat_reply_accepted_qcif :
    ∃ g, internalGetParameter (qcifAvc.initial lp64)
        (.videoPortFormat { qcifInputFormat with nIndex := 2 }) =
          some (.errorNone, .portFormat g) ∧
      internalSetParameter lp64 (qcifAvc.initial lp64) (.videoPortFormat g) =
        (.errorNone, if g.nPortIndex = kInputPortIndex
          then updatePortParams lp64 { qcifAvc.initial lp64 with mColorFormat := g.eColorFormat }
          else qcifAvc.initial lp64) :=
  ⟨_, rfl, @videoPortFormat_reply_accepted lp64 _ { qcifInputFormat with nIndex := 2 } _ rfl⟩

end PortFormat

section Metadata

variable (L : MetadataLayout) (s : Component)

/-- Turning metadata mode on and off again leaves the input in raw planar mode, whatever colour
format it had before: a semi-planar input is not restored. -/
theorem storeMetaData_onThenOff :
    run L s [.setParameter (.storeMetaData ⟨true, kInputPortIndex, omxTrue⟩),
        .setParameter (.storeMetaData ⟨true, kInputPortIndex, 0⟩)] =
      updatePortParams L
        { s with mInputDataIsMeta := false, mColorFormat := omxColorFormatYUV420Planar } := by
  simp only [run_cons, run_nil, step, internalSetParameter, kOutputPortIndex_ne_input.symm,
    updatePortParams_mColorFormat, Bool.not_true, Bool.false_eq_true, if_false, if_true, ne_eq,
    not_true_eq_false, show (0 : U32) ≠ omxTrue by decide]
  rfl

end Metadata

section PortDefinition

variable {L : MetadataLayout} {s : Component}

theorem PortsInSync.inDef_fields (h : PortsInSync L s) :
    s.inDef.nFrameWidth = s.mWidth ∧ s.inDef.nFrameHeight = s.mHeight ∧
      s.inDef.xFramerate = s.mFramerate ∧ s.inDef.eColorFormat = s.mColorFormat := by
  have hin := ((portsInSync_iff L s).mp h).1
  rw [updatePortParams_inDef] at hin
  rw [hin]
  exact ⟨rfl, rfl, rfl, rfl⟩

theorem PortsInSync.outDef_nBitrate (h : PortsInSync L s) : s.outDef.nBitrate = s.mBitrate := by
  have hout := ((portsInSync_iff L s).mp h).2
  rw [updatePortParams_outDef] at hout
  rw [hout]

/-- An input definition the component accepts is what the query reads back, in its geometry,
frame rate and colour format; the stride and slice height it reports are the width and height,
whatever the client asked for. -/
theorem portDefinition_setThenGet {p : PortDefinition} (hv : p.validHeader = true)
    (hi : p.nPortIndex = kInputPortIndex) (hok : (internalSetPortParams L s p).1 = .errorNone)
    (hraw : p.eColorFormat ≠ omxColorFormatAndroidOpaque) (b : OmxError) (eglProperty : String) :
    ∃ d, internalGetParameter (internalSetParameter L s (.portDefinition p b)).2
        (.portDefinition kInputPortIndex .errorNone eglProperty) =
          some (.errorNone, .portDefinition d) ∧
      d.nFrameWidth = p.nFrameWidth ∧ d.nFrameHeight = p.nFrameHeight ∧
      d.nStride = p.nFrameWidth ∧ d.nSliceHeight = p.nFrameHeight ∧
      d.xFramerate = p.xFramerate ∧ d.eColorFormat = p.eColorFormat := by
  obtain ⟨t, ⟨hw, hh, hf, -⟩, heq⟩ := internalSetPortParams_input L s hv hi
  rw [heq] at hok
  split_ifs at hok with hr
  rw [internalSetParameter_portDefinition_snd, heq, if_neg hr]
  -- a supported format other than the opaque one passes the query's check
  have hpass : ¬ (p.eColorFormat ≠ omxColorFormatYUV420Planar ∧
      p.eColorFormat ≠ omxColorFormatYUV420SemiPlanar) := by
    rcases not_not.mp (not_or.mp hr).2 with h | h | h
    exacts [fun hc => hc.1 h, fun hc => hc.2 h, absurd h hraw]
  simp only [internalGetParameter, updatePortParams_mColorFormat, hpass, and_false,
    show ¬ (1 : U32) < kInputPortIndex by decide, ne_eq, not_true_eq_false, if_false, if_true]
  exact ⟨_, rfl, hw, hh, hw, hh, hf, rfl⟩

def qvgaSemiPlanarInput : PortDefinition :=
  { (qcifAvc.initial lp64).inDef with
    nFrameWidth := 320, nFrameHeight := 240, eColorFormat := omxColorFormatYUV420SemiPlanar }

theorem qvgaSemiPlanarInput_readBack :
    ∃ d, internalGetParameter
        (internalSetParameter lp64 (qcifAvc.initial lp64)
          (.portDefinition qvgaSemiPlanarInput .errorNone)).2
        (.portDefinition kInputPortIndex .errorNone "default") =
          some (.errorNone, .portDefinition d) ∧
      d.nFrameWidth = qvgaSemiPlanarInput.nFrameWidth ∧
      d.nFrameHeight = qvgaSemiPlanarInput.nFrameHeight ∧
      d.nStride = qvgaSemiPlanarInput.nFrameWidth ∧
      d.nSliceHeight = qvgaSemiPlanarInput.nFrameHeight ∧
      d.xFramerate = qvgaSemiPlanarInput.xFramerate ∧
      d.eColorFormat = qvgaSemiPlanarInput.eColorFormat :=
  portDefinition_setThenGet rfl rfl (by decide) (by decide) .errorNone "default"

private theorem internalSetPortParams_reportedInput (hw : WellFormed L s) (hsync : PortsInSync L s)
    (n : U32) :
    internalSetPortParams L s
        { s.inDef with nFrameWidth := s.mWidth, nFrameHeight := s.mHeight, nBufferSize := n } =
      (.errorNone, if s.mIsPowervr = true ∧ s.mShmData = none
        then { s with mShmData := some (s.mWidth * s.mHeight * 4) } else s) := by
  obtain ⟨hv, hi, hc⟩ := hw.inHeader
  obtain ⟨-, -, hf, hcol⟩ := hsync.inDef_fields
  simp only [internalSetPortParams, hv, hi, hc, hf, hcol, hw.colorFormat, Bool.not_true,
    Bool.false_eq_true, if_false, if_true, ne_eq, not_true_eq_false, not_false_eq_true,
    false_or]
  split_ifs
  · exact congrArg _ (hsync.congr L (by exact ⟨rfl, rfl, rfl, rfl, rfl, rfl, rfl, rfl, rfl⟩))
  · exact congrArg _ hsync

private theorem internalSetPortParams_reportedOutput (hw : WellFormed L s) (hsync : PortsInSync L s)
    (n : U32) :
    internalSetPortParams L s
        { s.outDef with nFrameWidth := s.mWidth, nFrameHeight := s.mHeight, nBufferSize := n } =
      (.errorNone, s) := by
  obtain ⟨hv, ho, hc, hcol⟩ := hw.outHeader
  simp only [internalSetPortParams, hv, ho, kOutputPortIndex_ne_input, hc, hcol,
    hsync.outDef_nBitrate, Bool.not_true, Bool.false_eq_true, if_false, if_true, ne_eq,
    not_true_eq_false, or_self]
  exact congrArg _ hsync

/-- In a reachable state whose definitions are synchronised, a port definition the query reports,
set back with any answer of the base class, changes nothing, except that on PowerVR the input
definition allocates the readback buffer if there is none yet. -/
theorem portDefinition_roundTrip (hr : Reachable L s) (hsync : PortsInSync L s) {port : U32}
    {eglProperty : String} {d : PortDefinition}
    (hget : internalGetParameter s (.portDefinition port .errorNone eglProperty) =
      some (.errorNone, .portDefinition d)) (b : OmxError) :
    internalSetParameter L s (.portDefinition d b) =
      (b, if port = kInputPortIndex ∧ s.mIsPowervr = true ∧ s.mShmData = none
        then { s with mShmData := some (s.mWidth * s.mHeight * 4) } else s) := by
  have hw := WellFormed.of_reachable hr
  simp only [internalGetParameter] at hget
  split_ifs at hget with h1 h2 h3 hp <;>
    simp only [Option.some.injEq, Prod.mk.injEq, GetReply.portDefinition.injEq, true_and,
      reduceCtorEq, false_and] at hget
  · subst hget
    simp only [internalSetParameter, internalSetPortParams_reportedInput hw hsync, hp, true_and]
    simp
  · subst hget
    have hout : port = kOutputPortIndex := by
      revert h1 hp
      unfold kInputPortIndex kOutputPortIndex
      bv_omega
    simp only [internalSetParameter, internalSetPortParams_reportedOutput hw hsync, hp, false_and]
    simp

theorem portDefinition_roundTrip_powervr :
    ∃ d, internalGetParameter (qcifAvcPowervr.initial lp64)
        (.portDefinition kInputPortIndex .errorNone "powervr") =
          some (.errorNone, .portDefinition d) ∧
      internalSetParameter lp64 (qcifAvcPowervr.initial lp64) (.portDefinition d .errorNone) =
        (.errorNone, { qcifAvcPowervr.initial lp64 with mShmData := some (176 * 144 * 4) }) :=
  ⟨_, rfl, (@portDefinition_roundTrip lp64 _ (.initial qcifAvcPowervr)
    (portsInSync_initial lp64 _) kInputPortIndex "powervr" _ rfl .errorNone).trans (by rw [if_pos ⟨rfl, rfl, rfl⟩]; rfl)⟩

end PortDefinition

section Check

variable {L : MetadataLayout} {s : Component}

/-- In a reachable state, the port definition query the base class accepted aborts on its
`CHECK` exactly when the colour format is `OMX_COLOR_FormatAndroidOpaque` and the EGL is not
`mesa`, `powervr` or `emulation`. -/
theorem internalGetParameter_portDefinition_aborts_iff (hr : Reachable L s) {port : U32}
    (hport : port = kInputPortIndex ∨ port = kOutputPortIndex) (eglProperty : String) :
    internalGetParameter s (.portDefinition port .errorNone eglProperty) = none ↔
      eglProperty ≠ "mesa" ∧ eglProperty ≠ "powervr" ∧ eglProperty ≠ "emulation" ∧
        s.mColorFormat = omxColorFormatAndroidOpaque := by
  have hc := (WellFormed.of_reachable hr).colorFormat
  have hidx : ¬ 1 < port := by rcases hport with rfl | rfl <;> decide
  simp only [internalGetParameter, hidx, if_false, ne_eq, not_true_eq_false, if_false]
  rcases hc with hc | hc | hc <;>
    simp [hc, omxColorFormatYUV420Planar, omxColorFormatYUV420SemiPlanar,
      omxColorFormatAndroidOpaque]

def metadataModeState : Component :=
  step lp64 (qcifAvc.initial lp64)
    (.setParameter (.storeMetaData ⟨true, kInputPortIndex, omxTrue⟩))

theorem metadataMode_portDefinitionQueryAborts :
    Reachable lp64 metadataModeState ∧
      internalGetParameter metadataModeState
        (.portDefinition kInputPortIndex .errorNone "default") = none :=
  ⟨.after _ (.initial qcifAvc),
    (internalGetParameter_portDefinition_aborts_iff (.after _ (.initial qcifAvc)) (.inl rfl)
      "default").mpr ⟨by decide, by decide, by decide, by decide⟩⟩

end Check

end SoftVideoEncoder
