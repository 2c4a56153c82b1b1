import SoftVideoEncoder.Omx.Types

/-!
# Port negotiation

`initPorts`, `updatePortParams`, `internalSetPortParams`, `internalSetParameter`,
`internalGetParameter` and `validateInputBuffer` of `SoftVideoEncoderOMXComponent.cpp`. Each
returns the `OMX_ERRORTYPE` of the source together with the component's fields after the call.
Where the source defers to `SimpleSoftOMXComponent`, the base class's answer is part of the
request. Its source, `SimpleSoftOMXComponent.cpp`, is not in `src/`, so the model keeps only that
answer and assumes the base class writes neither port definition. The upstream base class does
write the definition it is handed a port definition for (it can raise `nBufferSize` and it sets
`nBufferCountActual`). Every result about the definitions after a port-definition request holds
under this assumption.
-/

namespace SoftVideoEncoder

instance : Inhabited PortDefinition :=
  ⟨⟨false, 0, 0, 0, 0, 0, false, 0, "", 0, 0, 0, 0, 0, 0, 0, 0⟩⟩

def omxDirInput : U32 := 0
def omxDirOutput : U32 := 1
def kInputBufferAlignment : U32 := 1
def kOutputBufferAlignment : U32 := 2

/-- The constructor: `ro.hardware.egl` (or its default `"default"`) is `eglProperty`. The two
ports do not exist yet; `initPorts` adds them. -/
def Component.construct (componentRole : String) (codingType : U32)
    (profileLevels : List (U32 × U32)) (width height : I32) (eglProperty : String) :
    Component where
  mInputDataIsMeta := false
  mWidth := width
  mHeight := height
  mBitrate := 192000
  mFramerate := 30 <<< 16
  mColorFormat := omxColorFormatYUV420Planar
  mMinOutputBufferSize := 384
  mMinCompressionRatio := 1
  mComponentRole := componentRole
  mCodingType := codingType
  mProfileLevels := profileLevels
  mIsPowervr := eglProperty == "powervr"
  mEglDisplay := eglNoDisplay
  mEglContext := eglNoContext
  mEglSurface := eglNoSurface
  mProgram := 0
  mShmData := none
  inDef := default
  outDef := default

/-- Both port definitions re-derived from the authoritative fields. -/
def updatePortParams (L : MetadataLayout) (s : Component) : Component :=
  let inDef := { s.inDef with
    nFrameWidth := s.mWidth, nFrameHeight := s.mHeight, nStride := s.mWidth,
    nSliceHeight := s.mHeight, xFramerate := s.mFramerate, eColorFormat := s.mColorFormat }
  let rawBufferSize : U32 := inDef.nStride * inDef.nSliceHeight * 3 / 2
  let inDef := { inDef with
    nBufferSize := if inDef.eColorFormat = omxColorFormatAndroidOpaque
      then BitVec.ofNat 32 L.bufferSize else rawBufferSize }
  let outDef := { s.outDef with
    nFrameWidth := s.mWidth, nFrameHeight := s.mHeight, nBitrate := s.mBitrate,
    nBufferSize := wordMax s.mMinOutputBufferSize (rawBufferSize / s.mMinCompressionRatio) }
  { s with inDef := inDef, outDef := outDef }

def initPorts (L : MetadataLayout) (s : Component)
    (numInputBuffers numOutputBuffers outputBufferSize : U32) (mime : String)
    (minCompressionRatio : U32) : Component :=
  let s := { s with
    mMinOutputBufferSize := outputBufferSize, mMinCompressionRatio := minCompressionRatio }
  updatePortParams L { s with
    inDef := ⟨true, kInputPortIndex, omxDirInput, numInputBuffers, numInputBuffers, 0, true,
      kInputBufferAlignment, "video/raw", s.mWidth, s.mHeight, s.mWidth, s.mHeight, 0,
      s.mFramerate, omxVideoCodingUnused, s.mColorFormat⟩
    outDef := ⟨true, kOutputPortIndex, omxDirOutput, numOutputBuffers, numOutputBuffers, 0, true,
      kOutputBufferAlignment, mime, s.mWidth, s.mHeight, 0, 0, s.mBitrate, 0, s.mCodingType,
      omxColorFormatUnused⟩ }

def isSupportedColorFormat (f : U32) : Prop :=
  f = omxColorFormatYUV420Planar ∨ f = omxColorFormatYUV420SemiPlanar ∨
    f = omxColorFormatAndroidOpaque

instance (f : U32) : Decidable (isSupportedColorFormat f) :=
  inferInstanceAs (Decidable (_ ∨ _))

/-- The input branch writes the geometry, allocates the PowerVR readback buffer and writes the
frame rate before it checks the formats. -/
def internalSetPortParams (L : MetadataLayout) (s : Component) (port : PortDefinition) :
    OmxError × Component :=
  if !port.validHeader then (.errorBadParameter, s)
  else if port.nPortIndex = kInputPortIndex then
    let s := { s with mWidth := port.nFrameWidth, mHeight := port.nFrameHeight }
    let s := if s.mIsPowervr ∧ s.mShmData = none
      then { s with mShmData := some (s.mWidth * s.mHeight * 4) } else s
    let s := { s with mFramerate := port.xFramerate }
    if port.eCompressionFormat ≠ omxVideoCodingUnused ∨
        ¬ isSupportedColorFormat port.eColorFormat then (.errorUnsupportedSetting, s)
    else (.errorNone, updatePortParams L { s with mColorFormat := port.eColorFormat })
  else if port.nPortIndex = kOutputPortIndex then
    if port.eCompressionFormat ≠ s.mCodingType ∨ port.eColorFormat ≠ omxColorFormatUnused
    then (.errorUnsupportedSetting, s)
    else (.errorNone, updatePortParams L { s with mBitrate := port.nBitrate })
  else (.errorBadPortIndex, s)

/-- A request to `internalSetParameter`: the index together with the record it points to.
`baseResult` is what `SimpleSoftOMXComponent::internalSetParameter` answers; its writes to the
definitions are left out (see the module docstring). -/
inductive SetParameter
  | videoErrorCorrection
  | standardComponentRole (validHeader : Bool) (cRole : String)
  | portDefinition (port : PortDefinition) (baseResult : OmxError)
  | videoPortFormat (format : PortFormat)
  | storeMetaData (storeParam : StoreMetaDataInBuffersParams)
  | other (index : U32) (baseResult : OmxError)
  deriving DecidableEq, Repr

def internalSetParameter (L : MetadataLayout) (s : Component) :
    SetParameter → OmxError × Component
  | .videoErrorCorrection => (.errorNotImplemented, s)
  | .standardComponentRole validHeader cRole =>
    if !validHeader then (.errorBadParameter, s)
    else if cRole.take (omxMaxStringnameSize - 1) ≠
        s.mComponentRole.take (omxMaxStringnameSize - 1) then (.errorUnsupportedSetting, s)
    else (.errorNone, s)
  | .portDefinition port baseResult =>
    let (err, s) := internalSetPortParams L s port
    if err ≠ .errorNone then (err, s) else (baseResult, s)
  | .videoPortFormat format =>
    if !format.validHeader then (.errorBadParameter, s)
    else if format.nPortIndex = kInputPortIndex then
      if isSupportedColorFormat format.eColorFormat then
        (.errorNone, updatePortParams L { s with mColorFormat := format.eColorFormat })
      else (.errorUnsupportedSetting, s)
    else if format.nPortIndex = kOutputPortIndex then
      if format.eCompressionFormat = s.mCodingType then (.errorNone, s)
      else (.errorUnsupportedSetting, s)
    else (.errorBadPortIndex, s)
  | .storeMetaData storeParam =>
    if !storeParam.validHeader then (.errorBadParameter, s)
    else if storeParam.nPortIndex = kOutputPortIndex then
      (if storeParam.bStoreMetaData ≠ 0 then .errorUnsupportedSetting else .errorNone, s)
    else if storeParam.nPortIndex ≠ kInputPortIndex then (.errorBadPortIndex, s)
    else
      let meta := storeParam.bStoreMetaData = omxTrue
      let colorFormat :=
        if meta then omxColorFormatAndroidOpaque
        else if s.mColorFormat = omxColorFormatAndroidOpaque then omxColorFormatYUV420Planar
        else s.mColorFormat
      (.errorNone,
        updatePortParams L { s with mInputDataIsMeta := meta, mColorFormat := colorFormat })
  | .other _ baseResult => (baseResult, s)

/-- The input frame size the validator requires against the header's `nFilledLen`. -/
def validateInputBuffer (L : MetadataLayout) (s : Component) (nFilledLen : U32) : OmxError :=
  let frameSize : SizeT :=
    if s.mInputDataIsMeta then BitVec.ofNat 64 L.bufferSize
    else int32ToSizeT ((s.mWidth * s.mHeight * 3).sdiv 2)
  if nFilledLen.setWidth 64 < frameSize then .errorUndefined else .errorNone

/-- A request to `internalGetParameter`. For a port definition, `baseResult` is the base class's
answer and `eglProperty` the value `ro.hardware.egl` reads at the call. -/
inductive GetParameter
  | videoErrorCorrection
  | videoPortFormat (format : PortFormat)
  | profileLevelQuerySupported (validHeader : Bool) (nPortIndex nProfileIndex : U32)
  | consumerUsageBits
  | portDefinition (nPortIndex : U32) (baseResult : OmxError) (eglProperty : String)
  | other (index : U32) (baseResult : OmxError)

/-- What `internalGetParameter` writes back into the client's record. -/
inductive GetReply
  | unchanged
  | portFormat (format : PortFormat)
  | profileLevel (eProfile eLevel : U32)
  | usageBits (bits : U32)
  | portDefinition (portDef : PortDefinition)

/-- `none` is the abort of the `CHECK` on the colour format. -/
def internalGetParameter (s : Component) : GetParameter → Option (OmxError × GetReply)
  | .videoErrorCorrection => some (.errorNotImplemented, .unchanged)
  | .videoPortFormat f =>
    if !f.validHeader then some (.errorBadParameter, .unchanged)
    else if f.nPortIndex = kInputPortIndex then
      match kSupportedColorFormats[f.nIndex.toNat]? with
      | none => some (.errorNoMore, .unchanged)
      | some c => some (.errorNone, .portFormat { f with
          eColorFormat := c, eCompressionFormat := omxVideoCodingUnused,
          xFramerate := s.mFramerate })
    else if f.nPortIndex = kOutputPortIndex then
      some (.errorNone, .portFormat { f with
        eCompressionFormat := s.mCodingType, eColorFormat := omxColorFormatUnused,
        xFramerate := 0 })
    else some (.errorBadPortIndex, .unchanged)
  | .profileLevelQuerySupported validHeader nPortIndex nProfileIndex =>
    if !validHeader then some (.errorBadParameter, .unchanged)
    else if nPortIndex ≠ kOutputPortIndex then some (.errorUnsupportedIndex, .unchanged)
    else match s.mProfileLevels[nProfileIndex.toNat]? with
      | none => some (.errorNoMore, .unchanged)
      | some (profile, level) => some (.errorNone, .profileLevel profile level)
  | .consumerUsageBits => some (.errorNone, .usageBits grallocUsageSwReadOften)
  | .portDefinition nPortIndex baseResult eglProperty =>
    if 1 < nPortIndex then some (.errorUndefined, .unchanged)
    else if baseResult ≠ .errorNone then some (baseResult, .unchanged)
    else if eglProperty ≠ "mesa" ∧ eglProperty ≠ "powervr" ∧ eglProperty ≠ "emulation" ∧
        s.mColorFormat ≠ omxColorFormatYUV420Planar ∧
        s.mColorFormat ≠ omxColorFormatYUV420SemiPlanar then none
    else
      let portDef := if nPortIndex = kInputPortIndex then s.inDef else s.outDef
      some (.errorNone, .portDefinition { portDef with
        nFrameWidth := s.mWidth, nFrameHeight := s.mHeight,
        nBufferSize := (s.mWidth * s.mHeight * 3).sdiv 2 })
  | .other _ baseResult => some (baseResult, .unchanged)

section UpdatePortParams

variable (L : MetadataLayout) (s : Component)

def rawBufferSize : U32 := s.mWidth * s.mHeight * 3 / 2

@[simp] theorem updatePortParams_inDef :
    (updatePortParams L s).inDef = { s.inDef with
      nFrameWidth := s.mWidth, nFrameHeight := s.mHeight, nStride := s.mWidth,
      nSliceHeight := s.mHeight, xFramerate := s.mFramerate, eColorFormat := s.mColorFormat,
      nBufferSize := if s.mColorFormat = omxColorFormatAndroidOpaque
        then BitVec.ofNat 32 L.bufferSize else rawBufferSize s } := rfl

@[simp] theorem updatePortParams_outDef :
    (updatePortParams L s).outDef = { s.outDef with
      nFrameWidth := s.mWidth, nFrameHeight := s.mHeight, nBitrate := s.mBitrate,
      nBufferSize := wordMax s.mMinOutputBufferSize (rawBufferSize s / s.mMinCompressionRatio) } :=
  rfl

theorem updatePortParams_eq :
    updatePortParams L s =
      { s with inDef := (updatePortParams L s).inDef, outDef := (updatePortParams L s).outDef } :=
  rfl

@[simp] theorem updatePortParams_idem : updatePortParams L (updatePortParams L s) = updatePortParams L s :=
  rfl

end UpdatePortParams

end SoftVideoEncoder
