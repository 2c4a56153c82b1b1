import SoftVideoEncoder.Words

/-!
# Port records and component fields

The OMX and HAL enumerations `SoftVideoEncoderOMXComponent` compares against, the port definition
record both ports keep, the parameter records a client hands to `internalSetParameter`, and the
component's own fields. A parameter record carries the verdict of `isValidOMXParam` on its
`nSize`/`nVersion` header; the check itself is not in `src/`.
-/

namespace SoftVideoEncoder

/-- The `OMX_ERRORTYPE` values of the component; `other` is any the base class returns. -/
inductive OmxError
  | errorNone
  | errorUndefined
  | errorBadParameter
  | errorNotImplemented
  | errorUnsupportedIndex
  | errorBadPortIndex
  | errorUnsupportedSetting
  | errorNoMore
  | other (code : U32)
  deriving DecidableEq, Repr

def kInputPortIndex : U32 := 0
def kOutputPortIndex : U32 := 1

def omxColorFormatUnused : U32 := 0
def omxColorFormatYUV420Planar : U32 := 0x13
def omxColorFormatYUV420SemiPlanar : U32 := 0x15
def omxColorFormatAndroidOpaque : U32 := 0x7F000789
def omxVideoCodingUnused : U32 := 0

/-- `kSupportedColorFormats`, in order of preference. -/
def kSupportedColorFormats : List U32 :=
  [omxColorFormatYUV420Planar, omxColorFormatYUV420SemiPlanar, omxColorFormatAndroidOpaque]

def omxMaxStringnameSize : Nat := 128
def grallocUsageSwReadOften : U32 := 0x3

/-- `OMX_PARAM_PORTDEFINITIONTYPE` with its `format.video` members flattened in. -/
structure PortDefinition where
  validHeader : Bool
  nPortIndex : U32
  eDir : U32
  nBufferCountActual : U32
  nBufferCountMin : U32
  nBufferSize : U32
  bEnabled : Bool
  nBufferAlignment : U32
  cMIMEType : String
  nFrameWidth : U32
  nFrameHeight : U32
  nStride : I32
  nSliceHeight : U32
  nBitrate : U32
  xFramerate : U32
  eCompressionFormat : U32
  eColorFormat : U32
  deriving DecidableEq, Repr

structure PortFormat where
  validHeader : Bool
  nPortIndex : U32
  nIndex : U32
  eCompressionFormat : U32
  eColorFormat : U32
  xFramerate : U32
  deriving DecidableEq, Repr

structure StoreMetaDataInBuffersParams where
  validHeader : Bool
  nPortIndex : U32
  bStoreMetaData : U32
  deriving DecidableEq, Repr

def omxTrue : U32 := 1

/-- The sizes of the two metadata records of `HardwareAPI.h`, which is not in `src/`. They
are struct sizes, so their `max` fits the 32-bit `nBufferSize`. -/
structure MetadataLayout where
  sizeofVideoNativeMetadata : Nat
  sizeofVideoGrallocMetadata : Nat
  fits : max sizeofVideoNativeMetadata sizeofVideoGrallocMetadata < 2 ^ 32

/-- `max(sizeof(VideoNativeMetadata), sizeof(VideoGrallocMetadata))`. -/
def MetadataLayout.bufferSize (L : MetadataLayout) : Nat :=
  max L.sizeofVideoNativeMetadata L.sizeofVideoGrallocMetadata

abbrev Handle := Nat

def eglNoDisplay : Handle := 0
def eglNoContext : Handle := 0
def eglNoSurface : Handle := 0

/-- The fields of `SoftVideoEncoderOMXComponent`, with the definitions of its two ports as
`editPortInfo` holds them. `mShmData` is `NULL` or an allocation `new GLubyte[count]`. -/
structure Component where
  mInputDataIsMeta : Bool
  mWidth : I32
  mHeight : I32
  mBitrate : U32
  mFramerate : U32
  mColorFormat : U32
  mMinOutputBufferSize : U32
  mMinCompressionRatio : U32
  mComponentRole : String
  mCodingType : U32
  mProfileLevels : List (U32 × U32)
  mIsPowervr : Bool
  mEglDisplay : Handle
  mEglContext : Handle
  mEglSurface : Handle
  mProgram : Handle
  mShmData : Option I32
  inDef : PortDefinition
  outDef : PortDefinition
  deriving DecidableEq, Repr

end SoftVideoEncoder
