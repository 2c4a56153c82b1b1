import SoftVideoEncoder.Omx.SetParameter

/-!
# The PowerVR rendering context and runs of the component

`initEgl` and `closeEgl`, the metadata records an input buffer carries, and the component as a
state machine: a call is a parameter request, an `initEgl` or a `closeEgl`, and a run starts from
the constructor followed by `initPorts`, as every encoder subclass does.
-/

namespace SoftVideoEncoder

def kMetadataBufferTypeGrallocSource : U32 := 1
def kMetadataBufferTypeANWBuffer : U32 := 2

def halPixelFormatRGBA8888 : I32 := 1
def halPixelFormatRGBX8888 : I32 := 2
def halPixelFormatBGRA8888 : I32 := 5
def halPixelFormatYCrCb420SP : I32 := 0x11
def halPixelFormatYCbCr420888 : I32 := 0x23
def halPixelFormatYV12 : I32 := 0x32315659

/-- The members of `ANativeWindowBuffer` the component reads. -/
structure ANativeWindowBuffer where
  handle : Handle
  stride : I32
  height : I32
  format : I32
  deriving DecidableEq, Repr

/-- The bytes an input metadata buffer points to, read either as `VideoNativeMetadata`
(`pBuffer`, `nFenceFd`) or as `VideoGrallocMetadata` (`pHandle`) after the common `eType`. -/
structure MetadataBuffer where
  eType : U32
  pBuffer : ANativeWindowBuffer
  nFenceFd : I32
  pHandle : Handle
  deriving DecidableEq, Repr

/-- What the EGL and GLES driver hands back to `initEgl`: `eglGetDisplay`, `eglCreateContext`,
`eglCreatePbufferSurface` and the `glCreateProgram` of `createProgram`. -/
structure EglDriver where
  display : Handle
  context : Handle
  surface : Handle
  program : Handle
  deriving DecidableEq, Repr

def initEgl (s : Component) (src : MetadataBuffer) (drv : EglDriver) : Component :=
  if s.mIsPowervr ∧ s.mEglDisplay = eglNoDisplay then
    if src.eType ≠ kMetadataBufferTypeANWBuffer ∧ src.eType ≠ kMetadataBufferTypeGrallocSource
    then s
    else { s with
      mEglDisplay := drv.display, mEglContext := drv.context, mEglSurface := drv.surface,
      mProgram := drv.program }
  else s

def closeEgl (s : Component) : Component :=
  if s.mIsPowervr then
    let s := { s with mShmData := none }
    if s.mEglDisplay = eglNoDisplay then s
    else { s with
      mProgram := 0, mEglDisplay := eglNoDisplay, mEglSurface := eglNoSurface,
      mEglContext := eglNoContext }
  else s

/-- One call a client or the encoder subclass makes on the component. The frame size `initEgl`
takes only sizes the pbuffer surface. -/
inductive Call
  | setParameter (p : SetParameter)
  | initEgl (width height : SizeT) (src : MetadataBuffer) (drv : EglDriver)
  | closeEgl
  deriving DecidableEq, Repr

def step (L : MetadataLayout) (s : Component) : Call → Component
  | .setParameter p => (internalSetParameter L s p).2
  | .initEgl _ _ src drv => initEgl s src drv
  | .closeEgl => closeEgl s

def run (L : MetadataLayout) (s : Component) (calls : List Call) : Component :=
  calls.foldl (step L) s

@[simp] theorem run_nil (L : MetadataLayout) (s : Component) : run L s [] = s := rfl

@[simp] theorem run_cons (L : MetadataLayout) (s : Component) (c : Call) (calls : List Call) :
    run L s (c :: calls) = run L (step L s c) calls := rfl

/-- The arguments of the constructor and of `initPorts`. -/
structure Creation where
  componentRole : String
  codingType : U32
  profileLevels : List (U32 × U32)
  width : I32
  height : I32
  eglProperty : String
  numInputBuffers : U32
  numOutputBuffers : U32
  outputBufferSize : U32
  mime : String
  minCompressionRatio : U32

def Creation.initial (L : MetadataLayout) (c : Creation) : Component :=
  initPorts L (Component.construct c.componentRole c.codingType c.profileLevels c.width
    c.height c.eglProperty) c.numInputBuffers c.numOutputBuffers c.outputBufferSize c.mime
    c.minCompressionRatio

inductive Reachable (L : MetadataLayout) : Component → Prop
  | initial (c : Creation) : Reachable L (c.initial L)
  | after {s : Component} (call : Call) : Reachable L s → Reachable L (step L s call)

theorem Reachable.induction {L : MetadataLayout} {P : Component → Prop}
    (init : ∀ c : Creation, P (c.initial L))
    (preserve : ∀ s call, P s → P (step L s call)) {s : Component} (h : Reachable L s) : P s := by
  induction h with
  | initial c => exact init c
  | after call _ ih => exact preserve _ call ih

theorem Reachable.run {L : MetadataLayout} {s : Component} (h : Reachable L s) (calls : List Call) :
    Reachable L (run L s calls) := by
  induction calls generalizing s with
  | nil => exact h
  | cons c calls ih => exact ih (.after c h)

/-- The LP64 sizes of the two metadata records, 24 and 16 bytes. -/
def lp64 : MetadataLayout := ⟨24, 16, by decide⟩

def qcifAvc : Creation :=
  ⟨"video_encoder.avc", 7, [], 176, 144, "default", 4, 4, 38016, "video/avc", 1⟩

end SoftVideoEncoder
