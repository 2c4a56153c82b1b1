import SoftVideoEncoder.Omx.Egl
import SoftVideoEncoder.Convert.FlexYUV
import SoftVideoEncoder.Convert.RGB32

/-!
# `extractGraphicBuffer`

The input of a metadata-mode encoder is a graphic buffer. `extractGraphicBuffer` reads the buffer
and its format from the metadata, waits on the fence, checks the destination size against
`neededSize`, locks the buffer and hands it to one of the two converters with the picture's
geometry as the destination strides. On PowerVR the formats the GPU renders are first read back
into `mShmData` with `glReadPixels`, and a missing EGL display returns `NULL` from inside the
`switch`, before the buffer is unlocked.

The call is modelled by what it does: the converter call with its arguments, the mapper calls,
the readback, the metadata after the fence is consumed, and the returned pointer. The system's
answers (the fence, the lock, what the lock maps) are inputs.
-/

namespace SoftVideoEncoder

def grallocUsageSwWriteNever : U32 := 0

/-- What the system answers `extractGraphicBuffer`: whether the fence wait and the lock succeed,
and what `lock` and `lockYCbCr` map. -/
structure MapperEnv where
  fenceOk : Bool
  lockOk : Bool
  bits : Addr
  ycbcr : AndroidYcbcr

/-- The source buffer as the metadata describes it, with its row pitch in bytes. -/
structure SourceLayout where
  handle : Handle
  format : I32
  srcStride : SizeT
  srcVStride : SizeT
  deriving DecidableEq, Repr

/-- The metadata half: the source layout, or `none` where the function returns `NULL`, and the
metadata as it is left (a fence that was waited on is consumed). -/
def readMetadata (L : MetadataLayout) (isPowervr fenceOk : Bool) (src : MetadataBuffer)
    (srcSize width height : SizeT) : Option SourceLayout × MetadataBuffer :=
  if src.eType = kMetadataBufferTypeANWBuffer then
    if srcSize < BitVec.ofNat 64 L.sizeofVideoNativeMetadata then (none, src)
    else
      let buffer := src.pBuffer
      let format := buffer.format
      -- the stride is converted from pixels to bytes for every format the CPU cannot convert,
      -- and for every format on PowerVR
      let srcStride := if isPowervr ∨ (format ≠ halPixelFormatYV12 ∧
          format ≠ halPixelFormatYCrCb420SP ∧ format ≠ halPixelFormatYCbCr420888)
        then int32ToSizeT buffer.stride * 4 else int32ToSizeT buffer.stride
      let layout : SourceLayout := ⟨buffer.handle, format, srcStride, int32ToSizeT buffer.height⟩
      if src.nFenceFd.msb = false then
        (if fenceOk then some layout else none, { src with nFenceFd := -1 })
      else (some layout, src)
  else if src.eType = kMetadataBufferTypeGrallocSource then
    if srcSize < BitVec.ofNat 64 L.sizeofVideoGrallocMetadata then (none, src)
    else (some ⟨src.pHandle, halPixelFormatRGBA8888, width * 4, height⟩, src)
  else (none, src)

/-- The destination size the function requires. -/
def neededSize (dstStride dstVStride width height : SizeT) : SizeT :=
  dstStride * dstVStride + (width >>> 1) +
    (dstStride >>> 1) * ((dstVStride >>> 1) + (height >>> 1) - 1)

/-- A converter call, with its arguments. -/
inductive Conversion
  | flexYUV (dst : Addr) (dstStride dstVStride : SizeT) (ycbcr : AndroidYcbcr) (width height : I32)
  | rgb32 (dst : Addr) (dstStride dstVStride : SizeT) (src : Addr) (width height srcStride : SizeT)
      (bgr : Bool)
  deriving DecidableEq, Repr

/-- The stores of a converter call on source memory `mem`; `none` is a failed `CHECK`. -/
def Conversion.stores (mem : Mem) : Conversion → Option (List Store)
  | .flexYUV dst dstStride dstVStride ycbcr width height =>
    some (convertFlexYUVToPlanar mem dst dstStride dstVStride ycbcr width height)
  | .rgb32 dst dstStride dstVStride src width height srcStride bgr =>
    convertRGB32ToPlanar mem dst dstStride dstVStride src width height srcStride bgr

/-- A call of the graphic buffer mapper. -/
inductive MapperCall
  | lock (handle : Handle) (usage : U32) (width height : SizeT)
  | lockYCbCr (handle : Handle) (usage : U32) (width height : SizeT)
  | unlock (handle : Handle)
  deriving DecidableEq, Repr

/-- `glReadPixels(0, 0, width, height, GL_RGBA, GL_UNSIGNED_BYTE, target)`. -/
structure Readback where
  target : Addr
  width : SizeT
  height : SizeT
  deriving DecidableEq, Repr

/-- What the `switch (format)` does once the buffer is locked: the converter it calls, the
readback before it, and the pointer left for the return; `earlyNull` is the `return NULL` inside
the switch, which skips the unlock. -/
structure SwitchOutcome where
  conversion : Option Conversion
  readback : Option Readback
  dst : Option Addr
  earlyNull : Bool

def formatSwitch (s : Component) (shmData : Addr) (env : MapperEnv) (info : SourceLayout)
    (dst : Addr) (dstStride dstVStride width height : SizeT) : SwitchOutcome :=
  let flex (ycbcr : AndroidYcbcr) : SwitchOutcome :=
    ⟨some (.flexYUV dst dstStride dstVStride ycbcr (sizeTToInt32 width) (sizeTToInt32 height)),
      none, some dst, false⟩
  let rgb (src : Addr) : Conversion :=
    .rgb32 dst dstStride dstVStride src width height info.srcStride
      (info.format = halPixelFormatBGRA8888)
  let gpu : SwitchOutcome :=
    if s.mEglDisplay ≠ eglNoDisplay then
      ⟨some (rgb shmData), some ⟨shmData, width, height⟩, some dst, false⟩
    else ⟨none, none, none, true⟩
  if info.format = halPixelFormatYV12 then
    let cr := env.bits + info.srcStride * info.srcVStride
    flex ⟨env.bits, cr + (info.srcStride >>> 1) * (info.srcVStride >>> 1), cr, info.srcStride,
      info.srcStride >>> 1, 1⟩
  else if info.format = halPixelFormatYCrCb420SP then
    let cr := env.bits + info.srcStride * info.srcVStride
    flex ⟨env.bits, cr + 1, cr, info.srcStride, info.srcStride, 2⟩
  else if info.format = halPixelFormatYCbCr420888 then
    if s.mIsPowervr then gpu else flex env.ycbcr
  else if info.format = halPixelFormatRGBX8888 ∨ info.format = halPixelFormatRGBA8888 ∨
      info.format = halPixelFormatBGRA8888 then
    if s.mIsPowervr then gpu else ⟨some (rgb env.bits), none, some dst, false⟩
  else ⟨none, none, none, false⟩

/-- What a call of `extractGraphicBuffer` did. -/
structure Extraction where
  /-- The returned pointer; `none` is `NULL`. -/
  result : Option Addr
  metadata : MetadataBuffer
  mapperCalls : List MapperCall
  readback : Option Readback
  conversion : Option Conversion

def Extraction.failed (metadata : MetadataBuffer) : Extraction := ⟨none, metadata, [], none, none⟩

/-- `lockYCbCr` for the flexible YUV format, `lock` for the others, both for reading. -/
def lockCall (info : SourceLayout) (width height : SizeT) : MapperCall :=
  if info.format = halPixelFormatYCbCr420888
  then .lockYCbCr info.handle (grallocUsageSwReadOften ||| grallocUsageSwWriteNever) width height
  else .lock info.handle (grallocUsageSwReadOften ||| grallocUsageSwWriteNever) width height

/-- `extractGraphicBuffer` of a component `s` whose `mShmData` points to `shmData`. -/
def extractGraphicBuffer (L : MetadataLayout) (s : Component) (shmData : Addr) (env : MapperEnv)
    (dst : Addr) (dstSize : SizeT) (src : MetadataBuffer) (srcSize width height : SizeT) :
    Extraction :=
  let dstStride := width
  let dstVStride := height
  match readMetadata L s.mIsPowervr env.fenceOk src srcSize width height with
  | (none, metadata) => .failed metadata
  | (some info, metadata) =>
    if dstSize < neededSize dstStride dstVStride width height then .failed metadata
    else
      let lock := lockCall info width height
      if env.lockOk = false then ⟨none, metadata, [lock], none, none⟩
      else
        let out := formatSwitch s shmData env info dst dstStride dstVStride width height
        if out.earlyNull then ⟨none, metadata, [lock], out.readback, out.conversion⟩
        else ⟨out.dst, metadata, [lock, .unlock info.handle], out.readback, out.conversion⟩

section Spec

variable {L : MetadataLayout} {s : Component} {shmData : Addr} {env : MapperEnv} {dst : Addr}
  {dstSize : SizeT} {src : MetadataBuffer} {srcSize width height : SizeT}

theorem extractGraphicBuffer_conversion_eq_some {c : Conversion}
    (h : (extractGraphicBuffer L s shmData env dst dstSize src srcSize width height).conversion =
      some c) :
    ∃ info metadata, readMetadata L s.mIsPowervr env.fenceOk src srcSize width height =
        (some info, metadata) ∧ ¬ dstSize < neededSize width height width height ∧
      env.lockOk = true ∧
      (formatSwitch s shmData env info dst width height width height).conversion = some c := by
  unfold extractGraphicBuffer at h
  split at h
  · cases h
  · rename_i info metadata hmeta
    by_cases hsize : dstSize < neededSize width height width height
    · rw [if_pos hsize] at h
      cases h
    · rw [if_neg hsize] at h
      by_cases hlock : env.lockOk = true
      · rw [if_neg (by simp [hlock])] at h
        refine ⟨info, metadata, hmeta, hsize, hlock, ?_⟩
        dsimp only at h
        split at h <;> exact h
      · rw [if_pos (by simpa using hlock)] at h
        cases h

theorem formatSwitch_conversion {info : SourceLayout} {dstStride dstVStride : SizeT}
    {c : Conversion}
    (h : (formatSwitch s shmData env info dst dstStride dstVStride width height).conversion =
      some c) :
    (∃ ycbcr, c = .flexYUV dst dstStride dstVStride ycbcr (sizeTToInt32 width)
      (sizeTToInt32 height)) ∨
    ∃ src srcStride bgr, c = .rgb32 dst dstStride dstVStride src width height srcStride bgr := by
  dsimp only [formatSwitch] at h
  split_ifs at h <;> cases h
  all_goals first
    | exact .inl ⟨_, rfl⟩
    | exact .inr ⟨_, _, _, rfl⟩

end Spec

end SoftVideoEncoder
