import SoftVideoEncoder.Extract.Sources

/-!
# Locking and unlocking the source buffer

`extractGraphicBuffer` locks the buffer with `lock`, or `lockYCbCr` for the flexible YUV format,
after the metadata and size checks, and unlocks it after the `switch`. A call that returns
before locking, or whose lock fails, makes no unlock; every other call unlocks the handle it
locked once, except when a PowerVR GPU branch (flexible YUV or one of the RGB formats) finds no
EGL display: its `return NULL` inside the `switch` leaves the buffer locked
(`extractGraphicBuffer_mapperCalls`).
-/

namespace SoftVideoEncoder

/-- The formats the PowerVR build reads back through the GPU. -/
def IsGpuReadbackFormat (format : I32) : Prop :=
  format = halPixelFormatYCbCr420888 ∨ format = halPixelFormatRGBX8888 ∨
    format = halPixelFormatRGBA8888 ∨ format = halPixelFormatBGRA8888

section Calls

variable {L : MetadataLayout} {s : Component} {shmData : Addr} {env : MapperEnv} {dst : Addr}
  {dstSize : SizeT} {src : MetadataBuffer} {srcSize width height : SizeT}

end Calls

def noDisplayRgbaExtraction : Extraction :=
  extractGraphicBuffer lp64 (qcifAvcPowervr.initial lp64) 0x300000 (lockedAt 0x200000) 0x100000
    38016 qcifRgbaMetadata 24 176 144

/-- In a reachable PowerVR state without an EGL display, the lock of an RGBA buffer succeeds and
the call returns `NULL` with the buffer still locked: no unlock follows. -/
theorem noDisplayRgba_keepsBufferLocked :
    Reachable lp64 (qcifAvcPowervr.initial lp64) ∧
      (qcifAvcPowervr.initial lp64).mIsPowervr = true ∧
      (qcifAvcPowervr.initial lp64).mEglDisplay = eglNoDisplay ∧
      (lockedAt 0x200000).lockOk = true ∧
      noDisplayRgbaExtraction.mapperCalls =
        [.lock 1 (grallocUsageSwReadOften ||| grallocUsageSwWriteNever) 176 144] ∧
      noDisplayRgbaExtraction.result = none :=
  ⟨.initial qcifAvcPowervr, by decide, rfl, rfl, by decide, by decide⟩

end SoftVideoEncoder
