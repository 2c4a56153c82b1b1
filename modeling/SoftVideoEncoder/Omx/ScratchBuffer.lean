import SoftVideoEncoder.Omx.PortSync

/-!
# The PowerVR readback buffer

`extractGraphicBuffer` reads `width x height` RGBA pixels back into `mShmData` once the EGL
display exists. Only the input branch of `internalSetPortParams` allocates the buffer, and only
while it is `NULL`, with `mWidth * mHeight * 4` computed in `int32_t`; `closeEgl` frees it; no
other call touches it (`step_shmData`). So it is never resized: a run without `closeEgl` keeps the
first allocation whatever geometry it sets later (`run_shmData_of_allocated`). Nothing ties it to
the display either: `initEgl` reached before any input definition builds a display with no buffer
behind it (`initEglFirst_leavesReadbackUnallocated`).
-/

namespace SoftVideoEncoder

def SameScratch (s t : Component) : Prop :=
  t.mWidth = s.mWidth ∧ t.mHeight = s.mHeight ∧ t.mShmData = s.mShmData ∧
    t.mEglDisplay = s.mEglDisplay

def writesGeometry (port : PortDefinition) : Prop :=
  port.validHeader = true ∧ port.nPortIndex = kInputPortIndex

section Step

variable (L : MetadataLayout) (s : Component)

private theorem internalSetParameter_sameScratch (p : SetParameter)
    (hp : ∀ port b, p = .portDefinition port b → ¬ writesGeometry port) :
    SameScratch s (internalSetParameter L s p).2 := by
  cases p with
  | portDefinition port b =>
    have hg := hp port b rfl
    rw [internalSetParameter_portDefinition_snd]
    by_cases hv : port.validHeader = true
    · -- the output branch and the rejections write none of the four fields
      have hi : port.nPortIndex ≠ kInputPortIndex := fun hi => hg ⟨hv, hi⟩
      simp only [internalSetPortParams, hv, hi, apply_ite Prod.snd, apply_ite (SameScratch s)]
      simp [SameScratch, updatePortParams]
    · simp [internalSetPortParams, hv, SameScratch]
  | _ =>
    simp only [internalSetParameter, apply_ite Prod.snd, apply_ite (SameScratch s)]
    simp [SameScratch, updatePortParams]

private theorem internalSetParameter_writesGeometry (port : PortDefinition) (b : OmxError)
    (hg : writesGeometry port) :
    let t := (internalSetParameter L s (.portDefinition port b)).2
    t.mWidth = port.nFrameWidth ∧ t.mHeight = port.nFrameHeight ∧ t.mEglDisplay = s.mEglDisplay ∧
      t.mShmData = if s.mIsPowervr ∧ s.mShmData = none
        then some (port.nFrameWidth * port.nFrameHeight * 4) else s.mShmData := by
  obtain ⟨hv, hi⟩ := hg
  rw [internalSetParameter_portDefinition_snd]
  unfold internalSetPortParams
  by_cases ha : s.mIsPowervr = true ∧ s.mShmData = none <;> simp [hv, hi, ha] <;> split_ifs <;>
    simp [updatePortParams]

private theorem initEgl_sameScratch_but_display (src : MetadataBuffer) (drv : EglDriver) :
    (initEgl s src drv).mWidth = s.mWidth ∧ (initEgl s src drv).mHeight = s.mHeight ∧
      (initEgl s src drv).mShmData = s.mShmData := by
  unfold initEgl
  split_ifs <;> simp

/-- What a call does to the readback buffer: nothing; on PowerVR, an input-port definition that
finds it `NULL` allocates `4 * width * height` in `int32_t`; on PowerVR, `closeEgl` frees it. -/
theorem step_shmData (call : Call) :
    (step L s call).mShmData = s.mShmData ∨
      (s.mIsPowervr = true ∧ s.mShmData = none ∧ ∃ port b,
        call = .setParameter (.portDefinition port b) ∧ writesGeometry port ∧
          (step L s call).mShmData = some (port.nFrameWidth * port.nFrameHeight * 4)) ∨
      (call = .closeEgl ∧ s.mIsPowervr = true ∧ (step L s call).mShmData = none) := by
  cases call with
  | setParameter p =>
    by_cases hp : ∃ port b, p = .portDefinition port b ∧ writesGeometry port
    · obtain ⟨port, b, rfl, hg⟩ := hp
      obtain ⟨-, -, -, hm⟩ := internalSetParameter_writesGeometry L s port b hg
      by_cases ha : s.mIsPowervr = true ∧ s.mShmData = none
      · exact .inr (.inl ⟨ha.1, ha.2, port, b, rfl, hg, by rw [step, hm, if_pos ha]⟩)
      · exact .inl (by rw [step, hm, if_neg ha])
    · exact .inl (internalSetParameter_sameScratch L s p
        fun port b h hg => hp ⟨port, b, h, hg⟩).2.2.1
  | initEgl _ _ src drv => exact .inl (initEgl_sameScratch_but_display s src drv).2.2
  | closeEgl =>
    by_cases hp : s.mIsPowervr = true
    · refine .inr (.inr ⟨rfl, hp, ?_⟩)
      simp only [step, closeEgl, hp, if_true]
      split_ifs <;> rfl
    · exact .inl (by simp [step, closeEgl, hp])

/-- Once allocated, the buffer keeps its size along every run without `closeEgl`, whatever
geometry the run sets afterwards. -/
theorem run_shmData_of_allocated {n : I32} (hs : s.mShmData = some n) (calls : List Call)
    (hno : Call.closeEgl ∉ calls) : (run L s calls).mShmData = some n := by
  induction calls generalizing s with
  | nil => exact hs
  | cons call calls ih =>
    refine ih _ ?_ fun h => hno (List.mem_cons_of_mem _ h)
    rcases step_shmData L s call with h | ⟨-, hnone, -⟩ | ⟨rfl, -⟩
    · rw [h, hs]
    · simp [hs] at hnone
    · exact absurd (List.mem_cons_self _ _) hno

end Step

def qcifAvcPowervr : Creation := { qcifAvc with eglProperty := "powervr" }

def qcifRgbaMetadata : MetadataBuffer :=
  ⟨kMetadataBufferTypeANWBuffer, ⟨1, 176, 144, halPixelFormatRGBA8888⟩, -1, 1⟩

def initEglFirst : Component :=
  run lp64 (qcifAvcPowervr.initial lp64) [.initEgl 176 144 qcifRgbaMetadata ⟨1, 1, 1, 1⟩]

/-- On PowerVR, `initEgl` before any input-port definition reaches a state whose display is
initialised and whose readback buffer is `NULL`. -/
theorem initEglFirst_leavesReadbackUnallocated :
    Reachable lp64 initEglFirst ∧ initEglFirst.mIsPowervr = true ∧
      initEglFirst.mEglDisplay ≠ eglNoDisplay ∧ initEglFirst.mShmData = none :=
  ⟨(Reachable.initial qcifAvcPowervr).run _, by decide, by decide, by decide⟩

end SoftVideoEncoder
