import SoftVideoEncoder.Convert.Memory

/-!
# The planar YUV420 frame

Both converters fill the encoder's input frame at `dst`: a luma plane of `stride × vstride`
bytes, then a Cb and a Cr plane of `(stride/2) × (vstride/2)` bytes, with the `width × height`
picture in the top-left corner of each. Offsets from `dst` are natural numbers here, as in the
converters' documentation; the converters reach them with `size_t` pointer arithmetic.

`PlanarFrame` is what the destination holds after a conversion. `planarFrame_applyStores`
derives it from a description of the stores a conversion makes (`PlanarStore`), once the picture
lies inside its planes and the three planes inside the address space: the stores then hit
distinct addresses (`planarStore_offset`), so their order does not matter.
-/

namespace SoftVideoEncoder

def lumaOffset (stride j i : Nat) : Nat := j * stride + i

def cbOffset (stride vstride r c : Nat) : Nat := stride * vstride + r * (stride / 2) + c

def crOffset (stride vstride r c : Nat) : Nat :=
  stride * vstride + vstride / 2 * (stride / 2) + r * (stride / 2) + c

theorem rowMajor_lt {j i rows n : Nat} (hj : j < rows) (hi : i < n) : j * n + i < rows * n :=
  calc j * n + i < (j + 1) * n := by rw [Nat.succ_mul]; omega
    _ ≤ rows * n := Nat.mul_le_mul_right n hj

private theorem rowMajor_div {j i n : Nat} (hi : i < n) : (j * n + i) / n = j := by
  rw [add_comm, Nat.add_mul_div_right _ _ (by omega), Nat.div_eq_of_lt hi, zero_add]

private theorem rowMajor_mod {j i n : Nat} (hi : i < n) : (j * n + i) % n = i := by
  rw [add_comm, Nat.add_mul_mod_self_right, Nat.mod_eq_of_lt hi]

private theorem exists_rowMajor_iff {rows n : Nat} {P : Nat → Prop} :
    (∃ j < rows, ∃ i < n, P (j * n + i)) ↔ ∃ k < rows * n, P k := by
  constructor
  · rintro ⟨j, hj, i, hi, h⟩
    exact ⟨_, rowMajor_lt hj hi, h⟩
  · rintro ⟨k, hk, h⟩
    have hn : 0 < n := Nat.pos_of_ne_zero fun hn => by simp [hn] at hk
    refine ⟨k / n, (Nat.div_lt_iff_lt_mul hn).mpr hk, k % n, Nat.mod_lt k hn, ?_⟩
    rwa [Nat.div_add_mod']

theorem natCast_lumaOffset (stride : SizeT) (j i : Nat) :
    ((lumaOffset stride.toNat j i : Nat) : SizeT) = j * stride + i := by
  simp only [lumaOffset, Nat.cast_add, Nat.cast_mul, natCast_toNat]

theorem natCast_cbOffset (stride vstride : SizeT) (r c : Nat) :
    ((cbOffset stride.toNat vstride.toNat r c : Nat) : SizeT) =
      stride * vstride + (r * (stride >>> 1) + c) := by
  simp only [cbOffset, Nat.cast_add, Nat.cast_mul, natCast_toNat, ← ushiftRight_one_eq_natCast,
    add_assoc]

theorem natCast_crOffset (stride vstride : SizeT) (r c : Nat) :
    ((crOffset stride.toNat vstride.toNat r c : Nat) : SizeT) =
      stride * vstride + ((vstride >>> 1) * (stride >>> 1) + (r * (stride >>> 1) + c)) := by
  simp only [crOffset, Nat.cast_add, Nat.cast_mul, natCast_toNat, ← ushiftRight_one_eq_natCast,
    add_assoc]

section Frame

variable (dst : Addr) (stride vstride width height : Nat) (luma cb cr : Nat → Nat → Byte)

def PlanarOffset (k : Nat) : Prop :=
  (∃ j < height, ∃ i < width, k = lumaOffset stride j i) ∨
    ∃ r < height / 2, ∃ c < width / 2,
      k = cbOffset stride vstride r c ∨ k = crOffset stride vstride r c

/-- The stores of a planar conversion: every picture byte of every plane, with its value. -/
def PlanarStore (a : Addr) (v : Byte) : Prop :=
  (∃ j < height, ∃ i < width, a = dst + lumaOffset stride j i ∧ v = luma j i) ∨
    ∃ r < height / 2, ∃ c < width / 2,
      (a = dst + cbOffset stride vstride r c ∧ v = cb r c) ∨
        (a = dst + crOffset stride vstride r c ∧ v = cr r c)

theorem PlanarStore.offset {a : Addr} {v : Byte}
    (h : PlanarStore dst stride vstride width height luma cb cr a v) :
    ∃ k, PlanarOffset stride vstride width height k ∧ a = dst + k := by
  rcases h with ⟨j, hj, i, hi, rfl, -⟩ | ⟨r, hr, c, hc, ⟨rfl, -⟩ | ⟨rfl, -⟩⟩
  exacts [⟨_, .inl ⟨j, hj, i, hi, rfl⟩, rfl⟩, ⟨_, .inr ⟨r, hr, c, hc, .inl rfl⟩, rfl⟩,
    ⟨_, .inr ⟨r, hr, c, hc, .inr rfl⟩, rfl⟩]

theorem planarOffset_lt {w h k : Nat} (hk : PlanarOffset w h w h k) :
    k < w * h + 2 * (h / 2 * (w / 2)) := by
  rcases hk with ⟨j, hj, i, hi, rfl⟩ | ⟨r, hr, c, hc, rfl | rfl⟩
  · have := rowMajor_lt hj hi
    rw [lumaOffset, Nat.mul_comm w h]
    omega
  · have := rowMajor_lt hr hc
    unfold cbOffset
    omega
  · have := rowMajor_lt hr hc
    unfold crOffset
    omega

/-- The destination after a planar conversion, `old` before it and `new` after: each picture byte
holds its value, and every other byte is unchanged. -/
structure PlanarFrame (old new : Mem) : Prop where
  luma_eq : ∀ j < height, ∀ i < width, new (dst + lumaOffset stride j i) = luma j i
  cb_eq : ∀ r < height / 2, ∀ c < width / 2, new (dst + cbOffset stride vstride r c) = cb r c
  cr_eq : ∀ r < height / 2, ∀ c < width / 2, new (dst + crOffset stride vstride r c) = cr r c
  unchanged : ∀ k < 2 ^ 64, ¬ PlanarOffset stride vstride width height k →
    new (dst + k) = old (dst + k)

def planarByte (k : Nat) : Byte :=
  if k < stride * vstride then luma (k / stride) (k % stride)
  else if k < stride * vstride + vstride / 2 * (stride / 2) then
    cb ((k - stride * vstride) / (stride / 2)) ((k - stride * vstride) % (stride / 2))
  else
    cr ((k - stride * vstride - vstride / 2 * (stride / 2)) / (stride / 2))
      ((k - stride * vstride - vstride / 2 * (stride / 2)) % (stride / 2))

variable {stride vstride width height}

private theorem planarByte_lumaOffset {j i : Nat} (hj : j < vstride) (hi : i < stride) :
    lumaOffset stride j i < stride * vstride ∧
      planarByte stride vstride luma cb cr (lumaOffset stride j i) = luma j i := by
  have hlt : lumaOffset stride j i < stride * vstride := by
    rw [mul_comm]; exact rowMajor_lt hj hi
  refine ⟨hlt, ?_⟩
  rw [planarByte, if_pos hlt, lumaOffset, rowMajor_div hi, rowMajor_mod hi]

private theorem planarByte_cbOffset {r c : Nat} (hr : r < vstride / 2) (hc : c < stride / 2) :
    cbOffset stride vstride r c < stride * vstride + vstride / 2 * (stride / 2) ∧
      planarByte stride vstride luma cb cr (cbOffset stride vstride r c) = cb r c := by
  have hrow := rowMajor_lt hr hc
  have hlt : cbOffset stride vstride r c < stride * vstride + vstride / 2 * (stride / 2) := by
    unfold cbOffset; omega
  refine ⟨hlt, ?_⟩
  have hsub : cbOffset stride vstride r c - stride * vstride = r * (stride / 2) + c := by
    unfold cbOffset; omega
  rw [planarByte, if_neg (by unfold cbOffset; omega), if_pos hlt, hsub, rowMajor_div hc,
    rowMajor_mod hc]

private theorem planarByte_crOffset {r c : Nat} (hr : r < vstride / 2) (hc : c < stride / 2) :
    crOffset stride vstride r c < stride * vstride + 2 * (vstride / 2 * (stride / 2)) ∧
      planarByte stride vstride luma cb cr (crOffset stride vstride r c) = cr r c := by
  have hrow := rowMajor_lt hr hc
  have hsub : crOffset stride vstride r c - stride * vstride - vstride / 2 * (stride / 2) =
      r * (stride / 2) + c := by
    unfold crOffset; omega
  refine ⟨by unfold crOffset; omega, ?_⟩
  rw [planarByte, if_neg (by unfold crOffset; omega), if_neg (by unfold crOffset; omega), hsub,
    rowMajor_div hc, rowMajor_mod hc]

/-- Every store of a planar conversion writes `planarByte` at an offset of the picture. -/
theorem planarStore_offset (hw : width ≤ stride) (hh : height ≤ vstride)
    (hfit : stride * vstride + 2 * (vstride / 2 * (stride / 2)) ≤ 2 ^ 64) {a : Addr} {v : Byte}
    (h : PlanarStore dst stride vstride width height luma cb cr a v) :
    ∃ k < 2 ^ 64, PlanarOffset stride vstride width height k ∧ a = dst + k ∧
      v = planarByte stride vstride luma cb cr k := by
  rcases h with ⟨j, hj, i, hi, rfl, rfl⟩ | ⟨r, hr, c, hc, ⟨rfl, rfl⟩ | ⟨rfl, rfl⟩⟩
  · obtain ⟨hlt, hv⟩ := planarByte_lumaOffset luma cb cr (hj.trans_le hh) (hi.trans_le hw)
    exact ⟨_, by omega, .inl ⟨j, hj, i, hi, rfl⟩, rfl, hv.symm⟩
  · obtain ⟨hlt, hv⟩ := planarByte_cbOffset luma cb cr
      (hr.trans_le (Nat.div_le_div_right hh)) (hc.trans_le (Nat.div_le_div_right hw))
    exact ⟨_, by omega, .inr ⟨r, hr, c, hc, .inl rfl⟩, rfl, hv.symm⟩
  · obtain ⟨hlt, hv⟩ := planarByte_crOffset luma cb cr
      (hr.trans_le (Nat.div_le_div_right hh)) (hc.trans_le (Nat.div_le_div_right hw))
    exact ⟨_, by omega, .inr ⟨r, hr, c, hc, .inr rfl⟩, rfl, hv.symm⟩

def PlaneStore (off n : Nat) (f : Nat → Byte) (a : Addr) (v : Byte) : Prop :=
  ∃ k < n, a = dst + (off + k : Nat) ∧ v = f k

private theorem planeStore_rowMajor (off rows n : Nat) (f : Nat → Byte) (a : Addr) (v : Byte) :
    (∃ j < rows, ∃ i < n, a = dst + (off + (j * n + i) : Nat) ∧ v = f (j * n + i)) ↔
      PlaneStore dst off (rows * n) f a v :=
  exists_rowMajor_iff (P := fun k => a = dst + (off + k : Nat) ∧ v = f k)

theorem planarStore_packed (w h : Nat) (y u v' : Nat → Byte) (a : Addr) (v : Byte) :
    PlanarStore dst w h w h (fun j i => y (j * w + i)) (fun r c => u (r * (w / 2) + c))
        (fun r c => v' (r * (w / 2) + c)) a v ↔
      PlaneStore dst 0 (w * h) y a v ∨ PlaneStore dst (w * h) (h / 2 * (w / 2)) u a v ∨
        PlaneStore dst (w * h + h / 2 * (w / 2)) (h / 2 * (w / 2)) v' a v := by
  rw [show PlaneStore dst 0 (w * h) y a v ↔ PlaneStore dst 0 (h * w) y a v by rw [Nat.mul_comm],
    ← planeStore_rowMajor, ← planeStore_rowMajor, ← planeStore_rowMajor]
  simp only [PlanarStore, lumaOffset, cbOffset, crOffset, and_or_left, exists_or, zero_add,
    add_assoc]

theorem PlanarFrame.eq_of_agree {luma' cb' cr' : Nat → Nat → Byte} {old new new' : Mem}
    (h : PlanarFrame dst stride vstride width height luma cb cr old new)
    (h' : PlanarFrame dst stride vstride width height luma' cb' cr' old new')
    (hl : ∀ j < height, ∀ i < width, luma j i = luma' j i)
    (hcb : ∀ r < height / 2, ∀ c < width / 2, cb r c = cb' r c)
    (hcr : ∀ r < height / 2, ∀ c < width / 2, cr r c = cr' r c) : new = new' := by
  funext a
  obtain ⟨k, hk, rfl⟩ : ∃ k : Nat, k < 2 ^ 64 ∧ a = dst + k :=
    ⟨(a - dst).toNat, (a - dst).isLt, by rw [natCast_toNat, add_sub_cancel]⟩
  by_cases hoff : PlanarOffset stride vstride width height k
  · rcases hoff with ⟨j, hj, i, hi, rfl⟩ | ⟨r, hr, c, hc, rfl | rfl⟩
    · rw [h.luma_eq j hj i hi, h'.luma_eq j hj i hi, hl j hj i hi]
    · rw [h.cb_eq r hr c hc, h'.cb_eq r hr c hc, hcb r hr c hc]
    · rw [h.cr_eq r hr c hc, h'.cr_eq r hr c hc, hcr r hr c hc]
  · rw [h.unchanged k hk hoff, h'.unchanged k hk hoff]

theorem PlanarFrame.unique {old new new' : Mem}
    (h : PlanarFrame dst stride vstride width height luma cb cr old new)
    (h' : PlanarFrame dst stride vstride width height luma cb cr old new') : new = new' :=
  h.eq_of_agree dst luma cb cr h' (fun _ _ _ _ => rfl) (fun _ _ _ _ => rfl) fun _ _ _ _ => rfl

variable {dst luma cb cr} in
theorem PlanarFrame.eq_planarByte {w h : Nat} {old new : Mem}
    (hf : PlanarFrame dst w h w h luma cb cr old new) {k : Nat}
    (hk : k < w * h + 2 * (h / 2 * (w / 2))) : new (dst + k) = planarByte w h luma cb cr k := by
  rcases Nat.lt_or_ge k (w * h) with hl | hl
  · obtain ⟨j, hj, i, hi, rfl⟩ := exists_rowMajor_iff (P := fun x => x = k).mpr
      ⟨k, by rwa [Nat.mul_comm], rfl⟩
    rw [← lumaOffset, (planarByte_lumaOffset luma cb cr hj hi).2]
    exact hf.luma_eq j hj i hi
  rcases Nat.lt_or_ge k (w * h + h / 2 * (w / 2)) with hc | hc
  · obtain ⟨r, hr, c, hc', hrc⟩ : ∃ r < h / 2, ∃ c < w / 2, r * (w / 2) + c = k - w * h :=
      exists_rowMajor_iff (P := fun x => x = k - w * h).mpr ⟨_, by omega, rfl⟩
    rw [show k = cbOffset w h r c by unfold cbOffset; omega,
      (planarByte_cbOffset luma cb cr hr hc').2]
    exact hf.cb_eq r hr c hc'
  · obtain ⟨r, hr, c, hc', hrc⟩ :
        ∃ r < h / 2, ∃ c < w / 2, r * (w / 2) + c = k - w * h - h / 2 * (w / 2) :=
      exists_rowMajor_iff (P := fun x => x = k - w * h - h / 2 * (w / 2)).mpr ⟨_, by omega, rfl⟩
    rw [show k = crOffset w h r c by unfold crOffset; omega,
      (planarByte_crOffset luma cb cr hr hc').2]
    exact hf.cr_eq r hr c hc'

section Fits

variable (hw : width ≤ stride) (hh : height ≤ vstride)
  (hfit : stride * vstride + 2 * (vstride / 2 * (stride / 2)) ≤ 2 ^ 64)
  {stores : List Store}
  (hs : ∀ a v, (a, v) ∈ stores ↔ PlanarStore dst stride vstride width height luma cb cr a v)
include hw hh hfit hs

private theorem functional_of_planarStore : Functional stores := by
  intro a v w hv hw'
  obtain ⟨k, hk, -, rfl, rfl⟩ := planarStore_offset dst luma cb cr hw hh hfit ((hs _ _).mp hv)
  obtain ⟨k', hk', -, ha, rfl⟩ := planarStore_offset dst luma cb cr hw hh hfit ((hs _ _).mp hw')
  rw [natCast_inj_of_lt hk hk' (add_left_cancel ha)]

theorem planarFrame_applyStores (old : Mem) :
    PlanarFrame dst stride vstride width height luma cb cr old (applyStores old stores) := by
  have hf := functional_of_planarStore dst luma cb cr hw hh hfit hs
  refine ⟨fun j hj i hi => applyStores_of_mem old hf ((hs _ _).mpr (.inl ⟨j, hj, i, hi, rfl, rfl⟩)),
    fun r hr c hc => applyStores_of_mem old hf ((hs _ _).mpr (.inr ⟨r, hr, c, hc, .inl ⟨rfl, rfl⟩⟩)),
    fun r hr c hc => applyStores_of_mem old hf ((hs _ _).mpr (.inr ⟨r, hr, c, hc, .inr ⟨rfl, rfl⟩⟩)),
    fun k hk hoff => applyStores_of_not_mem old stores _ fun v hv => hoff ?_⟩
  obtain ⟨k', hk', hoff', ha, -⟩ := planarStore_offset dst luma cb cr hw hh hfit ((hs _ _).mp hv)
  rwa [natCast_inj_of_lt hk hk' (add_left_cancel ha)]

end Fits

end Frame

end SoftVideoEncoder
