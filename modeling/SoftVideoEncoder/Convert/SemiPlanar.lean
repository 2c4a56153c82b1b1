import SoftVideoEncoder.Convert.Planar

/-!
# `ConvertYUV420SemiPlanarToYUV420Planar`

The luma plane is one `memcpy` of `width * height` bytes. The interleaved chroma plane that
follows it is read a 32-bit word at a time, two chroma pairs a word, and each word is split by
masks and shifts into one 16-bit store to the Cb plane and one to the Cr plane. The loops run
`height >> 1` rows of `width >> 2` words, and no pointer is reset between rows: the nested loops
are one loop over the plane (`semiPlanarRows_eq`). Memory is little-endian, as on every target the
sources are built for: the byte at the lowest address of a word is its least significant.

One iteration copies the even bytes of its word to Cb and the odd ones to Cr
(`semiPlanarWord_eq`), so for a picture whose width is a multiple of 4 the conversion stores the
planar frame of the semi-planar source, its first byte of each pair as Cb
(`convertYUV420SemiPlanarToYUV420Planar_planarFrame`). Read byte by byte, that frame is
`Y ++ U ++ V` of the source (`planarFromSemiPlanar`), and the conversion undoes the reference
packer `semiPlanarFromPlanar` (`convertYUV420SemiPlanarToYUV420Planar_deinterleaves`). The sizes
are `int32_t` and sign-extended, so a negative dimension sends the luma `memcpy` over almost the
whole address space (`negativeHeight_writesOutsideFrame`).
-/

namespace SoftVideoEncoder

/-- A 32-bit load on a little-endian target. -/
def loadLE32 (mem : Mem) (p : Addr) : U32 :=
  (mem p).setWidth 32 ||| (mem (p + 1)).setWidth 32 <<< 8 ||| (mem (p + 2)).setWidth 32 <<< 16 |||
    (mem (p + 3)).setWidth 32 <<< 24

/-- A 16-bit store on a little-endian target. -/
def storeLE16 (p : Addr) (x : BitVec 16) : List Store :=
  [(p, x.setWidth 8), (p + 1, (x >>> 8).setWidth 8)]

def tempU (temp : U32) : U32 := (temp &&& 0xFF) ||| ((temp >>> 8) &&& 0xFF00)

def tempV (temp : U32) : U32 := ((temp >>> 8) &&& 0xFF) ||| ((temp >>> 16) &&& 0xFF00)

def semiPlanarWord (mem : Mem) (src outCb outCr : Addr) : List Store :=
  let temp := loadLE32 mem src
  storeLE16 outCb ((tempU temp).setWidth 16) ++ storeLE16 outCr ((tempV temp).setWidth 16)

def semiPlanarRow (mem : Mem) :
    Nat → (src outCb outCr : Addr) → List Store × Addr × Addr × Addr
  | 0, src, outCb, outCr => ([], src, outCb, outCr)
  | n + 1, src, outCb, outCr =>
    let rest := semiPlanarRow mem n (src + 4) (outCb + 2) (outCr + 2)
    (semiPlanarWord mem src outCb outCr ++ rest.1, rest.2)

def semiPlanarRows (mem : Mem) (cols : Nat) : Nat → (src outCb outCr : Addr) → List Store
  | 0, _, _, _ => []
  | n + 1, src, outCb, outCr =>
    let row := semiPlanarRow mem cols src outCb outCr
    row.1 ++ semiPlanarRows mem cols n row.2.1 row.2.2.1 row.2.2.2

/-- The iterations of `for (int32_t i = n; i > 0; --i)`. -/
def loopCount (n : I32) : Nat := n.toInt.toNat

def convertYUV420SemiPlanarToYUV420Planar (mem : Mem) (inYVU outYUV : Addr) (width height : I32) :
    List Store :=
  let outYsize := width * height
  let outCb := outYUV + int32ToSizeT outYsize
  let outCr := outYUV + int32ToSizeT outYsize + int32ToSizeT (outYsize.sshiftRight 2)
  memcpy mem outYUV inYVU (int32ToSizeT outYsize).toNat ++
    semiPlanarRows mem (loopCount (width.sshiftRight 2)) (loopCount (height.sshiftRight 1))
      (inYVU + int32ToSizeT outYsize) outCb outCr

private theorem testBit_255 (i : Nat) : Nat.testBit 255 i = decide (i < 8) :=
  Nat.testBit_two_pow_sub_one 8 i

private theorem testBit_65280 (i : Nat) :
    Nat.testBit 65280 i = (decide (i ≥ 8) && decide (i - 8 < 8)) := by
  rw [show 65280 = 255 <<< 8 from rfl, Nat.testBit_shiftLeft, testBit_255]

/-- One iteration copies the even bytes of its word to Cb and the odd ones to Cr. -/
theorem semiPlanarWord_eq (mem : Mem) (src outCb outCr : Addr) :
    semiPlanarWord mem src outCb outCr =
      [(outCb, mem src), (outCb + 1, mem (src + 2)), (outCr, mem (src + 1)),
        (outCr + 1, mem (src + 3))] := by
  simp only [semiPlanarWord, storeLE16, tempU, tempV, loadLE32, List.cons_append,
    List.nil_append, List.cons.injEq, Prod.mk.injEq, true_and, and_true]
  -- each stored byte, bit by bit: the bit positions are decided by omega
  refine ⟨?_, ?_, ?_, ?_⟩ <;> apply BitVec.eq_of_getLsbD_eq <;> intro ⟨i, hi⟩ <;>
    simp (disch := omega) only [BitVec.getLsbD_and, BitVec.getLsbD_or, BitVec.getLsbD_setWidth,
      BitVec.getLsbD_shiftLeft, BitVec.getLsbD_ushiftRight, BitVec.getLsbD_ofNat,
      BitVec.ofNat_eq_ofNat, BitVec.natCast_eq_ofNat, testBit_255, testBit_65280, decide_eq_true,
      decide_eq_false, BitVec.getLsbD_ge, Bool.true_and, Bool.and_true, Bool.false_and,
      Bool.and_false, Bool.or_false, Bool.false_or, Bool.not_true, Bool.not_false,
      ← Nat.add_assoc, Nat.add_sub_cancel_left]

section Loops

variable (mem : Mem)

private theorem semiPlanarRow_ptrs (n : Nat) (src outCb outCr : Addr) :
    (semiPlanarRow mem n src outCb outCr).2 = (src + 4 * n, outCb + 2 * n, outCr + 2 * n) := by
  induction n generalizing src outCb outCr with
  | zero => simp [semiPlanarRow]
  | succ n ih =>
    rw [semiPlanarRow, ih]
    simp only [Prod.mk.injEq, Nat.cast_succ, mul_add, mul_one, add_assoc, add_comm (4 : SizeT),
      add_comm (2 : SizeT), and_self]

private theorem semiPlanarRow_add (m n : Nat) (src outCb outCr : Addr) :
    (semiPlanarRow mem (m + n) src outCb outCr).1 =
      (semiPlanarRow mem m src outCb outCr).1 ++
        (semiPlanarRow mem n (src + 4 * m) (outCb + 2 * m) (outCr + 2 * m)).1 := by
  induction m generalizing src outCb outCr with
  | zero => simp [semiPlanarRow]
  | succ m ih =>
    rw [Nat.succ_add, semiPlanarRow, semiPlanarRow, ih, List.append_assoc]
    simp only [Nat.cast_succ, mul_add, mul_one, add_assoc, add_comm (4 : SizeT),
      add_comm (2 : SizeT)]

/-- The nested loops are one loop over `rows * cols` words: no row skips to a stride. -/
theorem semiPlanarRows_eq (cols rows : Nat) (src outCb outCr : Addr) :
    semiPlanarRows mem cols rows src outCb outCr =
      (semiPlanarRow mem (rows * cols) src outCb outCr).1 := by
  induction rows generalizing src outCb outCr with
  | zero => simp [semiPlanarRows, semiPlanarRow]
  | succ rows ih =>
    rw [semiPlanarRows, ih, semiPlanarRow_ptrs, Nat.succ_mul, Nat.add_comm (rows * cols),
      semiPlanarRow_add]

private theorem mem_semiPlanarRow (n : Nat) (src outCb outCr a : Addr) (v : Byte) :
    (a, v) ∈ (semiPlanarRow mem n src outCb outCr).1 ↔
      ∃ k < n, (a, v) ∈ semiPlanarWord mem (src + 4 * k) (outCb + 2 * k) (outCr + 2 * k) := by
  induction n generalizing src outCb outCr with
  | zero => simp [semiPlanarRow]
  | succ n ih =>
    rw [semiPlanarRow, List.mem_append, ih, Nat.exists_lt_succ_left]
    simp only [Nat.cast_zero, mul_zero, add_zero, Nat.cast_succ, mul_add, mul_one, add_assoc,
      add_comm (4 : SizeT), add_comm (2 : SizeT)]

private theorem exists_lt_two_mul_iff {n : Nat} {P : Nat → Prop} :
    (∃ m < 2 * n, P m) ↔ ∃ k < n, P (2 * k) ∨ P (2 * k + 1) := by
  constructor
  · rintro ⟨m, hm, h⟩
    obtain ⟨k, rfl | rfl⟩ := Nat.even_or_odd' m
    exacts [⟨k, by omega, .inl h⟩, ⟨k, by omega, .inr h⟩]
  · rintro ⟨k, hk, h | h⟩
    exacts [⟨_, by omega, h⟩, ⟨_, by omega, h⟩]

private theorem mem_semiPlanarRow_iff (n : Nat) (src outCb outCr a : Addr) (v : Byte) :
    (a, v) ∈ (semiPlanarRow mem n src outCb outCr).1 ↔
      (∃ m < 2 * n, a = outCb + (m : Nat) ∧ v = mem (src + (2 * m : Nat))) ∨
        ∃ m < 2 * n, a = outCr + (m : Nat) ∧ v = mem (src + (2 * m + 1 : Nat)) := by
  rw [mem_semiPlanarRow, exists_lt_two_mul_iff, exists_lt_two_mul_iff]
  simp only [← exists_or, ← and_or_left, or_assoc, semiPlanarWord_eq, List.mem_cons,
    Prod.mk.injEq, List.not_mem_nil, or_false]
  refine exists_congr fun k => and_congr_right fun _ => ?_
  push_cast
  ring_nf

end Loops

def semiPlanarChroma (mem : Mem) (inYVU : Addr) (size odd m : Nat) : Byte :=
  mem (inYVU + (size + 2 * m + odd : Nat))

private theorem loopCount_sshiftRight {x : I32} (h : x.msb = false) (n : Nat) :
    loopCount (x.sshiftRight n) = x.toNat / 2 ^ n := by
  obtain ⟨hval, hmsb⟩ := sshiftRight_toNat h n
  rw [loopCount, BitVec.toInt_eq_msb_cond, hmsb, if_neg Bool.false_ne_true, hval, Int.toNat_ofNat]

private theorem chromaSize_eq {w h : Nat} (hw4 : w % 4 = 0) (hh2 : h % 2 = 0) :
    h / 2 * (w / 2) = w * h / 4 ∧ 2 * (h / 2 * (w / 4)) = w * h / 4 := by
  obtain ⟨q, rfl⟩ : ∃ q, w = 4 * q := ⟨w / 4, by omega⟩
  obtain ⟨r, rfl⟩ : ∃ r, h = 2 * r := ⟨h / 2, by omega⟩
  rw [show 4 * q * (2 * r) = 4 * (r * (2 * q)) by ring, Nat.mul_div_cancel_left _ four_pos,
    show 2 * r / 2 = r by omega, show 4 * q / 2 = 2 * q by omega, show 4 * q / 4 = q by omega]
  constructor <;> ring

/-- The reference de-interleaver: byte `k` of `Y ++ U ++ V` for a semi-planar source `src` with
`size` luma bytes, where `Y = src[0, size)`, `U[m] = src[size + 2m]` and
`V[m] = src[size + 2m + 1]` for `m < size / 4`. -/
def planarFromSemiPlanar (size : Nat) (src : Nat → Byte) (k : Nat) : Byte :=
  if k < size then src k
  else if k < size + size / 4 then src (size + 2 * (k - size))
  else src (size + 2 * (k - size - size / 4) + 1)

/-- The reference planar-to-semi-planar packer: the luma plane, then the Cb and Cr planes of
`planar` interleaved byte by byte, Cb first. -/
def semiPlanarFromPlanar (size : Nat) (planar : Nat → Byte) (k : Nat) : Byte :=
  if k < size then planar k
  else if (k - size) % 2 = 0 then planar (size + (k - size) / 2)
  else planar (size + size / 4 + (k - size) / 2)

private theorem planarFromSemiPlanar_semiPlanarFromPlanar {size : Nat} (h4 : size % 4 = 0)
    {planar src : Nat → Byte}
    (hsrc : ∀ i < size * 3 / 2, src i = semiPlanarFromPlanar size planar i) {k : Nat}
    (hk : k < size * 3 / 2) : planarFromSemiPlanar size src k = planar k := by
  unfold planarFromSemiPlanar
  split_ifs with hy hu
  · rw [hsrc k hk, semiPlanarFromPlanar, if_pos hy]
  · rw [hsrc _ (by omega), semiPlanarFromPlanar, if_neg (by omega), if_pos (by omega)]
    congr 1; omega
  · rw [hsrc _ (by omega), semiPlanarFromPlanar, if_neg (by omega), if_neg (by omega)]
    congr 1; omega

private theorem planarByte_semiPlanarChroma (mem : Mem) (inYVU : Addr) {w h : Nat}
    (hq : h / 2 * (w / 2) = w * h / 4) (k : Nat) :
    planarByte w h (fun j i => mem (inYVU + (j * w + i : Nat)))
        (fun r c => semiPlanarChroma mem inYVU (w * h) 0 (r * (w / 2) + c))
        (fun r c => semiPlanarChroma mem inYVU (w * h) 1 (r * (w / 2) + c)) k =
      planarFromSemiPlanar (w * h) (fun i => mem (inYVU + (i : Nat))) k := by
  simp only [planarByte, planarFromSemiPlanar, semiPlanarChroma, hq, Nat.div_add_mod', add_zero]

section Conversion

variable (mem : Mem) (inYVU outYUV : Addr) {width height : I32} (hw : width.msb = false)
  (hh : height.msb = false) (hsize : width.toNat * height.toNat < 2 ^ 31)
include hw hh hsize

private theorem mem_convertYUV420SemiPlanarToYUV420Planar (a : Addr) (v : Byte) :
    (a, v) ∈ convertYUV420SemiPlanarToYUV420Planar mem inYVU outYUV width height ↔
      PlaneStore outYUV 0 (width.toNat * height.toNat) (fun k => mem (inYVU + (k : Nat))) a v ∨
        PlaneStore outYUV (width.toNat * height.toNat)
          (2 * (height.toNat / 2 * (width.toNat / 4)))
          (semiPlanarChroma mem inYVU (width.toNat * height.toNat) 0) a v ∨
        PlaneStore outYUV (width.toNat * height.toNat + width.toNat * height.toNat / 4)
          (2 * (height.toNat / 2 * (width.toNat / 4)))
          (semiPlanarChroma mem inYVU (width.toNat * height.toNat) 1) a v := by
  have hprod : (width * height).toNat = width.toNat * height.toNat := by
    rw [BitVec.toNat_mul, Nat.mod_eq_of_lt (by omega)]
  have hmsb := msb_eq_false_of_toNat_lt (hprod ▸ hsize)
  have hsz : int32ToSizeT (width * height) = ((width.toNat * height.toNat : Nat) : SizeT) := by
    rw [← hprod, ← int32ToSizeT_toNat_of_msb_false hmsb, natCast_toNat]
  have hquarter : int32ToSizeT ((width * height).sshiftRight 2) =
      ((width.toNat * height.toNat / 4 : Nat) : SizeT) := by
    rw [← natCast_toNat (int32ToSizeT _), int32ToSizeT_sshiftRight_toNat hmsb, hprod]
    rfl
  rw [convertYUV420SemiPlanarToYUV420Planar, List.mem_append, hsz, hquarter,
    toNat_natCast_of_lt (by omega), mem_memcpy, semiPlanarRows_eq, mem_semiPlanarRow_iff,
    loopCount_sshiftRight hw, loopCount_sshiftRight hh]
  simp only [PlaneStore, semiPlanarChroma, Nat.cast_add, Nat.cast_zero, zero_add, add_zero,
    add_assoc, pow_one, show 2 ^ 2 = 4 from rfl]

theorem convertYUV420SemiPlanarToYUV420Planar_planarFrame (hw4 : width.toNat % 4 = 0)
    (hh2 : height.toNat % 2 = 0) (old : Mem) :
    PlanarFrame outYUV width.toNat height.toNat width.toNat height.toNat
      (fun j i => mem (inYVU + (j * width.toNat + i : Nat)))
      (fun r c => semiPlanarChroma mem inYVU (width.toNat * height.toNat) 0
        (r * (width.toNat / 2) + c))
      (fun r c => semiPlanarChroma mem inYVU (width.toNat * height.toNat) 1
        (r * (width.toNat / 2) + c))
      old
      (applyStores old (convertYUV420SemiPlanarToYUV420Planar mem inYVU outYUV width height)) := by
  obtain ⟨hq, hcb⟩ := chromaSize_eq hw4 hh2
  refine planarFrame_applyStores outYUV _ _ _ le_rfl le_rfl (by omega) (fun a v => ?_) old
  rw [mem_convertYUV420SemiPlanarToYUV420Planar mem inYVU outYUV hw hh hsize, hcb, ← hq]
  exact (planarStore_packed outYUV _ _ (fun k => mem (inYVU + (k : Nat))) _ _ a v).symm

private theorem applyStores_convertYUV420SemiPlanarToYUV420Planar (hw4 : width.toNat % 4 = 0)
    (hh2 : height.toNat % 2 = 0) (old : Mem) {k : Nat}
    (hk : k < width.toNat * height.toNat * 3 / 2) :
    applyStores old (convertYUV420SemiPlanarToYUV420Planar mem inYVU outYUV width height)
        (outYUV + (k : Nat)) =
      planarFromSemiPlanar (width.toNat * height.toNat) (fun i => mem (inYVU + (i : Nat))) k := by
  have hq := (chromaSize_eq hw4 hh2).1
  have h4 : width.toNat * height.toNat % 4 = 0 := by simp [Nat.mul_mod, hw4]
  rw [(convertYUV420SemiPlanarToYUV420Planar_planarFrame mem inYVU outYUV hw hh hsize hw4 hh2
    old).eq_planarByte (by omega), planarByte_semiPlanarChroma mem inYVU hq]

/-- For a non-negative width divisible by 4 and a non-negative even height whose product fits
`int32_t`, the conversion stores only into the `width * height * 3 / 2` bytes of the destination,
leaves there `Y ++ U ++ V` of the semi-planar source, and so undoes the reference packer. -/
theorem convertYUV420SemiPlanarToYUV420Planar_deinterleaves (hw4 : width.toNat % 4 = 0)
    (hh2 : height.toNat % 2 = 0) :
    (∀ a v, (a, v) ∈ convertYUV420SemiPlanarToYUV420Planar mem inYVU outYUV width height →
        ∃ k < width.toNat * height.toNat * 3 / 2, a = outYUV + (k : Nat)) ∧
      (∀ old, ∀ k < width.toNat * height.toNat * 3 / 2,
        applyStores old (convertYUV420SemiPlanarToYUV420Planar mem inYVU outYUV width height)
            (outYUV + (k : Nat)) =
          planarFromSemiPlanar (width.toNat * height.toNat)
            (fun i => mem (inYVU + (i : Nat))) k) ∧
      ∀ planar : Nat → Byte, (∀ i < width.toNat * height.toNat * 3 / 2,
          mem (inYVU + (i : Nat)) = semiPlanarFromPlanar (width.toNat * height.toNat) planar i) →
        ∀ old, ∀ k < width.toNat * height.toNat * 3 / 2,
          applyStores old (convertYUV420SemiPlanarToYUV420Planar mem inYVU outYUV width height)
            (outYUV + (k : Nat)) = planar k := by
  have hcb := (chromaSize_eq hw4 hh2).2
  have h4 : width.toNat * height.toNat % 4 = 0 := by simp [Nat.mul_mod, hw4]
  refine ⟨fun a v hav => ?_, fun old k hk => ?_, fun planar hin old k hk => ?_⟩
  · rcases (mem_convertYUV420SemiPlanarToYUV420Planar mem inYVU outYUV hw hh hsize a v).mp hav with
      ⟨k, hk, rfl, -⟩ | ⟨k, hk, rfl, -⟩ | ⟨k, hk, rfl, -⟩
    exacts [⟨_, by omega, rfl⟩, ⟨_, by omega, rfl⟩, ⟨_, by omega, rfl⟩]
  · exact applyStores_convertYUV420SemiPlanarToYUV420Planar mem inYVU outYUV hw hh hsize hw4 hh2
      old hk
  · rw [applyStores_convertYUV420SemiPlanarToYUV420Planar mem inYVU outYUV hw hh hsize hw4 hh2
      old hk]
    exact planarFromSemiPlanar_semiPlanarFromPlanar h4 hin hk

end Conversion

theorem convertYUV420SemiPlanarToYUV420Planar_deinterleaves_qcif :
    (176 : I32).msb = false ∧ (144 : I32).msb = false ∧
      (176 : I32).toNat * (144 : I32).toNat < 2 ^ 31 ∧ (176 : I32).toNat % 4 = 0 ∧
      (144 : I32).toNat % 2 = 0 ∧
      (∀ a v,
          (a, v) ∈ convertYUV420SemiPlanarToYUV420Planar addressByte 0x200000 0x100000 176 144 →
          ∃ k < (176 : I32).toNat * (144 : I32).toNat * 3 / 2, a = 0x100000 + (k : Nat)) ∧
        (∀ old, ∀ k < (176 : I32).toNat * (144 : I32).toNat * 3 / 2,
          applyStores old
              (convertYUV420SemiPlanarToYUV420Planar addressByte 0x200000 0x100000 176 144)
              (0x100000 + (k : Nat)) =
            planarFromSemiPlanar ((176 : I32).toNat * (144 : I32).toNat)
              (fun i => addressByte (0x200000 + (i : Nat))) k) ∧
        ∀ planar : Nat → Byte, (∀ i < (176 : I32).toNat * (144 : I32).toNat * 3 / 2,
            addressByte (0x200000 + (i : Nat)) =
              semiPlanarFromPlanar ((176 : I32).toNat * (144 : I32).toNat) planar i) →
          ∀ old, ∀ k < (176 : I32).toNat * (144 : I32).toNat * 3 / 2,
            applyStores old
                (convertYUV420SemiPlanarToYUV420Planar addressByte 0x200000 0x100000 176 144)
                (0x100000 + (k : Nat)) = planar k :=
  ⟨by decide, by decide, by decide, by decide, by decide,
    convertYUV420SemiPlanarToYUV420Planar_deinterleaves addressByte 0x200000 0x100000 (by decide)
      (by decide) (by decide) (by decide) (by decide)⟩

theorem negativeHeight_writesOutsideFrame :
    (4 : I32).toInt % 4 = 0 ∧ (-2 : I32).toInt % 2 = 0 ∧
      (4 : I32).toInt * (-2 : I32).toInt = -8 ∧
      ∀ k < 2 ^ 64 - 8, ((0x100000 : Addr) + (k : Nat), addressByte (0x200000 + (k : Nat))) ∈
        convertYUV420SemiPlanarToYUV420Planar addressByte 0x200000 0x100000 4 (-2) := by
  refine ⟨by decide, by decide, by decide, fun k hk => List.mem_append_left _ ?_⟩
  rw [mem_memcpy]
  exact ⟨k, lt_of_lt_of_eq hk (by decide), rfl, rfl⟩

end SoftVideoEncoder
