import Mathlib.Data.BitVec
import Mathlib.Tactic.Ring

/-!
# Machine words of the component

`SoftVideoEncoderOMXComponent` mixes `int32_t` geometry, `OMX_U32` port fields, `unsigned` pixel
arithmetic and `size_t` buffer arithmetic. Each is a word of its own width here; signed
operations (`/`, `>>`, widening) are the explicit two's-complement ones C performs, so a wrap in
the source is a wrap in the model.
-/

namespace SoftVideoEncoder

/-- `uint8_t`. -/
abbrev Byte := BitVec 8
/-- `OMX_U32`, `uint32_t` and `unsigned`. -/
abbrev U32 := BitVec 32
/-- `int32_t`, `int` and `OMX_S32`, as their two's-complement bits. -/
abbrev I32 := BitVec 32
/-- `size_t` and pointer arithmetic on a 64-bit target. -/
abbrev SizeT := BitVec 64

/-- The `max` of `AUtils.h`: `a > b ? a : b`. -/
def wordMax (a b : BitVec n) : BitVec n := if b < a then a else b

/-- Converting an `int32_t` to `size_t`: sign extension. -/
def int32ToSizeT (x : I32) : SizeT := x.signExtend 64

/-- Converting a `size_t` to `int32_t`: the low 32 bits. -/
def sizeTToInt32 (x : SizeT) : I32 := x.setWidth 32

theorem toNat_wordMax (a b : BitVec n) : (wordMax a b).toNat = max a.toNat b.toNat := by
  unfold wordMax
  split <;> rename_i h <;> rw [BitVec.lt_def] at h <;> omega

theorem int32ToSizeT_toNat_of_msb_false {x : I32} (h : x.msb = false) :
    (int32ToSizeT x).toNat = x.toNat := by
  have hlt := BitVec.msb_eq_false_iff_two_mul_lt.mp h
  rw [int32ToSizeT, BitVec.signExtend, BitVec.toNat_ofInt, BitVec.toInt_eq_msb_cond, h]
  simp only [Bool.false_eq_true, ↓reduceIte]
  omega

theorem msb_eq_false_of_toNat_lt {x : BitVec 32} (h : x.toNat < 2 ^ 31) : x.msb = false :=
  BitVec.msb_eq_false_iff_two_mul_lt.mpr (by omega)

theorem sdiv_two_of_msb_false {x : I32} (h : x.msb = false) : x.sdiv 2 = x.udiv 2 := by
  have h2 : BitVec.msb (2 : I32) = false := by decide
  rw [BitVec.sdiv_eq, h, h2]

theorem int32ToSizeT_sdiv_two_toNat {x : I32} (h : x.toNat < 2 ^ 31) :
    (int32ToSizeT (x.sdiv 2)).toNat = x.toNat / 2 := by
  rw [sdiv_two_of_msb_false (msb_eq_false_of_toNat_lt h), int32ToSizeT_toNat_of_msb_false]
  · rw [BitVec.udiv_eq, BitVec.toNat_udiv]
    rfl
  · apply msb_eq_false_of_toNat_lt
    rw [BitVec.udiv_eq, BitVec.toNat_udiv]
    exact lt_of_le_of_lt (Nat.div_le_self _ _) h

theorem toNat_natCast_of_lt {n : Nat} (h : n < 2 ^ w) : ((n : BitVec w)).toNat = n := by
  change (BitVec.ofNat w n).toNat = n
  rw [BitVec.toNat_ofNat, Nat.mod_eq_of_lt h]

@[simp] theorem natCast_toNat (x : BitVec w) : ((x.toNat : Nat) : BitVec w) = x := by
  change BitVec.ofNat w x.toNat = x
  exact BitVec.ofNat_toNat w x |>.trans (BitVec.setWidth_eq x)

theorem natCast_inj_of_lt {m n : Nat} (hm : m < 2 ^ w) (hn : n < 2 ^ w)
    (h : (m : BitVec w) = n) : m = n := by
  rw [← toNat_natCast_of_lt hm, ← toNat_natCast_of_lt hn, h]

theorem ushiftRight_one_eq_natCast (x : BitVec w) : x >>> 1 = ((x.toNat / 2 : Nat) : BitVec w) := by
  rw [← natCast_toNat (x >>> 1), BitVec.toNat_ushiftRight, Nat.shiftRight_eq_div_pow, pow_one]

theorem natCast_ushiftRight_one {n : Nat} (h : n < 2 ^ w) :
    (n : BitVec w) >>> 1 = ((n / 2 : Nat) : BitVec w) := by
  rw [ushiftRight_one_eq_natCast, toNat_natCast_of_lt h]

theorem sshiftRight_toNat {x : I32} (h : x.msb = false) (n : Nat) :
    (x.sshiftRight n).toNat = x.toNat / 2 ^ n ∧ (x.sshiftRight n).msb = false := by
  rw [BitVec.sshiftRight_eq_of_msb_false h, BitVec.toNat_ushiftRight, Nat.shiftRight_eq_div_pow,
    BitVec.msb_ushiftRight, h, Bool.and_false]
  exact ⟨rfl, rfl⟩

theorem int32ToSizeT_sshiftRight_toNat {x : I32} (h : x.msb = false) (n : Nat) :
    (int32ToSizeT (x.sshiftRight n)).toNat = x.toNat / 2 ^ n := by
  obtain ⟨hval, hmsb⟩ := sshiftRight_toNat h n
  rw [int32ToSizeT_toNat_of_msb_false hmsb, hval]

theorem sizeTToInt32_toNat_of_lt {x : SizeT} (h : x.toNat < 2 ^ 31) :
    (sizeTToInt32 x).toNat = x.toNat := by
  rw [sizeTToInt32, BitVec.toNat_setWidth]
  omega

theorem natCast_and_one_eq_zero (n : Nat) : ((n : SizeT) &&& 1 = 0) ↔ n % 2 = 0 := by
  rw [BitVec.toNat_eq, BitVec.toNat_and]
  change (BitVec.ofNat 64 n).toNat &&& 1 = 0 ↔ _
  rw [Nat.and_one_is_mod, BitVec.toNat_ofNat]
  omega

end SoftVideoEncoder
