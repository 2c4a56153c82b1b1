import SoftVideoEncoder.Convert.Planar

/-!
# `ConvertRGB32ToPlanar`

The loop reads four bytes per pixel and computes the BT.601 luma and chroma in `unsigned`
arithmetic: `-red * 38` wraps, the `>> 8` is logical, and the store truncates to `uint8_t`. Over
bytes every result lies in `[16, 240]`, and the wraps cancel: each stored byte is the integer
formula with a floor division (`Rgb.luma_byte`, `Rgb.u_byte`, `Rgb.v_byte`).

Luma is stored at every pixel, chroma at the even pixels of even rows; the chroma row pointers
advance after even rows only, and the source pointer moves `4*width` along a row and then
`srcStride - 4*width`, one source row in all. `mem_convertRGB32ToPlanar` says where every store
lands and what it holds.
-/

namespace SoftVideoEncoder

/-- `SURFACE_IS_BGR32`, which would swap the channel order: no build of these sources defines
it. -/
def surfaceIsBgr32 : Bool := false

def redOffset (bgr : Bool) : SizeT := if bgr then 2 else 0

def greenOffset : SizeT := 1

def blueOffset (bgr : Bool) : SizeT := if bgr then 0 else 2

structure Rgb where
  red : U32
  green : U32
  blue : U32

/-- `src[redOffset]`, `src[greenOffset]`, `src[blueOffset]`. -/
def readPixel (mem : Mem) (bgr : Bool) (src : Addr) : Rgb :=
  ⟨(mem (src + redOffset bgr)).setWidth 32, (mem (src + greenOffset)).setWidth 32,
    (mem (src + blueOffset bgr)).setWidth 32⟩

def Rgb.luma (p : Rgb) : U32 := ((p.red * 65 + p.green * 129 + p.blue * 25 + 128) >>> 8) + 16

def Rgb.u (p : Rgb) : U32 := ((-p.red * 38 - p.green * 74 + p.blue * 112 + 128) >>> 8) + 128

def Rgb.v (p : Rgb) : U32 := ((p.red * 112 - p.green * 94 - p.blue * 18 + 128) >>> 8) + 128

def rgbPixelStores (mem : Mem) (bgr : Bool) (y : SizeT) (dstY dstU dstV : Addr) (x : SizeT)
    (src : Addr) : List Store :=
  let p := readPixel mem bgr src
  (dstY + x, p.luma.setWidth 8) ::
    if x &&& 1 = 0 ∧ y &&& 1 = 0 then
      [(dstU + (x >>> 1), p.u.setWidth 8), (dstV + (x >>> 1), p.v.setWidth 8)]
    else []

def rgbRowPixels (mem : Mem) (bgr : Bool) (y : SizeT) (dstY dstU dstV : Addr) :
    (x : SizeT) → Nat → Addr → List Store × Addr
  | _, 0, src => ([], src)
  | x, n + 1, src =>
    let rest := rgbRowPixels mem bgr y dstY dstU dstV (x + 1) n (src + 4)
    (rgbPixelStores mem bgr y dstY dstU dstV x src ++ rest.1, rest.2)

/-- The outer loop over `y`. -/
def rgbRows (mem : Mem) (bgr : Bool) (dstStride srcStride width : SizeT) :
    (y : SizeT) → Nat → (src dstY dstU dstV : Addr) → List Store
  | _, 0, _, _, _, _ => []
  | y, n + 1, src, dstY, dstU, dstV =>
    let row := rgbRowPixels mem bgr y dstY dstU dstV 0 width.toNat src
    row.1 ++ rgbRows mem bgr dstStride srcStride width (y + 1) n
      (row.2 + (srcStride - 4 * width)) (dstY + dstStride)
      (if y &&& 1 = 0 then dstU + (dstStride >>> 1) else dstU)
      (if y &&& 1 = 0 then dstV + (dstStride >>> 1) else dstV)

/-- `ConvertRGB32ToPlanar`: `none` when a `CHECK` on the parity of the picture aborts. -/
def convertRGB32ToPlanar (mem : Mem) (dstY : Addr) (dstStride dstVStride : SizeT) (src : Addr)
    (width height srcStride : SizeT) (bgr : Bool) : Option (List Store) :=
  if width &&& 1 = 0 ∧ height &&& 1 = 0 then
    let dstU := dstY + dstStride * dstVStride
    let dstV := dstU + (dstStride >>> 1) * (dstVStride >>> 1)
    let bgr := if surfaceIsBgr32 then !bgr else bgr
    some (rgbRows mem bgr dstStride srcStride width 0 height.toNat src dstY dstU dstV)
  else none

section Loops

variable (mem : Mem) (bgr : Bool)

private theorem mem_rgbPixelStores (y : SizeT) (dstY dstU dstV x src a : Addr) (v : Byte) :
    (a, v) ∈ rgbPixelStores mem bgr y dstY dstU dstV x src ↔
      (a = dstY + x ∧ v = (readPixel mem bgr src).luma.setWidth 8) ∨
        (x &&& 1 = 0 ∧ y &&& 1 = 0) ∧
          ((a = dstU + (x >>> 1) ∧ v = (readPixel mem bgr src).u.setWidth 8) ∨
            (a = dstV + (x >>> 1) ∧ v = (readPixel mem bgr src).v.setWidth 8)) := by
  simp only [rgbPixelStores, List.mem_cons, List.mem_ite_nil_right, Prod.mk.injEq,
    List.mem_singleton, List.not_mem_nil, or_false]

private theorem rgbRowPixels_src (y : SizeT) (dstY dstU dstV x : Addr) (n : Nat) (src : Addr) :
    (rgbRowPixels mem bgr y dstY dstU dstV x n src).2 = src + 4 * n := by
  induction n generalizing x src with
  | zero => simp [rgbRowPixels]
  | succ n ih =>
    rw [rgbRowPixels, ih]
    push_cast
    ring

private theorem mem_rgbRowPixels (y : SizeT) (dstY dstU dstV x : Addr) (n : Nat) (src : Addr) (a : Addr)
    (v : Byte) :
    (a, v) ∈ (rgbRowPixels mem bgr y dstY dstU dstV x n src).1 ↔
      ∃ k < n, (a, v) ∈ rgbPixelStores mem bgr y dstY dstU dstV (x + k) (src + 4 * k) := by
  induction n generalizing x src with
  | zero => simp [rgbRowPixels]
  | succ n ih =>
    rw [rgbRowPixels, List.mem_append, ih, Nat.exists_lt_succ_left]
    simp only [Nat.cast_zero, add_zero, mul_zero, Nat.cast_succ, mul_add, mul_one, add_assoc,
      add_comm (1 : SizeT), add_comm (4 : SizeT)]

def evenRowsBefore (y0 j : Nat) : Nat := (y0 + j + 1) / 2 - (y0 + 1) / 2

private theorem mem_rgbRows (dstStride srcStride width : SizeT) (y0 n : Nat) (src dstY dstU dstV a : Addr)
    (v : Byte) :
    (a, v) ∈ rgbRows mem bgr dstStride srcStride width y0 n src dstY dstU dstV ↔
      ∃ j < n, (a, v) ∈ (rgbRowPixels mem bgr (y0 + j : Nat) (dstY + j * dstStride)
        (dstU + evenRowsBefore y0 j * (dstStride >>> 1))
        (dstV + evenRowsBefore y0 j * (dstStride >>> 1)) 0 width.toNat
        (src + j * srcStride)).1 := by
  induction n generalizing y0 src dstY dstU dstV with
  | zero => simp [rgbRows]
  | succ n ih =>
    rw [rgbRows, List.mem_append, ← Nat.cast_succ, ih, Nat.exists_lt_succ_left,
      rgbRowPixels_src, natCast_toNat]
    have h0 : evenRowsBefore y0 0 = 0 := by unfold evenRowsBefore; omega
    simp only [Nat.cast_zero, add_zero, mul_zero, zero_mul, h0, natCast_and_one_eq_zero,
      Nat.succ_eq_add_one]
    refine or_congr Iff.rfl (exists_congr fun k => and_congr_right fun _ => ?_)
    have hsrc : src + 4 * width + (srcStride - 4 * width) + k * srcStride =
        src + ((k + 1 : Nat) : SizeT) * srcStride := by push_cast; ring
    have hdst : dstY + dstStride + k * dstStride = dstY + ((k + 1 : Nat) : SizeT) * dstStride := by
      push_cast; ring
    rw [hsrc, hdst, show y0 + 1 + k = y0 + (k + 1) by omega]
    split_ifs with hy
    · have he : evenRowsBefore y0 (k + 1) = evenRowsBefore (y0 + 1) k + 1 := by
        unfold evenRowsBefore; omega
      have hrow (p : Addr) : p + (dstStride >>> 1) + evenRowsBefore (y0 + 1) k * (dstStride >>> 1) =
          p + ((evenRowsBefore (y0 + 1) k + 1 : Nat) : SizeT) * (dstStride >>> 1) := by
        push_cast; ring
      rw [he, hrow, hrow]
    · have he : evenRowsBefore y0 (k + 1) = evenRowsBefore (y0 + 1) k := by
        unfold evenRowsBefore; omega
      rw [he]

end Loops

def bt601Luma (red green blue : Int) : Int := (65 * red + 129 * green + 25 * blue + 128) / 256 + 16

def bt601U (red green blue : Int) : Int := (-38 * red - 74 * green + 112 * blue + 128) / 256 + 128

def bt601V (red green blue : Int) : Int := (112 * red - 94 * green - 18 * blue + 128) / 256 + 128

private theorem setWidth_eq_intCast (x : Byte) : x.setWidth 32 = ((x.toNat : Int) : U32) := by
  apply BitVec.eq_of_toNat_eq
  have := x.isLt
  simp only [BitVec.toNat_setWidth, Int.cast_natCast]
  simp [BitVec.toNat_ofNat]

private theorem fixedPoint_byte (s : Int) (off : Nat) (lo : -2 ^ 31 ≤ s) (hi : s < 2 ^ 31)
    (hr : 0 ≤ s / 256 + off) (hr2 : s / 256 + off < 256) :
    (((((s : U32) >>> 8) + BitVec.ofNat 32 off).setWidth 8).toNat : Int) = s / 256 + off := by
  simp only [BitVec.toNat_setWidth, BitVec.toNat_add, BitVec.toNat_ushiftRight,
    BitVec.toNat_ofNat, Nat.shiftRight_eq_div_pow]
  change (((((BitVec.ofInt 32 s).toNat / 2 ^ 8 + off % 2 ^ 32) % 2 ^ 32) % 2 ^ 8 : Nat) : Int) = _
  rw [BitVec.toNat_ofInt]
  omega

section Bytes

variable (r g b : Byte)

def Rgb.ofBytes : Rgb := ⟨r.setWidth 32, g.setWidth 32, b.setWidth 32⟩

theorem Rgb.luma_byte :
    (((Rgb.ofBytes r g b).luma.setWidth 8).toNat : Int) = bt601Luma r.toNat g.toNat b.toNat ∧
      16 ≤ bt601Luma r.toNat g.toNat b.toNat ∧ bt601Luma r.toNat g.toNat b.toNat ≤ 240 := by
  have hr := r.isLt; have hg := g.isLt; have hb := b.isLt
  have hsum : (r.setWidth 32 * 65 + g.setWidth 32 * 129 + b.setWidth 32 * 25 + 128 : U32) =
      ((65 * (r.toNat : Int) + 129 * g.toNat + 25 * b.toNat + 128 : Int) : U32) := by
    rw [setWidth_eq_intCast, setWidth_eq_intCast, setWidth_eq_intCast]; push_cast; ring
  simp only [Rgb.ofBytes, Rgb.luma, bt601Luma, hsum]
  exact ⟨fixedPoint_byte _ 16 (by omega) (by omega) (by omega) (by omega), by omega, by omega⟩

theorem Rgb.u_byte :
    (((Rgb.ofBytes r g b).u.setWidth 8).toNat : Int) = bt601U r.toNat g.toNat b.toNat ∧
      16 ≤ bt601U r.toNat g.toNat b.toNat ∧ bt601U r.toNat g.toNat b.toNat ≤ 240 := by
  have hr := r.isLt; have hg := g.isLt; have hb := b.isLt
  -- the negative coefficient is kept out of the cast, where it would become a 32-bit literal
  have hsum : (-r.setWidth 32 * 38 - g.setWidth 32 * 74 + b.setWidth 32 * 112 + 128 : U32) =
      ((112 * (b.toNat : Int) + 128 - 38 * r.toNat - 74 * g.toNat : Int) : U32) := by
    rw [setWidth_eq_intCast, setWidth_eq_intCast, setWidth_eq_intCast]; push_cast; ring
  have hint : (-38 * (r.toNat : Int) - 74 * g.toNat + 112 * b.toNat + 128) =
      112 * b.toNat + 128 - 38 * r.toNat - 74 * g.toNat := by ring
  simp only [Rgb.ofBytes, Rgb.u, bt601U, hsum, hint]
  exact ⟨fixedPoint_byte _ 128 (by omega) (by omega) (by omega) (by omega), by omega, by omega⟩

theorem Rgb.v_byte :
    (((Rgb.ofBytes r g b).v.setWidth 8).toNat : Int) = bt601V r.toNat g.toNat b.toNat ∧
      16 ≤ bt601V r.toNat g.toNat b.toNat ∧ bt601V r.toNat g.toNat b.toNat ≤ 240 := by
  have hr := r.isLt; have hg := g.isLt; have hb := b.isLt
  have hsum : (r.setWidth 32 * 112 - g.setWidth 32 * 94 - b.setWidth 32 * 18 + 128 : U32) =
      ((112 * (r.toNat : Int) - 94 * g.toNat - 18 * b.toNat + 128 : Int) : U32) := by
    rw [setWidth_eq_intCast, setWidth_eq_intCast, setWidth_eq_intCast]; push_cast; ring
  simp only [Rgb.ofBytes, Rgb.v, bt601V, hsum]
  exact ⟨fixedPoint_byte _ 128 (by omega) (by omega) (by omega) (by omega), by omega, by omega⟩

end Bytes

private theorem readPixel_eq_ofBytes (mem : Mem) (bgr : Bool) (src : Addr) :
    readPixel mem bgr src =
      Rgb.ofBytes (mem (src + redOffset bgr)) (mem (src + greenOffset)) (mem (src + blueOffset bgr)) :=
  rfl

theorem readPixel_luma_toNat (mem : Mem) (bgr : Bool) (src : Addr) :
    (((readPixel mem bgr src).luma.setWidth 8).toNat : Int) = bt601Luma (mem (src + redOffset bgr)).toNat
      (mem (src + greenOffset)).toNat (mem (src + blueOffset bgr)).toNat :=
  (Rgb.luma_byte _ _ _).1

private theorem rgbPixelStores_range {mem : Mem} {bgr : Bool} {y : SizeT} {dstY dstU dstV x src a : Addr}
    {v : Byte} (h : (a, v) ∈ rgbPixelStores mem bgr y dstY dstU dstV x src) :
    16 ≤ v.toNat ∧ v.toNat ≤ 240 := by
  rw [mem_rgbPixelStores, readPixel_eq_ofBytes] at h
  generalize mem (src + redOffset bgr) = r, mem (src + greenOffset) = g,
    mem (src + blueOffset bgr) = b at h
  have := Rgb.luma_byte r g b
  have := Rgb.u_byte r g b
  have := Rgb.v_byte r g b
  rcases h with ⟨-, rfl⟩ | ⟨-, ⟨-, rfl⟩ | ⟨-, rfl⟩⟩ <;> omega

def pixelChannel (mem : Mem) (src : Addr) (srcStride : SizeT) (y x : Nat) (o : SizeT) : Int :=
  (mem (src + y * srcStride + 4 * x + o)).toNat

def atPixel (f : Int → Int → Int → Int) (mem : Mem) (src : Addr) (srcStride : SizeT) (bgr : Bool)
    (y x : Nat) : Int :=
  f (pixelChannel mem src srcStride y x (redOffset bgr))
    (pixelChannel mem src srcStride y x greenOffset)
    (pixelChannel mem src srcStride y x (blueOffset bgr))

/-- The stores of the documented conversion into the planar frame at `dstY`: the luma of every
pixel, and the chroma of the top-left pixel of every 2x2 block, each the integer formula. -/
def Bt601Store (mem : Mem) (src : Addr) (srcStride : SizeT) (bgr : Bool) (dstY : Addr)
    (stride vstride width height : Nat) (a : Addr) (v : Byte) : Prop :=
  (∃ y < height, ∃ x < width, a = dstY + lumaOffset stride y x ∧
      (v.toNat : Int) = atPixel bt601Luma mem src srcStride bgr y x) ∨
    ∃ r < height / 2, ∃ c < width / 2,
      (a = dstY + cbOffset stride vstride r c ∧
          (v.toNat : Int) = atPixel bt601U mem src srcStride bgr (2 * r) (2 * c)) ∨
        (a = dstY + crOffset stride vstride r c ∧
          (v.toNat : Int) = atPixel bt601V mem src srcStride bgr (2 * r) (2 * c))

/-- A BT.601 formula at a pixel, as the byte the documented frame holds. -/
def bt601Byte (f : Int → Int → Int → Int) (mem : Mem) (src : Addr) (srcStride : SizeT) (bgr : Bool)
    (y x : Nat) : Byte :=
  BitVec.ofInt 8 (atPixel f mem src srcStride bgr y x)

private theorem eq_ofInt_iff {v : Byte} {z : Int} (h0 : 0 ≤ z) (h1 : z < 256) :
    v = BitVec.ofInt 8 z ↔ (v.toNat : Int) = z := by
  constructor
  · rintro rfl
    rw [BitVec.toNat_ofInt]
    omega
  · intro h
    apply BitVec.eq_of_toNat_eq
    rw [BitVec.toNat_ofInt]
    omega

private theorem eq_bt601Byte_iff {f : Int → Int → Int → Int}
    (hf : ∀ r g b : Byte, 16 ≤ f r.toNat g.toNat b.toNat ∧ f r.toNat g.toNat b.toNat ≤ 240)
    (mem : Mem) (src : Addr) (srcStride : SizeT) (bgr : Bool) (y x : Nat) (v : Byte) :
    v = bt601Byte f mem src srcStride bgr y x ↔
      (v.toNat : Int) = atPixel f mem src srcStride bgr y x := by
  have h : 16 ≤ atPixel f mem src srcStride bgr y x ∧ atPixel f mem src srcStride bgr y x ≤ 240 :=
    hf _ _ _
  exact eq_ofInt_iff (by omega) (by omega)

private theorem bt601Store_iff_planarStore (mem : Mem) (src : Addr) (srcStride : SizeT) (bgr : Bool)
    (dstY : Addr) (stride vstride width height : Nat) (a : Addr) (v : Byte) :
    Bt601Store mem src srcStride bgr dstY stride vstride width height a v ↔
      PlanarStore dstY stride vstride width height (bt601Byte bt601Luma mem src srcStride bgr)
        (fun r c => bt601Byte bt601U mem src srcStride bgr (2 * r) (2 * c))
        (fun r c => bt601Byte bt601V mem src srcStride bgr (2 * r) (2 * c)) a v := by
  simp only [Bt601Store, PlanarStore, eq_bt601Byte_iff fun r g b => (Rgb.luma_byte r g b).2,
    eq_bt601Byte_iff fun r g b => (Rgb.u_byte r g b).2,
    eq_bt601Byte_iff fun r g b => (Rgb.v_byte r g b).2]

theorem Bt601Store.offset {mem : Mem} {src : Addr} {srcStride : SizeT} {bgr : Bool} {dstY : Addr}
    {stride vstride width height : Nat} {a : Addr} {v : Byte}
    (h : Bt601Store mem src srcStride bgr dstY stride vstride width height a v) :
    ∃ k, PlanarOffset stride vstride width height k ∧ a = dstY + k := by
  rcases h with ⟨j, hj, i, hi, rfl, -⟩ | ⟨r, hr, c, hc, ⟨rfl, -⟩ | ⟨rfl, -⟩⟩
  exacts [⟨_, .inl ⟨j, hj, i, hi, rfl⟩, rfl⟩, ⟨_, .inr ⟨r, hr, c, hc, .inl rfl⟩, rfl⟩,
    ⟨_, .inr ⟨r, hr, c, hc, .inr rfl⟩, rfl⟩]

section Conversion

variable (mem : Mem) (dstY : Addr) (dstStride dstVStride : SizeT) (src : Addr)
  (width height srcStride : SizeT) (bgr : Bool)

theorem convertRGB32ToPlanar_eq_some (hw : width.toNat % 2 = 0) (hh : height.toNat % 2 = 0) :
    convertRGB32ToPlanar mem dstY dstStride dstVStride src width height srcStride bgr =
      some (rgbRows mem bgr dstStride srcStride width 0 height.toNat src dstY
        (dstY + dstStride * dstVStride)
        (dstY + dstStride * dstVStride + (dstStride >>> 1) * (dstVStride >>> 1))) := by
  have hw' := (natCast_and_one_eq_zero _).mpr hw
  have hh' := (natCast_and_one_eq_zero _).mpr hh
  rw [natCast_toNat] at hw' hh'
  rw [convertRGB32ToPlanar, if_pos ⟨hw', hh'⟩]
  simp [surfaceIsBgr32]

theorem even_of_convertRGB32ToPlanar_eq_some {stores : List Store}
    (h : convertRGB32ToPlanar mem dstY dstStride dstVStride src width height srcStride bgr =
      some stores) :
    width.toNat % 2 = 0 ∧ height.toNat % 2 = 0 := by
  rw [convertRGB32ToPlanar] at h
  split at h
  · rename_i heven
    rwa [← natCast_toNat width, ← natCast_toNat height, natCast_and_one_eq_zero,
      natCast_and_one_eq_zero] at heven
  · cases h

theorem mem_rgbRows_zero (a : Addr) (v : Byte) :
    (a, v) ∈ rgbRows mem bgr dstStride srcStride width 0 height.toNat src dstY
        (dstY + dstStride * dstVStride)
        (dstY + dstStride * dstVStride + (dstStride >>> 1) * (dstVStride >>> 1)) ↔
      ∃ j < height.toNat, ∃ k < width.toNat,
        (a = dstY + j * dstStride + k ∧
            v = (readPixel mem bgr (src + j * srcStride + 4 * k)).luma.setWidth 8) ∨
          (k % 2 = 0 ∧ j % 2 = 0) ∧
            ((a = dstY + dstStride * dstVStride + ((j + 1) / 2 : Nat) * (dstStride >>> 1) +
                ((k : SizeT) >>> 1) ∧
              v = (readPixel mem bgr (src + j * srcStride + 4 * k)).u.setWidth 8) ∨
            (a = dstY + dstStride * dstVStride + (dstStride >>> 1) * (dstVStride >>> 1) +
                ((j + 1) / 2 : Nat) * (dstStride >>> 1) + ((k : SizeT) >>> 1) ∧
              v = (readPixel mem bgr (src + j * srcStride + 4 * k)).v.setWidth 8)) := by
  have h := mem_rgbRows mem bgr dstStride srcStride width 0 height.toNat src dstY
    (dstY + dstStride * dstVStride)
    (dstY + dstStride * dstVStride + (dstStride >>> 1) * (dstVStride >>> 1)) a v
  simp only [Nat.cast_zero, zero_add, evenRowsBefore, show (1 : Nat) / 2 = 0 from rfl,
    Nat.sub_zero] at h
  simp only [h, mem_rgbRowPixels, mem_rgbPixelStores, zero_add, natCast_and_one_eq_zero]

private theorem byte_eq_of_toNat_int {v w : Byte} (h : (v.toNat : Int) = w.toNat) : v = w :=
  BitVec.eq_of_toNat_eq (by exact_mod_cast h)

theorem mem_rgbRows_iff_bt601Store (hw : width.toNat % 2 = 0) (hh : height.toNat % 2 = 0)
    (a : Addr) (v : Byte) :
    (a, v) ∈ rgbRows mem bgr dstStride srcStride width 0 height.toNat src dstY
        (dstY + dstStride * dstVStride)
        (dstY + dstStride * dstVStride + (dstStride >>> 1) * (dstVStride >>> 1)) ↔
      Bt601Store mem src srcStride bgr dstY dstStride.toNat dstVStride.toNat width.toNat
        height.toNat a v := by
  have hwl := width.isLt
  rw [mem_rgbRows_zero, Bt601Store]
  constructor
  · rintro ⟨j, hj, k, hk, ⟨rfl, rfl⟩ | ⟨⟨hk2, hj2⟩, ⟨rfl, rfl⟩ | ⟨rfl, rfl⟩⟩⟩
    · refine .inl ⟨j, hj, k, hk, by rw [natCast_lumaOffset]; ring, ?_⟩
      rw [readPixel_eq_ofBytes]
      exact (Rgb.luma_byte _ _ _).1
    all_goals
      have hrow : (j + 1) / 2 = j / 2 := by omega
      have hcol : (k : SizeT) >>> 1 = ((k / 2 : Nat) : SizeT) := natCast_ushiftRight_one (by omega)
      refine .inr ⟨j / 2, by omega, k / 2, by omega, ?_⟩
      rw [show 2 * (j / 2) = j by omega, show 2 * (k / 2) = k by omega, readPixel_eq_ofBytes]
    · exact .inl ⟨by rw [natCast_cbOffset, hrow, hcol]; ring, (Rgb.u_byte _ _ _).1⟩
    · exact .inr ⟨by rw [natCast_crOffset, hrow, hcol]; ring, (Rgb.v_byte _ _ _).1⟩
  · rintro (⟨j, hj, k, hk, rfl, hv⟩ | ⟨r, hr, c, hc, ⟨rfl, hv⟩ | ⟨rfl, hv⟩⟩)
    · refine ⟨j, hj, k, hk, .inl ⟨by rw [natCast_lumaOffset]; ring, ?_⟩⟩
      rw [readPixel_eq_ofBytes]
      exact byte_eq_of_toNat_int (hv.trans (Rgb.luma_byte _ _ _).1.symm)
    all_goals
      have hrow : (2 * r + 1) / 2 = r := by omega
      have hcol : ((2 * c : Nat) : SizeT) >>> 1 = c := by
        rw [natCast_ushiftRight_one (by omega), Nat.mul_div_cancel_left c (by omega)]
      refine ⟨2 * r, by omega, 2 * c, by omega, .inr ⟨⟨by omega, by omega⟩, ?_⟩⟩
      rw [readPixel_eq_ofBytes, hrow, hcol]
    · exact .inl ⟨by rw [natCast_cbOffset]; ring,
        byte_eq_of_toNat_int (hv.trans (Rgb.u_byte _ _ _).1.symm)⟩
    · exact .inr ⟨by rw [natCast_crOffset]; ring,
        byte_eq_of_toNat_int (hv.trans (Rgb.v_byte _ _ _).1.symm)⟩

/-- An even picture is converted store by store into the documented planar frame, every stored
byte in `[16, 240]`, whatever the strides. -/
theorem convertRGB32ToPlanar_stores (hw : width.toNat % 2 = 0) (hh : height.toNat % 2 = 0) :
    ∃ stores,
      convertRGB32ToPlanar mem dstY dstStride dstVStride src width height srcStride bgr =
          some stores ∧
        (∀ a v, (a, v) ∈ stores ↔ Bt601Store mem src srcStride bgr dstY dstStride.toNat
          dstVStride.toNat width.toNat height.toNat a v) ∧
        ∀ a v, (a, v) ∈ stores → 16 ≤ v.toNat ∧ v.toNat ≤ 240 := by
  refine ⟨_, convertRGB32ToPlanar_eq_some mem dstY dstStride dstVStride src width height
    srcStride bgr hw hh, mem_rgbRows_iff_bt601Store mem dstY dstStride dstVStride src width height
    srcStride bgr hw hh, fun a v h => ?_⟩
  obtain ⟨j, -, hrow⟩ := (mem_rgbRows mem bgr dstStride srcStride width 0 _ _ _ _ _ a v).mp
    (by rwa [Nat.cast_zero])
  obtain ⟨k, -, hpixel⟩ := (mem_rgbRowPixels mem bgr _ _ _ _ _ _ _ a v).mp hrow
  exact rgbPixelStores_range hpixel

theorem convertRGB32ToPlanar_planarFrame (m : Mem) (hw : width.toNat % 2 = 0)
    (hh : height.toNat % 2 = 0) (hwS : width.toNat ≤ dstStride.toNat)
    (hhS : height.toNat ≤ dstVStride.toNat)
    (hfit : dstStride.toNat * dstVStride.toNat + 2 * (dstVStride.toNat / 2 * (dstStride.toNat / 2))
      ≤ 2 ^ 64) :
    ∃ stores,
      convertRGB32ToPlanar mem dstY dstStride dstVStride src width height srcStride bgr =
          some stores ∧
        PlanarFrame dstY dstStride.toNat dstVStride.toNat width.toNat height.toNat
          (bt601Byte bt601Luma mem src srcStride bgr)
          (fun r c => bt601Byte bt601U mem src srcStride bgr (2 * r) (2 * c))
          (fun r c => bt601Byte bt601V mem src srcStride bgr (2 * r) (2 * c)) m
          (applyStores m stores) :=
  ⟨_, convertRGB32ToPlanar_eq_some mem dstY dstStride dstVStride src width height srcStride bgr
      hw hh,
    planarFrame_applyStores dstY _ _ _ hwS hhS hfit (fun a v =>
      (mem_rgbRows_iff_bt601Store mem dstY dstStride dstVStride src width height srcStride bgr hw hh
        a v).trans (bt601Store_iff_planarStore mem src srcStride bgr dstY _ _ _ _ a v)) m⟩

end Conversion

theorem convertRGB32ToPlanar_stores_qcif :
    (176 : SizeT).toNat % 2 = 0 ∧ (144 : SizeT).toNat % 2 = 0 ∧
      ∃ stores,
        convertRGB32ToPlanar addressByte 0x100000 176 144 0x200000 176 144 704 false =
            some stores ∧
          (∀ a v, (a, v) ∈ stores ↔ Bt601Store addressByte 0x200000 704 false 0x100000
            (176 : SizeT).toNat (144 : SizeT).toNat (176 : SizeT).toNat (144 : SizeT).toNat a v) ∧
          ∀ a v, (a, v) ∈ stores → 16 ≤ v.toNat ∧ v.toNat ≤ 240 :=
  ⟨by decide, by decide, convertRGB32ToPlanar_stores addressByte 0x100000 176 144 0x200000 176 144
    704 false (by decide) (by decide)⟩

end SoftVideoEncoder
