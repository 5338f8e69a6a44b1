import Mathlib.Algebra.Ring.Int.Defs
import Mathlib.Algebra.Ring.Nat
import LocalCall.Java.Jint
import LocalCall.Library.CountedLoop

/-! # Preview frames as pixels

A frame holds a byte of luma for each pixel and behind them two bytes of chroma for each block of
two by two. Both functions write one packed word for each pixel; the second gives them to a
bitmap.
-/
namespace LocalCall.Service
open Java CountedLoop
set_option autoImplicit false

namespace RgbaBitmap

inductive Thrown where
  | negativeArraySizeException
  | arrayIndexOutOfBoundsException
  | illegalArgumentException
  deriving DecidableEq

def newIntArray (length : Int) : Except Thrown (List (BitVec 32)) :=
  if length < 0 then .error .negativeArraySizeException
  else .ok (List.replicate length.toNat 0#32)

/-- `0xff & ((int) data[index])` -/
def readByte (data : List UInt8) (index : Int) : Except Thrown Int :=
  if index < 0 then .error .arrayIndexOutOfBoundsException
  else
    match data[index.toNat]? with
    | some byte => .ok byte.toNat
    | none => .error .arrayIndexOutOfBoundsException

def writeInt (array : List (BitVec 32)) (index : Int) (word : BitVec 32) :
    Except Thrown (List (BitVec 32)) :=
  if 0 ≤ index ∧ index < array.length then .ok (array.set index.toNat word)
  else .error .arrayIndexOutOfBoundsException

def rawByteArray2RGBABitmap1 (data : List UInt8) (width height : Int) :
    Except Thrown (List (BitVec 32)) := do
  let frameSize := wrap (width * height)
  let rgba ← newIntArray frameSize
  forLoop height.toNat (fun i rgba =>
    forLoop width.toNat (fun j rgba => do
      let tempIndex := wrap (frameSize + ((i : Int) >>> (1 : Nat)) * width + clearLowBit j)
      let tempMainIndex := wrap (i * width + j)
      let y ← readByte data tempMainIndex
      let u ← readByte data tempIndex
      let v ← readByte data (wrap (tempIndex + 1))
      let y := if y < 16 then 16 else y
      let y := y - 16
      let r := y + v - 128
      let g := y - ((813 * v - 54016 - 391 * u) >>> (10 : Nat))
      let b := y + u - 128
      let r := if r < 0 then 0 else if r > 255 then 255 else r
      let g := if g < 0 then 0 else if g > 255 then 255 else g
      let b := if b < 0 then 0 else if b > 255 then 255 else b
      writeInt rgba tempMainIndex
        (0xff000000#32 + BitVec.ofInt 32 b <<< 16 + BitVec.ofInt 32 g <<< 8 + BitVec.ofInt 32 r))
      rgba)
    rgba

section Bitmap

variable {B : Type} (createBitmap : Int → Int → Except Thrown B)
  (setPixels : B → List (BitVec 32) → (offset stride x y width height : Int) → Except Thrown B)

/-- The array, and what becomes of the bitmap that it is given to: bitmaps are the platform's. -/
def rawByteArray2RGBABitmap2 (data : List UInt8) (width height : Int) :
    Except Thrown (List (BitVec 32) × Except Thrown B) := do
  let frameSize := wrap (width * height)
  let rgba ← newIntArray frameSize
  let rgba ← forLoop height.toNat (fun i rgba =>
    forLoop width.toNat (fun j rgba => do
      let tempIndex := wrap (frameSize + ((i : Int) >>> (1 : Nat)) * width + clearLowBit j)
      let tempMainIndex := wrap (i * width + j)
      let y ← readByte data tempMainIndex
      let u ← readByte data tempIndex
      let v ← readByte data (wrap (tempIndex + 1))
      let y := if y < 16 then 16 else y
      let y := y - 16
      let r := y + v - 128
      let g := y - ((813 * v - 54016 - 391 * u) >>> (10 : Nat))
      let b := y + u - 128
      let r := if r < 0 then 0 else if r > 255 then 255 else r
      let g := if g < 0 then 0 else if g > 255 then 255 else g
      let b := if b < 0 then 0 else if b > 255 then 255 else b
      writeInt rgba tempMainIndex
        (0xff000000#32 + BitVec.ofInt 32 b <<< 16 + BitVec.ofInt 32 g <<< 8 + BitVec.ofInt 32 r))
      rgba)
    rgba
  .ok (rgba, do
    let bmp ← createBitmap width height
    setPixels bmp rgba 0 width 0 0 width height)

theorem rawByteArray2RGBABitmap2_eq (data : List UInt8) (width height : Int) :
    rawByteArray2RGBABitmap2 createBitmap setPixels data width height =
      (fun rgba => (rgba, createBitmap width height >>= fun bmp =>
        setPixels bmp rgba 0 width 0 0 width height)) <$>
        rawByteArray2RGBABitmap1 data width height := by
  refine Eq.trans ?_ (map_bind _ _ _).symm
  exact congrArg (newIntArray (wrap (width * height)) >>= ·) (funext fun _ => bind_pure_comp _ _)

end Bitmap

def clamp (n : Int) : Nat := if n < 0 then 0 else if n > 255 then 255 else n.toNat

def level (y : UInt8) : Int := (if (y.toNat : Int) < 16 then 16 else (y.toNat : Int)) - 16

def red (y v : UInt8) : Nat := clamp (level y + v.toNat - 128)

def green (y u v : UInt8) : Nat :=
  clamp (level y - ((813 * v.toNat - 54016 - 391 * u.toNat : Int) >>> (10 : Nat)))

def blue (y u : UInt8) : Nat := clamp (level y + u.toNat - 128)

def pixel (y u v : UInt8) : BitVec 32 :=
  0xff000000#32 + BitVec.ofNat 32 (blue y u) <<< 16 + BitVec.ofNat 32 (green y u v) <<< 8 +
    BitVec.ofNat 32 (red y v)

theorem clamp_le (n : Int) : clamp n ≤ 255 := by
  unfold clamp
  split
  · omega
  · split <;> omega

theorem clamp_eq (n : Int) :
    (if n < 0 then 0 else if n > 255 then 255 else n) = (clamp n : Int) := by
  unfold clamp
  split
  · rfl
  · split
    · rfl
    · omega

theorem toNat_pack {r g b : Nat} (hr : r ≤ 255) (hg : g ≤ 255) (hb : b ≤ 255) :
    (0xff000000#32 + BitVec.ofNat 32 b <<< 16 + BitVec.ofNat 32 g <<< 8 +
      BitVec.ofNat 32 r).toNat = 255 * 2 ^ 24 + b * 2 ^ 16 + g * 2 ^ 8 + r := by
  simp only [BitVec.toNat_add, BitVec.toNat_shiftLeft, BitVec.toNat_ofNat, Nat.shiftLeft_eq]
  omega

theorem toNat_pixel (y u v : UInt8) :
    (pixel y u v).toNat =
      255 * 2 ^ 24 + blue y u * 2 ^ 16 + green y u v * 2 ^ 8 + red y v :=
  toNat_pack (clamp_le _) (clamp_le _) (clamp_le _)

section Indices

variable {width i j i' j' : Nat}

theorem rowMajor_inj (hj : j < width) (hj' : j' < width)
    (h : i * width + j = i' * width + j') : i = i' ∧ j = j' := by
  rcases Nat.lt_trichotomy i i' with hLess | rfl | hMore
  · have hRow : (i + 1) * width ≤ i' * width := Nat.mul_le_mul_right width hLess
    rw [Nat.succ_mul] at hRow
    omega
  · exact ⟨rfl, Nat.add_left_cancel h⟩
  · have hRow : (i' + 1) * width ≤ i * width := Nat.mul_le_mul_right width hMore
    rw [Nat.succ_mul] at hRow
    omega

theorem rowMajor_lt {height : Nat} (hi : i < height) (hj : j < width) :
    i * width + j < height * width := by
  have hRow : (i + 1) * width ≤ height * width := Nat.mul_le_mul_right width hi
  rw [Nat.succ_mul] at hRow
  omega

/-- Where the two bytes of chroma for the pixel begin: those of one block lie side by side. -/
def chromaIndex (width height i j : Nat) : Nat := height * width + i / 2 * width + 2 * (j / 2)

theorem chromaIndex_lt {height : Nat} (hWidth : width % 2 = 0) (hHeight : height % 2 = 0)
    (hi : i < height) (hj : j < width) :
    chromaIndex width height i j + 1 < height * width + height / 2 * width := by
  have hBlock : i / 2 * width + (2 * (j / 2) + 1) < height / 2 * width :=
    rowMajor_lt (by omega) (by omega)
  unfold chromaIndex
  omega

theorem chromaIndex_inj {height d d' : Nat} (hWidth : width % 2 = 0) (hj : j < width)
    (hj' : j' < width) (hd : d ≤ 1) (hd' : d' ≤ 1)
    (h : chromaIndex width height i j + d = chromaIndex width height i' j' + d') :
    i / 2 = i' / 2 ∧ j / 2 = j' / 2 := by
  unfold chromaIndex at h
  have hPair : i / 2 * width + (2 * (j / 2) + d) = i' / 2 * width + (2 * (j' / 2) + d') := by omega
  obtain ⟨hRow, hColumn⟩ := rowMajor_inj (by omega) (by omega) hPair
  exact ⟨hRow, by omega⟩

end Indices

theorem readByte_natCast {data : List UInt8} {k : Nat} {byte : UInt8}
    (h : data[k]? = some byte) : readByte data k = .ok (byte.toNat : Int) := by
  unfold readByte
  rw [if_neg (by omega), Int.toNat_natCast, h]

theorem writeInt_natCast {array : List (BitVec 32)} {k : Nat} (h : k < array.length)
    (word : BitVec 32) : writeInt array k word = .ok (array.set k word) := by
  unfold writeInt
  rw [if_pos (by omega), Int.toNat_natCast]

/-- The pixel is what its luma and the chroma of its block make it. -/
def PixelAt (data : List UInt8) (width height : Nat) (rgba : List (BitVec 32)) (i j : Nat) :
    Prop :=
  ∃ y u v, data[i * width + j]? = some y ∧ data[chromaIndex width height i j]? = some u ∧
    data[chromaIndex width height i j + 1]? = some v ∧
    rgba[i * width + j]? = some (pixel y u v)

structure Filled (data : List UInt8) (width height n : Nat) (rgba : List (BitVec 32)) : Prop where
  length : rgba.length = height * width
  pixels : ∀ i j, i < height → j < width → i * width + j < n → PixelAt data width height rgba i j

section Loops

variable {data : List UInt8} {width height : Nat} {rgba : List (BitVec 32)} {i j : Nat}

theorem Filled.set {y u v : UInt8} (h : Filled data width height (i * width + j) rgba)
    (hi : i < height) (hj : j < width) (hy : data[i * width + j]? = some y)
    (hu : data[chromaIndex width height i j]? = some u)
    (hv : data[chromaIndex width height i j + 1]? = some v) :
    Filled data width height (i * width + j + 1) (rgba.set (i * width + j) (pixel y u v)) := by
  refine ⟨by rw [List.length_set, h.length], fun i' j' hi' hj' hLt => ?_⟩
  by_cases hHere : i' * width + j' = i * width + j
  · obtain ⟨rfl, rfl⟩ := rowMajor_inj hj' hj hHere
    refine ⟨y, u, v, hy, hu, hv, List.getElem?_set_self ?_⟩
    rw [h.length]
    exact rowMajor_lt hi hj
  · obtain ⟨y', u', v', hy', hu', hv', hWord⟩ := h.pixels i' j' hi' hj' (by omega)
    exact ⟨y', u', v', hy', hu', hv', by rw [List.getElem?_set_ne (Ne.symm hHere), hWord]⟩

theorem wrap_mainIndex (hBound : height * width + height / 2 * width < 2 ^ 31) (hi : i < height)
    (hj : j < width) : wrap ((i : Int) * width + j) = (i * width + j : Nat) := by
  have hIn := rowMajor_lt hi hj
  have hCast : (i : Int) * width + j = (i * width + j : Nat) := by simp
  rw [hCast]
  exact wrap_eq_self (by omega) (by omega)

theorem wrap_chromaIndex (hWidth : width % 2 = 0) (hHeight : height % 2 = 0)
    (hBound : height * width + height / 2 * width < 2 ^ 31) (hi : i < height) (hj : j < width) :
    wrap ((height * width : Nat) + ((i : Int) >>> (1 : Nat)) * width + clearLowBit j) =
      chromaIndex width height i j := by
  have hIn := chromaIndex_lt hWidth hHeight hi hj
  have hMain := rowMajor_lt hi hj
  have hColumn : j < 2 ^ 31 := by omega
  have hRow : (i : Int) >>> (1 : Nat) = (i / 2 : Nat) := by
    rw [Int.shiftRight_eq_div_pow]
    rfl
  have hCast : (height * width : Nat) + ((i : Int) >>> (1 : Nat)) * width + clearLowBit j =
      (chromaIndex width height i j : Int) := by
    rw [hRow, clearLowBit_natCast hColumn, chromaIndex]
    simp
  rw [hCast]
  exact wrap_eq_self (by omega) (by omega)

theorem pack_eq_pixel (y u v : UInt8) :
    (let y : Int := (if (y.toNat : Int) < 16 then 16 else (y.toNat : Int)) - 16
    let r : Int := y + v.toNat - 128
    let g : Int := y - ((813 * v.toNat - 54016 - 391 * u.toNat : Int) >>> (10 : Nat))
    let b : Int := y + u.toNat - 128
    let r := if r < 0 then 0 else if r > 255 then 255 else r
    let g := if g < 0 then 0 else if g > 255 then 255 else g
    let b := if b < 0 then 0 else if b > 255 then 255 else b
    0xff000000#32 + BitVec.ofInt 32 b <<< 16 + BitVec.ofInt 32 g <<< 8 + BitVec.ofInt 32 r) =
      pixel y u v := by
  dsimp only
  rw [clamp_eq, clamp_eq, clamp_eq, BitVec.ofInt_natCast, BitVec.ofInt_natCast,
    BitVec.ofInt_natCast]
  unfold pixel red green blue level
  rfl

theorem exists_filled (hWidth : width % 2 = 0) (hHeight : height % 2 = 0)
    (hBound : height * width + height / 2 * width < 2 ^ 31)
    (hLength : data.length = height * width + height / 2 * width) :
    ∃ rgba, rawByteArray2RGBABitmap1 data width height = .ok rgba ∧
      Filled data width height (height * width) rgba := by
  have hFrame : wrap ((width : Int) * height) = (height * width : Nat) := by
    rw [Int.mul_comm, ← Int.natCast_mul]
    exact wrap_eq_self (by omega) (by omega)
  have hNew : newIntArray (height * width : Nat) =
      .ok (List.replicate (height * width) 0#32) := by
    unfold newIntArray
    rw [if_neg (by omega), Int.toNat_natCast]
  unfold rawByteArray2RGBABitmap1
  dsimp only
  rw [hFrame, hNew, Int.toNat_natCast, Int.toNat_natCast]
  refine @forLoop_rule _ _ _ _ (fun i rgba => Filled data width height (i * width) rgba) ?_ _ ?_
  · intro i rgba hi hRow
    rw [Nat.succ_mul]
    refine @forLoop_rule _ _ _ _ (fun j rgba => Filled data width height (i * width + j) rgba)
      ?_ _ ?_
    · intro j rgba hj hPixel
      have hIn := rowMajor_lt hi hj
      have hChroma := chromaIndex_lt hWidth hHeight hi hj
      obtain ⟨y, hy⟩ : ∃ y, data[i * width + j]? = some y :=
        ⟨_, List.getElem?_eq_getElem (by omega)⟩
      obtain ⟨u, hu⟩ : ∃ u, data[chromaIndex width height i j]? = some u :=
        ⟨_, List.getElem?_eq_getElem (by omega)⟩
      obtain ⟨v, hv⟩ : ∃ v, data[chromaIndex width height i j + 1]? = some v :=
        ⟨_, List.getElem?_eq_getElem (by omega)⟩
      refine ⟨_, ?_, hPixel.set hi hj hy hu hv⟩
      have hNext : wrap ((chromaIndex width height i j : Int) + 1) =
          (chromaIndex width height i j + 1 : Nat) := wrap_eq_self (by omega) (by omega)
      rw [wrap_mainIndex hBound hi hj, wrap_chromaIndex hWidth hHeight hBound hi hj, hNext,
        readByte_natCast hy, readByte_natCast hu, readByte_natCast hv, ← pack_eq_pixel]
      exact writeInt_natCast (by rw [hPixel.length]; exact hIn) _
    · exact hRow
  · refine ⟨List.length_replicate, fun i j _ _ hLt => ?_⟩
    rw [Nat.zero_mul] at hLt
    exact absurd hLt (Nat.not_lt_zero _)

end Loops

theorem rawByteArray2RGBABitmap1_of_empty (data : List UInt8) {width height : Int}
    (hEmpty : width ≤ 0 ∨ height ≤ 0) (h0 : 0 ≤ width * height) (hBound : width * height < 2 ^ 31) :
    rawByteArray2RGBABitmap1 data width height =
      .ok (List.replicate (width * height).toNat 0#32) := by
  have hFrame : wrap (width * height) = width * height := wrap_eq_self (by omega) hBound
  unfold rawByteArray2RGBABitmap1
  dsimp only
  rw [hFrame, newIntArray, if_neg (by omega)]
  obtain hWidth | hHeight := hEmpty
  · rw [Int.toNat_of_nonpos hWidth]
    obtain ⟨rgba, hLoop, rfl⟩ := @forLoop_rule Thrown (List (BitVec 32)) height.toNat
      (fun _ rgba => .ok rgba) (fun _ rgba => rgba = List.replicate (width * height).toNat 0#32)
      (fun _ h => ⟨_, rfl, h⟩) _ rfl
    exact hLoop
  · rw [Int.toNat_of_nonpos hHeight]
    rfl

/-- Alpha is 255, and each channel has its own byte. -/
def Opaque (word : BitVec 32) : Prop :=
  ∃ r g b : Nat, r ≤ 255 ∧ g ≤ 255 ∧ b ≤ 255 ∧
    word.toNat = 255 * 2 ^ 24 + b * 2 ^ 16 + g * 2 ^ 8 + r

theorem opaque_pixel (y u v : UInt8) : Opaque (pixel y u v) :=
  ⟨red y v, green y u v, blue y u, clamp_le _, clamp_le _, clamp_le _, toNat_pixel y u v⟩

structure Converted (data : List UInt8) (width height : Nat) (rgba : List (BitVec 32)) : Prop where
  pixels : ∀ i j, i < height → j < width → PixelAt data width height rgba i j
  words : ∀ i j, i < height → j < width →
    ∃ word, rgba[i * width + j]? = some word ∧ Opaque word
  sameBlock : ∀ i j i' j', i / 2 = i' / 2 → j / 2 = j' / 2 →
    chromaIndex width height i j = chromaIndex width height i' j'
  otherBlock : ∀ i j i' j', j < width → j' < width → ¬(i / 2 = i' / 2 ∧ j / 2 = j' / 2) →
    ∀ d ≤ 1, ∀ d' ≤ 1, chromaIndex width height i j + d ≠ chromaIndex width height i' j' + d'

theorem converted_of_pixels {data : List UInt8} {width height : Nat} {rgba : List (BitVec 32)}
    (hWidth : width % 2 = 0)
    (hPixels : ∀ i j, i < height → j < width → PixelAt data width height rgba i j) :
    Converted data width height rgba := by
  refine ⟨hPixels, ?_, ?_, ?_⟩
  · intro i j hi hj
    obtain ⟨y, u, v, -, -, -, hWord⟩ := hPixels i j hi hj
    exact ⟨_, hWord, opaque_pixel y u v⟩
  · intro i j i' j' hRow hColumn
    unfold chromaIndex
    rw [hRow, hColumn]
  · intro i j i' j' hj hj' hBlock d hd d' hd' hEq
    exact hBlock (chromaIndex_inj hWidth hj hj' hd hd' hEq)

theorem rawByteArray2RGBABitmap_converted {B : Type}
    (createBitmap : Int → Int → Except Thrown B)
    (setPixels : B → List (BitVec 32) → (offset stride x y width height : Int) → Except Thrown B)
    (data : List UInt8) (width height : Int) (hWidth : width % 2 = 0) (hHeight : height % 2 = 0)
    (hBound : width * height * 3 / 2 < 2 ^ 31)
    (hLength : (data.length : Int) = width * height * 3 / 2) :
    ∃ rgba, rawByteArray2RGBABitmap1 data width height = .ok rgba ∧
      rawByteArray2RGBABitmap2 createBitmap setPixels data width height =
        .ok (rgba, createBitmap width height >>= fun bmp =>
          setPixels bmp rgba 0 width 0 0 width height) ∧
      (rgba.length : Int) = width * height ∧
      Converted data width.toNat height.toNat rgba := by
  obtain ⟨rgba, hFirst, hArray, hConverted⟩ : ∃ rgba,
      rawByteArray2RGBABitmap1 data width height = .ok rgba ∧
      (rgba.length : Int) = width * height ∧ Converted data width.toNat height.toNat rgba := by
    by_cases hEmpty : width ≤ 0 ∨ height ≤ 0
    · refine ⟨_, rawByteArray2RGBABitmap1_of_empty data hEmpty (by omega) (by omega), ?_, ?_⟩
      · rw [List.length_replicate]
        omega
      · refine converted_of_pixels (by omega) fun i j hi hj => ?_
        omega
    · obtain ⟨w, rfl⟩ := Int.eq_ofNat_of_zero_le (show 0 ≤ width by omega)
      obtain ⟨h, rfl⟩ := Int.eq_ofNat_of_zero_le (show 0 ≤ height by omega)
      -- Half as many bytes of chroma as of luma: one row for two.
      have hRows : h * w = 2 * (h / 2 * w) := by
        rw [← Nat.mul_assoc]
        congr 1
        omega
      have hArea : (w : Int) * h = (h * w : Nat) := by rw [Int.mul_comm, Int.natCast_mul]
      rw [hArea] at hBound hLength ⊢
      obtain ⟨rgba, hFirst, hFilled⟩ : ∃ rgba, rawByteArray2RGBABitmap1 data w h = .ok rgba ∧
          Filled data w h (h * w) rgba :=
        exists_filled (by omega) (by omega) (by omega) (by omega)
      refine ⟨rgba, hFirst, by rw [hFilled.length], ?_⟩
      exact converted_of_pixels (by omega) fun i j hi hj =>
        hFilled.pixels i j hi hj (rowMajor_lt hi hj)
  refine ⟨rgba, hFirst, ?_, hArray, hConverted⟩
  rw [rawByteArray2RGBABitmap2_eq, hFirst]
  rfl

/-- One block: four words from four bytes of luma and the two bytes of chroma behind them. The
bitmap is its words. -/
theorem rawByteArray2RGBABitmap_block :
    let data : List UInt8 := [16, 40, 128, 235, 90, 240]
    let createBitmap : Int → Int → Except Thrown (List (BitVec 32)) := fun width height =>
      .ok (List.replicate (width * height).toNat 0#32)
    ∃ rgba, rawByteArray2RGBABitmap1 data 2 2 = .ok rgba ∧
      rawByteArray2RGBABitmap2 createBitmap (fun bmp pixels _ _ _ _ _ _ =>
        .ok (pixels ++ bmp.drop pixels.length)) data 2 2 =
        .ok (rgba, createBitmap 2 2 >>= fun bmp => .ok (rgba ++ bmp.drop rgba.length)) ∧
      (rgba.length : Int) = 2 * 2 ∧ Converted data 2 2 rgba :=
  rawByteArray2RGBABitmap_converted _ _ _ 2 2 (by decide) (by decide) (by decide) (by decide)

end RgbaBitmap

end LocalCall.Service
