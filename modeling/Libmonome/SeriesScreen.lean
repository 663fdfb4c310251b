import Libmonome.Keys
import Libmonome.Mext.Drawing

set_option autoImplicit false

namespace Libmonome

open Picture BitMoves

-- What a series grid does with a message: bit i of the first data byte of a
-- row or column message is lamp i of the line, bit i of the second lamp 8+i,
-- and frame quadrant q is the 8x8 block at (8*(q mod 2), 8*(q div 2)).
def seriesPicture : List UInt8 → Pic (Nat × Nat) Bool
  | [header, b] =>
      if header = 0x20 then dot (b.toNat / 16, b.toNat % 16) true
      else if header = 0x30 then dot (b.toNat / 16, b.toNat % 16) false
      else if header &&& 0xF0 = 0x40 then rowRun 0 (header &&& 0x0F).toNat 8 (runBit [b])
      else if header &&& 0xF0 = 0x50 then colRun (header &&& 0x0F).toNat 0 8 (runBit [b])
      else blank
  | [header, b, c] =>
      if header &&& 0xF0 = 0x60 then rowRun 0 (header &&& 0x0F).toNat 16 (runBit [b, c])
      else if header &&& 0xF0 = 0x70 then colRun (header &&& 0x0F).toNat 0 16 (runBit [b, c])
      else blank
  | header :: data =>
      if header &&& 0xF0 = 0x80 ∧ data.length = 8 then
        block (8 * ((header &&& 0x0F).toNat % 2)) (8 * ((header &&& 0x0F).toNat / 2)) 8 8 (mapBit data)
      else blank
  | [] => blank

def m40hPicture : List UInt8 → Pic (Nat × Nat) Bool
  | [header, b] =>
      if header = 0x21 then dot (b.toNat / 16, b.toNat % 16) true
      else if header = 0x20 then dot (b.toNat / 16, b.toNat % 16) false
      else if header &&& 0xF0 = 0x70 then rowRun 0 (header &&& 0x0F).toNat 8 (runBit [b])
      else if header &&& 0xF0 = 0x80 then colRun (header &&& 0x0F).toNat 0 8 (runBit [b])
      else blank
  | _ => blank

-- Whole lines. A row of the logical grid is a row or a column of the physical
-- one; its address runs the other way where turning makes it, and so do its
-- bits.
def rowAddress (r : MonomeRotate) (C R y : Nat) : Nat := if r.colDescends then logicalRows r C R - 1 - y else y
def colAddress (r : MonomeRotate) (C R x : Nat) : Nat := if r.rowDescends then logicalCols r C R - 1 - x else x

section Turned

variable {α : Type} (r : MonomeRotate) (C R : Nat) (v : Nat → α)

def rowValues : Nat → α := if r.rowDescends then fun i => v (logicalCols r C R - 1 - i) else v
def colValues : Nat → α := if r.colDescends then fun i => v (logicalRows r C R - 1 - i) else v

theorem turned_full_row (y : Nat) (named : y < logicalRows r C R) (p : Nat × Nat) (inside : InGrid C R p) :
    rowRun 0 y (logicalCols r C R) v (unturn r C R p) =
      (if r.swaps then colRun (rowAddress r C R y) 0 (logicalCols r C R) (rowValues r C R v)
        else rowRun 0 (rowAddress r C R y) (logicalCols r C R) (rowValues r C R v)) p := by
  obtain ⟨px, py⟩ := p
  simp only [InGrid] at inside
  cases r <;> simp only [logicalCols, logicalRows, MonomeRotate.swaps, MonomeRotate.rowDescends,
    MonomeRotate.colDescends, unturn, rowRun, rowAddress, rowValues, Bool.false_eq_true, if_false,
    if_true] at named ⊢
  · exact drawn_congr _ _ _ _ (by omega) (fun _ => congrArg v (by omega))
  · exact drawn_congr _ _ _ _ (by omega) (fun _ => congrArg v (by omega))
  · exact drawn_congr _ _ _ _ (by omega) (fun _ => congrArg v (by omega))
  · exact drawn_congr _ _ _ _ (by omega) (fun _ => congrArg v (by omega))

theorem turned_full_col (x : Nat) (named : x < logicalCols r C R) (p : Nat × Nat) (inside : InGrid C R p) :
    colRun x 0 (logicalRows r C R) v (unturn r C R p) =
      (if r.swaps then rowRun 0 (colAddress r C R x) (logicalRows r C R) (colValues r C R v)
        else colRun (colAddress r C R x) 0 (logicalRows r C R) (colValues r C R v)) p := by
  obtain ⟨px, py⟩ := p
  simp only [InGrid] at inside
  cases r <;> simp only [logicalCols, logicalRows, MonomeRotate.swaps, MonomeRotate.rowDescends,
    MonomeRotate.colDescends, unturn, colRun, colAddress, colValues, Bool.false_eq_true, if_false,
    if_true] at named ⊢
  · exact drawn_congr _ _ _ _ (by omega) (fun _ => congrArg v (by omega))
  · exact drawn_congr _ _ _ _ (by omega) (fun _ => congrArg v (by omega))
  · exact drawn_congr _ _ _ _ (by omega) (fun _ => congrArg v (by omega))
  · exact drawn_congr _ _ _ _ (by omega) (fun _ => congrArg v (by omega))

end Turned

section Addresses

variable (monome : Monome) (C R : Nat) (has : HasGrid monome C R)
include has

theorem series_row_address (y : UInt32) (named : y.toNat < logicalRows monome.rotation C R) :
    (seriesRowAddress monome y).toNat = rowAddress monome.rotation C R y.toNat := by
  have rows := rows_flipped monome C R has y named
  rw [seriesRowAddress, has_flag_swap, rotateCoords]
  generalize monome.rotation = r at rows ⊢
  cases r with
  | rotate0 => rfl
  | rotate90 => rfl
  | rotate180 => exact rows
  | rotate270 => exact rows

theorem series_col_address (x : UInt32) (named : x.toNat < logicalCols monome.rotation C R) :
    (seriesColAddress monome x).toNat = colAddress monome.rotation C R x.toNat := by
  have cols := cols_flipped monome C R has x named
  rw [seriesColAddress, has_flag_swap, rotateCoords]
  generalize monome.rotation = r at cols ⊢
  cases r with
  | rotate0 => rfl
  | rotate90 => exact cols
  | rotate180 => exact cols
  | rotate270 => rfl

omit has in
theorem square_logical (square : C = R) (r : MonomeRotate) : logicalCols r C R = logicalRows r C R := by
  rw [logicalCols, logicalRows, square]

theorem m40h_row_address (square : C = R) (y : UInt32) (named : y.toNat < logicalRows monome.rotation C R) :
    (rotateCoords monome y y).1.toNat = rowAddress monome.rotation C R y.toNat := by
  have sides := square_logical C R square monome.rotation
  have cols := cols_flipped monome C R has y (by rw [sides]; exact named)
  have rows := rows_flipped monome C R has y named
  rw [sides] at cols
  rw [rotateCoords]
  generalize monome.rotation = r at cols rows ⊢
  cases r with
  | rotate0 => rfl
  | rotate90 => rfl
  | rotate180 => exact cols
  | rotate270 => exact rows

theorem m40h_col_address (square : C = R) (x : UInt32) (named : x.toNat < logicalCols monome.rotation C R) :
    (rotateCoords monome x x).2.toNat = colAddress monome.rotation C R x.toNat := by
  have sides := square_logical C R square monome.rotation
  have cols := cols_flipped monome C R has x named
  have rows := rows_flipped monome C R has x (by rw [← sides]; exact named)
  rw [← sides] at rows
  rw [rotateCoords]
  generalize monome.rotation = r at cols rows ⊢
  cases r with
  | rotate0 => rfl
  | rotate90 => exact cols
  | rotate180 => exact rows
  | rotate270 => rfl

end Addresses

set_option maxRecDepth 4000 in
theorem mode_byte_parts : ∀ mode ∈ [0x40, 0x50, 0x60, 0x70, 0x80], ∀ n < 16,
    (mode ||| (UInt32.ofNat n &&& 0x0F).toUInt8 ≠ 0x20 ∧ mode ||| (UInt32.ofNat n &&& 0x0F).toUInt8 ≠ 0x30 ∧
      mode ||| (UInt32.ofNat n &&& 0x0F).toUInt8 ≠ 0x21) ∧
    (mode ||| (UInt32.ofNat n &&& 0x0F).toUInt8) &&& 0xF0 = mode ∧
    ((mode ||| (UInt32.ofNat n &&& 0x0F).toUInt8) &&& 0x0F).toNat = n := by decide

theorem mode_byte (mode : UInt8) (listed : mode ∈ [0x40, 0x50, 0x60, 0x70, 0x80]) (address : UInt32) (small : address.toNat < 16) :
    (mode ||| (address &&& 0x0F).toUInt8 ≠ 0x20 ∧ mode ||| (address &&& 0x0F).toUInt8 ≠ 0x30 ∧
      mode ||| (address &&& 0x0F).toUInt8 ≠ 0x21) ∧
    (mode ||| (address &&& 0x0F).toUInt8) &&& 0xF0 = mode ∧
    ((mode ||| (address &&& 0x0F).toUInt8) &&& 0x0F).toNat = address.toNat := by
  have entry := mode_byte_parts mode listed address.toNat small
  rwa [UInt32.ofNat_toNat] at entry

theorem series_picture_line (col : Bool) (address : UInt32) (small : address.toNat < 16) (b : UInt8) :
    seriesPicture [(if col then 0x50 else 0x40) ||| (address &&& 0x0F).toUInt8, b] =
      if col then colRun address.toNat 0 8 (runBit [b]) else rowRun 0 address.toNat 8 (runBit [b]) := by
  cases col with
  | false =>
      obtain ⟨⟨notOn, notOff, _⟩, mode, low⟩ := mode_byte 0x40 (by decide) address small
      simp only [seriesPicture, Bool.false_eq_true, if_false, if_neg notOn, if_neg notOff, mode, low, if_true]
  | true =>
      obtain ⟨⟨notOn, notOff, _⟩, mode, low⟩ := mode_byte 0x50 (by decide) address small
      simp only [seriesPicture, if_true, if_neg notOn, if_neg notOff, mode, low]
      rfl

theorem series_picture_wide (col : Bool) (address : UInt32) (small : address.toNat < 16) (b c : UInt8) :
    seriesPicture [(if col then 0x70 else 0x60) ||| (address &&& 0x0F).toUInt8, b, c] =
      if col then colRun address.toNat 0 16 (runBit [b, c]) else rowRun 0 address.toNat 16 (runBit [b, c]) := by
  cases col with
  | false =>
      obtain ⟨_, mode, low⟩ := mode_byte 0x60 (by decide) address small
      simp only [seriesPicture, Bool.false_eq_true, if_false, mode, low, if_true]
  | true =>
      obtain ⟨_, mode, low⟩ := mode_byte 0x70 (by decide) address small
      simp only [seriesPicture, if_true, mode, low]
      rfl

theorem m40h_picture_line (col : Bool) (address : UInt32) (small : address.toNat < 8) (b : UInt8) :
    m40hPicture [(if col then 0x80 else 0x70) ||| (address &&& 0x7).toUInt8, b] =
      if col then colRun address.toNat 0 8 (runBit [b]) else rowRun 0 address.toNat 8 (runBit [b]) := by
  have wider : address &&& 0x7 = address &&& 0x0F :=
    (masked address 0x7 3 rfl small).trans (masked address 0x0F 4 rfl (by omega)).symm
  rw [wider]
  cases col with
  | false =>
      obtain ⟨⟨notOff, _, notOn⟩, mode, low⟩ := mode_byte 0x70 (by decide) address (by omega)
      simp only [m40hPicture, Bool.false_eq_true, if_false, if_neg notOn, if_neg notOff, mode, low, if_true]
  | true =>
      obtain ⟨⟨notOff, _, notOn⟩, mode, low⟩ := mode_byte 0x80 (by decide) address (by omega)
      simp only [m40hPicture, if_true, if_neg notOn, if_neg notOff, mode, low]
      rfl

theorem series_picture_frame (quadrant : UInt32) (small : quadrant.toNat < 4) (data : List UInt8)
    (whole : data.length = 8) : seriesPicture ((0x80 ||| (quadrant &&& 0x03).toUInt8) :: data) =
      block (8 * (quadrant.toNat % 2)) (8 * (quadrant.toNat / 2)) 8 8 (mapBit data) := by
  have wider : quadrant &&& 0x03 = quadrant &&& 0x0F :=
    (masked quadrant 0x03 2 rfl small).trans (masked quadrant 0x0F 4 rfl (by omega)).symm
  obtain ⟨_, mode, low⟩ := mode_byte 0x80 (by decide) quadrant (by omega)
  obtain ⟨a, b, c, rest, rfl⟩ : ∃ a b c rest, data = a :: b :: c :: rest := by
    match data, whole with
    | a :: b :: c :: rest, _ => exact ⟨a, b, c, rest, rfl⟩
  rw [wider]
  simp only [seriesPicture, mode, low, whole, and_self, if_true]

end Libmonome
