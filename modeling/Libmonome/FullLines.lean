import Libmonome.SeriesScreen

set_option autoImplicit false

namespace Libmonome

open Picture BitMoves

theorem monome_write_paints (C R : Nat) (decode : List UInt8 → Pic (Nat × Nat) Bool) (buf : List UInt8)
    (lamps : Canvas (Nat × Nat) Bool) :
    monomeWrite (screen C R decode) buf lamps = .ok (0, paint (clip (InGrid C R) (decode buf)) lamps) := by
  rw [monomeWrite, io_bind, screen_write]
  simp only [if_true]
  rfl

-- The two bytes a 16-wide line shows, in order. A big-endian build sends the
-- caller's pair the other way round.
def shownPair (t : Target) (data : List UInt8) : List UInt8 :=
  if t.bigEndian then [data.getD 1 0, data.getD 0 0] else [data.getD 0 0, data.getD 1 0]

theorem run_bit_two (b c : UInt8) (i : Nat) : runBit [b, c] i =
    if i < 8 then byteBit b i else if i < 16 then byteBit c (i - 8) else false := by
  rw [runBit]
  by_cases low : i < 8
  · rw [if_pos low, show i / 8 = 0 by omega, show i % 8 = i by omega]
    rfl
  · by_cases high : i < 16
    · rw [if_neg low, if_pos high, show i / 8 = 1 by omega, show i % 8 = i - 8 by omega]
      rfl
    · rw [if_neg low, if_neg high, show i / 8 = (i / 8 - 2) + 2 by omega]
      simp [byteBit]

theorem series_pair_run (t : Target) (rev : Bool) (data : List UInt8) (i : Nat) (inside : i < 16) :
    ∃ b c, seriesPair t rev (data.getD 0 0) (data.getD 1 0) = [b, c] ∧
      runBit [b, c] i = (if rev then fun i => runBit (shownPair t data) (16 - 1 - i) else runBit (shownPair t data)) i := by
  have reversed : ∀ b c : UInt8, runBit [reverseByte c, reverseByte b] i = runBit [b, c] (16 - 1 - i) := by
    intro b c
    rw [run_bit_two, run_bit_two]
    by_cases low : i < 8
    · rw [if_pos low, if_neg (by omega), if_pos (by omega), reverse_byte_bit c i low]
      congr 1
      omega
    · rw [if_neg low, if_pos inside, if_pos (by omega), reverse_byte_bit b (i - 8) (by omega)]
      congr 1
      omega
  rw [seriesPair, shownPair]
  cases t.bigEndian <;> cases rev
  · exact ⟨_, _, rfl, rfl⟩
  · exact ⟨_, _, rfl, reversed _ _⟩
  · exact ⟨_, _, rfl, rfl⟩
  · exact ⟨_, _, rfl, reversed _ _⟩

structure SeriesGrid (C R : Nat) : Prop where
  cols : C = 8 ∨ C = 16
  rows : R = 8 ∨ R = 16

theorem SeriesGrid.logical (C R : Nat) (sides : SeriesGrid C R) (r : MonomeRotate) :
    SeriesGrid (logicalCols r C R) (logicalRows r C R) := by
  rw [logicalCols, logicalRows]
  cases r.swaps
  · exact sides
  · exact ⟨sides.rows, sides.cols⟩

theorem series_mode_swapped (monome : Monome) (address : UInt32) :
    seriesModeByte monome seriesLedRow8 seriesLedRow8 address =
      (if monome.rotation.swaps then 0x50 else 0x40) ||| (address &&& 0x0F).toUInt8 ∧
    seriesModeByte monome seriesLedRow8 seriesLedCol8 address =
      (if !monome.rotation.swaps then 0x50 else 0x40) ||| (address &&& 0x0F).toUInt8 ∧
    seriesModeByte monome seriesLedRow16 seriesLedRow16 address =
      (if monome.rotation.swaps then 0x70 else 0x60) ||| (address &&& 0x0F).toUInt8 ∧
    seriesModeByte monome seriesLedRow16 seriesLedCol16 address =
      (if !monome.rotation.swaps then 0x70 else 0x60) ||| (address &&& 0x0F).toUInt8 := by
  simp only [seriesModeByte, has_flag_swap]
  cases monome.rotation.swaps <;> exact ⟨rfl, rfl, rfl, rfl⟩

def shownData (t : Target) (width : Nat) (data : List UInt8) : List UInt8 :=
  if width = 8 then data else shownPair t data

theorem row_message_seen (r : MonomeRotate) (C R : Nat) (shown : Pic (Nat × Nat) Bool) (y : Nat)
    (named : y < logicalRows r C R) (v vals : Nat → Bool)
    (line : shown = if r.swaps then colRun (rowAddress r C R y) 0 (logicalCols r C R) vals
      else rowRun 0 (rowAddress r C R y) (logicalCols r C R) vals)
    (same : ∀ i < logicalCols r C R, vals i = rowValues r C R v i) :
    clip (InGrid C R) shown = seen r C R (rowRun 0 y (logicalCols r C R) v) := by
  apply seen_frame
  intro p inside
  rw [turned_full_row r C R v y named p inside, line]
  cases r.swaps with
  | false => exact congrFun (row_run_congr _ _ _ _ _ fun i low => (same i low).symm) p
  | true => exact congrFun (col_run_congr _ _ _ _ _ fun i low => (same i low).symm) p

theorem col_message_seen (r : MonomeRotate) (C R : Nat) (shown : Pic (Nat × Nat) Bool) (x : Nat)
    (named : x < logicalCols r C R) (v vals : Nat → Bool)
    (line : shown = if !r.swaps then colRun (colAddress r C R x) 0 (logicalRows r C R) vals
      else rowRun 0 (colAddress r C R x) (logicalRows r C R) vals)
    (same : ∀ i < logicalRows r C R, vals i = colValues r C R v i) :
    clip (InGrid C R) shown = seen r C R (colRun x 0 (logicalRows r C R) v) := by
  apply seen_frame
  intro p inside
  rw [turned_full_col r C R v x named p inside, line]
  cases r.swaps with
  | false => exact congrFun (col_run_congr _ _ _ _ _ fun i low => (same i low).symm) p
  | true => exact congrFun (row_run_congr _ _ _ _ _ fun i low => (same i low).symm) p

theorem narrow_run (descends : Bool) (b : UInt8) (rest : List UInt8) (i : Nat) (low : i < 8) :
    runBit [if descends then reverseByte b else b] i =
      (if descends then fun i => runBit (b :: rest) (8 - 1 - i) else runBit (b :: rest)) i := by
  rw [run_bit_head _ [] i low, reversed_run descends b i low]
  cases descends with
  | false => exact (run_bit_head b rest i low).symm
  | true => exact (run_bit_head b rest (7 - i) (by omega)).symm

theorem pair_taken (data : List UInt8) (k : Nat) (low : k < 2) : (data.take 2).getD k 0 = data.getD k 0 := by
  rw [List.getD_eq_getElem?_getD, List.getD_eq_getElem?_getD, List.getElem?_take_of_lt low]

theorem row_address_small (C R : Nat) (sides : SeriesGrid C R) (r : MonomeRotate) (y : Nat)
    (named : y < logicalRows r C R) : rowAddress r C R y < 16 := by
  have rows := (sides.logical C R r).rows
  rw [rowAddress]
  split <;> omega

theorem col_address_small (C R : Nat) (sides : SeriesGrid C R) (r : MonomeRotate) (x : Nat)
    (named : x < logicalCols r C R) : colAddress r C R x < 16 := by
  have cols := (sides.logical C R r).cols
  rw [colAddress]
  split <;> omega

section Series

variable (t : Target) (monome : Monome) (C R : Nat) (sides : SeriesGrid C R) (has : HasGrid monome C R)
  (lamps : Canvas (Nat × Nat) Bool)
include sides has

theorem series_cols_wide : monomeGetCols monome > 8 ↔ logicalCols monome.rotation C R = 16 := by
  have value := get_cols_logical monome C R has
  have two := (sides.logical C R monome.rotation).cols
  rw [gt_iff_lt, Int32.lt_iff_toInt_lt, value]
  show (8 : Int) < _ ↔ _
  omega

theorem series_rows_wide : monomeGetRows monome > 8 ↔ logicalRows monome.rotation C R = 16 := by
  have value := get_rows_logical monome C R has
  have two := (sides.logical C R monome.rotation).rows
  rw [gt_iff_lt, Int32.lt_iff_toInt_lt, value]
  show (8 : Int) < _ ↔ _
  omega

theorem series_row_paints (xOff y : UInt32) (named : y.toNat < logicalRows monome.rotation C R) (count : Nat)
    (data : List UInt8) (covers : logicalCols monome.rotation C R ≤ 8 * count) (supplied : count ≤ data.length) :
    protoSeriesLedRow t (screen C R seriesPicture) monome xOff y count data lamps =
      .ok (0, paint (seen monome.rotation C R (rowRun 0 y.toNat (logicalCols monome.rotation C R)
        (runBit (shownData t (logicalCols monome.rotation C R) data)))) lamps) := by
  have widths := (sides.logical C R monome.rotation).cols
  have address := series_row_address monome C R has y named
  have small := row_address_small C R sides monome.rotation y.toNat named
  rw [← address] at small
  have modes := series_mode_swapped monome (seriesRowAddress monome y)
  rw [protoSeriesLedRow]
  by_cases wide : logicalCols monome.rotation C R = 16
  · rw [if_pos ((series_cols_wide monome C R sides has).mpr wide), if_pos (by omega), protoSeriesLedColRow16,
      if_pos rfl, copyOut, if_pos (by omega), io_check_bind]
    rw [pair_taken data 0 (by decide), pair_taken data 1 (by decide), monome_write_paints, modes.2.2.1, has_flag_row]
    obtain ⟨b, c, pair, _⟩ := series_pair_run t monome.rotation.rowDescends data 0 (by decide)
    rw [pair, row_message_seen monome.rotation C R _ y.toNat named _ (runBit [b, c])]
    · rw [series_picture_wide _ _ small, address, wide]
    · intro i low
      obtain ⟨b', c', same, bit⟩ := series_pair_run t monome.rotation.rowDescends data i (by omega)
      obtain ⟨rfl, rfl⟩ : b = b' ∧ c = c' := by simpa using pair.symm.trans same
      rw [bit, rowValues, wide]
      rfl
  · obtain ⟨b, rest, rfl⟩ : ∃ b rest, data = b :: rest := List.exists_cons_of_length_pos (by omega)
    rw [if_neg (fun more => wide ((series_cols_wide monome C R sides has).mp more)), protoSeriesLedColRow8, if_pos rfl,
      deref, io_check_bind]
    rw [monome_write_paints, modes.1, has_flag_row, row_message_seen monome.rotation C R _ y.toNat named _
      (runBit [if monome.rotation.rowDescends then reverseByte b else b])]
    · rw [series_picture_line _ _ small, address, widths.resolve_right wide]
    · intro i low
      rw [narrow_run _ b rest i (by omega), rowValues, widths.resolve_right wide]
      rfl

theorem series_col_paints (x yOff : UInt32) (named : x.toNat < logicalCols monome.rotation C R) (count : Nat)
    (data : List UInt8) (covers : logicalRows monome.rotation C R ≤ 8 * count) (supplied : count ≤ data.length) :
    protoSeriesLedCol t (screen C R seriesPicture) monome x yOff count data lamps =
      .ok (0, paint (seen monome.rotation C R (colRun x.toNat 0 (logicalRows monome.rotation C R)
        (runBit (shownData t (logicalRows monome.rotation C R) data)))) lamps) := by
  have widths := (sides.logical C R monome.rotation).rows
  have address := series_col_address monome C R has x named
  have small := col_address_small C R sides monome.rotation x.toNat named
  rw [← address] at small
  have modes := series_mode_swapped monome (seriesColAddress monome x)
  rw [protoSeriesLedCol]
  by_cases wide : logicalRows monome.rotation C R = 16
  · rw [if_pos ((series_rows_wide monome C R sides has).mpr wide), if_pos (by omega), protoSeriesLedColRow16,
      if_neg (by decide), if_pos rfl, copyOut, if_pos (by omega), io_check_bind]
    rw [pair_taken data 0 (by decide), pair_taken data 1 (by decide), monome_write_paints, modes.2.2.2, has_flag_col]
    obtain ⟨b, c, pair, _⟩ := series_pair_run t monome.rotation.colDescends data 0 (by decide)
    rw [pair, col_message_seen monome.rotation C R _ x.toNat named _ (runBit [b, c])]
    · rw [series_picture_wide _ _ small, address, wide]
    · intro i low
      obtain ⟨b', c', same, bit⟩ := series_pair_run t monome.rotation.colDescends data i (by omega)
      obtain ⟨rfl, rfl⟩ : b = b' ∧ c = c' := by simpa using pair.symm.trans same
      rw [bit, colValues, wide]
      rfl
  · obtain ⟨b, rest, rfl⟩ : ∃ b rest, data = b :: rest := List.exists_cons_of_length_pos (by omega)
    rw [if_neg (fun more => wide ((series_rows_wide monome C R sides has).mp more)), protoSeriesLedColRow8,
      if_neg (by decide), if_pos rfl, deref, io_check_bind]
    rw [monome_write_paints, modes.2.1, has_flag_col, col_message_seen monome.rotation C R _ x.toNat named _
      (runBit [if monome.rotation.colDescends then reverseByte b else b])]
    · rw [series_picture_line _ _ small, address, widths.resolve_right wide]
    · intro i low
      rw [narrow_run _ b rest i (by omega), colValues, widths.resolve_right wide]
      rfl

theorem series_map_paints (xOff yOff : UInt32) (xAligned : 8 ∣ xOff.toNat) (yAligned : 8 ∣ yOff.toNat)
    (named : InGrid (logicalCols monome.rotation C R) (logicalRows monome.rotation C R) (xOff.toNat, yOff.toNat))
    (data : List UInt8) (supplied : 8 ≤ data.length) :
    protoSeriesLedMap t (screen C R seriesPicture) monome xOff yOff data lamps =
      .ok (0, paint (seen monome.rotation C R (block xOff.toNat yOff.toNat 8 8 (mapBit data))) lamps) := by
  have whole : (data.take 8).length = 8 := by
    rw [List.length_take]
    omega
  have small : C ≤ 16 ∧ R ≤ 16 := ⟨by have := sides.cols; omega, by have := sides.rows; omega⟩
  have grid : BlockGrid C R := ⟨by have := sides.cols; omega, by have := sides.rows; omega, by omega, by omega⟩
  have point := rotate_coords_in_grid monome C R has xOff yOff named
  have inside := turn_in_grid monome.rotation C R _ named
  have below := named
  rw [InGrid, logicalCols, logicalRows] at below
  have turned := turned_block C R grid monome.rotation xOff.toNat yOff.toNat xAligned yAligned
    (by split at below <;> omega) (by split at below <;> omega) (mapBit (data.take 8))
  rw [wire_turn_in_grid _ C R _ ⟨by omega, by omega⟩ named, ← point] at turned
  rw [← point] at inside
  have left : (rotateCoords monome xOff yOff).1.toNat < 16 := lt_of_lt_of_le inside.1 small.1
  have up : (rotateCoords monome xOff yOff).2.toNat < 16 := lt_of_lt_of_le inside.2 small.2
  have quadrant : ((rotateCoords monome xOff yOff).1 / 8 + (rotateCoords monome xOff yOff).2 / 8 * 2).toNat =
      (rotateCoords monome xOff yOff).1.toNat / 8 + (rotateCoords monome xOff yOff).2.toNat / 8 * 2 := by
    rw [UInt32.toNat_add, UInt32.toNat_mul, UInt32.toNat_div, UInt32.toNat_div]
    show (_ / 8 + _ / 8 * 2 % 2 ^ 32) % 2 ^ 32 = _
    omega
  rw [protoSeriesLedMap, copyOut, if_pos supplied, io_check_bind, monome_write_paints, seriesLedFrame,
    series_picture_frame _ (by omega) _ (map_cb_length t _ whole _), quadrant]
  have drawn : block xOff.toNat yOff.toNat 8 8 (mapBit data) = block xOff.toNat yOff.toNat 8 8 (mapBit (data.take 8)) :=
    block_congr _ _ _ _ _ _ fun i _ j low => (map_bit_taken data i j low).symm
  rw [drawn, seen_frame monome.rotation C R _ _ fun p place => ?_]
  rw [turned p place]
  have corner : 8 * (((rotateCoords monome xOff yOff).1.toNat / 8 + (rotateCoords monome xOff yOff).2.toNat / 8 * 2) % 2) =
      (rotateCoords monome xOff yOff).1.toNat / 8 * 8 ∧
      8 * (((rotateCoords monome xOff yOff).1.toNat / 8 + (rotateCoords monome xOff yOff).2.toNat / 8 * 2) / 2) =
      (rotateCoords monome xOff yOff).2.toNat / 8 * 8 := by omega
  rw [corner.1, corner.2]
  exact congrFun (block_congr _ _ _ _ _ _ fun i low j high =>
    (map_cb_turns t (data.take 8) whole i j low high monome.rotation).symm) p

end Series

theorem m40h_mode_swapped (monome : Monome) (address : UInt32) :
    m40hModeByte monome m40hLedRow address =
      (if monome.rotation.swaps then 0x80 else 0x70) ||| (address &&& 0x7).toUInt8 ∧
    m40hModeByte monome m40hLedCol address =
      (if !monome.rotation.swaps then 0x80 else 0x70) ||| (address &&& 0x7).toUInt8 := by
  simp only [m40hModeByte, has_flag_swap]
  cases monome.rotation.swaps <;> exact ⟨rfl, rfl⟩

theorem eight_logical (r : MonomeRotate) : logicalCols r 8 8 = 8 ∧ logicalRows r 8 8 = 8 := by
  rw [logicalCols, logicalRows]
  cases r.swaps <;> exact ⟨rfl, rfl⟩

section M40h

variable (monome : Monome) (has : HasGrid monome 8 8) (lamps : Canvas (Nat × Nat) Bool)
include has

theorem m40h_row_paints (xOff y : UInt32) (named : y.toNat < logicalRows monome.rotation 8 8) (count : Nat)
    (data : List UInt8) (supplied : 1 ≤ data.length) :
    proto40hLedRow (screen 8 8 m40hPicture) monome xOff y count data lamps =
      .ok (0, paint (seen monome.rotation 8 8
        (rowRun 0 y.toNat (logicalCols monome.rotation 8 8) (runBit data))) lamps) := by
  obtain ⟨b, rest, rfl⟩ : ∃ b rest, data = b :: rest := List.exists_cons_of_length_pos supplied
  have widths := eight_logical monome.rotation
  have address := m40h_row_address monome 8 8 has rfl y named
  have small : (rotateCoords monome y y).1.toNat < 8 := by
    rw [address, rowAddress]
    split <;> omega
  rw [proto40hLedRow, proto40hLedColRow]
  simp only [if_true]
  rw [deref, io_check_bind, monome_write_paints, (m40h_mode_swapped monome _).1, has_flag_row,
    row_message_seen monome.rotation 8 8 _ y.toNat named (runBit (b :: rest))
      (runBit [if monome.rotation.rowDescends then reverseByte b else b])]
  · rw [m40h_picture_line _ _ small, address, widths.1]
  · intro i low
    rw [narrow_run _ b rest i (by omega), rowValues, widths.1]

theorem m40h_col_paints (x yOff : UInt32) (named : x.toNat < logicalCols monome.rotation 8 8) (count : Nat)
    (data : List UInt8) (supplied : 1 ≤ data.length) :
    proto40hLedCol (screen 8 8 m40hPicture) monome x yOff count data lamps =
      .ok (0, paint (seen monome.rotation 8 8
        (colRun x.toNat 0 (logicalRows monome.rotation 8 8) (runBit data))) lamps) := by
  obtain ⟨b, rest, rfl⟩ : ∃ b rest, data = b :: rest := List.exists_cons_of_length_pos supplied
  have widths := eight_logical monome.rotation
  have address := m40h_col_address monome 8 8 has rfl x named
  have small : (rotateCoords monome x x).2.toNat < 8 := by
    rw [address, colAddress]
    split <;> omega
  rw [proto40hLedCol, proto40hLedColRow]
  simp only [if_neg (show ¬ m40hLedCol = m40hLedRow by decide), if_true]
  rw [deref, io_check_bind, monome_write_paints, (m40h_mode_swapped monome _).2, has_flag_col,
    col_message_seen monome.rotation 8 8 _ x.toNat named (runBit (b :: rest))
      (runBit [if monome.rotation.colDescends then reverseByte b else b])]
  · rw [m40h_picture_line _ _ small, address, widths.2]
  · intro i low
    rw [narrow_run _ b rest i (by omega), colValues, widths.2]

end M40h

-- Calls that name a whole line of the logical grid, or an aligned block of it,
-- on a backend that draws by lines.
inductive LineCall where
  | row (y : UInt32) (count : Nat) (data : List UInt8)
  | col (x : UInt32) (count : Nat) (data : List UInt8)
  | map (xOff yOff : UInt32) (data : List UInt8)

namespace LineCall

def run {ω : Type} (t : Target) (P : Platform ω) (device : Device) : LineCall → Io ω Int32
  | row y count data => device.ledRow t P 0 y count data
  | col x count data => device.ledCol t P x 0 count data
  | map xOff yOff data => device.ledMap t P xOff yOff data

def cells (device : Device) (C R : Nat) : LineCall → List ((Nat × Nat) × Bool)
  | row y _ data => rowDots 0 y.toNat (logicalCols device.monome.rotation C R) (runBit data)
  | col x _ data => colDots x.toNat 0 (logicalRows device.monome.rotation C R) (runBit data)
  | map xOff yOff data => blockDots xOff.toNat yOff.toNat 8 8 (mapBit data)

def picture (device : Device) (C R : Nat) : LineCall → Pic (Nat × Nat) Bool
  | row y _ data => rowRun 0 y.toNat (logicalCols device.monome.rotation C R) (runBit data)
  | col x _ data => colRun x.toNat 0 (logicalRows device.monome.rotation C R) (runBit data)
  | map xOff yOff data => block xOff.toNat yOff.toNat 8 8 (mapBit data)

def Names (device : Device) (C R : Nat) : LineCall → Prop
  | row y count data => y.toNat < logicalRows device.monome.rotation C R ∧
      logicalCols device.monome.rotation C R ≤ 8 * count ∧ count ≤ data.length
  | col x count data => x.toNat < logicalCols device.monome.rotation C R ∧
      logicalRows device.monome.rotation C R ≤ 8 * count ∧ count ≤ data.length
  | map xOff yOff data => (8 ∣ xOff.toNat ∧ 8 ∣ yOff.toNat) ∧
      InGrid (logicalCols device.monome.rotation C R) (logicalRows device.monome.rotation C R)
        (xOff.toNat, yOff.toNat) ∧ 8 ≤ data.length

def widePair (device : Device) (C R : Nat) : LineCall → Option (UInt8 × UInt8)
  | row _ _ data =>
      if logicalCols device.monome.rotation C R = 16 then some (data.getD 0 0, data.getD 1 0) else none
  | col _ _ data =>
      if logicalRows device.monome.rotation C R = 16 then some (data.getD 0 0, data.getD 1 0) else none
  | map _ _ _ => none

end LineCall

def LineCall.Draws (device : Device) (C R : Nat) (call : LineCall) : Prop :=
  match device, call with
  | .mext _, _ => False
  | .series _, _ => SeriesGrid C R
  | .m40h _, .map _ _ _ => False
  | .m40h _, .row _ _ _ | .m40h _, .col _ _ _ => C = 8 ∧ R = 8

def Device.picture : Device → List UInt8 → Pic (Nat × Nat) Bool
  | .mext _ => mextBitPicture
  | .series _ => seriesPicture
  | .m40h _ => m40hPicture

def LineCall.shown (t : Target) (device : Device) (C R : Nat) : LineCall → Pic (Nat × Nat) Bool
  | .row y _ data => rowRun 0 y.toNat (logicalCols device.monome.rotation C R)
      (runBit (shownData t (logicalCols device.monome.rotation C R) data))
  | .col x _ data => colRun x.toNat 0 (logicalRows device.monome.rotation C R)
      (runBit (shownData t (logicalRows device.monome.rotation C R) data))
  | .map xOff yOff data => block xOff.toNat yOff.toNat 8 8 (mapBit data)

theorem run_bit_pair (data : List UInt8) (i : Nat) (inside : i < 16) :
    runBit [data.getD 0 0, data.getD 1 0] i = runBit data i := by
  rw [run_bit_two, runBit]
  by_cases low : i < 8
  · rw [if_pos low, show i / 8 = 0 by omega, show i % 8 = i by omega]
  · rw [if_neg low, if_pos inside, show i / 8 = 1 by omega, show i % 8 = i - 8 by omega]

theorem shown_data_run (t : Target) (width : Nat) (data : List UInt8) (widths : width = 8 ∨ width = 16)
    (fair : t.bigEndian = false ∨ width ≠ 16 ∨ data.getD 0 0 = data.getD 1 0) (i : Nat) (inside : i < width) :
    runBit (shownData t width data) i = runBit data i := by
  rcases widths with rfl | rfl
  · rfl
  · rw [shownData, if_neg (by decide), shownPair]
    rcases fair with little | narrow | twin
    · rw [if_neg (by simp [little]), run_bit_pair data i inside]
    · exact absurd rfl narrow
    · rw [← run_bit_pair data i inside, twin]
      split <;> rfl

section Calls

variable (t : Target) (device : Device) (C R : Nat) (has : HasGrid device.monome C R) (call : LineCall)
  (draws : call.Draws device C R) (lamps : Canvas (Nat × Nat) Bool)
include has draws

theorem line_call_shows (names : call.Names device C R) : ∃ status,
    call.run t (screen C R device.picture) device lamps =
      .ok (status, paint (seen device.monome.rotation C R (call.shown t device C R)) lamps) := by
  cases device with
  | mext self => exact absurd draws id
  | series self =>
      cases call with
      | row y count data =>
          exact ⟨0, series_row_paints t self.monome C R draws has lamps 0 y names.1 count data names.2.1 names.2.2⟩
      | col x count data =>
          exact ⟨0, series_col_paints t self.monome C R draws has lamps x 0 names.1 count data names.2.1 names.2.2⟩
      | map xOff yOff data =>
          exact ⟨0, series_map_paints t self.monome C R draws has lamps xOff yOff names.1.1 names.1.2 names.2.1 data
            names.2.2⟩
  | m40h self =>
      cases call with
      | row y count data =>
          obtain ⟨rfl, rfl⟩ := draws
          obtain ⟨named, covers, supplied⟩ := names
          have width : logicalCols self.parent.rotation 8 8 = 8 := (eight_logical _).1
          refine ⟨0, (m40h_row_paints self.parent has lamps 0 y named count data ?_).trans ?_⟩
          · simp only [Device.monome, width] at covers
            omega
          · simp only [LineCall.shown, Device.monome, width]
            rfl
      | col x count data =>
          obtain ⟨rfl, rfl⟩ := draws
          obtain ⟨named, covers, supplied⟩ := names
          have width : logicalRows self.parent.rotation 8 8 = 8 := (eight_logical _).2
          refine ⟨0, (m40h_col_paints self.parent has lamps x 0 named count data ?_).trans ?_⟩
          · simp only [Device.monome, width] at covers
            omega
          · simp only [LineCall.shown, Device.monome, width]
            rfl
      | map xOff yOff data => exact absurd draws id

theorem line_sides : SeriesGrid C R := by
  cases device with
  | mext self => exact absurd draws id
  | series self => exact draws
  | m40h self =>
      cases call with
      | map xOff yOff data => exact absurd draws id
      | row y count data | col x count data => exact ⟨.inl draws.1, .inl draws.2⟩

theorem line_set_paints (x y on : UInt32) (named : InGrid (logicalCols device.monome.rotation C R)
    (logicalRows device.monome.rotation C R) (x.toNat, y.toNat)) :
    ∃ status, device.ledSet (screen C R device.picture) x y on lamps = .ok (status,
      paint (seen device.monome.rotation C R (dot (x.toNat, y.toNat) (decide (on ≠ 0)))) lamps) := by
  have sides := line_sides device C R has call draws
  have small : C ≤ 16 ∧ R ≤ 16 := ⟨by have := sides.cols; omega, by have := sides.rows; omega⟩
  have place := rotated_pair_place device.monome C R has small x y named
  rw [← dot_seen _ C R _ named, ← place]
  cases device with
  | mext self => exact absurd draws id
  | series self =>
      refine ⟨0, ?_⟩
      rw [Device.ledSet, protoSeriesLedSet, monome_write_paints]
      by_cases dark : on = 0
      · simp only [if_pos dark, decide_eq_false (not_not.mpr dark)]
        rfl
      · simp only [if_neg dark, decide_eq_true dark]
        rfl
  | m40h self =>
      have eight : C = 8 ∧ R = 8 := by
        cases call with
        | map xOff yOff data => exact absurd draws id
        | row y count data | col x count data => exact draws
      refine ⟨0, ?_⟩
      rw [Device.ledSet, m40h_set_unmasked self.parent C R has eight x y on named, monome_write_paints]
      by_cases dark : on = 0
      · simp only [if_pos dark, decide_eq_false (not_not.mpr dark)]
        rfl
      · simp only [if_neg dark, decide_eq_true dark]
        rfl

theorem line_sets_paint (dots : List ((Nat × Nat) × Bool)) (named : ∀ d ∈ dots,
    InGrid (logicalCols device.monome.rotation C R) (logicalRows device.monome.rotation C R) d.1) :
    device.ledSets (screen C R device.picture) dots lamps =
      .ok ((), paint (seen device.monome.rotation C R (dotted dots)) lamps) := by
  have sides := (line_sides device C R has call draws).logical C R device.monome.rotation
  induction dots generalizing lamps with
  | nil =>
      rw [dotted, List.map_nil, stack, seen_blank, paint_blank]
      rfl
  | cons d rest ih =>
      have inside := named d (by simp)
      have cols := sides.cols
      have rows := sides.rows
      have x : (UInt32.ofNat d.1.1).toNat = d.1.1 := by
        rw [UInt32.toNat_ofNat', Nat.mod_eq_of_lt (by have := inside.1; omega)]
      have y : (UInt32.ofNat d.1.2).toNat = d.1.2 := by
        rw [UInt32.toNat_ofNat', Nat.mod_eq_of_lt (by have := inside.2; omega)]
      have bit : decide ((if d.2 then 1 else 0 : UInt32) ≠ 0) = d.2 := by
        cases d.2 <;> rfl
      obtain ⟨status, lit⟩ := line_set_paints device C R has call draws lamps (UInt32.ofNat d.1.1) (UInt32.ofNat d.1.2)
        (if d.2 then 1 else 0) (by rwa [x, y])
      rw [Device.ledSets, io_bind_ok _ _ _ _ _ lit, ih _ (fun e member => named e (by simp [member])), x, y, bit, dotted,
        dotted, List.map_cons, stack, seen_atop, paint_atop]

omit has draws in
theorem line_cells_list : Lists (call.cells device C R) (call.picture device C R) := by
  cases call with
  | row y count data => exact row_dots_list _ _ _ _
  | col x count data => exact col_dots_list _ _ _ _
  | map xOff yOff data => exact block_dots_list _ _ _ _ _

theorem line_cells_named (names : call.Names device C R) (d : (Nat × Nat) × Bool) (member : d ∈ call.cells device C R) :
    InGrid (logicalCols device.monome.rotation C R) (logicalRows device.monome.rotation C R) d.1 := by
  have sides := (line_sides device C R has call draws).logical C R device.monome.rotation
  cases call with
  | row y count data =>
      obtain ⟨i, bound, rfl⟩ := List.mem_map.mp member
      exact ⟨by simpa using bound, names.1⟩
  | col x count data =>
      obtain ⟨i, bound, rfl⟩ := List.mem_map.mp member
      exact ⟨names.1, by simpa using bound⟩
  | map xOff yOff data =>
      obtain ⟨j, below, row⟩ := List.mem_flatMap.mp member
      obtain ⟨i, left, rfl⟩ := List.mem_map.mp row
      obtain ⟨⟨xAligned, yAligned⟩, ⟨xInside, yInside⟩, _⟩ := names
      have cols := sides.cols
      have rows := sides.rows
      simp only [List.mem_range] at below left
      simp only at xInside yInside
      constructor <;> simp only <;> omega

end Calls

theorem painted_alike (r : MonomeRotate) (C R : Nat) (lamps : Canvas (Nat × Nat) Bool) (a b : Pic (Nat × Nat) Bool)
    (alike : paint (seen r C R a) lamps = paint (seen r C R b) lamps) (cell : Nat × Nat)
    (named : InGrid (logicalCols r C R) (logicalRows r C R) cell) (v w : Bool) (left : a cell = some v)
    (right : b cell = some w) : v = w := by
  have value := congrFun alike (turn r C R cell)
  have inside := turn_in_grid r C R cell named
  have back := unturn_turn r C R cell named
  rwa [paint_drawn _ _ _ v (by rw [seen, clip, if_pos inside, pull, back, left]),
    paint_drawn _ _ _ w (by rw [seen, clip, if_pos inside, pull, back, right])] at value

theorem twin_of_shown (t : Target) (data : List UInt8) (big : t.bigEndian = true)
    (same : ∀ i < 8, runBit (shownPair t data) i = runBit data i) : data.getD 0 0 = data.getD 1 0 := by
  apply byte_ext
  intro i low
  have bits := same i low
  rw [shownPair, if_pos big, run_bit_head _ _ i low, runBit, show i / 8 = 0 by omega, show i % 8 = i by omega] at bits
  exact bits.symm

theorem full_lines_agree_iff (t : Target) (device : Device) (C R : Nat) (has : HasGrid device.monome C R)
    (call : LineCall) (draws : call.Draws device C R) (names : call.Names device C R)
    (lamps : Canvas (Nat × Nat) Bool) :
    (∃ status after, call.run t (screen C R device.picture) device lamps = .ok (status, after) ∧
      device.ledSets (screen C R device.picture) (call.cells device C R) lamps = .ok ((), after)) ↔
    (t.bigEndian = false ∨ ∀ pair, call.widePair device C R = some pair → pair.1 = pair.2) := by
  have sides := (line_sides device C R has call draws).logical C R device.monome.rotation
  obtain ⟨status, shows⟩ := line_call_shows t device C R has call draws lamps names
  have sets := line_sets_paint device C R has call draws lamps (call.cells device C R)
    (line_cells_named device C R has call draws names)
  rw [dotted_lists _ _ (line_cells_list device C R call)] at sets
  rw [shows, sets]
  constructor
  · rintro ⟨_, after, left, right⟩
    have alike := (Prod.mk.inj (Except.ok.inj left)).2.trans (Prod.mk.inj (Except.ok.inj right)).2.symm
    cases big : t.bigEndian with
    | false => exact .inl rfl
    | true =>
        refine .inr fun pair wide => ?_
        cases call with
        | map xOff yOff data => simp [LineCall.widePair] at wide
        | row y count data =>
            rw [LineCall.widePair] at wide
            split at wide
            · rename_i sixteen
              cases wide
              refine twin_of_shown t data big fun i low => painted_alike _ C R lamps _ _ alike (0 + i, y.toNat)
                ⟨by simp only [sixteen]; omega, names.1⟩ _ _ ?_ (row_run_cell _ _ _ _ i (by omega))
              have cell := row_run_cell 0 y.toNat 16 (runBit (shownData t 16 data)) i (by omega)
              rw [← sixteen] at cell
              exact cell.trans (by rw [sixteen]; rfl)
            · cases wide
        | col x count data =>
            rw [LineCall.widePair] at wide
            split at wide
            · rename_i sixteen
              cases wide
              refine twin_of_shown t data big fun i low => painted_alike _ C R lamps _ _ alike (x.toNat, 0 + i)
                ⟨names.1, by simp only [sixteen]; omega⟩ _ _ ?_ (col_run_cell _ _ _ _ i (by omega))
              have cell := col_run_cell x.toNat 0 16 (runBit (shownData t 16 data)) i (by omega)
              rw [← sixteen] at cell
              exact cell.trans (by rw [sixteen]; rfl)
            · cases wide
  · intro fair
    have same : call.shown t device C R = call.picture device C R := by
      cases call with
      | map xOff yOff data => rfl
      | row y count data =>
          refine row_run_congr _ _ _ _ _ (shown_data_run t _ data sides.cols ?_)
          rcases fair with little | twin
          · exact .inl little
          · by_cases sixteen : logicalCols device.monome.rotation C R = 16
            · exact .inr (.inr (twin _ (by rw [LineCall.widePair, if_pos sixteen])))
            · exact .inr (.inl sixteen)
      | col x count data =>
          refine col_run_congr _ _ _ _ _ (shown_data_run t _ data sides.rows ?_)
          rcases fair with little | twin
          · exact .inl little
          · by_cases sixteen : logicalRows device.monome.rotation C R = 16
            · exact .inr (.inr (twin _ (by rw [LineCall.widePair, if_pos sixteen])))
            · exact .inr (.inl sixteen)
    rw [same]
    exact ⟨status, _, rfl, rfl⟩

theorem full_lines_agree_col : ∃ status after,
    (LineCall.col 3 2 [0x05, 0xF0]).run ⟨true, false⟩ (screen 8 16 seriesPicture)
      (.series ⟨⟨16, 8, .rotate180, none, .unset⟩, 0, 0⟩) (fun _ => false) = .ok (status, after) ∧
    (Device.series ⟨⟨16, 8, .rotate180, none, .unset⟩, 0, 0⟩).ledSets (screen 8 16 seriesPicture)
      ((LineCall.col 3 2 [0x05, 0xF0]).cells (.series ⟨⟨16, 8, .rotate180, none, .unset⟩, 0, 0⟩) 8 16)
      (fun _ => false) = .ok ((), after) :=
  (full_lines_agree_iff ⟨true, false⟩ (.series ⟨⟨16, 8, .rotate180, none, .unset⟩, 0, 0⟩) 8 16
    ⟨by decide, by decide⟩ (.col 3 2 [0x05, 0xF0]) ⟨by decide, by decide⟩ ⟨by decide, by decide, by decide⟩
    (fun _ => false)).mpr (.inl rfl)

-- A big-endian build: the first cell of the row stays dark, and the ninth
-- lights in its place.
theorem big_endian_row_differs : ¬ ∃ status after,
    (LineCall.row 0 2 [0x01, 0x00]).run ⟨true, true⟩ (screen 16 16 seriesPicture)
      (.series ⟨⟨16, 16, .rotate0, none, .unset⟩, 0, 0⟩) (fun _ => false) = .ok (status, after) ∧
    (Device.series ⟨⟨16, 16, .rotate0, none, .unset⟩, 0, 0⟩).ledSets (screen 16 16 seriesPicture)
      ((LineCall.row 0 2 [0x01, 0x00]).cells (.series ⟨⟨16, 16, .rotate0, none, .unset⟩, 0, 0⟩) 16 16)
      (fun _ => false) = .ok ((), after) := by
  rintro ⟨status, after, drawn, set⟩
  have dark := congrArg (fun r => r.toOption.map fun a => a.2 (0, 0)) drawn
  have lit := congrArg (fun r => r.toOption.map fun a => a.2 (0, 0)) set
  have off : after (0, 0) = false := (Option.some.inj dark).symm
  have on : after (0, 0) = true := (Option.some.inj lit).symm
  exact absurd (off.symm.trans on) (by decide)

end Libmonome
