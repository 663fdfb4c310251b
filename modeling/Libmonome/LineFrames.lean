import Libmonome.LevelMaps
import Libmonome.Lib.Triple
import Libmonome.Panel

set_option autoImplicit false

namespace Libmonome

open Picture Triple

-- The single-brightness grids at the end of a byte line. The mode in the upper
-- half of a series header says how much follows; a 40h message is two bytes.
inductive LineGrid where
  | series
  | m40h
deriving DecidableEq, Repr

def LineGrid.size : LineGrid → UInt8 → Nat
  | series, header =>
      if header &&& 0xF0 ∈ [0x20, 0x30, 0x40, 0x50] then 1
      else if header &&& 0xF0 ∈ [0x60, 0x70] then 2
      else if header &&& 0xF0 = 0x80 then 8
      else 0
  | m40h, _ => 1

def LineGrid.Framed (grid : LineGrid) : List UInt8 → Prop
  | [] => False
  | header :: payload => payload ≠ [] ∧ payload.length = grid.size header

def LineGrid.AllFramed (grid : LineGrid) (l : Link) : Prop := ∀ frame ∈ l.sent, grid.Framed frame

abbrev LineGrid.Frames {α : Type} (grid : LineGrid) (call : Io Link α) : Prop :=
  Ensures grid.AllFramed call fun _ => grid.AllFramed

section Framing

variable {α β : Type} (grid : LineGrid)

theorem frames_nothing (a : α) : grid.Frames (pure a) := ensures_pure _ _ _ fun _ kept => kept

theorem frames_bind (x : Io Link α) (f : α → Io Link β) (first : grid.Frames x) (rest : ∀ a, grid.Frames (f a)) :
    grid.Frames (x >>= f) := ensures_bind _ _ _ _ _ first rest

theorem frames_check (value : Except Fault α) (f : α → Io Link β) (rest : ∀ a, value = .ok a → grid.Frames (f a)) :
    grid.Frames (Io.check value >>= f) := by
  intro l b l' kept ran
  cases value with
  | error fault => cases ran
  | ok a => exact rest a rfl l b l' kept ran

theorem frames_write (frame : List UInt8) (framed : grid.Framed frame) : grid.Frames (monomeWrite link frame) := by
  intro l status l' kept ran f member
  have sent : l' = { l with sent := l.sent ++ [frame] } := (Prod.mk.inj (Except.ok.inj ran)).2.symm
  rw [sent] at member
  rcases List.mem_append.mp member with earlier | last
  · exact kept f earlier
  · rwa [List.mem_singleton.mp last]

end Framing

set_option maxRecDepth 4000 in
theorem mode_sizes : ∀ n < 16, (∀ mode ∈ [0x40, 0x50], LineGrid.size .series (mode ||| UInt8.ofNat n) = 1) ∧
    (∀ mode ∈ [0x60, 0x70], LineGrid.size .series (mode ||| UInt8.ofNat n) = 2) ∧
    LineGrid.size .series (0x80 ||| UInt8.ofNat n) = 8 := by decide

theorem nibble_listed (address : UInt32) : ∃ n < 16, (address &&& 0x0F).toUInt8 = UInt8.ofNat n := by
  refine ⟨(address &&& 0x0F).toNat, ?_, ?_⟩
  · rw [UInt32.toNat_and]
    exact Nat.lt_of_le_of_lt Nat.and_le_right (by decide)
  · rfl

section Series

variable (t : Target) (monome : Monome)

theorem line_mode_size (wide col : Bool) (address : UInt32) :
    LineGrid.size .series ((if wide then if col then 0x70 else 0x60 else if col then 0x50 else 0x40) |||
      (address &&& 0x0F).toUInt8) = if wide then 2 else 1 := by
  obtain ⟨n, small, nibble⟩ := nibble_listed address
  obtain ⟨narrow, double, _⟩ := mode_sizes n small
  rw [nibble]
  cases wide <;> cases col
  · exact narrow 0x40 (by decide)
  · exact narrow 0x50 (by decide)
  · exact double 0x60 (by decide)
  · exact double 0x70 (by decide)

theorem series_pair_length (rev : Bool) (b c : UInt8) : (seriesPair t rev b c).length = 2 := by
  rw [seriesPair]
  cases t.bigEndian <;> cases rev <;> rfl

theorem series_wide_framed (header : UInt8) (rev : Bool) (b c : UInt8) (mode : LineGrid.size .series header = 2) :
    LineGrid.series.Framed (header :: seriesPair t rev b c) := by
  have two := series_pair_length t rev b c
  exact ⟨List.ne_nil_of_length_pos (by omega), two.trans mode.symm⟩

theorem series_row_frames (xOff y : UInt32) (count : Nat) (data : List UInt8) :
    LineGrid.series.Frames (protoSeriesLedRow t link monome xOff y count data) := by
  have modes := series_mode_swapped monome (seriesRowAddress monome y)
  have narrow := line_mode_size false monome.rotation.swaps (seriesRowAddress monome y)
  have double := line_mode_size true monome.rotation.swaps (seriesRowAddress monome y)
  rw [if_neg Bool.false_ne_true] at narrow
  rw [if_pos rfl] at double
  rw [← modes.1] at narrow
  rw [← modes.2.2.1] at double
  have wide (data : List UInt8) : LineGrid.series.Frames (protoSeriesLedColRow16 t link monome seriesLedRow16 y data) := by
    rw [protoSeriesLedColRow16, if_pos rfl]
    exact frames_check _ _ _ fun pair _ => frames_write _ _ (series_wide_framed t _ _ _ _ double)
  rw [protoSeriesLedRow]
  by_cases more : monomeGetCols monome > 8
  · rw [if_pos more]
    by_cases pair : count > 1
    · rw [if_pos pair]
      exact wide data
    · rw [if_neg pair]
      exact frames_check _ _ _ fun b _ => wide _
  · rw [if_neg more, protoSeriesLedColRow8, if_pos rfl]
    exact frames_check _ _ _ fun b _ => frames_write _ _ ⟨List.cons_ne_nil _ _, narrow.symm⟩

theorem series_col_frames (x yOff : UInt32) (count : Nat) (data : List UInt8) :
    LineGrid.series.Frames (protoSeriesLedCol t link monome x yOff count data) := by
  have modes := series_mode_swapped monome (seriesColAddress monome x)
  have narrow := line_mode_size false (!monome.rotation.swaps) (seriesColAddress monome x)
  have double := line_mode_size true (!monome.rotation.swaps) (seriesColAddress monome x)
  rw [if_neg Bool.false_ne_true] at narrow
  rw [if_pos rfl] at double
  rw [← modes.2.1] at narrow
  rw [← modes.2.2.2] at double
  have wide (data : List UInt8) : LineGrid.series.Frames (protoSeriesLedColRow16 t link monome seriesLedCol16 x data) := by
    rw [protoSeriesLedColRow16, if_neg (by decide), if_pos rfl]
    exact frames_check _ _ _ fun pair _ => frames_write _ _ (series_wide_framed t _ _ _ _ double)
  rw [protoSeriesLedCol]
  by_cases more : monomeGetRows monome > 8
  · rw [if_pos more]
    by_cases pair : count > 1
    · rw [if_pos pair]
      exact wide data
    · rw [if_neg pair]
      exact frames_check _ _ _ fun b _ => wide _
  · rw [if_neg more, protoSeriesLedColRow8, if_neg (by decide), if_pos rfl]
    exact frames_check _ _ _ fun b _ => frames_write _ _ ⟨List.cons_ne_nil _ _, narrow.symm⟩

theorem series_set_frames (x y on : UInt32) : LineGrid.series.Frames (protoSeriesLedSet link monome x y on) := by
  apply frames_write
  by_cases dark : on = 0
  · rw [if_pos dark]
    exact ⟨List.cons_ne_nil _ _, (by decide : 1 = LineGrid.size .series (seriesLedOn + ((1 : UInt8) <<< 4)))⟩
  · rw [if_neg dark]
    exact ⟨List.cons_ne_nil _ _, (by decide : 1 = LineGrid.size .series (seriesLedOn + ((0 : UInt8) <<< 4)))⟩

theorem series_map_frames (xOff yOff : UInt32) (data : List UInt8) :
    LineGrid.series.Frames (protoSeriesLedMap t link monome xOff yOff data) := by
  refine frames_check _ _ _ fun copied copy => frames_write _ _ ?_
  have eight := map_cb_length t copied (copied_out 8 data copied copy) monome.rotation
  have quadrant (q : UInt32) : (q &&& 0x03) &&& 0x0F = q &&& 0x03 := by
    rw [UInt32.and_assoc]
    rfl
  obtain ⟨n, small, nibble⟩ := nibble_listed (((rotateCoords monome xOff yOff).1 / 8 +
    (rotateCoords monome xOff yOff).2 / 8 * 2) &&& 0x03)
  rw [quadrant] at nibble
  rw [nibble]
  exact ⟨List.ne_nil_of_length_pos (by omega), eight.trans (mode_sizes n small).2.2.symm⟩

end Series

section M40h

variable (t : Target) (monome : Monome)

theorem m40h_pair_framed (a b : UInt8) : LineGrid.m40h.Framed [a, b] := ⟨List.cons_ne_nil _ _, rfl⟩

theorem m40h_col_row_frames (mode : UInt8) (address : UInt32) (data : List UInt8) :
    LineGrid.m40h.Frames (proto40hLedColRow link monome mode address data) := by
  rw [proto40hLedColRow]
  refine ensures_ite _ _ _ _ _ (fun _ => ?_) fun _ => ensures_ite _ _ _ _ _ (fun _ => ?_) fun _ => frames_nothing _ _
  · exact frames_check _ _ _ fun b _ => frames_write _ _ (m40h_pair_framed _ _)
  · exact frames_check _ _ _ fun b _ => frames_write _ _ (m40h_pair_framed _ _)

theorem m40h_map_loop_frames (buf : List UInt8) (rows : List Nat) (ret : Int32) :
    LineGrid.m40h.Frames (proto40hLedMapLoop link monome buf rows ret) := by
  induction rows generalizing ret with
  | nil => exact frames_nothing _ _
  | cons i rest ih => exact frames_bind _ _ _ (m40h_col_row_frames monome _ _ _) fun status => ih _

theorem m40h_all_loop_frames (value : UInt8) (rows : List Nat) :
    LineGrid.m40h.Frames (proto40hLedAllLoop link value rows) := by
  induction rows with
  | nil => exact frames_nothing _ _
  | cons i rest ih => exact frames_bind _ _ _ (frames_write _ _ (m40h_pair_framed _ _)) fun _ => ih

theorem m40h_frames (call : OutputCall) : LineGrid.m40h.Frames (proto40hOutput t link monome call) := by
  have all (status : UInt32) : LineGrid.m40h.Frames (proto40hLedAll link status) :=
    frames_bind _ _ _ (m40h_all_loop_frames _ _) fun _ => frames_nothing _ _
  have map (xOff yOff : UInt32) (data : List UInt8) : LineGrid.m40h.Frames (proto40hLedMap t link monome xOff yOff data) :=
    frames_check _ _ _ fun copied _ => m40h_map_loop_frames monome _ _ _
  cases call with
  | ledSet | ledIntensity | ledLevelSet | tiltEnable | tiltDisable => exact frames_write _ _ (m40h_pair_framed _ _)
  | ledAll status => exact all status
  | ledLevelAll level => exact all _
  | ledMap xOff yOff data => exact map xOff yOff data
  | ledLevelMap xOff yOff levels => exact frames_check _ _ _ fun copied _ => map xOff yOff _
  | ledRow xOff y count data => exact m40h_col_row_frames monome m40hLedRow y data
  | ledCol x yOff count data => exact m40h_col_row_frames monome m40hLedCol x data
  | ledLevelRow | ledLevelCol => exact frames_check _ _ _ fun masks _ => m40h_col_row_frames monome _ _ _
  | ledRingSet | ledRingAll | ledRingMap | ledRingRange | ledRingIntensity => exact frames_nothing _ _

end M40h

end Libmonome
