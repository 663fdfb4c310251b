import Libmonome.Buffers
import Libmonome.LineFrames
import Libmonome.PartialLines

set_option autoImplicit false

namespace Libmonome

open Picture BitMoves Triple

def LineGrid.picture : LineGrid → List UInt8 → Pic (Nat × Nat) Bool
  | series, bytes =>
      if bytes = [0x90] then flood false else if bytes = [0x91] then flood true else seriesPicture bytes
  | m40h, bytes => m40hPicture bytes

def LineGrid.lamp (grid : LineGrid) (C R : Nat) (record : UInt8 × List UInt8) : Pic (Nat × Nat) Bool :=
  clip (InGrid C R) (grid.picture (Records.bytes record))

def Device.lineGrid : Device → Option LineGrid
  | mext _ => none
  | series _ => some .series
  | m40h _ => some .m40h

-- A line as the backends send it: of a line of sixteen one byte shows the first
-- half and darkens the second, and a big-endian build swaps the halves of two.
def lineValues (t : Target) (width count : Nat) (v : Nat → Bool) (i : Nat) : Bool :=
  if width = 8 then v i
  else if count ≤ 1 then decide (i < 8) && v i
  else if t.bigEndian then v ((i + 8) % 16)
  else v i

-- How often led_map turns the picture apart from the turn led_set makes, and
-- level_map does once more; and which statuses led_all takes for on.
def LineGrid.turns : LineGrid → Nat
  | series => 0
  | m40h => 1

def LineGrid.lit : LineGrid → UInt32 → Bool
  | series, status => decide (status &&& 1 ≠ 0)
  | m40h, status => decide (status ≠ 0)

def levelAbove (levels : List UInt8) (i : Nat) : Bool := decide (levels.getD i 0 > 7)

section Pictures

variable (grid : LineGrid) (t : Target) (C R : Nat) (r : MonomeRotate)

def rowPicture (y : UInt32) (count : Nat) (v : Nat → Bool) : Pic (Nat × Nat) Bool :=
  rowRun 0 y.toNat (logicalCols r C R) (lineValues t (logicalCols r C R) count v)

def colPicture (x : UInt32) (count : Nat) (v : Nat → Bool) : Pic (Nat × Nat) Bool :=
  colRun x.toNat 0 (logicalRows r C R) (lineValues t (logicalRows r C R) count v)

def mapPicture (turns : Nat) (xOff yOff : UInt32) (v : Nat → Nat → Bool) : Pic (Nat × Nat) Bool :=
  block xOff.toNat yOff.toNat 8 8 fun i j => v (turnedBack r turns (i, j)).1 (turnedBack r turns (i, j)).2

-- What a call draws in the grid the program sees. Neither line offset counts.
def LineGrid.draw : OutputCall → Pic (Nat × Nat) Bool
  | .ledSet x y on => dot (x.toNat, y.toNat) (decide (on ≠ 0))
  | .ledAll status => flood (grid.lit status)
  | .ledMap xOff yOff data => mapPicture r grid.turns xOff yOff (mapBit data)
  | .ledRow _ y count data => rowPicture t C R r y count (runBit data)
  | .ledCol x _ count data => colPicture t C R r x count (runBit data)
  | .ledLevelSet x y level => dot (x.toNat, y.toNat) (decide (level > 7))
  | .ledLevelAll level => flood (decide (level > 7))
  | .ledLevelMap xOff yOff levels => mapPicture r (grid.turns + 1) xOff yOff (levelBit levels)
  | .ledLevelRow _ row count levels => rowPicture t C R r row (levelChunks count) (levelAbove levels)
  | .ledLevelCol col _ count levels => colPicture t C R r col (levelChunks count) (levelAbove levels)
  | _ => blank

def NamesBlock (xOff yOff : UInt32) : Prop :=
  (8 ∣ xOff.toNat ∧ 8 ∣ yOff.toNat) ∧ InGrid (logicalCols r C R) (logicalRows r C R) (xOff.toNat, yOff.toNat)

def Chunked (count : Nat) (levels : List UInt8) : Prop :=
  (1 ≤ levelChunks count ∧ levelChunks count ≤ 2) ∧ 8 * levelChunks count ≤ levels.length

def LineDrawable : OutputCall → Prop
  | .ledSet x y _ => InGrid (logicalCols r C R) (logicalRows r C R) (x.toNat, y.toNat)
  | .ledMap xOff yOff data => NamesBlock C R r xOff yOff ∧ 8 ≤ data.length
  | .ledRow _ y count data => y.toNat < logicalRows r C R ∧ 1 ≤ count ∧ count ≤ data.length
  | .ledCol x _ count data => x.toNat < logicalCols r C R ∧ 1 ≤ count ∧ count ≤ data.length
  | .ledLevelSet x y _ => InGrid (logicalCols r C R) (logicalRows r C R) (x.toNat, y.toNat)
  | .ledLevelMap xOff yOff levels => NamesBlock C R r xOff yOff ∧ levels.length = 64
  | .ledLevelRow _ row count levels => row.toNat < logicalRows r C R ∧ Chunked count levels
  | .ledLevelCol col _ count levels => col.toNat < logicalCols r C R ∧ Chunked count levels
  | _ => True

end Pictures

theorem line_values_congr (t : Target) (width count : Nat) (v w : Nat → Bool) (widths : width = 8 ∨ width = 16)
    (some : 1 ≤ count) (same : ∀ i < 8 * count, v i = w i) (i : Nat) (inside : i < width) :
    lineValues t width count v i = lineValues t width count w i := by
  rw [lineValues, lineValues]
  by_cases narrow : width = 8
  · rw [if_pos narrow, if_pos narrow, same i (by omega)]
  · rw [if_neg narrow, if_neg narrow]
    by_cases single : count ≤ 1
    · rw [if_pos single, if_pos single]
      by_cases low : i < 8
      · rw [same i (by omega)]
      · rw [decide_eq_false low]
        rfl
    · rw [if_neg single, if_neg single, same i (by omega), same ((i + 8) % 16) (by omega)]

theorem shown_pair_values (t : Target) (data : List UInt8) (count : Nat) (more : 1 < count) (i : Nat) (inside : i < 16) :
    runBit (shownPair t data) i = lineValues t 16 count (runBit data) i := by
  rw [lineValues, if_neg (by decide), if_neg (by omega), shownPair]
  cases t.bigEndian with
  | false => exact run_bit_pair data i inside
  | true =>
      rw [if_pos rfl, if_pos rfl, run_bit_two, runBit]
      by_cases low : i < 8
      · have second : (i + 8) % 16 / 8 = 1 ∧ (i + 8) % 16 % 8 = i := by omega
        rw [if_pos low, second.1, second.2]
      · have first : (i + 8) % 16 / 8 = 0 ∧ (i + 8) % 16 % 8 = i - 8 := by omega
        rw [if_neg low, if_pos inside, first.1, first.2]

theorem half_values (t : Target) (b : UInt8) (rest : List UInt8) (count : Nat) (single : count ≤ 1) (i : Nat) :
    runBit [b, 0] i = lineValues t 16 count (runBit (b :: rest)) i := by
  rw [lineValues, if_neg (by decide), if_pos single, half_shown]
  by_cases low : i < 8
  · rw [if_pos low, run_bit_head b rest i low, decide_eq_true low]
    rfl
  · rw [if_neg low, decide_eq_false low]
    rfl

section SeriesLines

variable (t : Target) (monome : Monome) (C R : Nat) (sides : SeriesGrid C R) (has : HasGrid monome C R)
  (lamps : Canvas (Nat × Nat) Bool)
include sides has

theorem series_row_shows (xOff y : UInt32) (named : y.toNat < logicalRows monome.rotation C R) (count : Nat)
    (data : List UInt8) (some : 1 ≤ count) (supplied : count ≤ data.length) :
    protoSeriesLedRow t (screen C R seriesPicture) monome xOff y count data lamps =
      .ok (0, paint (seen monome.rotation C R (rowPicture t C R monome.rotation y count (runBit data))) lamps) := by
  have paints := series_row_paints t monome C R sides has lamps xOff y named
  have widths := (sides.logical C R monome.rotation).cols
  rw [rowPicture]
  by_cases wide : logicalCols monome.rotation C R = 16
  · by_cases more : 1 < count
    · rw [paints count data (by omega) supplied, wide, shownData, if_neg (by decide)]
      rw [row_run_congr _ _ _ _ _ (shown_pair_values t data count more)]
    · obtain ⟨b, rest, rfl⟩ : ∃ b rest, data = b :: rest := List.exists_cons_of_length_pos (by omega)
      have widened : protoSeriesLedRow t (screen C R seriesPicture) monome xOff y count (b :: rest) lamps =
          protoSeriesLedRow t (screen C R seriesPicture) monome xOff y 2 (widened t b) lamps := by
        have cols := (series_cols_wide monome C R sides has).mpr wide
        rw [protoSeriesLedRow, protoSeriesLedRow, if_pos cols, if_pos cols, if_neg more, if_pos (by decide)]
        rfl
      rw [widened, paints 2 _ (by omega) (widened_length t b).ge, wide, shownData, if_neg (by decide), shown_widened]
      rw [row_run_congr _ _ _ _ _ fun i _ => half_values t b rest count (by omega) i]
  · have narrow := widths.resolve_right wide
    rw [paints count data (by omega) supplied, narrow, shownData, if_pos rfl]
    rfl

theorem series_col_shows (x yOff : UInt32) (named : x.toNat < logicalCols monome.rotation C R) (count : Nat)
    (data : List UInt8) (some : 1 ≤ count) (supplied : count ≤ data.length) :
    protoSeriesLedCol t (screen C R seriesPicture) monome x yOff count data lamps =
      .ok (0, paint (seen monome.rotation C R (colPicture t C R monome.rotation x count (runBit data))) lamps) := by
  have paints := series_col_paints t monome C R sides has lamps x yOff named
  have widths := (sides.logical C R monome.rotation).rows
  rw [colPicture]
  by_cases wide : logicalRows monome.rotation C R = 16
  · by_cases more : 1 < count
    · rw [paints count data (by omega) supplied, wide, shownData, if_neg (by decide)]
      rw [col_run_congr _ _ _ _ _ (shown_pair_values t data count more)]
    · obtain ⟨b, rest, rfl⟩ : ∃ b rest, data = b :: rest := List.exists_cons_of_length_pos (by omega)
      have widened : protoSeriesLedCol t (screen C R seriesPicture) monome x yOff count (b :: rest) lamps =
          protoSeriesLedCol t (screen C R seriesPicture) monome x yOff 2 (widened t b) lamps := by
        have rows := (series_rows_wide monome C R sides has).mpr wide
        rw [protoSeriesLedCol, protoSeriesLedCol, if_pos rows, if_pos rows, if_neg more, if_pos (by decide)]
        rfl
      rw [widened, paints 2 _ (by omega) (widened_length t b).ge, wide, shownData, if_neg (by decide), shown_widened]
      rw [col_run_congr _ _ _ _ _ fun i _ => half_values t b rest count (by omega) i]
  · have narrow := widths.resolve_right wide
    rw [paints count data (by omega) supplied, narrow, shownData, if_pos rfl]
    rfl

end SeriesLines

theorem reduced_chunk (size : Nat) (data masks : List UInt8) (n i : Nat) (reduced : reduceChunks size data n i = .ok masks)
    (k : Nat) (inside : k < n) : masks.getD k 0 = reduceLevelsToBitmask ((data.drop ((i + k) * 8)).take 8) := by
  induction n generalizing i k masks with
  | zero => exact absurd inside (Nat.not_lt_zero k)
  | succ n ih =>
      rw [reduceChunks] at reduced
      cases copied : copyOut 8 (data.drop (i * 8)) with
      | error fault =>
          rw [copied] at reduced
          cases reduced
      | ok levels =>
          rw [copied] at reduced
          have taken : levels = (data.drop (i * 8)).take 8 := by
            rw [copyOut] at copied
            split at copied
            · exact (Except.ok.inj copied).symm
            · cases copied
          by_cases room : i < size
          · cases later : reduceChunks size data n (i + 1) with
            | error fault =>
                simp only [bind, Except.bind, if_pos room, later] at reduced
                cases reduced
            | ok rest =>
                simp only [bind, Except.bind, if_pos room, later] at reduced
                rw [← Except.ok.inj reduced]
                cases k with
                | zero => rw [taken, Nat.add_zero]; rfl
                | succ k =>
                    rw [List.getD_cons_succ, ih rest (i + 1) later k (Nat.lt_of_succ_lt_succ inside)]
                    rw [Nat.add_assoc, Nat.add_comm 1 k]
          · simp only [bind, Except.bind, if_neg room] at reduced
            cases reduced

theorem reduced_values (size : Nat) (levels masks : List UInt8) (n : Nat) (reduced : reduceChunks size levels n 0 = .ok masks)
    (i : Nat) (inside : i < 8 * n) : runBit masks i = levelAbove levels i := by
  have low : i % 8 < 8 := Nat.mod_lt i (by decide)
  have place : (0 + i / 8) * 8 + i % 8 = i := by omega
  rw [runBit, reduced_chunk size levels masks n 0 reduced (i / 8) (by omega), reduce_bit _ _ low, levelAbove,
    List.getD_eq_getElem?_getD, List.getElem?_take_of_lt low, List.getElem?_drop, place, ← List.getD_eq_getElem?_getD]

theorem reduced_level_lit (grid : LineGrid) (level : UInt32) : grid.lit (reduceLevelToBit level) = decide (level > 7) := by
  rw [reduceLevelToBit]
  by_cases above : level > 7
  · rw [if_pos above, decide_eq_true above]
    cases grid <;> rfl
  · rw [if_neg above, decide_eq_false above]
    cases grid <;> rfl

def OutputCall.Placed : OutputCall → Prop
  | .ledSet .. | .ledMap .. | .ledRow .. | .ledCol .. | .ledLevelSet .. | .ledLevelMap .. | .ledLevelRow ..
  | .ledLevelCol .. => True
  | _ => False

section Placed

variable (t : Target) (grid : LineGrid) (device : Device) (known : device.lineGrid = some grid) (C R : Nat)
  (draws : device.DrawsLevels C R) (has : HasGrid device.monome C R) (lamps : Canvas (Nat × Nat) Bool)
include known draws has

theorem line_row_shows (xOff y : UInt32) (named : y.toNat < logicalRows device.monome.rotation C R) (count : Nat)
    (data : List UInt8) (some : 1 ≤ count) (supplied : count ≤ data.length) :
    device.output t (screen C R device.picture) (.ledRow xOff y count data) lamps = .ok (0,
      paint (seen device.monome.rotation C R (rowPicture t C R device.monome.rotation y count (runBit data))) lamps) := by
  cases device with
  | mext self => exact absurd draws id
  | series self => exact series_row_shows t self.monome C R draws has lamps xOff y named count data some supplied
  | m40h self =>
      obtain ⟨rfl, rfl⟩ := draws
      have shown := m40h_row_paints self.parent has lamps xOff y named count data (by omega)
      rw [Device.monome, rowPicture, (eight_logical self.parent.rotation).1]
      rw [(eight_logical self.parent.rotation).1] at shown
      exact shown

theorem line_col_shows (x yOff : UInt32) (named : x.toNat < logicalCols device.monome.rotation C R) (count : Nat)
    (data : List UInt8) (some : 1 ≤ count) (supplied : count ≤ data.length) :
    device.output t (screen C R device.picture) (.ledCol x yOff count data) lamps = .ok (0,
      paint (seen device.monome.rotation C R (colPicture t C R device.monome.rotation x count (runBit data))) lamps) := by
  cases device with
  | mext self => exact absurd draws id
  | series self => exact series_col_shows t self.monome C R draws has lamps x yOff named count data some supplied
  | m40h self =>
      obtain ⟨rfl, rfl⟩ := draws
      have shown := m40h_col_paints self.parent has lamps x yOff named count data (by omega)
      rw [Device.monome, colPicture, (eight_logical self.parent.rotation).2]
      rw [(eight_logical self.parent.rotation).2] at shown
      exact shown

theorem line_map_shows (xOff yOff : UInt32) (names : NamesBlock C R device.monome.rotation xOff yOff)
    (data : List UInt8) (supplied : 8 ≤ data.length) :
    device.output t (screen C R device.picture) (.ledMap xOff yOff data) lamps = .ok (0,
      paint (seen device.monome.rotation C R (mapPicture device.monome.rotation grid.turns xOff yOff (mapBit data))) lamps) := by
  obtain ⟨⟨xAligned, yAligned⟩, named⟩ := names
  cases device with
  | mext self => exact absurd draws id
  | series self =>
      cases known
      exact series_map_paints t self.monome C R draws has lamps xOff yOff xAligned yAligned named data supplied
  | m40h self =>
      cases known
      obtain ⟨rfl, rfl⟩ := draws
      have widths := eight_logical self.parent.rotation
      have origin : xOff.toNat = 0 ∧ yOff.toNat = 0 := by
        rw [Device.monome, widths.1, widths.2] at named
        obtain ⟨left, up⟩ := named
        simp only at left up
        omega
      rw [mapPicture, origin.1, origin.2]
      exact m40h_map_paints t self.parent has xOff yOff data supplied lamps

theorem level_line_reduced (count : Nat) (levels : List UInt8) (chunked : Chunked count levels) :
    ∃ masks, masks.length = levelChunks count ∧ (∀ i < 8 * levelChunks count, runBit masks i = levelAbove levels i) ∧
      (∀ xOff row, device.output t (screen C R device.picture) (.ledLevelRow xOff row count levels) lamps =
        device.output t (screen C R device.picture) (.ledRow xOff row (levelChunks count) masks) lamps) ∧
      ∀ col yOff, device.output t (screen C R device.picture) (.ledLevelCol col yOff count levels) lamps =
        device.output t (screen C R device.picture) (.ledCol col yOff (levelChunks count) masks) lamps := by
  obtain ⟨⟨some, few⟩, supplied⟩ := chunked
  cases device with
  | mext self => exact absurd draws id
  | series self =>
      obtain ⟨masks, reduced, length⟩ := reduce_chunks_written 16 levels (levelChunks count) 0 (by omega) (by omega)
      refine ⟨masks, length, reduced_values 16 levels masks _ reduced, fun xOff row => ?_, fun col yOff => ?_⟩
      · rw [Device.output, protoSeriesOutput, protoSeriesLedLevelRow, reduced, io_check_bind]
        rfl
      · rw [Device.output, protoSeriesOutput, protoSeriesLedLevelCol, reduced, io_check_bind]
        rfl
  | m40h self =>
      obtain ⟨masks, reduced, length⟩ := reduce_chunks_written 2 levels (levelChunks count) 0 (by omega) (by omega)
      refine ⟨masks, length, reduced_values 2 levels masks _ reduced, fun xOff row => ?_, fun col yOff => ?_⟩
      · rw [Device.output, proto40hOutput, proto40hLedLevelRow, reduced, io_check_bind]
        rfl
      · rw [Device.output, proto40hOutput, proto40hLedLevelCol, reduced, io_check_bind]
        rfl

theorem placed_call_shows (call : OutputCall) (placed : call.Placed) (drawable : LineDrawable C R device.monome.rotation call) :
    ∃ status, device.output t (screen C R device.picture) call lamps =
      .ok (status, paint (seen device.monome.rotation C R (grid.draw t C R device.monome.rotation call)) lamps) := by
  have sides := (level_sides device C R draws).logical C R device.monome.rotation
  obtain ⟨line, lined⟩ := level_line device C R draws
  cases call with
  | ledSet x y on =>
      obtain ⟨status, shown⟩ := line_set_paints device C R has line lined lamps x y on drawable
      cases device with
      | mext self => exact absurd draws id
      | series self | m40h self => exact ⟨status, shown⟩
  | ledMap xOff yOff data => exact ⟨0, line_map_shows t grid device known C R draws has lamps xOff yOff drawable.1 data drawable.2⟩
  | ledRow xOff y count data =>
      exact ⟨0, line_row_shows t grid device known C R draws has lamps xOff y drawable.1 count data drawable.2.1 drawable.2.2⟩
  | ledCol x yOff count data =>
      exact ⟨0, line_col_shows t grid device known C R draws has lamps x yOff drawable.1 count data drawable.2.1 drawable.2.2⟩
  | ledLevelSet x y level =>
      obtain ⟨status, shown⟩ := line_set_paints device C R has line lined lamps x y (reduceLevelToBit level) drawable
      rw [LineGrid.draw, ← reduced_level_lit .m40h]
      cases device with
      | mext self => exact absurd draws id
      | series self | m40h self => exact ⟨status, shown⟩
  | ledLevelMap xOff yOff levels =>
      obtain ⟨⟨⟨xAligned, yAligned⟩, named⟩, whole⟩ := drawable
      have turns : device.extraTurns = grid.turns + 1 := by
        cases device with
        | mext self => exact absurd draws id
        | series self | m40h self => cases known; rfl
      refine ⟨0, ?_⟩
      rw [level_map_paints t device C R draws has xOff yOff xAligned yAligned named levels whole lamps, turns]
      rfl
  | ledLevelRow xOff row count levels =>
      obtain ⟨masks, length, values, same, _⟩ := level_line_reduced t grid device known C R draws has lamps count levels drawable.2
      have shown := line_row_shows t grid device known C R draws has lamps xOff row drawable.1 _ masks drawable.2.1.1 length.ge
      rw [rowPicture, row_run_congr _ _ _ _ _ (line_values_congr t _ _ _ _ sides.cols drawable.2.1.1 values)] at shown
      exact ⟨0, (same xOff row).trans shown⟩
  | ledLevelCol col yOff count levels =>
      obtain ⟨masks, length, values, _, same⟩ := level_line_reduced t grid device known C R draws has lamps count levels drawable.2
      have shown := line_col_shows t grid device known C R draws has lamps col yOff drawable.1 _ masks drawable.2.1.1 length.ge
      rw [colPicture, col_run_congr _ _ _ _ _ (line_values_congr t _ _ _ _ sides.rows drawable.2.1.1 values)] at shown
      exact ⟨0, (same col yOff).trans shown⟩
  | _ => exact placed.elim

end Placed

abbrev LineDraws (grid : LineGrid) (C R : Nat) (stream : List UInt8) (pic : Pic (Nat × Nat) Bool) : Prop :=
  Draws grid.size (grid.lamp C R) stream pic

section Streams

variable (t : Target) (grid : LineGrid) (C R : Nat)

theorem lamp_of_screen (device : Device) (known : device.lineGrid = some grid) (header : UInt8) (payload : List UInt8)
    (more : payload ≠ []) : grid.lamp C R (header, payload) = clip (InGrid C R) (device.picture (header :: payload)) := by
  cases device with
  | mext self => cases known
  | series self =>
      cases known
      rw [LineGrid.lamp, LineGrid.picture, Records.bytes, if_neg (by simp [more]), if_neg (by simp [more])]
      rfl
  | m40h self =>
      cases known
      rfl

theorem screen_draws (device : Device) (known : device.lineGrid = some grid) (frames : List (List UInt8))
    (framed : ∀ frame ∈ frames, grid.Framed frame) (pic : Pic (Nat × Nat) Bool)
    (paints : ∀ lamps, (sendFrames (screen C R device.picture) frames lamps).2 = paint pic lamps) :
    LineDraws grid C R frames.flatten pic := by
  have whole (frame : List UInt8) (member : frame ∈ frames) :
      Records.bytes (frame.headD 0, frame.tail) = frame ∧ frame.tail ≠ [] ∧ Records.Sized grid.size (frame.headD 0, frame.tail) := by
    cases frame with
    | nil => exact (framed [] member).elim
    | cons header payload => exact ⟨rfl, framed _ member⟩
  refine ⟨frames.map fun frame => (frame.headD 0, frame.tail), ?_, ?_, ?_⟩
  · rw [List.flatMap_map, List.flatMap_congr fun frame member => (whole frame member).1, List.flatMap_id']
  · intro record member
    obtain ⟨frame, listed, rfl⟩ := List.mem_map.mp member
    exact (whole frame listed).2.2
  · apply paint_faithful
    intro lamps
    rw [← paint_stack, ← paints, List.foldl_map, List.foldl_map]
    clear paints
    induction frames generalizing lamps with
    | nil => rfl
    | cons frame rest ih =>
        obtain ⟨bytes, more, _⟩ := whole frame (by simp)
        have lamp := lamp_of_screen grid C R device known (frame.headD 0) frame.tail more
        rw [Records.bytes] at bytes
        rw [bytes] at lamp
        rw [List.foldl_cons, lamp]
        exact ih (fun f member => framed f (by simp [member])) (fun f member => whole f (by simp [member])) _

theorem frames_framed (device : Device) (call : OutputCall) (keeps : grid.Frames (device.output t link call))
    (frames : List (List UInt8)) (sent : device.frames t call = .ok frames) (frame : List UInt8) (member : frame ∈ frames) :
    grid.Framed frame := by
  rw [Device.frames] at sent
  cases ran : device.output t link call ⟨[], []⟩ with
  | error fault =>
      rw [ran] at sent
      cases sent
  | ok run =>
      rw [ran] at sent
      rw [← Except.ok.inj sent] at member
      exact keeps ⟨[], []⟩ run.1 run.2 (fun _ none => absurd none List.not_mem_nil) ran frame member

theorem placed_frames (device : Device) (known : device.lineGrid = some grid) (call : OutputCall) (placed : call.Placed) :
    grid.Frames (device.output t link call) := by
  cases device with
  | mext self => cases known
  | m40h self =>
      cases known
      exact m40h_frames t self.parent call
  | series self =>
      cases known
      cases call with
      | ledSet x y on => exact series_set_frames self.monome x y on
      | ledLevelSet x y level => exact series_set_frames self.monome x y (reduceLevelToBit level)
      | ledMap xOff yOff data => exact series_map_frames t self.monome xOff yOff data
      | ledLevelMap xOff yOff levels => exact frames_check _ _ _ fun _ _ => series_map_frames t self.monome xOff yOff _
      | ledRow xOff y count data => exact series_row_frames t self.monome xOff y count data
      | ledCol x yOff count data => exact series_col_frames t self.monome x yOff count data
      | ledLevelRow xOff row count levels => exact frames_check _ _ _ fun _ _ => series_row_frames t self.monome xOff row _ _
      | ledLevelCol col yOff count levels => exact frames_check _ _ _ fun _ _ => series_col_frames t self.monome col yOff _ _
      | _ => exact placed.elim

theorem placed_draws (device : Device) (known : device.lineGrid = some grid) (draws : device.DrawsLevels C R)
    (has : HasGrid device.monome C R) (call : OutputCall) (placed : call.Placed)
    (drawable : LineDrawable C R device.monome.rotation call) : ∃ frames, device.frames t call = .ok frames ∧
      LineDraws grid C R frames.flatten (seen device.monome.rotation C R (grid.draw t C R device.monome.rotation call)) := by
  have shows := fun lamps => placed_call_shows t grid device known C R draws has lamps call placed drawable
  have runs := (device_sends t device call).runs _ (screen C R device.picture)
  cases sent : device.frames t call with
  | error fault =>
      obtain ⟨status, shown⟩ := shows fun _ => false
      rw [runs, sent] at shown
      cases shown
  | ok frames =>
      refine ⟨frames, rfl, screen_draws grid C R device known frames ?_ _ fun lamps => ?_⟩
      · exact frames_framed t grid device call (placed_frames t grid device known call placed) frames sent
      · obtain ⟨status, shown⟩ := shows lamps
        rw [runs, sent] at shown
        exact (Prod.mk.inj (Except.ok.inj shown)).2

-- A series message of one byte lights every lamp or none.
set_option maxRecDepth 4000 in
theorem single_byte_sizes : (∀ status < 2, LineGrid.size .series (seriesClear ||| UInt8.ofNat status) = 0) ∧
    ∀ n < 16, LineGrid.size .series (seriesIntensity ||| UInt8.ofNat n) = 0 ∧ seriesIntensity ||| UInt8.ofNat n ≠ 0x90 ∧
      seriesIntensity ||| UInt8.ofNat n ≠ 0x91 := by decide

theorem series_single_draws (header : UInt8) (bare : LineGrid.size .series header = 0) :
    LineDraws .series C R [header] (clip (InGrid C R) (if header = 0x90 then flood false
      else if header = 0x91 then flood true else blank)) := by
  have lamp : LineGrid.lamp .series C R (header, []) = clip (InGrid C R) (if header = 0x90 then flood false
      else if header = 0x91 then flood true else blank) := by
    have none : seriesPicture [header] = blank := by simp [seriesPicture]
    rw [LineGrid.lamp, LineGrid.picture, Records.bytes, none]
    simp only [List.cons.injEq, and_true]
  rw [← lamp]
  exact draws_one _ _ (header, []) bare.symm

theorem series_quiet_draws (r : MonomeRotate) (header : UInt8) (bare : LineGrid.size .series header = 0)
    (notDark : header ≠ 0x90) (notLit : header ≠ 0x91) : LineDraws .series C R [header] (seen r C R blank) := by
  have drawn := series_single_draws C R header bare
  rw [if_neg notDark, if_neg notLit] at drawn
  rw [seen_blank]
  have nothing : clip (InGrid C R) (blank : Pic (Nat × Nat) Bool) = blank := by
    funext p
    simp [clip, blank]
  rwa [nothing] at drawn

theorem series_all_draws (r : MonomeRotate) (status : UInt32) :
    LineDraws .series C R [seriesClear ||| (status &&& 0x01).toUInt8] (seen r C R (flood (LineGrid.lit .series status))) := by
  have bits : status &&& 0x01 = 0 ∨ status &&& 0x01 = 1 := by
    have low : (status &&& 0x01).toNat ≤ 1 := by
      rw [UInt32.toNat_and]
      exact Nat.and_le_right
    rcases Nat.le_one_iff_eq_zero_or_eq_one.mp low with zero | one
    · exact .inl (UInt32.toNat.inj zero)
    · exact .inr (UInt32.toNat.inj one)
  rw [LineGrid.lit]
  rcases bits with off | on
  · rw [off]
    exact series_single_draws C R 0x90 (by decide)
  · rw [on]
    exact series_single_draws C R 0x91 (by decide)

theorem m40h_all_draws (lit : Bool) (k n : Nat) (inside : k + n ≤ 8) :
    LineDraws .m40h 8 8 ((List.range' k n).map fun i => [m40hLedRow ||| (UInt8.ofNat i &&& 0xF), if lit then 0xFF else 0]).flatten
      (clip (InGrid 8 8) (block 0 k 8 n fun _ _ => lit)) := by
  induction n generalizing k with
  | zero =>
      have nothing : clip (InGrid 8 8) (block 0 k 8 0 fun _ _ => lit) = blank := by
        funext p
        simp [clip, block, blank]
      rw [nothing]
      exact draws_nothing _ _
  | succ n ih =>
      have headers : ∀ i < 8, m40hLedRow ||| (UInt8.ofNat i &&& 0xF) = 0x70 ||| (UInt32.ofNat i &&& 0x7).toUInt8 := by decide
      have bits : ∀ i < 8, runBit [if lit then 0xFF else 0] i = lit := by
        cases lit <;> decide
      have small : (UInt32.ofNat k).toNat = k := by
        rw [UInt32.toNat_ofNat', Nat.mod_eq_of_lt (by omega)]
      have line := m40h_picture_line false (UInt32.ofNat k) (by omega) (if lit then 0xFF else 0)
      rw [if_neg Bool.false_ne_true, if_neg Bool.false_ne_true, ← headers k (by omega), small,
        row_run_congr _ _ _ _ _ bits] at line
      have row := draws_one (LineGrid.size .m40h) (LineGrid.lamp .m40h 8 8)
        (m40hLedRow ||| (UInt8.ofNat k &&& 0xF), [if lit then 0xFF else 0]) rfl
      rw [LineGrid.lamp, LineGrid.picture, Records.bytes, line] at row
      rw [List.range'_succ, List.map_cons, List.flatten_cons, block_rows, clip_atop]
      exact draws_append _ _ _ _ _ _ row (ih (k + 1) (by omega))

theorem m40h_flood_draws (r : MonomeRotate) (lit : Bool) (value : UInt8) (whole : value = if lit then 0xFF else 0) :
    LineDraws .m40h 8 8 ((List.range 8).map fun i => [m40hLedRow ||| (UInt8.ofNat i &&& 0xF), value]).flatten
      (seen r 8 8 (flood lit)) := by
  have drawn := m40h_all_draws lit 0 8 (le_refl 8)
  have full : clip (InGrid 8 8) (block 0 0 8 8 fun _ _ => lit) = seen r 8 8 (flood lit) := by
    rw [← seen_flood]
    apply clip_congr
    intro p inside
    rw [block, if_pos ⟨⟨Nat.zero_le _, by have := inside.1; omega⟩, Nat.zero_le _, by have := inside.2; omega⟩]
    rfl
  rw [List.range_eq_range', whole, ← full]
  exact drawn

theorem m40h_quiet_draws (r : MonomeRotate) (header b : UInt8) (listed : header = m40hIntensity ∨ header = m40hAdcEnable) :
    LineDraws .m40h C R [header, b] (seen r C R blank) := by
  have dark : m40hPicture [header, b] = blank := by
    rcases listed with rfl | rfl <;> rfl
  have nothing : LineGrid.lamp .m40h C R (header, [b]) = seen r C R blank := by
    rw [seen_blank, LineGrid.lamp, LineGrid.picture, Records.bytes, dark]
    funext p
    simp [clip, blank]
  rw [← nothing]
  exact draws_one _ _ (header, [b]) rfl

end Streams

section Calls

variable (t : Target) (C R : Nat)

theorem no_frames_draw (grid : LineGrid) (r : MonomeRotate) : LineDraws grid C R ([] : List (List UInt8)).flatten (seen r C R blank) := by
  rw [seen_blank]
  exact draws_nothing _ _

theorem one_frame_draws (grid : LineGrid) (frame : List UInt8) (pic : Pic (Nat × Nat) Bool)
    (drawn : LineDraws grid C R frame pic) : LineDraws grid C R [frame].flatten pic := by
  rwa [List.flatten_singleton]

theorem series_call_draws (self : Series) (draws : (Device.series self).DrawsLevels C R) (has : HasGrid self.monome C R)
    (call : OutputCall) (drawable : LineDrawable C R self.monome.rotation call) :
    ∃ frames, (Device.series self).frames t call = .ok frames ∧ LineDraws .series C R frames.flatten
      (seen self.monome.rotation C R (LineGrid.draw .series t C R self.monome.rotation call)) := by
  have placed (placed : call.Placed) := placed_draws t .series C R (.series self) rfl draws has call placed drawable
  have all (status : UInt32) := one_frame_draws C R _ _ _ (series_all_draws C R self.monome.rotation status)
  cases call with
  | ledSet | ledMap | ledRow | ledCol | ledLevelSet | ledLevelMap | ledLevelRow | ledLevelCol => exact placed trivial
  | ledAll status => exact ⟨_, rfl, all status⟩
  | ledLevelAll level =>
      rw [LineGrid.draw, ← reduced_level_lit .series]
      exact ⟨_, rfl, all _⟩
  | ledIntensity brightness =>
      obtain ⟨n, small, nibble⟩ := nibble_listed brightness
      obtain ⟨bare, notDark, notLit⟩ := single_byte_sizes.2 n small
      rw [← nibble] at bare notDark notLit
      exact ⟨_, rfl, one_frame_draws C R _ _ _ (series_quiet_draws C R _ _ bare notDark notLit)⟩
  | tiltEnable sensor =>
      exact ⟨_, rfl, one_frame_draws C R _ _ _ (series_quiet_draws C R _ 193 (by decide) (by decide) (by decide))⟩
  | tiltDisable sensor =>
      exact ⟨_, rfl, one_frame_draws C R _ _ _ (series_quiet_draws C R _ 192 (by decide) (by decide) (by decide))⟩
  | ledRingSet | ledRingAll | ledRingMap | ledRingRange | ledRingIntensity => exact ⟨[], rfl, no_frames_draw C R _ _⟩

theorem m40h_call_draws (self : M40h) (draws : (Device.m40h self).DrawsLevels C R) (has : HasGrid self.parent C R)
    (call : OutputCall) (drawable : LineDrawable C R self.parent.rotation call) :
    ∃ frames, (Device.m40h self).frames t call = .ok frames ∧ LineDraws .m40h C R frames.flatten
      (seen self.parent.rotation C R (LineGrid.draw .m40h t C R self.parent.rotation call)) := by
  have placed (placed : call.Placed) := placed_draws t .m40h C R (.m40h self) rfl draws has call placed drawable
  obtain ⟨rfl, rfl⟩ := draws
  have all (status : UInt32) := m40h_flood_draws self.parent.rotation (decide (status ≠ 0)) (if status ≠ 0 then 0xFF else 0)
    (by simp only [decide_eq_true_eq])
  cases call with
  | ledSet | ledMap | ledRow | ledCol | ledLevelSet | ledLevelMap | ledLevelRow | ledLevelCol => exact placed trivial
  | ledAll status => exact ⟨_, rfl, all status⟩
  | ledLevelAll level =>
      rw [LineGrid.draw, ← reduced_level_lit .m40h]
      exact ⟨_, rfl, all _⟩
  | ledIntensity brightness => exact ⟨_, rfl, one_frame_draws 8 8 _ _ _ (m40h_quiet_draws 8 8 _ _ _ (.inl rfl))⟩
  | tiltEnable | tiltDisable => exact ⟨_, rfl, one_frame_draws 8 8 _ _ _ (m40h_quiet_draws 8 8 _ _ _ (.inr rfl))⟩
  | ledRingSet | ledRingAll | ledRingMap | ledRingRange | ledRingIntensity => exact ⟨[], rfl, no_frames_draw 8 8 _ _⟩

def LineGrid.Kept (grid : LineGrid) (device : Device) : Prop :=
  device.lineGrid = some grid ∧ device.DrawsLevels C R ∧ HasGrid device.monome C R

theorem line_drafts (grid : LineGrid) : Drafts t C R grid.size (grid.lamp C R) (grid.Kept C R) (LineDrawable C R)
    (grid.draw t C R) where
  turned device rotation kept := by
    obtain ⟨known, draws, has⟩ := kept
    cases device with
    | mext self => cases known
    | series self | m40h self => exact ⟨known, draws, has.cols, has.rows⟩
  draws device kept call drawable := by
    obtain ⟨known, draws, has⟩ := kept
    cases device with
    | mext self => cases known
    | series self =>
        cases known
        exact series_call_draws t C R self draws has call drawable
    | m40h self =>
        cases known
        exact m40h_call_draws t C R self draws has call drawable

end Calls

theorem line_program_shown (t : Target) (device : Device) (grid : LineGrid) (known : device.lineGrid = some grid) (C R : Nat)
    (draws : device.DrawsLevels C R) (has : HasGrid device.monome C R) (program : List Command)
    (proper : Proper (LineDrawable C R) device.monome.rotation program) (lamps : Canvas (Nat × Nat) Bool) :
    device.program t (panel grid.size (grid.lamp C R)) program ⟨none, lamps⟩ =
      .ok ((), ⟨none, paint (programPicture (grid.draw t C R) C R device.monome.rotation program) lamps⟩) :=
  program_shown t C R _ _ _ _ _ (line_drafts t C R grid) device ⟨known, draws, has⟩ program proper lamps

theorem line_program_shown_halves : ∃ shown,
    (Device.series ⟨⟨8, 16, .rotate0, none, .unset⟩, 0, 0⟩).program ⟨true, true⟩
      (panel (LineGrid.size .series) (LineGrid.lamp .series 16 8))
      [.call (.ledRow 8 2 2 [0x81, 0x01]), .call (.ledIntensity 7), .rotate 2, .call (.ledLevelSet 0 5 3)]
      ⟨none, fun _ => true⟩ = .ok ((), ⟨none, shown⟩) ∧ shown (0, 2) = true ∧ shown (7, 2) = false ∧ shown (8, 2) = true ∧
      shown (15, 2) = false ∧ shown (0, 0) = true := by
  have ran := line_program_shown ⟨true, true⟩ (.series ⟨⟨8, 16, .rotate0, none, .unset⟩, 0, 0⟩) .series rfl 16 8
    ⟨.inr rfl, .inl rfl⟩ ⟨by decide, by decide⟩
    [.call (.ledRow 8 2 2 [0x81, 0x01]), .call (.ledIntensity 7), .rotate 2, .call (.ledLevelSet 0 5 3)] ?_ fun _ => true
  · exact ⟨_, ran, by decide, by decide, by decide, by decide, by decide⟩
  · exact ⟨⟨by decide, by decide, by decide⟩, trivial, ⟨by decide, by decide⟩, trivial⟩

end Libmonome
