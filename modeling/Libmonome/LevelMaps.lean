import Libmonome.FullLines
import Libmonome.Output

set_option autoImplicit false

namespace Libmonome

open Picture BitMoves

def levelBit (levels : List UInt8) (x y : Nat) : Bool := decide (mapLevel levels x y > 7)

theorem mask_flag_bit : ∀ flag : Bool, ∀ i < 8, ∀ j < 8,
    byteBit (((if flag then (1 : UInt8) else 0) &&& 0x01) <<< UInt8.ofNat i) j = (flag && decide (j = i)) := by decide

theorem byte_bit_or (a b : UInt8) (i : Nat) : byteBit (a ||| b) i = (byteBit a i || byteBit b i) := by
  rw [byteBit, UInt8.toNat_or, Nat.testBit_or]
  rfl

theorem reduce_bit (levels : List UInt8) (i : Nat) (inside : i < 8) :
    byteBit (reduceLevelsToBitmask levels) i = decide (levels.getD i 0 > 7) := by
  have loop : ∀ n ≤ 8, byteBit ((List.range n).foldl
      (fun byte i => byte ||| (((if levels.getD i 0 > 7 then (1 : UInt8) else 0) &&& 0x01) <<< UInt8.ofNat i)) 0) i =
        (decide (i < n) && decide (levels.getD i 0 > 7)) := by
    intro n
    induction n with
    | zero =>
        intro _
        simp [byteBit]
    | succ n ih =>
        intro bound
        have flag := mask_flag_bit (decide (levels.getD n 0 > 7)) n (by omega) i inside
        simp only [decide_eq_true_eq] at flag
        rw [List.range_succ, List.foldl_append, List.foldl_cons, List.foldl_nil, byte_bit_or, ih (by omega), flag]
        by_cases here : i = n
        · subst here
          simp
        · have same : i < n + 1 ↔ i < n := by omega
          simp [here, same]
  rw [reduceLevelsToBitmask, loop 8 (le_refl 8)]
  simp [inside]

theorem reduce_map_bit (levels : List UInt8) (x y : Nat) (hx : x < 8) (hy : y < 8) :
    mapBit (reduceMap levels) x y = levelBit levels x y := by
  have row : (reduceMap levels).getD y 0 = reduceLevelsToBitmask (levels.drop (y * 8)) := by
    rw [reduceMap, List.getD_eq_getElem?_getD, List.getElem?_map, List.getElem?_range hy]
    rfl
  rw [mapBit, row, reduce_bit _ x hx, levelBit, mapLevel, List.getD_eq_getElem?_getD, List.getElem?_drop,
    ← List.getD_eq_getElem?_getD, Nat.mul_comm y 8]

theorem reduce_map_length (levels : List UInt8) : (reduceMap levels).length = 8 := by
  simp [reduceMap]

theorem block_rows {α : Type} (x y w h : Nat) (v : Nat → Nat → α) :
    block x y w (h + 1) v = atop (block x (y + 1) w h fun i j => v i (j + 1)) (rowRun x y w fun i => v i 0) := by
  funext p
  simp only [block, rowRun, atop]
  by_cases later : (x ≤ p.1 ∧ p.1 < x + w) ∧ y + 1 ≤ p.2 ∧ p.2 < y + 1 + h
  · rw [if_pos (by omega), if_pos later, Option.some_or, show p.2 - (y + 1) + 1 = p.2 - y by omega]
  · rw [if_neg later, Option.none_or]
    exact drawn_congr _ _ _ _ (by omega) fun first => congrArg₂ v rfl (by omega)

section M40hMap

variable (t : Target) (monome : Monome) (has : HasGrid monome 8 8)
include has

theorem m40h_map_loop_paints (buf : List UInt8) (k n : Nat) (inside : k + n ≤ 8) (whole : buf.length = 8) (ret : Int32)
    (lamps : Canvas (Nat × Nat) Bool) :
    proto40hLedMapLoop (screen 8 8 m40hPicture) monome buf (List.range' k n) ret lamps =
      .ok (ret, paint (seen monome.rotation 8 8 (block 0 k 8 n fun i j => mapBit buf i (k + j))) lamps) := by
  induction n generalizing k ret lamps with
  | zero =>
      have none : (block 0 k 8 0 fun i j => mapBit buf i (k + j)) = blank := by
        funext p
        rw [block, if_neg (by omega)]
        rfl
      rw [none, seen_blank, paint_blank]
      rfl
  | succ n ih =>
      have fits : (UInt32.ofNat k).toNat = k := by
        rw [UInt32.toNat_ofNat', Nat.mod_eq_of_lt (by omega)]
      have widths := eight_logical monome.rotation
      have row := m40h_row_paints monome has lamps 0 (UInt32.ofNat k) (by rw [fits]; omega) 1 (buf.drop k)
        (by rw [List.length_drop]; omega)
      have bits : ∀ i < 8, runBit (buf.drop k) i = mapBit buf i k := by
        intro i low
        rw [runBit, mapBit, show i / 8 = 0 by omega, show i % 8 = i by omega, List.getD_eq_getElem?_getD,
          List.getElem?_drop, ← List.getD_eq_getElem?_getD, Nat.add_zero]
      rw [proto40hLedRow, fits, widths.1, row_run_congr _ _ _ _ _ bits] at row
      have later : (fun i j => mapBit buf i (k + 1 + j)) = fun i j => mapBit buf i (k + (j + 1)) := by
        funext i j
        rw [Nat.add_assoc, Nat.add_comm 1 j]
      rw [List.range'_succ, proto40hLedMapLoop, io_bind_ok _ _ _ _ _ row, Int32.add_zero, ih (k + 1) (by omega), block_rows,
        seen_atop, paint_atop, later]
      rfl

theorem m40h_map_paints (xOff yOff : UInt32) (data : List UInt8) (supplied : 8 ≤ data.length)
    (lamps : Canvas (Nat × Nat) Bool) :
    proto40hLedMap t (screen 8 8 m40hPicture) monome xOff yOff data lamps =
      .ok (0, paint (seen monome.rotation 8 8 (block 0 0 8 8 fun i j =>
        mapBit data (unturn monome.rotation 8 8 (i, j)).1 (unturn monome.rotation 8 8 (i, j)).2)) lamps) := by
  have whole : (data.take 8).length = 8 := by
    rw [List.length_take]
    omega
  rw [proto40hLedMap, copyOut, if_pos supplied, io_check_bind, List.range_eq_range',
    m40h_map_loop_paints monome has _ 0 8 (le_refl 8) (map_cb_length t _ whole _) 0 lamps]
  congr 4
  refine block_congr _ _ _ _ _ _ fun i left j up => ?_
  have cell := unturn_in_grid monome.rotation 8 8 (i, j) ⟨left, up⟩
  rw [(eight_logical monome.rotation).1, (eight_logical monome.rotation).2] at cell
  rw [Nat.zero_add, map_cb_turns t _ whole i j left up, map_bit_taken data _ _ cell.2]

end M40hMap

section Alike

variable (r : MonomeRotate) (C R : Nat) (lamps : Canvas (Nat × Nat) Bool)

theorem blocks_alike_iff (x y : Nat) (xAligned : 8 ∣ x) (yAligned : 8 ∣ y) (sides : SeriesGrid C R)
    (named : InGrid (logicalCols r C R) (logicalRows r C R) (x, y)) (v w : Nat → Nat → Bool) :
    paint (seen r C R (block x y 8 8 v)) lamps = paint (seen r C R (block x y 8 8 w)) lamps ↔
      ∀ i < 8, ∀ j < 8, v i j = w i j := by
  have logical := sides.logical C R r
  constructor
  · intro alike i left j up
    have inside : InGrid (logicalCols r C R) (logicalRows r C R) (x + i, y + j) := by
      have cols := logical.cols
      have rows := logical.rows
      obtain ⟨xInside, yInside⟩ := named
      simp only at xInside yInside
      constructor <;> simp only <;> omega
    have cell (u : Nat → Nat → Bool) : block x y 8 8 u (x + i, y + j) = some (u i j) := by
      rw [block, if_pos (by simp only; omega), Nat.add_sub_cancel_left, Nat.add_sub_cancel_left]
    exact painted_alike r C R lamps _ _ alike (x + i, y + j) inside _ _ (cell v) (cell w)
  · intro same
    rw [block_congr x y 8 8 v w same]

end Alike

-- led_map of the 40h turns the picture in map_cb, and each row of the outcome
-- once more.
theorem m40h_map_agrees_iff (t : Target) (self : M40h) (has : HasGrid self.parent 8 8) (xOff yOff : UInt32)
    (data : List UInt8) (whole : data.length = 8) (lamps : Canvas (Nat × Nat) Bool) :
    (∃ status after, proto40hLedMap t (screen 8 8 m40hPicture) self.parent xOff yOff data lamps = .ok (status, after) ∧
      (Device.m40h self).ledSets (screen 8 8 m40hPicture) (blockDots 0 0 8 8 (mapBit data)) lamps = .ok ((), after)) ↔
    ∀ x < 8, ∀ y < 8, mapBit data (unturn self.parent.rotation 8 8 (x, y)).1 (unturn self.parent.rotation 8 8 (x, y)).2 =
      mapBit data x y := by
  have widths := eight_logical self.parent.rotation
  have named : ∀ d ∈ blockDots 0 0 8 8 (mapBit data), InGrid (logicalCols self.parent.rotation 8 8)
      (logicalRows self.parent.rotation 8 8) d.1 := by
    intro d member
    obtain ⟨j, below, row⟩ := List.mem_flatMap.mp member
    obtain ⟨i, left, rfl⟩ := List.mem_map.mp row
    rw [widths.1, widths.2]
    exact ⟨by simpa using left, by simpa using below⟩
  have sets := line_sets_paint (.m40h self) 8 8 has (.row 0 0 []) ⟨rfl, rfl⟩ lamps _ named
  rw [dotted_lists _ _ (block_dots_list 0 0 8 8 (mapBit data))] at sets
  have alike := blocks_alike_iff self.parent.rotation 8 8 lamps 0 0 (dvd_zero 8) (dvd_zero 8) ⟨.inl rfl, .inl rfl⟩
    (by rw [widths.1, widths.2]; exact ⟨by decide, by decide⟩) (fun i j =>
      mapBit data (unturn self.parent.rotation 8 8 (i, j)).1 (unturn self.parent.rotation 8 8 (i, j)).2) (mapBit data)
  rw [m40h_map_paints t self.parent has xOff yOff data (by omega) lamps, ← alike]
  constructor
  · rintro ⟨status, after, drawn, set⟩
    exact (Prod.mk.inj (Except.ok.inj drawn)).2.trans (Prod.mk.inj (Except.ok.inj (sets.symm.trans set))).2.symm
  · intro same
    exact ⟨0, _, rfl, sets.trans (by rw [same]; rfl)⟩

theorem m40h_map_agrees_corners : ∃ status after,
    proto40hLedMap ⟨true, false⟩ (screen 8 8 m40hPicture) ⟨8, 8, .rotate90, none, .unset⟩ 0 0
      [0x81, 0, 0, 0, 0, 0, 0, 0x81] (fun _ => false) = .ok (status, after) ∧
    (Device.m40h ⟨⟨8, 8, .rotate90, none, .unset⟩, 0, 0⟩).ledSets (screen 8 8 m40hPicture)
      (blockDots 0 0 8 8 (mapBit [0x81, 0, 0, 0, 0, 0, 0, 0x81])) (fun _ => false) = .ok ((), after) :=
  (m40h_map_agrees_iff ⟨true, false⟩ ⟨⟨8, 8, .rotate90, none, .unset⟩, 0, 0⟩ ⟨rfl, rfl⟩ 0 0
    [0x81, 0, 0, 0, 0, 0, 0, 0x81] rfl (fun _ => false)).mpr (by decide)

-- One corner at a quarter turn: the calls light the lamp below the one the
-- program sees at its origin, the map the one across from it.
theorem m40h_map_turned_twice : ¬ ∃ status after,
    proto40hLedMap ⟨true, false⟩ (screen 8 8 m40hPicture) ⟨8, 8, .rotate90, none, .unset⟩ 0 0 [0x01, 0, 0, 0, 0, 0, 0, 0]
      (fun _ => false) = .ok (status, after) ∧
    (Device.m40h ⟨⟨8, 8, .rotate90, none, .unset⟩, 0, 0⟩).ledSets (screen 8 8 m40hPicture)
      (blockDots 0 0 8 8 (mapBit [0x01, 0, 0, 0, 0, 0, 0, 0])) (fun _ => false) = .ok ((), after) := by
  rintro ⟨status, after, drawn, set⟩
  have dark := congrArg (fun r => r.toOption.map fun a => a.2 (0, 7)) drawn
  have lit := congrArg (fun r => r.toOption.map fun a => a.2 (0, 7)) set
  have off : after (0, 7) = false := (Option.some.inj dark).symm
  have on : after (0, 7) = true := (Option.some.inj lit).symm
  exact absurd (off.symm.trans on) (by decide)

def Device.ledLevelSets {ω : Type} (t : Target) (P : Platform ω) (device : Device) : List ((Nat × Nat) × UInt8) → Io ω Unit
  | [] => pure ()
  | d :: rest => do
      let _ ← device.output t P (.ledLevelSet (UInt32.ofNat d.1.1) (UInt32.ofNat d.1.2) d.2.toUInt32)
      device.ledLevelSets t P rest

def Device.DrawsLevels (device : Device) (C R : Nat) : Prop :=
  match device with
  | mext _ => False
  | series _ => SeriesGrid C R
  | m40h _ => C = 8 ∧ R = 8

def Device.extraTurns : Device → Nat
  | mext _ => 0
  | series _ => 1
  | m40h _ => 2

def turnedBack (r : MonomeRotate) (turns : Nat) (p : Nat × Nat) : Nat × Nat := (unturn r 8 8)^[turns] p

section LevelCalls

variable (t : Target) (device : Device) (C R : Nat) (draws : device.DrawsLevels C R)
include draws

theorem level_sets_thresholded {ω : Type} (P : Platform ω) (dots : List ((Nat × Nat) × UInt8)) :
    device.ledLevelSets t P dots = device.ledSets P (dots.map fun d => (d.1, decide (d.2 > 7))) := by
  have bit (level : UInt8) : reduceLevelToBit level.toUInt32 = if decide (level > 7) then 1 else 0 := by
    have same : level.toUInt32 > 7 ↔ level > 7 := by
      rw [gt_iff_lt, gt_iff_lt, UInt32.lt_iff_toNat_lt, UInt8.lt_iff_toNat_lt, UInt8.toNat_toUInt32]
      rfl
    simp only [reduceLevelToBit, same, decide_eq_true_eq]
  induction dots with
  | nil => rfl
  | cons d rest ih =>
      rw [Device.ledLevelSets, ih, List.map_cons, Device.ledSets]
      cases device with
      | mext self => exact absurd draws id
      | series self =>
          rw [← bit d.2]
          rfl
      | m40h self =>
          rw [← bit d.2]
          rfl

theorem level_line : ∃ call : LineCall, call.Draws device C R := by
  cases device with
  | mext self => exact absurd draws id
  | series self => exact ⟨.row 0 0 [], draws⟩
  | m40h self => exact ⟨.row 0 0 [], draws⟩

theorem level_sides : SeriesGrid C R := by
  cases device with
  | mext self => exact absurd draws id
  | series self => exact draws
  | m40h self => exact ⟨.inl draws.1, .inl draws.2⟩

variable (has : HasGrid device.monome C R) (xOff yOff : UInt32) (xAligned : 8 ∣ xOff.toNat) (yAligned : 8 ∣ yOff.toNat)
  (named : InGrid (logicalCols device.monome.rotation C R) (logicalRows device.monome.rotation C R)
    (xOff.toNat, yOff.toNat))
  (levels : List UInt8) (whole : levels.length = 64) (lamps : Canvas (Nat × Nat) Bool)

omit draws in
theorem turned_masks (r : MonomeRotate) (i j : Nat) (left : i < 8) (up : j < 8) (whole : levels.length = 64) :
    mapBit (reduceMap ((rotspec r).levelMapCb (List.replicate 64 0) levels)) i j =
      levelBit levels (unturn r 8 8 (i, j)).1 (unturn r 8 8 (i, j)).2 := by
  rw [reduce_map_bit _ i j left up, levelBit, level_map_cb_turns r _ levels (by simp) whole i j left up, levelBit]

include has xAligned yAligned named whole

theorem level_map_paints :
    device.output t (screen C R device.picture) (.ledLevelMap xOff yOff levels) lamps =
      .ok (0, paint (seen device.monome.rotation C R (block xOff.toNat yOff.toNat 8 8 fun i j =>
        levelBit levels (turnedBack device.monome.rotation device.extraTurns (i, j)).1
          (turnedBack device.monome.rotation device.extraTurns (i, j)).2)) lamps) := by
  have copied : copyOut 64 levels = .ok levels := by
    rw [copyOut, if_pos whole.ge, List.take_of_length_le whole.le]
  cases device with
  | mext self => exact absurd draws id
  | series self =>
      have drawn := series_map_paints t self.monome C R draws has lamps xOff yOff xAligned yAligned named
        (reduceMap ((rotspec self.monome.rotation).levelMapCb (List.replicate 64 0) levels))
        (reduce_map_length _).ge
      rw [block_congr _ _ _ _ _ _ fun i left j up => turned_masks levels self.monome.rotation i j left up whole] at drawn
      rw [Device.output, protoSeriesOutput, protoSeriesLedLevelMap, copied, io_check_bind]
      exact drawn
  | m40h self =>
      obtain ⟨rfl, rfl⟩ := draws
      have widths := eight_logical self.parent.rotation
      have origin : xOff.toNat = 0 ∧ yOff.toNat = 0 := by
        rw [Device.monome, widths.1, widths.2] at named
        obtain ⟨left, up⟩ := named
        simp only at left up
        omega
      have drawn := m40h_map_paints t self.parent has xOff yOff
        (reduceMap ((rotspec self.parent.rotation).levelMapCb (List.replicate 64 0) levels))
        (reduce_map_length _).ge lamps
      have twice : ∀ i < 8, ∀ j < 8, mapBit (reduceMap ((rotspec self.parent.rotation).levelMapCb (List.replicate 64 0) levels))
          (unturn self.parent.rotation 8 8 (i, j)).1 (unturn self.parent.rotation 8 8 (i, j)).2 =
            levelBit levels (turnedBack self.parent.rotation 2 (i, j)).1 (turnedBack self.parent.rotation 2 (i, j)).2 := by
        intro i left j up
        have cell := unturn_in_grid self.parent.rotation 8 8 (i, j) ⟨left, up⟩
        rw [widths.1, widths.2] at cell
        exact turned_masks levels self.parent.rotation _ _ cell.1 cell.2 whole
      rw [block_congr _ _ _ _ _ _ twice] at drawn
      rw [Device.output, proto40hOutput, proto40hLedLevelMap, copied, io_check_bind, origin.1, origin.2]
      exact drawn

omit whole in
theorem level_sets_paint : device.ledLevelSets t (screen C R device.picture)
    (blockDots xOff.toNat yOff.toNat 8 8 (mapLevel levels)) lamps =
      .ok ((), paint (seen device.monome.rotation C R (block xOff.toNat yOff.toNat 8 8 (levelBit levels))) lamps) := by
  have sides := (level_sides device C R draws).logical C R device.monome.rotation
  obtain ⟨call, line⟩ := level_line device C R draws
  have bits : (blockDots xOff.toNat yOff.toNat 8 8 (mapLevel levels)).map (fun d => (d.1, decide (d.2 > 7))) =
      blockDots xOff.toNat yOff.toNat 8 8 (levelBit levels) := by
    rw [blockDots, blockDots, List.map_flatMap]
    refine List.flatMap_congr fun j _ => ?_
    rw [rowDots, rowDots, List.map_map]
    rfl
  rw [level_sets_thresholded t device C R draws, bits, line_sets_paint device C R has call line lamps _ ?_,
    dotted_lists _ _ (block_dots_list _ _ 8 8 (levelBit levels))]
  intro d member
  obtain ⟨j, below, row⟩ := List.mem_flatMap.mp member
  obtain ⟨i, left, rfl⟩ := List.mem_map.mp row
  have cols := sides.cols
  have rows := sides.rows
  obtain ⟨xInside, yInside⟩ := named
  simp only [List.mem_range] at below left
  simp only at xInside yInside
  constructor <;> simp only <;> omega

theorem level_map_agrees_iff :
    (∃ status after, device.output t (screen C R device.picture) (.ledLevelMap xOff yOff levels) lamps =
        .ok (status, after) ∧
      device.ledLevelSets t (screen C R device.picture) (blockDots xOff.toNat yOff.toNat 8 8 (mapLevel levels)) lamps =
        .ok ((), after)) ↔
    ∀ x < 8, ∀ y < 8, levelBit levels (turnedBack device.monome.rotation device.extraTurns (x, y)).1
      (turnedBack device.monome.rotation device.extraTurns (x, y)).2 = levelBit levels x y := by
  have drawn := level_map_paints t device C R draws has xOff yOff xAligned yAligned named levels whole lamps
  have sets := level_sets_paint t device C R draws has xOff yOff xAligned yAligned named levels lamps
  rw [drawn, sets, ← blocks_alike_iff device.monome.rotation C R lamps _ _ xAligned yAligned
    (level_sides device C R draws) named]
  constructor
  · rintro ⟨status, after, left, right⟩
    exact (Prod.mk.inj (Except.ok.inj left)).2.trans (Prod.mk.inj (Except.ok.inj right)).2.symm
  · intro same
    exact ⟨0, _, rfl, by rw [same]⟩

end LevelCalls

theorem level_map_agrees_bright : ∃ status after,
    (Device.series ⟨⟨8, 16, .rotate90, none, .unset⟩, 0, 0⟩).output ⟨true, false⟩ (screen 16 8 seriesPicture)
      (.ledLevelMap 0 8 (List.replicate 64 15)) (fun _ => false) = .ok (status, after) ∧
    (Device.series ⟨⟨8, 16, .rotate90, none, .unset⟩, 0, 0⟩).ledLevelSets ⟨true, false⟩ (screen 16 8 seriesPicture)
      (blockDots 0 8 8 8 (mapLevel (List.replicate 64 15))) (fun _ => false) = .ok ((), after) :=
  (level_map_agrees_iff ⟨true, false⟩ (.series ⟨⟨8, 16, .rotate90, none, .unset⟩, 0, 0⟩) 16 8 ⟨.inr rfl, .inl rfl⟩
    ⟨rfl, rfl⟩ 0 8 (by decide) (by decide) ⟨by decide, by decide⟩ (List.replicate 64 15) (by simp)
    (fun _ => false)).mpr (by decide)

theorem level_map_turned_twice : ¬ ∃ status after,
    (Device.series ⟨⟨8, 8, .rotate90, none, .unset⟩, 0, 0⟩).output ⟨true, false⟩ (screen 8 8 seriesPicture)
      (.ledLevelMap 0 0 (15 :: List.replicate 63 0)) (fun _ => false) = .ok (status, after) ∧
    (Device.series ⟨⟨8, 8, .rotate90, none, .unset⟩, 0, 0⟩).ledLevelSets ⟨true, false⟩ (screen 8 8 seriesPicture)
      (blockDots 0 0 8 8 (mapLevel (15 :: List.replicate 63 0))) (fun _ => false) = .ok ((), after) := by
  rintro ⟨status, after, drawn, set⟩
  have dark := congrArg (fun r => r.toOption.map fun a => a.2 (0, 7)) drawn
  have lit := congrArg (fun r => r.toOption.map fun a => a.2 (0, 7)) set
  have off : after (0, 7) = false := (Option.some.inj dark).symm
  have on : after (0, 7) = true := (Option.some.inj lit).symm
  exact absurd (off.symm.trans on) (by decide)

end Libmonome
