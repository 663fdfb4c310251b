import Libmonome.Mext.Drawing

set_option autoImplicit false

namespace Libmonome

open Picture BitMoves

-- The level frames of a mext grid: offsets floored as for the bit frames, two
-- lamps to a byte, and the low four bits of a level-set command.
def mextLevelPicture : List UInt8 → Pic (Nat × Nat) Nat
  | header :: x :: y :: data =>
      if header = 0x18 ∧ data.length = 1 then dot (x.toNat, y.toNat) ((data.getD 0 0).toNat % 16)
      else if header = 0x1A ∧ data.length = 32 then
        block (x.toNat / 8 * 8) (y.toNat / 8 * 8) 8 8 fun i j => levelNybble data (8 * j + i)
      else if header = 0x1B ∧ data.length = 4 then rowRun (x.toNat / 8 * 8) y.toNat 8 (levelNybble data)
      else if header = 0x1C ∧ data.length = 4 then colRun x.toNat (y.toNat / 8 * 8) 8 (levelNybble data)
      else blank
  | _ => blank

theorem level_picture_map (x y : UInt8) (data : List UInt8) (whole : data.length = 32) :
    mextLevelPicture (0x1A :: x :: y :: data) =
      block (x.toNat / 8 * 8) (y.toNat / 8 * 8) 8 8 fun i j => levelNybble data (8 * j + i) := by
  simp [mextLevelPicture, whole]

theorem level_picture_run (col : Bool) (x y : UInt8) (data : List UInt8) (whole : data.length = 4) :
    mextLevelPicture ((if col then 0x1C else 0x1B) :: x :: y :: data) =
      if col then colRun x.toNat (y.toNat / 8 * 8) 8 (levelNybble data)
      else rowRun (x.toNat / 8 * 8) y.toNat 8 (levelNybble data) := by
  cases col <;> simp [mextLevelPicture, whole]

def runLevel (data : List UInt8) (i : Nat) : Nat := (data.getD i 0).toNat % 16

theorem run_level_later (data : List UInt8) (i : Nat) : runLevel data (8 + i) = runLevel (data.drop 8) i := by
  rw [runLevel, runLevel, List.getD_eq_getElem?_getD, List.getD_eq_getElem?_getD, List.getElem?_drop]

theorem run_level_copied (data : List UInt8) (n i : Nat) (inside : i < n) : runLevel (data.take n) i = runLevel data i := by
  rw [runLevel, runLevel, List.getD_eq_getElem?_getD, List.getD_eq_getElem?_getD, List.getElem?_take_of_lt inside]

theorem row_levels_run (descends : Bool) (data : List UInt8) (whole : data.length = 8) (i : Nat) (inside : i < 8) :
    levelNybble ((packNybbles 4 (rowLevels descends data)).take 4) i =
      (if descends then fun i => runLevel data (7 - i) else runLevel data) i := by
  have copied : (if descends then revcopy data else data.take 8).length = 8 := by
    cases descends <;> simp [revcopy, whole]
  rw [packed_taken 4 _ (by rw [rowLevels, List.length_append, copied]; decide) i inside, rowLevels,
    List.getD_append _ _ _ _ (by omega)]
  have full : data.take 8 = data := List.take_of_length_le (by omega)
  cases descends with
  | false => rw [if_neg (by decide), full]; rfl
  | true =>
      rw [if_pos rfl, if_pos rfl, revcopy, full, get_reversed data i (by omega), whole]
      rfl

theorem packed_row_size (descends : Bool) (data : List UInt8) :
    ((packNybbles 4 (rowLevels descends data)).take 4).length = 4 := by
  rw [List.length_take, pack_nybbles_length, rowLevels]
  simp

section Frames

variable (monome : Monome) (C R : Nat) (grid : BlockGrid C R) (has : HasGrid monome C R)
include grid has

theorem level_set_frame_seen (x y level : UInt32) (xSmall : x.toNat < 256) (ySmall : y.toNat < 256) :
    clip (InGrid C R) (mextLevelPicture [0x18, (rotateCoords monome x y).1.toUInt8,
      (rotateCoords monome x y).2.toUInt8, level.toUInt8]) =
        seen monome.rotation C R (dot (x.toNat, y.toNat) (level.toNat % 16)) := by
  have kept : level.toUInt8.toNat % 16 = level.toNat % 16 := by
    rw [UInt32.toNat_toUInt8]
    omega
  apply seen_frame
  intro p inside
  rw [turned_dot C R grid monome.rotation x.toNat y.toNat xSmall ySmall _ p inside,
    ← rotate_coords_bytes monome C R has x y xSmall ySmall, ← kept]
  rfl

theorem level_row_frame_seen (x y : UInt32) (data : List UInt8) (whole : data.length = 8) (aligned : 8 ∣ x.toNat)
    (xSmall : x.toNat < 256) (ySmall : y.toNat < 256) :
    clip (InGrid C R) (mextLevelPicture
      (mextLedLevelRowColMsg monome cmdLedLevelRow (hasFlag monome rowRevbits) x y data).wire) =
        seen monome.rotation C R (rowRun x.toNat y.toNat 8 (runLevel data)) := by
  have sent := led_level_row_col_wire monome true (hasFlag monome rowRevbits) x y data whole
  have place := rotate_coords_bytes monome C R has x y xSmall ySmall
  have turned := turned_row C R grid monome.rotation x.toNat y.toNat aligned xSmall ySmall (runLevel data)
  rw [if_pos rfl, has_flag_row] at sent
  rw [← place] at turned
  apply seen_frame
  intro p inside
  rw [has_flag_row, sent, level_picture_run _ _ _ _ (packed_row_size _ data), turned p inside]
  cases monome.rotation.swaps with
  | false => exact congrFun (row_run_congr _ _ _ _ _ fun i low => (row_levels_run _ data whole i low).symm) p
  | true => exact congrFun (col_run_congr _ _ _ _ _ fun i low => (row_levels_run _ data whole i low).symm) p

theorem level_col_frame_seen (x y : UInt32) (data : List UInt8) (whole : data.length = 8) (aligned : 8 ∣ y.toNat)
    (xSmall : x.toNat < 256) (ySmall : y.toNat < 256) :
    clip (InGrid C R) (mextLevelPicture
      (mextLedLevelRowColMsg monome cmdLedLevelColumn (hasFlag monome colRevbits) x y data).wire) =
        seen monome.rotation C R (colRun x.toNat y.toNat 8 (runLevel data)) := by
  have sent := led_level_row_col_wire monome false (hasFlag monome colRevbits) x y data whole
  have place := rotate_coords_bytes monome C R has x y xSmall ySmall
  have turned := turned_col C R grid monome.rotation x.toNat y.toNat aligned xSmall ySmall (runLevel data)
  rw [if_neg (by decide), has_flag_col] at sent
  rw [← place] at turned
  apply seen_frame
  intro p inside
  rw [has_flag_col, sent, level_picture_run _ _ _ _ (packed_row_size _ data), turned p inside]
  cases monome.rotation.swaps with
  | false => exact congrFun (col_run_congr _ _ _ _ _ fun i low => (row_levels_run _ data whole i low).symm) p
  | true => exact congrFun (row_run_congr _ _ _ _ _ fun i low => (row_levels_run _ data whole i low).symm) p

theorem level_map_frame_seen (x y : UInt32) (data : List UInt8) (whole : data.length = 64) (xAligned : 8 ∣ x.toNat)
    (yAligned : 8 ∣ y.toNat) (xSmall : x.toNat < 256) (ySmall : y.toNat < 256) :
    clip (InGrid C R) (mextLevelPicture (mextLedLevelMapMsg monome x y data).wire) =
      seen monome.rotation C R (block x.toNat y.toNat 8 8 fun i j => runLevel data (8 * j + i)) := by
  have place := rotate_coords_bytes monome C R has x y xSmall ySmall
  have turned := turned_block C R grid monome.rotation x.toNat y.toNat xAligned yAligned xSmall ySmall
    (fun i j => runLevel data (8 * j + i))
  have room : (List.replicate 64 (0 : UInt8)).length = 64 := List.length_replicate
  have long := level_map_cb_length monome.rotation (List.replicate 64 0) data room whole
  have size : ((packNybbles 32 ((rotspec monome.rotation).levelMapCb (List.replicate 64 0) data)).take 32).length = 32 := by
    rw [List.length_take, pack_nybbles_length, long]
    rfl
  rw [← place] at turned
  apply seen_frame
  intro p inside
  rw [led_level_map_wire monome x y data whole, level_picture_map _ _ _ size, turned p inside]
  refine congrFun (block_congr _ _ _ _ _ _ fun i left j low => ?_) p
  have level := level_map_cb_turns monome.rotation (List.replicate 64 0) data room whole i j left low
  rw [mapLevel, mapLevel] at level
  rw [packed_taken 32 _ (by omega) _ (by omega), level]
  rfl

end Frames

section Loops

variable (monome : Monome) (C R : Nat) (grid : BlockGrid C R) (has : HasGrid monome C R)
include grid has

theorem led_level_row_loop (y : UInt32) (ySmall : y.toNat < 256) :
    ChunkLoop (seen monome.rotation C R) (fun x n v => rowRun x y.toNat n v) runLevel 8
      (mextLedLevelRowLoop (screen C R mextLevelPicture) monome (hasFlag monome rowRevbits) y) where
  placeBlank := seen_blank _ C R
  placeAtop := seen_atop _ C R
  empty x v := row_run_none x y.toNat v
  append x a b v := row_run_append x y.toNat a b v
  later := run_level_later
  stop _ _ _ := rfl
  advance n off data lamps aligned inside supplied := by
    have whole : (data.take 8).length = 8 := by
      rw [List.length_take]
      omega
    have drawn := level_row_frame_seen monome C R grid has off y (data.take 8) whole aligned (by omega) ySmall
    rw [row_run_congr _ _ _ _ _ (fun i low => (run_level_copied data 8 i low).symm), ← drawn, mextLedLevelRowLoop,
      mextLedLevelRowCol, copyOut, if_pos supplied]
    rfl

theorem led_level_col_loop (x : UInt32) (xSmall : x.toNat < 256) :
    ChunkLoop (seen monome.rotation C R) (fun y n v => colRun x.toNat y n v) runLevel 8
      (mextLedLevelColLoop (screen C R mextLevelPicture) monome (hasFlag monome colRevbits) x) where
  placeBlank := seen_blank _ C R
  placeAtop := seen_atop _ C R
  empty y v := col_run_none x.toNat y v
  append y a b v := col_run_append x.toNat y a b v
  later := run_level_later
  stop _ _ _ := rfl
  advance n off data lamps aligned inside supplied := by
    have whole : (data.take 8).length = 8 := by
      rw [List.length_take]
      omega
    have drawn := level_col_frame_seen monome C R grid has x off (data.take 8) whole aligned xSmall (by omega)
    rw [col_run_congr _ _ _ _ _ (fun i low => (run_level_copied data 8 i low).symm), ← drawn, mextLedLevelColLoop,
      mextLedLevelRowCol, copyOut, if_pos supplied]
    rfl

end Loops

-- The drawing calls on levels. A run of count levels reaches only as far as
-- whole groups of eight go.
inductive LevelCall where
  | set (x y level : UInt32)
  | row (xOff y : UInt32) (count : Nat) (data : List UInt8)
  | col (x yOff : UInt32) (count : Nat) (data : List UInt8)
  | map (xOff yOff : UInt32) (data : List UInt8)

namespace LevelCall

def run {ω : Type} (P : Platform ω) (monome : Monome) : LevelCall → Io ω Int32
  | set x y level => mextLedLevelSet P monome x y level
  | row xOff y count data => mextLedLevelRow P monome xOff y count data
  | col x yOff count data => mextLedLevelCol P monome x yOff count data
  | map xOff yOff data => mextLedLevelMap P monome xOff yOff data

def picture : LevelCall → Pic (Nat × Nat) Nat
  | set x y level => dot (x.toNat, y.toNat) (level.toNat % 16)
  | row xOff y count data => rowRun xOff.toNat y.toNat (8 * (count / 8)) (runLevel data)
  | col x yOff count data => colRun x.toNat yOff.toNat (8 * (count / 8)) (runLevel data)
  | map xOff yOff data => block xOff.toNat yOff.toNat 8 8 fun i j => runLevel data (8 * j + i)

def cells : LevelCall → List ((Nat × Nat) × Nat)
  | set x y level => [((x.toNat, y.toNat), level.toNat % 16)]
  | row xOff y count data => rowDots xOff.toNat y.toNat (8 * (count / 8)) (runLevel data)
  | col x yOff count data => colDots x.toNat yOff.toNat (8 * (count / 8)) (runLevel data)
  | map xOff yOff data => blockDots xOff.toNat yOff.toNat 8 8 fun i j => runLevel data (8 * j + i)

def Aligned : LevelCall → Prop
  | set _ _ _ => True
  | row xOff _ _ _ => 8 ∣ xOff.toNat
  | col _ yOff _ _ => 8 ∣ yOff.toNat
  | map xOff yOff _ => 8 ∣ xOff.toNat ∧ 8 ∣ yOff.toNat

def Supplied : LevelCall → Prop
  | set _ _ _ => True
  | row _ _ count data | col _ _ count data => 8 * (count / 8) ≤ data.length
  | map _ _ data => 64 ≤ data.length

def Addressed (call : LevelCall) : Prop := ∀ d ∈ call.cells, d.1.1 < 256 ∧ d.1.2 < 256

theorem cells_list (call : LevelCall) : Lists call.cells call.picture := by
  cases call with
  | set x y level => exact dot_lists _ _
  | row xOff y count data => exact row_dots_list _ _ _ _
  | col x yOff count data => exact col_dots_list _ _ _ _
  | map xOff yOff data => exact block_dots_list _ _ _ _ _

end LevelCall

section Calls

variable (monome : Monome) (C R : Nat) (grid : BlockGrid C R) (has : HasGrid monome C R)
  (lamps : Canvas (Nat × Nat) Nat)
include grid has

theorem led_level_set_paints (x y level : UInt32) (xSmall : x.toNat < 256) (ySmall : y.toNat < 256) :
    mextLedLevelSet (screen C R mextLevelPicture) monome x y level lamps =
      .ok (4, paint (seen monome.rotation C R (dot (x.toNat, y.toNat) (level.toNat % 16))) lamps) := by
  rw [← level_set_frame_seen monome C R grid has x y level xSmall ySmall, mextLedLevelSet, io_bind, mextWriteMsg,
    led_level_set_wire, screen_write]
  rfl

theorem led_level_row_paints (xOff row : UInt32) (count : Nat) (data : List UInt8) (aligned : 8 ∣ xOff.toNat)
    (inside : 0 < count / 8 → xOff.toNat + 8 * (count / 8) ≤ 256 ∧ row.toNat < 256)
    (supplied : 8 * (count / 8) ≤ data.length) :
    mextLedLevelRow (screen C R mextLevelPicture) monome xOff row count data lamps =
      .ok (1, paint (seen monome.rotation C R
        (rowRun xOff.toNat row.toNat (8 * (count / 8)) (runLevel data))) lamps) := by
  rw [mextLedLevelRow, Nat.shiftRight_eq_div_pow]
  rcases Nat.eq_zero_or_pos (count / 8) with none | some
  · rw [none, Nat.mul_zero, row_run_none, seen_blank, paint_blank]
    rfl
  · have chunks := led_level_row_loop monome C R grid has row (inside some).2
    rw [io_bind_ok _ _ _ _ _ (chunk_loop_draws _ _ _ _ _ chunks (count / 8) xOff data lamps aligned
      (.inr (inside some).1) supplied)]
    rfl

theorem led_level_col_paints (col yOff : UInt32) (count : Nat) (data : List UInt8) (aligned : 8 ∣ yOff.toNat)
    (inside : 0 < count / 8 → col.toNat < 256 ∧ yOff.toNat + 8 * (count / 8) ≤ 256)
    (supplied : 8 * (count / 8) ≤ data.length) :
    mextLedLevelCol (screen C R mextLevelPicture) monome col yOff count data lamps =
      .ok (1, paint (seen monome.rotation C R
        (colRun col.toNat yOff.toNat (8 * (count / 8)) (runLevel data))) lamps) := by
  rw [mextLedLevelCol, Nat.shiftRight_eq_div_pow]
  rcases Nat.eq_zero_or_pos (count / 8) with none | some
  · rw [none, Nat.mul_zero, col_run_none, seen_blank, paint_blank]
    rfl
  · have chunks := led_level_col_loop monome C R grid has col (inside some).1
    rw [io_bind_ok _ _ _ _ _ (chunk_loop_draws _ _ _ _ _ chunks (count / 8) yOff data lamps aligned
      (.inr (inside some).2) supplied)]
    rfl

theorem led_level_map_paints (xOff yOff : UInt32) (data : List UInt8) (xAligned : 8 ∣ xOff.toNat)
    (yAligned : 8 ∣ yOff.toNat) (xSmall : xOff.toNat < 256) (ySmall : yOff.toNat < 256) (supplied : 64 ≤ data.length) :
    mextLedLevelMap (screen C R mextLevelPicture) monome xOff yOff data lamps =
      .ok (35, paint (seen monome.rotation C R
        (block xOff.toNat yOff.toNat 8 8 fun i j => runLevel data (8 * j + i))) lamps) := by
  have whole : (data.take 64).length = 64 := by
    rw [List.length_take]
    omega
  have sameLevels : block xOff.toNat yOff.toNat 8 8 (fun i j => runLevel data (8 * j + i)) =
      block xOff.toNat yOff.toNat 8 8 fun i j => runLevel (data.take 64) (8 * j + i) :=
    block_congr _ _ _ _ _ _ fun i left j low => (run_level_copied data 64 (8 * j + i) (by omega)).symm
  have sent := led_level_map_wire monome xOff yOff (data.take 64) whole
  have size : (mextLedLevelMapMsg monome xOff yOff (data.take 64)).wire.length = 35 := by
    have long := level_map_cb_length monome.rotation (List.replicate 64 0) (data.take 64) List.length_replicate whole
    rw [sent]
    simp only [List.length_cons, List.length_take, pack_nybbles_length, long]
    rfl
  rw [sameLevels, ← level_map_frame_seen monome C R grid has xOff yOff _ whole xAligned yAligned xSmall ySmall,
    mextLedLevelMap, copyOut, if_pos supplied]
  show Except.ok ((Int64.ofNat (mextLedLevelMapMsg monome xOff yOff (data.take 64)).wire.length).toInt32, _) = _
  rw [size]
  rfl

theorem level_call_paints (call : LevelCall) (aligned : call.Aligned) (supplied : call.Supplied)
    (addressed : call.Addressed) : ∃ status, call.run (screen C R mextLevelPicture) monome lamps =
      .ok (status, paint (seen monome.rotation C R call.picture) lamps) := by
  cases call with
  | set x y level =>
      have small := addressed _ (List.mem_singleton.mpr rfl)
      exact ⟨4, led_level_set_paints monome C R grid has lamps x y level small.1 small.2⟩
  | row xOff y count data =>
      exact ⟨1, led_level_row_paints monome C R grid has lamps xOff y count data aligned
        (fun some => row_dots_small _ _ _ _ (by omega) addressed) supplied⟩
  | col x yOff count data =>
      exact ⟨1, led_level_col_paints monome C R grid has lamps x yOff count data aligned
        (fun some => col_dots_small _ _ _ _ (by omega) addressed) supplied⟩
  | map xOff yOff data =>
      have small := block_dots_small _ _ _ addressed
      exact ⟨35, led_level_map_paints monome C R grid has lamps xOff yOff data aligned.1 aligned.2 small.1 small.2
        supplied⟩

end Calls

theorem mext_level_drawing_correct (monome : Monome) (C R : Nat) (grid : BlockGrid C R) (has : HasGrid monome C R)
    (call : LevelCall) (aligned : call.Aligned) (supplied : call.Supplied) (addressed : call.Addressed)
    (lamps : Canvas (Nat × Nat) Nat) :
    ∃ status after, call.run (screen C R mextLevelPicture) monome lamps = .ok (status, after) ∧
      (∀ d ∈ call.cells, LogicalCell monome d.1 → after (outputCell monome d.1) = d.2) ∧
      (∀ p, (∀ d ∈ call.cells, LogicalCell monome d.1 → outputCell monome d.1 ≠ p) → after p = lamps p) := by
  obtain ⟨status, painted⟩ := level_call_paints monome C R grid has lamps call aligned supplied addressed
  have lists := call.cells_list
  refine ⟨status, _, painted, ?_, ?_⟩
  · exact fun d member named => dots_drawn monome C R has call.cells call.picture lists lamps d member named
  · exact fun p unnamed => dots_kept monome C R has call.cells call.picture lists lamps p unnamed

theorem mext_level_drawing_correct_row : ∃ status after,
    (LevelCall.row 0 2 19 [1, 2, 3, 4, 5, 6, 7, 8, 9, 10, 11, 12, 13, 14, 15, 31, 1, 1, 1]).run
      (screen 8 16 mextLevelPicture) ⟨16, 8, .rotate270, none, .unset⟩ (fun _ => 0) = .ok (status, after) ∧
      after (5, 0) = 1 ∧ after (5, 15) = 15 ∧ after (4, 0) = 0 := by
  have grid : BlockGrid 8 16 := ⟨by decide, by decide, by decide, by decide⟩
  have has : HasGrid ⟨16, 8, .rotate270, none, .unset⟩ 8 16 := ⟨by decide, by decide⟩
  obtain ⟨status, after, ran, named, kept⟩ := mext_level_drawing_correct ⟨16, 8, .rotate270, none, .unset⟩ 8 16 grid has
    (.row 0 2 19 [1, 2, 3, 4, 5, 6, 7, 8, 9, 10, 11, 12, 13, 14, 15, 31, 1, 1, 1]) (by show 8 ∣ 0; decide)
    (by show 8 * (19 / 8) ≤ 19; decide) (by unfold LevelCall.Addressed; decide) (fun _ => 0)
  refine ⟨status, after, ran, ?_, ?_, ?_⟩
  · exact named ((0, 2), 1) (by decide) (by decide)
  · exact named ((15, 2), 15) (by decide) (by decide)
  · exact kept (4, 0) (by decide)

end Libmonome
