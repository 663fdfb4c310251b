import Libmonome.Mext.Wire
import Libmonome.Screen

set_option autoImplicit false

namespace Libmonome

open Picture BitMoves

-- What a mext grid does with a frame: a row frame floors its x offset to a
-- multiple of eight, a column frame its y offset, a map frame both. Bit i of
-- a data byte is lamp i of its run.
def mextBitPicture : List UInt8 → Pic (Nat × Nat) Bool
  | header :: x :: y :: data =>
      if header = 0x10 ∧ data.length = 0 then dot (x.toNat, y.toNat) false
      else if header = 0x11 ∧ data.length = 0 then dot (x.toNat, y.toNat) true
      else if header = 0x14 ∧ data.length = 8 then block (x.toNat / 8 * 8) (y.toNat / 8 * 8) 8 8 (mapBit data)
      else if header = 0x15 ∧ data.length = 1 then rowRun (x.toNat / 8 * 8) y.toNat 8 (byteBit (data.getD 0 0))
      else if header = 0x16 ∧ data.length = 1 then colRun x.toNat (y.toNat / 8 * 8) 8 (byteBit (data.getD 0 0))
      else blank
  | _ => blank

theorem bit_picture_dot (on : UInt32) (x y : UInt8) :
    mextBitPicture [if on ≠ 0 then 0x11 else 0x10, x, y] = dot (x.toNat, y.toNat) (decide (on ≠ 0)) := by
  by_cases lit : on ≠ 0
  · rw [if_pos lit, decide_eq_true lit]
    rfl
  · rw [if_neg lit, decide_eq_false lit]
    rfl

theorem bit_picture_map (x y : UInt8) (data : List UInt8) (whole : data.length = 8) :
    mextBitPicture (0x14 :: x :: y :: data) = block (x.toNat / 8 * 8) (y.toNat / 8 * 8) 8 8 (mapBit data) := by
  simp [mextBitPicture, whole]

theorem reversed_run (descends : Bool) (b : UInt8) (i : Nat) (inside : i < 8) :
    byteBit (if descends then reverseByte b else b) i = (if descends then fun i => byteBit b (7 - i) else byteBit b) i := by
  cases descends with
  | false => rfl
  | true => exact reverse_byte_bit b i inside

section Frames

variable (t : Target) (monome : Monome) (C R : Nat) (grid : BlockGrid C R) (has : HasGrid monome C R)
include grid has

theorem set_frame_seen (x y on : UInt32) (xSmall : x.toNat < 256) (ySmall : y.toNat < 256) :
    clip (InGrid C R) (mextBitPicture [if on ≠ 0 then 0x11 else 0x10, (rotateCoords monome x y).1.toUInt8,
      (rotateCoords monome x y).2.toUInt8]) = seen monome.rotation C R (dot (x.toNat, y.toNat) (decide (on ≠ 0))) := by
  apply seen_frame
  intro p inside
  rw [bit_picture_dot, rotate_coords_bytes monome C R has x y xSmall ySmall]
  exact turned_dot C R grid monome.rotation x.toNat y.toNat xSmall ySmall (decide (on ≠ 0)) p inside

theorem row_frame_seen (x y : UInt32) (b : UInt8) (aligned : 8 ∣ x.toNat) (xSmall : x.toNat < 256)
    (ySmall : y.toNat < 256) :
    clip (InGrid C R) (mextBitPicture (mextLedRowColMsg monome cmdLedRow x y
      (if hasFlag monome rowRevbits then reverseByte b else b)).wire) =
        seen monome.rotation C R (rowRun x.toNat y.toNat 8 (byteBit b)) := by
  have sent := led_row_col_wire monome true x y (if hasFlag monome rowRevbits then reverseByte b else b)
  have place := rotate_coords_bytes monome C R has x y xSmall ySmall
  have turned := turned_row C R grid monome.rotation x.toNat y.toNat aligned xSmall ySmall (byteBit b)
  rw [if_pos rfl, has_flag_row] at sent
  rw [← place] at turned
  apply seen_frame
  intro p inside
  rw [has_flag_row, sent, turned p inside]
  cases monome.rotation.swaps with
  | false => exact congrFun (row_run_congr _ _ _ _ _ fun i low => (reversed_run _ b i low).symm) p
  | true => exact congrFun (col_run_congr _ _ _ _ _ fun i low => (reversed_run _ b i low).symm) p

theorem col_frame_seen (x y : UInt32) (b : UInt8) (aligned : 8 ∣ y.toNat) (xSmall : x.toNat < 256)
    (ySmall : y.toNat < 256) :
    clip (InGrid C R) (mextBitPicture (mextLedRowColMsg monome cmdLedColumn x y
      (if hasFlag monome colRevbits then reverseByte b else b)).wire) =
        seen monome.rotation C R (colRun x.toNat y.toNat 8 (byteBit b)) := by
  have sent := led_row_col_wire monome false x y (if hasFlag monome colRevbits then reverseByte b else b)
  have place := rotate_coords_bytes monome C R has x y xSmall ySmall
  have turned := turned_col C R grid monome.rotation x.toNat y.toNat aligned xSmall ySmall (byteBit b)
  rw [if_neg (by decide), has_flag_col] at sent
  rw [← place] at turned
  apply seen_frame
  intro p inside
  rw [has_flag_col, sent, turned p inside]
  cases monome.rotation.swaps with
  | false => exact congrFun (col_run_congr _ _ _ _ _ fun i low => (reversed_run _ b i low).symm) p
  | true => exact congrFun (row_run_congr _ _ _ _ _ fun i low => (reversed_run _ b i low).symm) p

theorem map_frame_seen (x y : UInt32) (data : List UInt8) (whole : data.length = 8) (xAligned : 8 ∣ x.toNat)
    (yAligned : 8 ∣ y.toNat) (xSmall : x.toNat < 256) (ySmall : y.toNat < 256) :
    clip (InGrid C R) (mextBitPicture (mextLedMapMsg t monome x y data).wire) =
      seen monome.rotation C R (block x.toNat y.toNat 8 8 (mapBit data)) := by
  have place := rotate_coords_bytes monome C R has x y xSmall ySmall
  have turned := turned_block C R grid monome.rotation x.toNat y.toNat xAligned yAligned xSmall ySmall (mapBit data)
  rw [← place] at turned
  apply seen_frame
  intro p inside
  rw [led_map_wire t monome x y data whole, bit_picture_map _ _ _ (map_cb_length t data whole _), turned p inside]
  exact congrFun (block_congr _ _ _ _ _ _ fun i left j low =>
    (map_cb_turns t data whole i j left low monome.rotation).symm) p

end Frames

def runBit (data : List UInt8) (i : Nat) : Bool := byteBit (data.getD (i / 8) 0) (i % 8)

theorem run_bit_later (data : List UInt8) (i : Nat) : runBit data (8 + i) = runBit (data.drop 1) i := by
  rw [runBit, runBit, show (8 + i) / 8 = i / 8 + 1 by omega, show (8 + i) % 8 = i % 8 by omega]
  cases data <;> rfl

theorem run_bit_head (b : UInt8) (rest : List UInt8) (i : Nat) (low : i < 8) : runBit (b :: rest) i = byteBit b i := by
  rw [runBit, show i / 8 = 0 by omega, show i % 8 = i by omega]
  rfl

section Loops

variable (monome : Monome) (C R : Nat) (grid : BlockGrid C R) (has : HasGrid monome C R)
include grid has

theorem led_row_loop (y : UInt32) (ySmall : y.toNat < 256) :
    ChunkLoop (seen monome.rotation C R) (fun x n v => rowRun x y.toNat n v) runBit 1
      (mextLedRowLoop (screen C R mextBitPicture) monome (hasFlag monome rowRevbits) y) where
  placeBlank := seen_blank _ C R
  placeAtop := seen_atop _ C R
  empty x v := row_run_none x y.toNat v
  append x a b v := row_run_append x y.toNat a b v
  later := run_bit_later
  stop _ _ _ := rfl
  advance n off data lamps aligned inside supplied := by
    cases data with
    | nil => simp at supplied
    | cons b rest =>
        have drawn := row_frame_seen monome C R grid has off y b aligned (by omega) ySmall
        rw [row_run_congr _ _ _ _ _ (run_bit_head b rest), ← drawn]
        rfl

theorem led_col_loop (x : UInt32) (xSmall : x.toNat < 256) :
    ChunkLoop (seen monome.rotation C R) (fun y n v => colRun x.toNat y n v) runBit 1
      (mextLedColLoop (screen C R mextBitPicture) monome (hasFlag monome colRevbits) x) where
  placeBlank := seen_blank _ C R
  placeAtop := seen_atop _ C R
  empty y v := col_run_none x.toNat y v
  append y a b v := col_run_append x.toNat y a b v
  later := run_bit_later
  stop _ _ _ := rfl
  advance n off data lamps aligned inside supplied := by
    cases data with
    | nil => simp at supplied
    | cons b rest =>
        have drawn := col_frame_seen monome C R grid has x off b aligned xSmall (by omega)
        rw [col_run_congr _ _ _ _ _ (run_bit_head b rest), ← drawn]
        rfl

end Loops

inductive GridCall where
  | set (x y on : UInt32)
  | row (xOff y : UInt32) (count : Nat) (data : List UInt8)
  | col (x yOff : UInt32) (count : Nat) (data : List UInt8)
  | map (xOff yOff : UInt32) (data : List UInt8)

namespace GridCall

def run {ω : Type} (t : Target) (P : Platform ω) (monome : Monome) : GridCall → Io ω Int32
  | set x y on => mextLedSet P monome x y on
  | row xOff y count data => mextLedRow P monome xOff y count data
  | col x yOff count data => mextLedCol P monome x yOff count data
  | map xOff yOff data => mextLedMap t P monome xOff yOff data

def picture : GridCall → Pic (Nat × Nat) Bool
  | set x y on => dot (x.toNat, y.toNat) (decide (on ≠ 0))
  | row xOff y count data => rowRun xOff.toNat y.toNat (8 * count) (runBit data)
  | col x yOff count data => colRun x.toNat yOff.toNat (8 * count) (runBit data)
  | map xOff yOff data => block xOff.toNat yOff.toNat 8 8 (mapBit data)

def cells : GridCall → List ((Nat × Nat) × Bool)
  | set x y on => [((x.toNat, y.toNat), decide (on ≠ 0))]
  | row xOff y count data => rowDots xOff.toNat y.toNat (8 * count) (runBit data)
  | col x yOff count data => colDots x.toNat yOff.toNat (8 * count) (runBit data)
  | map xOff yOff data => blockDots xOff.toNat yOff.toNat 8 8 (mapBit data)

def Aligned : GridCall → Prop
  | set _ _ _ => True
  | row xOff _ _ _ => 8 ∣ xOff.toNat
  | col _ yOff _ _ => 8 ∣ yOff.toNat
  | map xOff yOff _ => 8 ∣ xOff.toNat ∧ 8 ∣ yOff.toNat

def Supplied : GridCall → Prop
  | set _ _ _ => True
  | row _ _ count data | col _ _ count data => count ≤ data.length
  | map _ _ data => 8 ≤ data.length

def Addressed (call : GridCall) : Prop := ∀ d ∈ call.cells, d.1.1 < 256 ∧ d.1.2 < 256

theorem cells_list (call : GridCall) : Lists call.cells call.picture := by
  cases call with
  | set x y on => exact dot_lists _ _
  | row xOff y count data => exact row_dots_list _ _ _ _
  | col x yOff count data => exact col_dots_list _ _ _ _
  | map xOff yOff data => exact block_dots_list _ _ _ _ _

end GridCall

def ledSets {ω : Type} (P : Platform ω) (monome : Monome) : List ((Nat × Nat) × Bool) → Io ω Unit
  | [] => pure ()
  | d :: rest => do
      let _ ← mextLedSet P monome (UInt32.ofNat d.1.1) (UInt32.ofNat d.1.2) (if d.2 then 1 else 0)
      ledSets P monome rest

theorem row_dots_small {α : Type} (x y n : Nat) (v : Nat → α) (some : 0 < n)
    (small : ∀ d ∈ rowDots x y n v, d.1.1 < 256 ∧ d.1.2 < 256) : x + n ≤ 256 ∧ y < 256 := by
  have last := small ((x + (n - 1), y), v (n - 1)) (List.mem_map.mpr ⟨n - 1, List.mem_range.mpr (by omega), rfl⟩)
  simp only at last
  omega

theorem col_dots_small {α : Type} (x y n : Nat) (v : Nat → α) (some : 0 < n)
    (small : ∀ d ∈ colDots x y n v, d.1.1 < 256 ∧ d.1.2 < 256) : x < 256 ∧ y + n ≤ 256 := by
  have last := small ((x, y + (n - 1)), v (n - 1)) (List.mem_map.mpr ⟨n - 1, List.mem_range.mpr (by omega), rfl⟩)
  simp only at last
  omega

theorem block_dots_small {α : Type} (x y : Nat) (v : Nat → Nat → α)
    (small : ∀ d ∈ blockDots x y 8 8 v, d.1.1 < 256 ∧ d.1.2 < 256) : x < 256 ∧ y < 256 :=
  small ((x, y), v 0 0) (List.mem_flatMap.mpr ⟨0, by simp, List.mem_map.mpr ⟨0, by simp, rfl⟩⟩)

section Calls

variable (monome : Monome) (C R : Nat) (grid : BlockGrid C R) (has : HasGrid monome C R)
  (lamps : Canvas (Nat × Nat) Bool)
include grid has

theorem led_set_paints (x y on : UInt32) (xSmall : x.toNat < 256) (ySmall : y.toNat < 256) :
    mextLedSet (screen C R mextBitPicture) monome x y on lamps =
      .ok (3, paint (seen monome.rotation C R (dot (x.toNat, y.toNat) (decide (on ≠ 0)))) lamps) := by
  rw [← set_frame_seen monome C R grid has x y on xSmall ySmall, mextLedSet, io_bind, mextWriteMsg, led_set_wire,
    screen_write]
  rfl

theorem led_row_paints (xOff y : UInt32) (count : Nat) (data : List UInt8) (aligned : 8 ∣ xOff.toNat)
    (inside : 0 < count → xOff.toNat + 8 * count ≤ 256 ∧ y.toNat < 256) (supplied : count ≤ data.length) :
    mextLedRow (screen C R mextBitPicture) monome xOff y count data lamps =
      .ok (1, paint (seen monome.rotation C R (rowRun xOff.toNat y.toNat (8 * count) (runBit data))) lamps) := by
  rcases Nat.eq_zero_or_pos count with rfl | some
  · rw [Nat.mul_zero, row_run_none, seen_blank, paint_blank]
    rfl
  · have chunks := led_row_loop monome C R grid has y (inside some).2
    rw [mextLedRow, io_bind_ok _ _ _ _ _ (chunk_loop_draws _ _ _ _ _ chunks count xOff data lamps aligned
      (.inr (inside some).1) (by omega))]
    rfl

theorem led_col_paints (x yOff : UInt32) (count : Nat) (data : List UInt8) (aligned : 8 ∣ yOff.toNat)
    (inside : 0 < count → x.toNat < 256 ∧ yOff.toNat + 8 * count ≤ 256) (supplied : count ≤ data.length) :
    mextLedCol (screen C R mextBitPicture) monome x yOff count data lamps =
      .ok (1, paint (seen monome.rotation C R (colRun x.toNat yOff.toNat (8 * count) (runBit data))) lamps) := by
  rcases Nat.eq_zero_or_pos count with rfl | some
  · rw [Nat.mul_zero, col_run_none, seen_blank, paint_blank]
    rfl
  · have chunks := led_col_loop monome C R grid has x (inside some).1
    rw [mextLedCol, io_bind_ok _ _ _ _ _ (chunk_loop_draws _ _ _ _ _ chunks count yOff data lamps aligned
      (.inr (inside some).2) (by omega))]
    rfl

theorem led_map_paints (t : Target) (xOff yOff : UInt32) (data : List UInt8) (xAligned : 8 ∣ xOff.toNat)
    (yAligned : 8 ∣ yOff.toNat) (xSmall : xOff.toNat < 256) (ySmall : yOff.toNat < 256) (supplied : 8 ≤ data.length) :
    mextLedMap t (screen C R mextBitPicture) monome xOff yOff data lamps =
      .ok (11, paint (seen monome.rotation C R (block xOff.toNat yOff.toNat 8 8 (mapBit data))) lamps) := by
  have whole : (data.take 8).length = 8 := by
    rw [List.length_take]
    omega
  have sameBits : block xOff.toNat yOff.toNat 8 8 (mapBit data) = block xOff.toNat yOff.toNat 8 8 (mapBit (data.take 8)) :=
    block_congr _ _ _ _ _ _ fun i _ j low => (map_bit_taken data i j low).symm
  rw [sameBits, ← map_frame_seen t monome C R grid has xOff yOff _ whole xAligned yAligned xSmall ySmall, mextLedMap,
    copyOut, if_pos supplied]
  have sent := led_map_wire t monome xOff yOff (data.take 8) whole
  have size : (mextLedMapMsg t monome xOff yOff (data.take 8)).wire.length = 11 := by
    rw [sent]
    simp [map_cb_length t _ whole]
  show Except.ok ((Int64.ofNat (mextLedMapMsg t monome xOff yOff (data.take 8)).wire.length).toInt32, _) = _
  rw [size]
  rfl

theorem led_sets_paint (dots : List ((Nat × Nat) × Bool)) (small : ∀ d ∈ dots, d.1.1 < 256 ∧ d.1.2 < 256) :
    ledSets (screen C R mextBitPicture) monome dots lamps =
      .ok ((), paint (seen monome.rotation C R (dotted dots)) lamps) := by
  induction dots generalizing lamps with
  | nil =>
      rw [dotted, List.map_nil, stack, seen_blank, paint_blank]
      rfl
  | cons d rest ih =>
      obtain ⟨xSmall, ySmall⟩ := small d (by simp)
      have x : (UInt32.ofNat d.1.1).toNat = d.1.1 := by
        rw [UInt32.toNat_ofNat', Nat.mod_eq_of_lt (by omega)]
      have y : (UInt32.ofNat d.1.2).toNat = d.1.2 := by
        rw [UInt32.toNat_ofNat', Nat.mod_eq_of_lt (by omega)]
      have bit : decide ((if d.2 then 1 else 0 : UInt32) ≠ 0) = d.2 := by
        cases d.2 <;> rfl
      rw [ledSets, io_bind_ok _ _ _ _ _ (led_set_paints monome C R grid has lamps _ _ _ (by omega) (by omega)),
        ih _ (fun e member => small e (by simp [member])), x, y, bit, dotted, dotted, List.map_cons, stack, seen_atop,
        paint_atop]

theorem grid_call_paints (t : Target) (call : GridCall) (aligned : call.Aligned) (supplied : call.Supplied)
    (addressed : call.Addressed) : ∃ status, call.run t (screen C R mextBitPicture) monome lamps =
      .ok (status, paint (seen monome.rotation C R call.picture) lamps) := by
  cases call with
  | set x y on =>
      have small := addressed _ (List.mem_singleton.mpr rfl)
      exact ⟨3, led_set_paints monome C R grid has lamps x y on small.1 small.2⟩
  | row xOff y count data =>
      exact ⟨1, led_row_paints monome C R grid has lamps xOff y count data aligned
        (fun some => row_dots_small _ _ _ _ (by omega) addressed) supplied⟩
  | col x yOff count data =>
      exact ⟨1, led_col_paints monome C R grid has lamps x yOff count data aligned
        (fun some => col_dots_small _ _ _ _ (by omega) addressed) supplied⟩
  | map xOff yOff data =>
      have small := block_dots_small _ _ _ addressed
      exact ⟨11, led_map_paints monome C R grid has lamps t xOff yOff data aligned.1 aligned.2 small.1 small.2 supplied⟩

end Calls

theorem mext_drawing_correct (t : Target) (monome : Monome) (C R : Nat) (grid : BlockGrid C R)
    (has : HasGrid monome C R) (call : GridCall) (aligned : call.Aligned) (supplied : call.Supplied)
    (addressed : call.Addressed) (lamps : Canvas (Nat × Nat) Bool) :
    ∃ status after, call.run t (screen C R mextBitPicture) monome lamps = .ok (status, after) ∧
      (∀ d ∈ call.cells, LogicalCell monome d.1 → after (outputCell monome d.1) = d.2) ∧
      (∀ p, (∀ d ∈ call.cells, LogicalCell monome d.1 → outputCell monome d.1 ≠ p) → after p = lamps p) ∧
      ledSets (screen C R mextBitPicture) monome call.cells lamps = .ok ((), after) := by
  obtain ⟨status, painted⟩ := grid_call_paints monome C R grid has lamps t call aligned supplied addressed
  have lists := call.cells_list
  refine ⟨status, _, painted, ?_, ?_, ?_⟩
  · exact fun d member named => dots_drawn monome C R has call.cells call.picture lists lamps d member named
  · exact fun p unnamed => dots_kept monome C R has call.cells call.picture lists lamps p unnamed
  · rw [led_sets_paint monome C R grid has lamps call.cells addressed, dotted_lists call.picture call.cells lists]

theorem mext_drawing_correct_turned : ∃ status after,
    (GridCall.col 3 0 2 [0x81, 0x0F]).run ⟨true, false⟩ (screen 16 8 mextBitPicture) ⟨8, 16, .rotate90, none, .unset⟩
      (fun _ => false) = .ok (status, after) ∧ after (0, 4) = true ∧ after (1, 4) = false ∧ after (7, 4) = true := by
  have grid : BlockGrid 16 8 := ⟨by decide, by decide, by decide, by decide⟩
  have has : HasGrid ⟨8, 16, .rotate90, none, .unset⟩ 16 8 := ⟨by decide, by decide⟩
  obtain ⟨status, after, ran, named, _, _⟩ := mext_drawing_correct ⟨true, false⟩ ⟨8, 16, .rotate90, none, .unset⟩ 16 8 grid
    has (.col 3 0 2 [0x81, 0x0F]) (by show 8 ∣ 0; decide) (by show 2 ≤ 2; decide) (by unfold GridCall.Addressed; decide) (fun _ => false)
  refine ⟨status, after, ran, ?_, ?_, ?_⟩
  · exact named ((3, 0), true) (by decide) (by decide)
  · exact named ((3, 1), false) (by decide) (by decide)
  · exact named ((3, 7), true) (by decide) (by decide)

end Libmonome
