import Libmonome.FullLines
import Libmonome.Output

set_option autoImplicit false

namespace Libmonome

open Picture BitMoves

theorem painted_same_iff {α : Type} (r : MonomeRotate) (C R : Nat) (lamps : Canvas (Nat × Nat) α) (a b : Pic (Nat × Nat) α) :
    paint (seen r C R a) lamps = paint (seen r C R b) lamps ↔
      ∀ cell, InGrid (logicalCols r C R) (logicalRows r C R) cell →
        (a cell).getD (lamps (turn r C R cell)) = (b cell).getD (lamps (turn r C R cell)) := by
  have shown (pic : Pic (Nat × Nat) α) (p : Nat × Nat) (inside : InGrid C R p) :
      paint (seen r C R pic) lamps p = (pic (unturn r C R p)).getD (lamps p) := by
    rw [paint, seen, clip, if_pos inside, pull]
  constructor
  · intro same cell named
    have inside := turn_in_grid r C R cell named
    have value := congrFun same (turn r C R cell)
    rwa [shown a _ inside, shown b _ inside, unturn_turn r C R cell named] at value
  · intro same
    funext p
    by_cases inside : InGrid C R p
    · have value := same _ (unturn_in_grid r C R p inside)
      rw [turn_unturn r C R p inside] at value
      rw [shown a p inside, shown b p inside, value]
    · rw [paint, paint, seen, seen, clip, clip, if_neg inside, if_neg inside]

-- What an eight-cell write of a 16-wide line leaves alone: the message shows
-- the byte in the first half and darkness in the second, whatever the offset
-- says, and with a count of zero all the same.
def PartialFits (off count : Nat) (data : List UInt8) (before : Nat → Bool) : Prop :=
  match data with
  | [] => False
  | b :: _ =>
      if count = 0 then ∀ i < 16, before i = runBit [b, 0] i
      else if off = 0 then ∀ i < 16, 8 ≤ i → before i = false
      else b = 0 ∧ ∀ i < 8, before i = false

theorem zero_byte_bit (i : Nat) : byteBit 0 i = false := by
  rw [byteBit]
  exact Nat.zero_testBit i

theorem half_shown (b : UInt8) (i : Nat) : runBit [b, 0] i = if i < 8 then byteBit b i else false := by
  rw [run_bit_two, zero_byte_bit, ite_self]

theorem partial_fits_iff (off count : Nat) (b : UInt8) (rest : List UInt8) (before : Nat → Bool) (aligned : 8 ∣ off)
    (inside : off + 8 * count ≤ 16) (within : off < 16) (notWhole : 8 * count ≠ 16) :
    (∀ i < 16, runBit [b, 0] i = if off ≤ i ∧ i < off + 8 * count then runBit (b :: rest) (i - off) else before i) ↔
      PartialFits off count (b :: rest) before := by
  rw [PartialFits]
  have counts : count = 0 ∨ count = 1 := by omega
  have offs : off = 0 ∨ off = 8 := by omega
  rcases counts with rfl | rfl
  · rw [if_pos rfl]
    constructor
    · intro same i bound
      rw [same i bound, if_neg (by omega)]
    · intro same i bound
      rw [← same i bound, if_neg (by omega)]
  · rw [if_neg one_ne_zero]
    rcases offs with rfl | rfl
    · rw [if_pos rfl]
      constructor
      · intro same i bound high
        have value := same i bound
        rwa [half_shown, if_neg (by omega), if_neg (by omega), eq_comm] at value
      · intro dark i bound
        by_cases low : i < 8
        · rw [if_pos (by omega), Nat.sub_zero, half_shown, if_pos low, run_bit_head b rest i low]
        · rw [if_neg (by omega), half_shown, if_neg low, dark i bound (by omega)]
    · rw [if_neg (by decide)]
      constructor
      · intro same
        have zero : b = 0 := by
          apply byte_ext
          intro i low
          have value := same (i + 8) (by omega)
          rw [half_shown, if_neg (by omega), if_pos (by omega), Nat.add_sub_cancel, run_bit_head b rest i low] at value
          rw [← value, zero_byte_bit]
        refine ⟨zero, fun i low => ?_⟩
        have value := same i (by omega)
        rw [half_shown, if_pos low, if_neg (by omega), zero, zero_byte_bit] at value
        exact value.symm
      · rintro ⟨rfl, dark⟩ i bound
        by_cases low : i < 8
        · rw [if_neg (by omega), half_shown, if_pos low, zero_byte_bit, dark i low]
        · rw [if_pos (by omega), half_shown, if_neg low, run_bit_head 0 rest (i - 8) (by omega), zero_byte_bit]

section Lines

variable (r : MonomeRotate) (C R : Nat) (lamps : Canvas (Nat × Nat) Bool) (off count : Nat) (b : UInt8) (rest : List UInt8)
  (aligned : 8 ∣ off) (inside : off + 8 * count ≤ 16) (within : off < 16) (notWhole : 8 * count ≠ 16)
include aligned inside within notWhole

theorem line_alike_iff (line : Nat → Nat × Nat) (whole part : Pic (Nat × Nat) Bool)
    (named : ∀ i < 16, InGrid (logicalCols r C R) (logicalRows r C R) (line i))
    (elsewhere : ∀ cell, InGrid (logicalCols r C R) (logicalRows r C R) cell →
      (∃ i < 16, line i = cell) ∨ whole cell = none ∧ part cell = none)
    (onWhole : ∀ i < 16, whole (line i) = some (runBit [b, 0] i))
    (onPart : ∀ i < 16, part (line i) =
      if off ≤ i ∧ i < off + 8 * count then some (runBit (b :: rest) (i - off)) else none) :
    paint (seen r C R whole) lamps = paint (seen r C R part) lamps ↔
      PartialFits off count (b :: rest) fun i => lamps (turn r C R (line i)) := by
  rw [painted_same_iff, ← partial_fits_iff off count b rest _ aligned inside within notWhole]
  have pushed (c : Prop) [Decidable c] (v : Bool) (w : Bool) : (if c then some v else none).getD w = if c then v else w := by
    split <;> rfl
  constructor
  · intro same i bound
    have value := same (line i) (named i bound)
    rwa [onWhole i bound, onPart i bound, pushed, Option.getD_some] at value
  · intro same cell there
    rcases elsewhere cell there with ⟨i, bound, rfl⟩ | ⟨noWhole, noPart⟩
    · rw [onWhole i bound, onPart i bound, pushed, Option.getD_some]
      exact same i bound
    · rw [noWhole, noPart]

theorem row_alike_iff (y : Nat) (wide : logicalCols r C R = 16) (named : y < logicalRows r C R) :
    paint (seen r C R (rowRun 0 y 16 (runBit [b, 0]))) lamps =
      paint (seen r C R (rowRun off y (8 * count) (runBit (b :: rest)))) lamps ↔
    PartialFits off count (b :: rest) fun i => lamps (turn r C R (i, y)) := by
  refine line_alike_iff r C R lamps off count b rest aligned inside within notWhole (fun i => (i, y)) _ _
    (fun i bound => ⟨by simp only [wide]; exact bound, named⟩) (fun cell there => ?_) (fun i bound => ?_) (fun i bound => ?_)
  · by_cases row : cell.2 = y
    · exact .inl ⟨cell.1, wide ▸ there.1, by rw [← row]⟩
    · exact .inr ⟨if_neg fun drawn => row drawn.1, if_neg fun drawn => row drawn.1⟩
  · simp [rowRun, bound]
  · simp [rowRun]

theorem col_alike_iff (x : Nat) (wide : logicalRows r C R = 16) (named : x < logicalCols r C R) :
    paint (seen r C R (colRun x 0 16 (runBit [b, 0]))) lamps =
      paint (seen r C R (colRun x off (8 * count) (runBit (b :: rest)))) lamps ↔
    PartialFits off count (b :: rest) fun i => lamps (turn r C R (x, i)) := by
  refine line_alike_iff r C R lamps off count b rest aligned inside within notWhole (fun i => (x, i)) _ _
    (fun i bound => ⟨named, by simp only [wide]; exact bound⟩) (fun cell there => ?_) (fun i bound => ?_) (fun i bound => ?_)
  · by_cases col : cell.1 = x
    · exact .inl ⟨cell.2, wide ▸ there.2, by rw [← col]⟩
    · exact .inr ⟨if_neg fun drawn => col drawn.1, if_neg fun drawn => col drawn.1⟩
  · simp [colRun, bound]
  · simp [colRun]

end Lines

theorem shown_widened (t : Target) (b : UInt8) : shownPair t (widened t b) = [b, 0] := by
  rw [shownPair, widened]
  cases t.bigEndian <;> rfl

section Short

variable (t : Target) (monome : Monome) (C R : Nat) (sides : SeriesGrid C R) (has : HasGrid monome C R)
  (lamps : Canvas (Nat × Nat) Bool) (count : Nat) (short : ¬ count > 1) (data : List UInt8)
include sides has short

theorem series_short_row (xOff y : UInt32) (wide : logicalCols monome.rotation C R = 16)
    (named : y.toNat < logicalRows monome.rotation C R) :
    protoSeriesLedRow t (screen C R seriesPicture) monome xOff y count data lamps =
      match data with
      | [] => .error .outOfBounds
      | b :: _ => .ok (0, paint (seen monome.rotation C R (rowRun 0 y.toNat 16 (runBit [b, 0]))) lamps) := by
  have cols := (series_cols_wide monome C R sides has).mpr wide
  cases data with
  | nil =>
      rw [protoSeriesLedRow, if_pos cols, if_neg short]
      rfl
  | cons b rest =>
      have drawn := series_row_paints t monome C R sides has lamps xOff y named 2 (widened t b) (by omega)
        (by rw [widened]; split <;> rfl)
      rw [protoSeriesLedRow, if_pos cols, if_pos one_lt_two] at drawn
      rw [protoSeriesLedRow, if_pos cols, if_neg short, deref, io_check_bind, drawn, wide, shownData, if_neg (by decide),
        shown_widened]

theorem series_short_col (x yOff : UInt32) (wide : logicalRows monome.rotation C R = 16)
    (named : x.toNat < logicalCols monome.rotation C R) :
    protoSeriesLedCol t (screen C R seriesPicture) monome x yOff count data lamps =
      match data with
      | [] => .error .outOfBounds
      | b :: _ => .ok (0, paint (seen monome.rotation C R (colRun x.toNat 0 16 (runBit [b, 0]))) lamps) := by
  have rows := (series_rows_wide monome C R sides has).mpr wide
  cases data with
  | nil =>
      rw [protoSeriesLedCol, if_pos rows, if_neg short]
      rfl
  | cons b rest =>
      have drawn := series_col_paints t monome C R sides has lamps x yOff named 2 (widened t b) (by omega)
        (by rw [widened]; split <;> rfl)
      rw [protoSeriesLedCol, if_pos rows, if_pos one_lt_two] at drawn
      rw [protoSeriesLedCol, if_pos rows, if_neg short, deref, io_check_bind, drawn, wide, shownData, if_neg (by decide),
        shown_widened]

end Short

namespace GridCall

def output : GridCall → OutputCall
  | set x y on => .ledSet x y on
  | row xOff y count data => .ledRow xOff y count data
  | col x yOff count data => .ledCol x yOff count data
  | map xOff yOff data => .ledMap xOff yOff data

def Partial (monome : Monome) (C R : Nat) : GridCall → Prop
  | row xOff y count _ => logicalCols monome.rotation C R = 16 ∧ y.toNat < logicalRows monome.rotation C R ∧
      (8 ∣ xOff.toNat ∧ xOff.toNat < 16) ∧ 8 * count + xOff.toNat ≤ 16 ∧ 8 * count ≠ 16
  | col x yOff count _ => logicalRows monome.rotation C R = 16 ∧ x.toNat < logicalCols monome.rotation C R ∧
      (8 ∣ yOff.toNat ∧ yOff.toNat < 16) ∧ 8 * count + yOff.toNat ≤ 16 ∧ 8 * count ≠ 16
  | set _ _ _ | map _ _ _ => False

def Fits (monome : Monome) (C R : Nat) (lamps : Canvas (Nat × Nat) Bool) : GridCall → Prop
  | row xOff y count data =>
      PartialFits xOff.toNat count data fun i => lamps (turn monome.rotation C R (i, y.toNat))
  | col x yOff count data =>
      PartialFits yOff.toNat count data fun i => lamps (turn monome.rotation C R (x.toNat, i))
  | set _ _ _ | map _ _ _ => True

end GridCall

section Calls

variable (t : Target) (self : Series) (C R : Nat) (sides : SeriesGrid C R) (has : HasGrid self.monome C R)
  (call : GridCall) (partly : call.Partial self.monome C R) (supplied : call.Supplied) (lamps : Canvas (Nat × Nat) Bool)
include sides has partly

omit sides has partly in
theorem short_paints_iff (data : List UInt8) (fits : Prop) (run : Except Fault (Int32 × Canvas (Nat × Nat) Bool))
    (drawn : UInt8 → Canvas (Nat × Nat) Bool) (wanted : Canvas (Nat × Nat) Bool)
    (ran : run = match data with | [] => .error .outOfBounds | b :: _ => .ok (0, drawn b))
    (missing : data = [] → ¬ fits) (alike : ∀ b rest, data = b :: rest → (drawn b = wanted ↔ fits)) :
    (∃ status, run = .ok (status, wanted)) ↔ fits := by
  subst ran
  cases data with
  | nil =>
      refine iff_of_false ?_ (missing rfl)
      rintro ⟨_, faulted⟩
      cases faulted
  | cons b rest =>
      rw [← alike b rest rfl]
      constructor
      · rintro ⟨_, same⟩
        exact (Prod.mk.inj (Except.ok.inj same)).2
      · intro same
        exact ⟨0, congrArg (fun lamps => Except.ok (0, lamps)) same⟩

theorem partial_line_paints_iff : (∃ status, (Device.series self).output t (screen C R seriesPicture) call.output lamps =
      .ok (status, paint (seen self.monome.rotation C R call.picture) lamps)) ↔ call.Fits self.monome C R lamps := by
  cases call with
  | set x y on => exact absurd partly id
  | map xOff yOff data => exact absurd partly id
  | row xOff y count data =>
      obtain ⟨wide, named, ⟨aligned, within⟩, inside, notWhole⟩ := partly
      refine short_paints_iff data _ _ _ _ (series_short_row t self.monome C R sides has lamps count (by omega) data xOff y
        wide named) (fun none => ?_) (fun b rest same => ?_)
      · subst none
        exact id
      · subst same
        exact row_alike_iff self.monome.rotation C R lamps xOff.toNat count b rest aligned (by omega) within notWhole
          y.toNat wide named
  | col x yOff count data =>
      obtain ⟨wide, named, ⟨aligned, within⟩, inside, notWhole⟩ := partly
      refine short_paints_iff data _ _ _ _ (series_short_col t self.monome C R sides has lamps count (by omega) data x yOff
        wide named) (fun none => ?_) (fun b rest same => ?_)
      · subst none
        exact id
      · subst same
        exact col_alike_iff self.monome.rotation C R lamps yOff.toNat count b rest aligned (by omega) within notWhole
          x.toNat wide named

include supplied in
theorem partial_line_mext : ∃ answer, call.run t (screen C R mextBitPicture) self.monome lamps =
    .ok (answer, paint (seen self.monome.rotation C R call.picture) lamps) := by
  have grid : BlockGrid C R := by
    have cols := sides.cols
    have rows := sides.rows
    exact ⟨by omega, by omega, by omega, by omega⟩
  have logical := sides.logical C R self.monome.rotation
  have cols := logical.cols
  have rows := logical.rows
  cases call with
  | set x y on => exact absurd partly id
  | map xOff yOff data => exact absurd partly id
  | row xOff y count data =>
      obtain ⟨wide, named, ⟨aligned, within⟩, inside, notWhole⟩ := partly
      exact ⟨1, led_row_paints self.monome C R grid has lamps xOff y count data aligned (fun _ => by omega) supplied⟩
  | col x yOff count data =>
      obtain ⟨wide, named, ⟨aligned, within⟩, inside, notWhole⟩ := partly
      exact ⟨1, led_col_paints self.monome C R grid has lamps x yOff count data aligned (fun _ => by omega) supplied⟩

end Calls

theorem partial_lines_touch_named_iff (t : Target) (self : Series) (C R : Nat) (sides : SeriesGrid C R)
    (has : HasGrid self.monome C R) (call : GridCall) (partly : call.Partial self.monome C R) (supplied : call.Supplied)
    (lamps : Canvas (Nat × Nat) Bool) :
    (∃ status after, (Device.series self).output t (screen C R seriesPicture) call.output lamps = .ok (status, after) ∧
      (∀ d ∈ call.cells, LogicalCell self.monome d.1 → after (outputCell self.monome d.1) = d.2) ∧
      (∀ p, (∀ d ∈ call.cells, LogicalCell self.monome d.1 → outputCell self.monome d.1 ≠ p) → after p = lamps p) ∧
      ∃ answer, call.run t (screen C R mextBitPicture) self.monome lamps = .ok (answer, after)) ↔
    call.Fits self.monome C R lamps := by
  obtain ⟨answer, mext⟩ := partial_line_mext t self C R sides has call partly supplied lamps
  rw [← partial_line_paints_iff t self C R sides has call partly lamps]
  constructor
  · rintro ⟨status, after, ran, _, _, _, same⟩
    rw [mext] at same
    rw [← (Prod.mk.inj (Except.ok.inj same)).2] at ran
    exact ⟨status, ran⟩
  · rintro ⟨status, ran⟩
    have lists := call.cells_list
    refine ⟨status, _, ran, ?_, ?_, answer, mext⟩
    · exact fun d member named => dots_drawn self.monome C R has call.cells call.picture lists lamps d member named
    · exact fun p unnamed => dots_kept self.monome C R has call.cells call.picture lists lamps p unnamed

theorem partial_lines_first_half : ∃ status after,
    (Device.series ⟨⟨8, 16, .rotate180, none, .unset⟩, 0, 0⟩).output ⟨true, false⟩ (screen 16 8 seriesPicture)
      (.ledRow 0 2 1 [0x0F]) (fun _ => false) = .ok (status, after) ∧
    (∀ d ∈ (GridCall.row 0 2 1 [0x0F]).cells, LogicalCell ⟨8, 16, .rotate180, none, .unset⟩ d.1 →
      after (outputCell ⟨8, 16, .rotate180, none, .unset⟩ d.1) = d.2) ∧
    (∀ p, (∀ d ∈ (GridCall.row 0 2 1 [0x0F]).cells, LogicalCell ⟨8, 16, .rotate180, none, .unset⟩ d.1 →
      outputCell ⟨8, 16, .rotate180, none, .unset⟩ d.1 ≠ p) → after p = false) ∧
    ∃ answer, (GridCall.row 0 2 1 [0x0F]).run ⟨true, false⟩ (screen 16 8 mextBitPicture)
      ⟨8, 16, .rotate180, none, .unset⟩ (fun _ => false) = .ok (answer, after) :=
  (partial_lines_touch_named_iff ⟨true, false⟩ ⟨⟨8, 16, .rotate180, none, .unset⟩, 0, 0⟩ 16 8 ⟨.inr rfl, .inl rfl⟩
    ⟨rfl, rfl⟩ (.row 0 2 1 [0x0F]) ⟨rfl, by decide, ⟨by decide, by decide⟩, by decide, by decide⟩ (le_refl 1)
    (fun _ => false)).mpr fun _ _ _ => rfl

-- The second half of a lit row, named alone: the first half goes dark.
theorem first_half_cleared : ¬ ∃ status after,
    (Device.series ⟨⟨8, 16, .rotate0, none, .unset⟩, 0, 0⟩).output ⟨true, false⟩ (screen 16 8 seriesPicture)
      (.ledRow 8 0 1 [0x00]) (fun _ => true) = .ok (status, after) ∧
    (∀ d ∈ (GridCall.row 8 0 1 [0x00]).cells, LogicalCell ⟨8, 16, .rotate0, none, .unset⟩ d.1 →
      after (outputCell ⟨8, 16, .rotate0, none, .unset⟩ d.1) = d.2) ∧
    (∀ p, (∀ d ∈ (GridCall.row 8 0 1 [0x00]).cells, LogicalCell ⟨8, 16, .rotate0, none, .unset⟩ d.1 →
      outputCell ⟨8, 16, .rotate0, none, .unset⟩ d.1 ≠ p) → after p = true) ∧
    ∃ answer, (GridCall.row 8 0 1 [0x00]).run ⟨true, false⟩ (screen 16 8 mextBitPicture)
      ⟨8, 16, .rotate0, none, .unset⟩ (fun _ => true) = .ok (answer, after) := by
  rintro ⟨status, after, drawn, _, kept, _⟩
  have off : after (0, 0) = false :=
    (Option.some.inj (congrArg (fun r => r.toOption.map fun a => a.2 (0, 0)) drawn)).symm
  have on := kept (0, 0) (by decide)
  exact absurd (off.symm.trans on) (by decide)

end Libmonome
