import Libmonome.Types
import Libmonome.Lib.GridPicture

set_option autoImplicit false

namespace Libmonome

open Picture

-- What a rotation means, apart from how the code computes it. The physical
-- grid has C columns and R rows; turn takes a cell the program names to the
-- lamp it stands for, unturn takes a lamp back to its name.
def MonomeRotate.swaps : MonomeRotate → Bool
  | .rotate90 | .rotate270 => true
  | .rotate0 | .rotate180 => false

def turn (r : MonomeRotate) (C R : Nat) (p : Nat × Nat) : Nat × Nat :=
  match r with
  | .rotate0 => p
  | .rotate90 => (p.2, R - 1 - p.1)
  | .rotate180 => (C - 1 - p.1, R - 1 - p.2)
  | .rotate270 => (C - 1 - p.2, p.1)

def unturn (r : MonomeRotate) (C R : Nat) (p : Nat × Nat) : Nat × Nat :=
  match r with
  | .rotate0 => p
  | .rotate90 => (R - 1 - p.2, p.1)
  | .rotate180 => (C - 1 - p.1, R - 1 - p.2)
  | .rotate270 => (p.2, C - 1 - p.1)

def logicalCols (r : MonomeRotate) (C R : Nat) : Nat := if r.swaps then R else C
def logicalRows (r : MonomeRotate) (C R : Nat) : Nat := if r.swaps then C else R

def InGrid (cols rows : Nat) (p : Nat × Nat) : Prop := p.1 < cols ∧ p.2 < rows

instance (cols rows : Nat) : DecidablePred (InGrid cols rows) :=
  fun p => inferInstanceAs (Decidable (p.1 < cols ∧ p.2 < rows))

theorem turn_in_grid (r : MonomeRotate) (C R : Nat) (p : Nat × Nat)
    (named : InGrid (logicalCols r C R) (logicalRows r C R) p) : InGrid C R (turn r C R p) := by
  obtain ⟨x, y⟩ := p
  obtain ⟨left, up⟩ := named
  cases r with
  | rotate0 => exact ⟨left, up⟩
  | rotate90 =>
      have wide : x < R := left
      exact ⟨up, by simp only [turn]; omega⟩
  | rotate180 =>
      have wide : x < C := left
      have high : y < R := up
      exact ⟨by simp only [turn]; omega, by simp only [turn]; omega⟩
  | rotate270 =>
      have high : y < C := up
      exact ⟨by simp only [turn]; omega, left⟩

theorem unturn_in_grid (r : MonomeRotate) (C R : Nat) (p : Nat × Nat) (inside : InGrid C R p) :
    InGrid (logicalCols r C R) (logicalRows r C R) (unturn r C R p) := by
  obtain ⟨x, y⟩ := p
  obtain ⟨left, up⟩ := inside
  have wide : x < C := left
  have high : y < R := up
  cases r with
  | rotate0 => exact ⟨left, up⟩
  | rotate90 =>
      have lower : R - 1 - y < R := by omega
      exact ⟨lower, left⟩
  | rotate180 =>
      have shorter : C - 1 - x < C := by omega
      have lower : R - 1 - y < R := by omega
      exact ⟨shorter, lower⟩
  | rotate270 =>
      have shorter : C - 1 - x < C := by omega
      exact ⟨up, shorter⟩

theorem sub_twice (n i : Nat) (inside : i < n) : n - 1 - (n - 1 - i) = i := by omega

theorem unturn_turn (r : MonomeRotate) (C R : Nat) (p : Nat × Nat)
    (named : InGrid (logicalCols r C R) (logicalRows r C R) p) : unturn r C R (turn r C R p) = p := by
  obtain ⟨x, y⟩ := p
  obtain ⟨left, up⟩ := named
  cases r with
  | rotate0 => rfl
  | rotate90 => rw [turn, unturn, sub_twice R x left]
  | rotate180 => rw [turn, unturn, sub_twice C x left, sub_twice R y up]
  | rotate270 => rw [turn, unturn, sub_twice C y up]

theorem turn_unturn (r : MonomeRotate) (C R : Nat) (p : Nat × Nat) (inside : InGrid C R p) :
    turn r C R (unturn r C R p) = p := by
  obtain ⟨x, y⟩ := p
  obtain ⟨left, up⟩ := inside
  cases r with
  | rotate0 => rfl
  | rotate90 => rw [unturn, turn, sub_twice R y up]
  | rotate180 => rw [unturn, turn, sub_twice C x left, sub_twice R y up]
  | rotate270 => rw [unturn, turn, sub_twice C x left]

-- A turned offset as one byte carries it: off the grid the unsigned
-- subtraction has wrapped, and the byte is what is left of it.
def wireTurn (r : MonomeRotate) (C R : Nat) (p : Nat × Nat) : Nat × Nat :=
  match r with
  | .rotate0 => p
  | .rotate90 => (p.2, (255 + R - p.1) % 256)
  | .rotate180 => ((255 + C - p.1) % 256, (255 + R - p.2) % 256)
  | .rotate270 => ((255 + C - p.2) % 256, p.1)

theorem wire_offset (n i : Nat) (small : n ≤ 255) (inside : i < n) : (255 + n - i) % 256 = n - 1 - i := by omega

theorem wire_turn_in_grid (r : MonomeRotate) (C R : Nat) (p : Nat × Nat) (small : C ≤ 255 ∧ R ≤ 255)
    (named : InGrid (logicalCols r C R) (logicalRows r C R) p) : wireTurn r C R p = turn r C R p := by
  obtain ⟨x, y⟩ := p
  obtain ⟨left, up⟩ := named
  cases r with
  | rotate0 => rfl
  | rotate90 => rw [wireTurn, turn, wire_offset R x small.2 left]
  | rotate180 => rw [wireTurn, turn, wire_offset C x small.1 left, wire_offset R y small.2 up]
  | rotate270 => rw [wireTurn, turn, wire_offset C y small.1 up]

def MonomeRotate.rowDescends : MonomeRotate → Bool
  | .rotate90 | .rotate180 => true
  | .rotate0 | .rotate270 => false

def MonomeRotate.colDescends : MonomeRotate → Bool
  | .rotate180 | .rotate270 => true
  | .rotate0 | .rotate90 => false

section Turned

variable {α : Type} (C R : Nat)

-- Grids the drawing results are about: whole 8x8 blocks, extents in one byte
-- with room to tell an off-grid offset from a lamp.
structure BlockGrid (C R : Nat) : Prop where
  cols : 8 ∣ C
  rows : 8 ∣ R
  colsSmall : C ≤ 248
  rowsSmall : R ≤ 248

variable (grid : BlockGrid C R) (r : MonomeRotate)

include grid

theorem turned_dot (x y : Nat) (xSmall : x < 256) (ySmall : y < 256) (v : α) (p : Nat × Nat)
    (inside : InGrid C R p) : dot (x, y) v (unturn r C R p) = dot (wireTurn r C R (x, y)) v p := by
  obtain ⟨px, py⟩ := p
  have cols := grid.colsSmall
  have rows := grid.rowsSmall
  simp only [InGrid] at inside
  have same : unturn r C R (px, py) = (x, y) ↔ (px, py) = wireTurn r C R (x, y) := by
    cases r <;> simp only [unturn, wireTurn, Prod.mk.injEq] <;> omega
  simp only [dot, same]

theorem turned_row (x y : Nat) (aligned : 8 ∣ x) (xSmall : x < 256) (ySmall : y < 256) (v : Nat → α)
    (p : Nat × Nat) (inside : InGrid C R p) :
    rowRun x y 8 v (unturn r C R p) =
      (let o := wireTurn r C R (x, y)
       let v' := if r.rowDescends then fun i => v (7 - i) else v
       if r.swaps then colRun o.1 (o.2 / 8 * 8) 8 v' else rowRun (o.1 / 8 * 8) o.2 8 v') p := by
  obtain ⟨px, py⟩ := p
  obtain ⟨a, rfl⟩ := aligned
  obtain ⟨⟨c, rfl⟩, ⟨d, rfl⟩, colsSmall, rowsSmall⟩ := grid
  simp only [InGrid] at inside
  cases r with
  | rotate0 =>
      simp only [unturn, wireTurn, MonomeRotate.rowDescends, MonomeRotate.swaps, rowRun, Bool.false_eq_true, if_false]
      exact drawn_congr _ _ _ _ (by omega) (fun _ => congrArg v (by omega))
  | rotate90 =>
      simp only [unturn, wireTurn, MonomeRotate.rowDescends, MonomeRotate.swaps, rowRun, colRun, if_true]
      exact drawn_congr _ _ _ _ (by omega) (fun _ => congrArg v (by omega))
  | rotate180 =>
      simp only [unturn, wireTurn, MonomeRotate.rowDescends, MonomeRotate.swaps, rowRun, Bool.false_eq_true, if_false,
        if_true]
      exact drawn_congr _ _ _ _ (by omega) (fun _ => congrArg v (by omega))
  | rotate270 =>
      simp only [unturn, wireTurn, MonomeRotate.rowDescends, MonomeRotate.swaps, rowRun, colRun, Bool.false_eq_true,
        if_false, if_true]
      exact drawn_congr _ _ _ _ (by omega) (fun _ => congrArg v (by omega))

theorem turned_col (x y : Nat) (aligned : 8 ∣ y) (xSmall : x < 256) (ySmall : y < 256) (v : Nat → α)
    (p : Nat × Nat) (inside : InGrid C R p) :
    colRun x y 8 v (unturn r C R p) =
      (let o := wireTurn r C R (x, y)
       let v' := if r.colDescends then fun i => v (7 - i) else v
       if r.swaps then rowRun (o.1 / 8 * 8) o.2 8 v' else colRun o.1 (o.2 / 8 * 8) 8 v') p := by
  obtain ⟨px, py⟩ := p
  obtain ⟨a, rfl⟩ := aligned
  obtain ⟨⟨c, rfl⟩, ⟨d, rfl⟩, colsSmall, rowsSmall⟩ := grid
  simp only [InGrid] at inside
  cases r with
  | rotate0 =>
      simp only [unturn, wireTurn, MonomeRotate.colDescends, MonomeRotate.swaps, colRun, Bool.false_eq_true, if_false]
      exact drawn_congr _ _ _ _ (by omega) (fun _ => congrArg v (by omega))
  | rotate90 =>
      simp only [unturn, wireTurn, MonomeRotate.colDescends, MonomeRotate.swaps, rowRun, colRun, Bool.false_eq_true,
        if_false, if_true]
      exact drawn_congr _ _ _ _ (by omega) (fun _ => congrArg v (by omega))
  | rotate180 =>
      simp only [unturn, wireTurn, MonomeRotate.colDescends, MonomeRotate.swaps, colRun, Bool.false_eq_true, if_false,
        if_true]
      exact drawn_congr _ _ _ _ (by omega) (fun _ => congrArg v (by omega))
  | rotate270 =>
      simp only [unturn, wireTurn, MonomeRotate.colDescends, MonomeRotate.swaps, rowRun, colRun, if_true]
      exact drawn_congr _ _ _ _ (by omega) (fun _ => congrArg v (by omega))

theorem turned_block (x y : Nat) (xAligned : 8 ∣ x) (yAligned : 8 ∣ y) (xSmall : x < 256) (ySmall : y < 256)
    (v : Nat → Nat → α) (p : Nat × Nat) (inside : InGrid C R p) :
    block x y 8 8 v (unturn r C R p) =
      (let o := wireTurn r C R (x, y)
       block (o.1 / 8 * 8) (o.2 / 8 * 8) 8 8 (fun i j => v (unturn r 8 8 (i, j)).1 (unturn r 8 8 (i, j)).2)) p := by
  obtain ⟨px, py⟩ := p
  obtain ⟨a, rfl⟩ := xAligned
  obtain ⟨b, rfl⟩ := yAligned
  obtain ⟨⟨c, rfl⟩, ⟨d, rfl⟩, colsSmall, rowsSmall⟩ := grid
  simp only [InGrid] at inside
  cases r with
  | rotate0 =>
      simp only [unturn, wireTurn, block]
      exact drawn_congr _ _ _ _ (by omega) (fun _ => congrArg₂ v (by omega) (by omega))
  | rotate90 =>
      simp only [unturn, wireTurn, block]
      exact drawn_congr _ _ _ _ (by omega) (fun _ => congrArg₂ v (by omega) (by omega))
  | rotate180 =>
      simp only [unturn, wireTurn, block]
      exact drawn_congr _ _ _ _ (by omega) (fun _ => congrArg₂ v (by omega) (by omega))
  | rotate270 =>
      simp only [unturn, wireTurn, block]
      exact drawn_congr _ _ _ _ (by omega) (fun _ => congrArg₂ v (by omega) (by omega))

end Turned

end Libmonome
