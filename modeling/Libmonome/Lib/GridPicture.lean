import Libmonome.Lib.Picture

set_option autoImplicit false

namespace Picture

-- Straight runs and rectangular blocks of cells, each cell with the value its
-- place in the run or block selects.
variable {α : Type}

def rowRun (x y n : Nat) (v : Nat → α) : Pic (Nat × Nat) α :=
  fun p => if p.2 = y ∧ x ≤ p.1 ∧ p.1 < x + n then some (v (p.1 - x)) else none

def colRun (x y n : Nat) (v : Nat → α) : Pic (Nat × Nat) α :=
  fun p => if p.1 = x ∧ y ≤ p.2 ∧ p.2 < y + n then some (v (p.2 - y)) else none

def block (x y w h : Nat) (v : Nat → Nat → α) : Pic (Nat × Nat) α :=
  fun p => if (x ≤ p.1 ∧ p.1 < x + w) ∧ y ≤ p.2 ∧ p.2 < y + h then some (v (p.1 - x) (p.2 - y)) else none

theorem drawn_congr (a b : Prop) [Decidable a] [Decidable b] (v v' : α) (together : a ↔ b) (value : a → v = v') :
    (if a then some v else none) = if b then some v' else none := by
  by_cases drawn : a
  · rw [if_pos drawn, if_pos (together.mp drawn), value drawn]
  · rw [if_neg drawn, if_neg (fun other => drawn (together.mpr other))]

theorem row_run_none (x y : Nat) (v : Nat → α) : rowRun x y 0 v = blank := by
  funext p
  rw [rowRun, if_neg (by omega)]
  rfl

theorem col_run_none (x y : Nat) (v : Nat → α) : colRun x y 0 v = blank := by
  funext p
  rw [colRun, if_neg (by omega)]
  rfl

theorem row_run_append (x y a b : Nat) (v : Nat → α) :
    rowRun x y (a + b) v = atop (rowRun (x + a) y b (fun i => v (a + i))) (rowRun x y a v) := by
  funext p
  simp only [rowRun, atop]
  by_cases early : p.2 = y ∧ x ≤ p.1 ∧ p.1 < x + a
  · rw [if_pos (by omega), if_neg (by omega), if_pos early]
    rfl
  · by_cases late : p.2 = y ∧ x + a ≤ p.1 ∧ p.1 < x + a + b
    · rw [if_pos (by omega), if_pos late, if_neg early, show a + (p.1 - (x + a)) = p.1 - x by omega]
      rfl
    · rw [if_neg (by omega), if_neg late, if_neg early]
      rfl

theorem col_run_append (x y a b : Nat) (v : Nat → α) :
    colRun x y (a + b) v = atop (colRun x (y + a) b (fun i => v (a + i))) (colRun x y a v) := by
  funext p
  simp only [colRun, atop]
  by_cases early : p.1 = x ∧ y ≤ p.2 ∧ p.2 < y + a
  · rw [if_pos (by omega), if_neg (by omega), if_pos early]
    rfl
  · by_cases late : p.1 = x ∧ y + a ≤ p.2 ∧ p.2 < y + a + b
    · rw [if_pos (by omega), if_pos late, if_neg early, show a + (p.2 - (y + a)) = p.2 - y by omega]
      rfl
    · rw [if_neg (by omega), if_neg late, if_neg early]
      rfl

theorem row_run_congr (x y n : Nat) (v v' : Nat → α) (same : ∀ i < n, v i = v' i) :
    rowRun x y n v = rowRun x y n v' := by
  funext p
  by_cases inside : p.2 = y ∧ x ≤ p.1 ∧ p.1 < x + n
  · rw [rowRun, rowRun, if_pos inside, if_pos inside, same _ (by omega)]
  · rw [rowRun, rowRun, if_neg inside, if_neg inside]

theorem col_run_congr (x y n : Nat) (v v' : Nat → α) (same : ∀ i < n, v i = v' i) :
    colRun x y n v = colRun x y n v' := by
  funext p
  by_cases inside : p.1 = x ∧ y ≤ p.2 ∧ p.2 < y + n
  · rw [colRun, colRun, if_pos inside, if_pos inside, same _ (by omega)]
  · rw [colRun, colRun, if_neg inside, if_neg inside]

theorem block_congr (x y w h : Nat) (v v' : Nat → Nat → α) (same : ∀ i < w, ∀ j < h, v i j = v' i j) :
    block x y w h v = block x y w h v' := by
  funext p
  by_cases inside : (x ≤ p.1 ∧ p.1 < x + w) ∧ y ≤ p.2 ∧ p.2 < y + h
  · rw [block, block, if_pos inside, if_pos inside, same _ (by omega) _ (by omega)]
  · rw [block, block, if_neg inside, if_neg inside]

theorem row_run_cell (x y n : Nat) (v : Nat → α) (i : Nat) (inside : i < n) : rowRun x y n v (x + i, y) = some (v i) := by
  rw [rowRun, if_pos ⟨rfl, Nat.le_add_right x i, Nat.add_lt_add_left inside x⟩, Nat.add_sub_cancel_left]

theorem col_run_cell (x y n : Nat) (v : Nat → α) (i : Nat) (inside : i < n) : colRun x y n v (x, y + i) = some (v i) := by
  rw [colRun, if_pos ⟨rfl, Nat.le_add_right y i, Nat.add_lt_add_left inside y⟩, Nat.add_sub_cancel_left]

def rowDots (x y n : Nat) (v : Nat → α) : List ((Nat × Nat) × α) := (List.range n).map fun i => ((x + i, y), v i)
def colDots (x y n : Nat) (v : Nat → α) : List ((Nat × Nat) × α) := (List.range n).map fun i => ((x, y + i), v i)
def blockDots (x y w h : Nat) (v : Nat → Nat → α) : List ((Nat × Nat) × α) :=
  (List.range h).flatMap fun j => rowDots x (y + j) w fun i => v i j

theorem row_dots_list (x y n : Nat) (v : Nat → α) : Lists (rowDots x y n v) (rowRun x y n v) where
  sound d member := by
    obtain ⟨i, bound, rfl⟩ := List.mem_map.mp member
    exact row_run_cell x y n v i (List.mem_range.mp bound)
  complete p drawn := by
    obtain ⟨a, b⟩ := p
    by_cases inside : b = y ∧ x ≤ a ∧ a < x + n
    · obtain ⟨rfl, low, high⟩ := inside
      exact List.mem_map.mpr ⟨((x + (a - x), b), v (a - x)), List.mem_map.mpr ⟨a - x, List.mem_range.mpr (by omega), rfl⟩,
        by simp only [Prod.mk.injEq, and_true]; omega⟩
    · exact absurd (if_neg inside) drawn

theorem col_dots_list (x y n : Nat) (v : Nat → α) : Lists (colDots x y n v) (colRun x y n v) where
  sound d member := by
    obtain ⟨i, bound, rfl⟩ := List.mem_map.mp member
    exact col_run_cell x y n v i (List.mem_range.mp bound)
  complete p drawn := by
    obtain ⟨a, b⟩ := p
    by_cases inside : a = x ∧ y ≤ b ∧ b < y + n
    · obtain ⟨rfl, low, high⟩ := inside
      exact List.mem_map.mpr ⟨((a, y + (b - y)), v (b - y)), List.mem_map.mpr ⟨b - y, List.mem_range.mpr (by omega), rfl⟩,
        by simp only [Prod.mk.injEq, true_and]; omega⟩
    · exact absurd (if_neg inside) drawn

theorem block_dots_list (x y w h : Nat) (v : Nat → Nat → α) : Lists (blockDots x y w h v) (block x y w h v) where
  sound d member := by
    obtain ⟨j, below, row⟩ := List.mem_flatMap.mp member
    obtain ⟨i, left, rfl⟩ := List.mem_map.mp row
    have jBound := List.mem_range.mp below
    have iBound := List.mem_range.mp left
    rw [block, if_pos ⟨⟨Nat.le_add_right x i, Nat.add_lt_add_left iBound x⟩, Nat.le_add_right y j,
      Nat.add_lt_add_left jBound y⟩, Nat.add_sub_cancel_left, Nat.add_sub_cancel_left]
  complete p drawn := by
    obtain ⟨a, b⟩ := p
    by_cases inside : (x ≤ a ∧ a < x + w) ∧ y ≤ b ∧ b < y + h
    · obtain ⟨⟨low, high⟩, top, bottom⟩ := inside
      have row : ((x + (a - x), y + (b - y)), v (a - x) (b - y)) ∈
          rowDots x (y + (b - y)) w (fun i => v i (b - y)) :=
        List.mem_map.mpr ⟨a - x, List.mem_range.mpr (by omega), rfl⟩
      exact List.mem_map.mpr ⟨_, List.mem_flatMap.mpr ⟨b - y, List.mem_range.mpr (by omega), row⟩,
        by simp only [Prod.mk.injEq]; omega⟩
    · exact absurd (if_neg inside) drawn

end Picture
