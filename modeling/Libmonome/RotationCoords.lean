import Libmonome.Rotation

set_option autoImplicit false

namespace Libmonome

structure HasGrid (monome : Monome) (C R : Nat) : Prop where
  cols : monome.cols.toInt = C
  rows : monome.rows.toInt = R

theorem int_as_uint (i : Int32) (n : Nat) (value : i.toInt = n) : i.toUInt32.toNat = n := by
  have signed : i.toBitVec.toInt = n := value
  have bound := i.toBitVec.isLt
  rw [BitVec.toInt_eq_toNat_cond] at signed
  show i.toBitVec.toNat = n
  split at signed <;> omega

theorem has_flag_swap (monome : Monome) : hasFlag monome rowColSwap = monome.rotation.swaps := by
  rw [hasFlag]
  cases monome.rotation <;> rfl

theorem has_flag_row (monome : Monome) : hasFlag monome rowRevbits = monome.rotation.rowDescends := by
  rw [hasFlag]
  cases monome.rotation <;> rfl

theorem has_flag_col (monome : Monome) : hasFlag monome colRevbits = monome.rotation.colDescends := by
  rw [hasFlag]
  cases monome.rotation <;> rfl

theorem get_cols_swaps (monome : Monome) :
    monomeGetCols monome = if monome.rotation.swaps then monome.rows else monome.cols := by
  rw [monomeGetCols]
  cases monome.rotation <;> rfl

theorem get_rows_swaps (monome : Monome) :
    monomeGetRows monome = if monome.rotation.swaps then monome.cols else monome.rows := by
  rw [monomeGetRows]
  cases monome.rotation <;> rfl

theorem get_cols_logical (monome : Monome) (C R : Nat) (grid : HasGrid monome C R) :
    (monomeGetCols monome).toInt = logicalCols monome.rotation C R := by
  rw [get_cols_swaps, logicalCols]
  cases monome.rotation.swaps
  · exact grid.cols
  · exact grid.rows

theorem get_rows_logical (monome : Monome) (C R : Nat) (grid : HasGrid monome C R) :
    (monomeGetRows monome).toInt = logicalRows monome.rotation C R := by
  rw [get_rows_swaps, logicalRows]
  cases monome.rotation.swaps
  · exact grid.rows
  · exact grid.cols

theorem flipped_below (extent x : UInt32) (n : Nat) (value : extent.toNat = n) (below : x.toNat < n) :
    (extent - 1 - x).toNat = n - 1 - x.toNat := by
  have bound := extent.toNat_lt
  rw [UInt32.toNat_sub, UInt32.toNat_sub, value]
  show (2 ^ 32 - x.toNat + (2 ^ 32 - 1 + n) % 2 ^ 32) % 2 ^ 32 = _
  omega

theorem flipped_byte (extent x : UInt32) (n : Nat) (value : extent.toNat = n) (small : x.toNat < 256) :
    (extent - 1 - x).toUInt8.toNat = (255 + n - x.toNat) % 256 := by
  rw [UInt32.toNat_toUInt8, UInt32.toNat_sub, UInt32.toNat_sub, value]
  show (2 ^ 32 - x.toNat + (2 ^ 32 - 1 + n) % 2 ^ 32) % 2 ^ 32 % 2 ^ 8 = _
  omega

section Flipped

variable (monome : Monome) (C R : Nat) (grid : HasGrid monome C R)
include grid

theorem cols_val : (monomeGetCols monome).toUInt32.toNat = logicalCols monome.rotation C R :=
  int_as_uint _ _ (get_cols_logical monome C R grid)

theorem rows_val : (monomeGetRows monome).toUInt32.toNat = logicalRows monome.rotation C R :=
  int_as_uint _ _ (get_rows_logical monome C R grid)

theorem cols_flipped (x : UInt32) (below : x.toNat < logicalCols monome.rotation C R) :
    (colsMax monome - x).toNat = logicalCols monome.rotation C R - 1 - x.toNat :=
  flipped_below _ x _ (cols_val monome C R grid) below

theorem rows_flipped (y : UInt32) (below : y.toNat < logicalRows monome.rotation C R) :
    (rowsMax monome - y).toNat = logicalRows monome.rotation C R - 1 - y.toNat :=
  flipped_below _ y _ (rows_val monome C R grid) below

end Flipped

theorem rotate_coords_bytes (monome : Monome) (C R : Nat) (grid : HasGrid monome C R)
    (x y : UInt32) (xSmall : x.toNat < 256) (ySmall : y.toNat < 256) :
    ((rotateCoords monome x y).1.toUInt8.toNat, (rotateCoords monome x y).2.toUInt8.toNat) =
      wireTurn monome.rotation C R (x.toNat, y.toNat) := by
  have left : x.toUInt8.toNat = x.toNat := by rw [UInt32.toNat_toUInt8, Nat.mod_eq_of_lt xSmall]
  have up : y.toUInt8.toNat = y.toNat := by rw [UInt32.toNat_toUInt8, Nat.mod_eq_of_lt ySmall]
  have cols := flipped_byte _ x _ (cols_val monome C R grid) xSmall
  have rows := flipped_byte _ y _ (rows_val monome C R grid) ySmall
  rw [rotateCoords]
  generalize monome.rotation = r at cols rows ⊢
  cases r with
  | rotate0 => exact congrArg₂ Prod.mk left up
  | rotate90 => exact congrArg₂ Prod.mk up cols
  | rotate180 => exact congrArg₂ Prod.mk cols rows
  | rotate270 => exact congrArg₂ Prod.mk rows left

theorem rotate_coords_in_grid (monome : Monome) (C R : Nat) (grid : HasGrid monome C R)
    (x y : UInt32) (named : InGrid (logicalCols monome.rotation C R) (logicalRows monome.rotation C R) (x.toNat, y.toNat)) :
    ((rotateCoords monome x y).1.toNat, (rotateCoords monome x y).2.toNat) =
      turn monome.rotation C R (x.toNat, y.toNat) := by
  have cols := cols_flipped monome C R grid x named.1
  have rows := rows_flipped monome C R grid y named.2
  rw [rotateCoords]
  generalize monome.rotation = r at cols rows ⊢
  cases r with
  | rotate0 => rfl
  | rotate90 => exact congrArg₂ Prod.mk rfl cols
  | rotate180 => exact congrArg₂ Prod.mk cols rows
  | rotate270 => exact congrArg₂ Prod.mk rows rfl

def LogicalCell (monome : Monome) (cell : Nat × Nat) : Prop :=
  (cell.1 : Int) < (monomeGetCols monome).toInt ∧ (cell.2 : Int) < (monomeGetRows monome).toInt

instance (monome : Monome) : DecidablePred (LogicalCell monome) :=
  fun cell => inferInstanceAs (Decidable ((cell.1 : Int) < (monomeGetCols monome).toInt ∧ _))

def outputCell (monome : Monome) (cell : Nat × Nat) : Nat × Nat :=
  let point := rotateCoords monome (UInt32.ofNat cell.1) (UInt32.ofNat cell.2)
  (point.1.toNat, point.2.toNat)

theorem logical_cell_in_grid (monome : Monome) (C R : Nat) (grid : HasGrid monome C R) (cell : Nat × Nat) :
    LogicalCell monome cell ↔
      InGrid (logicalCols monome.rotation C R) (logicalRows monome.rotation C R) cell := by
  rw [LogicalCell, get_cols_logical monome C R grid, get_rows_logical monome C R grid, Int.ofNat_lt, Int.ofNat_lt]
  rfl

theorem output_cell_turns (monome : Monome) (C R : Nat) (grid : HasGrid monome C R) (cell : Nat × Nat)
    (named : LogicalCell monome cell) : outputCell monome cell = turn monome.rotation C R cell := by
  have fits : ∀ n : Nat, ∀ i : Int32, (n : Int) < i.toInt → (UInt32.ofNat n).toNat = n := by
    intro n i below
    have bound := i.toInt_lt
    rw [UInt32.toNat_ofNat', Nat.mod_eq_of_lt (by omega)]
  have left := fits _ _ named.1
  have up := fits _ _ named.2
  rw [logical_cell_in_grid monome C R grid] at named
  rw [outputCell, rotate_coords_in_grid monome C R grid _ _ (by rwa [left, up]), left, up]

theorem cols_modulus (monome : Monome) : colsMax monome + 1 = (monomeGetCols monome).toUInt32 := by
  simp [colsMax]

theorem rows_modulus (monome : Monome) : rowsMax monome + 1 = (monomeGetRows monome).toUInt32 := by
  simp [rowsMax]

theorem uint_zero_iff (i : Int32) : i.toUInt32 = 0 ↔ i = 0 := by
  constructor
  · intro zero
    exact Int32.toBitVec_inj.mp (congrArg UInt32.toBitVec zero)
  · rintro rfl
    rfl

def DividesByNonzero (monome : Monome) : Prop :=
  match monome.rotation with
  | .rotate0 => True
  | .rotate90 => monomeGetCols monome ≠ 0
  | .rotate180 => monomeGetCols monome ≠ 0 ∧ monomeGetRows monome ≠ 0
  | .rotate270 => monomeGetRows monome ≠ 0

instance (monome : Monome) : Decidable (DividesByNonzero monome) :=
  match turned : monome.rotation with
  | .rotate0 => isTrue (by simp only [DividesByNonzero, turned])
  | .rotate90 => decidable_of_iff (monomeGetCols monome ≠ 0) (by simp only [DividesByNonzero, turned])
  | .rotate180 => decidable_of_iff (monomeGetCols monome ≠ 0 ∧ monomeGetRows monome ≠ 0)
      (by simp only [DividesByNonzero, turned])
  | .rotate270 => decidable_of_iff (monomeGetRows monome ≠ 0) (by simp only [DividesByNonzero, turned])

theorem uint_mod_cols (monome : Monome) (a : UInt32) : uintMod a (colsMax monome + 1) =
    if monomeGetCols monome = 0 then .error .divisionByZero else .ok (a % (monomeGetCols monome).toUInt32) := by
  simp only [uintMod, cols_modulus, uint_zero_iff]

theorem uint_mod_rows (monome : Monome) (a : UInt32) : uintMod a (rowsMax monome + 1) =
    if monomeGetRows monome = 0 then .error .divisionByZero else .ok (a % (monomeGetRows monome).toUInt32) := by
  simp only [uintMod, rows_modulus, uint_zero_iff]

theorem unrotate_coords_fault (monome : Monome) (x y : UInt32) (zero : ¬ DividesByNonzero monome) :
    unrotateCoords monome x y = .error .divisionByZero := by
  rw [unrotateCoords]
  cases turned : monome.rotation with
  | rotate0 => simp [DividesByNonzero, turned] at zero
  | rotate90 =>
      have none : monomeGetCols monome = 0 := by simpa [DividesByNonzero, turned] using zero
      simp only [rotspec, r90InputCb, uint_mod_cols, if_pos none]
      rfl
  | rotate180 =>
      simp only [rotspec, r180InputCb, uint_mod_cols, uint_mod_rows]
      by_cases none : monomeGetCols monome = 0
      · rw [if_pos none]
        rfl
      · have noRows : monomeGetRows monome = 0 := by simpa [DividesByNonzero, turned, none] using zero
        rw [if_neg none, if_pos noRows]
        rfl
  | rotate270 =>
      have none : monomeGetRows monome = 0 := by simpa [DividesByNonzero, turned] using zero
      simp only [rotspec, r270InputCb, uint_mod_rows, if_pos none]
      rfl

def unrotated (monome : Monome) (x y : UInt32) : UInt32 × UInt32 :=
  match monome.rotation with
  | .rotate0 => (x, y)
  | .rotate90 => ((colsMax monome - y) % (monomeGetCols monome).toUInt32, x)
  | .rotate180 => ((colsMax monome - x) % (monomeGetCols monome).toUInt32,
      (rowsMax monome - y) % (monomeGetRows monome).toUInt32)
  | .rotate270 => (y, (rowsMax monome - x) % (monomeGetRows monome).toUInt32)

theorem unrotate_coords_ok (monome : Monome) (x y : UInt32) (nonzero : DividesByNonzero monome) :
    unrotateCoords monome x y = .ok (unrotated monome x y) := by
  rw [unrotateCoords, unrotated]
  cases turned : monome.rotation with
  | rotate0 => rfl
  | rotate90 =>
      have some : monomeGetCols monome ≠ 0 := by simpa [DividesByNonzero, turned] using nonzero
      simp only [rotspec, r90InputCb, uint_mod_cols, if_neg some]
      rfl
  | rotate180 =>
      have some : monomeGetCols monome ≠ 0 ∧ monomeGetRows monome ≠ 0 := by
        simpa [DividesByNonzero, turned] using nonzero
      simp only [rotspec, r180InputCb, uint_mod_cols, uint_mod_rows, if_neg some.1, if_neg some.2]
      rfl
  | rotate270 =>
      have some : monomeGetRows monome ≠ 0 := by simpa [DividesByNonzero, turned] using nonzero
      simp only [rotspec, r270InputCb, uint_mod_rows, if_neg some]
      rfl

theorem mod_below (a : UInt32) (i : Int32) (nonzero : i ≠ 0) : a % i.toUInt32 < i.toUInt32 := by
  rw [UInt32.lt_iff_toNat_lt, UInt32.toNat_mod]
  apply Nat.mod_lt
  rcases Nat.eq_zero_or_pos i.toUInt32.toNat with zero | positive
  · exact absurd ((uint_zero_iff i).mp (UInt32.toNat_inj.mp zero)) nonzero
  · exact positive

theorem unrotated_bounded (monome : Monome) (x y : UInt32) (nonzero : DividesByNonzero monome) :
    ((unrotated monome x y).1 < (monomeGetCols monome).toUInt32 ∨
      (unrotated monome x y).1 = x ∨ (unrotated monome x y).1 = y) ∧
    ((unrotated monome x y).2 < (monomeGetRows monome).toUInt32 ∨
      (unrotated monome x y).2 = x ∨ (unrotated monome x y).2 = y) := by
  rw [unrotated]
  cases turned : monome.rotation with
  | rotate0 => exact ⟨.inr (.inl rfl), .inr (.inr rfl)⟩
  | rotate90 =>
      have some : monomeGetCols monome ≠ 0 := by simpa [DividesByNonzero, turned] using nonzero
      exact ⟨.inl (mod_below _ _ some), .inr (.inl rfl)⟩
  | rotate180 =>
      have some : monomeGetCols monome ≠ 0 ∧ monomeGetRows monome ≠ 0 := by
        simpa [DividesByNonzero, turned] using nonzero
      exact ⟨.inl (mod_below _ _ some.1), .inl (mod_below _ _ some.2)⟩
  | rotate270 =>
      have some : monomeGetRows monome ≠ 0 := by simpa [DividesByNonzero, turned] using nonzero
      exact ⟨.inr (.inr rfl), .inl (mod_below _ _ some)⟩

theorem grid_divides (monome : Monome) (C R : Nat) (grid : HasGrid monome C R) (cols : 0 < C) (rows : 0 < R) :
    DividesByNonzero monome := by
  have nonzero : ∀ i : Int32, ∀ n : Nat, i.toInt = n → 0 < n → i ≠ 0 := by
    rintro i n value positive rfl
    simp at value
    omega
  have some : monomeGetCols monome ≠ 0 ∧ monomeGetRows monome ≠ 0 := by
    rw [get_cols_swaps, get_rows_swaps]
    cases monome.rotation.swaps
    · exact ⟨nonzero _ _ grid.cols cols, nonzero _ _ grid.rows rows⟩
    · exact ⟨nonzero _ _ grid.rows rows, nonzero _ _ grid.cols cols⟩
  rw [DividesByNonzero]
  cases monome.rotation
  · trivial
  · exact some.1
  · exact some
  · exact some.2

theorem unflipped (extent x : UInt32) (n : Nat) (value : extent.toNat = n) (below : x.toNat < n) :
    ((extent - 1 - x) % extent).toNat = n - 1 - x.toNat := by
  rw [UInt32.toNat_mod, flipped_below extent x n value below, value, Nat.mod_eq_of_lt (by omega)]

theorem unrotate_coords_in_grid (monome : Monome) (C R : Nat) (grid : HasGrid monome C R)
    (x y : UInt32) (inside : InGrid C R (x.toNat, y.toNat)) :
    ∃ x' y', unrotateCoords monome x y = .ok (x', y') ∧
      (x'.toNat, y'.toNat) = unturn monome.rotation C R (x.toNat, y.toNat) := by
  obtain ⟨left, up⟩ := inside
  have divides := grid_divides monome C R grid (Nat.lt_of_le_of_lt (Nat.zero_le _) left)
    (Nat.lt_of_le_of_lt (Nat.zero_le _) up)
  refine ⟨(unrotated monome x y).1, (unrotated monome x y).2, unrotate_coords_ok monome x y divides, ?_⟩
  have cols := fun z => unflipped _ z _ (cols_val monome C R grid)
  have rows := fun z => unflipped _ z _ (rows_val monome C R grid)
  rw [unrotated]
  generalize monome.rotation = r at cols rows ⊢
  cases r with
  | rotate0 => rfl
  | rotate90 => exact congrArg₂ Prod.mk (cols y up) rfl
  | rotate180 => exact congrArg₂ Prod.mk (cols x left) (rows y up)
  | rotate270 => exact congrArg₂ Prod.mk rfl (rows x left)

end Libmonome
