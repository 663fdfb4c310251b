import Libmonome.LevelMaps
import Libmonome.Mext.Wire

set_option autoImplicit false

namespace Libmonome

open BitMoves

theorem image_ext (a b : List UInt8) (left : a.length = 8) (right : b.length = 8)
    (same : ∀ x < 8, ∀ y < 8, mapBit a x y = mapBit b x y) : a = b := by
  apply List.ext_getElem (left.trans right.symm)
  intro y inside inside'
  have row : a.getD y 0 = b.getD y 0 := byte_ext _ _ fun x hx => same x hx y (left ▸ inside)
  rwa [List.getD_eq_getElem?_getD, List.getD_eq_getElem?_getD, List.getElem?_eq_getElem inside,
    List.getElem?_eq_getElem inside', Option.getD_some, Option.getD_some] at row

section EightByEight

variable (monome : Monome) (grid : HasGrid monome 8 8) (x y : Nat) (hx : x < 8) (hy : y < 8)

include hx hy

theorem eight_named : InGrid (logicalCols monome.rotation 8 8) (logicalRows monome.rotation 8 8) (x, y) := by
  have sides := eight_logical monome.rotation
  rw [sides.1, sides.2]
  exact ⟨hx, hy⟩

include grid

theorem output_cell_eight : outputCell monome (x, y) = turn monome.rotation 8 8 (x, y) ∧
    (outputCell monome (x, y)).1 < 8 ∧ (outputCell monome (x, y)).2 < 8 := by
  have named := eight_named monome x y hx hy
  have turned := output_cell_turns monome 8 8 grid (x, y) ((logical_cell_in_grid monome 8 8 grid (x, y)).mpr named)
  rw [turned]
  exact ⟨rfl, turn_in_grid monome.rotation 8 8 (x, y) named⟩

theorem map_cb_moves (t : Target) (data : List UInt8) (image : data.length = 8) :
    mapBit ((rotspec monome.rotation).mapCb t data) (outputCell monome (x, y)).1 (outputCell monome (x, y)).2 =
      mapBit data x y := by
  obtain ⟨turned, left, up⟩ := output_cell_eight monome grid x y hx hy
  rw [map_cb_turns t data image _ _ left up monome.rotation, Prod.mk.eta, turned,
    unturn_turn monome.rotation 8 8 (x, y) (eight_named monome x y hx hy)]

theorem level_map_cb_moves (dst levels : List UInt8) (room : dst.length = 64) (whole : levels.length = 64) :
    mapLevel ((rotspec monome.rotation).levelMapCb dst levels) (outputCell monome (x, y)).1 (outputCell monome (x, y)).2 =
      mapLevel levels x y := by
  obtain ⟨turned, left, up⟩ := output_cell_eight monome grid x y hx hy
  rw [level_map_cb_turns monome.rotation dst levels room whole _ _ left up, Prod.mk.eta, turned,
    unturn_turn monome.rotation 8 8 (x, y) (eight_named monome x y hx hy)]

end EightByEight

theorem map_cb_builds (r : MonomeRotate) (t u : Target) (data : List UInt8) (image : data.length = 8) :
    (rotspec r).mapCb t data = (rotspec r).mapCb u data := by
  refine image_ext _ _ (map_cb_length t data image r) (map_cb_length u data image r) ?_
  intro x hx y hy
  rw [map_cb_turns t data image x y hx hy r, map_cb_turns u data image x y hx hy r]

theorem reduce_turned (r : MonomeRotate) (t : Target) (dst levels : List UInt8) (room : dst.length = 64)
    (whole : levels.length = 64) :
    reduceMap ((rotspec r).levelMapCb dst levels) = (rotspec r).mapCb t (reduceMap levels) := by
  refine image_ext _ _ (reduce_map_length _) (map_cb_length t _ (reduce_map_length levels) r) ?_
  intro x hx y hy
  have cell := unturn_in_grid r 8 8 (x, y) ⟨hx, hy⟩
  have sides := eight_logical r
  rw [sides.1, sides.2] at cell
  rw [map_cb_turns t _ (reduce_map_length levels) x y hx hy r, reduce_map_bit _ x y hx hy, reduce_map_bit _ _ _ cell.1 cell.2,
    levelBit, levelBit, level_map_cb_turns r dst levels room whole x y hx hy]

theorem image_rotations_agree (monome : Monome) (grid : HasGrid monome 8 8) (data dst levels : List UInt8)
    (image : data.length = 8) (room : dst.length = 64) (whole : levels.length = 64) :
    (∀ t : Target, ((rotspec monome.rotation).mapCb t data).length = 8 ∧ ∀ x < 8, ∀ y < 8,
        mapBit ((rotspec monome.rotation).mapCb t data) (outputCell monome (x, y)).1 (outputCell monome (x, y)).2 =
          mapBit data x y) ∧
      (∀ t u : Target, (rotspec monome.rotation).mapCb t data = (rotspec monome.rotation).mapCb u data) ∧
      (((rotspec monome.rotation).levelMapCb dst levels).length = 64 ∧ ∀ x < 8, ∀ y < 8,
        mapLevel ((rotspec monome.rotation).levelMapCb dst levels) (outputCell monome (x, y)).1
          (outputCell monome (x, y)).2 = mapLevel levels x y) ∧
      ∀ t : Target, reduceMap ((rotspec monome.rotation).levelMapCb dst levels) =
        (rotspec monome.rotation).mapCb t (reduceMap levels) := by
  refine ⟨fun t => ⟨map_cb_length t data image monome.rotation, fun x hx y hy => ?_⟩,
    fun t u => map_cb_builds monome.rotation t u data image, ⟨?_, fun x hx y hy => ?_⟩,
    fun t => reduce_turned monome.rotation t dst levels room whole⟩
  · exact map_cb_moves monome grid x y hx hy t data image
  · exact level_map_cb_length monome.rotation dst levels room whole
  · exact level_map_cb_moves monome grid x y hx hy dst levels room whole

def quarterTurned : Monome := ⟨8, 8, .rotate90, none, .unset⟩

theorem image_rotations_agree_quarter : reduceMap (r90LevelMapCb (List.replicate 64 0) ((List.range 64).map UInt8.ofNat)) =
    r90MapCb ⟨true, false⟩ (reduceMap ((List.range 64).map UInt8.ofNat)) :=
  (image_rotations_agree quarterTurned ⟨by decide, by decide⟩ [1, 2, 3, 4, 5, 6, 7, 8] (List.replicate 64 0)
    ((List.range 64).map UInt8.ofNat) rfl List.length_replicate (by simp)).2.2.2 ⟨true, false⟩

end Libmonome
