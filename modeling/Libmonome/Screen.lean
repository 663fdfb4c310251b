import Libmonome.Platform
import Libmonome.RotationCoords

set_option autoImplicit false

namespace Libmonome

open Picture

variable {α : Type}

-- A device seen through its lamps: every write is taken whole and drawn, the
-- lamps outside the grid do not exist, and nothing is ever there to read.
def screen (C R : Nat) (decode : List UInt8 → Pic (Nat × Nat) α) : Platform (Canvas (Nat × Nat) α) where
  openDevice _ _ lamps := (0, lamps)
  close lamps := (0, lamps)
  write bytes lamps := (Int64.ofNat bytes.length, paint (clip (InGrid C R) (decode bytes)) lamps)
  read _ lamps := (⟨0, [], by simp, by decide⟩, lamps)
  waitForInput _ lamps := (1, lamps)
  monotonicMilliseconds lamps := (0, lamps)

theorem screen_write (C R : Nat) (decode : List UInt8 → Pic (Nat × Nat) α) (bytes : List UInt8)
    (lamps : Canvas (Nat × Nat) α) : Io.call ((screen C R decode).write bytes) lamps =
      .ok (Int64.ofNat bytes.length, paint (clip (InGrid C R) (decode bytes)) lamps) := rfl

def seen (r : MonomeRotate) (C R : Nat) (pic : Pic (Nat × Nat) α) : Pic (Nat × Nat) α :=
  clip (InGrid C R) (pull (unturn r C R) pic)

theorem seen_blank (r : MonomeRotate) (C R : Nat) : seen r C R (blank : Pic (Nat × Nat) α) = blank := by
  funext p
  simp [seen, clip, pull, blank]

theorem seen_atop (r : MonomeRotate) (C R : Nat) (top bottom : Pic (Nat × Nat) α) :
    seen r C R (atop top bottom) = atop (seen r C R top) (seen r C R bottom) := by
  rw [seen, pull_atop, clip_atop]
  rfl

theorem seen_frame (r : MonomeRotate) (C R : Nat) (frame pic : Pic (Nat × Nat) α)
    (agree : ∀ p, InGrid C R p → pic (unturn r C R p) = frame p) : clip (InGrid C R) frame = seen r C R pic :=
  clip_congr _ _ _ (fun p inside => (agree p inside).symm)

theorem dot_seen (r : MonomeRotate) (C R : Nat) (cell : Nat × Nat)
    (named : InGrid (logicalCols r C R) (logicalRows r C R) cell) (value : α) :
    clip (InGrid C R) (dot (turn r C R cell) value) = seen r C R (dot cell value) := by
  apply seen_frame
  intro p inside
  have same : unturn r C R p = cell ↔ p = turn r C R cell := by
    constructor
    · rintro rfl
      exact (turn_unturn r C R p inside).symm
    · rintro rfl
      exact unturn_turn r C R cell named
  simp only [dot, same]

theorem dots_drawn (monome : Monome) (C R : Nat) (has : HasGrid monome C R) (dots : List ((Nat × Nat) × α))
    (pic : Pic (Nat × Nat) α) (lists : Lists dots pic) (lamps : Canvas (Nat × Nat) α) (d : (Nat × Nat) × α)
    (member : d ∈ dots) (named : LogicalCell monome d.1) :
    paint (seen monome.rotation C R pic) lamps (outputCell monome d.1) = d.2 := by
  rw [output_cell_turns monome C R has d.1 named]
  rw [logical_cell_in_grid monome C R has] at named
  apply paint_drawn
  rw [seen, clip, if_pos (turn_in_grid _ C R d.1 named), pull, unturn_turn _ C R d.1 named, lists.sound d member]

theorem dots_kept (monome : Monome) (C R : Nat) (has : HasGrid monome C R) (dots : List ((Nat × Nat) × α))
    (pic : Pic (Nat × Nat) α) (lists : Lists dots pic) (lamps : Canvas (Nat × Nat) α) (p : Nat × Nat)
    (unnamed : ∀ d ∈ dots, LogicalCell monome d.1 → outputCell monome d.1 ≠ p) :
    paint (seen monome.rotation C R pic) lamps p = lamps p := by
  apply paint_kept
  by_cases inside : InGrid C R p
  · rw [seen, clip, if_pos inside, pull]
    by_contra drawn
    obtain ⟨d, member, same⟩ := List.mem_map.mp (lists.complete _ drawn)
    have named : LogicalCell monome d.1 := by
      rw [logical_cell_in_grid monome C R has, same]
      exact unturn_in_grid _ C R p inside
    apply unnamed d member named
    rw [output_cell_turns monome C R has d.1 named, same, turn_unturn _ C R p inside]
  · rw [seen, clip, if_neg inside]

-- A drawing loop that sends a run in chunks of eight, advancing its offset
-- by eight and its data by the bytes a chunk takes, draws the whole run.
section Chunks

variable (place : Pic (Nat × Nat) α → Pic (Nat × Nat) α) (shape : Nat → Nat → (Nat → α) → Pic (Nat × Nat) α)
  (value : List UInt8 → Nat → α) (width : Nat)
  (loop : Nat → UInt32 → List UInt8 → Io (Canvas (Nat × Nat) α) Unit)

structure ChunkLoop : Prop where
  placeBlank : place blank = blank
  placeAtop : ∀ top bottom, place (atop top bottom) = atop (place top) (place bottom)
  empty : ∀ off v, shape off 0 v = blank
  append : ∀ off a b v, shape off (a + b) v = atop (shape (off + a) b (fun i => v (a + i))) (shape off a v)
  later : ∀ data i, value data (8 + i) = value (data.drop width) i
  stop : ∀ off data lamps, loop 0 off data lamps = .ok ((), lamps)
  advance : ∀ n off data lamps, 8 ∣ off.toNat → off.toNat + 8 ≤ 256 → width ≤ data.length →
    loop (n + 1) off data lamps =
      loop n (off + 8) (data.drop width) (paint (place (shape off.toNat 8 (value data))) lamps)

theorem chunk_loop_draws (chunks : ChunkLoop place shape value width loop) (n : Nat) (off : UInt32)
    (data : List UInt8) (lamps : Canvas (Nat × Nat) α) (aligned : 8 ∣ off.toNat)
    (inside : n = 0 ∨ off.toNat + 8 * n ≤ 256) (supplied : width * n ≤ data.length) :
    loop n off data lamps = .ok ((), paint (place (shape off.toNat (8 * n) (value data))) lamps) := by
  induction n generalizing off data lamps with
  | zero => rw [chunks.stop, Nat.mul_zero, chunks.empty, chunks.placeBlank, paint_blank]
  | succ n ih =>
      have next : (off + 8).toNat = off.toNat + 8 := by
        rw [UInt32.toNat_add, Nat.mod_eq_of_lt (by simp; omega)]
        rfl
      have enough : width ≤ data.length := by
        rw [Nat.mul_succ] at supplied
        omega
      have rest : width * n ≤ (data.drop width).length := by
        rw [List.length_drop]
        rw [Nat.mul_succ] at supplied
        omega
      rw [chunks.advance n off data lamps aligned (by omega) enough, ih _ _ _ (by omega) (by omega) rest, next,
        show 8 * (n + 1) = 8 + 8 * n by omega, chunks.append, chunks.placeAtop, paint_atop]
      congr 5
      funext i
      exact (chunks.later data i).symm

end Chunks

end Libmonome
