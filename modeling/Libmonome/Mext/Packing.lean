import Libmonome.Mext.Wire

set_option autoImplicit false

namespace Libmonome

-- pack_nybbles with its own types: the bound is a size_t, the index and twice
-- the index are unsigned ints. A loop still running when its turns are used up
-- has no result.
def packNybblesLoop (nbyte : UInt64) : (fuel : Nat) → (i : UInt32) → List UInt8 → Option (List UInt8)
  | 0, _, _ => none
  | fuel + 1, i, data =>
      if i.toUInt64 < nbyte then
        packNybblesLoop nbyte fuel (i + 1)
          (data.set i.toNat ((data.getD (i * 2).toNat 0 <<< 4) ||| (data.getD (i * 2 + 1).toNat 0 &&& 0x0F)))
      else some data

section Indices

variable (k : Nat) (small : k < 2 ^ 31)
include small

theorem index_val : (UInt32.ofNat k).toNat = k := by
  rw [UInt32.toNat_ofNat', Nat.mod_eq_of_lt (by omega)]

theorem index_twice : (UInt32.ofNat k * 2).toNat = k * 2 := by
  rw [UInt32.toNat_mul, index_val k small]
  exact Nat.mod_eq_of_lt (by simp; omega)

theorem index_twice_next : (UInt32.ofNat k * 2 + 1).toNat = k * 2 + 1 := by
  rw [UInt32.toNat_add, index_twice k small]
  exact Nat.mod_eq_of_lt (by simp; omega)

end Indices

theorem index_next (k : Nat) : UInt32.ofNat k + 1 = UInt32.ofNat (k + 1) := by
  rw [UInt32.ofNat_add]
  rfl

theorem index_below (k : Nat) (nbyte : UInt64) (small : k < 2 ^ 32) :
    (UInt32.ofNat k).toUInt64 < nbyte ↔ k < nbyte.toNat := by
  rw [UInt64.lt_iff_toNat_lt, UInt32.toNat_toUInt64, UInt32.toNat_ofNat', Nat.mod_eq_of_lt small]

theorem pack_loop_turns (nbyte : UInt64) (old : List UInt8) (k fuel : Nat) (small : k ≤ 2 ^ 31) (below : k ≤ nbyte.toNat) :
    packNybblesLoop nbyte (fuel + k) 0 old = packNybblesLoop nbyte fuel (UInt32.ofNat k) (packNybbles k old) := by
  induction k generalizing fuel with
  | zero => rfl
  | succ k ih =>
      have inside : k < 2 ^ 31 := by omega
      have turn := ih (fuel + 1) (by omega) (by omega)
      have more : (UInt32.ofNat k).toUInt64 < nbyte := (index_below k nbyte (by omega)).mpr (by omega)
      rw [packNybblesLoop, if_pos more, index_val k inside, index_twice k inside, index_twice_next k inside, index_next,
        ← pack_nybbles_step] at turn
      rw [← turn]
      congr 1
      omega

theorem pack_loop_ends (nbyte : UInt64) (old : List UInt8) (small : nbyte.toNat ≤ 2 ^ 31) (fuel : Nat)
    (enough : nbyte.toNat < fuel) : packNybblesLoop nbyte fuel 0 old = some (packNybbles nbyte.toNat old) := by
  obtain ⟨spare, split⟩ := Nat.exists_eq_add_of_lt enough
  have turns := pack_loop_turns nbyte old nbyte.toNat (spare + 1) small (Nat.le_refl _)
  have last : ¬ (UInt32.ofNat nbyte.toNat).toUInt64 < nbyte := by
    rw [index_below nbyte.toNat nbyte (by omega)]
    exact Nat.lt_irrefl _
  rw [packNybblesLoop, if_neg last] at turns
  rw [← turns]
  congr 1
  omega

theorem pack_nybbles_beyond (n : Nat) (data : List UInt8) (i : Nat) (beyond : n ≤ i) :
    (packNybbles n data)[i]? = data[i]? := by
  induction n with
  | zero => rfl
  | succ n ih =>
      rw [pack_nybbles_step, List.getElem?_set_ne (by omega)]
      exact ih (by omega)

-- Up to the count at which twice the index wraps, packing in place reads every
-- entry before it is written.
theorem pack_nybbles_in_place (nbyte : UInt64) (old : List UInt8) (small : nbyte.toNat ≤ 2 ^ 31)
    (room : 2 * nbyte.toNat ≤ old.length) :
    ∃ data, (∀ fuel, nbyte.toNat < fuel → packNybblesLoop nbyte fuel 0 old = some data) ∧
      data.length = old.length ∧
      (∀ i, i < nbyte.toNat → (data.getD i 0).toNat =
        16 * ((old.getD (2 * i) 0).toNat % 16) + (old.getD (2 * i + 1) 0).toNat % 16) ∧
      (∀ i, nbyte.toNat ≤ i → data[i]? = old[i]?) ∧
      ∀ j, j < 2 * nbyte.toNat → levelNybble data j = (old.getD j 0).toNat % 16 := by
  refine ⟨packNybbles nbyte.toNat old, pack_loop_ends nbyte old small, pack_nybbles_length _ old, ?_, ?_,
    pack_nybbles_level nbyte.toNat old room⟩
  · intro i inside
    rw [pack_nybbles_entry nbyte.toNat old room, if_pos inside, packed_val, Nat.mul_comm i 2]
  · intro i beyond
    exact pack_nybbles_beyond nbyte.toNat old i beyond

theorem pack_nybbles_in_place_two : ∃ data, packNybblesLoop 2 3 0 [0x11, 0x22, 0x33, 0x44, 0x55] = some data ∧
    (data.getD 0 0).toNat = 0x12 ∧ (data.getD 1 0).toNat = 0x34 ∧ data[2]? = some 0x33 := by
  obtain ⟨data, ends, _, packed, beyond, _⟩ := pack_nybbles_in_place 2 [0x11, 0x22, 0x33, 0x44, 0x55] (by decide) (by decide)
  exact ⟨data, ends 3 (by decide), packed 0 (by decide), packed 1 (by decide), beyond 2 (by decide)⟩

-- One count further, on an array of twice as many bytes: the last turn reads the
-- first two entries again, which are packed by then.
def oneAndZeros (n : Nat) : List UInt8 := 0 :: 1 :: List.replicate n 0

theorem one_and_zeros_entry (n i : Nat) (other : i ≠ 1) : (oneAndZeros n).getD i 0 = 0 := by
  match i, other with
  | 0, _ => rfl
  | i + 2, _ =>
      rw [List.getD_eq_getElem?_getD, oneAndZeros, List.getElem?_cons_succ, List.getElem?_cons_succ, List.getElem?_replicate]
      split_ifs <;> rfl

theorem last_turns (data : List UInt8) (first : data.getD 0 0 = 1) (second : data.getD 1 0 = 0) :
    packNybblesLoop 0x80000001 2 (UInt32.ofNat 0x80000000) data = some (data.set 0x80000000 0x10) := by
  have once : (UInt32.ofNat 0x80000000).toUInt64 < 0x80000001 := by decide
  have twice : ¬ (UInt32.ofNat 0x80000000 + 1).toUInt64 < 0x80000001 := by decide
  have place : (UInt32.ofNat 0x80000000).toNat = 0x80000000 := by decide
  have even : (UInt32.ofNat 0x80000000 * 2).toNat = 0 := by decide
  have odd : (UInt32.ofNat 0x80000000 * 2 + 1).toNat = 1 := by decide
  rw [packNybblesLoop, if_pos once, packNybblesLoop, if_neg twice, place, even, odd, first, second]
  rfl

theorem pack_nybbles_wraps : 2 * 0x80000001 ≤ (oneAndZeros 0x100000000).length ∧
    ∃ data, packNybblesLoop 0x80000001 (2 + 0x80000000) 0 (oneAndZeros 0x100000000) = some data ∧
      (data.getD 0x80000000 0).toNat ≠ 16 * (((oneAndZeros 0x100000000).getD (2 * 0x80000000) 0).toNat % 16) +
        ((oneAndZeros 0x100000000).getD (2 * 0x80000000 + 1) 0).toNat % 16 := by
  have turns := pack_loop_turns 0x80000001 (oneAndZeros 0x100000000) 0x80000000 2 (by decide) (by decide)
  have size : (oneAndZeros 0x100000000).length = 0x100000002 := by
    rw [oneAndZeros, List.length_cons, List.length_cons, List.length_replicate]
  have packed := pack_nybbles_entry 0x80000000 (oneAndZeros 0x100000000) (by rw [size]; decide)
  have long := pack_nybbles_length 0x80000000 (oneAndZeros 0x100000000)
  have zero := one_and_zeros_entry 0x100000000
  have one : (oneAndZeros 0x100000000).getD 1 0 = 1 := by
    rw [List.getD_eq_getElem?_getD, oneAndZeros, List.getElem?_cons_succ, List.getElem?_cons_zero]
    rfl
  have first := packed 0
  have second := packed 1
  rw [if_pos (by decide), Nat.zero_mul, Nat.zero_add, zero 0 (by decide), one] at first
  rw [if_pos (by decide), Nat.one_mul, zero 2 (by decide), zero 3 (by decide)] at second
  rw [zero (2 * 0x80000000) (by decide), zero (2 * 0x80000000 + 1) (by decide)]
  rw [size] at long
  generalize packNybbles 0x80000000 (oneAndZeros 0x100000000) = data at turns first second long
  refine ⟨by rw [size], data.set 0x80000000 0x10, turns.trans (last_turns data first second), ?_⟩
  rw [List.getD_eq_getElem?_getD, List.getElem?_set_self (by rw [long]; decide)]
  decide

end Libmonome
