import Libmonome.RotationCoords

set_option autoImplicit false

namespace Libmonome

open BitMoves

def mapBit (data : List UInt8) (x y : Nat) : Bool := byteBit (data.getD y 0) x

theorem map_bit_taken (data : List UInt8) (x y : Nat) (low : y < 8) : mapBit (data.take 8) x y = mapBit data x y := by
  rw [mapBit, mapBit, List.getD_eq_getElem?_getD, List.getD_eq_getElem?_getD, List.getElem?_take_of_lt low]

theorem load_word_bit (t : Target) (data : List UInt8) (whole : data.length = 8) (x y : Nat) (hx : x < 8) (hy : y < 8) :
    (loadWord t data).getLsbD (8 * bytePlace t.bigEndian 8 y + x) = mapBit data x y := by
  have place : bytePlace t.bigEndian 8 (bytePlace t.bigEndian 8 y) = y := by
    cases t.bigEndian <;> simp [bytePlace]
    omega
  have bound : bytePlace t.bigEndian 8 y < 8 := by
    cases t.bigEndian <;> simp [bytePlace]
    · exact hy
    · omega
  rw [loadWord, load_bit _ _ _ (by simp; omega) (by omega), List.take_of_length_le (by omega), whole,
    show (8 * bytePlace t.bigEndian 8 y + x) / 8 = bytePlace t.bigEndian 8 y by omega, place,
    show (8 * bytePlace t.bigEndian 8 y + x) % 8 = x by omega]
  rfl

theorem store_word_bit (t : Target) (v : BitVec 64) (x y : Nat) (hx : x < 8) (hy : y < 8) :
    mapBit (storeWord t v) x y = v.getLsbD (8 * bytePlace t.bigEndian 8 y + x) :=
  store_bit t.bigEndian 8 v y x hy hx

-- The chains on 64-bit words against the turn of an 8x8 grid: only indices
-- are evaluated.
theorem swaps_by_9_turn : ∀ y < 8, ∀ x < 8, chainFrom swapsBy9 (8 * y + x) = 8 * x + (7 - y) := by decide
theorem swaps_by_7_turn : ∀ y < 8, ∀ x < 8, chainFrom swapsBy7 (8 * y + x) = 8 * (7 - x) + y := by decide
theorem reversal_turn : ∀ y < 8, ∀ x < 8,
    crossFrom 32 (BitVec.allOnes 64) (crossChainFrom reversal (8 * y + x)) = 8 * (7 - y) + (7 - x) := by decide

theorem load_half_bit (t : Target) (data : List UInt8) (whole : data.length = 8) (x y : Nat) (hx : x < 8) (hy : y < 8) :
    (loadHalf t data (y / 4)).getLsbD (8 * bytePlace t.bigEndian 4 (y % 4) + x) = mapBit data x y := by
  have place : bytePlace t.bigEndian 4 (bytePlace t.bigEndian 4 (y % 4)) = y % 4 := by
    cases t.bigEndian <;> simp [bytePlace]
    omega
  have bound : bytePlace t.bigEndian 4 (y % 4) < 4 := by
    cases t.bigEndian <;> simp [bytePlace] <;> omega
  have four : ((data.drop (4 * (y / 4))).take 4).length = 4 := by
    rw [List.length_take, List.length_drop, whole]
    omega
  rw [loadHalf, load_bit _ _ _ (by rw [four]; omega) (by omega), four,
    show (8 * bytePlace t.bigEndian 4 (y % 4) + x) / 8 = bytePlace t.bigEndian 4 (y % 4) by omega, place,
    show (8 * bytePlace t.bigEndian 4 (y % 4) + x) % 8 = x by omega, mapBit, List.getD_eq_getElem?_getD,
    List.getElem?_take_of_lt (by omega), List.getElem?_drop, ← List.getD_eq_getElem?_getD,
    show 4 * (y / 4) + y % 4 = y by omega]

theorem store_halves_bit (t : Target) (v w : BitVec 32) (x y : Nat) (hx : x < 8) (hy : y < 8) :
    mapBit (storeHalves t v w) x y = (if y / 4 = 0 then v else w).getLsbD (8 * bytePlace t.bigEndian 4 (y % 4) + x) := by
  rw [mapBit, storeHalves, List.getD_eq_getElem?_getD]
  by_cases low : y < 4
  · rw [List.getElem?_append_left (by rw [store_length]; exact low), ← List.getD_eq_getElem?_getD,
      store_bit _ _ _ _ _ low hx, if_pos (by omega), Nat.mod_eq_of_lt low]
  · rw [List.getElem?_append_right (by rw [store_length]; omega), store_length, ← List.getD_eq_getElem?_getD,
      store_bit _ _ _ _ _ (by omega) hx, if_neg (by omega), show y % 4 = y - 4 by omega]

def nibbleHigh : BitVec 32 := 0xF0F0F0F0#32
def nibbleLow : BitVec 32 := 0x0F0F0F0F#32

def r90HalfFrom (swaps : List (Nat × BitVec 32)) (h i : Nat) : Nat × Nat :=
  if h = 0 then if nibbleHigh.getLsbD i then (1, chainFrom swaps i) else (0, chainFrom swaps (i + 4))
  else if nibbleLow.getLsbD i then (0, chainFrom swaps i) else (1, chainFrom swaps (i - 4))

def r270HalfFrom (swaps : List (Nat × BitVec 32)) (h i : Nat) : Nat × Nat :=
  if h = 0 then if nibbleLow.getLsbD i then (1, chainFrom swaps i) else (0, chainFrom swaps (i - 4))
  else if nibbleHigh.getLsbD i then (0, chainFrom swaps i) else (1, chainFrom swaps (i + 4))

theorem nibble_split_down : ∀ i < 32, nibbleHigh.getLsbD i = !nibbleHigh.getLsbD (i + 4) := by decide
theorem nibble_split_up : ∀ i < 32, nibbleLow.getLsbD i = !(decide (4 ≤ i) && nibbleLow.getLsbD (i - 4)) := by
  decide
theorem nibble_high_room : ∀ i < 32, nibbleHigh.getLsbD i = false → i + 4 < 32 := by decide

theorem r90_half_turn : ∀ bigEndian : Bool, ∀ y < 8, ∀ x < 8,
    r90HalfFrom (if bigEndian then halfSwapsBy7 else halfSwapsBy9) (y / 4) (8 * bytePlace bigEndian 4 (y % 4) + x) =
      (x / 4, 8 * bytePlace bigEndian 4 (x % 4) + (7 - y)) := by decide
theorem r270_half_turn : ∀ bigEndian : Bool, ∀ y < 8, ∀ x < 8,
    r270HalfFrom (if bigEndian then halfSwapsBy9 else halfSwapsBy7) (y / 4) (8 * bytePlace bigEndian 4 (y % 4) + x) =
      ((7 - x) / 4, 8 * bytePlace bigEndian 4 ((7 - x) % 4) + y) := by decide
theorem half_reversal_turn : ∀ bigEndian : Bool, ∀ y < 8, ∀ x < 8,
    crossFrom 16 (BitVec.allOnes 32) (crossChainFrom halfReversal (8 * bytePlace bigEndian 4 (y % 4) + x)) =
      8 * bytePlace bigEndian 4 ((7 - y) % 4) + (7 - x) := by decide

theorem half_swaps_7_separated : ∀ step ∈ halfSwapsBy7, Separated step.1 step.2 := by decide
theorem half_swaps_9_separated : ∀ step ∈ halfSwapsBy9, Separated step.1 step.2 := by decide
theorem swaps_7_separated : ∀ step ∈ swapsBy7, Separated step.1 step.2 := by decide
theorem swaps_9_separated : ∀ step ∈ swapsBy9, Separated step.1 step.2 := by decide
theorem reversal_filled : ∀ step ∈ reversal, Filled step.1 step.2.1 step.2.2 := by decide
theorem half_reversal_filled : ∀ step ∈ halfReversal, Filled step.1 step.2.1 step.2.2 := by decide

theorem byte_place_bound (bigEndian : Bool) (n k : Nat) (inside : k < n) : bytePlace bigEndian n k < n := by
  cases bigEndian <;> simp only [bytePlace, Bool.false_eq_true, if_false, if_true] <;> omega

theorem r90_halves_bit (swaps : List (Nat × BitVec 32)) (separated : ∀ step ∈ swaps, Separated step.1 step.2)
    (x y : BitVec 32) (h i : Nat) (inside : i < 32) :
    (if h = 0 then (swapChain swaps x &&& nibbleHigh) >>> 4 ||| (swapChain swaps y &&& nibbleHigh)
      else (swapChain swaps x &&& nibbleLow) ||| (swapChain swaps y &&& nibbleLow) <<< 4).getLsbD i =
      (if (r90HalfFrom swaps h i).1 = 0 then x else y).getLsbD (r90HalfFrom swaps h i).2 := by
  by_cases low : h = 0
  · rw [if_pos low, merge_bit 4 _ _ _ _ i (nibble_split_down i inside), r90HalfFrom, if_pos low]
    cases kept : nibbleHigh.getLsbD i with
    | true => exact swap_chain_bit swaps separated y i inside
    | false => exact swap_chain_bit swaps separated x (i + 4) (nibble_high_room i inside kept)
  · rw [if_neg low, BitVec.or_comm, merge_up_bit 4 _ _ _ _ i inside (nibble_split_up i inside), r90HalfFrom, if_neg low]
    cases kept : nibbleLow.getLsbD i with
    | true => exact swap_chain_bit swaps separated x i inside
    | false => exact swap_chain_bit swaps separated y (i - 4) (by omega)

theorem r270_halves_bit (swaps : List (Nat × BitVec 32)) (separated : ∀ step ∈ swaps, Separated step.1 step.2)
    (x y : BitVec 32) (h i : Nat) (inside : i < 32) :
    (if h = 0 then (swapChain swaps x &&& nibbleLow) <<< 4 ||| (swapChain swaps y &&& nibbleLow)
      else (swapChain swaps x &&& nibbleHigh) ||| (swapChain swaps y &&& nibbleHigh) >>> 4).getLsbD i =
      (if (r270HalfFrom swaps h i).1 = 0 then x else y).getLsbD (r270HalfFrom swaps h i).2 := by
  by_cases low : h = 0
  · rw [if_pos low, merge_up_bit 4 _ _ _ _ i inside (nibble_split_up i inside), r270HalfFrom, if_pos low]
    cases kept : nibbleLow.getLsbD i with
    | true => exact swap_chain_bit swaps separated y i inside
    | false => exact swap_chain_bit swaps separated x (i - 4) (by omega)
  · rw [if_neg low, BitVec.or_comm, merge_bit 4 _ _ _ _ i (nibble_split_down i inside), r270HalfFrom, if_neg low]
    cases kept : nibbleHigh.getLsbD i with
    | true => exact swap_chain_bit swaps separated x i inside
    | false => exact swap_chain_bit swaps separated y (i + 4) (nibble_high_room i inside kept)

theorem load_either_half (t : Target) (data : List UInt8) (k : Nat) (half : k < 2) :
    (if k = 0 then loadHalf t data 0 else loadHalf t data 1) = loadHalf t data k := by
  by_cases low : k = 0
  · rw [if_pos low, low]
  · rw [if_neg low, show k = 1 by omega]

theorem trade_halves (w s : Nat) (x : BitVec w) :
    x >>> s ||| x <<< s = cross s (BitVec.allOnes w) (BitVec.allOnes w) x := by
  simp only [cross, BitVec.and_allOnes]

theorem r180_word_bit (x : BitVec 64) (i : Nat) (inside : i < 64) :
    (r180Word x).getLsbD i = x.getLsbD (crossFrom 32 (BitVec.allOnes 64) (crossChainFrom reversal i)) := by
  rw [r180Word, cross_chain_bit _ reversal_filled _ i inside, trade_halves,
    cross_bit 32 _ _ _ (by decide) _ (cross_chain_from_inside reversal i inside)]

theorem r180_half_bit (x : BitVec 32) (i : Nat) (inside : i < 32) :
    (r180Half x).getLsbD i = x.getLsbD (crossFrom 16 (BitVec.allOnes 32) (crossChainFrom halfReversal i)) := by
  rw [r180Half, cross_chain_bit _ half_reversal_filled _ i inside, trade_halves,
    cross_bit 16 _ _ _ (by decide) _ (cross_chain_from_inside halfReversal i inside)]

section Turns

variable (t : Target) (data : List UInt8) (whole : data.length = 8) (x y : Nat) (hx : x < 8) (hy : y < 8)
include whole hx hy

theorem r90_map_turns : mapBit (r90MapCb t data) x y = mapBit data (7 - y) x := by
  cases wide : t.lp64 with
  | true =>
      have source := load_word_bit t data whole (7 - y) x (by omega) hx
      rw [r90MapCb, if_pos wide, store_word_bit t _ x y hx hy, ← source]
      cases big : t.bigEndian with
      | true =>
          rw [if_pos rfl, swap_chain_bit _ swaps_7_separated _ _ (by simp [bytePlace]; omega)]
          congr 1
          simp only [bytePlace, if_true]
          rw [show 8 - 1 - y = 7 - y by omega, swaps_by_7_turn (7 - y) (by omega) x hx]
      | false =>
          rw [if_neg (by simp), swap_chain_bit _ swaps_9_separated _ _ (by simp [bytePlace]; omega)]
          congr 1
          exact swaps_by_9_turn y hy x hx
  | false =>
      have separated : ∀ step ∈ (if t.bigEndian then halfSwapsBy7 else halfSwapsBy9), Separated step.1 step.2 := by
        cases t.bigEndian
        · exact half_swaps_9_separated
        · exact half_swaps_7_separated
      have source := load_half_bit t data whole (7 - y) x (by omega) hx
      have bound := byte_place_bound t.bigEndian 4 (y % 4) (by omega)
      rw [r90MapCb, if_neg (by simp [wide]), store_halves_bit t _ _ x y hx hy, ← source]
      refine (r90_halves_bit _ separated _ _ (y / 4) _ (by omega)).trans ?_
      rw [r90_half_turn t.bigEndian y hy x hx, load_either_half t data (x / 4) (by omega)]

theorem r270_map_turns : mapBit (r270MapCb t data) x y = mapBit data y (7 - x) := by
  cases wide : t.lp64 with
  | true =>
      have source := load_word_bit t data whole y (7 - x) hy (by omega)
      rw [r270MapCb, if_pos wide, store_word_bit t _ x y hx hy, ← source]
      cases big : t.bigEndian with
      | true =>
          rw [if_pos rfl, swap_chain_bit _ swaps_9_separated _ _ (by simp [bytePlace]; omega)]
          congr 1
          simp only [bytePlace, if_true]
          rw [show 8 - 1 - y = 7 - y by omega, swaps_by_9_turn (7 - y) (by omega) x hx]
          omega
      | false =>
          rw [if_neg (by simp), swap_chain_bit _ swaps_7_separated _ _ (by simp [bytePlace]; omega)]
          congr 1
          exact swaps_by_7_turn y hy x hx
  | false =>
      have separated : ∀ step ∈ (if t.bigEndian then halfSwapsBy9 else halfSwapsBy7), Separated step.1 step.2 := by
        cases t.bigEndian
        · exact half_swaps_7_separated
        · exact half_swaps_9_separated
      have source := load_half_bit t data whole y (7 - x) hy (by omega)
      have bound := byte_place_bound t.bigEndian 4 (y % 4) (by omega)
      rw [r270MapCb, if_neg (by simp [wide]), store_halves_bit t _ _ x y hx hy, ← source]
      refine (r270_halves_bit _ separated _ _ (y / 4) _ (by omega)).trans ?_
      rw [r270_half_turn t.bigEndian y hy x hx, load_either_half t data ((7 - x) / 4) (by omega)]

theorem r180_map_turns : mapBit (r180MapCb t data) x y = mapBit data (7 - x) (7 - y) := by
  cases wide : t.lp64 with
  | true =>
      have source := load_word_bit t data whole (7 - x) (7 - y) (by omega) (by omega)
      have bound := byte_place_bound t.bigEndian 8 y hy
      rw [r180MapCb, if_pos wide, store_word_bit t _ x y hx hy, ← source, r180_word_bit _ _ (by omega),
        reversal_turn _ bound x hx]
      congr 1
      cases t.bigEndian <;> simp only [bytePlace, Bool.false_eq_true, if_false, if_true]
  | false =>
      have source := load_half_bit t data whole (7 - x) (7 - y) (by omega) (by omega)
      have bound := byte_place_bound t.bigEndian 4 (y % 4) (by omega)
      rw [r180MapCb, if_neg (by simp [wide]), store_halves_bit t _ _ x y hx hy, ← source]
      have half : (if y / 4 = 0 then r180Half (loadHalf t data 1) else r180Half (loadHalf t data 0)) =
          r180Half (loadHalf t data ((7 - y) / 4)) := by
        by_cases low : y / 4 = 0
        · rw [if_pos low, show (7 - y) / 4 = 1 by omega]
        · rw [if_neg low, show (7 - y) / 4 = 0 by omega]
      rw [half, r180_half_bit _ _ (by omega), half_reversal_turn t.bigEndian y hy x hx]

theorem map_cb_turns (r : MonomeRotate) : mapBit ((rotspec r).mapCb t data) x y =
    mapBit data (unturn r 8 8 (x, y)).1 (unturn r 8 8 (x, y)).2 := by
  cases r with
  | rotate0 => rfl
  | rotate90 => exact r90_map_turns t data whole x y hx hy
  | rotate180 => exact r180_map_turns t data whole x y hx hy
  | rotate270 => exact r270_map_turns t data whole x y hx hy

end Turns

theorem map_cb_length (t : Target) (data : List UInt8) (whole : data.length = 8) (r : MonomeRotate) :
    ((rotspec r).mapCb t data).length = 8 := by
  cases r with
  | rotate0 => exact whole
  | rotate90 | rotate180 | rotate270 =>
      simp only [rotspec, r90MapCb, r180MapCb, r270MapCb]
      split <;> simp [storeWord, storeHalves, store_length]

section Levels

variable (into outOf back : Nat → Nat) (src dst : List UInt8)

omit src dst in
theorem set_loop_length (value : Nat → UInt8) (steps : List Nat) (dst : List UInt8) :
    (steps.foldl (fun dst i => dst.set (into i) (value i)) dst).length = dst.length := by
  induction steps generalizing dst with
  | nil => rfl
  | cons step rest ih => rw [List.foldl_cons, ih, List.length_set]

theorem level_loop_prefix (room : ∀ i < 64, into i < dst.length) (undo : ∀ i < 64, back (into i) = i)
    (n : Nat) (bound : n ≤ 64) (k : Nat) (redo : into (back k) = k) :
    ((List.range n).foldl (fun dst i => dst.set (into i) (src.getD (outOf i) 0)) dst).getD k 0 =
      if back k < n then src.getD (outOf (back k)) 0 else dst.getD k 0 := by
  induction n with
  | zero => simp
  | succ n ih =>
      have kept : ((List.range n).foldl (fun dst i => dst.set (into i) (src.getD (outOf i) 0)) dst).length = dst.length :=
        set_loop_length into (fun i => src.getD (outOf i) 0) (List.range n) dst
      rw [List.range_succ, List.foldl_append, List.foldl_cons, List.foldl_nil, List.getD_eq_getElem?_getD,
        List.getElem?_set]
      by_cases here : into n = k
      · have whose : back k = n := by rw [← here, undo n (by omega)]
        rw [if_pos here, if_pos (by rw [kept]; exact room n (by omega)), if_pos (by omega), whose]
        rfl
      · have other : back k ≠ n := fun same => here (same ▸ redo)
        rw [if_neg here, ← List.getD_eq_getElem?_getD, ih (by omega)]
        by_cases earlier : back k < n
        · rw [if_pos earlier, if_pos (by omega)]
        · rw [if_neg earlier, if_neg (by omega)]

theorem level_loop_cell (room : dst.length = 64) (onto : ∀ i < 64, into i < 64) (undo : ∀ i < 64, back (into i) = i)
    (k : Nat) (redo : into (back k) = k) (inside : back k < 64) :
    (levelLoop into outOf src dst).getD k 0 = src.getD (outOf (back k)) 0 := by
  rw [levelLoop, level_loop_prefix into outOf back src dst (fun i small => by rw [room]; exact onto i small) undo 64
    (le_refl _) k redo, if_pos inside]

end Levels

def mapLevel (levels : List UInt8) (x y : Nat) : UInt8 := levels.getD (8 * y + x) 0

theorem level_map_cb_turns (r : MonomeRotate) (dst src : List UInt8) (room : dst.length = 64) (whole : src.length = 64)
    (x y : Nat) (hx : x < 8) (hy : y < 8) : mapLevel ((rotspec r).levelMapCb dst src) x y =
      mapLevel src (unturn r 8 8 (x, y)).1 (unturn r 8 8 (x, y)).2 := by
  have rotated : ∀ y < 8, ∀ x < 8, (7 - ((8 * y + x) >>> 3)) + (((8 * y + x) &&& 7) <<< 3) = 8 * x + (7 - y) ∧
      ((8 * y + x) >>> 3) + ((7 - ((8 * y + x) &&& 7)) <<< 3) = 8 * (7 - x) + y := by decide
  cases r with
  | rotate0 =>
      simp only [mapLevel, rotspec, r0LevelMapCb, unturn]
      rw [List.take_of_length_le (by omega), List.drop_eq_nil_of_le (by omega), List.append_nil]
  | rotate90 =>
      simp only [mapLevel, rotspec, r90LevelMapCb, unturn]
      rw [level_loop_cell _ _ (fun i => i) src dst room (fun i small => small) (fun _ _ => rfl) _ rfl (by omega),
        (rotated y hy x hx).1]
  | rotate180 =>
      simp only [mapLevel, rotspec, r180LevelMapCb, unturn]
      rw [level_loop_cell _ _ (fun i => 63 - i) src dst room (fun i small => by omega) (fun i small => by omega) _
        (by omega) (by omega)]
      congr 1
      omega
  | rotate270 =>
      simp only [mapLevel, rotspec, r270LevelMapCb, unturn]
      rw [level_loop_cell _ _ (fun i => i) src dst room (fun i small => small) (fun _ _ => rfl) _ rfl (by omega),
        (rotated y hy x hx).2]

theorem reverse_byte_table : ∀ n < 256, ∀ i < 8,
    byteBit (reverseByte (UInt8.ofNat n)) i = byteBit (UInt8.ofNat n) (7 - i) := by decide +kernel

theorem reverse_byte_bit (b : UInt8) (i : Nat) (inside : i < 8) : byteBit (reverseByte b) i = byteBit b (7 - i) := by
  have entry := reverse_byte_table b.toNat b.toNat_lt i inside
  rwa [UInt8.ofNat_toNat] at entry

end Libmonome
