import Mathlib

set_option autoImplicit false

namespace BitMoves

-- Moving the bits of a word by masked shifts. Each move is described by the
-- index its result bit i is taken from, so a chain of moves is a chain of
-- index maps and two chains are compared by evaluating indices, never words.
variable {w : Nat}

-- The exchange step of a bit matrix transposition: the bits under the mask
-- trade places with the bits f below them.
def deltaSwap (f : Nat) (c x : BitVec w) : BitVec w :=
  let t := (x ^^^ (x <<< f)) &&& c
  x ^^^ (t ^^^ (t >>> f))

def deltaFrom (f : Nat) (c : BitVec w) (i : Nat) : Nat :=
  if c.getLsbD i then i - f else if c.getLsbD (i + f) then i + f else i

def Separated (f : Nat) (c : BitVec w) : Prop :=
  ∀ i < w, c.getLsbD i = true → f ≤ i ∧ c.getLsbD (i + f) = false

instance (f : Nat) (c : BitVec w) : Decidable (Separated f c) :=
  inferInstanceAs (Decidable (∀ i < w, c.getLsbD i = true → f ≤ i ∧ c.getLsbD (i + f) = false))

theorem delta_swap_bit (f : Nat) (c x : BitVec w) (separated : Separated f c) (i : Nat) (inside : i < w) :
    (deltaSwap f c x).getLsbD i = x.getLsbD (deltaFrom f c i) := by
  simp only [deltaSwap, deltaFrom, BitVec.getLsbD_xor, BitVec.getLsbD_and, BitVec.getLsbD_shiftLeft,
    BitVec.getLsbD_ushiftRight]
  by_cases low : c.getLsbD i = true
  · obtain ⟨reach, single⟩ := separated i inside low
    rw [Nat.add_comm] at single
    rw [low, single, decide_eq_true inside, decide_eq_false (Nat.not_lt.mpr reach)]
    simp
  · by_cases high : c.getLsbD (i + f) = true
    · have bound : i + f < w := BitVec.lt_of_getLsbD high
      rw [Nat.add_comm] at high bound
      have low' : c.getLsbD i = false := by simpa using low
      rw [low', Nat.add_comm i f, high, decide_eq_true bound, Nat.add_sub_cancel_left]
      cases x.getLsbD i <;> simp
    · rw [Nat.add_comm] at high
      have low' : c.getLsbD i = false := by simpa using low
      have high' : c.getLsbD (f + i) = false := by simpa using high
      simp [low', high', Nat.add_comm i f]

theorem delta_from_inside (f : Nat) (c : BitVec w) (i : Nat) (inside : i < w) : deltaFrom f c i < w := by
  rw [deltaFrom]
  by_cases low : c.getLsbD i = true
  · rw [if_pos low]
    omega
  · by_cases high : c.getLsbD (i + f) = true
    · rw [if_neg low, if_pos high]
      exact BitVec.lt_of_getLsbD high
    · rw [if_neg low, if_neg high]
      exact inside

def swapChain (steps : List (Nat × BitVec w)) (x : BitVec w) : BitVec w :=
  steps.foldl (fun x step => deltaSwap step.1 step.2 x) x

def chainFrom (steps : List (Nat × BitVec w)) (i : Nat) : Nat :=
  steps.foldr (fun step i => deltaFrom step.1 step.2 i) i

theorem chain_from_inside (steps : List (Nat × BitVec w)) (i : Nat) (inside : i < w) : chainFrom steps i < w := by
  induction steps with
  | nil => exact inside
  | cons step rest ih => exact delta_from_inside step.1 step.2 _ ih

theorem swap_chain_bit (steps : List (Nat × BitVec w)) (separated : ∀ step ∈ steps, Separated step.1 step.2)
    (x : BitVec w) (i : Nat) (inside : i < w) : (swapChain steps x).getLsbD i = x.getLsbD (chainFrom steps i) := by
  induction steps generalizing x with
  | nil => rfl
  | cons step rest ih =>
      have tail := ih (fun s member => separated s (by simp [member])) (deltaSwap step.1 step.2 x)
      exact tail.trans (delta_swap_bit step.1 step.2 x (separated step (by simp)) _ (chain_from_inside rest i inside))

def cross (s : Nat) (down up x : BitVec w) : BitVec w := (x &&& down) >>> s ||| (x &&& up) <<< s

def crossFrom (s : Nat) (down : BitVec w) (i : Nat) : Nat := if down.getLsbD (i + s) then i + s else i - s

def Filled (s : Nat) (down up : BitVec w) : Prop :=
  ∀ i < w, if down.getLsbD (i + s) then (s ≤ i → up.getLsbD (i - s) = false)
    else s ≤ i ∧ up.getLsbD (i - s) = true

instance (s : Nat) (down up : BitVec w) : Decidable (Filled s down up) :=
  inferInstanceAs (Decidable (∀ i < w, if down.getLsbD (i + s) then (s ≤ i → up.getLsbD (i - s) = false)
    else s ≤ i ∧ up.getLsbD (i - s) = true))

theorem cross_bit (s : Nat) (down up x : BitVec w) (filled : Filled s down up) (i : Nat) (inside : i < w) :
    (cross s down up x).getLsbD i = x.getLsbD (crossFrom s down i) := by
  have side := filled i inside
  simp only [cross, crossFrom, BitVec.getLsbD_or, BitVec.getLsbD_and, BitVec.getLsbD_shiftLeft,
    BitVec.getLsbD_ushiftRight]
  by_cases fromAbove : down.getLsbD (i + s) = true
  · rw [if_pos fromAbove] at side
    rw [Nat.add_comm] at fromAbove
    by_cases reach : s ≤ i
    · simp [Nat.add_comm i s, fromAbove, side reach]
    · simp [Nat.add_comm i s, fromAbove, Nat.lt_of_not_le reach]
  · rw [if_neg fromAbove] at side
    have closed : down.getLsbD (s + i) = false := by simpa [Nat.add_comm] using fromAbove
    simp [Nat.add_comm i s, closed, inside, Nat.not_lt.mpr side.1, side.2]

theorem cross_from_inside (s : Nat) (down : BitVec w) (i : Nat) (inside : i < w) : crossFrom s down i < w := by
  rw [crossFrom]
  by_cases fromAbove : down.getLsbD (i + s) = true
  · rw [if_pos fromAbove]
    exact BitVec.lt_of_getLsbD fromAbove
  · rw [if_neg fromAbove]
    omega

def crossChain (steps : List (Nat × BitVec w × BitVec w)) (x : BitVec w) : BitVec w :=
  steps.foldl (fun x step => cross step.1 step.2.1 step.2.2 x) x

def crossChainFrom (steps : List (Nat × BitVec w × BitVec w)) (i : Nat) : Nat :=
  steps.foldr (fun step i => crossFrom step.1 step.2.1 i) i

theorem cross_chain_from_inside (steps : List (Nat × BitVec w × BitVec w)) (i : Nat) (inside : i < w) :
    crossChainFrom steps i < w := by
  induction steps with
  | nil => exact inside
  | cons step rest ih => exact cross_from_inside step.1 step.2.1 _ ih

theorem cross_chain_bit (steps : List (Nat × BitVec w × BitVec w))
    (filled : ∀ step ∈ steps, Filled step.1 step.2.1 step.2.2) (x : BitVec w) (i : Nat) (inside : i < w) :
    (crossChain steps x).getLsbD i = x.getLsbD (crossChainFrom steps i) := by
  induction steps generalizing x with
  | nil => rfl
  | cons step rest ih =>
      have tail := ih (fun s member => filled s (by simp [member])) (cross step.1 step.2.1 step.2.2 x)
      exact tail.trans (cross_bit step.1 step.2.1 step.2.2 x (filled step (by simp)) _
        (cross_chain_from_inside rest i inside))

theorem merge_bit (s : Nat) (keep other x y : BitVec w) (i : Nat)
    (split : keep.getLsbD i = !other.getLsbD (i + s)) :
    ((x &&& other) >>> s ||| (y &&& keep)).getLsbD i =
      if keep.getLsbD i then y.getLsbD i else x.getLsbD (i + s) := by
  simp only [BitVec.getLsbD_or, BitVec.getLsbD_and, BitVec.getLsbD_ushiftRight, Nat.add_comm s i]
  cases kept : keep.getLsbD i
  · rw [kept] at split
    simp [show other.getLsbD (i + s) = true by simpa using split.symm]
  · rw [kept] at split
    simp [show other.getLsbD (i + s) = false by simpa using split.symm]

theorem merge_up_bit (s : Nat) (keep other x y : BitVec w) (i : Nat) (inside : i < w)
    (split : keep.getLsbD i = !(decide (s ≤ i) && other.getLsbD (i - s))) :
    ((x &&& other) <<< s ||| (y &&& keep)).getLsbD i =
      if keep.getLsbD i then y.getLsbD i else x.getLsbD (i - s) := by
  simp only [BitVec.getLsbD_or, BitVec.getLsbD_and, BitVec.getLsbD_shiftLeft]
  cases kept : keep.getLsbD i
  · rw [kept] at split
    have both : s ≤ i ∧ other.getLsbD (i - s) = true := by simpa using split.symm
    simp [inside, Nat.not_lt.mpr both.1, both.2]
  · rw [kept] at split
    by_cases reach : s ≤ i
    · have closed : other.getLsbD (i - s) = false := by simpa [reach] using split.symm
      simp [closed]
    · simp [Nat.lt_of_not_le reach]

def byteBit (b : UInt8) (i : Nat) : Bool := b.toNat.testBit i

def joinBytes : List UInt8 → Nat
  | [] => 0
  | b :: rest => b.toNat + 256 * joinBytes rest

def load (bigEndian : Bool) (w : Nat) (bytes : List UInt8) : BitVec w :=
  BitVec.ofNat w (joinBytes (if bigEndian then bytes.reverse else bytes))

def splitBytes (v : Nat) : Nat → List UInt8
  | 0 => []
  | n + 1 => UInt8.ofNat v :: splitBytes (v / 256) n

def store (bigEndian : Bool) (n : Nat) (v : BitVec w) : List UInt8 :=
  if bigEndian then (splitBytes v.toNat n).reverse else splitBytes v.toNat n

theorem byte_bit_above (b : UInt8) (i : Nat) (above : 8 ≤ i) : byteBit b i = false :=
  Nat.testBit_lt_two_pow (Nat.lt_of_lt_of_le b.toNat_lt (Nat.pow_le_pow_right (by decide) above))

theorem byte_ext (a b : UInt8) (same : ∀ i < 8, byteBit a i = byteBit b i) : a = b := by
  apply UInt8.toNat_inj.mp
  apply Nat.eq_of_testBit_eq
  intro i
  by_cases low : i < 8
  · exact same i low
  · rw [show a.toNat.testBit i = false from byte_bit_above a i (by omega),
      show b.toNat.testBit i = false from byte_bit_above b i (by omega)]

theorem join_bytes_bit (bytes : List UInt8) (i : Nat) :
    (joinBytes bytes).testBit i = byteBit (bytes.getD (i / 8) 0) (i % 8) := by
  induction bytes generalizing i with
  | nil => simp [joinBytes, byteBit]
  | cons b rest ih =>
      rw [joinBytes, Nat.add_comm, show (256 : Nat) = 2 ^ 8 by rfl, Nat.testBit_two_pow_mul_add _ b.toNat_lt]
      by_cases low : i < 8
      · rw [if_pos low, Nat.div_eq_of_lt low, Nat.mod_eq_of_lt low]
        rfl
      · rw [if_neg low, ih, show i / 8 = (i - 8) / 8 + 1 by omega, List.getD_cons_succ,
          show i % 8 = (i - 8) % 8 by omega]

theorem split_bytes_length (v n : Nat) : (splitBytes v n).length = n := by
  induction n generalizing v with
  | zero => rfl
  | succ n ih => simp [splitBytes, ih]

theorem split_bytes_bit (v n k i : Nat) (inside : k < n) (low : i < 8) :
    byteBit ((splitBytes v n).getD k 0) i = v.testBit (8 * k + i) := by
  induction n generalizing v k with
  | zero => omega
  | succ n ih =>
      cases k with
      | zero =>
          rw [splitBytes, List.getD_cons_zero, byteBit, UInt8.toNat_ofNat', Nat.testBit_mod_two_pow]
          simp [low]
      | succ k =>
          rw [splitBytes, List.getD_cons_succ, ih (v / 256) k (by omega), show (256 : Nat) = 2 ^ 8 by rfl,
            Nat.testBit_div_two_pow]
          congr 1
          omega

-- The byte that holds position k of the word, counted from its low end.
def bytePlace (bigEndian : Bool) (n k : Nat) : Nat := if bigEndian then n - 1 - k else k

theorem get_reversed (bytes : List UInt8) (k : Nat) (inside : k < bytes.length) :
    bytes.reverse.getD k 0 = bytes.getD (bytes.length - 1 - k) 0 := by
  simp [List.getD_eq_getElem?_getD, List.getElem?_reverse inside]

theorem load_bit (bigEndian : Bool) (bytes : List UInt8) (i : Nat) (inside : i < 8 * bytes.length)
    (fits : i < w) : (load bigEndian w bytes).getLsbD i =
      byteBit (bytes.getD (bytePlace bigEndian bytes.length (i / 8)) 0) (i % 8) := by
  rw [load, BitVec.getLsbD_ofNat, decide_eq_true fits, Bool.true_and, join_bytes_bit]
  cases bigEndian with
  | false => rfl
  | true => rw [if_pos rfl, get_reversed bytes (i / 8) (by omega)]; rfl

theorem store_length (bigEndian : Bool) (n : Nat) (v : BitVec w) : (store bigEndian n v).length = n := by
  cases bigEndian <;> simp [store, split_bytes_length]

theorem store_bit (bigEndian : Bool) (n : Nat) (v : BitVec w) (k i : Nat) (inside : k < n) (low : i < 8) :
    byteBit ((store bigEndian n v).getD k 0) i = v.getLsbD (8 * bytePlace bigEndian n k + i) := by
  rw [← BitVec.testBit_toNat]
  cases bigEndian with
  | false => exact split_bytes_bit v.toNat n k i inside low
  | true =>
      have turned := get_reversed (splitBytes v.toNat n) k (by rw [split_bytes_length]; exact inside)
      rw [store, if_pos rfl, turned, split_bytes_length]
      exact split_bytes_bit v.toNat n (n - 1 - k) i (by omega) low

end BitMoves
