import Libmonome.Types

set_option autoImplicit false

namespace Libmonome

structure CString where
  bytes : List UInt8
  whole : 0 ∉ bytes
deriving DecidableEq

-- *s at an offset: the terminator can be read, what lies behind it cannot.
def CString.at (s : CString) (i : Nat) : Except Fault UInt8 :=
  if i ≤ s.bytes.length then .ok (s.bytes.getD i 0) else .error .outOfBounds

-- A plain char as the comparisons see it, in a build where it is signed or not.
def charVal (signed : Bool) (c : UInt8) : Int := if signed then c.toInt8.toInt else c.toNat

-- while((48 <= *s) && (*s++ <= 57)); and where it leaves s. A loop still running
-- when its turns are used up has no result.
def numstrLoop (signed : Bool) (s : CString) : (fuel i : Nat) → Option (Except Fault Nat)
  | 0, _ => none
  | fuel + 1, i =>
      match s.at i with
      | .error fault => some (.error fault)
      | .ok c =>
          if 48 ≤ charVal signed c then
            if charVal signed c ≤ 57 then numstrLoop signed s fuel (i + 1) else some (.ok (i + 1))
          else some (.ok i)

def isNumstr (signed : Bool) (s : CString) (fuel : Nat) : Option (Except Fault Int32) :=
  (numstrLoop signed s fuel 0).map fun stopped => do
    let i ← stopped
    let c ← s.at i
    return if c ≠ 0 then 0 else 1

def Decimal (bytes : List UInt8) : Prop := ∀ c ∈ bytes, 48 ≤ c ∧ c ≤ 57

instance (bytes : List UInt8) : Decidable (Decimal bytes) := inferInstanceAs (Decidable (∀ c ∈ bytes, 48 ≤ c ∧ c ≤ 57))

def Validated (signed : Bool) (s : CString) : Prop :=
  ∀ fuel, s.bytes.length < fuel → isNumstr signed s fuel = some (.ok (if Decimal s.bytes then 1 else 0))

def EndsAbove (signed : Bool) (s : CString) : Prop :=
  ∃ digits c, s.bytes = digits ++ [c] ∧ Decimal digits ∧ 57 < charVal signed c

theorem char_val_cases (signed : Bool) (c : UInt8) :
    charVal signed c = c.toNat ∨ (128 ≤ c.toNat ∧ charVal signed c = c.toNat - 256) := by
  cases signed with
  | false => exact .inl rfl
  | true =>
      have value : charVal true c = if 2 * c.toNat < 2 ^ 8 then (c.toNat : Int) else c.toNat - (2 ^ 8 : Nat) :=
        BitVec.toInt_eq_toNat_cond c.toBitVec
      by_cases low : 2 * c.toNat < 2 ^ 8
      · rw [value, if_pos low]
        exact .inl rfl
      · rw [value, if_neg low]
        exact .inr ⟨by omega, rfl⟩

theorem char_val_digit (signed : Bool) (c : UInt8) :
    (48 ≤ charVal signed c ∧ charVal signed c ≤ 57) ↔ (48 ≤ c ∧ c ≤ 57) := by
  have bound := c.toNat_lt
  rw [UInt8.le_iff_toNat_le, UInt8.le_iff_toNat_le]
  show _ ↔ 48 ≤ c.toNat ∧ c.toNat ≤ 57
  have cases := char_val_cases signed c
  omega

theorem at_end (s : CString) : s.at s.bytes.length = .ok 0 := by
  rw [CString.at, if_pos (Nat.le_refl _), List.getD_eq_getElem?_getD, List.getElem?_eq_none (Nat.le_refl _)]
  rfl

theorem at_inside (s : CString) (earlier later : List UInt8) (c : UInt8) (split : s.bytes = earlier ++ c :: later) :
    s.at earlier.length = .ok c ∧ c ≠ 0 := by
  constructor
  · rw [CString.at, split, if_pos (by rw [List.length_append]; omega), List.getD_eq_getElem?_getD,
      List.getElem?_append_right (Nat.le_refl _), Nat.sub_self]
    rfl
  · intro zero
    have absent := s.whole
    rw [split, zero] at absent
    exact absent (by simp)

theorem loop_digits (signed : Bool) (s : CString) (earlier digits later : List UInt8) (decimal : Decimal digits)
    (split : s.bytes = earlier ++ digits ++ later) (fuel : Nat) :
    numstrLoop signed s (fuel + digits.length) earlier.length =
      numstrLoop signed s fuel (earlier ++ digits).length := by
  induction digits generalizing earlier with
  | nil => rw [List.append_nil]; rfl
  | cons c digits ih =>
      have here := at_inside s earlier (digits ++ later) c (by rw [split, List.append_assoc]; rfl)
      have digit := (char_val_digit signed c).mpr (decimal c List.mem_cons_self)
      have rest := ih (earlier ++ [c]) (fun d member => decimal d (List.mem_cons_of_mem c member)) (by rw [split]; simp)
      rw [List.length_cons, ← Nat.add_assoc, numstrLoop, here.1]
      simp only [if_pos digit.1, if_pos digit.2]
      rw [List.append_assoc, List.length_append] at rest
      exact rest

theorem at_later (s : CString) (earlier later : List UInt8) (split : s.bytes = earlier ++ later) :
    s.at earlier.length = .ok (later.headD 0) := by
  cases later with
  | nil =>
      rw [List.append_nil] at split
      rw [← split]
      exact at_end s
  | cons c later => exact (at_inside s earlier later c split).1

theorem loop_stops (signed : Bool) (s : CString) (digits later : List UInt8) (decimal : Decimal digits)
    (split : s.bytes = digits ++ later) (stops : ¬ (48 ≤ later.headD 0 ∧ later.headD 0 ≤ 57)) (fuel : Nat)
    (enough : digits.length < fuel) :
    numstrLoop signed s fuel 0 =
      some (.ok (if 57 < charVal signed (later.headD 0) then digits.length + 1 else digits.length)) := by
  obtain ⟨spare, same⟩ := Nat.exists_eq_add_of_lt enough
  have turns := loop_digits signed s [] digits later decimal (by rw [split]; rfl) (spare + 1)
  have place : digits.length + spare + 1 = spare + 1 + digits.length := by omega
  rw [List.length_nil, List.nil_append] at turns
  rw [same, place, turns, numstrLoop, at_later s digits later split]
  rw [← char_val_digit signed] at stops
  by_cases above : 57 < charVal signed (later.headD 0)
  · have least : 48 ≤ charVal signed (later.headD 0) := by omega
    simp only [if_pos least, if_neg (not_le.mpr above), if_pos above]
  · have less : ¬ 48 ≤ charVal signed (later.headD 0) := by omega
    simp only [if_neg less, if_neg above]

theorem decimal_split (bytes : List UInt8) : ∃ digits later, bytes = digits ++ later ∧ Decimal digits ∧
    ¬ (48 ≤ later.headD 0 ∧ later.headD 0 ≤ 57) := by
  induction bytes with
  | nil => exact ⟨[], [], rfl, by simp [Decimal], by decide⟩
  | cons c bytes ih =>
      by_cases digit : 48 ≤ c ∧ c ≤ 57
      · obtain ⟨digits, later, split, decimal, stops⟩ := ih
        exact ⟨c :: digits, later, by rw [split]; rfl, List.forall_mem_cons.mpr ⟨digit, decimal⟩, stops⟩
      · exact ⟨[], c :: bytes, rfl, by simp [Decimal], digit⟩

theorem ends_above_later (signed : Bool) (s : CString) (digits later : List UInt8) (c : UInt8) (decimal : Decimal digits)
    (split : s.bytes = digits ++ c :: later) (other : ¬ (48 ≤ c ∧ c ≤ 57)) :
    EndsAbove signed s ↔ later = [] ∧ 57 < charVal signed c := by
  constructor
  · intro ends
    obtain ⟨digits', last, split', decimal', above⟩ := ends
    rw [split] at split'
    cases later with
    | nil =>
        have same := List.singleton_inj.mp (List.append_inj_right' split' rfl)
        rw [same]
        exact ⟨rfl, above⟩
    | cons next later =>
        have front := congrArg List.dropLast split'
        rw [List.dropLast_concat, List.dropLast_append_of_ne_nil (List.cons_ne_nil _ _), List.dropLast_cons_cons] at front
        refine absurd (decimal' c ?_) other
        rw [← front]
        exact List.mem_append_right digits List.mem_cons_self
  · intro ends
    exact ⟨digits, c, by rw [split, ends.1], decimal, ends.2⟩

theorem is_numstr_stopped (signed : Bool) (s : CString) (fuel i : Nat) (c : UInt8)
    (stopped : numstrLoop signed s fuel 0 = some (.ok i)) (read : s.at i = .ok c) :
    isNumstr signed s fuel = some (.ok (if c ≠ 0 then 0 else 1)) := by
  rw [isNumstr, stopped, Option.map_some]
  simp only [bind, Except.bind, read]
  rfl

theorem is_numstr_returns (signed : Bool) (s : CString) (fuel : Nat) (enough : s.bytes.length < fuel) :
    (isNumstr signed s fuel = some (.ok (if Decimal s.bytes then 1 else 0)) ∧ ¬ EndsAbove signed s) ∨
      (isNumstr signed s fuel = some (.ok 1) ∧ ¬ Decimal s.bytes ∧ EndsAbove signed s) := by
  obtain ⟨digits, later, split, decimal, stops⟩ := decimal_split s.bytes
  have stop := loop_stops signed s digits later decimal split stops fuel (by rw [split, List.length_append] at enough; omega)
  cases later with
  | nil =>
      have zero : ¬ 57 < charVal signed 0 := by cases signed <;> decide
      have whole : s.bytes = digits := by rw [split, List.append_nil]
      rw [List.headD_nil, if_neg zero] at stop
      refine .inl ⟨?_, ?_⟩
      · have all : Decimal s.bytes := by rw [whole]; exact decimal
        rw [if_pos all]
        exact is_numstr_stopped signed s fuel _ 0 stop (at_later s digits [] split)
      · intro ends
        obtain ⟨front, c, same, _, above⟩ := ends
        have digit := decimal c (by rw [← whole, same]; simp)
        exact absurd above (not_lt.mpr ((char_val_digit signed c).mpr digit).2)
  | cons c later =>
      have inside := at_inside s digits later c split
      have notDecimal : ¬ Decimal s.bytes := by
        intro all
        exact stops (all c (by rw [split]; simp))
      rw [List.headD_cons] at stop stops
      rw [ends_above_later signed s digits later c decimal split stops, if_neg notDecimal]
      by_cases above : 57 < charVal signed c
      · rw [if_pos above] at stop
        have moved : s.bytes = (digits ++ [c]) ++ later := by rw [split, List.append_assoc]; rfl
        have read := at_later s (digits ++ [c]) later moved
        rw [List.length_append, List.length_singleton] at read
        have returned := is_numstr_stopped signed s fuel _ _ stop read
        cases later with
        | nil => exact .inr ⟨returned, notDecimal, rfl, above⟩
        | cons next later =>
            have nonzero := (at_inside s (digits ++ [c]) later next moved).2
            rw [List.headD_cons, if_pos nonzero] at returned
            exact .inl ⟨returned, by simp⟩
      · rw [if_neg above] at stop
        have returned := is_numstr_stopped signed s fuel _ c stop inside.1
        rw [if_pos inside.2] at returned
        exact .inl ⟨returned, fun ends => above ends.2⟩

theorem validated_iff (signed : Bool) (s : CString) : Validated signed s ↔ ¬ EndsAbove signed s := by
  constructor
  · intro validated
    cases is_numstr_returns signed s (s.bytes.length + 1) (Nat.lt_succ_self _) with
    | inl right => exact right.2
    | inr wrong =>
        have returned := validated (s.bytes.length + 1) (Nat.lt_succ_self _)
        rw [wrong.1, if_neg wrong.2.1] at returned
        exact absurd returned (by decide)
  · intro free fuel enough
    cases is_numstr_returns signed s fuel enough with
    | inl right => exact right.1
    | inr wrong => exact absurd wrong.2.2 free

-- 80a: the loop steps over the a and stops on the terminator.
theorem letter_taken : ¬ Validated true ⟨[0x38, 0x30, 0x61], by decide⟩ := by
  intro validated
  exact absurd (validated 4 (by decide)) (by decide)

end Libmonome
