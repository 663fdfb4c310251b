import Libmonome.Keys
import Libmonome.Mext.Meaning

set_option autoImplicit false

namespace Libmonome

-- What the two-byte messages of the older devices mean. A tilt message moves
-- one axis; its event carries both, the other as it was last read.

def seriesEvent (self : Series) (b0 b1 : UInt8) : Option MonomeEvent :=
  let key := unrotated self.monome (.ofNat (b1.toNat / 16)) (.ofNat (b1.toNat % 16))
  if b0 = 0x00 then some (keyEvent true key.1 key.2)
  else if b0 = 0x10 then some (keyEvent false key.1 key.2)
  else if b0 = 0xD0 then some ⟨.tilt, .tilt 0 (.ofNat b1.toNat) self.tiltY 0⟩
  else if b0 = 0xD1 then some ⟨.tilt, .tilt 0 self.tiltX (.ofNat b1.toNat) 0⟩
  else none

def seriesSelf (self : Series) (b0 b1 : UInt8) : Series :=
  if b0 = 0xD0 then { self with tiltX := .ofNat b1.toNat }
  else if b0 = 0xD1 then { self with tiltY := .ofNat b1.toNat }
  else self

-- A 40h axis is ten bits, the top two in the header, and loses the lowest two.
def m40hAxis (b0 b1 : UInt8) : Int32 := .ofNat ((256 * (b0.toNat % 4) + b1.toNat) / 4)

def m40hEvent (self : M40h) (b0 b1 : UInt8) : Option MonomeEvent :=
  let key := unrotated self.parent (.ofNat (b1.toNat / 16)) (.ofNat (b1.toNat % 16))
  if b0 = 0x01 then some (keyEvent true key.1 key.2)
  else if b0 = 0x00 then some (keyEvent false key.1 key.2)
  else if b0.toNat / 4 = 4 then some ⟨.tilt, .tilt 0 (m40hAxis b0 b1) self.tiltY 0⟩
  else if b0.toNat / 4 = 5 then some ⟨.tilt, .tilt 0 self.tiltX (m40hAxis b0 b1) 0⟩
  else none

def m40hSelf (self : M40h) (b0 b1 : UInt8) : M40h :=
  if b0.toNat / 4 = 4 then { self with tiltX := m40hAxis b0 b1 }
  else if b0.toNat / 4 = 5 then { self with tiltY := m40hAxis b0 b1 }
  else self

theorem nybble_coordinates (b : UInt8) :
    (b >>> 4).toUInt32 = .ofNat (b.toNat / 16) ∧ (b &&& 0x0F).toUInt32 = .ofNat (b.toNat % 16) := by
  have bound := b.toNat_lt
  constructor
  · apply UInt32.toNat_inj.mp
    rw [high_nybble, UInt32.toNat_ofNat', Nat.mod_eq_of_lt (a := b.toNat / 16) (by omega)]
  · apply UInt32.toNat_inj.mp
    rw [low_nybble, UInt32.toNat_ofNat', Nat.mod_eq_of_lt (a := b.toNat % 16) (by omega)]

theorem uint_as_int (x : UInt32) : x.toInt32 = .ofNat x.toNat := by
  apply Int32.toBitVec_inj.mp
  show x.toBitVec = BitVec.ofNat 32 x.toBitVec.toNat
  rw [BitVec.ofNat_toNat, BitVec.setWidth_eq]

theorem m40h_reading (b0 b1 : UInt8) : m40hReading b0 b1 = m40hAxis b0 b1 := by
  have bound := b1.toNat_lt
  have low : (b0 &&& 0x3).toUInt32.toNat = b0.toNat % 4 := by
    rw [UInt8.toNat_toUInt32, UInt8.toNat_and]
    exact Nat.and_two_pow_sub_one_eq_mod b0.toNat 2
  have high : ((b0 &&& 0x3).toUInt32 <<< 8).toNat = 2 ^ 8 * (b0.toNat % 4) := by
    rw [UInt32.toNat_shiftLeft, low]
    simp only [Nat.shiftLeft_eq]
    show b0.toNat % 4 * 2 ^ 8 % 2 ^ 32 = _
    omega
  have whole : (((b0 &&& 0x3).toUInt32 <<< 8) ||| b1.toUInt32).toNat = 256 * (b0.toNat % 4) + b1.toNat := by
    rw [UInt32.toNat_or, high, UInt8.toNat_toUInt32, ← Nat.two_pow_add_eq_or_of_lt (by omega)]
  rw [m40hReading, uint_as_int, UInt32.toNat_div, whole]
  rfl

def SeriesKey (b0 : UInt8) : Prop := b0 = 0x00 ∨ b0 = 0x10
def M40hKey (b0 : UInt8) : Prop := b0 = 0x01 ∨ b0 = 0x00

instance : DecidablePred SeriesKey := fun b0 => inferInstanceAs (Decidable (b0 = 0x00 ∨ b0 = 0x10))
instance : DecidablePred M40hKey := fun b0 => inferInstanceAs (Decidable (b0 = 0x01 ∨ b0 = 0x00))

theorem series_switched (self : Series) (e : MonomeEvent) (b0 b1 : UInt8) :
    seriesSwitch self e (b0, b1) =
      if SeriesKey b0 → DividesByNonzero self.monome then
        .ok ⟨some (if (seriesEvent self b0 b1).isSome then 1 else 0), seriesSelf self b0 b1,
          (seriesEvent self b0 b1).getD e⟩
      else .error .divisionByZero := by
  obtain ⟨left, up⟩ := nybble_coordinates b1
  by_cases key : SeriesKey b0
  · have pressed : b0 = seriesButtonDown ∨ b0 = seriesButtonUp := key
    simp only [seriesSwitch, if_pos pressed, key, true_imp_iff]
    by_cases nonzero : DividesByNonzero self.monome
    · rw [if_pos nonzero, unrotate_coords_ok _ _ _ nonzero]
      simp only [left, up]
      rcases key with down | up <;> subst b0 <;> rfl
    · rw [if_neg nonzero, unrotate_coords_fault _ _ _ nonzero]
      rfl
  · have still : ¬ (b0 = seriesButtonDown ∨ b0 = seriesButtonUp) := key
    have other := not_or.mp key
    rw [if_pos (fun is => absurd is key)]
    simp only [seriesSwitch, if_neg still]
    by_cases x : b0 = 0xD0
    · subst x
      simp only [seriesEvent, seriesSelf, tiltEvent, uint_as_int, UInt8.toNat_toUInt32]
      rfl
    · by_cases y : b0 = 0xD1
      · subst y
        simp only [seriesEvent, seriesSelf, tiltEvent, uint_as_int, UInt8.toNat_toUInt32]
        rfl
      · have notX : b0 ≠ seriesTilt := x
        have notY : b0 ≠ seriesTilt + 1 := y
        simp only [if_neg notX, if_neg notY, seriesEvent, seriesSelf, if_neg other.1, if_neg other.2, if_neg x, if_neg y]
        rfl

theorem m40h_switched (self : M40h) (e : MonomeEvent) (b0 b1 : UInt8) :
    m40hSwitch self e (b0, b1) =
      if M40hKey b0 → DividesByNonzero self.parent then
        .ok ⟨some (if (m40hEvent self b0 b1).isSome then 1 else 0), m40hSelf self b0 b1,
          (m40hEvent self b0 b1).getD e⟩
      else .error .divisionByZero := by
  obtain ⟨left, up⟩ := nybble_coordinates b1
  by_cases key : M40hKey b0
  · have pressed : b0 = m40hButtonDown ∨ b0 = m40hButtonUp := key
    simp only [m40hSwitch, if_pos pressed, key, true_imp_iff]
    by_cases nonzero : DividesByNonzero self.parent
    · rw [if_pos nonzero, unrotate_coords_ok _ _ _ nonzero]
      simp only [left, up]
      rcases key with down | up <;> subst b0 <;> rfl
    · rw [if_neg nonzero, unrotate_coords_fault _ _ _ nonzero]
      rfl
  · have still : ¬ (b0 = m40hButtonDown ∨ b0 = m40hButtonUp) := key
    have other := not_or.mp key
    rw [if_pos (fun is => absurd is key)]
    simp only [m40hSwitch, if_neg still]
    have four : b0.toNat / 4 = 4 ↔ (b0 = m40hAux1 ∨ b0 = m40hAux1 + 1 ∨ b0 = m40hAux1 + 2 ∨ b0 = m40hAux1 + 3) := by
      simp only [m40hAux1, ← UInt8.toNat_inj]
      show b0.toNat / 4 = 4 ↔ b0.toNat = 16 ∨ b0.toNat = 17 ∨ b0.toNat = 18 ∨ b0.toNat = 19
      omega
    have five : b0.toNat / 4 = 5 ↔ (b0 = m40hAux2 ∨ b0 = m40hAux2 + 1 ∨ b0 = m40hAux2 + 2 ∨ b0 = m40hAux2 + 3) := by
      simp only [m40hAux2, ← UInt8.toNat_inj]
      show b0.toNat / 4 = 5 ↔ b0.toNat = 20 ∨ b0.toNat = 21 ∨ b0.toNat = 22 ∨ b0.toNat = 23
      omega
    simp only [← four, ← five, m40hEvent, m40hSelf, if_neg other.1, if_neg other.2, m40h_reading, tiltEvent]
    by_cases x : b0.toNat / 4 = 4
    · simp only [if_pos x]
      rfl
    · simp only [if_neg x]
      by_cases y : b0.toNat / 4 = 5
      · simp only [if_pos y]
        rfl
      · simp only [if_neg y]
        rfl

-- The body the two next_event functions share: one read of two bytes, and a
-- switch on them.
def pairNextEvent {ω σ : Type} (P : Platform ω) (self : σ) (e : MonomeEvent)
    (switch : UInt8 × UInt8 → Except Fault (NextEvent σ)) : Io ω (NextEvent σ) := do
  let read ← Io.call (P.read 2)
  if readShort read.status 2 then
    return ⟨some read.status.toInt32, self, e⟩
  else
    Io.check (switch (readPair read.stored))

theorem series_next_event {ω : Type} (P : Platform ω) (self : Series) (e : MonomeEvent) :
    protoSeriesNextEvent P self e = pairNextEvent P self e (seriesSwitch self e) := rfl

theorem m40h_next_event {ω : Type} (P : Platform ω) (self : M40h) (e : MonomeEvent) :
    proto40hNextEvent P self e = pairNextEvent P self e (m40hSwitch self e) := rfl

inductive Message where
  | frame (frame : Frame)
  | pair (b0 b1 : UInt8)
deriving DecidableEq, Repr

def Message.bytes : Message → List UInt8
  | .frame whole => whole.bytes
  | .pair b0 b1 => [b0, b1]

def Message.pieces : Message → List Supply
  | .frame whole => whole.pieces
  | .pair b0 b1 => [.piece [b0, b1]]

namespace Device

def Speaks : Device → Message → Prop
  | mext _, .frame frame => Listed frame.header
  | series _, .pair _ _ => True
  | m40h _, .pair _ _ => True
  | _, _ => False

def event [t : Target] : Device → Message → Option MonomeEvent
  | mext self, .frame frame => frameEvent self.monome frame
  | series self, .pair b0 b1 => seriesEvent self b0 b1
  | m40h self, .pair b0 b1 => m40hEvent self b0 b1
  | _, _ => none

def after : Device → Message → Device
  | mext self, .frame frame => mext (frameSelf self frame)
  | series self, .pair b0 b1 => series (seriesSelf self b0 b1)
  | m40h self, .pair b0 b1 => m40h (m40hSelf self b0 b1)
  | device, _ => device

def Decodes : Device → Message → Prop
  | mext self, .frame frame => Libmonome.Decodes self frame
  | series self, .pair b0 _ => SeriesKey b0 → DividesByNonzero self.monome
  | m40h self, .pair b0 _ => M40hKey b0 → DividesByNonzero self.parent
  | _, _ => True

end Device

end Libmonome
