import Libmonome.Mext.Frames
import Libmonome.Mext.Wire
import Libmonome.M40h

set_option autoImplicit false

namespace Libmonome

variable {ω : Type}

-- The serial backends' objects, and the calls their function tables take.
inductive Device where
  | mext (self : Mext)
  | series (self : Series)
  | m40h (self : M40h)
deriving DecidableEq, Repr

namespace Device

def monome : Device → Monome
  | mext self => self.monome
  | series self => self.monome
  | m40h self => self.parent

def ledSet (P : Platform ω) : Device → UInt32 → UInt32 → UInt32 → Io ω Int32
  | mext self => mextLedSet P self.monome
  | series self => protoSeriesLedSet P self.monome
  | m40h self => proto40hLedSet P self.parent

def ledRow (t : Target) (P : Platform ω) : Device → UInt32 → UInt32 → Nat → List UInt8 → Io ω Int32
  | mext self => mextLedRow P self.monome
  | series self => protoSeriesLedRow t P self.monome
  | m40h self => proto40hLedRow P self.parent

def ledCol (t : Target) (P : Platform ω) : Device → UInt32 → UInt32 → Nat → List UInt8 → Io ω Int32
  | mext self => mextLedCol P self.monome
  | series self => protoSeriesLedCol t P self.monome
  | m40h self => proto40hLedCol P self.parent

def ledMap (t : Target) (P : Platform ω) : Device → UInt32 → UInt32 → List UInt8 → Io ω Int32
  | mext self => mextLedMap t P self.monome
  | series self => protoSeriesLedMap t P self.monome
  | m40h self => proto40hLedMap t P self.parent

def ledSets (P : Platform ω) (device : Device) : List ((Nat × Nat) × Bool) → Io ω Unit
  | [] => pure ()
  | d :: rest => do
      let _ ← device.ledSet P (UInt32.ofNat d.1.1) (UInt32.ofNat d.1.2) (if d.2 then 1 else 0)
      device.ledSets P rest

def nextEvent [t : Target] (P : Platform ω) (fuel : Nat) (e : MonomeEvent) : Device → Io ω (NextEvent Device)
  | mext self => do
      let next ← mextNextEvent P fuel self e
      return ⟨next.status, mext next.self, next.event⟩
  | series self => do
      let next ← protoSeriesNextEvent P self e
      return ⟨next.status, series next.self, next.event⟩
  | m40h self => do
      let next ← proto40hNextEvent P self e
      return ⟨next.status, m40h next.self, next.event⟩

def Drives : Device → Nat → Nat → Prop
  | mext _, C, R => (1 ≤ C ∧ C ≤ 255) ∧ 1 ≤ R ∧ R ≤ 255
  | series _, C, R => C ≤ 16 ∧ R ≤ 16
  | m40h _, C, R => C = 8 ∧ R = 8

def lampSet : Device → List UInt8 → Option ((Nat × Nat) × Bool)
  | mext _, [header, x, y] =>
      if header = 0x11 then some ((x.toNat, y.toNat), true)
      else if header = 0x10 then some ((x.toNat, y.toNat), false) else none
  | series _, [header, xy] =>
      if header = 0x20 then some ((xy.toNat / 16, xy.toNat % 16), true)
      else if header = 0x30 then some ((xy.toNat / 16, xy.toNat % 16), false) else none
  | m40h _, [header, xy] =>
      if header = 0x21 then some ((xy.toNat / 16, xy.toNat % 16), true)
      else if header = 0x20 then some ((xy.toNat / 16, xy.toNat % 16), false) else none
  | _, _ => none

def keyMessage (device : Device) (down : Bool) (p : Nat × Nat) : List UInt8 :=
  match device with
  | mext _ => [if down then 0x21 else 0x20, UInt8.ofNat p.1, UInt8.ofNat p.2]
  | series _ => [if down then 0x00 else 0x10, UInt8.ofNat (16 * p.1 + p.2)]
  | m40h _ => [if down then 0x01 else 0x00, UInt8.ofNat (16 * p.1 + p.2)]

end Device

end Libmonome
