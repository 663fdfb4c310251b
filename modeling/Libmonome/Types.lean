import Libmonome.Lib.BitMoves

set_option autoImplicit false

namespace Libmonome

-- The C behaviours with no defined result that the modelled code can run into.
inductive Fault where
  | outOfBounds
  | divisionByZero
  | nullCall
  | danglingPointer
deriving DecidableEq, Repr

inductive MonomeRotate where
  | rotate0
  | rotate90
  | rotate180
  | rotate270
deriving DecidableEq, Repr

inductive MonomeEventType where
  | buttonUp
  | buttonDown
  | encoderDelta
  | encoderKeyUp
  | encoderKeyDown
  | tilt
deriving DecidableEq, Repr

-- The union member of monome_event that goes with the type.
inductive EventPayload where
  | grid (x y : UInt32)
  | encoder (number : UInt32) (delta : Int32)
  | tilt (sensor : UInt32) (x y z : Int32)
deriving DecidableEq, Repr

structure MonomeEvent where
  eventType : MonomeEventType
  payload : EventPayload
deriving DecidableEq, Repr

-- A cell of the sixteen by sixteen array an example program keeps.
def boardCell (x y : UInt32) (inside : x.toNat < 16 ∧ y.toNat < 16) : Fin 16 × Fin 16 :=
  (⟨x.toNat, inside.1⟩, ⟨y.toNat, inside.2⟩)

def keyEvent (down : Bool) (x y : UInt32) : MonomeEvent :=
  ⟨if down then .buttonDown else .buttonUp, .grid x y⟩

inductive MonomeProto where
  | mext
  | series
  | m40h
  | osc
deriving DecidableEq, Repr

structure MonomeDevmap where
  sermatch : String
  proto : MonomeProto
  cols : Int32
  rows : Int32
  friendly : String
  quirk57600Baud : Bool
deriving DecidableEq, Repr

-- friendly points at the device table, or into the mext object's own id.
inductive FriendlyName where
  | unset
  | devmap (name : String)
  | selfId
deriving DecidableEq, Repr

structure Monome where
  rows : Int32
  cols : Int32
  rotation : MonomeRotate
  serial : Option String
  friendly : FriendlyName
deriving DecidableEq, Repr

-- The two compile-time switches the byte-level code tests: __LP64__ and
-- LM_BIG_ENDIAN.
structure Target where
  lp64 : Bool
  bigEndian : Bool
deriving DecidableEq, Repr

attribute [class] Target

def MonomeRotate.ofMasked (bits : UInt32) : MonomeRotate :=
  if bits &&& 3 = 0 then .rotate0 else if bits &&& 3 = 1 then .rotate90
  else if bits &&& 3 = 2 then .rotate180 else .rotate270

def monomeSetRotation (monome : Monome) (rotation : UInt32) : Monome :=
  { monome with rotation := .ofMasked rotation }

-- C's ! on an unsigned value.
def cNot (x : UInt8) : UInt8 := if x = 0 then 1 else 0

-- *data, and memcpy out of the caller's array: past its end nothing is defined.
def deref (data : List UInt8) : Except Fault UInt8 :=
  match data with
  | [] => .error .outOfBounds
  | b :: _ => .ok b

def copyOut (n : Nat) (data : List UInt8) : Except Fault (List UInt8) :=
  if n ≤ data.length then .ok (data.take n) else .error .outOfBounds

end Libmonome
