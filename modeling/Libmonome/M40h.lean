import Libmonome.Series

set_option autoImplicit false

namespace Libmonome

variable {ω : Type} (t : Target) (P : Platform ω) (monome : Monome)

def m40hButtonDown : UInt8 := 0x01
def m40hButtonUp : UInt8 := 0x00
def m40hAux1 : UInt8 := 0x10
def m40hAux2 : UInt8 := 0x14

def m40hLedOff : UInt8 := 0x20
def m40hIntensity : UInt8 := 0x30
def m40hAdcEnable : UInt8 := 0x50
def m40hLedRow : UInt8 := 0x70
def m40hLedCol : UInt8 := 0x80

def m40hModeByte (mode : UInt8) (address : UInt32) : UInt8 :=
  let mode := if hasFlag monome rowColSwap then (cNot (mode - m40hLedRow) <<< 4) + m40hLedRow else mode
  mode ||| (address &&& 0x7).toUInt8

def proto40hLedColRow (mode : UInt8) (address : UInt32) (data : List UInt8) : Io ω Int32 := do
  let point := rotateCoords monome address address
  if mode = m40hLedRow then
    let b ← Io.check (deref data)
    monomeWrite P [m40hModeByte monome mode point.1, if hasFlag monome rowRevbits then reverseByte b else b]
  else if mode = m40hLedCol then
    let b ← Io.check (deref data)
    monomeWrite P [m40hModeByte monome mode point.2, if hasFlag monome colRevbits then reverseByte b else b]
  else
    return -1

def proto40hLedAllLoop (value : UInt8) : List Nat → Io ω Unit
  | [] => pure ()
  | i :: rest => do
      let _ ← monomeWrite P [m40hLedRow ||| (UInt8.ofNat i &&& 0xF), value]
      proto40hLedAllLoop value rest

def proto40hLedAll (status : UInt32) : Io ω Int32 := do
  proto40hLedAllLoop P (if status ≠ 0 then 0xFF else 0) (List.range 8)
  return 16

def proto40hIntensity (brightness : UInt32) : Io ω Int32 := monomeWrite P [m40hIntensity, brightness.toUInt8]

def proto40hLedSet (x y on : UInt32) : Io ω Int32 :=
  let point := rotateCoords monome x y
  let x := point.1 &&& 0x7
  let y := point.2 &&& 0x7
  monomeWrite P [m40hLedOff + (if on = 0 then 0 else 1), ((x <<< 4) ||| y).toUInt8]

def proto40hLedCol (x _yOff : UInt32) (_count : Nat) (data : List UInt8) : Io ω Int32 :=
  proto40hLedColRow P monome m40hLedCol x data

def proto40hLedRow (_xOff y : UInt32) (_count : Nat) (data : List UInt8) : Io ω Int32 :=
  proto40hLedColRow P monome m40hLedRow y data

def proto40hLedMapLoop (buf : List UInt8) : List Nat → Int32 → Io ω Int32
  | [], ret => pure ret
  | i :: rest, ret => do
      let status ← proto40hLedColRow P monome m40hLedRow (UInt32.ofNat i) (buf.drop i)
      proto40hLedMapLoop buf rest (ret + status)

def proto40hLedMap (_xOff _yOff : UInt32) (data : List UInt8) : Io ω Int32 := do
  let data ← Io.check (copyOut 8 data)
  proto40hLedMapLoop P monome ((rotspec monome.rotation).mapCb t data) (List.range 8) 0

def proto40hLedLevelSet (x y level : UInt32) : Io ω Int32 := proto40hLedSet P monome x y (reduceLevelToBit level)

def proto40hLedLevelAll (level : UInt32) : Io ω Int32 := proto40hLedAll P (reduceLevelToBit level)

def proto40hLedLevelMap (xOff yOff : UInt32) (data : List UInt8) : Io ω Int32 := do
  let data ← Io.check (copyOut 64 data)
  let levels := (rotspec monome.rotation).levelMapCb (List.replicate 64 0) data
  proto40hLedMap t P monome xOff yOff (reduceMap levels)

def proto40hLedLevelRow (xOff row : UInt32) (count : Nat) (data : List UInt8) : Io ω Int32 := do
  let masks ← Io.check (reduceChunks 2 data (levelChunks count) 0)
  proto40hLedRow P monome xOff row (levelChunks count) masks

def proto40hLedLevelCol (col yOff : UInt32) (count : Nat) (data : List UInt8) : Io ω Int32 := do
  let masks ← Io.check (reduceChunks 2 data (levelChunks count) 0)
  proto40hLedCol P monome col yOff (levelChunks count) masks

def proto40hTiltEnable (sensor : UInt32) : Io ω Int32 := monomeWrite P [m40hAdcEnable, ((sensor <<< 4) + 1).toUInt8]
def proto40hTiltDisable (sensor : UInt32) : Io ω Int32 := monomeWrite P [m40hAdcEnable, ((sensor <<< 4) + 0).toUInt8]

structure M40h where
  parent : Monome
  tiltX : Int32
  tiltY : Int32
deriving DecidableEq, Repr

def m40hReading (b0 b1 : UInt8) : Int32 := ((((b0 &&& 0x3).toUInt32 <<< 8) ||| b1.toUInt32) / 4).toInt32

def m40hSwitch (self : M40h) (e : MonomeEvent) (buf : UInt8 × UInt8) : Except Fault (NextEvent M40h) := do
  if buf.1 = m40hButtonDown ∨ buf.1 = m40hButtonUp then
    let point ← unrotateCoords self.parent (buf.2 >>> 4).toUInt32 (buf.2 &&& 0xF).toUInt32
    return ⟨some 1, self, ⟨if buf.1 = m40hButtonDown then .buttonDown else .buttonUp, .grid point.1 point.2⟩⟩
  else if buf.1 = m40hAux1 ∨ buf.1 = m40hAux1 + 1 ∨ buf.1 = m40hAux1 + 2 ∨ buf.1 = m40hAux1 + 3 then
    let self := { self with tiltX := m40hReading buf.1 buf.2 }
    return ⟨some 1, self, tiltEvent self.tiltX self.tiltY⟩
  else if buf.1 = m40hAux2 ∨ buf.1 = m40hAux2 + 1 ∨ buf.1 = m40hAux2 + 2 ∨ buf.1 = m40hAux2 + 3 then
    let self := { self with tiltY := m40hReading buf.1 buf.2 }
    return ⟨some 1, self, tiltEvent self.tiltX self.tiltY⟩
  else
    return ⟨some 0, self, e⟩

def proto40hNextEvent (self : M40h) (e : MonomeEvent) : Io ω (NextEvent M40h) := do
  let read ← Io.call (P.read 2)
  if readShort read.status 2 then
    return ⟨some read.status.toInt32, self, e⟩
  else
    Io.check (m40hSwitch self e (readPair read.stored))

def proto40hOpen (self : M40h) (dev : String) (serial : Option String) (m : MonomeDevmap) : Io ω (Int32 × M40h) := do
  let self := { self with parent := { self.parent with
    rows := m.rows, cols := m.cols, serial := serial, friendly := .devmap m.friendly } }
  let status ← Io.call (P.openDevice m dev)
  return (status, self)

def proto40hClose : Io ω Int32 := Io.call P.close

end Libmonome
