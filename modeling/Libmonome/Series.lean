import Libmonome.Monobright
import Libmonome.Rotation

set_option autoImplicit false

namespace Libmonome

variable {ω : Type} (t : Target) (P : Platform ω) (monome : Monome)

-- proto_series_message_t. Input and output codes share values.
def seriesButtonDown : UInt8 := 0x00
def seriesButtonUp : UInt8 := 0x10
def seriesTilt : UInt8 := 0xD0

def seriesLedOn : UInt8 := 0x20
def seriesLedRow8 : UInt8 := 0x40
def seriesLedCol8 : UInt8 := 0x50
def seriesLedRow16 : UInt8 := 0x60
def seriesLedCol16 : UInt8 := 0x70
def seriesLedFrame : UInt8 := 0x80
def seriesClear : UInt8 := 0x90
def seriesIntensity : UInt8 := 0xA0

-- monome_write of series.c and 40h.c.
def monomeWrite (buf : List UInt8) : Io ω Int32 := do
  let status ← Io.call (P.write buf)
  return if status = Int64.ofNat buf.length then 0 else -1

-- The end both cases of led_col_row share: a swapping rotation turns the mode
-- of a pair into the other one, and the low four bits carry the address.
def seriesModeByte (base mode : UInt8) (address : UInt32) : UInt8 :=
  let mode := if hasFlag monome rowColSwap then (cNot (mode - base) <<< 4) + base else mode
  mode ||| (address &&& 0x0F).toUInt8

-- The address is rotated as a pair with itself; the row or column wanted is
-- one component of the result.
def seriesRowAddress (address : UInt32) : UInt32 :=
  let point := rotateCoords monome address address
  if hasFlag monome rowColSwap then point.1 else point.2

def seriesColAddress (address : UInt32) : UInt32 :=
  let point := rotateCoords monome address address
  if hasFlag monome rowColSwap then point.2 else point.1

def protoSeriesLedColRow8 (mode : UInt8) (address : UInt32) (data : List UInt8) : Io ω Int32 := do
  if mode = seriesLedRow8 then
    let b ← Io.check (deref data)
    monomeWrite P [seriesModeByte monome seriesLedRow8 mode (seriesRowAddress monome address),
      if hasFlag monome rowRevbits then reverseByte b else b]
  else if mode = seriesLedCol8 then
    let b ← Io.check (deref data)
    monomeWrite P [seriesModeByte monome seriesLedRow8 mode (seriesColAddress monome address),
      if hasFlag monome colRevbits then reverseByte b else b]
  else
    return -1

-- The two data bytes of a 16-wide message, as each build lays them out.
def seriesPair (rev : Bool) (data0 data1 : UInt8) : List UInt8 :=
  if t.bigEndian then
    if rev then [reverseByte data0, reverseByte data1] else [data1, data0]
  else
    if rev then [reverseByte data1, reverseByte data0] else [data0, data1]

def protoSeriesLedColRow16 (mode : UInt8) (address : UInt32) (data : List UInt8) : Io ω Int32 := do
  if mode = seriesLedRow16 then
    let pair ← Io.check (copyOut 2 data)
    monomeWrite P (seriesModeByte monome seriesLedRow16 mode (seriesRowAddress monome address) ::
      seriesPair t (hasFlag monome rowRevbits) (pair.getD 0 0) (pair.getD 1 0))
  else if mode = seriesLedCol16 then
    let pair ← Io.check (copyOut 2 data)
    monomeWrite P (seriesModeByte monome seriesLedRow16 mode (seriesColAddress monome address) ::
      seriesPair t (hasFlag monome colRevbits) (pair.getD 0 0) (pair.getD 1 0))
  else
    return -1

def protoSeriesLedAll (status : UInt32) : Io ω Int32 := monomeWrite P [seriesClear ||| (status &&& 0x01).toUInt8]

def protoSeriesLedIntensity (brightness : UInt32) : Io ω Int32 :=
  monomeWrite P [seriesIntensity ||| (brightness &&& 0x0F).toUInt8]

def protoSeriesLedSet (x y on : UInt32) : Io ω Int32 :=
  let point := rotateCoords monome x y
  monomeWrite P [seriesLedOn + ((if on = 0 then (1 : UInt8) else 0) <<< 4), ((point.1 <<< 4) ||| point.2).toUInt8]

-- A byte widened to uint16_t and read back byte by byte.
def widened (b : UInt8) : List UInt8 := if t.bigEndian then [0, b] else [b, 0]

def protoSeriesLedCol (x _yOff : UInt32) (count : Nat) (data : List UInt8) : Io ω Int32 := do
  if monomeGetRows monome > 8 then
    if count > 1 then
      protoSeriesLedColRow16 t P monome seriesLedCol16 x data
    else
      let b ← Io.check (deref data)
      protoSeriesLedColRow16 t P monome seriesLedCol16 x (widened t b)
  else
    protoSeriesLedColRow8 P monome seriesLedCol8 x data

def protoSeriesLedRow (_xOff y : UInt32) (count : Nat) (data : List UInt8) : Io ω Int32 := do
  if monomeGetCols monome > 8 then
    if count > 1 then
      protoSeriesLedColRow16 t P monome seriesLedRow16 y data
    else
      let b ← Io.check (deref data)
      protoSeriesLedColRow16 t P monome seriesLedRow16 y (widened t b)
  else
    protoSeriesLedColRow8 P monome seriesLedRow8 y data

def protoSeriesLedMap (xOff yOff : UInt32) (data : List UInt8) : Io ω Int32 := do
  let data ← Io.check (copyOut 8 data)
  let point := rotateCoords monome xOff yOff
  let quadrant := point.1 / 8 + point.2 / 8 * 2
  monomeWrite P ((seriesLedFrame ||| (quadrant &&& 0x03).toUInt8) :: (rotspec monome.rotation).mapCb t data)

def protoSeriesLedLevelSet (x y level : UInt32) : Io ω Int32 := protoSeriesLedSet P monome x y (reduceLevelToBit level)

def protoSeriesLedLevelAll (level : UInt32) : Io ω Int32 := protoSeriesLedAll P (reduceLevelToBit level)

def protoSeriesLedLevelMap (xOff yOff : UInt32) (data : List UInt8) : Io ω Int32 := do
  let data ← Io.check (copyOut 64 data)
  let levels := (rotspec monome.rotation).levelMapCb (List.replicate 64 0) data
  protoSeriesLedMap t P monome xOff yOff (reduceMap levels)

-- led_row gets masks as far as it is written: an entry beyond that is garbage,
-- and reading it a fault like reading past the end.
def protoSeriesLedLevelRow (xOff row : UInt32) (count : Nat) (data : List UInt8) : Io ω Int32 := do
  let masks ← Io.check (reduceChunks 16 data (levelChunks count) 0)
  protoSeriesLedRow t P monome xOff row (levelChunks count) masks

def protoSeriesLedLevelCol (col yOff : UInt32) (count : Nat) (data : List UInt8) : Io ω Int32 := do
  let masks ← Io.check (reduceChunks 16 data (levelChunks count) 0)
  protoSeriesLedCol t P monome col yOff (levelChunks count) masks

def protoSeriesTiltEnable (_sensor : UInt32) : Io ω Int32 := monomeWrite P [193]
def protoSeriesTiltDisable (_sensor : UInt32) : Io ω Int32 := monomeWrite P [192]

structure Series where
  monome : Monome
  tiltX : Int32
  tiltY : Int32
deriving DecidableEq, Repr

-- The first bytes of a two-byte message buffer set to zero, after a read.
def readPair (stored : List UInt8) : UInt8 × UInt8 := (stored.getD 0 0, stored.getD 1 0)

-- read < sizeof(buf) compares as size_t, so a negative status is a huge count.
def readShort (status : Int64) (size : Nat) : Bool := status.toUInt64 < UInt64.ofNat size

def tiltEvent (x y : Int32) : MonomeEvent := ⟨.tilt, .tilt 0 x y 0⟩

def seriesSwitch (self : Series) (e : MonomeEvent) (buf : UInt8 × UInt8) : Except Fault (NextEvent Series) := do
  if buf.1 = seriesButtonDown ∨ buf.1 = seriesButtonUp then
    let point ← unrotateCoords self.monome (buf.2 >>> 4).toUInt32 (buf.2 &&& 0x0F).toUInt32
    return ⟨some 1, self, ⟨if buf.1 = seriesButtonDown then .buttonDown else .buttonUp, .grid point.1 point.2⟩⟩
  else if buf.1 = seriesTilt then
    let self := { self with tiltX := buf.2.toUInt32.toInt32 }
    return ⟨some 1, self, tiltEvent self.tiltX self.tiltY⟩
  else if buf.1 = seriesTilt + 1 then
    let self := { self with tiltY := buf.2.toUInt32.toInt32 }
    return ⟨some 1, self, tiltEvent self.tiltX self.tiltY⟩
  else
    return ⟨some 0, self, e⟩

def protoSeriesNextEvent (self : Series) (e : MonomeEvent) : Io ω (NextEvent Series) := do
  let read ← Io.call (P.read 2)
  if readShort read.status 2 then
    return ⟨some read.status.toInt32, self, e⟩
  else
    Io.check (seriesSwitch self e (readPair read.stored))

def protoSeriesOpen (self : Series) (dev : String) (serial : Option String) (m : MonomeDevmap) :
    Io ω (Int32 × Series) := do
  let self := { self with monome := { self.monome with
    rows := m.rows, cols := m.cols, serial := serial, friendly := .devmap m.friendly } }
  let status ← Io.call (P.openDevice m dev)
  return (status, self)

def protoSeriesClose : Io ω Int32 := Io.call P.close

end Libmonome
