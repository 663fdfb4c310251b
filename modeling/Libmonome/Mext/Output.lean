import Libmonome.Mext.Protocol

set_option autoImplicit false

namespace Libmonome

variable {ω : Type} (t : Target) (P : Platform ω) (monome : Monome)

def mextSimpleCmd (cmd : UInt8) : Io ω Int64 := mextWriteMsg P (.fresh ssSystem cmd)

def mextLedRowColMsg (cmd : UInt8) (x y : UInt32) (data : UInt8) : MextMsg :=
  let cmd := if hasFlag monome rowColSwap then cNot (cmd - cmdLedRow) + cmdLedRow else cmd
  let point := rotateCoords monome x y
  (MextMsg.fresh ssLedGrid cmd).put 0 [point.1.toUInt8, point.2.toUInt8, data]

def mextLedRowCol (cmd : UInt8) (x y : UInt32) (data : UInt8) : Io ω Int64 :=
  mextWriteMsg P (mextLedRowColMsg monome cmd x y data)

def revcopy (src : List UInt8) : List UInt8 := (src.take 8).reverse

-- In place: entry i is written from entries 2i and 2i+1 of the same array.
def packNybbles (nbyte : Nat) (data : List UInt8) : List UInt8 :=
  (List.range nbyte).foldl
    (fun data i => data.set i ((data.getD (i * 2) 0 <<< 4) ||| (data.getD (i * 2 + 1) 0 &&& 0x0F))) data

def mextLedLevelRowColMsg (cmd : UInt8) (rev : Bool) (x y : UInt32) (data : List UInt8) : MextMsg :=
  let cmd := if hasFlag monome rowColSwap then cNot (cmd - cmdLedLevelRow) + cmdLedLevelRow else cmd
  let point := rotateCoords monome x y
  let levels := if rev then revcopy data else data.take 8
  (((MextMsg.fresh ssLedGrid cmd).put 0 [point.1.toUInt8, point.2.toUInt8]).put 2 levels).edit 2 (packNybbles 4)

def mextLedLevelRowCol (cmd : UInt8) (rev : Bool) (x y : UInt32) (data : List UInt8) : Io ω Int64 := do
  let levels ← Io.check (copyOut 8 data)
  mextWriteMsg P (mextLedLevelRowColMsg monome cmd rev x y levels)

def mextLedSet (x y on : UInt32) : Io ω Int32 := do
  let point := rotateCoords monome x y
  let status ← mextWriteMsg P
    ((MextMsg.fresh ssLedGrid (if on ≠ 0 then cmdLedOn else cmdLedOff)).put 0 [point.1.toUInt8, point.2.toUInt8])
  return status.toInt32

def mextLedAll (status : UInt32) : Io ω Int32 := do
  let status ← mextWriteMsg P (.fresh ssLedGrid (if status ≠ 0 then cmdLedAllOn else cmdLedAllOff))
  return status.toInt32

def mextLedMapMsg (xOff yOff : UInt32) (data : List UInt8) : MextMsg :=
  let data := (rotspec monome.rotation).mapCb t data
  let point := rotateCoords monome xOff yOff
  ((MextMsg.fresh ssLedGrid cmdLedMap).put 2 data).put 0 [point.1.toUInt8, point.2.toUInt8]

def mextLedMap (xOff yOff : UInt32) (data : List UInt8) : Io ω Int32 := do
  let data ← Io.check (copyOut 8 data)
  let status ← mextWriteMsg P (mextLedMapMsg t monome xOff yOff data)
  return status.toInt32

-- The loops of led_row and led_col; the write's own result is dropped.
def mextLedRowLoop (rev : Bool) (y : UInt32) : Nat → UInt32 → List UInt8 → Io ω Unit
  | 0, _, _ => pure ()
  | count + 1, xOff, data => do
      let b ← Io.check (deref data)
      let _ ← mextLedRowCol P monome cmdLedRow xOff y (if rev then reverseByte b else b)
      mextLedRowLoop rev y count (xOff + 8) (data.drop 1)

def mextLedRow (xOff y : UInt32) (count : Nat) (data : List UInt8) : Io ω Int32 := do
  mextLedRowLoop P monome (hasFlag monome rowRevbits) y count xOff data
  return 1

def mextLedColLoop (rev : Bool) (x : UInt32) : Nat → UInt32 → List UInt8 → Io ω Unit
  | 0, _, _ => pure ()
  | count + 1, yOff, data => do
      let b ← Io.check (deref data)
      let _ ← mextLedRowCol P monome cmdLedColumn x yOff (if rev then reverseByte b else b)
      mextLedColLoop rev x count (yOff + 8) (data.drop 1)

def mextLedCol (x yOff : UInt32) (count : Nat) (data : List UInt8) : Io ω Int32 := do
  mextLedColLoop P monome (hasFlag monome colRevbits) x count yOff data
  return 1

def mextLedIntensity (intensity : UInt32) : Io ω Int32 := do
  let status ← mextWriteMsg P ((MextMsg.fresh ssLedGrid cmdLedIntensity).put 0 [(intensity &&& 0xF).toUInt8])
  return status.toInt32

def mextLedLevelSet (x y level : UInt32) : Io ω Int32 := do
  let msg := (MextMsg.fresh ssLedGrid cmdLedLevelSet).put 2 [level.toUInt8]
  let point := rotateCoords monome x y
  let status ← mextWriteMsg P (msg.put 0 [point.1.toUInt8, point.2.toUInt8])
  return status.toInt32

def mextLedLevelAll (level : UInt32) : Io ω Int32 := do
  let status ← mextWriteMsg P ((MextMsg.fresh ssLedGrid cmdLedLevelAll).put 0 [level.toUInt8])
  return status.toInt32

def mextLedLevelMapMsg (xOff yOff : UInt32) (data : List UInt8) : MextMsg :=
  let point := rotateCoords monome xOff yOff
  let msg := (MextMsg.fresh ssLedGrid cmdLedLevelMap).edit 2 fun levels =>
    packNybbles 32 ((rotspec monome.rotation).levelMapCb levels data)
  msg.put 0 [point.1.toUInt8, point.2.toUInt8]

def mextLedLevelMap (xOff yOff : UInt32) (data : List UInt8) : Io ω Int32 := do
  let data ← Io.check (copyOut 64 data)
  let status ← mextWriteMsg P (mextLedLevelMapMsg monome xOff yOff data)
  return status.toInt32

def mextLedLevelRowLoop (rev : Bool) (row : UInt32) : Nat → UInt32 → List UInt8 → Io ω Unit
  | 0, _, _ => pure ()
  | count + 1, xOff, data => do
      let _ ← mextLedLevelRowCol P monome cmdLedLevelRow rev xOff row data
      mextLedLevelRowLoop rev row count (xOff + 8) (data.drop 8)

def mextLedLevelRow (xOff row : UInt32) (count : Nat) (data : List UInt8) : Io ω Int32 := do
  mextLedLevelRowLoop P monome (hasFlag monome rowRevbits) row (count >>> 3) xOff data
  return 1

def mextLedLevelColLoop (rev : Bool) (col : UInt32) : Nat → UInt32 → List UInt8 → Io ω Unit
  | 0, _, _ => pure ()
  | count + 1, yOff, data => do
      let _ ← mextLedLevelRowCol P monome cmdLedLevelColumn rev col yOff data
      mextLedLevelColLoop rev col count (yOff + 8) (data.drop 8)

def mextLedLevelCol (col yOff : UInt32) (count : Nat) (data : List UInt8) : Io ω Int32 := do
  mextLedLevelColLoop P monome (hasFlag monome colRevbits) col (count >>> 3) yOff data
  return 1

def mextLedRingSet (ring led level : UInt32) : Io ω Int32 := do
  let status ← mextWriteMsg P
    ((MextMsg.fresh ssLedRing cmdLedRingSet).put 0 [ring.toUInt8, led.toUInt8, level.toUInt8])
  return status.toInt32

def mextLedRingAll (ring level : UInt32) : Io ω Int32 := do
  let status ← mextWriteMsg P ((MextMsg.fresh ssLedRing cmdLedRingAll).put 0 [ring.toUInt8, level.toUInt8])
  return status.toInt32

def mextLedRingMap (ring : UInt32) (levels : List UInt8) : Io ω Int32 := do
  let levels ← Io.check (copyOut 64 levels)
  let msg := (((MextMsg.fresh ssLedRing cmdLedRingMap).put 0 [ring.toUInt8]).put 1 levels).edit 1 (packNybbles 32)
  let status ← mextWriteMsg P msg
  return status.toInt32

def mextLedRingRange (ring start stop level : UInt32) : Io ω Int32 := do
  let status ← mextWriteMsg P ((MextMsg.fresh ssLedRing cmdLedRingRange).put 0
    [ring.toUInt8, start.toUInt8, stop.toUInt8, level.toUInt8])
  return status.toInt32

def mextLedRingIntensity (brightness : UInt32) : Io ω Int32 := do
  let status ← mextWriteMsg P
    ((MextMsg.fresh ssLedRing cmdLedRingIntensity).put 0 [(brightness &&& 0xF).toUInt8])
  return status.toInt32

def mextTiltEnable (sensor : UInt32) : Io ω Int32 := do
  let status ← mextWriteMsg P ((MextMsg.fresh ssTilt cmdTiltEnable).put 0 [sensor.toUInt8])
  return status.toInt32

def mextTiltDisable (sensor : UInt32) : Io ω Int32 := do
  let status ← mextWriteMsg P ((MextMsg.fresh ssTilt cmdTiltDisable).put 0 [sensor.toUInt8])
  return status.toInt32

end Libmonome
