import Libmonome.Platform
import Libmonome.Rotation

set_option autoImplicit false

namespace Libmonome

variable {ω : Type}

-- mext_subsystem_t and mext_cmd_t: plain bytes, since a header can carry any
-- nibble and one command value means different things in each subsystem and
-- direction.
def ssSystem : UInt8 := 0
def ssLedGrid : UInt8 := 1
def ssKeyGrid : UInt8 := 2
def ssEncoder : UInt8 := 5
def ssTilt : UInt8 := 8
def ssLedRing : UInt8 := 9

def cmdSystemQuery : UInt8 := 0x0
def cmdSystemGetId : UInt8 := 0x1
def cmdSystemSetId : UInt8 := 0x2
def cmdSystemGetOffsets : UInt8 := 0x3
def cmdSystemSetOffset : UInt8 := 0x4
def cmdSystemGetGridsz : UInt8 := 0x5
def cmdSystemSetGridsz : UInt8 := 0x6
def cmdSystemGetAddr : UInt8 := 0x7
def cmdSystemSetAddr : UInt8 := 0x8
def cmdSystemGetVersion : UInt8 := 0xF

def cmdSystemQueryResponse : UInt8 := 0x0
def cmdSystemId : UInt8 := 0x1
def cmdSystemGridOffset : UInt8 := 0x2
def cmdSystemGridsz : UInt8 := 0x3
def cmdSystemAddr : UInt8 := 0x4
def cmdSystemVersion : UInt8 := 0xF

def cmdLedOff : UInt8 := 0x0
def cmdLedOn : UInt8 := 0x1
def cmdLedAllOff : UInt8 := 0x2
def cmdLedAllOn : UInt8 := 0x3
def cmdLedMap : UInt8 := 0x4
def cmdLedRow : UInt8 := 0x5
def cmdLedColumn : UInt8 := 0x6
def cmdLedIntensity : UInt8 := 0x7
def cmdLedLevelSet : UInt8 := 0x8
def cmdLedLevelAll : UInt8 := 0x9
def cmdLedLevelMap : UInt8 := 0xA
def cmdLedLevelRow : UInt8 := 0xB
def cmdLedLevelColumn : UInt8 := 0xC

def cmdKeyUp : UInt8 := 0x0
def cmdKeyDown : UInt8 := 0x1

def cmdLedRingSet : UInt8 := 0x0
def cmdLedRingAll : UInt8 := 0x1
def cmdLedRingMap : UInt8 := 0x2
def cmdLedRingRange : UInt8 := 0x3
def cmdLedRingIntensity : UInt8 := 0x4

def cmdEncoderDelta : UInt8 := 0x0
def cmdEncoderSwitchUp : UInt8 := 0x1
def cmdEncoderSwitchDown : UInt8 := 0x2

def cmdTiltStateReq : UInt8 := 0x0
def cmdTiltEnable : UInt8 := 0x1
def cmdTiltDisable : UInt8 := 0x2

def cmdTiltStates : UInt8 := 0x0
def cmdTilt : UInt8 := 0x1

abbrev LengthTable := List (UInt8 × UInt8 × Nat)

def outgoingPayloadLengths : LengthTable := [
  (ssSystem, cmdSystemQuery, 0),
  (ssSystem, cmdSystemGetId, 0),
  (ssSystem, cmdSystemSetId, 32),
  (ssSystem, cmdSystemGetOffsets, 0),
  (ssSystem, cmdSystemSetOffset, 3),
  (ssSystem, cmdSystemGetGridsz, 0),
  (ssSystem, cmdSystemSetGridsz, 2),
  (ssSystem, cmdSystemGetAddr, 0),
  (ssSystem, cmdSystemSetAddr, 2),
  (ssSystem, cmdSystemGetVersion, 0),
  (ssLedGrid, cmdLedOn, 2),
  (ssLedGrid, cmdLedOff, 2),
  (ssLedGrid, cmdLedAllOn, 0),
  (ssLedGrid, cmdLedAllOff, 0),
  (ssLedGrid, cmdLedMap, 10),
  (ssLedGrid, cmdLedRow, 3),
  (ssLedGrid, cmdLedColumn, 3),
  (ssLedGrid, cmdLedIntensity, 1),
  (ssLedGrid, cmdLedLevelSet, 3),
  (ssLedGrid, cmdLedLevelAll, 1),
  (ssLedGrid, cmdLedLevelMap, 34),
  (ssLedGrid, cmdLedLevelRow, 6),
  (ssLedGrid, cmdLedLevelColumn, 6),
  (ssLedRing, cmdLedRingSet, 3),
  (ssLedRing, cmdLedRingAll, 2),
  (ssLedRing, cmdLedRingMap, 33),
  (ssLedRing, cmdLedRingRange, 4),
  (ssLedRing, cmdLedRingIntensity, 2),
  (ssTilt, cmdTiltStateReq, 0),
  (ssTilt, cmdTiltEnable, 1),
  (ssTilt, cmdTiltDisable, 1)]

def incomingPayloadLengths : LengthTable := [
  (ssSystem, cmdSystemQueryResponse, 2),
  (ssSystem, cmdSystemId, 32),
  (ssSystem, cmdSystemGridOffset, 3),
  (ssSystem, cmdSystemGridsz, 2),
  (ssSystem, cmdSystemAddr, 2),
  (ssSystem, cmdSystemVersion, 8),
  (ssKeyGrid, cmdKeyDown, 2),
  (ssKeyGrid, cmdKeyUp, 2),
  (ssEncoder, cmdEncoderDelta, 2),
  (ssEncoder, cmdEncoderSwitchUp, 1),
  (ssEncoder, cmdEncoderSwitchDown, 1),
  (ssTilt, cmdTiltStates, 1),
  (ssTilt, cmdTilt, 7)]

def payloadLength (table : LengthTable) (addr cmd : UInt8) : Nat :=
  match table.find? (fun entry => entry.1 = addr ∧ entry.2.1 = cmd) with
  | some entry => entry.2.2
  | none => 0

-- struct mext_msg. The payload union is its 66 bytes of storage, and a field
-- of a member is the byte at its offset in the packed record.
structure MextMsg where
  addr : UInt8
  cmd : UInt8
  header : UInt8
  payload : List UInt8
deriving DecidableEq, Repr

def payloadSize : Nat := 66

def MextMsg.fresh (addr cmd : UInt8) : MextMsg := ⟨addr, cmd, 0, List.replicate payloadSize 0⟩

def MextMsg.put (msg : MextMsg) (offset : Nat) (bytes : List UInt8) : MextMsg :=
  { msg with payload := msg.payload.take offset ++ bytes ++ msg.payload.drop (offset + bytes.length) }

def MextMsg.edit (msg : MextMsg) (offset : Nat) (f : List UInt8 → List UInt8) : MextMsg :=
  { msg with payload := msg.payload.take offset ++ f (msg.payload.drop offset) }

def MextMsg.byte (msg : MextMsg) (offset : Nat) : UInt8 := msg.payload.getD offset 0

-- Header and payload are adjacent in the packed record, so one write from the
-- header on sends both.
def MextMsg.wire (msg : MextMsg) : List UInt8 :=
  (((msg.addr &&& 0xF) <<< 4) ||| (msg.cmd &&& 0xF)) ::
    msg.payload.take (payloadLength outgoingPayloadLengths msg.addr msg.cmd)

def mextWriteMsg (P : Platform ω) (msg : MextMsg) : Io ω Int64 := Io.call (P.write msg.wire)

def mextReadMsg (P : Platform ω) (msg : MextMsg) : Io ω (Int64 × MextMsg) := do
  let head ← Io.call (P.read 1)
  let msg := { msg with header := head.stored.headD msg.header }
  if head.status ≤ 0 then
    return (head.status, msg)
  else
    let msg := { msg with addr := msg.header >>> 4, cmd := msg.header &&& 0xF }
    let length := payloadLength incomingPayloadLengths msg.addr msg.cmd
    if length = 0 then
      return (1, msg)
    else
      let body ← Io.call (P.read length)
      let msg := msg.put 0 body.stored
      if body.status ≠ Int64.ofNat length then
        return (-1, msg)
      else
        return (Int64.ofNat (1 + length), msg)

end Libmonome
