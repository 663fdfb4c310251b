import Libmonome.Mext.Output

set_option autoImplicit false

namespace Libmonome

variable {ω : Type} (P : Platform ω)

def mextNeedQuery : UInt32 := (1 : UInt32) <<< 0
def mextNeedId : UInt32 := (1 : UInt32) <<< 1
def mextNeedGridSize : UInt32 := (1 : UInt32) <<< 2

structure Mext where
  monome : Monome
  needResponses : UInt32
  id : List UInt8
deriving DecidableEq, Repr

-- monome_protocol_mext_new: calloc, and all three responses outstanding.
def mextNew : Mext where
  monome := { rows := 0, cols := 0, rotation := .rotate0, serial := none, friendly := .unset }
  needResponses := mextNeedQuery ||| mextNeedId ||| mextNeedGridSize
  id := List.replicate 33 0

-- The n bytes strncpy(dst, src, n) leaves in dst.
def strncpy (n : Nat) (src : List UInt8) : List UInt8 :=
  let text := (src.take n).takeWhile (fun b => b ≠ 0)
  text ++ List.replicate (n - text.length) 0

structure Handled where
  propagate : Bool
  self : Mext
  event : MonomeEvent

def mextHandlerNoop (self : Mext) (_msg : MextMsg) (e : MonomeEvent) : Except Fault Handled := .ok ⟨false, self, e⟩

def mextHandlerSystem (self : Mext) (msg : MextMsg) (e : MonomeEvent) : Except Fault Handled :=
  if msg.cmd = cmdSystemQueryResponse then
    .ok ⟨false, { self with needResponses := self.needResponses &&& ~~~mextNeedQuery }, e⟩
  else if msg.cmd = cmdSystemId then
    .ok ⟨false, { self with
      id := strncpy 32 msg.payload ++ [0]
      monome := { self.monome with friendly := .selfId }
      needResponses := self.needResponses &&& ~~~mextNeedId }, e⟩
  else if msg.cmd = cmdSystemGridsz then
    .ok ⟨false, { self with
      monome := { self.monome with cols := (msg.byte 0).toUInt32.toInt32, rows := (msg.byte 1).toUInt32.toInt32 }
      needResponses := self.needResponses &&& ~~~mextNeedGridSize }, e⟩
  else
    .ok ⟨false, self, e⟩

def mextHandlerKeyGrid (self : Mext) (msg : MextMsg) (_e : MonomeEvent) : Except Fault Handled := do
  let point ← unrotateCoords self.monome (msg.byte 0).toUInt32 (msg.byte 1).toUInt32
  return ⟨true, self, ⟨if msg.cmd = cmdKeyDown then .buttonDown else .buttonUp, .grid point.1 point.2⟩⟩

def mextHandlerEncoder (self : Mext) (msg : MextMsg) (e : MonomeEvent) : Except Fault Handled :=
  let number := (msg.byte 0).toUInt32
  if msg.cmd = cmdEncoderDelta then
    .ok ⟨true, self, ⟨.encoderDelta, .encoder number (msg.byte 1).toInt8.toInt32⟩⟩
  else if msg.cmd = cmdEncoderSwitchDown then
    .ok ⟨true, self, ⟨.encoderKeyDown, .encoder number 0⟩⟩
  else if msg.cmd = cmdEncoderSwitchUp then
    .ok ⟨true, self, ⟨.encoderKeyUp, .encoder number 0⟩⟩
  else
    .ok ⟨false, self, e⟩

-- A packed int16_t field as the host reads it: low byte first, or in a
-- big-endian build the high one.
def MextMsg.int16 [t : Target] (msg : MextMsg) (offset : Nat) : Int16 :=
  let first := (msg.byte offset).toUInt16
  let second := (msg.byte (offset + 1)).toUInt16
  (if t.bigEndian then second ||| first <<< 8 else first ||| second <<< 8).toInt16

def mextHandlerTilt [t : Target] (self : Mext) (msg : MextMsg) (e : MonomeEvent) : Except Fault Handled :=
  if msg.cmd = cmdTilt then
    .ok ⟨true, self, ⟨.tilt, .tilt (msg.byte 0).toUInt32 (msg.int16 1).toInt32 (msg.int16 3).toInt32
      (msg.int16 5).toInt32⟩⟩
  else
    .ok ⟨false, self, e⟩

def subsystemEventHandlers [t : Target] (addr : UInt8) : Mext → MextMsg → MonomeEvent → Except Fault Handled :=
  if addr = ssSystem then mextHandlerSystem
  else if addr = ssKeyGrid then mextHandlerKeyGrid
  else if addr = ssEncoder then mextHandlerEncoder
  else if addr = ssTilt then mextHandlerTilt
  else mextHandlerNoop

-- The fuel is the number of frames the call may still read.
def mextNextEventLoop [t : Target] : Nat → MextMsg → Mext → MonomeEvent → Io ω (NextEvent Mext)
  | 0, _, self, e => return ⟨none, self, e⟩
  | fuel + 1, msg, self, e => do
      let read ← mextReadMsg P msg
      if read.1 ≤ 0 then
        return ⟨some read.1.toInt32, self, e⟩
      else if read.2.addr = ssSystem then
        let h ← Io.check (subsystemEventHandlers 0 self read.2 e)
        mextNextEventLoop fuel read.2 h.self h.event
      else
        let h ← Io.check (subsystemEventHandlers read.2.addr self read.2 e)
        if h.propagate then
          return ⟨some 1, h.self, h.event⟩
        else
          mextNextEventLoop fuel read.2 h.self h.event

def mextNextEvent [t : Target] (fuel : Nat) (self : Mext) (e : MonomeEvent) : Io ω (NextEvent Mext) :=
  mextNextEventLoop P fuel (.fresh 0 0) self e

-- The queries still unanswered are written in order, each only if the ones
-- before it went out whole.
def mextQueryPending (self : Mext) : Io ω Int32 := do
  let query ← if self.needResponses &&& mextNeedQuery ≠ 0 then mextSimpleCmd P cmdSystemQuery else pure 1
  if query ≠ 1 then
    return -1
  else
    let getId ← if self.needResponses &&& mextNeedId ≠ 0 then mextSimpleCmd P cmdSystemGetId else pure 1
    if getId ≠ 1 then
      return -1
    else
      let getGridsz ← if self.needResponses &&& mextNeedGridSize ≠ 0 then mextSimpleCmd P cmdSystemGetGridsz else pure 1
      if getGridsz ≠ 1 then
        return -1
      else
        return 0

def mextHandshakeTimeoutMs : UInt64 := 1000
def mextHandshakeRetryMs : UInt64 := 250
def mextHandshakeWaitSliceMs : UInt32 := 25

-- The wait of one iteration: a slice, cut to the deadline, and to the retry
-- time while that is still to come.
def mextWaitMs (now deadline retryAt : UInt64) (retried : Bool) : UInt32 :=
  let waitMs := mextHandshakeWaitSliceMs
  let waitMs := if deadline - now < waitMs.toUInt64 then (deadline - now).toUInt32 else waitMs
  if ¬ retried ∧ retryAt > now ∧ retryAt - now < waitMs.toUInt64 then (retryAt - now).toUInt32 else waitMs

structure MextOpened where
  status : Option Int32
  self : Mext
deriving DecidableEq, Repr

def mextOpenFail (self : Mext) : Io ω MextOpened := do
  let _ ← Io.call P.close
  return ⟨some (-1), self⟩

-- The handshake loop. The fuel bounds its iterations and the frames of each
-- next_event call in it.
def mextHandshake [t : Target] (deadline retryAt : UInt64) : Nat → Bool → Mext → MonomeEvent → Io ω MextOpened
  | 0, _, self, _ => return ⟨none, self⟩
  | fuel + 1, retried, self, e => do
      if self.needResponses = 0 then
        return ⟨some 0, self⟩
      else
        let now ← Io.call P.monotonicMilliseconds
        if now ≥ deadline then
          mextOpenFail P self
        else
          let retry := ¬ retried ∧ now ≥ retryAt
          let queried ← if retry then mextQueryPending P self else pure 0
          if queried < 0 then
            mextOpenFail P self
          else
            let retried := retried || decide retry
            let waitStatus ← Io.call (P.waitForInput (mextWaitMs now deadline retryAt retried))
            if waitStatus < 0 then
              mextOpenFail P self
            else if waitStatus = 0 then
              let next ← mextNextEvent P fuel self e
              match next.status with
              | none => return ⟨none, next.self⟩
              | some status =>
                  if status < 0 then
                    mextOpenFail P next.self
                  else
                    mextHandshake deadline retryAt fuel retried next.self next.event
            else
              mextHandshake deadline retryAt fuel retried self e

-- The event record on mext_open's stack starts out with whatever is there.
def mextOpen [t : Target] (fuel : Nat) (self : Mext) (e : MonomeEvent) (dev : String) (serial : Option String)
    (m : MonomeDevmap) :
    Io ω MextOpened := do
  let opened ← Io.call (P.openDevice m dev)
  if opened ≠ 0 then
    return ⟨some (-1), self⟩
  else
    let self := { self with monome := { self.monome with serial := serial, friendly := .devmap m.friendly } }
    let start ← Io.call P.monotonicMilliseconds
    let deadline := start + mextHandshakeTimeoutMs
    let retryAt := start + mextHandshakeRetryMs
    let queried ← mextQueryPending P self
    if queried < 0 then
      mextOpenFail P self
    else
      mextHandshake P deadline retryAt fuel false self e

def mextClose : Io ω Int32 := Io.call P.close

end Libmonome
