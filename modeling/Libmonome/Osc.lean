import Libmonome.Output

set_option autoImplicit false

namespace Libmonome

variable {ω : Type}

-- A message as liblo carries it. Every argument the library and its tools send
-- is an int32.
structure OscMessage where
  path : String
  types : String
  args : List Int32
deriving DecidableEq, Repr

-- The functions of liblo the osc backend calls once it is open: lo_send_from
-- to the outgoing address, and lo_server_recv_noblock, which takes one message
-- off the server's socket if there is one.
structure Liblo (ω : Type) where
  sendFrom : OscMessage → ω → Int32 × ω
  recvNoblock : ω → Option OscMessage × ω

structure MonomeOsc where
  parent : Monome
  pathPrefix : String
  ledSetStr : String
  ledAllStr : String
  ledMapStr : String
  ledColStr : String
  ledRowStr : String
  ledIntensityStr : String
  ringSetStr : String
  ringAllStr : String
  ringMapStr : String
  ringRangeStr : String
deriving DecidableEq, Repr

inductive OscHandler where
  | press
  | delta
  | encKey
deriving DecidableEq, Repr

structure OscMethod where
  path : String
  types : String
  handler : OscHandler
deriving DecidableEq, Repr

-- The methods proto_osc_open adds, and the paths it caches.
def oscMethods (pathPrefix : String) : List OscMethod :=
  [⟨pathPrefix ++ "/grid/key", "iii", .press⟩,
   ⟨pathPrefix ++ "/enc/delta", "ii", .delta⟩,
   ⟨pathPrefix ++ "/enc/key", "ii", .encKey⟩]

def cacheOscPaths (parent : Monome) (pathPrefix : String) : MonomeOsc where
  parent := parent
  pathPrefix := pathPrefix
  ledSetStr := pathPrefix ++ "/" ++ "grid/led/set"
  ledAllStr := pathPrefix ++ "/" ++ "grid/led/all"
  ledMapStr := pathPrefix ++ "/" ++ "grid/led/map"
  ledColStr := pathPrefix ++ "/" ++ "grid/led/col"
  ledRowStr := pathPrefix ++ "/" ++ "grid/led/row"
  ledIntensityStr := pathPrefix ++ "/" ++ "grid/led/intensity"
  ringSetStr := pathPrefix ++ "/" ++ "ring/set"
  ringAllStr := pathPrefix ++ "/" ++ "ring/all"
  ringMapStr := pathPrefix ++ "/" ++ "ring/map"
  ringRangeStr := pathPrefix ++ "/" ++ "ring/range"

-- The second word of the event record's union, where encoder.delta lies.
def EventPayload.secondWord : EventPayload → Int32
  | grid _ y => y.toInt32
  | encoder _ delta => delta
  | tilt _ x _ _ => x

-- The three handlers on the event record of the call that receives. The type
-- tags a method is added with say how many arguments there are.
def OscHandler.run (handler : OscHandler) (argv : List Int32) (e : MonomeEvent) : MonomeEvent :=
  match handler with
  | press =>
      ⟨if argv.getD 2 0 &&& 1 = 0 then .buttonUp else .buttonDown,
        .grid (argv.getD 0 0).toUInt32 (argv.getD 1 0).toUInt32⟩
  | delta => ⟨.encoderDelta, .encoder (argv.getD 0 0).toUInt32 (argv.getD 1 0)⟩
  | encKey =>
      ⟨if argv.getD 1 0 = 0 then .encoderKeyUp else .encoderKeyDown,
        .encoder (argv.getD 0 0).toUInt32 e.payload.secondWord⟩

-- liblo gives a message to the methods whose path and type tags are its own;
-- every handler here answers 0, which ends the search.
def oscReceive (methods : List OscMethod) (message : OscMessage) : Option OscMethod :=
  methods.find? fun method => method.path = message.path ∧ method.types = message.types

section Backend

variable (lo : Liblo ω) (self : MonomeOsc)

def loSendMsg (path types : String) (args : List Int32) : Io ω Int32 := Io.call (lo.sendFrom ⟨path, types, args⟩)

def byteArg (b : UInt8) : Int32 := b.toUInt32.toInt32

def protoOscLedSet (x y on : UInt32) : Io ω Int32 :=
  loSendMsg lo self.ledSetStr "iii" [x.toInt32, y.toInt32, if on = 0 then 0 else 1]

def protoOscLedAll (status : UInt32) : Io ω Int32 := loSendMsg lo self.ledAllStr "i" [status.toInt32]

def protoOscLedRow (xOff y : UInt32) (count : Nat) (data : List UInt8) : Io ω Int32 := do
  if count = 1 then
    let b ← Io.check (deref data)
    loSendMsg lo self.ledRowStr "iii" [xOff.toInt32, y.toInt32, byteArg b]
  else
    let pair ← Io.check (copyOut 2 data)
    loSendMsg lo self.ledRowStr "iiii" ([xOff.toInt32, y.toInt32] ++ pair.map byteArg)

def protoOscLedCol (x yOff : UInt32) (count : Nat) (data : List UInt8) : Io ω Int32 := do
  if count = 1 then
    let b ← Io.check (deref data)
    loSendMsg lo self.ledColStr "iii" [x.toInt32, yOff.toInt32, byteArg b]
  else
    let pair ← Io.check (copyOut 2 data)
    loSendMsg lo self.ledColStr "iiii" ([x.toInt32, yOff.toInt32] ++ pair.map byteArg)

def protoOscLedMap (xOff yOff : UInt32) (data : List UInt8) : Io ω Int32 := do
  let f ← Io.check (copyOut 8 data)
  loSendMsg lo self.ledMapStr "iiiiiiiiii" ([xOff.toInt32, yOff.toInt32] ++ f.map byteArg)

def protoOscLedIntensity (brightness : UInt32) : Io ω Int32 :=
  loSendMsg lo self.ledIntensityStr "i" [brightness.toInt32]

def protoOscLedRingSet (ring led level : UInt32) : Io ω Int32 :=
  loSendMsg lo self.ringSetStr "iii" [ring.toInt32, led.toInt32, level.toInt32]

def protoOscLedRingAll (ring level : UInt32) : Io ω Int32 :=
  loSendMsg lo self.ringAllStr "ii" [ring.toInt32, level.toInt32]

def protoOscLedRingMap (ring : UInt32) (levels : List UInt8) : Io ω Int32 := do
  let levels ← Io.check (copyOut 64 levels)
  loSendMsg lo self.ringMapStr (String.ofList (List.replicate 65 'i')) (ring.toInt32 :: levels.map byteArg)

def protoOscLedRingRange (ring start stop level : UInt32) : Io ω Int32 :=
  loSendMsg lo self.ringRangeStr "iiii" [ring.toInt32, start.toInt32, stop.toInt32, level.toInt32]

-- There is no table of level or tilt functions, and the ring table's intensity
-- entry is null.
def protoOscOutput : OutputCall → Io ω Int32
  | .ledSet x y on => protoOscLedSet lo self x y on
  | .ledAll status => protoOscLedAll lo self status
  | .ledMap xOff yOff data => protoOscLedMap lo self xOff yOff data
  | .ledRow xOff y count data => protoOscLedRow lo self xOff y count data
  | .ledCol x yOff count data => protoOscLedCol lo self x yOff count data
  | .ledIntensity brightness => protoOscLedIntensity lo self brightness
  | .ledLevelSet _ _ _ | .ledLevelAll _ | .ledLevelMap _ _ _ | .ledLevelRow _ _ _ _ | .ledLevelCol _ _ _ _ => pure (-1)
  | .ledRingSet ring led level => protoOscLedRingSet lo self ring led level
  | .ledRingAll ring level => protoOscLedRingAll lo self ring level
  | .ledRingMap ring levels => protoOscLedRingMap lo self ring levels
  | .ledRingRange ring start stop level => protoOscLedRingRange lo self ring start stop level
  | .ledRingIntensity _ => Io.check (.error .nullCall)
  | .tiltEnable _ | .tiltDisable _ => pure (-1)

end Backend

-- lo_server_recv_noblock at the level of packets: it takes one off the socket,
-- a single message or a bundle, and hands its messages over one by one.
structure LibloServer (ω : Type) where
  takePacket : ω → Option (List OscMessage) × ω

-- A socket whose packets are single messages.
def Liblo.packets {ω : Type} (lo : Liblo ω) : LibloServer ω where
  takePacket w := ((lo.recvNoblock w).1.map fun message => [message], (lo.recvNoblock w).2)

-- The fields of monome_osc_t next_event and the handlers share.
structure OscReception where
  ePtr : Option MonomeEvent
  haveEvent : Int32
deriving DecidableEq, Repr

-- proto_osc_press_handler, proto_osc_delta_handler and proto_osc_enc_key_handler:
-- without a record to fill they answer 1, which lets the search go on.
def OscHandler.call (handler : OscHandler) (argv : List Int32) (self : OscReception) : Int32 × OscReception :=
  match self.ePtr with
  | none => (1, self)
  | some e => (0, ⟨some (handler.run argv e), 1⟩)

-- One message goes to each method whose path and type tags are its own, until a
-- handler answers 0.
def dispatchMessage (message : OscMessage) : List OscMethod → OscReception → OscReception
  | [], self => self
  | method :: rest, self =>
      if method.path = message.path ∧ method.types = message.types then
        let answer := method.handler.call message.args self
        if answer.1 = 0 then answer.2 else dispatchMessage message rest answer.2
      else dispatchMessage message rest self

def dispatchPacket (methods : List OscMethod) (packet : List OscMessage) (self : OscReception) : OscReception :=
  packet.foldl (fun self message => dispatchMessage message methods self) self

def protoOscNextEvent (lo : LibloServer ω) (self : MonomeOsc) (e : MonomeEvent) : Io ω (NextEvent MonomeOsc) := do
  let reception : OscReception := ⟨some e, 0⟩
  let packet ← Io.call lo.takePacket
  let reception := match packet with
    | none => reception
    | some packet => dispatchPacket (oscMethods self.pathPrefix) packet reception
  return ⟨some reception.haveEvent, self, reception.ePtr.getD e⟩

theorem dispatch_message (message : OscMessage) (methods : List OscMethod) (e : MonomeEvent) (haveEvent : Int32) :
    dispatchMessage message methods ⟨some e, haveEvent⟩ =
      match oscReceive methods message with
      | none => ⟨some e, haveEvent⟩
      | some method => ⟨some (method.handler.run message.args e), 1⟩ := by
  induction methods with
  | nil => rfl
  | cons method rest ih =>
      rw [dispatchMessage, oscReceive]
      by_cases matched : method.path = message.path ∧ method.types = message.types
      · rw [if_pos matched, List.find?_cons_of_pos (by simpa using matched)]
        rfl
      · rw [if_neg matched, List.find?_cons_of_neg (by simpa using matched), ih]
        rfl

inductive Backend where
  | serial (device : Device)
  | osc (self : MonomeOsc)
deriving DecidableEq, Repr

def Backend.output (t : Target) (P : Platform ω) (lo : Liblo ω) (backend : Backend) (call : OutputCall) : Io ω Int32 :=
  match backend with
  | serial device => device.output t P call
  | osc self => protoOscOutput lo self call

end Libmonome
