import Libmonome.Lib.Ledger
import Libmonome.Lib.Triple
import Libmonome.Mext.Open
import Libmonome.Watching

set_option autoImplicit false

namespace Libmonome

open Ledger

variable {ω : Type}

inductive OscPath where
  | ledSet
  | ledAll
  | ledMap
  | ledCol
  | ledRow
  | ledIntensity
  | ringSet
  | ringAll
  | ringMap
  | ringRange
deriving DecidableEq, Repr

-- What monome_open acquires: allocations, the protocol module and the device.
inductive Resource where
  | serial
  | module
  | object
  | terminal
  | server
  | oscPrefix
  | address
  | cachedPath (path : OscPath)
  | scratch
  | device
deriving DecidableEq, Repr

-- How the fallible steps come out, each under the name of the function called.
-- sscanf answers for a serial number and a pattern of the device table.
structure Outcomes where
  getDevSerial : Option String
  sscanf : String → String → Int32
  asprintf : Bool
  dlopen : Bool
  dlsym : Bool
  calloc : Bool
  openFd : Int32
  tcgetattr : Int32
  cfsetispeed : Int32
  cfsetospeed : Int32
  tcsetattr : Int32
  tcflush : Int32
  closeFd : Int32
  serverNew : Bool
  urlGetPath : Option String
  addressNew : Bool
  socketFd : Int32
  strdup : Bool

def mapping : List MonomeDevmap := [
  ⟨"m64%*1[-_]%d", .series, 8, 8, "monome 64", false⟩,
  ⟨"m128%*1[-_]%d", .series, 16, 8, "monome 128", false⟩,
  ⟨"m256%*1[-_]%d", .series, 16, 16, "monome 256", false⟩,
  ⟨"mk%d", .series, 16, 16, "monome kit", false⟩,
  ⟨"m40h%d", .m40h, 8, 8, "monome 40h", false⟩,
  ⟨"a40h%*1[-_]%d", .m40h, 8, 8, "arduinome", true⟩,
  ⟨"m%d", .mext, 0, 0, "monome i2c", false⟩,
  ⟨"M%d", .mext, 0, 0, "monome i2c", false⟩]

-- The state of a run: the world the serial line lives in, and the ledger.
abbrev Books (ω : Type) := ω × List (Event Resource)

def note (events : List (Event Resource)) : Io (Books ω) Unit := Io.call fun s => ((), (s.1, s.2 ++ events))

section Model

variable (o : Outcomes) (line : Platform ω)

def mapSerialToDevice (serial : String) : Option MonomeDevmap := mapping.find? fun m => o.sscanf serial m.sermatch ≠ 0

def errClose (ledger : List (Event Resource)) : Int32 × List (Event Resource) := (1, ledger ++ [.release .terminal])

-- Both baud rates are set by the same two calls.
def monomePlatformOpen (ledger : List (Event Resource)) : Int32 × List (Event Resource) :=
  if o.openFd < 0 then
    (1, ledger)
  else
    let ledger := ledger ++ [.acquire .terminal, .use .terminal]
    if o.tcgetattr < 0 then errClose ledger
    else if o.cfsetispeed < 0 ∨ o.cfsetospeed < 0 then errClose ledger
    else
      let ledger := ledger ++ [.use .terminal]
      if o.tcsetattr < 0 then errClose ledger
      else
        let ledger := ledger ++ [.use .terminal]
        if o.tcflush < 0 then errClose ledger else (0, ledger)

-- posix.c over a serial line, with every use of the descriptor on the books.
def bookedPlatform : Platform (Books ω) where
  openDevice _ _ s := ((monomePlatformOpen o s.2).1, (s.1, (monomePlatformOpen o s.2).2))
  close s := (o.closeFd, (s.1, s.2 ++ [.release .terminal]))
  write bytes s := ((line.write bytes s.1).1, ((line.write bytes s.1).2, s.2 ++ [.use .terminal]))
  read n s := ((line.read n s.1).1, ((line.read n s.1).2, s.2 ++ [.use .terminal]))
  waitForInput msec s := ((line.waitForInput msec s.1).1, ((line.waitForInput msec s.1).2, s.2 ++ [.use .terminal]))
  monotonicMilliseconds s := ((line.monotonicMilliseconds s.1).1, ((line.monotonicMilliseconds s.1).2, s.2))

structure OscSlots where
  server : Bool
  pathPrefix : Bool
  outgoing : Bool
  cached : List OscPath
deriving DecidableEq, Repr

def oscPaths : List OscPath :=
  [.ledSet, .ledAll, .ledMap, .ledCol, .ledRow, .ledIntensity, .ringSet, .ringAll, .ringMap, .ringRange]

inductive ProtocolObject where
  | serial (device : Device)
  | osc (slots : OscSlots)
deriving DecidableEq, Repr

-- m_free, lo_server_free and lo_address_free of a pointer that may be null.
def released (there : Bool) (r : Resource) : List (Event Resource) := if there then [.release r] else []

def acquired (there : Bool) (r : Resource) : List (Event Resource) := if there then [.acquire r] else []

def protoOscFree (self : OscSlots) : Io (Books ω) OscSlots := do
  note [.use .object]
  note (self.cached.map fun path => .release (.cachedPath path))
  note (released self.pathPrefix .oscPrefix)
  note (released self.server .server)
  note (released self.outgoing .address)
  note [.use .object, .release .object]
  return { self with pathPrefix := false, server := false, outgoing := false }

def protoOscClose : Io (Books ω) Int32 := pure 0

def addMethod : List (Event Resource) := [.acquire .scratch, .use .server, .release .scratch]

def protoOscOpen (self : OscSlots) : Io (Books ω) (Int32 × OscSlots) := do
  if o.serverNew then
    note [.acquire .server, .use .object]
    note (acquired o.urlGetPath.isSome .oscPrefix)
    note (acquired o.addressNew .address)
    let self := { self with server := true, pathPrefix := o.urlGetPath.isSome, outgoing := o.addressNew }
    note [.use .object, .use .server]
    if o.socketFd < 0 then
      let _ ← protoOscClose
      let self ← protoOscFree self
      return (1, self)
    else
      note (.use .server :: addMethod ++ addMethod ++ addMethod)
      note (oscPaths.map fun path => .acquire (.cachedPath path))
      return (0, { self with cached := oscPaths })
  else
    return (1, self)

def protocolNew (proto : MonomeProto) : ProtocolObject :=
  match proto with
  | .mext => .serial (.mext mextNew)
  | .series => .serial (.series ⟨mextNew.monome, 0, 0⟩)
  | .m40h => .serial (.m40h ⟨mextNew.monome, 0, 0⟩)
  | .osc => .osc ⟨false, false, false, []⟩

def loadProtocol (proto : MonomeProto) : Io (Books ω) (Option ProtocolObject) := do
  if o.asprintf then
    note [.acquire .scratch, .use .scratch, .release .scratch]
    if o.dlopen then
      note [.acquire .module, .use .module]
      if o.dlsym ∧ o.calloc then
        note [.acquire .object, .use .object]
        return some (protocolNew proto)
      else
        note [.release .module]
        return none
    else
      return none
  else
    return none

def protocolFree (object : ProtocolObject) : Io (Books ω) Unit := do
  match object with
  | .serial _ => note [.release .object]
  | .osc slots =>
      let _ ← protoOscFree slots
      return ()

def monomePlatformFree (object : ProtocolObject) : Io (Books ω) Unit := do
  note [.use .object]
  protocolFree object
  note [.release .module]

def protocolClose (object : ProtocolObject) : Io (Books ω) Int32 := do
  note [.use .object]
  match object with
  | .serial (.mext _) => mextClose (bookedPlatform o line)
  | .serial (.series _) => protoSeriesClose (bookedPlatform o line)
  | .serial (.m40h _) => proto40hClose (bookedPlatform o line)
  | .osc _ => protoOscClose

-- monome->open through the table of the object. A tty's device entry is there
-- whenever its protocol is a serial one.
def protocolOpen [t : Target] (fuel : Nat) (e : MonomeEvent) (dev : String) (serial : Option String)
    (m : Option MonomeDevmap) (object : ProtocolObject) : Io (Books ω) (Option Int32 × ProtocolObject) := do
  note [.use .object]
  match object, m with
  | .osc slots, _ => do
      let opened ← protoOscOpen o slots
      return (some opened.1, .osc opened.2)
  | .serial (.mext self), some m => do
      let opened ← mextOpen (bookedPlatform o line) fuel self e dev serial m
      return (opened.status, .serial (.mext opened.self))
  | .serial (.series self), some m => do
      let opened ← protoSeriesOpen (bookedPlatform o line) self dev serial m
      return (some opened.1, .serial (.series opened.2))
  | .serial (.m40h self), some m => do
      let opened ← proto40hOpen (bookedPlatform o line) self dev serial m
      return (some opened.1, .serial (.m40h opened.2))
  | .serial _, none => Io.check (.error .outOfBounds)

def ProtocolObject.serialField : ProtocolObject → Option String
  | serial device => device.monome.serial
  | osc _ => none

structure Handle where
  object : ProtocolObject
  device : String
deriving DecidableEq, Repr

-- err_init: what monome_open returns when it fails is NULL.
def errInit (serial : Option String) : Io (Books ω) (Option (Option Handle)) := do
  note (released serial.isSome .serial)
  return some none

-- The part of monome_open after the protocol is known. A handshake that its
-- bound cut off has not returned.
def openProtocol [t : Target] (fuel : Nat) (e : MonomeEvent) (dev : String) (serial : Option String)
    (m : Option MonomeDevmap) (proto : MonomeProto) : Io (Books ω) (Option (Option Handle)) := do
  match ← loadProtocol o proto with
  | none => errInit serial
  | some object => do
      let opened ← protocolOpen o line fuel e dev serial m object
      match opened.1 with
      | none => return none
      | some error =>
          if error ≠ 0 then
            monomePlatformFree opened.2
            errInit serial
          else
            note [.use .object]
            if o.strdup then
              note [.acquire .device, .use .object]
              return some (some ⟨opened.2, dev⟩)
            else
              let _ ← protocolClose o line opened.2
              monomePlatformFree opened.2
              errInit serial

def isUrl (dev : String) : Prop := [':', '/', '/'] <:+: dev.toList

instance (dev : String) : Decidable (isUrl dev) := inferInstanceAs (Decidable ([':', '/', '/'] <:+: dev.toList))

def monomeOpen [t : Target] (fuel : Nat) (e : MonomeEvent) (dev : Option String) :
    Io (Books ω) (Option (Option Handle)) := do
  match dev with
  | none => return some none
  | some dev =>
      if isUrl dev then
        openProtocol o line fuel e dev none none .osc
      else
        match o.getDevSerial with
        | none => return some none
        | some serial => do
            note [.acquire .serial]
            match mapSerialToDevice o serial with
            | some m => openProtocol o line fuel e dev (some serial) (some m) m.proto
            | none => do
                note [.release .serial]
                return some none

def monomeClose (handle : Handle) : Io (Books ω) Unit := do
  note [.use .object]
  note (released handle.object.serialField.isSome .serial)
  note [.use .object, .release .device]
  let _ ← protocolClose o line handle.object
  monomePlatformFree handle.object

end Model

end Libmonome
