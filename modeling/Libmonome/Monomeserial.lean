import Libmonome.Osc
import Mathlib.Data.List.Infix

set_option autoImplicit false

namespace Libmonome

-- The osc handlers of monomeserial. Each makes one call on the device it
-- serves; none is the answer -1 without a call. An argument the type tags of
-- the method promise is there.
def oscLedHandler (types : String) (argv : List Int32) : Option OutputCall :=
  if (argv.length ≠ 3 ∨ types ≠ "iii") ∨ (argv.getD 0 0 > 15 ∨ argv.getD 0 0 < 0) ∨
      (argv.getD 1 0 > 15 ∨ argv.getD 1 0 < 0) ∨ (argv.getD 2 0 > 1 ∨ argv.getD 2 0 < 0) then none
  else some (.ledSet (argv.getD 0 0).toUInt32 (argv.getD 1 0).toUInt32 (argv.getD 2 0).toUInt32)

def oscLedAllHandler (argv : List Int32) : Option OutputCall :=
  let mode := if argv.length ≠ 0 then argv.getD 0 0 else 0
  some (.ledAll mode.toUInt32)

def argByte (a : Int32) : UInt8 := a.toUInt32.toUInt8

-- strstr looks for led_col anywhere in the path, the name served under too.
def oscLedColRowHandler (path : String) (argv : List Int32) : Option OutputCall :=
  let buf := [argByte (argv.getD 1 0), if argv.length = 3 then argByte (argv.getD 2 0) else 0]
  if "led_col".toList <:+: path.toList then some (.ledCol (argv.getD 0 0).toUInt32 0 (argv.length - 1) buf)
  else some (.ledRow 0 (argv.getD 0 0).toUInt32 (argv.length - 1) buf)

def oscLedMapHandler (argv : List Int32) : Option OutputCall :=
  let buf := (List.range 8).map fun i => argByte (argv.getD (i + (argv.length - 8)) 0)
  match argv.length with
  | 8 => some (.ledMap 0 0 buf)
  | 10 => some (.ledMap (argv.getD 0 0).toUInt32 (argv.getD 1 0).toUInt32 buf)
  | _ => none

def oscIntensityHandler (argv : List Int32) : Option OutputCall :=
  let intensity := if argv.length ≠ 0 then argv.getD 0 0 else 0xF
  some (.ledIntensity intensity.toUInt32)

inductive SerialHandler where
  | led
  | ledAll
  | ledColRow
  | ledMap
  | intensity
deriving DecidableEq, Repr

def SerialHandler.run (handler : SerialHandler) (message : OscMessage) : Option OutputCall :=
  match handler with
  | led => oscLedHandler message.types message.args
  | ledAll => oscLedAllHandler message.args
  | ledColRow => oscLedColRowHandler message.path message.args
  | ledMap => oscLedMapHandler message.args
  | intensity => oscIntensityHandler message.args

structure SerialMethod where
  path : String
  types : String
  handler : SerialHandler
deriving DecidableEq, Repr

-- register_osc_methods, for the name monomeserial serves under.
def registerOscMethods (served : String) : List SerialMethod :=
  [⟨"/" ++ served ++ "/led", "iii", .led⟩,
   ⟨"/" ++ served ++ "/clear", "", .ledAll⟩,
   ⟨"/" ++ served ++ "/clear", "i", .ledAll⟩,
   ⟨"/" ++ served ++ "/frame", "iiiiiiii", .ledMap⟩,
   ⟨"/" ++ served ++ "/frame", "iiiiiiiiii", .ledMap⟩,
   ⟨"/" ++ served ++ "/led_row", "ii", .ledColRow⟩,
   ⟨"/" ++ served ++ "/led_row", "iii", .ledColRow⟩,
   ⟨"/" ++ served ++ "/led_col", "ii", .ledColRow⟩,
   ⟨"/" ++ served ++ "/led_col", "iii", .ledColRow⟩,
   ⟨"/" ++ served ++ "/intensity", "", .intensity⟩,
   ⟨"/" ++ served ++ "/intensity", "i", .intensity⟩]

-- monome_handle_press, registered for the two button events only.
def monomeHandlePress {ω : Type} (lo : Liblo ω) (served : String) (down : Bool) (x y : UInt32) : Io ω Unit := do
  let eventType : Int32 := if down then 1 else 0
  let _ ← loSendMsg lo ("/" ++ served ++ "/press") "iii" [x.toInt32, y.toInt32, eventType]
  return ()

-- The way between the two programs: what one sends the other receives, in
-- order.
def wire : Liblo (List OscMessage) where
  sendFrom message sent := (0, sent ++ [message])
  recvNoblock
    | [] => (none, [])
    | message :: rest => (some message, rest)

section Transparency

variable (parent : Monome) (served : String)

def onServed : MonomeOsc := cacheOscPaths parent ("/" ++ served)

def given : OutputCall → OutputCall
  | .ledMap xOff yOff data => .ledMap xOff yOff (data.take 8)
  | .ledRow xOff y count data => .ledRow xOff y count (data.take count)
  | .ledCol x yOff count data => .ledCol x yOff count (data.take count)
  | call => call

def InRange : OutputCall → Prop
  | .ledSet x y on => x ≤ 15 ∧ y ≤ 15 ∧ on ≤ 1
  | .ledAll status => status ≤ 1
  | .ledMap xOff yOff data => xOff ≤ 15 ∧ yOff ≤ 15 ∧ 8 ≤ data.length
  | .ledRow xOff y count data => xOff ≤ 15 ∧ y ≤ 15 ∧ (count = 1 ∨ count = 2) ∧ count ≤ data.length
  | .ledCol x yOff count data => x ≤ 15 ∧ yOff ≤ 15 ∧ (count = 1 ∨ count = 2) ∧ count ≤ data.length
  | .ledIntensity brightness => brightness ≤ 15
  | _ => False

def Carried (call : OutputCall) : Prop :=
  ∃ status message method made, protoOscOutput wire (onServed parent served) call [] = .ok (status, [message]) ∧
    method ∈ registerOscMethods served ∧ method.path = message.path ∧ method.types = message.types ∧
    method.handler.run message = some made ∧ given made = given call

def Returned (down : Bool) (x y : UInt32) (e : MonomeEvent) : Prop :=
  ∃ message after, monomeHandlePress wire served down x y [] = .ok ((), [message]) ∧
    protoOscNextEvent wire.packets (onServed parent served) e [message] =
      .ok (⟨some 1, onServed parent served, keyEvent down x y⟩, after)

def ledPaths : List String := ["grid/led/set", "grid/led/all", "grid/led/map", "grid/led/col", "grid/led/row", "grid/led/intensity"]

def servedPaths : List String := ["/led", "/clear", "/frame", "/led_row", "/led_col", "/intensity"]

theorem led_call_sent (call : OutputCall) (inRange : InRange call) :
    ∃ name ∈ ledPaths, ∃ types args, protoOscOutput wire (onServed parent served) call [] =
      .ok (0, [⟨"/" ++ served ++ "/" ++ name, types, args⟩]) := by
  cases call with
  | ledSet x y on => exact ⟨"grid/led/set", by decide, _, _, rfl⟩
  | ledAll status => exact ⟨"grid/led/all", by decide, _, _, rfl⟩
  | ledMap xOff yOff data =>
      refine ⟨"grid/led/map", by decide, ?_⟩
      simp only [protoOscOutput, protoOscLedMap, copyOut, if_pos inRange.2.2, io_check_bind]
      exact ⟨_, _, rfl⟩
  | ledRow xOff y count data =>
      refine ⟨"grid/led/row", by decide, ?_⟩
      obtain ⟨-, -, one | two, readable⟩ := inRange
      · cases data with
        | nil => exact absurd readable (by simp [one])
        | cons b rest =>
            simp only [protoOscOutput, protoOscLedRow, if_pos one, deref, io_check_bind]
            exact ⟨_, _, rfl⟩
      · simp only [protoOscOutput, protoOscLedRow, if_neg (by omega : ¬ count = 1), copyOut,
          if_pos (two ▸ readable), io_check_bind]
        exact ⟨_, _, rfl⟩
  | ledCol x yOff count data =>
      refine ⟨"grid/led/col", by decide, ?_⟩
      obtain ⟨-, -, one | two, readable⟩ := inRange
      · cases data with
        | nil => exact absurd readable (by simp [one])
        | cons b rest =>
            simp only [protoOscOutput, protoOscLedCol, if_pos one, deref, io_check_bind]
            exact ⟨_, _, rfl⟩
      · simp only [protoOscOutput, protoOscLedCol, if_neg (by omega : ¬ count = 1), copyOut,
          if_pos (two ▸ readable), io_check_bind]
        exact ⟨_, _, rfl⟩
  | ledIntensity brightness => exact ⟨"grid/led/intensity", by decide, _, _, rfl⟩
  | _ => exact absurd inRange (by simp [InRange])

theorem served_method_path (method : SerialMethod) (registered : method ∈ registerOscMethods served) :
    ∃ name ∈ servedPaths, method.path = "/" ++ served ++ name := by
  simp only [registerOscMethods, List.mem_cons, List.not_mem_nil, or_false] at registered
  rcases registered with rfl | rfl | rfl | rfl | rfl | rfl | rfl | rfl | rfl | rfl | rfl <;>
    exact ⟨_, by decide, rfl⟩

theorem dialects_apart : ∀ name ∈ ledPaths, ∀ other ∈ servedPaths, other ≠ "/" ++ name := by
  decide

theorem no_method_takes (name : String) (led : name ∈ ledPaths) (method : SerialMethod)
    (registered : method ∈ registerOscMethods served) : method.path ≠ "/" ++ served ++ "/" ++ name := by
  obtain ⟨other, known, path⟩ := served_method_path served method registered
  have joined : "/" ++ served ++ "/" ++ name = "/" ++ served ++ ("/" ++ name) := String.append_assoc
  rw [path, joined]
  intro same
  exact dialects_apart name led other known ((String.append_right_inj _).mp same)

theorem led_call_lost (call : OutputCall) (inRange : InRange call) : ¬ Carried parent served call := by
  rintro ⟨status, message, method, made, sent, registered, path, -⟩
  obtain ⟨name, led, types, args, really⟩ := led_call_sent parent served call inRange
  have same := Except.ok.inj (really.symm.trans sent)
  have received : message.path = "/" ++ served ++ "/" ++ name := by
    cases same
    rfl
  exact no_method_takes served name led method registered (path.trans received)

theorem press_unheard (types : String) (args : List Int32) :
    oscReceive (oscMethods ("/" ++ served)) ⟨"/" ++ served ++ "/press", types, args⟩ = none := by
  simp [oscReceive, oscMethods]

theorem press_lost (down : Bool) (x y : UInt32) (e : MonomeEvent) : ¬ Returned parent served down x y e := by
  rintro ⟨message, after, sent, received⟩
  have really : monomeHandlePress wire served down x y [] =
      .ok ((), [⟨"/" ++ served ++ "/press", "iii", [x.toInt32, y.toInt32, if down then 1 else 0]⟩]) := rfl
  have same := Except.ok.inj (really.symm.trans sent)
  cases same
  have nothing : protoOscNextEvent wire.packets (onServed parent served) e
      [⟨"/" ++ served ++ "/press", "iii", [x.toInt32, y.toInt32, if down then 1 else 0]⟩] =
      .ok (⟨some 0, onServed parent served, e⟩, []) := by
    have unheard := press_unheard served "iii" [x.toInt32, y.toInt32, if down then 1 else 0]
    rw [protoOscNextEvent, io_call_bind]
    simp only [Liblo.packets, wire, Option.map_some, dispatchPacket, List.foldl_cons, List.foldl_nil, dispatch_message,
      onServed, cacheOscPaths, unheard]
    rfl
  rw [nothing] at received
  cases received

-- Whatever name monomeserial serves under, the osc backend sends each call in
-- one message that none of its methods takes, and hears none of its presses.
theorem backend_unserved (call : OutputCall) (inRange : InRange call) (down : Bool) (x y : UInt32) (e : MonomeEvent) :
    (∃ message, protoOscOutput wire (onServed parent served) call [] = .ok (0, [message]) ∧
      ∀ method ∈ registerOscMethods served, method.path ≠ message.path) ∧
    ¬ Carried parent served call ∧ ¬ Returned parent served down x y e := by
  obtain ⟨name, led, types, args, sent⟩ := led_call_sent parent served call inRange
  exact ⟨⟨_, sent, fun method registered => no_method_takes served name led method registered⟩,
    led_call_lost parent served call inRange, press_lost parent served down x y e⟩

end Transparency

theorem backend_unserved_row : ∃ message, protoOscOutput wire (onServed ⟨0, 0, .rotate0, none, .unset⟩ "monome")
      (.ledRow 0 3 2 [0xFF, 0x81]) [] = .ok (0, [message]) ∧
    ∀ method ∈ registerOscMethods "monome", method.path ≠ message.path :=
  (backend_unserved ⟨0, 0, .rotate0, none, .unset⟩ "monome" (.ledRow 0 3 2 [0xFF, 0x81])
    ⟨by decide, by decide, .inr rfl, by decide⟩ true 2 3 (keyEvent false 0 0)).1

-- Under the default name, a set of the LED at (2, 3) goes to /monome/grid/led/set,
-- and monomeserial waits at /monome/led.
theorem set_lost_on_monome : InRange (.ledSet 2 3 1) ∧ ¬ Carried ⟨0, 0, .rotate0, none, .unset⟩ "monome" (.ledSet 2 3 1) :=
  have inRange : InRange (.ledSet 2 3 1) := ⟨by decide, by decide, by decide⟩
  ⟨inRange, led_call_lost ⟨0, 0, .rotate0, none, .unset⟩ "monome" (.ledSet 2 3 1) inRange⟩

end Libmonome
