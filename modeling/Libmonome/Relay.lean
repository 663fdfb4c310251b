import Libmonome.EventLoop
import Libmonome.Hearing
import Libmonome.Mext.Issued
import Libmonome.Monomeserial

set_option autoImplicit false

namespace Libmonome

variable {ω ν : Type}

-- A platform with something beside its state that none of its functions touch.
def Platform.beside (P : Platform ω) : Platform (ω × ν) where
  openDevice m dev s := ((P.openDevice m dev s.1).1, (P.openDevice m dev s.1).2, s.2)
  close s := ((P.close s.1).1, (P.close s.1).2, s.2)
  write bytes s := ((P.write bytes s.1).1, (P.write bytes s.1).2, s.2)
  read n s := ((P.read n s.1).1, (P.read n s.1).2, s.2)
  waitForInput msec s := ((P.waitForInput msec s.1).1, (P.waitForInput msec s.1).2, s.2)
  monotonicMilliseconds s := ((P.monotonicMilliseconds s.1).1, (P.monotonicMilliseconds s.1).2, s.2)

-- The osc side of monomeserial: the packets on its server's socket, and the
-- messages it has sent.
structure OscSide where
  inbox : List (List OscMessage)
  sent : List OscMessage

def outgoing : Liblo (ω × OscSide) where
  sendFrom message s := (0, s.1, { s.2 with sent := s.2.sent ++ [message] })
  recvNoblock s := (none, s)

def Takes (message : OscMessage) (method : SerialMethod) : Prop := method.path = message.path ∧ method.types = message.types

instance (message : OscMessage) : DecidablePred (Takes message) :=
  fun method => inferInstanceAs (Decidable (method.path = message.path ∧ method.types = message.types))

section MainLoop

variable (t : Target) (P : Platform ω) (served : String) (fuel : Nat)

-- A message goes to each method whose path and type tags are its own, until a
-- handler answers 0. (Of liblo's path patterns nothing is said: a path stands
-- for itself.)
def answerMessage (device : Device) (message : OscMessage) (method : SerialMethod) : Io ω Int32 :=
  match method.handler.run message with
  | some call => device.output t P call
  | none => return -1

def serveMessage (device : Device) (message : OscMessage) : List SerialMethod → Io ω Unit
  | [] => return ()
  | method :: rest => do
      if Takes message method then
        let answer ← answerMessage t P device message method
        if answer = 0 then
          return ()
        else
          serveMessage device message rest
      else
        serveMessage device message rest

def servePacket (device : Device) : List OscMessage → Io ω Unit
  | [] => return ()
  | message :: rest => do
      serveMessage t P device message (registerOscMethods served)
      servePacket device rest

-- lo_server_recv_noblock, as far as it concerns monomeserial.
def serveOsc (device : Device) : Io (ω × OscSide) Unit := do
  let packet ← Io.call fun s => (s.2.inbox.head?, (s.1, { s.2 with inbox := s.2.inbox.tail }))
  match packet with
  | none => return ()
  | some packet => servePacket t P.beside served device packet

-- The handlers main registers, and the function behind both.
def pressHandlers : MonomeEventType → Option Unit
  | .buttonDown | .buttonUp => some ()
  | _ => none

def handlePress : Callbacks (ω × OscSide) Unit := fun _ e l => do
  match e.payload with
  | .grid x y => do
      monomeHandlePress outgoing served (e.eventType = .buttonDown) x y
      return l
  | _ => return l

structure PollAnswer where
  hangup : Bool
  monomeReady : Bool
  oscReady : Bool
  record : MonomeEvent

def handleReady (poll : PollAnswer) (l : Listening Unit) : Io (ω × OscSide) (Listening Unit) := do
  if poll.monomeReady then
    let handled ← monomeEventHandle P.beside fuel (handlePress served) poll.record l
    return handled.2
  else
    return l

def serveReady (poll : PollAnswer) (l : Listening Unit) : Io (ω × OscSide) Unit := do
  if poll.oscReady then
    serveOsc t P served l.device
  else
    return ()

-- main_loop: 1 when the monome is gone, nothing while it is running.
def mainLoop : List PollAnswer → Listening Unit → Io (ω × OscSide) (Option Int32 × Listening Unit)
  | [], l => return (none, l)
  | poll :: rest, l => do
      if poll.hangup then
        return (some 1, l)
      else
        let l ← handleReady t P served fuel poll l
        serveReady t P served poll l
        mainLoop rest l

end MainLoop

-- What monomeserial is for: key events go out as press messages, messages come
-- in as calls.
def pressMessage (served : String) (e : MonomeEvent) : Option OscMessage :=
  match pressHandlers e.eventType, e.payload with
  | some (), .grid x y =>
      some ⟨"/" ++ served ++ "/press", "iii", [x.toInt32, y.toInt32, if e.eventType = .buttonDown then 1 else 0]⟩
  | _, _ => none

def callMade (served : String) (message : OscMessage) : Option OutputCall :=
  ((registerOscMethods served).find? fun method => Takes message method).bind fun method => method.handler.run message

def callFrames (t : Target) (served : String) (device : Device) (message : OscMessage) : List (List UInt8) :=
  match callMade served message with
  | none => []
  | some call => (device.frames t call).toOption.getD []

structure RelayState where
  device : Device
  stream : List (Option Message)
  osc : OscSide
  drawn : List (List UInt8)

def RelayState.hearOne (t : Target) (served : String) (r : RelayState) : RelayState where
  device := (r.device.hear r.stream).2.1
  stream := (r.device.hear r.stream).2.2
  osc := { r.osc with sent := r.osc.sent ++ ((r.device.hear r.stream).1.bind (pressMessage served)).toList }
  drawn := r.drawn

def RelayState.serveOne (t : Target) (served : String) (r : RelayState) : RelayState where
  device := r.device
  stream := r.stream
  osc := { r.osc with inbox := r.osc.inbox.tail }
  drawn := r.drawn ++ (r.osc.inbox.headD []).flatMap (callFrames t served r.device)

def RelayState.turn (t : Target) (served : String) (r : RelayState) (poll : PollAnswer) : RelayState :=
  let r := if poll.monomeReady then r.hearOne t served else r
  if poll.oscReady then r.serveOne t served else r

def relayed (t : Target) (served : String) : List PollAnswer → RelayState → RelayState
  | [], r => r
  | poll :: rest, r => if poll.hangup then r else relayed t served rest (r.turn t served poll)

structure Wired (P : Platform ω) (holds : ω → List Supply → Prop) (written : ω → List (List UInt8)) : Prop where
  feeds : Feeds P holds
  takes : ∀ w bytes, written (P.write bytes w).2 = written w ++ [bytes]
  apart : ∀ w bytes supply, holds w supply → holds (P.write bytes w).2 supply
  quiet : ∀ n w, written (P.read n w).2 = written w

theorem link_wired : Wired link (Cut Link.incoming) Link.sent where
  feeds := delivers_feeds link Link.incoming link_delivers
  takes _ _ := rfl
  apart _ _ _ held := held
  quiet _ _ := rfl

section Served

variable (served : String)

def methodTable : List (String × String × SerialHandler) :=
  [("/led", "iii", .led), ("/clear", "", .ledAll), ("/clear", "i", .ledAll), ("/frame", "iiiiiiii", .ledMap),
   ("/frame", "iiiiiiiiii", .ledMap), ("/led_row", "ii", .ledColRow), ("/led_row", "iii", .ledColRow),
   ("/led_col", "ii", .ledColRow), ("/led_col", "iii", .ledColRow), ("/intensity", "", .intensity),
   ("/intensity", "i", .intensity)]

theorem method_table : registerOscMethods served =
    methodTable.map fun entry => ⟨"/" ++ served ++ entry.1, entry.2.1, entry.2.2⟩ := rfl

theorem methods_differ : (registerOscMethods served).Pairwise fun a b => ¬ (a.path = b.path ∧ a.types = b.types) := by
  have apart : methodTable.Pairwise fun a b => ¬ (a.1 = b.1 ∧ a.2.1 = b.2.1) := by decide
  rw [method_table, List.pairwise_map]
  refine apart.imp fun {a b} differ same => differ ⟨?_, same.2⟩
  exact (String.append_right_inj _).mp same.1

theorem serve_none (t : Target) (P : Platform ω) (device : Device) (message : OscMessage) (methods : List SerialMethod)
    (others : ∀ method ∈ methods, ¬ Takes message method) : serveMessage t P device message methods = pure () := by
  induction methods with
  | nil => rfl
  | cons method rest ih =>
      rw [serveMessage, if_neg (others method (by simp))]
      exact ih fun m member => others m (by simp [member])

-- No two methods have path and tags in common, so what the first handler
-- answers does not matter.
theorem serve_once (t : Target) (P : Platform ω) (device : Device) (message : OscMessage) (methods : List SerialMethod)
    (differ : methods.Pairwise fun a b => ¬ (a.path = b.path ∧ a.types = b.types)) (w : ω) :
    serveMessage t P device message methods w =
      match (methods.find? fun method => Takes message method).bind fun method => method.handler.run message with
      | none => .ok ((), w)
      | some call => (device.output t P call w).map fun run => ((), run.2) := by
  induction methods with
  | nil => rfl
  | cons method rest ih =>
      obtain ⟨apart, later⟩ := List.pairwise_cons.mp differ
      rw [serveMessage]
      by_cases taken : Takes message method
      · have others : ∀ m ∈ rest, ¬ Takes message m := fun m member same =>
          apart m member ⟨taken.1.trans same.1.symm, taken.2.trans same.2.symm⟩
        rw [if_pos taken, List.find?_cons_of_pos (by simpa using taken), serve_none t P device message rest others]
        simp only [ite_self, Option.bind_some, answerMessage]
        cases method.handler.run message with
        | none => rfl
        | some call =>
            have forgotten : (device.output t P call >>= fun _ => pure ()) w =
                (device.output t P call w).map fun run => ((), run.2) := by
              rw [io_bind]
              cases device.output t P call w <;> rfl
            exact forgotten
      · rw [if_neg taken, List.find?_cons_of_neg (by simpa using taken)]
        exact ih later

end Served

inductive Asked : OutputCall → Prop where
  | set (x y on : UInt32) : Asked (.ledSet x y on)
  | all (status : UInt32) : Asked (.ledAll status)
  | map (xOff yOff : UInt32) (data : List UInt8) (whole : data.length = 8) : Asked (.ledMap xOff yOff data)
  | row (y : UInt32) (count : Nat) (b c : UInt8) (few : count ≤ 2) : Asked (.ledRow 0 y count [b, c])
  | col (x : UInt32) (count : Nat) (b c : UInt8) (few : count ≤ 2) : Asked (.ledCol x 0 count [b, c])
  | intensity (brightness : UInt32) : Asked (.ledIntensity brightness)

-- liblo hands a handler as many arguments as its type tags say, and converts
-- none where all of them are integers.
def Typed (message : OscMessage) : Prop := message.types.toList = List.replicate message.args.length 'i'

theorem typed_length (message : OscMessage) (typed : Typed message) : message.args.length = message.types.length := by
  rw [← String.length_toList, typed, List.length_replicate]

theorem handler_asks (handler : SerialHandler) (message : OscMessage)
    (few : handler = .ledColRow → message.args.length ≤ 3) (call : OutputCall) (made : handler.run message = some call) :
    Asked call := by
  obtain ⟨path, types, args⟩ := message
  cases handler with
  | led =>
      rw [SerialHandler.run, oscLedHandler] at made
      split at made
      · cases made
      · rw [← Option.some.inj made]
        exact .set _ _ _
  | ledAll =>
      rw [SerialHandler.run, oscLedAllHandler] at made
      rw [← Option.some.inj made]
      exact .all _
  | ledColRow =>
      have two : args.length - 1 ≤ 2 := Nat.sub_le_of_le_add (few rfl)
      have made : oscLedColRowHandler path args = some call := made
      have answer : oscLedColRowHandler path args = some (.ledCol (args.getD 0 0).toUInt32 0 (args.length - 1)
            [argByte (args.getD 1 0), if args.length = 3 then argByte (args.getD 2 0) else 0]) ∨
          oscLedColRowHandler path args = some (.ledRow 0 (args.getD 0 0).toUInt32 (args.length - 1)
            [argByte (args.getD 1 0), if args.length = 3 then argByte (args.getD 2 0) else 0]) := ite_eq_or_eq _ _ _
      rcases answer with col | row
      · rw [col] at made
        rw [← Option.some.inj made]
        exact .col _ _ _ _ two
      · rw [row] at made
        rw [← Option.some.inj made]
        exact .row _ _ _ _ two
  | ledMap =>
      rw [SerialHandler.run, oscLedMapHandler] at made
      split at made
      · cases made
        exact .map _ _ _ (by simp)
      · cases made
        exact .map _ _ _ (by simp)
      · cases made
  | intensity =>
      rw [SerialHandler.run, oscIntensityHandler] at made
      rw [← Option.some.inj made]
      exact .intensity _

theorem line_tags_short : ∀ entry ∈ methodTable, entry.2.2 = .ledColRow → entry.2.1.length ≤ 3 := by decide

theorem message_asks (served : String) (message : OscMessage) (typed : Typed message) (call : OutputCall)
    (made : callMade served message = some call) : Asked call := by
  obtain ⟨method, found, ran⟩ := Option.bind_eq_some_iff.mp made
  have taken : Takes message method := by simpa using List.find?_some found
  have registered := List.mem_of_find?_eq_some found
  rw [method_table] at registered
  obtain ⟨entry, listed, rfl⟩ := List.mem_map.mp registered
  apply handler_asks entry.2.2 message _ call ran
  intro line
  rw [typed_length message typed, ← taken.2]
  exact line_tags_short entry listed line

theorem asked_frames (t : Target) (device : Device) (call : OutputCall) (asked : Asked call) :
    ∃ frames, device.frames t call = .ok frames := by
  have copied (data : List UInt8) (whole : data.length = 8) : copyOut 8 data = .ok data := by
    rw [copyOut, if_pos whole.ge, List.take_of_length_le whole.le]
  cases device with
  | mext self =>
      rw [mext_frames]
      cases asked with
      | set | all | intensity => exact ⟨_, rfl⟩
      | map xOff yOff data whole =>
          rw [mextMessages, copied data whole]
          exact ⟨_, rfl⟩
      | row y count b c few | col x count b c few =>
          have counts : count = 0 ∨ count = 1 ∨ count = 2 := by omega
          rcases counts with rfl | rfl | rfl <;> exact ⟨_, rfl⟩
  | series self =>
      cases asked with
      | set | all | intensity => exact ⟨_, rfl⟩
      | map xOff yOff data whole =>
          simp only [Device.frames, Device.output, protoSeriesOutput, protoSeriesLedMap, copied data whole]
          exact ⟨_, rfl⟩
      | row y count b c few =>
          simp only [Device.frames, Device.output, protoSeriesOutput, protoSeriesLedRow]
          split
          · split
            · exact ⟨_, rfl⟩
            · rw [deref, io_check_bind, widened]
              split <;> exact ⟨_, rfl⟩
          · exact ⟨_, rfl⟩
      | col x count b c few =>
          simp only [Device.frames, Device.output, protoSeriesOutput, protoSeriesLedCol]
          split
          · split
            · exact ⟨_, rfl⟩
            · rw [deref, io_check_bind, widened]
              split <;> exact ⟨_, rfl⟩
          · exact ⟨_, rfl⟩
  | m40h self =>
      cases asked with
      | set | all | intensity | row | col => exact ⟨_, rfl⟩
      | map xOff yOff data whole =>
          have turned := map_cb_length t data whole self.parent.rotation
          have looped := m40h_led_map_loop_sends self.parent link ((rotspec self.parent.rotation).mapCb t data) (List.range 8)
            (fun i member => by rw [turned]; exact List.mem_range.mp member) 0 ⟨[], []⟩
          rw [Device.frames, Device.output, proto40hOutput, proto40hLedMap, copied data whole, io_check_bind, looped]
          exact ⟨_, rfl⟩

theorem send_frames_after (P : Platform ω) (a b : List (List UInt8)) (w : ω) :
    (sendFrames P (a ++ b) w).2 = (sendFrames P b (sendFrames P a w).2).2 := by
  induction a generalizing w with
  | nil => rfl
  | cons frame rest ih => exact ih _

theorem send_frames_beside (P : Platform ω) (frames : List (List UInt8)) (s : ω × ν) :
    (sendFrames (P.beside (ν := ν)) frames s).2 = ((sendFrames P frames s.1).2, s.2) := by
  induction frames generalizing s with
  | nil => rfl
  | cons frame rest ih => exact ih _

section Wires

variable (P : Platform ω) (holds : ω → List Supply → Prop) (written : ω → List (List UInt8))
  (wired : Wired P holds written)
include wired

theorem beside_feeds (kept : ν → List (List UInt8) → Prop) :
    Feeds (P.beside (ν := ν)) fun s supply => holds s.1 supply ∧ kept s.2 (written s.1) where
  piece s bytes more some held := by
    obtain ⟨stored, counted, left⟩ := wired.feeds.piece s.1 bytes more some held.1
    refine ⟨stored, counted, left, ?_⟩
    rw [Platform.beside, wired.quiet]
    exact held.2
  pause n s more some held := by
    obtain ⟨none, left⟩ := wired.feeds.pause n s.1 more some held.1
    refine ⟨none, left, ?_⟩
    rw [Platform.beside, wired.quiet]
    exact held.2
  drained n s some held := by
    obtain ⟨none, left⟩ := wired.feeds.drained n s.1 some held.1
    refine ⟨none, left, ?_⟩
    rw [Platform.beside, wired.quiet]
    exact held.2

theorem frames_written (frames : List (List UInt8)) (w : ω) (supply : List Supply) (held : holds w supply) :
    holds (sendFrames P frames w).2 supply ∧ written (sendFrames P frames w).2 = written w ++ frames := by
  induction frames generalizing w with
  | nil => exact ⟨held, (List.append_nil _).symm⟩
  | cons frame rest ih =>
      obtain ⟨apart, all⟩ := ih (P.write frame w).2 (wired.apart w frame supply held)
      refine ⟨apart, all.trans ?_⟩
      rw [wired.takes, List.append_assoc, List.singleton_append]

end Wires

section Refinement

variable (t : Target) (P : Platform ω) (served : String) (fuel : Nat)

theorem message_served (device : Device) (message : OscMessage) (typed : Typed message) (s : ω × OscSide) :
    serveMessage t P.beside device message (registerOscMethods served) s =
      .ok ((), ((sendFrames P (callFrames t served device message) s.1).2, s.2)) := by
  rw [serve_once t P.beside device message _ (methods_differ served), callFrames]
  have asked := message_asks served message typed
  cases made : callMade served message with
  | none =>
      rw [callMade] at made
      rw [made]
      rfl
  | some call =>
      obtain ⟨frames, ok⟩ := asked_frames t device call (asked call made)
      have ran := (device_sends t device call).runs _ (P.beside (ν := OscSide)) s
      rw [ok] at ran
      rw [callMade] at made
      rw [made]
      simp only [ran, ok]
      exact congrArg (fun last => Except.ok ((), last)) (send_frames_beside P frames s)

theorem packet_served (device : Device) (packet : List OscMessage) (typed : ∀ message ∈ packet, Typed message)
    (s : ω × OscSide) : servePacket t P.beside served device packet s =
      .ok ((), ((sendFrames P (packet.flatMap (callFrames t served device)) s.1).2, s.2)) := by
  induction packet generalizing s with
  | nil => rfl
  | cons message rest ih =>
      rw [servePacket, io_bind_ok _ _ _ _ _ (message_served t P served device message (typed message (by simp)) s),
        ih (fun m member => typed m (by simp [member])), List.flatMap_cons, send_frames_after]

theorem osc_served (device : Device) (inbox : List (List OscMessage)) (sent : List OscMessage)
    (typed : ∀ packet ∈ inbox, ∀ message ∈ packet, Typed message) (w : ω) :
    serveOsc t P served device (w, ⟨inbox, sent⟩) =
      .ok ((), ((sendFrames P ((inbox.headD []).flatMap (callFrames t served device)) w).2, ⟨inbox.tail, sent⟩)) := by
  rw [serveOsc, io_call_bind]
  cases inbox with
  | nil => rfl
  | cons packet rest => exact packet_served t P served device packet (typed packet (by simp)) _

-- What the messages of both sides must be like: the device speaks its protocol,
-- and liblo keeps its promise.
structure RelayState.Fits (fuel : Nat) (r : RelayState) : Prop where
  short : r.stream.length < fuel
  spoken : ∀ message, some message ∈ r.stream → r.device.Speaks message
  decodes : r.device.AllDecode r.stream.reduceOption
  typed : ∀ packet ∈ r.osc.inbox, ∀ message ∈ packet, Typed message

theorem hear_one_fits (r : RelayState) (fits : r.Fits fuel) : (r.hearOne t served).Fits fuel := by
  have kept := hear_keeps r.device r.stream
  exact ⟨Nat.lt_of_le_of_lt kept.shorter fits.short, kept.spoken fits.spoken, kept.decodes fits.decodes, fits.typed⟩

theorem serve_one_fits (r : RelayState) (fits : r.Fits fuel) : (r.serveOne t served).Fits fuel :=
  ⟨fits.short, fits.spoken, fits.decodes, fun packet member => fits.typed packet (List.mem_of_mem_tail member)⟩

theorem turn_fits (r : RelayState) (fits : r.Fits fuel) (poll : PollAnswer) : (r.turn t served poll).Fits fuel := by
  have heard : (if poll.monomeReady then r.hearOne t served else r).Fits fuel := by
    cases poll.monomeReady with
    | false => exact fits
    | true => exact hear_one_fits t served fuel r fits
  rw [RelayState.turn]
  cases poll.oscReady with
  | false => exact heard
  | true => exact serve_one_fits t served fuel _ heard

theorem press_handled (e : MonomeEvent) (l : Listening Unit) (w : ω) (side : OscSide) (cb : Unit)
    (registered : pressHandlers e.eventType = some cb) : handlePress served cb e l (w, side) =
      .ok (l, (w, { side with sent := side.sent ++ (pressMessage served e).toList })) := by
  obtain ⟨type, payload⟩ := e
  cases payload with
  | grid x y =>
      cases type with
      | buttonUp | buttonDown => rfl
      | encoderDelta | encoderKeyUp | encoderKeyDown | tilt => cases registered
  | encoder number delta =>
      have quiet : pressMessage served ⟨type, .encoder number delta⟩ = none := by
        rw [pressMessage, registered]
      rw [quiet, Option.toList_none, List.append_nil]
      rfl
  | tilt sensor x y z =>
      have quiet : pressMessage served ⟨type, .tilt sensor x y z⟩ = none := by
        rw [pressMessage, registered]
      rw [quiet, Option.toList_none, List.append_nil]
      rfl

variable (holds : ω → List Supply → Prop) (written : ω → List (List UInt8)) (wired : Wired P holds written)
  (before : List (List UInt8))

structure Mirrors (r : RelayState) (s : ω × OscSide) : Prop where
  line : holds s.1 (messageSupply r.stream)
  drawn : written s.1 = before ++ r.drawn
  osc : s.2 = r.osc

include wired

theorem monome_handled (r : RelayState) (fits : r.Fits fuel) (s : ω × OscSide) (mirrors : Mirrors holds written before r s)
    (record : MonomeEvent) : ∃ status s', monomeEventHandle P.beside fuel (handlePress served) record
        ⟨r.device, pressHandlers⟩ s = .ok ((status, ⟨(r.hearOne t served).device, pressHandlers⟩), s') ∧
      Mirrors holds written before (r.hearOne t served) s' := by
  obtain ⟨s', ran, line, osc, drawn⟩ := next_event_hears P.beside _
    (beside_feeds P holds written wired fun side before => side = s.2 ∧ before = written s.1) r.device r.stream
    fuel fits.short record s fits.spoken fits.decodes ⟨mirrors.line, rfl, rfl⟩
  obtain ⟨w', side⟩ := s'
  rw [mirrors.osc] at osc
  rw [mirrors.drawn] at drawn
  have osc : side = r.osc := osc
  subst osc
  rw [monomeEventHandle, io_bind_ok _ _ _ _ _ ran]
  cases event : (r.device.hear r.stream).1 with
  | none =>
      refine ⟨some 0, (w', r.osc), ?_, line, drawn, ?_⟩
      · simp only [Device.heard, event]
        rfl
      · simp only [RelayState.hearOne, event]
        simp
  | some e =>
      cases registered : pressHandlers e.eventType with
      | none =>
          refine ⟨some 0, (w', r.osc), ?_, line, drawn, ?_⟩
          · simp only [Device.heard, event, Option.isSome_some, if_true, Option.getD_some, registered]
            rfl
          · simp only [RelayState.hearOne, event, Option.bind_some, pressMessage, registered]
            simp
      | some cb =>
          have above : ¬ (1 : Int32) ≤ 0 := by decide
          refine ⟨some 1, (w', { r.osc with sent := r.osc.sent ++ (pressMessage served e).toList }), ?_, line, drawn, ?_⟩
          · simp only [Device.heard, event, Option.isSome_some, if_true, Option.getD_some, registered, if_neg above]
            rw [io_bind_ok _ _ _ _ _ (press_handled served e _ w' r.osc cb registered)]
            rfl
          · simp only [RelayState.hearOne, event, Option.bind_some]

theorem osc_mirrored (r : RelayState) (fits : r.Fits fuel) (s : ω × OscSide) (mirrors : Mirrors holds written before r s) :
    ∃ s', serveOsc t P served r.device s = .ok ((), s') ∧ Mirrors holds written before (r.serveOne t served) s' := by
  obtain ⟨w, side⟩ := s
  obtain ⟨line, drawn, osc⟩ := mirrors
  have osc : side = r.osc := osc
  subst osc
  obtain ⟨apart, all⟩ := frames_written P holds written wired
    ((r.osc.inbox.headD []).flatMap (callFrames t served r.device)) w _ line
  refine ⟨_, osc_served t P served r.device r.osc.inbox r.osc.sent fits.typed w, apart, ?_, rfl⟩
  rw [all, RelayState.serveOne, ← List.append_assoc]
  exact congrArg (· ++ _) drawn

theorem main_loop_mirrors (polls : List PollAnswer) (r : RelayState) (fits : r.Fits fuel) (s : ω × OscSide)
    (mirrors : Mirrors holds written before r s) :
    ∃ s', mainLoop t P served fuel polls ⟨r.device, pressHandlers⟩ s =
        .ok ((if polls.any PollAnswer.hangup then some 1 else none, ⟨(relayed t served polls r).device, pressHandlers⟩), s') ∧
      Mirrors holds written before (relayed t served polls r) s' := by
  induction polls generalizing r s with
  | nil => exact ⟨s, rfl, mirrors⟩
  | cons poll rest ih =>
      rw [mainLoop, relayed, List.any_cons]
      cases poll.hangup with
      | true => exact ⟨s, rfl, mirrors⟩
      | false =>
          have heard : ∃ s', handleReady t P served fuel poll ⟨r.device, pressHandlers⟩ s =
              .ok (⟨(if poll.monomeReady then r.hearOne t served else r).device, pressHandlers⟩, s') ∧
              Mirrors holds written before (if poll.monomeReady then r.hearOne t served else r) s' := by
            rw [handleReady]
            cases poll.monomeReady with
            | false => exact ⟨s, rfl, mirrors⟩
            | true =>
                obtain ⟨status, s', ran, now⟩ := monome_handled t P served fuel holds written wired before r fits s mirrors
                  poll.record
                exact ⟨s', io_bind_ok _ _ _ _ _ ran, now⟩
          obtain ⟨middle, ran, now⟩ := heard
          have fitting : (if poll.monomeReady then r.hearOne t served else r).Fits fuel := by
            cases poll.monomeReady with
            | false => exact fits
            | true => exact hear_one_fits t served fuel r fits
          have answered : ∃ s', serveReady t P served poll
              ⟨(if poll.monomeReady then r.hearOne t served else r).device, pressHandlers⟩ middle = .ok ((), s') ∧
              Mirrors holds written before (r.turn t served poll) s' := by
            rw [serveReady, RelayState.turn]
            cases poll.oscReady with
            | false => exact ⟨middle, rfl, now⟩
            | true => exact osc_mirrored t P served fuel holds written wired before _ fitting middle now
          obtain ⟨last, replied, later⟩ := answered
          have device : (if poll.monomeReady then r.hearOne t served else r).device = (r.turn t served poll).device := by
            rw [RelayState.turn]
            cases poll.oscReady <;> rfl
          obtain ⟨s', finished, final⟩ := ih (r.turn t served poll) (turn_fits t served fuel r fits poll) last later
          refine ⟨s', ?_, final⟩
          rw [if_neg Bool.false_ne_true, io_bind_ok _ _ _ _ _ ran, io_bind_ok _ _ _ _ _ replied, device, finished]
          rfl

omit wired in
theorem relayed_presses (polls : List PollAnswer) (r : RelayState) :
    (relayed t served polls r).osc.sent ++ ((relayed t served polls r).device.eventsOf
        (relayed t served polls r).stream.reduceOption).filterMap (pressMessage served) =
      r.osc.sent ++ (r.device.eventsOf r.stream.reduceOption).filterMap (pressMessage served) := by
  have heard (r : RelayState) : (r.hearOne t served).osc.sent ++ ((r.hearOne t served).device.eventsOf
      (r.hearOne t served).stream.reduceOption).filterMap (pressMessage served) =
        r.osc.sent ++ (r.device.eventsOf r.stream.reduceOption).filterMap (pressMessage served) := by
    have first : ((r.device.hear r.stream).1.bind (pressMessage served)).toList =
        (r.device.hear r.stream).1.toList.filterMap (pressMessage served) := by
      cases (r.device.hear r.stream).1 with
      | none => rfl
      | some e =>
          rw [Option.bind_some, Option.toList_some, List.filterMap_cons]
          cases pressMessage served e <;> rfl
    rw [(hear_keeps r.device r.stream).events, List.filterMap_append, ← first, ← List.append_assoc]
    rfl
  have turned (r : RelayState) (poll : PollAnswer) : (r.turn t served poll).osc.sent ++ ((r.turn t served poll).device.eventsOf
      (r.turn t served poll).stream.reduceOption).filterMap (pressMessage served) =
        r.osc.sent ++ (r.device.eventsOf r.stream.reduceOption).filterMap (pressMessage served) := by
    rw [RelayState.turn]
    cases poll.monomeReady with
    | true => cases poll.oscReady <;> exact heard r
    | false => cases poll.oscReady <;> rfl
  induction polls generalizing r with
  | nil => rfl
  | cons poll rest ih =>
      rw [relayed]
      cases poll.hangup with
      | true => rfl
      | false => exact (ih (r.turn t served poll)).trans (turned r poll)

omit wired in
theorem relayed_packets (polls : List PollAnswer) (r : RelayState) :
    (relayed t served polls r).osc.inbox =
      r.osc.inbox.drop ((polls.takeWhile fun poll => ! poll.hangup).countP PollAnswer.oscReady) := by
  induction polls generalizing r with
  | nil => rfl
  | cons poll rest ih =>
      rw [relayed]
      cases hangup : poll.hangup with
      | true => rw [List.takeWhile_cons_of_neg (by simp [hangup])]; rfl
      | false =>
          rw [List.takeWhile_cons_of_pos (by simp [hangup]), List.countP_cons]
          refine (ih (r.turn t served poll)).trans ?_
          rw [RelayState.turn]
          cases poll.monomeReady <;> cases poll.oscReady <;> simp [RelayState.serveOne, RelayState.hearOne, Nat.add_comm]

-- Whatever poll reports and in whatever order, monomeserial passes on every key
-- event once and in order and makes each call of each packet once and in order,
-- and the two ways do not disturb each other. It ends only when the monome does.
theorem main_loop_relays (polls : List PollAnswer) (device : Device) (stream : List (Option Message))
    (inbox : List (List OscMessage)) (fits : RelayState.Fits fuel ⟨device, stream, ⟨inbox, []⟩, []⟩) (w : ω)
    (queued : holds w (messageSupply stream)) :
    let r := relayed t served polls ⟨device, stream, ⟨inbox, []⟩, []⟩
    ∃ w', mainLoop t P served fuel polls ⟨device, pressHandlers⟩ (w, ⟨inbox, []⟩) =
        .ok ((if polls.any PollAnswer.hangup then some 1 else none, ⟨r.device, pressHandlers⟩), (w', r.osc)) ∧
      holds w' (messageSupply r.stream) ∧ written w' = written w ++ r.drawn ∧
      r.osc.sent ++ (r.device.eventsOf r.stream.reduceOption).filterMap (pressMessage served) =
        (device.eventsOf stream.reduceOption).filterMap (pressMessage served) ∧
      r.osc.inbox = inbox.drop ((polls.takeWhile fun poll => ! poll.hangup).countP PollAnswer.oscReady) := by
  obtain ⟨⟨w', side⟩, ran, line, drawn, osc⟩ := main_loop_mirrors t P served fuel holds written wired (written w) polls
    ⟨device, stream, ⟨inbox, []⟩, []⟩ fits (w, ⟨inbox, []⟩) ⟨queued, (List.append_nil _).symm, rfl⟩
  refine ⟨w', ?_, line, drawn, relayed_presses t served polls _, relayed_packets t served polls _⟩
  rw [← osc]
  exact ran

end Refinement

def seriesRelay : RelayState where
  device := .series ⟨⟨8, 8, .rotate180, none, .unset⟩, 0, 0⟩
  stream := [some (.pair 0x00 0x23), some (.pair 0x10 0x70)]
  osc := ⟨[[⟨"/monome/led", "iii", [0, 1, 1]⟩, ⟨"/monome/led_row", "ii", [2, 5]⟩], [⟨"/monome/clear", "", []⟩]], []⟩
  drawn := []

def seriesPolls : List PollAnswer :=
  [⟨false, true, true, keyEvent false 0 0⟩, ⟨false, false, true, keyEvent false 0 0⟩,
   ⟨false, true, false, keyEvent false 0 0⟩, ⟨true, true, true, keyEvent false 0 0⟩]

theorem series_relay_fits : seriesRelay.Fits 3 where
  short := by decide
  spoken message member := by
    rcases List.mem_cons.mp member with first | later
    · rw [Option.some.inj first]
      trivial
    · rw [Option.some.inj (List.mem_singleton.mp later)]
      trivial
  decodes := ⟨fun _ => by decide, fun _ => by decide, trivial⟩
  typed := by
    unfold seriesRelay Typed
    decide

theorem main_loop_relays_series : ∃ w',
    mainLoop ⟨true, false⟩ link "monome" 3 seriesPolls ⟨seriesRelay.device, pressHandlers⟩
        (⟨[0x00, 0x23, 0x10, 0x70], []⟩, seriesRelay.osc) =
      .ok ((some 1, ⟨seriesRelay.device, pressHandlers⟩),
        (w', ⟨[], [⟨"/monome/press", "iii", [5, 4, 1]⟩, ⟨"/monome/press", "iii", [0, 7, 0]⟩]⟩)) ∧
      w'.incoming = [] ∧ w'.sent = [[0x20, 0x76], [0x45, 0xA0], [0x90]] := by
  obtain ⟨w', ran, line, drawn, -⟩ := main_loop_relays ⟨true, false⟩ link "monome" 3 (Cut Link.incoming) Link.sent link_wired
    seriesPolls seriesRelay.device seriesRelay.stream seriesRelay.osc.inbox series_relay_fits ⟨[0x00, 0x23, 0x10, 0x70], []⟩
    ⟨by decide, rfl⟩
  exact ⟨w', ran, line.2, drawn⟩

end Libmonome
