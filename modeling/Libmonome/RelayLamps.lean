import Libmonome.Attending
import Libmonome.DeviceLamps
import Libmonome.Relay

set_option autoImplicit false

namespace Libmonome

open Picture

variable {ω : Type}

def callsMade (served : String) (packets : List (List OscMessage)) : List OutputCall :=
  packets.flatten.filterMap (callMade served)

def callsPicture (draw : OutputCall → Pic (Nat × Nat) Bool) (calls : List OutputCall) : Pic (Nat × Nat) Bool :=
  calls.foldl (fun shown call => atop (draw call) shown) blank

theorem calls_picture_more (draw : OutputCall → Pic (Nat × Nat) Bool) (calls : List OutputCall) (call : OutputCall) :
    callsPicture draw (calls ++ [call]) = atop (draw call) (callsPicture draw calls) := by
  rw [callsPicture, List.foldl_append]
  rfl

theorem calls_made_more (served : String) (packets : List (List OscMessage)) (n : Nat) :
    callsMade served (packets.take (n + 1)) =
      (packets.headD []).filterMap (callMade served) ++ callsMade served (packets.tail.take n) := by
  cases packets with
  | nil => rw [List.take_nil, List.tail_nil, List.take_nil]; rfl
  | cons packet rest => rw [callsMade, List.take_succ_cons, List.flatten_cons, List.filterMap_append]; rfl

section Served

variable (t : Target) (served : String) (start : Device) (C R : Nat) (lamps : Canvas (Nat × Nat) Bool)

def MessageDrawable (message : OscMessage) : Prop :=
  ∀ call, callMade served message = some call → start.Drawable C R start.monome.rotation call

structure Lit (calls : List OutputCall) (r : RelayState) : Prop where
  remains : start.Remains C R r.device
  shows : Shows start C R lamps r.drawn (callsPicture (start.draw t C R start.monome.rotation) calls)
  tells : ∀ message, some message ∈ r.stream → Device.TellsSize C R message
  drawable : ∀ packet ∈ r.osc.inbox, ∀ message ∈ packet, MessageDrawable served start C R message

theorem messages_show (device : Device) (remains : start.Remains C R device) (messages : List OscMessage)
    (drawable : ∀ message ∈ messages, MessageDrawable served start C R message) (calls : List OutputCall)
    (sent : List (List UInt8))
    (shows : Shows start C R lamps sent (callsPicture (start.draw t C R start.monome.rotation) calls)) :
    Shows start C R lamps (sent ++ messages.flatMap (callFrames t served device))
      (callsPicture (start.draw t C R start.monome.rotation) (calls ++ messages.filterMap (callMade served))) := by
  induction messages generalizing calls sent with
  | nil =>
      rw [List.flatMap_nil, List.filterMap_nil, List.append_nil, List.append_nil]
      exact shows
  | cons message rest ih =>
      have later := ih fun m member => drawable m (List.mem_cons_of_mem _ member)
      rw [List.flatMap_cons, List.filterMap_cons, ← List.append_assoc]
      cases made : callMade served message with
      | none =>
          have quiet : callFrames t served device message = [] := by rw [callFrames, made]
          rw [quiet, List.append_nil]
          exact later calls sent shows
      | some call =>
          obtain ⟨frames, sends, after⟩ := call_shows t start C R lamps device remains call
            (drawable message List.mem_cons_self call made) sent _ shows
          have framed : callFrames t served device message = frames := by
            rw [callFrames, made]
            simp only [sends]
            rfl
          rw [framed, List.append_cons]
          apply later
          rw [calls_picture_more]
          exact after

theorem hear_one_lit (calls : List OutputCall) (r : RelayState) (lit : Lit t served start C R lamps calls r) :
    Lit t served start C R lamps calls (r.hearOne t served) := by
  have within := hear_within (start.Remains C R) r.device r.stream
    (fun d remains m member => after_remains start C R d remains m (lit.tells m member)) lit.remains
  exact ⟨within.1, lit.shows, fun m member => lit.tells m (within.2.subset member), lit.drawable⟩

theorem serve_one_lit (calls : List OutputCall) (r : RelayState) (lit : Lit t served start C R lamps calls r) :
    Lit t served start C R lamps (calls ++ (r.osc.inbox.headD []).filterMap (callMade served)) (r.serveOne t served) where
  remains := lit.remains
  shows := by
    refine messages_show t served start C R lamps r.device lit.remains (r.osc.inbox.headD []) ?_ calls r.drawn lit.shows
    cases inbox : r.osc.inbox with
    | nil => exact fun message member => absurd member List.not_mem_nil
    | cons packet rest => exact lit.drawable packet (by rw [inbox]; exact List.mem_cons_self)
  tells := lit.tells
  drawable packet member := lit.drawable packet (List.mem_of_mem_tail member)

theorem turn_lit (calls : List OutputCall) (r : RelayState) (lit : Lit t served start C R lamps calls r) (poll : PollAnswer) :
    Lit t served start C R lamps
        (calls ++ if poll.oscReady then (r.osc.inbox.headD []).filterMap (callMade served) else []) (r.turn t served poll) ∧
      (r.turn t served poll).osc.inbox = if poll.oscReady then r.osc.inbox.tail else r.osc.inbox := by
  have heard : ∃ r', (if poll.monomeReady then r.hearOne t served else r) = r' ∧ Lit t served start C R lamps calls r' ∧
      r'.osc.inbox = r.osc.inbox := by
    cases poll.monomeReady with
    | false => exact ⟨r, rfl, lit, rfl⟩
    | true => exact ⟨r.hearOne t served, rfl, hear_one_lit t served start C R lamps calls r lit, rfl⟩
  obtain ⟨r', same, now, inbox⟩ := heard
  rw [RelayState.turn, same, ← inbox]
  cases poll.oscReady with
  | false => exact ⟨by rw [if_neg Bool.false_ne_true, List.append_nil]; exact now, rfl⟩
  | true => exact ⟨serve_one_lit t served start C R lamps calls r' now, rfl⟩

theorem relayed_lit (polls : List PollAnswer) (calls : List OutputCall) (r : RelayState)
    (lit : Lit t served start C R lamps calls r) :
    Lit t served start C R lamps (calls ++ callsMade served
        (r.osc.inbox.take ((polls.takeWhile fun poll => ! poll.hangup).countP PollAnswer.oscReady)))
      (relayed t served polls r) := by
  induction polls generalizing calls r with
  | nil =>
      rw [List.takeWhile_nil, List.countP_nil, List.take_zero]
      exact (List.append_nil calls).symm ▸ lit
  | cons poll rest ih =>
      rw [relayed]
      cases hangup : poll.hangup with
      | true =>
          rw [List.takeWhile_cons_of_neg (by simp [hangup]), List.countP_nil, List.take_zero]
          exact (List.append_nil calls).symm ▸ lit
      | false =>
          obtain ⟨turned, inbox⟩ := turn_lit t served start C R lamps calls r lit poll
          have later := ih _ _ turned
          rw [inbox] at later
          rw [List.takeWhile_cons_of_pos (by simp [hangup]), List.countP_cons]
          cases ready : poll.oscReady with
          | true =>
              rw [ready, if_pos rfl, if_pos rfl, List.append_assoc, ← calls_made_more] at later
              exact later
          | false =>
              rw [ready, if_neg Bool.false_ne_true, if_neg Bool.false_ne_true, List.append_nil] at later
              exact later

end Served

theorem main_loop_shows (t : Target) (P : Platform ω) (served : String) (fuel : Nat) (holds : ω → List Supply → Prop)
    (written : ω → List (List UInt8)) (wired : Wired P holds written) (start : Device) (C R : Nat)
    (has : start.HasLamps C R) (positive : 0 < C ∧ 0 < R) (lamps : Canvas (Nat × Nat) Bool) (polls : List PollAnswer)
    (stream : List (Option Message)) (inbox : List (List OscMessage)) (short : stream.length < fuel)
    (spoken : ∀ message, some message ∈ stream → start.Speaks message ∧ Device.TellsSize C R message)
    (typed : ∀ packet ∈ inbox, ∀ message ∈ packet, Typed message)
    (drawable : ∀ packet ∈ inbox, ∀ message ∈ packet, MessageDrawable served start C R message) (w : ω)
    (queued : holds w (messageSupply stream)) :
    ∃ l w' osc sent, mainLoop t P served fuel polls ⟨start, pressHandlers⟩ (w, ⟨inbox, []⟩) =
        .ok ((if polls.any PollAnswer.hangup then some 1 else none, l), (w', osc)) ∧
      written w' = written w ++ sent ∧
      Shows start C R lamps sent (callsPicture (start.draw t C R start.monome.rotation) (callsMade served
        (inbox.take ((polls.takeWhile fun poll => ! poll.hangup).countP PollAnswer.oscReady)))) := by
  have fresh := fresh_remains start C R has
  have fits : RelayState.Fits fuel ⟨start, stream, ⟨inbox, []⟩, []⟩ :=
    ⟨short, fun message member => (spoken message member).1,
      grid_decodes start C R positive start fresh stream.reduceOption
        fun message member => (spoken message (List.reduceOption_mem_iff.mp member)).2,
      typed⟩
  obtain ⟨⟨w', osc⟩, ran, final⟩ := main_loop_mirrors t P served fuel holds written wired (written w) polls
    ⟨start, stream, ⟨inbox, []⟩, []⟩ fits (w, ⟨inbox, []⟩) ⟨queued, (List.append_nil _).symm, rfl⟩
  have lit := relayed_lit t served start C R lamps polls [] ⟨start, stream, ⟨inbox, []⟩, []⟩
    ⟨fresh, nothing_shows start C R lamps, fun message member => (spoken message member).2, drawable⟩
  exact ⟨_, w', osc, _, ran, final.drawn, lit.shows⟩

-- Half way round a series grid, between two presses: a row, a lamp in it put
-- out again, and a packet that comes after the hangup.
def litInbox : List (List OscMessage) :=
  [[⟨"/monome/led_row", "iii", [2, 0x81, 0x01]⟩, ⟨"/monome/nothing", "", []⟩], [⟨"/monome/led", "iii", [7, 2, 0]⟩],
   [⟨"/monome/clear", "i", [1]⟩]]

def litPolls : List PollAnswer :=
  [⟨false, true, true, keyEvent false 0 0⟩, ⟨false, false, true, keyEvent false 0 0⟩, ⟨true, false, true, keyEvent false 0 0⟩]

theorem main_loop_shows_row : ∃ l w' osc sent shown,
    mainLoop ⟨true, false⟩ link "monome" 3 litPolls ⟨.series ⟨⟨8, 16, .rotate180, none, .unset⟩, 0, 0⟩, pressHandlers⟩
        (⟨[0x00, 0x23, 0x10, 0x23], []⟩, ⟨litInbox, []⟩) = .ok ((some 1, l), (w', osc)) ∧ w'.sent = sent ∧
      display (LineGrid.size .series) (LineGrid.lamp .series 16 8) sent.flatten ⟨none, fun _ => false⟩ = ⟨none, shown⟩ ∧
      shown (15, 5) = true ∧ shown (8, 5) = false ∧ shown (7, 5) = true ∧ shown (0, 0) = false := by
  have typed : ∀ packet ∈ litInbox, ∀ message ∈ packet, Typed message := by
    unfold litInbox Typed
    decide
  have drawable : ∀ packet ∈ litInbox, ∀ message ∈ packet,
      MessageDrawable "monome" (.series ⟨⟨8, 16, .rotate180, none, .unset⟩, 0, 0⟩) 16 8 message := by
    intro packet member message among call made
    simp only [litInbox, List.mem_cons, List.not_mem_nil, or_false] at member
    rcases member with rfl | rfl | rfl
    · simp only [List.mem_cons, List.not_mem_nil, or_false] at among
      rcases among with rfl | rfl
      · cases made
        exact ⟨by decide, by decide, by decide⟩
      · cases made
    · cases List.mem_singleton.mp among
      cases made
      exact ⟨by decide, by decide⟩
    · cases List.mem_singleton.mp among
      cases made
      trivial
  have spoken : ∀ message, some message ∈ [some (.pair 0x00 0x23), some (.pair 0x10 0x23)] →
      (Device.series ⟨⟨8, 16, .rotate180, none, .unset⟩, 0, 0⟩).Speaks message ∧ Device.TellsSize 16 8 message := by
    intro message member
    simp only [List.mem_cons, Option.some.injEq, List.not_mem_nil, or_false] at member
    rcases member with rfl | rfl
    · exact ⟨trivial, fun frame is => (by cases is)⟩
    · exact ⟨trivial, fun frame is => (by cases is)⟩
  obtain ⟨l, w', osc, sent, ran, wrote, shows⟩ := main_loop_shows ⟨true, false⟩ link "monome" 3 (Cut Link.incoming)
    Link.sent link_wired (.series ⟨⟨8, 16, .rotate180, none, .unset⟩, 0, 0⟩) 16 8 ⟨⟨.inr rfl, .inl rfl⟩, by decide, by decide⟩
    (by decide) (fun _ => false) litPolls [some (.pair 0x00 0x23), some (.pair 0x10 0x23)] litInbox (by decide) spoken typed
    drawable ⟨[0x00, 0x23, 0x10, 0x23], []⟩ ⟨by decide, rfl⟩
  exact ⟨l, w', osc, sent, _, ran, wrote, shows, by decide, by decide, by decide, by decide⟩

end Libmonome
