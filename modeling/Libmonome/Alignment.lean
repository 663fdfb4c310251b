import Libmonome.Mext.Stream
import Libmonome.Posix
import Libmonome.Reports

set_option autoImplicit false

namespace Libmonome

variable {ω : Type}

namespace Device

def eventsOf [t : Target] : Device → List Message → List MonomeEvent
  | _, [] => []
  | device, message :: rest => (device.event message).toList ++ (device.after message).eventsOf rest

def AllDecode : Device → List Message → Prop
  | _, [] => True
  | device, message :: rest => device.Decodes message ∧ (device.after message).AllDecode rest

-- A number of next_event calls in a row, whatever they return, with the status
-- of each and the event record after it.
def polls [t : Target] (P : Platform ω) (fuel : Nat) :
    Nat → MonomeEvent → Device → Io ω (List (Option Int32 × MonomeEvent) × Device)
  | 0, _, device => return ([], device)
  | calls + 1, e, device => do
      let next ← device.nextEvent P fuel e
      let rest ← polls P fuel calls next.event next.self
      return ((next.status, next.event) :: rest.1, rest.2)

end Device

def reportedEvents (results : List (Option Int32 × MonomeEvent)) : List MonomeEvent :=
  results.filterMap fun result => if Positive result.1 then some result.2 else none

def messageSupply : List (Option Message) → List Supply
  | [] => []
  | none :: rest => .pause :: messageSupply rest
  | some message :: rest => message.pieces ++ messageSupply rest

structure DeviceTurn [t : Target] (start : Device) (stream rest : List (Option Message))
    (next : NextEvent Device) : Prop where
  spoken : ∀ message, some message ∈ rest → next.self.Speaks message
  state : next.self.afterAll rest.reduceOption = start.afterAll stream.reduceOption
  decodes : next.self.AllDecode rest.reduceOption
  shorter : rest.length ≤ stream.length - 1
  outcome : (next.status = some 1 ∧
      start.eventsOf stream.reduceOption = next.event :: next.self.eventsOf rest.reduceOption) ∨
    (next.status = some 0 ∧ start.eventsOf stream.reduceOption = next.self.eventsOf rest.reduceOption)

theorem speaks_after (device : Device) (heard message : Message) :
    (device.after heard).Speaks message ↔ device.Speaks message := by
  cases device <;> cases heard <;> cases message <;> exact Iff.rfl

section Mext

variable (self : Mext) (frames : List Frame) (stream : List (Option Frame))

theorem mext_spoken_frames (self : Mext) (messages : List (Option Message))
    (spoken : ∀ message, some message ∈ messages → (Device.mext self).Speaks message) :
    ∃ frames : List (Option Frame), messages = frames.map (Option.map .frame) ∧
      ∀ frame, some frame ∈ frames → Listed frame.header := by
  induction messages with
  | nil => exact ⟨[], rfl, fun _ member => absurd member List.not_mem_nil⟩
  | cons head tail ih =>
      obtain ⟨frames, rfl, listed⟩ := ih fun message member => spoken message (List.mem_cons_of_mem _ member)
      cases head with
      | none =>
          refine ⟨none :: frames, rfl, fun frame member => listed frame ?_⟩
          simpa using member
      | some message =>
          cases message with
          | pair b0 b1 => exact (spoken (.pair b0 b1) List.mem_cons_self).elim
          | frame first =>
              have head : Listed first.header := spoken (.frame first) List.mem_cons_self
              refine ⟨some first :: frames, rfl, fun frame member => ?_⟩
              rcases List.mem_cons.mp member with same | later
              · rw [Option.some.inj same]
                exact head
              · exact listed frame later

theorem mext_message_supply : messageSupply (stream.map (Option.map .frame)) = streamSupply stream := by
  induction stream with
  | nil => rfl
  | cons head tail ih =>
      cases head with
      | none => exact congrArg (Supply.pause :: ·) ih
      | some frame => exact congrArg (frame.pieces ++ ·) ih

theorem mext_messages : (stream.map (Option.map Message.frame)).reduceOption = stream.reduceOption.map .frame := by
  induction stream with
  | nil => rfl
  | cons head tail ih =>
      cases head with
      | none => exact ih
      | some frame => exact congrArg (Message.frame frame :: ·) ih

theorem mext_events_of [t : Target] : (Device.mext self).eventsOf (frames.map .frame) = framesEvents self frames := by
  induction frames generalizing self with
  | nil => rfl
  | cons frame rest ih => exact congrArg ((frameEvent self.monome frame).toList ++ ·) (ih (frameSelf self frame))

theorem mext_after_all : (Device.mext self).afterAll (frames.map .frame) = .mext (framesSelf self frames) := by
  induction frames generalizing self with
  | nil => rfl
  | cons frame rest ih => exact ih (frameSelf self frame)

theorem mext_all_decode : (Device.mext self).AllDecode (frames.map .frame) ↔ AllDecode self frames := by
  induction frames generalizing self with
  | nil => exact Iff.rfl
  | cons frame rest ih => exact and_congr Iff.rfl (ih (frameSelf self frame))

end Mext

section Fed

variable (P : Platform ω) (holds : ω → List Supply → Prop) (feeds : Feeds P holds) (fuel : Nat) (e : MonomeEvent) (w : ω)
include feeds

theorem mext_device_turn [t : Target] (self : Mext) (stream : List (Option Message)) (enough : stream.length < fuel)
    (spoken : ∀ message, some message ∈ stream → (Device.mext self).Speaks message)
    (decodes : (Device.mext self).AllDecode stream.reduceOption) (queued : holds w (messageSupply stream)) :
    ∃ next w' rest, (Device.mext self).nextEvent P fuel e w = .ok (next, w') ∧ holds w' (messageSupply rest) ∧
      DeviceTurn (.mext self) stream rest next := by
  obtain ⟨frames, rfl, listed⟩ := mext_spoken_frames self stream spoken
  rw [mext_messages, mext_all_decode] at decodes
  rw [mext_message_supply] at queued
  rw [List.length_map] at enough
  obtain ⟨next, w', rest, ran, held, turn⟩ :=
    next_event_stream P holds feeds frames fuel enough (.fresh 0 0) self e w listed decodes queued
  refine ⟨⟨next.status, .mext next.self, next.event⟩, w', rest.map (Option.map .frame), io_bind_ok _ _ _ _ _ ran, ?_, ?_⟩
  · rw [mext_message_supply]
    exact held
  · refine ⟨?_, ?_, ?_, ?_, ?_⟩
    · intro message member
      obtain ⟨frame, among, same⟩ := List.mem_map.mp member
      cases frame with
      | none => cases same
      | some frame =>
          cases same
          exact listed frame (turn.left.subset among)
    · simp only [mext_messages, mext_after_all, turn.state]
    · simp only [mext_messages, mext_all_decode]
      exact turn.decodes
    · simp only [List.length_map]
      rcases turn.outcome with ⟨_, less, _⟩ | ⟨_, _, _, done | ⟨_, less⟩⟩
      · omega
      · rw [done]
        exact Nat.zero_le _
      · omega
    · simp only [mext_messages, mext_events_of]
      rcases turn.outcome with ⟨status, _, events⟩ | ⟨status, _, events, _⟩
      · exact .inl ⟨status, events⟩
      · exact .inr ⟨status, events⟩

theorem pair_next_event_piece {σ : Type} (self : σ) (switch : UInt8 × UInt8 → Except Fault (NextEvent σ)) (b0 b1 : UInt8)
    (more : List Supply) (queued : holds w (.piece [b0, b1] :: more)) :
    pairNextEvent P self e switch w = Io.check (switch (b0, b1)) (P.read 2 w).2 ∧ holds (P.read 2 w).2 more := by
  obtain ⟨stored, counted, left⟩ := feeds.piece w [b0, b1] more (List.cons_ne_nil _ _) queued
  have whole : (P.read 2 w).1.status = Int64.ofNat 2 := counted
  have pair : (P.read 2 w).1.stored = [b0, b1] := stored
  refine ⟨?_, left⟩
  rw [pairNextEvent, io_call_bind, whole, if_neg (by decide), readPair, pair]
  rfl

theorem pair_device_turn [t : Target] {σ : Type} (device : σ → Device) (self : σ)
    (switch : UInt8 × UInt8 → Except Fault (NextEvent σ))
    (switched : ∀ b0 b1, (device self).Decodes (.pair b0 b1) → ∃ h, switch (b0, b1) = .ok h ∧
      (⟨h.status, device h.self, h.event⟩ : NextEvent Device) =
        ⟨some (if ((device self).event (.pair b0 b1)).isSome then 1 else 0), (device self).after (.pair b0 b1),
          ((device self).event (.pair b0 b1)).getD e⟩)
    (pairs : ∀ message, (device self).Speaks message → ∃ b0 b1, message = .pair b0 b1)
    (stream : List (Option Message)) (spoken : ∀ message, some message ∈ stream → (device self).Speaks message)
    (decodes : (device self).AllDecode stream.reduceOption) (queued : holds w (messageSupply stream)) :
    ∃ next w' rest, pairNextEvent P self e switch w = .ok (next, w') ∧ holds w' (messageSupply rest) ∧
      DeviceTurn (device self) stream rest ⟨next.status, device next.self, next.event⟩ := by
  have idle : ∀ status : Int64, status = 0 → (P.read 2 w).1.status = status →
      pairNextEvent P self e switch w = .ok (⟨some 0, self, e⟩, (P.read 2 w).2) := by
    rintro _ rfl none
    rw [pairNextEvent, io_call_bind, none, if_pos (by decide)]
    rfl
  cases stream with
  | nil =>
      obtain ⟨none, left⟩ := feeds.drained 2 w (by decide) queued
      exact ⟨_, _, [], idle 0 rfl none, left, spoken, rfl, trivial, Nat.zero_le _, .inr ⟨rfl, rfl⟩⟩
  | cons head tail =>
      cases head with
      | none =>
          obtain ⟨none, left⟩ := feeds.pause 2 w (messageSupply tail) (by decide) queued
          exact ⟨_, _, tail, idle 0 rfl none, left, fun message member => spoken message (List.mem_cons_of_mem _ member),
            rfl, decodes, le_refl _, .inr ⟨rfl, rfl⟩⟩
      | some message =>
          obtain ⟨b0, b1, rfl⟩ := pairs message (spoken message List.mem_cons_self)
          obtain ⟨read, left⟩ := pair_next_event_piece P holds feeds e w self switch b0 b1 (messageSupply tail) queued
          obtain ⟨h, ok, means⟩ := switched b0 b1 decodes.1
          have ran : pairNextEvent P self e switch w = .ok (h, (P.read 2 w).2) := by
            rw [read, ok]
            rfl
          refine ⟨h, _, tail, ran, left, ?_⟩
          rw [means]
          refine ⟨fun message member => ?_, rfl, decodes.2, le_refl _, ?_⟩
          · exact (speaks_after _ _ _).mpr (spoken message (List.mem_cons_of_mem _ member))
          · show (some (if ((device self).event (.pair b0 b1)).isSome then (1 : Int32) else 0) = some 1 ∧
              ((device self).event (.pair b0 b1)).toList ++ _ = _) ∨ _
            cases event : (device self).event (.pair b0 b1) with
            | none =>
                refine .inr ⟨rfl, ?_⟩
                show ((device self).event (.pair b0 b1)).toList ++ _ = _
                rw [event]
                rfl
            | some reported => exact .inl ⟨rfl, rfl⟩

theorem device_turn [t : Target] (device : Device) (stream : List (Option Message)) (enough : stream.length < fuel)
    (spoken : ∀ message, some message ∈ stream → device.Speaks message)
    (decodes : device.AllDecode stream.reduceOption) (queued : holds w (messageSupply stream)) :
    ∃ next w' rest, device.nextEvent P fuel e w = .ok (next, w') ∧ holds w' (messageSupply rest) ∧
      DeviceTurn device stream rest next := by
  cases device with
  | mext self => exact mext_device_turn P holds feeds fuel e w self stream enough spoken decodes queued
  | series self =>
      obtain ⟨next, w', rest, ran, held, turn⟩ := pair_device_turn P holds feeds e w .series self (seriesSwitch self e)
        (fun b0 b1 decodes => ⟨_, by rw [series_switched]; exact if_pos decodes, rfl⟩)
        (fun message spoken => by cases message with
          | frame frame => exact spoken.elim
          | pair b0 b1 => exact ⟨b0, b1, rfl⟩)
        stream spoken decodes queued
      exact ⟨_, w', rest, io_bind_ok _ _ _ _ _ ran, held, turn⟩
  | m40h self =>
      obtain ⟨next, w', rest, ran, held, turn⟩ := pair_device_turn P holds feeds e w .m40h self (m40hSwitch self e)
        (fun b0 b1 decodes => ⟨_, by rw [m40h_switched]; exact if_pos decodes, rfl⟩)
        (fun message spoken => by cases message with
          | frame frame => exact spoken.elim
          | pair b0 b1 => exact ⟨b0, b1, rfl⟩)
        stream spoken decodes queued
      exact ⟨_, w', rest, io_bind_ok _ _ _ _ _ ran, held, turn⟩

theorem polls_stream [t : Target] (device : Device) (stream : List (Option Message)) (calls : Nat)
    (enough : stream.length < fuel) (enoughCalls : stream.length ≤ calls)
    (spoken : ∀ message, some message ∈ stream → device.Speaks message) (decodes : device.AllDecode stream.reduceOption)
    (queued : holds w (messageSupply stream)) :
    ∃ results w', device.polls P fuel calls e w = .ok ((results, device.afterAll stream.reduceOption), w') ∧
      reportedEvents results = device.eventsOf stream.reduceOption ∧ (∀ result ∈ results, result.1 = some 0 ∨ result.1 = some 1) ∧
      holds w' [] := by
  induction calls generalizing device stream e w with
  | zero =>
      have empty : stream = [] := List.length_eq_zero_iff.mp (Nat.le_zero.mp enoughCalls)
      subst empty
      exact ⟨[], w, rfl, rfl, by simp, queued⟩
  | succ calls ih =>
      obtain ⟨next, w', rest, ran, held, turn⟩ := device_turn P holds feeds fuel e w device stream enough spoken decodes queued
      have shorter := turn.shorter
      obtain ⟨results, last, polled, events, statuses, drained⟩ := ih next.event w' next.self rest (by omega) (by omega)
        turn.spoken turn.decodes held
      refine ⟨(next.status, next.event) :: results, last, ?_, ?_, ?_, drained⟩
      · rw [Device.polls, io_bind_ok _ _ _ _ _ ran, io_bind_ok _ _ _ _ _ polled, turn.state]
        rfl
      · rcases turn.outcome with ⟨status, all⟩ | ⟨status, all⟩
        · have positive : Positive next.status := ⟨1, status, by decide⟩
          rw [all, ← events, reportedEvents, List.filterMap_cons, if_pos positive]
          rfl
        · have nothing : ¬ Positive next.status := by
            rw [status]
            decide
          rw [all, ← events, reportedEvents, List.filterMap_cons, if_neg nothing]
          rfl
      · intro result member
        rcases List.mem_cons.mp member with same | later
        · rw [same]
          exact turn.outcome.symm.imp And.left And.left
        · exact statuses result later

end Fed

theorem uninterrupted_stream_kept [t : Target] (device : Device) (stream : List (Option Message))
    (spoken : ∀ message, some message ∈ stream → device.Speaks message)
    (decodes : device.AllDecode stream.reduceOption) (line : List Arrival)
    (script : Scripted line (messageSupply stream)) (e : MonomeEvent) (fuel calls : Nat) (enough : stream.length < fuel)
    (enoughCalls : stream.length ≤ calls) :
    ∃ results line', device.polls scripted fuel calls e line =
        .ok ((results, device.afterAll stream.reduceOption), line') ∧
      reportedEvents results = device.eventsOf stream.reduceOption ∧
      (∀ result ∈ results, result.1 = some 0 ∨ result.1 = some 1) ∧ Scripted line' [] :=
  polls_stream scripted Scripted scripted_feeds fuel e line device stream calls enough enoughCalls spoken decodes script

theorem uninterrupted_stream_kept_late :
    ∃ results line', (Device.m40h ⟨⟨8, 8, .rotate0, none, .unset⟩, 0, 0⟩).polls (t := ⟨true, false⟩) scripted 4 3
        (keyEvent false 0 0)
        [.byte 0x01, .interrupt, .late, .byte 0x23, .silence, .byte 0x00, .byte 0x23] =
        .ok ((results, .m40h ⟨⟨8, 8, .rotate0, none, .unset⟩, 0, 0⟩), line') ∧
      reportedEvents results = [keyEvent true 2 3, keyEvent false 2 3] := by
  obtain ⟨results, line', polled, events, _⟩ := uninterrupted_stream_kept (t := ⟨true, false⟩)
    (.m40h ⟨⟨8, 8, .rotate0, none, .unset⟩, 0, 0⟩) [some (.pair 0x01 0x23), none, some (.pair 0x00 0x23)]
    (fun message member => by
      have among : message = .pair 0x01 0x23 ∨ message = .pair 0x00 0x23 := by simpa using member
      rcases among with same | same
      · rw [same]
        trivial
      · rw [same]
        trivial)
    ⟨fun _ => trivial, fun _ => trivial, trivial⟩
    [.byte 0x01, .interrupt, .late, .byte 0x23, .silence, .byte 0x00, .byte 0x23]
    (.piece 0x01 [0x23] [.interrupt, .late, .byte 0x23] _ _
      (.interrupt _ _ _ (.late _ _ _ (.byte _ _ _ .done)))
      (.silence _ _ (.piece 0x00 [0x23] [.byte 0x23] [] _ (.byte _ _ _ .done) .done)))
    (keyEvent false 0 0) 4 3 (by decide) (by decide)
  exact ⟨results, line', polled, events⟩

-- The bytes of a line, and what a caller wants of the events in them: all of
-- them in order, from some number of calls on.
def lineBytes (line : List Arrival) : List UInt8 := line.filterMap fun arrival => match arrival with
  | .byte b => some b
  | _ => none

def KeepsMessages [t : Target] (device : Device) (messages : List Message) (line : List Arrival) : Prop :=
  ∀ e, ∃ enough, ∀ fuel calls, enough ≤ fuel → enough ≤ calls → ∃ results last line',
    device.polls scripted fuel calls e line = .ok ((results, last), line') ∧
      reportedEvents results = device.eventsOf messages

-- A silence after the header: the payload read gives up, and the payload is
-- then taken for a message of its own.
theorem interrupted_frame_lost :
    lineBytes [.byte 0x21, .silence, .byte 1, .byte 2] = (Message.frame ⟨0x21, [1, 2], rfl⟩).bytes ∧
      ¬ KeepsMessages (t := ⟨true, false⟩) (.mext mextNew) [.frame ⟨0x21, [1, 2], rfl⟩]
        [.byte 0x21, .silence, .byte 1, .byte 2] := by
  let build : Target := ⟨true, false⟩
  refine ⟨rfl, fun keeps => ?_⟩
  obtain ⟨enough, all⟩ := keeps (keyEvent false 0 0)
  obtain ⟨results, last, line', polled, events⟩ := all (enough + 1) (enough + 2) (by omega) (by omega)
  obtain ⟨rest, drained, none, silent, _, _⟩ := polls_stream scripted Scripted scripted_feeds (enough + 1) (keyEvent false 0 0)
    [] (.mext mextNew) [] enough (Nat.succ_pos _) (Nat.zero_le _) (by simp) trivial .done
  have first : (Device.mext mextNew).nextEvent scripted (enough + 1) (keyEvent false 0 0)
      [.byte 0x21, .silence, .byte 1, .byte 2] =
        .ok (⟨some (-1), .mext mextNew, keyEvent false 0 0⟩, [.byte 1, .byte 2]) := rfl
  have second : (Device.mext mextNew).nextEvent scripted (enough + 1) (keyEvent false 0 0) [.byte 1, .byte 2] =
        .ok (⟨some (-1), .mext mextNew, keyEvent false 0 0⟩, []) := rfl
  rw [Device.polls, io_bind_ok _ _ _ _ _ first, Device.polls, io_bind, io_bind_ok _ _ _ _ _ second,
    io_bind_ok _ _ _ _ _ none] at polled
  cases polled
  have nothing : reportedEvents rest = [keyEvent true 1 2] := events
  rw [silent] at nothing
  cases nothing

end Libmonome
