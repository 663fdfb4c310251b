import Libmonome.Alignment

set_option autoImplicit false

namespace Libmonome

variable {ω : Type}

namespace Device

def readsOn : Device → Bool
  | mext _ => true
  | series _ | m40h _ => false

-- What one next_event call hears of a stream: an event or none, the device
-- after it, and what is left.
def hear [t : Target] : Device → List (Option Message) → Option MonomeEvent × Device × List (Option Message)
  | device, [] => (none, device, [])
  | device, none :: rest => (none, device, rest)
  | device, some message :: rest =>
      match device.event message with
      | some e => (some e, device.after message, rest)
      | none => if device.readsOn then (device.after message).hear rest else (none, device.after message, rest)

def heard [t : Target] (device : Device) (e : MonomeEvent) (stream : List (Option Message)) : NextEvent Device :=
  ⟨some (if (device.hear stream).1.isSome then 1 else 0), (device.hear stream).2.1, (device.hear stream).1.getD e⟩

theorem hear_event [t : Target] (device : Device) (message : Message) (rest : List (Option Message))
    (reported : MonomeEvent) (event : device.event message = some reported) :
    device.hear (some message :: rest) = (some reported, device.after message, rest) := by
  rw [hear, event]

theorem hear_on [t : Target] (device : Device) (message : Message) (rest : List (Option Message))
    (event : device.event message = none)
    (on : device.readsOn = true) : device.hear (some message :: rest) = (device.after message).hear rest := by
  rw [hear, event]
  exact if_pos on

theorem hear_back [t : Target] (device : Device) (message : Message) (rest : List (Option Message))
    (event : device.event message = none)
    (back : device.readsOn = false) : device.hear (some message :: rest) = (none, device.after message, rest) := by
  rw [hear, event]
  exact if_neg (by rw [back]; exact Bool.false_ne_true)

end Device

structure Heard [t : Target] (device : Device) (stream : List (Option Message)) (event : Option MonomeEvent)
    (next : Device) (rest : List (Option Message)) : Prop where
  spoken : (∀ message, some message ∈ stream → device.Speaks message) → ∀ message, some message ∈ rest → next.Speaks message
  decodes : device.AllDecode stream.reduceOption → next.AllDecode rest.reduceOption
  shorter : rest.length ≤ stream.length
  events : device.eventsOf stream.reduceOption = event.toList ++ next.eventsOf rest.reduceOption

theorem hear_keeps [t : Target] (device : Device) (stream : List (Option Message)) :
    Heard device stream (device.hear stream).1 (device.hear stream).2.1 (device.hear stream).2.2 := by
  induction stream generalizing device with
  | nil => exact ⟨id, id, le_refl _, rfl⟩
  | cons head tail ih =>
      cases head with
      | none =>
          exact ⟨fun spoken message member => spoken message (List.mem_cons_of_mem _ member), id, Nat.le_succ _, rfl⟩
      | some message =>
          have later (spoken : ∀ m, some m ∈ some message :: tail → device.Speaks m) :
              ∀ m, some m ∈ tail → (device.after message).Speaks m :=
            fun m member => (speaks_after device message m).mpr (spoken m (List.mem_cons_of_mem _ member))
          have all : device.eventsOf (some message :: tail).reduceOption =
              (device.event message).toList ++ (device.after message).eventsOf tail.reduceOption := rfl
          cases event : device.event message with
          | some reported =>
              rw [Device.hear_event device message tail reported event]
              exact ⟨later, fun decodes => decodes.2, Nat.le_succ _, by rw [all, event]⟩
          | none =>
              cases reads : device.readsOn with
              | true =>
                  obtain ⟨spoken, decodes, shorter, events⟩ := ih (device.after message)
                  rw [Device.hear_on device message tail event reads]
                  exact ⟨fun said => spoken (later said), fun all => decodes all.2, Nat.le_succ_of_le shorter,
                    by rw [all, event, ← events]; rfl⟩
              | false =>
                  rw [Device.hear_back device message tail event reads]
                  exact ⟨later, fun decodes => decodes.2, Nat.le_succ _, by rw [all, event]⟩

section Fed

variable (P : Platform ω) (holds : ω → List Supply → Prop) (feeds : Feeds P holds)
include feeds

theorem mext_hears [t : Target] (self : Mext) (stream : List (Option Message)) (fuel : Nat)
    (enough : stream.length < fuel) (msg : MextMsg) (e : MonomeEvent) (w : ω)
    (spoken : ∀ message, some message ∈ stream → (Device.mext self).Speaks message)
    (decodes : (Device.mext self).AllDecode stream.reduceOption) (queued : holds w (messageSupply stream)) :
    ∃ next w', mextNextEventLoop P fuel msg self e w = .ok (next, w') ∧
      (⟨next.status, .mext next.self, next.event⟩ : NextEvent Device) = (Device.mext self).heard e stream ∧
      holds w' (messageSupply ((Device.mext self).hear stream).2.2) := by
  induction stream generalizing fuel msg self w with
  | nil =>
      obtain ⟨old, w', got, left⟩ := read_msg_drained P holds feeds msg w queued
      cases fuel with
      | zero => exact absurd enough (Nat.not_lt_zero _)
      | succ fuel => exact ⟨_, w', next_event_ended P fuel msg self e w w' 0 old got (by decide), rfl, left⟩
  | cons head tail ih =>
      cases fuel with
      | zero => exact absurd enough (Nat.not_lt_zero _)
      | succ fuel =>
          have shorter : tail.length < fuel := Nat.lt_of_succ_lt_succ enough
          cases head with
          | none =>
              obtain ⟨old, w', got, left⟩ := read_msg_pause P holds feeds msg w (messageSupply tail) queued
              exact ⟨_, w', next_event_ended P fuel msg self e w w' 0 old got (by decide), rfl, left⟩
          | some message =>
              cases message with
              | pair b0 b1 => exact (spoken (.pair b0 b1) List.mem_cons_self).elim
              | frame frame =>
                  have listed : Listed frame.header := spoken (.frame frame) List.mem_cons_self
                  obtain ⟨status, w', got, came, left⟩ := read_msg_frame P holds feeds msg w frame (messageSupply tail) queued
                  have fits : Decodes self frame := decodes.1
                  have handled := frame_handled self e msg frame listed
                  rw [if_pos fits] at handled
                  have turned := next_event_handled P fuel msg self e w w' status _ _ got came handled
                  cases event : frameEvent self.monome frame with
                  | none =>
                      rw [event] at turned
                      rw [Device.heard, Device.hear_on (.mext self) (.frame frame) tail event rfl]
                      obtain ⟨next, last, ran, means, held⟩ := ih (frameSelf self frame) fuel shorter (frame.over msg) w'
                        (fun m member => (speaks_after (.mext self) (.frame frame) m).mpr
                          (spoken m (List.mem_cons_of_mem _ member))) decodes.2 left
                      exact ⟨next, last, turned.trans ran, means, held⟩
                  | some reported =>
                      rw [event] at turned
                      rw [Device.heard, Device.hear_event (.mext self) (.frame frame) tail reported event]
                      exact ⟨_, w', turned, rfl, left⟩

theorem pair_hears [t : Target] {σ : Type} (device : σ → Device) (self : σ) (e : MonomeEvent) (w : ω)
    (switch : UInt8 × UInt8 → Except Fault (NextEvent σ))
    (switched : ∀ b0 b1, (device self).Decodes (.pair b0 b1) → ∃ h, switch (b0, b1) = .ok h ∧
      (⟨h.status, device h.self, h.event⟩ : NextEvent Device) =
        ⟨some (if ((device self).event (.pair b0 b1)).isSome then 1 else 0), (device self).after (.pair b0 b1),
          ((device self).event (.pair b0 b1)).getD e⟩)
    (pairs : ∀ message, (device self).Speaks message → ∃ b0 b1, message = .pair b0 b1)
    (back : (device self).readsOn = false) (stream : List (Option Message))
    (spoken : ∀ message, some message ∈ stream → (device self).Speaks message)
    (decodes : (device self).AllDecode stream.reduceOption) (queued : holds w (messageSupply stream)) :
    ∃ next w', pairNextEvent P self e switch w = .ok (next, w') ∧
      (⟨next.status, device next.self, next.event⟩ : NextEvent Device) = (device self).heard e stream ∧
      holds w' (messageSupply ((device self).hear stream).2.2) := by
  have idle (none : (P.read 2 w).1.status = 0) :
      pairNextEvent P self e switch w = .ok (⟨some 0, self, e⟩, (P.read 2 w).2) := by
    rw [pairNextEvent, io_call_bind, none, if_pos (by decide)]
    rfl
  cases stream with
  | nil =>
      obtain ⟨none, left⟩ := feeds.drained 2 w (by decide) queued
      exact ⟨_, _, idle none, rfl, left⟩
  | cons head tail =>
      cases head with
      | none =>
          obtain ⟨none, left⟩ := feeds.pause 2 w (messageSupply tail) (by decide) queued
          exact ⟨_, _, idle none, rfl, left⟩
      | some message =>
          obtain ⟨b0, b1, rfl⟩ := pairs message (spoken message List.mem_cons_self)
          obtain ⟨read, left⟩ := pair_next_event_piece P holds feeds e w self switch b0 b1 (messageSupply tail) queued
          obtain ⟨h, ok, means⟩ := switched b0 b1 decodes.1
          have ran : pairNextEvent P self e switch w = .ok (h, (P.read 2 w).2) := by
            rw [read, ok]
            rfl
          refine ⟨h, _, ran, ?_⟩
          rw [means]
          cases event : (device self).event (.pair b0 b1) with
          | none =>
              rw [Device.heard, Device.hear_back (device self) (.pair b0 b1) tail event back]
              exact ⟨rfl, left⟩
          | some reported =>
              rw [Device.heard, Device.hear_event (device self) (.pair b0 b1) tail reported event]
              exact ⟨rfl, left⟩

theorem next_event_hears [t : Target] (device : Device) (stream : List (Option Message)) (fuel : Nat)
    (enough : stream.length < fuel) (e : MonomeEvent) (w : ω)
    (spoken : ∀ message, some message ∈ stream → device.Speaks message) (decodes : device.AllDecode stream.reduceOption)
    (queued : holds w (messageSupply stream)) :
    ∃ w', device.nextEvent P fuel e w = .ok (device.heard e stream, w') ∧
      holds w' (messageSupply (device.hear stream).2.2) := by
  have pairs (device : Device) (back : device.readsOn = false) (message : Message) (speaks : device.Speaks message) :
      ∃ b0 b1, message = .pair b0 b1 := by
    cases message with
    | pair b0 b1 => exact ⟨b0, b1, rfl⟩
    | frame frame =>
        cases device with
        | mext self => cases back
        | series self => exact speaks.elim
        | m40h self => exact speaks.elim
  cases device with
  | mext self =>
      obtain ⟨next, w', ran, means, held⟩ := mext_hears P holds feeds self stream fuel enough (.fresh 0 0) e w spoken decodes queued
      refine ⟨w', ?_, held⟩
      rw [← means]
      exact io_bind_ok _ _ _ _ _ ran
  | series self =>
      obtain ⟨next, w', ran, means, held⟩ := pair_hears P holds feeds .series self e w (seriesSwitch self e)
        (fun b0 b1 decodes => ⟨_, by rw [series_switched]; exact if_pos decodes, rfl⟩) (pairs _ rfl) rfl stream spoken
        decodes queued
      refine ⟨w', ?_, held⟩
      rw [← means]
      exact io_bind_ok _ _ _ _ _ ran
  | m40h self =>
      obtain ⟨next, w', ran, means, held⟩ := pair_hears P holds feeds .m40h self e w (m40hSwitch self e)
        (fun b0 b1 decodes => ⟨_, by rw [m40h_switched]; exact if_pos decodes, rfl⟩) (pairs _ rfl) rfl stream spoken
        decodes queued
      refine ⟨w', ?_, held⟩
      rw [← means]
      exact io_bind_ok _ _ _ _ _ ran

end Fed

end Libmonome
