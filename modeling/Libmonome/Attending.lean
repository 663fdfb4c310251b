import Libmonome.EventLoop
import Libmonome.Hearing

set_option autoImplicit false

namespace Libmonome

variable {ω κ : Type}

-- What an event loop makes of a stream: a next_event call for each wait, up to
-- one that fails, and of the events heard those that have a callback.
def Device.attend [t : Target] (handlers : MonomeEventType → Option κ) :
    List Bool → Device → List (Option Message) → List MonomeEvent × Device × List (Option Message)
  | [], device, stream => ([], device, stream)
  | false :: _, device, stream => ([], device, stream)
  | true :: rest, device, stream =>
      let heard := device.hear stream
      let later := heard.2.1.attend handlers rest heard.2.2
      ((heard.1.filter fun e => (handlers e.eventType).isSome).toList ++ later.1, later.2)

theorem hear_within [t : Target] (known : Device → Prop) (device : Device) (stream : List (Option Message))
    (stays : ∀ d, known d → ∀ m, some m ∈ stream → known (d.after m)) (is : known device) :
    known (device.hear stream).2.1 ∧ (device.hear stream).2.2 <:+ stream := by
  induction stream generalizing device with
  | nil => exact ⟨is, List.suffix_rfl⟩
  | cons head tail ih =>
      cases head with
      | none => exact ⟨is, List.suffix_cons _ _⟩
      | some message =>
          have next := stays device is message List.mem_cons_self
          cases event : device.event message with
          | some e =>
              rw [Device.hear_event device message tail e event]
              exact ⟨next, List.suffix_cons _ _⟩
          | none =>
              cases reads : device.readsOn with
              | true =>
                  obtain ⟨later, among⟩ := ih (device.after message)
                    (fun d old m member => stays d old m (List.mem_cons_of_mem _ member)) next
                  rw [Device.hear_on device message tail event reads]
                  exact ⟨later, among.trans (List.suffix_cons _ _)⟩
              | false =>
                  rw [Device.hear_back device message tail event reads]
                  exact ⟨next, List.suffix_cons _ _⟩

theorem hear_takes [t : Target] (device : Device) (stream : List (Option Message)) :
    (device.hear stream).2.2.length ≤ stream.length - 1 := by
  cases stream with
  | nil => exact le_refl _
  | cons head tail =>
      cases head with
      | none => exact le_refl _
      | some message =>
          cases event : device.event message with
          | some e =>
              rw [Device.hear_event device message tail e event]
              exact le_refl _
          | none =>
              cases reads : device.readsOn with
              | true =>
                  rw [Device.hear_on device message tail event reads]
                  exact (hear_keeps (device.after message) tail).shorter
              | false =>
                  rw [Device.hear_back device message tail event reads]
                  exact le_refl _

theorem attend_within [t : Target] (known : Device → Prop) (handlers : MonomeEventType → Option κ) (answers : List Bool)
    (device : Device) (stream : List (Option Message)) (stays : ∀ d, known d → ∀ m, some m ∈ stream → known (d.after m))
    (is : known device) :
    known (device.attend handlers answers stream).2.1 ∧ (device.attend handlers answers stream).2.2 <:+ stream := by
  induction answers generalizing device stream with
  | nil => exact ⟨is, List.suffix_rfl⟩
  | cons answer rest ih =>
      cases answer with
      | false => exact ⟨is, List.suffix_rfl⟩
      | true =>
          obtain ⟨next, after⟩ := hear_within known device stream stays is
          obtain ⟨last, left⟩ := ih (device.hear stream).2.1 (device.hear stream).2.2
            (fun d old m member => stays d old m (after.subset member)) next
          exact ⟨last, left.trans after⟩

theorem attend_drains [t : Target] (handlers : MonomeEventType → Option κ) (answers : List Bool) (device : Device)
    (stream : List (Option Message)) (answered : answers.all id = true) (enough : stream.length ≤ answers.length) :
    (device.attend handlers answers stream).2.2 = [] := by
  induction answers generalizing device stream with
  | nil => exact List.length_eq_zero_iff.mp (Nat.le_zero.mp enough)
  | cons answer rest ih =>
      cases answer with
      | false => cases answered
      | true =>
          have taken := hear_takes device stream
          exact ih (device.hear stream).2.1 (device.hear stream).2.2 answered
            (taken.trans (Nat.sub_le_of_le_add enough))

theorem attend_keeps [t : Target] (handlers : MonomeEventType → Option κ) (answers : List Bool) (device : Device)
    (stream : List (Option Message)) :
    (device.eventsOf stream.reduceOption).filter (fun e => (handlers e.eventType).isSome) =
      (device.attend handlers answers stream).1 ++ ((device.attend handlers answers stream).2.1.eventsOf
        (device.attend handlers answers stream).2.2.reduceOption).filter fun e => (handlers e.eventType).isSome := by
  induction answers generalizing device stream with
  | nil => rfl
  | cons answer rest ih =>
      cases answer with
      | false => rfl
      | true =>
          rw [Device.attend, (hear_keeps device stream).events, List.filter_append, ih, List.append_assoc]
          congr 1
          cases (device.hear stream).1 with
          | none => rfl
          | some e =>
              rw [Option.toList_some, List.filter_singleton, Option.filter_some]
              cases (handlers e.eventType).isSome <;> rfl

structure Serves (P : Platform ω) (run : Callbacks ω κ) (handlers : MonomeEventType → Option κ) (known : Device → Prop)
    (fine : MonomeEvent → Prop) (held : List MonomeEvent → ω → List Supply → Prop) : Prop where
  feeds : ∀ handled, Feeds P (held handled)
  runs : ∀ handled device e cb w supply, known device → fine e → handlers e.eventType = some cb → held handled w supply →
    ∃ w', run cb e ⟨device, handlers⟩ w = .ok (⟨device, handlers⟩, w') ∧ held (handled ++ [e]) w' supply

section Loops

variable (P : Platform ω) (run : Callbacks ω κ) (handlers : MonomeEventType → Option κ) (known : Device → Prop)
  (fine : MonomeEvent → Prop) (held : List MonomeEvent → ω → List Supply → Prop)
  (serves : Serves P run handlers known fine held) (fuel : Nat)
include serves

theorem event_loop_attends [t : Target] (answers : List Bool) (device : Device) (stream : List (Option Message))
    (e : MonomeEvent) (short : stream.length < fuel) (is : known device)
    (stays : ∀ d, known d → ∀ m, some m ∈ stream → known (d.after m))
    (spoken : ∀ message, some message ∈ stream → device.Speaks message) (decodes : device.AllDecode stream.reduceOption)
    (all : ∀ e ∈ device.eventsOf stream.reduceOption, (handlers e.eventType).isSome → fine e) (handled : List MonomeEvent)
    (w : ω) (queued : held handled w (messageSupply stream)) :
    ∃ w', monomeEventLoop P fuel run answers e ⟨device, handlers⟩ w =
        .ok ((answers.all id, ⟨(device.attend handlers answers stream).2.1, handlers⟩), w') ∧
      held (handled ++ (device.attend handlers answers stream).1) w'
        (messageSupply (device.attend handlers answers stream).2.2) := by
  induction answers generalizing device stream e handled w with
  | nil =>
      refine ⟨w, rfl, ?_⟩
      rw [Device.attend, List.append_nil]
      exact queued
  | cons answer rest ih =>
      cases answer with
      | false =>
          refine ⟨w, rfl, ?_⟩
          rw [Device.attend, List.append_nil]
          exact queued
      | true =>
          obtain ⟨w', ran, left⟩ := next_event_hears P (held handled) (serves.feeds handled) device stream fuel short e w
            spoken decodes queued
          have kept := hear_keeps device stream
          have within := hear_within known device stream stays is
          rw [monomeEventLoop, io_bind_ok _ _ _ _ _ ran, Device.attend, List.all_cons]
          have next (e' : MonomeEvent) (handled' : List MonomeEvent) (w' : ω)
              (left : held handled' w' (messageSupply (device.hear stream).2.2)) :=
            ih (device.hear stream).2.1 (device.hear stream).2.2 e' (Nat.lt_of_le_of_lt kept.shorter short) within.1
              (fun d old m member => stays d old m (within.2.subset member)) (kept.spoken spoken) (kept.decodes decodes)
              (fun e' member => all e' (by rw [kept.events]; exact List.mem_append_right _ member)) handled' w' left
          cases event : (device.hear stream).1 with
          | none =>
              simp only [Device.heard, event]
              exact next _ handled w' left
          | some reported =>
              have member : reported ∈ device.eventsOf stream.reduceOption := by
                rw [kept.events, event]
                exact List.mem_append_left _ (List.mem_singleton.mpr rfl)
              have positive : ¬ (1 : Int32) < 1 := by decide
              simp only [Device.heard, event, Option.isSome_some, if_true, Option.getD_some, if_neg positive]
              cases registered : handlers reported.eventType with
              | none =>
                  rw [Option.filter_some, registered]
                  exact next _ handled w' left
              | some cb =>
                  obtain ⟨w2, called, served⟩ := serves.runs handled (device.hear stream).2.1 reported cb w' _ within.1
                    (all reported member (by rw [registered]; rfl)) registered left
                  obtain ⟨w3, looped, final⟩ := next reported (handled ++ [reported]) w2 served
                  refine ⟨w3, (io_bind_ok _ _ _ _ _ called).trans looped, ?_⟩
                  rw [Option.filter_some, registered]
                  rw [List.append_assoc] at final
                  exact final

end Loops

end Libmonome
