import Libmonome.Alignment
import Libmonome.Osc

set_option autoImplicit false

namespace Libmonome

variable {ω : Type}

-- What a packet may carry for the backend, and the event each message means.
-- An encoder key has no delta; the mext backend reports 0 for it.
inductive OscInput where
  | key (x y state : Int32)
  | encDelta (number delta : Int32)
  | encKey (number state : Int32)
deriving DecidableEq, Repr

namespace OscInput

def message (pathPrefix : String) : OscInput → OscMessage
  | key x y state => ⟨pathPrefix ++ "/grid/key", "iii", [x, y, state]⟩
  | encDelta number delta => ⟨pathPrefix ++ "/enc/delta", "ii", [number, delta]⟩
  | encKey number state => ⟨pathPrefix ++ "/enc/key", "ii", [number, state]⟩

def event : OscInput → MonomeEvent
  | key x y state => ⟨if state &&& 1 = 0 then .buttonUp else .buttonDown, .grid x.toUInt32 y.toUInt32⟩
  | encDelta number delta => ⟨.encoderDelta, .encoder number.toUInt32 delta⟩
  | encKey number state => ⟨if state = 0 then .encoderKeyUp else .encoderKeyDown, .encoder number.toUInt32 0⟩

def fill (e : MonomeEvent) : OscInput → MonomeEvent
  | encKey number state =>
      ⟨if state = 0 then .encoderKeyUp else .encoderKeyDown, .encoder number.toUInt32 e.payload.secondWord⟩
  | input => input.event

end OscInput

def packetQueue : LibloServer (List (List OscMessage)) where
  takePacket queue := (queue.head?, queue.tail)

def oscCalls (lo : LibloServer ω) (self : MonomeOsc) : List MonomeEvent → Io ω (List (Option Int32 × MonomeEvent))
  | [] => return []
  | e :: rest => do
      let next ← protoOscNextEvent lo self e
      let later ← oscCalls lo self rest
      return (next.status, next.event) :: later

def LosesNoEvent (self : MonomeOsc) (packets : List (List OscInput)) (records : Nat → MonomeEvent) : Prop :=
  ∃ enough, ∀ n, enough ≤ n → ∃ results queue,
    oscCalls packetQueue self ((List.range n).map records) (packets.map fun packet => packet.map (OscInput.message self.pathPrefix)) =
      .ok (results, queue) ∧
    reportedEvents results = packets.flatten.map OscInput.event

theorem receive_input (pathPrefix : String) (input : OscInput) (e : MonomeEvent) (haveEvent : Int32) :
    dispatchMessage (input.message pathPrefix) (oscMethods pathPrefix) ⟨some e, haveEvent⟩ = ⟨some (input.fill e), 1⟩ := by
  rw [dispatch_message]
  cases input with
  | key x y state =>
      have found : oscReceive (oscMethods pathPrefix) ((OscInput.key x y state).message pathPrefix) =
          some ⟨pathPrefix ++ "/grid/key", "iii", .press⟩ := by
        simp [oscReceive, oscMethods, OscInput.message]
      rw [found]
      rfl
  | encDelta number delta =>
      have found : oscReceive (oscMethods pathPrefix) ((OscInput.encDelta number delta).message pathPrefix) =
          some ⟨pathPrefix ++ "/enc/delta", "ii", .delta⟩ := by
        simp [oscReceive, oscMethods, OscInput.message]
      rw [found]
      rfl
  | encKey number state =>
      have other : pathPrefix ++ "/enc/delta" ≠ pathPrefix ++ "/enc/key" := by
        intro same
        exact absurd ((String.append_right_inj pathPrefix).mp same) (by decide)
      have found : oscReceive (oscMethods pathPrefix) ((OscInput.encKey number state).message pathPrefix) =
          some ⟨pathPrefix ++ "/enc/key", "ii", .encKey⟩ := by
        simp [oscReceive, oscMethods, OscInput.message]
      rw [found]
      rfl

theorem receive_inputs (pathPrefix : String) (packet : List OscInput) (e : MonomeEvent) (haveEvent : Int32) :
    dispatchPacket (oscMethods pathPrefix) (packet.map (OscInput.message pathPrefix)) ⟨some e, haveEvent⟩ =
      ⟨some (packet.foldl OscInput.fill e), if packet = [] then haveEvent else 1⟩ := by
  induction packet generalizing e haveEvent with
  | nil => rfl
  | cons input rest ih =>
      have later := ih (input.fill e) 1
      rw [ite_self] at later
      rw [List.map_cons, dispatchPacket, List.foldl_cons, receive_input, if_neg (List.cons_ne_nil input rest)]
      exact later

theorem packet_call (self : MonomeOsc) (e : MonomeEvent) (packet : List OscInput) (rest : List (List OscMessage)) :
    protoOscNextEvent packetQueue self e (packet.map (OscInput.message self.pathPrefix) :: rest) =
      .ok (⟨some (if packet = [] then 0 else 1), self, packet.foldl OscInput.fill e⟩, rest) := by
  rw [protoOscNextEvent, io_call_bind]
  simp only [packetQueue, List.head?_cons, List.tail_cons, receive_inputs]
  rfl

theorem empty_call (self : MonomeOsc) (e : MonomeEvent) :
    protoOscNextEvent packetQueue self e [] = .ok (⟨some 0, self, e⟩, []) := rfl

def oscReported : List (List OscInput) → List MonomeEvent → List MonomeEvent
  | packet :: rest, e :: records => (if packet = [] then [] else [packet.foldl OscInput.fill e]) ++ oscReported rest records
  | _, _ => []

theorem reported_zero (e : MonomeEvent) (results : List (Option Int32 × MonomeEvent)) :
    reportedEvents ((some 0, e) :: results) = reportedEvents results := by
  have nothing : ¬ Positive (some 0) := by decide
  rw [reportedEvents, List.filterMap_cons, if_neg nothing]
  rfl

theorem reported_one (e : MonomeEvent) (results : List (Option Int32 × MonomeEvent)) :
    reportedEvents ((some 1, e) :: results) = e :: reportedEvents results := by
  rw [reportedEvents, List.filterMap_cons, if_pos ⟨1, rfl, by decide⟩]
  rfl

theorem osc_calls_report (self : MonomeOsc) (packets : List (List OscInput)) (records : List MonomeEvent) :
    ∃ results queue, oscCalls packetQueue self records
        (packets.map fun packet => packet.map (OscInput.message self.pathPrefix)) = .ok (results, queue) ∧
      reportedEvents results = oscReported packets records := by
  induction records generalizing packets with
  | nil =>
      cases packets with
      | nil => exact ⟨[], [], rfl, rfl⟩
      | cons packet rest => exact ⟨[], _, rfl, rfl⟩
  | cons e records ih =>
      cases packets with
      | nil =>
          obtain ⟨results, queue, ran, reported⟩ := ih []
          refine ⟨_, _, (io_bind_ok _ _ _ _ _ (empty_call self e)).trans (io_bind_ok _ _ _ _ _ ran), ?_⟩
          rw [reported_zero, reported]
          cases records <;> rfl
      | cons packet rest =>
          obtain ⟨results, queue, ran, reported⟩ := ih rest
          refine ⟨_, _, (io_bind_ok _ _ _ _ _ (packet_call self e packet _)).trans (io_bind_ok _ _ _ _ _ ran), ?_⟩
          rw [oscReported, ← reported]
          by_cases empty : packet = []
          · rw [if_pos empty, if_pos empty]
            exact reported_zero _ results
          · rw [if_neg empty, if_neg empty]
            exact reported_one _ results

theorem osc_reported_most (packets : List (List OscInput)) (records : List MonomeEvent) :
    (oscReported packets records).length ≤ packets.flatten.length := by
  induction packets generalizing records with
  | nil => exact Nat.zero_le _
  | cons packet rest ih =>
      cases records with
      | nil => exact Nat.zero_le _
      | cons e records =>
          have later := ih records
          rw [oscReported, List.flatten_cons, List.length_append, List.length_append]
          cases packet with
          | nil => simpa using later
          | cons input packet =>
              rw [if_neg (List.cons_ne_nil input packet), List.length_singleton, List.length_cons]
              omega

def Alone (packet : List OscInput) (e : MonomeEvent) : Prop :=
  packet.length ≤ 1 ∧ ∀ number state, packet = [.encKey number state] → e.payload.secondWord = 0

theorem alone_filled (input : OscInput) (e : MonomeEvent) : Alone [input] e ↔ input.fill e = input.event := by
  cases input with
  | key x y state => exact iff_of_true ⟨Nat.le_refl 1, by simp⟩ rfl
  | encDelta number delta => exact iff_of_true ⟨Nat.le_refl 1, by simp⟩ rfl
  | encKey number state =>
      simp only [Alone, OscInput.fill, OscInput.event, MonomeEvent.mk.injEq, EventPayload.encoder.injEq, true_and]
      constructor
      · intro alone
        exact alone.2 number state rfl
      · intro zero
        exact ⟨Nat.le_refl 1, fun _ _ _ => zero⟩

theorem osc_reported_iff (packets : List (List OscInput)) (records : List MonomeEvent)
    (enough : packets.length ≤ records.length) :
    oscReported packets records = packets.flatten.map OscInput.event ↔
      ∀ pair ∈ packets.zip records, Alone pair.1 pair.2 := by
  induction packets generalizing records with
  | nil => exact iff_of_true rfl (by simp)
  | cons packet rest ih =>
      cases records with
      | nil => exact absurd enough (Nat.not_succ_le_zero _)
      | cons e records =>
          have later := ih records (Nat.le_of_succ_le_succ enough)
          have most := osc_reported_most rest records
          rw [oscReported, List.flatten_cons, List.map_append, List.zip_cons_cons, List.forall_mem_cons, ← later]
          cases packet with
          | nil => simp [Alone]
          | cons input packet =>
              rw [if_neg (List.cons_ne_nil input packet)]
              cases packet with
              | nil => simp [alone_filled]
              | cons second packet =>
                  refine iff_of_false ?_ (by simp [Alone])
                  intro same
                  have sizes := congrArg List.length same
                  simp only [List.length_append, List.length_cons, List.length_map, List.length_nil] at sizes
                  omega

theorem alone_at_each (packets : List (List OscInput)) (records : Nat → MonomeEvent) (n : Nat)
    (long : packets.length ≤ n) :
    (∀ pair ∈ packets.zip ((List.range n).map records), Alone pair.1 pair.2) ↔
      ∀ i packet, packets[i]? = some packet → Alone packet (records i) := by
  have atPlace : ∀ i, i < n → ((List.range n).map records)[i]? = some (records i) := by
    intro i inside
    rw [List.getElem?_map, List.getElem?_range inside]
    rfl
  constructor
  · intro all i packet found
    have inside : i < n := Nat.lt_of_lt_of_le (List.getElem?_eq_some_iff.mp found).1 long
    have paired : (packets.zip ((List.range n).map records))[i]? = some (packet, records i) :=
      List.getElem?_zip_eq_some.mpr ⟨found, atPlace i inside⟩
    exact all (packet, records i) (List.mem_of_getElem? paired)
  · intro all pair member
    obtain ⟨i, found⟩ := List.mem_iff_getElem?.mp member
    obtain ⟨here, record⟩ := List.getElem?_zip_eq_some.mp found
    have inside : i < n := Nat.lt_of_lt_of_le (List.getElem?_eq_some_iff.mp here).1 long
    rw [atPlace i inside] at record
    rw [← Option.some.inj record]
    exact all i pair.1 here

theorem osc_reported_each (packets : List (List OscInput)) (records : Nat → MonomeEvent) (n : Nat)
    (long : packets.length ≤ n) :
    oscReported packets ((List.range n).map records) = packets.flatten.map OscInput.event ↔
      ∀ i packet, packets[i]? = some packet → Alone packet (records i) := by
  have many : packets.length ≤ ((List.range n).map records).length := by
    rw [List.length_map, List.length_range]
    exact long
  exact (osc_reported_iff packets _ many).trans (alone_at_each packets records n long)

-- The backend loses no event exactly when no packet carries two, and no record
-- with something in the place of delta is given to a call that takes an encoder
-- key.
theorem loses_no_event_iff (self : MonomeOsc) (packets : List (List OscInput)) (records : Nat → MonomeEvent) :
    LosesNoEvent self packets records ↔ ∀ i packet, packets[i]? = some packet → Alone packet (records i) := by
  constructor
  · intro loses
    obtain ⟨enough, returned⟩ := loses
    have long := Nat.le_max_right enough packets.length
    obtain ⟨results, queue, ran, reported⟩ := returned (max enough packets.length) (Nat.le_max_left _ _)
    obtain ⟨results', queue', ran', reported'⟩ := osc_calls_report self packets
      ((List.range (max enough packets.length)).map records)
    rw [ran] at ran'
    cases ran'
    rw [reported] at reported'
    exact (osc_reported_each packets records _ long).mp reported'.symm
  · intro alone
    refine ⟨packets.length, ?_⟩
    intro n long
    obtain ⟨results, queue, ran, reported⟩ := osc_calls_report self packets ((List.range n).map records)
    refine ⟨results, queue, ran, ?_⟩
    rw [reported]
    exact (osc_reported_each packets records n long).mpr alone

theorem bundled_press_lost : ¬ LosesNoEvent (cacheOscPaths ⟨8, 8, .rotate0, none, .unset⟩ "/monome")
    [[.key 2 3 1, .key 2 3 0]] (fun _ => keyEvent false 0 0) := by
  intro loses
  obtain ⟨enough, returned⟩ := loses
  obtain ⟨results, queue, ran, reported⟩ := returned (enough + 1) (Nat.le_succ _)
  obtain ⟨results', queue', ran', reported'⟩ := osc_calls_report (cacheOscPaths ⟨8, 8, .rotate0, none, .unset⟩ "/monome")
    [[.key 2 3 1, .key 2 3 0]] ((List.range (enough + 1)).map fun _ => keyEvent false 0 0)
  rw [ran] at ran'
  cases ran'
  rw [reported, List.range_succ_eq_map] at reported'
  cases reported'

end Libmonome
