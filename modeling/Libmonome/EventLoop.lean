import Libmonome.Lib.Agree
import Libmonome.Mext.Frames
import Libmonome.Reports

set_option autoImplicit false

namespace Libmonome

open Agree

variable {ω κ : Type}

structure Listening (κ : Type) where
  device : Device
  handlers : MonomeEventType → Option κ

-- What a callback does: it may call the library on the handle in the event, and
-- register and unregister.
abbrev Callbacks (ω κ : Type) := κ → MonomeEvent → Listening κ → Io ω (Listening κ)

section Loops

variable (P : Platform ω) (fuel : Nat) (run : Callbacks ω κ)

-- monome_event_handle_next. The event record on its stack starts out with
-- whatever is there.
def monomeEventHandle [t : Target] (e : MonomeEvent) (l : Listening κ) : Io ω (Option Int32 × Listening κ) := do
  let next ← l.device.nextEvent P fuel e
  let l := { l with device := next.self }
  match next.status with
  | none => return (none, l)
  | some status =>
      if status ≤ 0 then
        return (some status, l)
      else
        match l.handlers next.event.eventType with
        | none => return (some 0, l)
        | some cb => do
            let l ← run cb next.event l
            return (some 1, l)

-- monome_event_loop of posix.c, for the answers its calls of select get: false
-- for an error, which ends the loop. One event record serves all calls.
def monomeEventLoop [t : Target] : List Bool → MonomeEvent → Listening κ → Io ω (Bool × Listening κ)
  | [], _, l => return (true, l)
  | false :: _, _, l => return (false, l)
  | true :: rest, e, l => do
      let next ← l.device.nextEvent P fuel e
      let l := { l with device := next.self }
      match next.status with
      | none => return (true, l)
      | some status =>
          if status < 1 then
            monomeEventLoop rest next.event l
          else
            match l.handlers next.event.eventType with
            | none => monomeEventLoop rest next.event l
            | some cb => do
                let l ← run cb next.event l
                monomeEventLoop rest next.event l

-- The same waits around monome_event_handle_next, as an application with a loop
-- of its own makes them.
def handleEach [t : Target] : List (Bool × MonomeEvent) → Listening κ → Io ω (Bool × Listening κ)
  | [], l => return (true, l)
  | (false, _) :: _, l => return (false, l)
  | (true, e) :: rest, l => do
      let handled ← monomeEventHandle P fuel run e l
      match handled.1 with
      | none => return (true, handled.2)
      | some _ => handleEach rest handled.2

end Loops

-- What a caller can tell of a next_event call: the record only counts when the
-- status says there is an event in it.
structure SameNext {σ : Type} (a b : NextEvent σ) : Prop where
  status : a.status = b.status
  self : a.self = b.self
  event : Positive a.status → a.event = b.event

theorem not_positive (status : Option Int32) (s : Int32) (is : status = some s) (ended : s ≤ 0) : ¬ Positive status := by
  intro positive
  obtain ⟨s', is', above⟩ := positive
  rw [is] at is'
  cases is'
  exact absurd above (Int32.not_lt.mpr ended)

inductive SameHandled : Except Fault Handled → Except Fault Handled → Prop where
  | passed (self : Mext) (e e' : MonomeEvent) : SameHandled (.ok ⟨false, self, e⟩) (.ok ⟨false, self, e'⟩)
  | filled (self : Mext) (e : MonomeEvent) : SameHandled (.ok ⟨true, self, e⟩) (.ok ⟨true, self, e⟩)
  | faults (fault : Fault) : SameHandled (.error fault) (.error fault)

section Blind

variable (self : Mext) (msg : MextMsg) (e e' : MonomeEvent)

theorem system_blind : SameHandled (mextHandlerSystem self msg e) (mextHandlerSystem self msg e') := by
  rw [mextHandlerSystem, mextHandlerSystem]
  by_cases query : msg.cmd = cmdSystemQueryResponse
  · rw [if_pos query, if_pos query]
    exact .passed _ _ _
  · by_cases id : msg.cmd = cmdSystemId
    · rw [if_neg query, if_neg query, if_pos id, if_pos id]
      exact .passed _ _ _
    · by_cases gridsz : msg.cmd = cmdSystemGridsz
      · rw [if_neg query, if_neg query, if_neg id, if_neg id, if_pos gridsz, if_pos gridsz]
        exact .passed _ _ _
      · rw [if_neg query, if_neg query, if_neg id, if_neg id, if_neg gridsz, if_neg gridsz]
        exact .passed _ _ _

theorem key_blind : SameHandled (mextHandlerKeyGrid self msg e) (mextHandlerKeyGrid self msg e') := by
  rw [mextHandlerKeyGrid, mextHandlerKeyGrid]
  cases unrotateCoords self.monome (msg.byte 0).toUInt32 (msg.byte 1).toUInt32 with
  | error fault => exact .faults fault
  | ok point => exact .filled _ _

theorem encoder_blind : SameHandled (mextHandlerEncoder self msg e) (mextHandlerEncoder self msg e') := by
  rw [mextHandlerEncoder, mextHandlerEncoder]
  by_cases delta : msg.cmd = cmdEncoderDelta
  · rw [if_pos delta, if_pos delta]
    exact .filled _ _
  · by_cases down : msg.cmd = cmdEncoderSwitchDown
    · rw [if_neg delta, if_neg delta, if_pos down, if_pos down]
      exact .filled _ _
    · by_cases up : msg.cmd = cmdEncoderSwitchUp
      · rw [if_neg delta, if_neg delta, if_neg down, if_neg down, if_pos up, if_pos up]
        exact .filled _ _
      · rw [if_neg delta, if_neg delta, if_neg down, if_neg down, if_neg up, if_neg up]
        exact .passed _ _ _

theorem tilt_blind [t : Target] : SameHandled (mextHandlerTilt self msg e) (mextHandlerTilt self msg e') := by
  rw [mextHandlerTilt, mextHandlerTilt]
  by_cases moved : msg.cmd = cmdTilt
  · rw [if_pos moved, if_pos moved]
    exact .filled _ _
  · rw [if_neg moved, if_neg moved]
    exact .passed _ _ _

theorem handlers_blind [t : Target] (addr : UInt8) :
    SameHandled (subsystemEventHandlers addr self msg e) (subsystemEventHandlers addr self msg e') := by
  rw [subsystemEventHandlers]
  by_cases system : addr = ssSystem
  · rw [if_pos system]
    exact system_blind self msg e e'
  · by_cases key : addr = ssKeyGrid
    · rw [if_neg system, if_pos key]
      exact key_blind self msg e e'
    · by_cases encoder : addr = ssEncoder
      · rw [if_neg system, if_neg key, if_pos encoder]
        exact encoder_blind self msg e e'
      · by_cases tilt : addr = ssTilt
        · rw [if_neg system, if_neg key, if_neg encoder, if_pos tilt]
          exact tilt_blind self msg e e'
        · rw [if_neg system, if_neg key, if_neg encoder, if_neg tilt]
          exact .passed _ _ _

def SameHandling (a b : Handled) : Prop :=
  a.propagate = b.propagate ∧ a.self = b.self ∧ (a.propagate = true → a.event = b.event)

theorem handling_agrees [t : Target] (addr : UInt8) :
    Agrees (σ := ω) SameHandling (Io.check (subsystemEventHandlers addr self msg e))
      (Io.check (subsystemEventHandlers addr self msg e')) := by
  intro w
  show Alike _ ((subsystemEventHandlers addr self msg e).map _) ((subsystemEventHandlers addr self msg e').map _)
  generalize subsystemEventHandlers addr self msg e = left, subsystemEventHandlers addr self msg e' = right,
    handlers_blind self msg e e' addr = blind
  cases blind with
  | passed self e e' => exact .answers _ _ w ⟨rfl, rfl, fun no => by cases no⟩
  | filled self e => exact .answers _ _ w ⟨rfl, rfl, fun _ => rfl⟩
  | faults fault => exact .fails fault

end Blind

inductive SameSwitch {σ : Type} : Except Fault (NextEvent σ) → Except Fault (NextEvent σ) → Prop where
  | answers (a b : NextEvent σ) (same : SameNext a b) : SameSwitch (.ok a) (.ok b)
  | faults (fault : Fault) : SameSwitch (.error fault) (.error fault)

theorem same_next {σ : Type} (a : NextEvent σ) : SameNext a a := ⟨rfl, rfl, fun _ => rfl⟩

theorem idle_next {σ : Type} (status : Int32) (ended : status ≤ 0) (self : σ) (e e' : MonomeEvent) :
    SameNext ⟨some status, self, e⟩ ⟨some status, self, e'⟩ :=
  ⟨rfl, rfl, fun positive => absurd positive (not_positive _ status rfl ended)⟩

theorem switch_agrees {σ : Type} (a b : Except Fault (NextEvent σ)) (same : SameSwitch a b) :
    Agrees (σ := ω) SameNext (Io.check a) (Io.check b) := by
  intro w
  cases same with
  | answers a b same => exact .answers a b w same
  | faults fault => exact .fails fault

theorem series_blind (self : Series) (e e' : MonomeEvent) (buf : UInt8 × UInt8) :
    SameSwitch (seriesSwitch self e buf) (seriesSwitch self e' buf) := by
  rw [seriesSwitch, seriesSwitch]
  by_cases key : buf.1 = seriesButtonDown ∨ buf.1 = seriesButtonUp
  · rw [if_pos key, if_pos key]
    cases unrotateCoords self.monome (buf.2 >>> 4).toUInt32 (buf.2 &&& 0x0F).toUInt32 with
    | error fault => exact .faults fault
    | ok point => exact .answers _ _ (same_next _)
  · by_cases x : buf.1 = seriesTilt
    · rw [if_neg key, if_neg key, if_pos x, if_pos x]
      exact .answers _ _ (same_next _)
    · by_cases y : buf.1 = seriesTilt + 1
      · rw [if_neg key, if_neg key, if_neg x, if_neg x, if_pos y, if_pos y]
        exact .answers _ _ (same_next _)
      · rw [if_neg key, if_neg key, if_neg x, if_neg x, if_neg y, if_neg y]
        exact .answers _ _ (idle_next 0 (by decide) self e e')

theorem m40h_blind (self : M40h) (e e' : MonomeEvent) (buf : UInt8 × UInt8) :
    SameSwitch (m40hSwitch self e buf) (m40hSwitch self e' buf) := by
  rw [m40hSwitch, m40hSwitch]
  by_cases key : buf.1 = m40hButtonDown ∨ buf.1 = m40hButtonUp
  · rw [if_pos key, if_pos key]
    cases unrotateCoords self.parent (buf.2 >>> 4).toUInt32 (buf.2 &&& 0xF).toUInt32 with
    | error fault => exact .faults fault
    | ok point => exact .answers _ _ (same_next _)
  · by_cases x : buf.1 = m40hAux1 ∨ buf.1 = m40hAux1 + 1 ∨ buf.1 = m40hAux1 + 2 ∨ buf.1 = m40hAux1 + 3
    · rw [if_neg key, if_neg key, if_pos x, if_pos x]
      exact .answers _ _ (same_next _)
    · by_cases y : buf.1 = m40hAux2 ∨ buf.1 = m40hAux2 + 1 ∨ buf.1 = m40hAux2 + 2 ∨ buf.1 = m40hAux2 + 3
      · rw [if_neg key, if_neg key, if_neg x, if_neg x, if_pos y, if_pos y]
        exact .answers _ _ (same_next _)
      · rw [if_neg key, if_neg key, if_neg x, if_neg x, if_neg y, if_neg y]
        exact .answers _ _ (idle_next 0 (by decide) self e e')

-- A platform whose failed reads answer -1, and which never gets half of a
-- two-byte message: that would be reported with status 1 and the record as it
-- was, and what is in the record would matter.
structure WholeReads (P : Platform ω) : Prop where
  failed : ∀ n w, (P.read n w).1.status < 0 → (P.read n w).1.status = -1
  noHalves : ∀ w, (P.read 2 w).1.status ≠ 1

section Turns

variable (P : Platform ω) (whole : WholeReads P) (e e' : MonomeEvent)
include whole

theorem pair_agrees {σ : Type} (self : σ) (switch switch' : UInt8 × UInt8 → Except Fault (NextEvent σ))
    (same : ∀ buf, SameSwitch (switch buf) (switch' buf)) :
    Agrees SameNext (pairNextEvent P self e switch) (pairNextEvent P self e' switch') := by
  intro w
  rw [pairNextEvent, pairNextEvent, io_call_bind, io_call_bind]
  by_cases short : readShort (P.read 2 w).1.status 2 = true
  · have none : (P.read 2 w).1.status = 0 := ((read_short_iff _).mp short).resolve_right (whole.noHalves w)
    rw [if_pos short, if_pos short, none]
    exact .answers _ _ _ (idle_next 0 (by decide) self e e')
  · rw [if_neg short, if_neg short]
    exact switch_agrees _ _ (same _) _

theorem failed_as_int (n : Nat) (w : ω) (ended : (P.read n w).1.status ≤ 0) : (P.read n w).1.status.toInt32 ≤ 0 := by
  by_cases none : (P.read n w).1.status = 0
  · rw [none]
    decide
  · have below : (P.read n w).1.status < 0 := by
      rw [Int64.lt_iff_toInt_lt]
      rw [Int64.le_iff_toInt_le] at ended
      have differ : (P.read n w).1.status.toInt ≠ (0 : Int64).toInt := fun same => none (Int64.toInt_inj.mp same)
      omega
    rw [whole.failed n w below]
    decide

def FairRead (a b : Int64 × MextMsg) : Prop := a = b ∧ (a.1 ≤ 0 → a.1.toInt32 ≤ 0)

theorem read_msg_agrees (msg : MextMsg) : Agrees FairRead (mextReadMsg P msg) (mextReadMsg P msg) := by
  have came (status : Int64) (msg : MextMsg) (counted : ¬ status ≤ 0) : FairRead (status, msg) (status, msg) :=
    ⟨rfl, fun ended => absurd ended counted⟩
  have failed (msg : MextMsg) : FairRead (-1, msg) (-1, msg) := ⟨rfl, fun _ => (by decide : (-1 : Int64).toInt32 ≤ 0)⟩
  intro w
  rw [mextReadMsg, io_call_bind]
  by_cases ended : (P.read 1 w).1.status ≤ 0
  · rw [if_pos ended]
    exact .answers _ _ _ ⟨rfl, fun _ => failed_as_int P whole 1 w ended⟩
  · rw [if_neg ended]
    have small := header_length_small ((P.read 1 w).1.stored.headD msg.header)
    rw [headerLength] at small
    generalize payloadLength incomingPayloadLengths _ _ = length at small ⊢
    by_cases bare : length = 0
    · rw [if_pos bare]
      exact .answers _ _ _ (came 1 _ (by decide))
    · rw [if_neg bare, io_call_bind]
      by_cases short : (P.read length (P.read 1 w).2).1.status ≠ Int64.ofNat length
      · rw [if_pos short]
        exact .answers _ _ _ (failed _)
      · rw [if_neg short]
        exact .answers _ _ _ (came _ _ (count_positive (1 + length) (by omega) (by omega)))

theorem mext_loop_agrees [t : Target] (fuel : Nat) (msg : MextMsg) (self : Mext) :
    Agrees SameNext (mextNextEventLoop P fuel msg self e) (mextNextEventLoop P fuel msg self e') := by
  induction fuel generalizing msg self e e' with
  | zero =>
      refine agrees_pure _ _ _ ⟨rfl, rfl, ?_⟩
      intro positive
      obtain ⟨s, cut, _⟩ := positive
      cases cut
  | succ fuel ih =>
      refine agrees_bind _ _ _ _ _ _ (read_msg_agrees P whole msg) ?_
      intro read read' same
      obtain ⟨rfl, int⟩ := same
      refine agrees_ite _ _ _ _ _ _ ?_ ?_
      · intro ended
        exact agrees_pure _ _ _ (idle_next _ (int ended) self e e')
      · intro came
        refine agrees_ite _ _ _ _ _ _ ?_ ?_
        · intro system
          refine agrees_bind _ _ _ _ _ _ (handling_agrees self read.2 e e' 0) ?_
          intro h h' same
          rw [same.2.1]
          exact ih _ _ _ _
        · intro other
          refine agrees_bind _ _ _ _ _ _ (handling_agrees self read.2 e e' read.2.addr) ?_
          intro h h' same
          rw [same.1, same.2.1]
          refine agrees_ite _ _ _ _ _ _ ?_ ?_
          · intro event
            refine agrees_pure _ _ _ ⟨rfl, rfl, ?_⟩
            intro _
            exact same.2.2 (same.1.trans event)
          · intro _
            exact ih _ _ _ _

theorem next_event_blind [t : Target] (fuel : Nat) (device : Device) :
    Agrees SameNext (device.nextEvent P fuel e) (device.nextEvent P fuel e') := by
  have lifted {σ : Type} (lift : σ → Device) (a b : NextEvent σ) (same : SameNext a b) :
      Agrees (σ := ω) (ε := Fault) SameNext (pure ⟨a.status, lift a.self, a.event⟩) (pure ⟨b.status, lift b.self, b.event⟩) :=
    agrees_pure _ _ _ ⟨same.status, congrArg lift same.self, same.event⟩
  cases device with
  | mext self => exact agrees_bind _ _ _ _ _ _ (mext_loop_agrees P whole e e' fuel _ self) (lifted .mext)
  | series self =>
      exact agrees_bind _ _ _ _ _ _ (pair_agrees P whole e e' self _ _ (series_blind self e e')) (lifted .series)
  | m40h self =>
      exact agrees_bind _ _ _ _ _ _ (pair_agrees P whole e e' self _ _ (m40h_blind self e e')) (lifted .m40h)

end Turns

theorem event_loop_handles [t : Target] (P : Platform ω) (whole : WholeReads P) (fuel : Nat) (run : Callbacks ω κ)
    (turns : List (Bool × MonomeEvent)) (e : MonomeEvent) (l : Listening κ) :
    monomeEventLoop P fuel run (turns.map Prod.fst) e l = handleEach P fuel run turns l := by
  apply agrees_eq
  induction turns generalizing e l with
  | nil => exact agrees_self Eq (fun _ => rfl) _
  | cons turn rest ih =>
      obtain ⟨ready, record⟩ := turn
      cases ready with
      | false => exact agrees_self Eq (fun _ => rfl) _
      | true =>
          rw [List.map_cons, monomeEventLoop, handleEach, monomeEventHandle, bind_assoc]
          refine agrees_bind _ _ _ _ _ _ (next_event_blind P whole e record fuel l.device) ?_
          intro next next' same
          obtain ⟨status, self, event⟩ := same
          rw [← status, ← self]
          cases now : next.status with
          | none => exact agrees_self Eq (fun _ => rfl) _
          | some s =>
              by_cases ended : s ≤ 0
              · have below : s < 1 := by
                  rw [Int32.lt_iff_toInt_lt]
                  rw [Int32.le_iff_toInt_le] at ended
                  exact Int.lt_add_one_of_le ended
                simp only [if_pos ended, if_pos below]
                exact ih next.event _
              · have above : ¬ s < 1 := by
                  rw [Int32.lt_iff_toInt_lt]
                  rw [Int32.le_iff_toInt_le] at ended
                  exact fun below => ended (Int.le_of_lt_add_one below)
                have reported : next.event = next'.event := event ⟨s, now, Int32.not_le.mp ended⟩
                simp only [if_neg ended, if_neg above, ← reported]
                cases l.handlers next.event.eventType with
                | none => exact ih next.event _
                | some cb =>
                    simp only [bind_assoc]
                    refine agrees_bind Eq _ _ _ _ _ (agrees_self Eq (fun _ => rfl) _) ?_
                    intro after after' same
                    subst same
                    exact ih next.event after

-- A line that hands over a message of the older devices when both its bytes
-- have come, and a callback that lights the key pressed.
def inPairs : Platform Link where
  openDevice := link.openDevice
  close := link.close
  write := link.write
  read n s := if n = 2 ∧ 2 ≤ s.incoming.length then link.read n s else (⟨0, [], Nat.zero_le n, nothing_counted⟩, s)
  waitForInput := link.waitForInput
  monotonicMilliseconds := link.monotonicMilliseconds

def echo (P : Platform ω) : Callbacks ω Unit := fun _ e l => do
  match e.payload with
  | .grid x y => do
      let _ ← l.device.ledSet P x y 1
      return l
  | _ => return l

theorem in_pairs_counts (n : Nat) (w : Link) : (inPairs.read n w).1.status = 2 ∨ (inPairs.read n w).1.status = 0 := by
  by_cases there : n = 2 ∧ 2 ≤ w.incoming.length
  · have read : (inPairs.read n w).1.status = Int64.ofNat (w.incoming.take n).length := by
      simp only [inPairs, if_pos there]
      rfl
    rw [read, there.1, List.length_take, Nat.min_eq_left there.2]
    exact .inl rfl
  · have none : (inPairs.read n w).1.status = 0 := by
      simp only [inPairs, if_neg there]
    exact .inr none

theorem in_pairs_whole : WholeReads inPairs where
  failed n w below := by
    rcases in_pairs_counts n w with two | none
    · rw [two] at below
      exact absurd below (by decide)
    · rw [none] at below
      exact absurd below (by decide)
  noHalves w := by
    rcases in_pairs_counts 2 w with two | none
    · rw [two]
      decide
    · rw [none]
      decide

theorem event_loop_handles_echo :
    monomeEventLoop (t := ⟨true, false⟩) inPairs 0 (echo inPairs) [true, true, true, false] (keyEvent true 9 9)
        ⟨.series ⟨⟨8, 8, .rotate180, none, .unset⟩, 0, 0⟩, fun type => if type = .buttonDown then some () else none⟩
        ⟨[0x00, 0x23, 0x10, 0x23, 0x00], []⟩ =
      .ok ((false, ⟨.series ⟨⟨8, 8, .rotate180, none, .unset⟩, 0, 0⟩,
        fun type => if type = .buttonDown then some () else none⟩), ⟨[0x00], [[0x20, 0x23]]⟩) := by
  have same := event_loop_handles (t := ⟨true, false⟩) inPairs in_pairs_whole 0 (echo inPairs)
    [(true, keyEvent false 0 0), (true, ⟨.tilt, .tilt 0 1 2 3⟩), (true, keyEvent true 1 1), (false, keyEvent false 0 0)]
    (keyEvent true 9 9)
    ⟨.series ⟨⟨8, 8, .rotate180, none, .unset⟩, 0, 0⟩, fun type => if type = .buttonDown then some () else none⟩
  exact (congrFun same ⟨[0x00, 0x23, 0x10, 0x23, 0x00], []⟩).trans rfl

-- Half a message makes the difference: the loop reports the press it still has
-- in its record a second time.
example [t : Target] : (monomeEventLoop link 0 (echo link) [true, true] (keyEvent false 9 9)
    ⟨.series ⟨⟨8, 8, .rotate0, none, .unset⟩, 0, 0⟩, fun type => if type = .buttonDown then some () else none⟩
    ⟨[0x00, 0x23, 0x10], []⟩).map (fun run => run.2.sent) = .ok [[0x20, 0x23], [0x20, 0x23]] := rfl

end Libmonome
