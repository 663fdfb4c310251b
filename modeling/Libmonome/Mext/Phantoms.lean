import Libmonome.Lib.Records
import Libmonome.Mext.Handling
import Libmonome.Mext.Stream

set_option autoImplicit false

namespace Libmonome

variable {ω : Type}

def recordFrame (record : UInt8 × List UInt8) : Option Frame :=
  if sized : record.2.length = headerLength record.1 then some ⟨record.1, record.2, sized⟩ else none

def framesIn (stream : List UInt8) : List Frame := (Records.receive headerLength stream).done.filterMap recordFrame

def cutShort (stream : List UInt8) : List UInt8 := (Records.receive headerLength stream).left

-- What a call should make of a stream: frames without an event go by, each
-- with its payload, and the first with one is reported, said by its own bytes.
-- With it, the bytes left for the next call.
def firstReport [t : Target] (e : MonomeEvent) (short : List UInt8) : Mext → List Frame → NextEvent Mext × List UInt8
  | self, [] => (⟨some (if short = [] then 0 else -1), self, e⟩, [])
  | self, frame :: rest =>
      match frameEvent self.monome frame with
      | some event => (⟨some 1, self, event⟩, rest.flatMap Frame.bytes ++ short)
      | none => firstReport e short (frameSelf self frame) rest

-- The first frame whose handler reports an event is one the protocol defines,
-- and a key frame finds its divisors nonzero.
def FirstDefined : Mext → List Frame → Prop
  | _, [] => True
  | self, frame :: rest =>
      if CarriesEvent frame.header then Listed frame.header ∧ Decodes self frame
      else FirstDefined (frameSelf self frame) rest

theorem record_frames (records : List (UInt8 × List UInt8)) (sized : ∀ record ∈ records, Records.Sized headerLength record) :
    (records.filterMap recordFrame).flatMap Frame.bytes = records.flatMap Records.bytes := by
  induction records with
  | nil => rfl
  | cons record rest ih =>
      have whole : record.2.length = headerLength record.1 := sized record List.mem_cons_self
      rw [List.filterMap_cons, recordFrame, dif_pos whole, List.flatMap_cons, List.flatMap_cons,
        ih fun r member => sized r (List.mem_cons_of_mem _ member)]
      rfl

theorem frames_in_stream (stream : List UInt8) : (framesIn stream).flatMap Frame.bytes ++ cutShort stream = stream := by
  have keeps := Records.receive_keeps headerLength stream
  rw [framesIn, record_frames _ keeps.sized]
  exact keeps.whole

theorem cut_short_short (stream : List UInt8) (header : UInt8) (got : List UInt8) (short : cutShort stream = header :: got) :
    got.length < headerLength header := by
  have keeps := Records.receive_keeps headerLength stream
  rw [cutShort, Records.Receiver.left] at short
  cases pending : (Records.receive headerLength stream).pending with
  | none =>
      rw [pending] at short
      cases short
  | some record =>
      obtain ⟨first, come, missing⟩ := record
      rw [pending] at short
      cases short
      have open_ := keeps.short header got missing pending
      omega

theorem event_header_listed (header : UInt8) (carries : CarriesEvent header) (listed : Listed header) :
    header ∈ ([0x20, 0x21, 0x50, 0x51, 0x52, 0x81] : List UInt8) := by
  have entry := listed_header header listed
  simp only [List.mem_cons, List.not_mem_nil, or_false] at entry ⊢
  rcases entry with h | h | h | h | h | h | h | h | h | h | h | h | h
  all_goals
    subst h
    first
      | exact absurd carries (by decide)
      | decide

theorem frame_event_defined [t : Target] (monome : Monome) (frame : Frame) :
    (frameEvent monome frame).isSome = true ↔ CarriesEvent frame.header ∧ Listed frame.header := by
  constructor
  · intro event
    rw [frameEvent] at event
    have header : frame.header = 0x20 ∨ frame.header = 0x21 ∨ frame.header = 0x50 ∨ frame.header = 0x51 ∨
        frame.header = 0x52 ∨ frame.header = 0x81 := by
      by_contra other
      simp only [not_or] at other
      simp [other] at event
    rcases header with h | h | h | h | h | h <;> rw [h] <;> decide
  · rintro ⟨carries, listed⟩
    have header := event_header_listed frame.header carries listed
    simp only [List.mem_cons, List.not_mem_nil, or_false] at header
    rcases header with h | h | h | h | h | h <;> simp [frameEvent, h]

theorem frame_event_none [t : Target] (monome : Monome) (frame : Frame)
    (plain : ¬ (CarriesEvent frame.header ∧ Listed frame.header)) :
    frameEvent monome frame = none := by
  rw [← frame_event_defined monome frame] at plain
  simpa using plain

theorem report_leaves_fewer [t : Target] (e : MonomeEvent) (short : List UInt8) (self : Mext) (frames : List Frame)
    (reported : (firstReport e short self frames).1.status = some 1) :
    (firstReport e short self frames).2.length < (frames.flatMap Frame.bytes ++ short).length := by
  induction frames generalizing self with
  | nil =>
      rw [firstReport] at reported
      split at reported <;> simp at reported
  | cons frame rest ih =>
      rw [firstReport] at reported ⊢
      cases event : frameEvent self.monome frame with
      | some value => simp [Frame.bytes]
      | none =>
          simp only [event] at reported ⊢
          have fewer := ih (frameSelf self frame) reported
          simp only [List.flatMap_cons, List.length_append] at fewer ⊢
          omega

section Line

variable (P : Platform ω) (pending : ω → List UInt8) (delivers : Delivers P pending) (msg : MextMsg) (w : ω)
include delivers

theorem read_msg_whole (frame : Frame) (more : List UInt8) (queued : pending w = frame.bytes ++ more) :
    ∃ status w', mextReadMsg P msg w = .ok ((status, frame.over msg), w') ∧ ¬ status ≤ 0 ∧ pending w' = more := by
  have cut : Cut pending w (frame.pieces ++ [.piece more]) := by
    constructor
    · intro paused
      rcases List.mem_append.mp paused with inside | after
      · exact frame_pieces_flow frame inside
      · simp at after
    · rw [queued, List.flatMap_append, frame_pieces_bytes]
      simp [Supply.bytes]
  obtain ⟨status, w', got, came, left⟩ :=
    read_msg_frame P (Cut pending) (delivers_feeds P pending delivers) msg w frame [.piece more] cut
  exact ⟨status, w', got, came, by simpa [Supply.bytes] using left.2⟩

theorem read_msg_cut_short (header : UInt8) (got : List UInt8) (queued : pending w = header :: got)
    (short : got.length < headerLength header) :
    ∃ read w', mextReadMsg P msg w = .ok ((-1, read), w') ∧ pending w' = [] := by
  have one : (P.read 1 w).1.status = Int64.ofNat 1 := by rw [delivers.counts, queued]; rfl
  have came : ¬ (P.read 1 w).1.status ≤ 0 := by
    rw [one]
    decide
  have first : (P.read 1 w).1.stored.headD msg.header = header := by rw [delivers.takes, queued]; rfl
  have after : pending (P.read 1 w).2 = got := by rw [delivers.leaves, queued]; rfl
  have small := header_length_small header
  have counted : (P.read (headerLength header) (P.read 1 w).2).1.status ≠ Int64.ofNat (headerLength header) := by
    rw [delivers.counts, after, List.take_of_length_le (by omega)]
    intro same
    have lengths := congrArg Int64.toInt same
    rw [Int64.toInt_ofNat_of_lt (by omega), Int64.toInt_ofNat_of_lt (by omega)] at lengths
    omega
  have body := read_msg_body P msg w came header first (by omega)
  simp only [if_pos counted] at body
  exact ⟨_, _, body, by rw [delivers.leaves, after, List.drop_eq_nil_of_le (by omega)]⟩

theorem next_event_at_end [t : Target] (short : List UInt8) (queued : pending w = short) (fuel : Nat) (self : Mext)
    (e : MonomeEvent) (unfinished : ∀ header got, short = header :: got → got.length < headerLength header) :
    ∃ w', mextNextEventLoop P (fuel + 1) msg self e w = .ok (⟨some (if short = [] then 0 else -1), self, e⟩, w') ∧
      pending w' = [] := by
  cases short with
  | nil =>
      have drained : Cut pending w [] := ⟨List.not_mem_nil, queued⟩
      obtain ⟨old, w', got, left⟩ := read_msg_drained P (Cut pending) (delivers_feeds P pending delivers) msg w drained
      exact ⟨w', next_event_ended P fuel msg self e w w' 0 old got (by decide), left.2⟩
  | cons header got =>
      obtain ⟨read, w', came, left⟩ := read_msg_cut_short P pending delivers msg w header got queued (unfinished header got rfl)
      exact ⟨w', next_event_ended P fuel msg self e w w' (-1) read came (by decide), left⟩

end Line

section Turns

variable (P : Platform ω) (pending : ω → List UInt8) (delivers : Delivers P pending) (frame : Frame) (more : List UInt8)
  (fuel : Nat) (msg : MextMsg) (self : Mext) (e : MonomeEvent) (w : ω)
  (queued : pending w = frame.bytes ++ more)
include delivers queued

theorem next_event_on_defined [t : Target] (carries : CarriesEvent frame.header) (listed : Listed frame.header)
    (event : MonomeEvent) (is : frameEvent self.monome frame = some event) :
    (∃ w', mextNextEventLoop P (fuel + 1) msg self e w = .ok (⟨some 1, self, event⟩, w') ∧ pending w' = more) ↔
      Decodes self frame := by
  obtain ⟨status, w', got, came, left⟩ := read_msg_whole P pending delivers msg w frame more queued
  have handled := frame_handled self e msg frame listed
  have kept : frameSelf self frame = self := by
    apply other_frame_self
    intro system
    have quiet : ¬ CarriesEvent frame.header := by
      refine plain_header frame (by rw [system]; decide) ?_
      simp only [List.mem_cons, List.not_mem_nil, or_false]
      rintro (h | h | h | h) <;> rw [h] at system <;> exact absurd system (by decide)
    exact quiet carries
  by_cases decodes : Decodes self frame
  · rw [if_pos decodes, is, kept] at handled
    have ran := next_event_handled P fuel msg self e w w' status _ _ got came handled
    exact iff_of_true ⟨w', ran, left⟩ decodes
  · rw [if_neg decodes] at handled
    have faults := next_event_fault P fuel msg self e w w' status _ _ got came handled
    simp [faults, decodes]

theorem next_event_on_phantom [t : Target] (carries : CarriesEvent frame.header) (next : NextEvent Mext) (last : ω)
    (ran : mextNextEventLoop P (fuel + 1) msg self e w = .ok (next, last)) : next.status = some 1 ∧ pending last = more := by
  obtain ⟨status, w', got, came, left⟩ := read_msg_whole P pending delivers msg w frame more queued
  cases handled : subsystemEventHandlers (frame.over msg).addr self (frame.over msg) e with
  | error fault =>
      rw [next_event_fault P fuel msg self e w w' status _ fault got came handled] at ran
      cases ran
  | ok h =>
      have reports := (frame_handled_any self e msg frame h handled).2.1.mpr carries
      rw [next_event_handled P fuel msg self e w w' status _ h got came handled, if_pos reports] at ran
      cases ran
      exact ⟨rfl, left⟩

theorem next_event_past_plain [t : Target] (plain : ¬ CarriesEvent frame.header) :
    ∃ w', mextNextEventLoop P (fuel + 1) msg self e w = mextNextEventLoop P fuel (frame.over msg) (frameSelf self frame) e w' ∧
      pending w' = more := by
  obtain ⟨status, w', got, came, left⟩ := read_msg_whole P pending delivers msg w frame more queued
  obtain ⟨h, handled⟩ := frame_handled_defined self e msg frame fun key => absurd (.inl key) plain
  obtain ⟨state, propagates, event⟩ := frame_handled_any self e msg frame h handled
  have quiet : h.propagate = false := by
    rw [← Bool.not_eq_true, propagates]
    exact plain
  have ran := next_event_handled P fuel msg self e w w' status _ h got came handled
  rw [quiet, state, event quiet] at ran
  exact ⟨w', ran, left⟩

end Turns

theorem next_event_report_iff [t : Target] (P : Platform ω) (pending : ω → List UInt8) (delivers : Delivers P pending)
    (short : List UInt8) (unfinished : ∀ header got, short = header :: got → got.length < headerLength header)
    (frames : List Frame) (fuel : Nat) (enough : frames.length < fuel) (msg : MextMsg) (self : Mext) (e : MonomeEvent)
    (w : ω) (queued : pending w = frames.flatMap Frame.bytes ++ short) :
    (∃ w', mextNextEventLoop P fuel msg self e w = .ok ((firstReport e short self frames).1, w') ∧
      pending w' = (firstReport e short self frames).2) ↔ FirstDefined self frames := by
  induction frames generalizing fuel msg self w with
  | nil =>
      obtain ⟨fuel, rfl⟩ := Nat.exists_eq_succ_of_ne_zero (Nat.ne_of_gt enough)
      exact iff_of_true (next_event_at_end P pending delivers msg w short queued fuel self e unfinished) trivial
  | cons frame rest ih =>
      obtain ⟨fuel, rfl⟩ := Nat.exists_eq_succ_of_ne_zero (Nat.ne_of_gt (Nat.zero_lt_of_lt enough))
      rw [List.flatMap_cons, List.append_assoc] at queued
      rw [FirstDefined, firstReport]
      by_cases carries : CarriesEvent frame.header
      · rw [if_pos carries]
        by_cases listed : Listed frame.header
        · obtain ⟨event, is⟩ := Option.isSome_iff_exists.mp ((frame_event_defined self.monome frame).mpr ⟨carries, listed⟩)
          rw [is, next_event_on_defined P pending delivers frame _ fuel msg self e w queued carries listed event is]
          simp [listed]
        · rw [frame_event_none self.monome frame fun both => listed both.2]
          refine iff_of_false (fun reported => ?_) fun defined => listed defined.1
          obtain ⟨last, ran, left⟩ := reported
          obtain ⟨status, all⟩ := next_event_on_phantom P pending delivers frame _ fuel msg self e w queued carries _ last ran
          have fewer := report_leaves_fewer e short (frameSelf self frame) rest status
          rw [← left, all] at fewer
          exact absurd fewer (Nat.lt_irrefl _)
      · obtain ⟨w', ran, left⟩ := next_event_past_plain P pending delivers frame _ fuel msg self e w queued carries
        rw [if_neg carries, frame_event_none self.monome frame fun both => carries both.1, ran]
        exact ih fuel (Nat.lt_of_succ_lt_succ enough) _ _ w' left

-- On any bytes whatsoever: each call that may read every frame there is comes
-- to the report the bytes call for, exactly if the first frame with an event
-- to report is a defined one that can be decoded.
theorem no_phantom_events_iff [t : Target] (P : Platform ω) (pending : ω → List UInt8) (delivers : Delivers P pending)
    (self : Mext) (e : MonomeEvent) (w : ω) :
    (∀ fuel, (framesIn (pending w)).length < fuel →
      ∃ w', mextNextEvent P fuel self e w = .ok ((firstReport e (cutShort (pending w)) self (framesIn (pending w))).1, w') ∧
        pending w' = (firstReport e (cutShort (pending w)) self (framesIn (pending w))).2) ↔
      FirstDefined self (framesIn (pending w)) := by
  have each (fuel : Nat) (enough : (framesIn (pending w)).length < fuel) :=
    next_event_report_iff P pending delivers (cutShort (pending w)) (cut_short_short (pending w)) (framesIn (pending w)) fuel
      enough (.fresh 0 0) self e w (frames_in_stream (pending w)).symm
  constructor
  · intro reported
    exact (each _ (Nat.lt_succ_self _)).mp (reported _ (Nat.lt_succ_self _))
  · intro defined fuel enough
    exact (each fuel enough).mpr defined

theorem no_phantom_events_noise : ∃ w',
    mextNextEvent (t := ⟨true, false⟩) link 4 ⟨⟨16, 8, .rotate90, none, .unset⟩, 0, []⟩ (keyEvent false 0 0)
        ⟨[0x33, 0x80, 9, 0x50, 1, 0xFE, 0x21, 4], []⟩ =
      .ok (⟨some 1, ⟨⟨16, 8, .rotate90, none, .unset⟩, 0, []⟩, ⟨.encoderDelta, .encoder 1 (-2)⟩⟩, w') ∧
    w'.incoming = [0x21, 4] :=
  (no_phantom_events_iff (t := ⟨true, false⟩) link Link.incoming link_delivers
    ⟨⟨16, 8, .rotate90, none, .unset⟩, 0, []⟩ (keyEvent false 0 0) ⟨[0x33, 0x80, 9, 0x50, 1, 0xFE, 0x21, 4], []⟩).mpr ⟨by decide, fun key => by cases key <;> contradiction⟩ 4 (by decide)

-- A grid size and then the byte 0x22, which no table names: the call reports a
-- release at the place the size frame's payload spells.
theorem unlisted_key_reports_release : ¬ ∀ fuel, (framesIn [0x03, 16, 8, 0x22]).length < fuel →
    ∃ w', mextNextEvent (t := ⟨true, false⟩) link fuel mextNew (keyEvent true 0 0) ⟨[0x03, 16, 8, 0x22], []⟩ =
        .ok ((firstReport (t := ⟨true, false⟩) (keyEvent true 0 0) (cutShort [0x03, 16, 8, 0x22]) mextNew
          (framesIn [0x03, 16, 8, 0x22])).1, w') ∧
      w'.incoming = (firstReport (t := ⟨true, false⟩) (keyEvent true 0 0) (cutShort [0x03, 16, 8, 0x22]) mextNew
        (framesIn [0x03, 16, 8, 0x22])).2 := by
  intro reported
  obtain ⟨w', ran, -⟩ := reported 3 (by decide)
  have phantom : (mextNextEvent (t := ⟨true, false⟩) link 3 mextNew (keyEvent true 0 0)
      ⟨[0x03, 16, 8, 0x22], []⟩).map (fun run => run.1.event) = .ok (keyEvent false 16 8) := rfl
  rw [ran] at phantom
  cases phantom

end Libmonome
