import Libmonome.Hearing
import Libmonome.Mext.Deadline

set_option autoImplicit false

namespace Libmonome

-- A line to a device, in a time that passes only while the library waits. What
-- the device says in answer to a write it says at times of its own, and the
-- line keeps its order.
structure Line where
  clock : Nat
  ready : List UInt8
  coming : List (Nat × Frame)
  closed : Bool

def Line.settle (l : Line) : Line :=
  { l with
    ready := l.ready ++ (l.coming.takeWhile fun said => said.1 ≤ l.clock).flatMap fun said => said.2.bytes
    coming := l.coming.dropWhile fun said => said.1 ≤ l.clock }

def Line.pass (msec : Nat) (l : Line) : Int32 × Line :=
  if l.ready ≠ [] then (0, l)
  else match l.coming with
    | [] => (1, { l with clock := l.clock + msec })
    | said :: _ =>
        if said.1 ≤ l.clock + msec then (0, ({ l with clock := max l.clock said.1 } : Line).settle)
        else (1, { l with clock := l.clock + msec })

abbrev Replies := Nat → List UInt8 → List (Nat × Frame)

def Line.tell (replies : Replies) (bytes : List UInt8) (l : Line) : Line :=
  ({ l with coming := l.coming ++ replies l.clock bytes } : Line).settle

def dialogue (replies : Replies) : Platform Line where
  openDevice _ _ l := (0, l)
  close l := (0, { l with closed := true })
  write bytes l := (Int64.ofNat bytes.length, l.tell replies bytes)
  read n l := (⟨Int64.ofNat (l.ready.take n).length, l.ready.take n, List.length_take_le n l.ready, count_of_length _⟩,
    { l with ready := l.ready.drop n })
  waitForInput msec l := l.pass msec.toNat
  monotonicMilliseconds l := (UInt64.ofNat l.clock, l)

-- The frames there to be read, each with the time it was said at, and those on
-- their way, none of which is due.
structure Awaiting (l : Line) (arrived : List (Nat × Frame)) : Prop where
  bytes : l.ready = arrived.flatMap fun said => said.2.bytes
  came : ∀ said ∈ arrived, said.1 ≤ l.clock
  settled : ∀ said ∈ l.coming.head?, l.clock < said.1

def Line.unread (l : Line) (arrived : List (Nat × Frame)) : List (Nat × Frame) := arrived ++ l.coming

theorem settle_awaits (l : Line) (arrived : List (Nat × Frame)) (bytes : l.ready = arrived.flatMap fun said => said.2.bytes)
    (came : ∀ said ∈ arrived, said.1 ≤ l.clock) :
    ∃ more, Awaiting l.settle (arrived ++ more) ∧ l.settle.unread (arrived ++ more) = l.unread arrived ∧
      ∀ said ∈ l.coming.head?, said.1 ≤ l.clock → more ≠ [] := by
  refine ⟨l.coming.takeWhile fun said => said.1 ≤ l.clock, ⟨?_, ?_, ?_⟩, ?_, ?_⟩
  · rw [List.flatMap_append, ← bytes]
    rfl
  · intro said member
    rcases List.mem_append.mp member with before | due
    · exact came said before
    · have arrives : said.1 ≤ l.clock := by simpa using List.mem_takeWhile_imp due
      exact arrives
  · intro said member
    have late := List.head?_dropWhile_not (fun said : Nat × Frame => decide (said.1 ≤ l.clock)) l.coming
    rw [Line.settle] at member
    simp only [Option.mem_def] at member
    rw [member] at late
    have ahead : l.clock < said.1 := by simpa using late
    exact ahead
  · rw [Line.unread, Line.unread, Line.settle, List.append_assoc, List.takeWhile_append_dropWhile]
  · intro said member due
    cases coming : l.coming with
    | nil =>
        rw [coming] at member
        cases member
    | cons first rest =>
        rw [coming] at member
        cases member
        rw [List.takeWhile_cons_of_pos (by simpa using due)]
        exact List.cons_ne_nil _ _

section Steps

variable (replies : Replies)

theorem tell_awaits (query : List UInt8) (l : Line) (arrived : List (Nat × Frame)) (awaiting : Awaiting l arrived) :
    ∃ more, Awaiting (l.tell replies query) (arrived ++ more) ∧
      (l.tell replies query).unread (arrived ++ more) = l.unread arrived ++ replies l.clock query := by
  obtain ⟨more, awaits, same, _⟩ := settle_awaits { l with coming := l.coming ++ replies l.clock query } arrived
    awaiting.bytes awaiting.came
  refine ⟨more, awaits, ?_⟩
  rw [Line.tell, same, Line.unread, Line.unread, List.append_assoc]

theorem queries_told (queries : List (List UInt8)) (single : ∀ query ∈ queries, query.length = 1) (l : Line)
    (arrived : List (Nat × Frame)) (awaiting : Awaiting l arrived) :
    ∃ l' more, writeQueries (dialogue replies) queries l = .ok (0, l') ∧ Awaiting l' (arrived ++ more) ∧
      l'.unread (arrived ++ more) = l.unread arrived ++ queries.flatMap (replies l.clock) ∧
      l'.clock = l.clock ∧ l'.closed = l.closed := by
  induction queries generalizing l arrived with
  | nil => exact ⟨l, [], rfl, by rwa [List.append_nil], by simp, rfl, rfl⟩
  | cons query rest ih =>
      obtain ⟨more, awaits, same⟩ := tell_awaits replies query l arrived awaiting
      obtain ⟨l', later, ran, awaits', same', clock, closed⟩ := ih (fun q member => single q (by simp [member]))
        (l.tell replies query) (arrived ++ more) awaits
      have kept : (l.tell replies query).clock = l.clock ∧ (l.tell replies query).closed = l.closed := ⟨rfl, rfl⟩
      refine ⟨l', more ++ later, ?_, ?_, ?_, clock.trans kept.1, closed.trans kept.2⟩
      · have counted : ((dialogue replies).write query l).1 = 1 := congrArg Int64.ofNat (single query (by simp))
        rw [writeQueries, io_call_bind, if_neg (not_not.mpr counted)]
        exact ran
      · rwa [← List.append_assoc]
      · rw [← List.append_assoc, same', same, kept.1, List.flatMap_cons, List.append_assoc]

theorem pass_awaits (msec : Nat) (l : Line) (arrived : List (Nat × Frame)) (awaiting : Awaiting l arrived) :
    (l.pass msec = (1, { l with clock := l.clock + msec }) ∧ arrived = [] ∧
      Awaiting { l with clock := l.clock + msec } []) ∨
    ∃ l' arrived', l.pass msec = (0, l') ∧ Awaiting l' arrived' ∧ arrived' ≠ [] ∧ l'.unread arrived' = l.unread arrived ∧
      l'.closed = l.closed ∧ l'.clock ≤ l.clock + msec ∧ l.clock ≤ l'.clock ∧
      (arrived = [] → ∃ said ∈ l.coming.head?, l'.clock = said.1) ∧ (arrived ≠ [] → l'.clock = l.clock) := by
  obtain ⟨clock, ready, coming, closed⟩ := l
  have bytes : ready = arrived.flatMap fun said => said.2.bytes := awaiting.bytes
  by_cases some : arrived = []
  · have empty : ready = [] := by rw [bytes, some]; rfl
    rw [Line.pass, if_neg (not_not.mpr empty)]
    cases coming with
    | nil => exact .inl ⟨rfl, some, empty, fun said member => absurd member List.not_mem_nil,
        fun said member => absurd member (Option.not_mem_none said)⟩
    | cons said rest =>
        have ahead : clock < said.1 := awaiting.settled said rfl
        by_cases due : said.1 ≤ clock + msec
        · have later : max clock said.1 = said.1 := Nat.max_eq_right (Nat.le_of_lt ahead)
          obtain ⟨more, awaits, same, arrives⟩ := settle_awaits ⟨max clock said.1, ready, said :: rest, closed⟩
            arrived bytes fun other member => le_trans (awaiting.came other member) (Nat.le_max_left _ _)
          refine .inr ⟨_, arrived ++ more, if_pos due, awaits, ?_, same, rfl, ?_, ?_, fun _ => ?_,
            fun other => absurd some other⟩
          · rw [some, List.nil_append]
            exact arrives said rfl (Nat.le_max_right _ _)
          · exact Nat.max_le.mpr ⟨Nat.le_add_right _ _, due⟩
          · exact Nat.le_max_left _ _
          · exact ⟨said, rfl, later⟩
        · refine .inl ⟨if_neg due, some, empty, fun other member => absurd member List.not_mem_nil, fun other member => ?_⟩
          cases member
          exact Nat.lt_of_not_le due
  · have waiting : ready ≠ [] := by
      rw [bytes]
      cases arrived with
      | nil => exact absurd rfl some
      | cons said rest => exact List.cons_ne_nil _ _
    refine .inr ⟨⟨clock, ready, coming, closed⟩, arrived, ?_, awaiting, some, rfl, rfl, Nat.le_add_right _ _, le_refl _,
      fun none => absurd none some, fun _ => rfl⟩
    rw [Line.pass, if_pos waiting]

end Steps

section Reading

variable (replies : Replies)

theorem dialogue_feeds (clock : Nat) (coming : List (Nat × Frame)) (closed : Bool) : Feeds (dialogue replies)
    fun l supply => Cut Line.ready l supply ∧ l.clock = clock ∧ l.coming = coming ∧ l.closed = closed where
  piece l bytes more some held := by
    have feeds := delivers_feeds (dialogue replies) Line.ready ⟨fun _ _ => rfl, fun _ _ => rfl, fun _ _ => rfl⟩
    obtain ⟨stored, counted, left⟩ := feeds.piece l bytes more some held.1
    exact ⟨stored, counted, left, held.2⟩
  pause n l more _ held := absurd List.mem_cons_self held.1.1
  drained n l some held := by
    have feeds := delivers_feeds (dialogue replies) Line.ready ⟨fun _ _ => rfl, fun _ _ => rfl, fun _ _ => rfl⟩
    obtain ⟨none, left⟩ := feeds.drained n l some held.1
    exact ⟨none, left, held.2⟩

def saidSelf (self : Mext) (saids : List (Nat × Frame)) : Mext := framesSelf self (saids.map Prod.snd)

def frameStream (frames : List Frame) : List (Option Message) := frames.map fun frame => some (.frame frame)

theorem frame_stream_cut (l : Line) (frames : List Frame) :
    Cut Line.ready l (messageSupply (frameStream frames)) ↔ l.ready = frames.flatMap Frame.bytes := by
  have supply : .pause ∉ messageSupply (frameStream frames) ∧
      (messageSupply (frameStream frames)).flatMap Supply.bytes = frames.flatMap Frame.bytes := by
    induction frames with
    | nil => exact ⟨List.not_mem_nil, rfl⟩
    | cons frame rest ih =>
        have both : messageSupply (frameStream (frame :: rest)) = frame.pieces ++ messageSupply (frameStream rest) := rfl
        rw [both, List.flatMap_append, frame_pieces_bytes, ih.2, List.flatMap_cons]
        exact ⟨fun paused => (List.mem_append.mp paused).elim (frame_pieces_flow frame) ih.1, rfl⟩
  rw [Cut, supply.2]
  exact and_iff_right supply.1

theorem frame_self_turned (self : Mext) (frame : Frame) (unturned : self.monome.rotation = .rotate0) :
    (frameSelf self frame).monome.rotation = .rotate0 :=
  ((frames_self_fields self [frame]).2.2.2).trans unturned

theorem frame_stream_decodes (self : Mext) (frames : List Frame) (unturned : self.monome.rotation = .rotate0) :
    (Device.mext self).AllDecode (frameStream frames).reduceOption := by
  induction frames generalizing self with
  | nil => trivial
  | cons frame rest ih =>
      refine ⟨fun _ => ?_, ih _ (frame_self_turned self frame unturned)⟩
      rw [DividesByNonzero, unturned]
      trivial

theorem frames_heard [t : Target] (self : Mext) (frames : List Frame) : ∃ heard left, frames = heard ++ left ∧
    ((Device.mext self).hear (frameStream frames)).2 = (.mext (framesSelf self heard), frameStream left) ∧
    (frames ≠ [] → heard ≠ []) := by
  induction frames generalizing self with
  | nil => exact ⟨[], [], rfl, rfl, fun some => some⟩
  | cons frame rest ih =>
      have stream : frameStream (frame :: rest) = some (.frame frame) :: frameStream rest := rfl
      cases event : (Device.mext self).event (.frame frame) with
      | some e =>
          refine ⟨[frame], rest, rfl, ?_, fun _ => List.cons_ne_nil _ _⟩
          rw [stream, Device.hear_event _ _ _ e event]
          rfl
      | none =>
          obtain ⟨heard, left, split, after, _⟩ := ih (frameSelf self frame)
          refine ⟨frame :: heard, left, congrArg (frame :: ·) split, ?_, fun _ => List.cons_ne_nil _ _⟩
          rw [stream, Device.hear_on _ _ _ event rfl]
          exact after

theorem dialogue_next_event [t : Target] (fuel : Nat) (self : Mext) (e : MonomeEvent) (l : Line)
    (arrived : List (Nat × Frame)) (awaiting : Awaiting l arrived) (listed : ∀ said ∈ arrived, Listed said.2.header)
    (unturned : self.monome.rotation = .rotate0) (enough : arrived.length < fuel) :
    ∃ status e' l' heard left, mextNextEvent (dialogue replies) fuel self e l =
        .ok (⟨some status, saidSelf self heard, e'⟩, l') ∧ ¬ status < 0 ∧ arrived = heard ++ left ∧
      (arrived ≠ [] → heard ≠ []) ∧ Awaiting l' left ∧ l'.clock = l.clock ∧ l'.coming = l.coming ∧ l'.closed = l.closed := by
  have whole : arrived.flatMap (fun said => said.2.bytes) = (arrived.map Prod.snd).flatMap Frame.bytes :=
    (List.flatMap_map _ _ _).symm
  have spoken : ∀ message, some message ∈ frameStream (arrived.map Prod.snd) → (Device.mext self).Speaks message := by
    intro message member
    obtain ⟨frame, there, same⟩ := List.mem_map.mp member
    obtain ⟨said, came, rfl⟩ := List.mem_map.mp there
    rw [← Option.some.inj same]
    exact listed said came
  obtain ⟨next, l', ran, means, cut, clock, coming, closed⟩ := mext_hears (dialogue replies) _
    (dialogue_feeds replies l.clock l.coming l.closed) self (frameStream (arrived.map Prod.snd)) fuel
    (by rw [frameStream, List.length_map, List.length_map]; exact enough) (.fresh 0 0) e l spoken
    (frame_stream_decodes self _ unturned)
    ⟨(frame_stream_cut l _).mpr (awaiting.bytes.trans whole), rfl, rfl, rfl⟩
  obtain ⟨frames, others, split, after, some⟩ := frames_heard self (arrived.map Prod.snd)
  obtain ⟨heard, left, parts, rfl, rfl⟩ := List.map_eq_append_iff.mp split
  rw [after] at cut
  obtain ⟨status, self', e'⟩ := next
  have fields := NextEvent.mk.inj means
  rw [after] at fields
  obtain ⟨rfl, same, _⟩ := fields
  refine ⟨if ((Device.mext self).hear (frameStream (arrived.map Prod.snd))).1.isSome then 1 else 0, e', l', heard, left,
    ?_, ?_, parts, fun any => ?_, ⟨?_, fun said member => ?_, ?_⟩, clock, coming, closed⟩
  · rw [saidSelf, ← Device.mext.inj same]
    exact ran
  · cases ((Device.mext self).hear (frameStream (arrived.map Prod.snd))).1.isSome <;> decide
  · exact fun none => some (fun nothing => any (List.map_eq_nil_iff.mp nothing)) (congrArg (List.map Prod.snd) none)
  · exact ((frame_stream_cut l' _).mp cut).trans (List.flatMap_map _ _ _)
  · rw [clock]
    exact awaiting.came said (by rw [parts]; exact List.mem_append_right _ member)
  · rw [coming, clock]
    exact awaiting.settled

end Reading

def handshakeQueries : List (List UInt8) := [[0x00], [0x01], [0x05]]

def AnswersAt (replies : Replies) (time : Nat) (query : List UInt8) : Prop :=
  ∃ said ∈ replies time query, responseBit said.2.header = queryBit query

def saidAgain (replies : Replies) (start : Nat) (need : UInt32) : List (Nat × Frame) :=
  (pendingQueries need).flatMap (replies (start + 250))

-- What is read and what is not when the second is over: the line keeps its
-- order, so all that is in front of the first frame of the last millisecond or
-- later has come in before.
def ReadInTime (start : Nat) (read unread : List (Nat × Frame)) : Prop :=
  ((read ++ unread).takeWhile fun said => said.1 < start + 1000) <+: read

section ReadInTime

variable (start : Nat) (read heard unread : List (Nat × Frame))

theorem read_in_time_next (late : ∀ said ∈ unread.head?, start + 1000 ≤ said.1) : ReadInTime start read unread := by
  rw [ReadInTime, List.takeWhile_append]
  split
  · cases unread with
    | nil => exact (List.append_nil _).symm ▸ List.prefix_rfl
    | cons said rest =>
        have stops : ¬ said.1 < start + 1000 := Nat.not_lt.mpr (late said rfl)
        rw [List.takeWhile_cons_of_neg (by simpa using stops), List.append_nil]
  · exact List.takeWhile_prefix _

theorem read_in_time_more (inTime : ReadInTime start read (heard ++ unread)) : ReadInTime start (read ++ heard) unread := by
  rw [ReadInTime, List.append_assoc]
  exact inTime.trans (List.prefix_append read heard)

theorem read_in_time_all (inTime : ReadInTime start read unread) (early : ∀ said ∈ read ++ unread, said.1 < start + 1000) :
    unread = [] := by
  rw [ReadInTime, List.takeWhile_eq_self_iff.mpr (by simpa using early)] at inTime
  have short := inTime.length_le
  rw [List.length_append] at short
  exact List.eq_nil_of_length_eq_zero (by omega)

end ReadInTime

structure Underway (start : Nat) (l : Line) (read arrived : List (Nat × Frame)) (held : Mext) (retried : Bool) : Prop where
  awaiting : Awaiting l arrived
  last : start + 1000 ≤ l.clock → ReadInTime start read (l.unread arrived)
  within : l.clock ≤ start + 1000
  soon : retried = false → l.clock ≤ start + 250
  listed : ∀ said ∈ l.unread arrived, Listed said.2.header
  unturned : held.monome.rotation = .rotate0
  stillOpen : l.closed = false

def left (replies : Replies) (start : Nat) (l : Line) (arrived : List (Nat × Frame)) (retried : Bool) : Nat :=
  start + 1000 - l.clock + (l.unread arrived).length +
    (if retried then 0 else (handshakeQueries.flatMap (replies (start + 250))).length)

theorem bits_cleared (a b : UInt32) : ~~~a &&& b &&& a = 0 := by
  rw [UInt32.and_comm (~~~a), UInt32.and_assoc, UInt32.and_comm (~~~a)]
  simp

theorem answered_covers (frames : List Frame) (frame : Frame) (member : frame ∈ frames) :
    ~~~answered frames &&& responseBit frame.header = 0 := by
  induction frames with
  | nil => cases member
  | cons first rest ih =>
      rw [answered, not_or_bits]
      cases member with
      | head => exact bits_cleared _ _
      | tail _ later => rw [UInt32.and_assoc, ih later]; simp

section Progress

variable (start : Nat) (l : Line) (read arrived : List (Nat × Frame)) (self : Mext) (retried : Bool)
  (underway : Underway start l read arrived self retried)
include underway

theorem underway_timeout (msec : Nat) (none : arrived = []) (awaits : Awaiting { l with clock := l.clock + msec } [])
    (within : l.clock + msec ≤ start + 1000) (soon : retried = false → l.clock + msec ≤ start + 250) :
    Underway start { l with clock := l.clock + msec } read [] self retried := by
  have same : ({ l with clock := l.clock + msec } : Line).unread [] = l.unread arrived := by rw [none]; rfl
  refine ⟨awaits, fun late => ?_, within, soon, same ▸ underway.listed, underway.unturned, underway.stillOpen⟩
  exact read_in_time_next start read _ fun said next => le_trans late (Nat.le_of_lt (awaits.settled said next))

theorem underway_input (l' : Line) (arrived' : List (Nat × Frame)) (awaits : Awaiting l' arrived')
    (same : l'.unread arrived' = l.unread arrived) (closed : l'.closed = l.closed)
    (came : arrived = [] → ∃ said ∈ l.coming.head?, l'.clock = said.1)
    (stayed : arrived ≠ [] → l'.clock = l.clock) (within : l'.clock ≤ start + 1000)
    (soon : retried = false → l'.clock ≤ start + 250) : Underway start l' read arrived' self retried where
  awaiting := awaits
  last late := by
    rw [same]
    by_cases none : arrived = []
    · obtain ⟨said, first, time⟩ := came none
      refine read_in_time_next start read _ fun other next => ?_
      rw [none, Line.unread, List.nil_append] at next
      rw [← Option.mem_unique first next, ← time]
      exact late
    · exact underway.last (by rw [← stayed none]; exact late)
  within := within
  soon := soon
  listed := same ▸ underway.listed
  unturned := underway.unturned
  stillOpen := closed.trans underway.stillOpen

theorem underway_heard (l' : Line) (heard rest : List (Nat × Frame)) (split : arrived = heard ++ rest)
    (awaits : Awaiting l' rest) (clock : l'.clock = l.clock) (coming : l'.coming = l.coming) (closed : l'.closed = l.closed) :
    Underway start l' (read ++ heard) rest (saidSelf self heard) retried := by
  have unread : l.unread arrived = heard ++ l'.unread rest := by
    rw [Line.unread, Line.unread, coming, split, List.append_assoc]
  refine ⟨awaits, fun late => ?_, clock ▸ underway.within, clock ▸ underway.soon,
    fun said member => underway.listed said (unread ▸ List.mem_append_right heard member), ?_,
    closed.trans underway.stillOpen⟩
  · exact read_in_time_more start read heard _ (unread ▸ underway.last (clock ▸ late))
  · exact ((frames_self_fields self _).2.2.2).trans underway.unturned

end Progress

theorem pending_single (need : UInt32) : ∀ query ∈ pendingQueries need, query.length = 1 := by
  intro query member
  have listed : ∀ query ∈ handshakeQueries, query.length = 1 := by decide
  exact listed query (List.mem_filter.mp member).1

theorem answer_heard (replies : Replies) (time : Nat) (queries : List (List UInt8)) (query : List UInt8)
    (asked : query ∈ queries) (answers : AnswersAt replies time query) :
    ∃ said ∈ queries.flatMap (replies time), responseBit said.2.header = queryBit query := by
  obtain ⟨said, answer, bit⟩ := answers
  exact ⟨said, List.mem_flatMap.mpr ⟨query, asked, answer⟩, bit⟩

structure HeardOut (replies : Replies) (start : Nat) (held : Mext) (unread : List (Nat × Frame)) (retried : Bool)
    (heard later again : List (Nat × Frame)) (asked : Bool) (l' : Line) : Prop where
  whole : heard ++ l'.unread later = unread ++ again
  awaiting : Awaiting l' later
  told : (asked = retried ∧ again = []) ∨ (retried = false ∧ asked = true ∧
    ∃ early, early <+: heard ∧ again = saidAgain replies start (saidSelf held early).needResponses)

-- The handshake comes to an end in one of two ways: everything is answered in
-- time; or the time is up to the millisecond, something is outstanding that has
-- been asked for again, and the device is closed. Then all that the line has in
-- front of the first frame said in that millisecond or later has been read.
def Decides (replies : Replies) (start : Nat) (self : Mext) (read unread : List (Nat × Frame)) (retried : Bool)
    (result : Except Fault (MextOpened × Line)) : Prop :=
  ∃ heard later again asked l', HeardOut replies start self unread retried heard later again asked l' ∧
    ((result = .ok (⟨some 0, saidSelf self heard⟩, l') ∧ (saidSelf self heard).needResponses = 0 ∧
        l'.clock ≤ start + 1000 ∧ l'.closed = false) ∨
      (result = .ok (⟨some (-1), saidSelf self heard⟩, l') ∧ (saidSelf self heard).needResponses ≠ 0 ∧
        l'.clock = start + 1000 ∧ l'.closed = true ∧ asked = true ∧ ReadInTime start (read ++ heard) (l'.unread later)))

theorem said_self_append (self : Mext) (heard saids : List (Nat × Frame)) :
    saidSelf (saidSelf self heard) saids = saidSelf self (heard ++ saids) := by
  rw [saidSelf, saidSelf, saidSelf, List.map_append, framesSelf, framesSelf, framesSelf, List.foldl_append]

theorem decides_later (replies : Replies) (start : Nat) (self : Mext) (read unread heard rest : List (Nat × Frame))
    (retried : Bool) (result : Except Fault (MextOpened × Line)) (split : unread = heard ++ rest)
    (decides : Decides replies start (saidSelf self heard) (read ++ heard) rest retried result) :
    Decides replies start self read unread retried result := by
  obtain ⟨more, later, again, asked, l', ⟨whole, awaiting, told⟩, ending⟩ := decides
  rw [said_self_append, List.append_assoc] at ending
  refine ⟨heard ++ more, later, again, asked, l', ⟨?_, awaiting, ?_⟩, ending⟩
  · rw [split, List.append_assoc, whole, List.append_assoc]
  · rcases told with none | ⟨first, second, early, start, some⟩
    · exact .inl none
    · exact .inr ⟨first, second, heard ++ early, (List.prefix_append_right_inj heard).mpr start,
        by rw [← said_self_append]; exact some⟩

theorem asked_fewer (replies : Replies) (start : Nat) (need : UInt32) :
    (saidAgain replies start need).length ≤ (handshakeQueries.flatMap (replies (start + 250))).length := by
  have sub : (pendingQueries need).Sublist handshakeQueries := List.filter_sublist
  exact (sub.flatMap _).length_le

structure AskedRound (replies : Replies) (start : Nat) (l : Line) (read arrived : List (Nat × Frame))
    (held : Mext) (retried : Bool) (l' : Line) (arrived' again : List (Nat × Frame)) (retried' : Bool) : Prop where
  underway : Underway start l' read arrived' held retried'
  clock : l'.clock = l.clock
  unread : l'.unread arrived' = l.unread arrived ++ again
  told : (retried' = retried ∧ again = []) ∨
    (retried = false ∧ retried' = true ∧ again = saidAgain replies start held.needResponses)
  pending : retried' = false → l.clock < start + 250
  fewer : left replies start l' arrived' retried' ≤ left replies start l arrived retried

theorem decides_asked (replies : Replies) (start : Nat) (l : Line) (read arrived : List (Nat × Frame))
    (self : Mext) (retried : Bool) (l' : Line) (arrived' again : List (Nat × Frame)) (retried' : Bool)
    (asked : AskedRound replies start l read arrived self retried l' arrived' again retried')
    (result : Except Fault (MextOpened × Line))
    (decides : Decides replies start self read (l'.unread arrived') retried' result) :
    Decides replies start self read (l.unread arrived) retried result := by
  obtain ⟨heard, later, more, last, final, ⟨whole, awaiting, told⟩, ending⟩ := decides
  refine ⟨heard, later, again ++ more, last, final, ⟨?_, awaiting, ?_⟩, ending⟩
  · rw [whole, asked.unread, List.append_assoc]
  · rcases asked.told with ⟨same, none⟩ | ⟨first, second, some⟩
    · rw [none, List.nil_append, ← same]
      exact told
    · rcases told with ⟨kept, none⟩ | ⟨again, _⟩
      · rw [none, List.append_nil]
        exact .inr ⟨first, kept.trans second, [], List.nil_prefix, some⟩
      · rw [second] at again
        cases again

section Rounds

variable (replies : Replies) (start : Nat)
  (told : ∀ time, time = start ∨ time = start + 250 → ∀ query, ∀ said ∈ replies time query, Listed said.2.header)
include told

theorem told_listed (time : Nat) (asked : time = start ∨ time = start + 250) (queries : List (List UInt8)) :
    ∀ said ∈ queries.flatMap (replies time), Listed said.2.header := by
  intro said member
  obtain ⟨query, _, answer⟩ := List.mem_flatMap.mp member
  exact told time asked query said answer

theorem underway_retried (l : Line) (read arrived : List (Nat × Frame)) (self : Mext)
    (underway : Underway start l read arrived self false) (now : l.clock = start + 250) :
    ∃ l' more, mextQueryPending (dialogue replies) self l = .ok (0, l') ∧
      Underway start l' read (arrived ++ more) self true ∧ l'.clock = l.clock ∧
      l'.unread (arrived ++ more) = l.unread arrived ++ saidAgain replies start self.needResponses := by
  obtain ⟨l', more, ran, awaits, unread, clock, closed⟩ := queries_told replies
    (pendingQueries self.needResponses) (pending_single _) l arrived underway.awaiting
  rw [now] at unread
  refine ⟨l', more, ?_, ⟨awaits, fun late => ?_, ?_, fun first => ?_, fun said member => ?_, underway.unturned,
    closed.trans underway.stillOpen⟩, clock, unread⟩
  · rw [query_pending_writes, ran]
  · omega
  · omega
  · cases first
  · rw [unread] at member
    rcases List.mem_append.mp member with before | again
    · exact underway.listed said before
    · exact told_listed replies start told _ (.inr rfl) _ said again

theorem underway_begins (l : Line) (arrived : List (Nat × Frame)) (awaiting : Awaiting l arrived) (now : l.clock = start)
    (listed : ∀ said ∈ l.unread arrived, Listed said.2.header) (stillOpen : l.closed = false) (serial : Option String)
    (m : MonomeDevmap) :
    ∃ l' more, mextQueryPending (dialogue replies) (openedMext serial m) l = .ok (0, l') ∧
      Underway start l' [] (arrived ++ more) (openedMext serial m) false ∧ l'.clock = start ∧
      l'.unread (arrived ++ more) = l.unread arrived ++ handshakeQueries.flatMap (replies start) := by
  have all : pendingQueries (openedMext serial m).needResponses = handshakeQueries := by
    have every : pendingQueries mextNew.needResponses = handshakeQueries := by decide
    exact every
  obtain ⟨l', more, ran, awaits, unread, clock, closed⟩ := queries_told replies
    (pendingQueries (openedMext serial m).needResponses) (pending_single _) l arrived awaiting
  rw [all] at ran unread
  rw [now] at unread
  refine ⟨l', more, ?_, ⟨awaits, fun late => ?_, ?_, fun _ => ?_, fun said member => ?_, rfl, closed.trans stillOpen⟩,
    clock.trans now, unread⟩
  · rw [query_pending_writes, all, ran]
  · omega
  · omega
  · omega
  · rw [unread] at member
    rcases List.mem_append.mp member with before | first
    · exact listed said before
    · exact told_listed replies start told _ (.inl rfl) _ said first

end Rounds

section Loop

variable (replies : Replies) (start : Nat)
  (told : ∀ time, time = start ∨ time = start + 250 → ∀ query, ∀ said ∈ replies time query, Listed said.2.header)
  (noWrap : start + 1000 < 2 ^ 64) (deadline retryAt : UInt64) (ends : deadline.toNat = start + 1000)
  (retries : retryAt.toNat = start + 250)
include told retries

theorem round_asked (l : Line) (read arrived : List (Nat × Frame)) (self : Mext) (retried : Bool)
    (underway : Underway start l read arrived self retried) (now : UInt64) (reading : now.toNat = l.clock) :
    ∃ l' arrived' again retried', (if ¬ retried ∧ now ≥ retryAt then mextQueryPending (dialogue replies) self else pure 0) l =
        .ok (0, l') ∧ (retried || decide (¬ retried ∧ now ≥ retryAt)) = retried' ∧
      AskedRound replies start l read arrived self retried l' arrived' again retried' := by
  have same (retried : Bool) (underway : Underway start l read arrived self retried)
      (first : retried = false → l.clock < start + 250) :
      AskedRound replies start l read arrived self retried l arrived [] retried :=
    ⟨underway, rfl, (List.append_nil _).symm, .inl ⟨rfl, rfl⟩, first, le_refl _⟩
  cases retried with
  | true => exact ⟨l, arrived, [], true, by rw [if_neg (by simp)]; rfl, rfl, same true underway fun no => absurd no (by decide)⟩
  | false =>
      by_cases due : now ≥ retryAt
      · have clock : l.clock = start + 250 := by
          have later := UInt64.le_iff_toNat_le.mp due
          have soon := underway.soon rfl
          omega
        obtain ⟨l', more, ran, goes, same, unread⟩ := underway_retried replies start told l read arrived self underway clock
        refine ⟨l', arrived ++ more, _, true, by rw [if_pos ⟨by decide, due⟩, ran], by simp [due], goes, same, unread,
          .inr ⟨rfl, rfl, rfl⟩, fun no => absurd no (by decide), ?_⟩
        have fewer := asked_fewer replies start self.needResponses
        have counted : (l'.unread (arrived ++ more)).length =
            (l.unread arrived).length + (saidAgain replies start self.needResponses).length := by
          rw [unread, List.length_append]
        rw [left, left, counted, same, if_pos rfl, if_neg Bool.false_ne_true]
        omega
      · refine ⟨l, arrived, [], false, by rw [if_neg (fun both => due both.2)]; rfl, by simp [due], same false underway fun _ => ?_⟩
        have before := UInt64.lt_iff_toNat_lt.mp (UInt64.not_le.mp due)
        omega

include noWrap ends

theorem handshake_decides [t : Target] (fuel : Nat) (l : Line) (read arrived : List (Nat × Frame)) (self : Mext)
    (retried : Bool) (e : MonomeEvent) (underway : Underway start l read arrived self retried)
    (enough : left replies start l arrived retried < fuel) :
    Decides replies start self read (l.unread arrived) retried
      (mextHandshake (dialogue replies) deadline retryAt fuel retried self e l) := by
  induction fuel generalizing l read arrived self retried e with
  | zero => exact absurd enough (Nat.not_lt_zero _)
  | succ fuel ih =>
      have reading : (UInt64.ofNat l.clock).toNat = l.clock := by
        have within := underway.within
        rw [UInt64.toNat_ofNat', Nat.mod_eq_of_lt (by omega)]
      by_cases wanted : self.needResponses = 0
      · rw [mextHandshake, if_pos wanted]
        exact ⟨[], arrived, [], retried, l, ⟨(List.append_nil _).symm, underway.awaiting, .inl ⟨rfl, rfl⟩⟩,
          .inl ⟨rfl, wanted, underway.within, underway.stillOpen⟩⟩
      by_cases late : UInt64.ofNat l.clock ≥ deadline
      · have clock : l.clock = start + 1000 := by
          have reached := UInt64.le_iff_toNat_le.mp late
          have within := underway.within
          omega
        have asked : retried = true := by
          by_contra first
          have soon := underway.soon (Bool.not_eq_true _ ▸ first)
          omega
        have closes : mextHandshake (dialogue replies) deadline retryAt (fuel + 1) retried self e l =
            .ok (⟨some (-1), self⟩, { l with closed := true }) := by
          have now : (dialogue replies).monotonicMilliseconds l = (UInt64.ofNat l.clock, l) := rfl
          rw [mextHandshake, if_neg wanted, io_call_bind, now, if_pos late]
          rfl
        rw [closes]
        refine ⟨[], arrived, [], retried, { l with closed := true },
          ⟨(List.append_nil _).symm, ⟨underway.awaiting.bytes, underway.awaiting.came, underway.awaiting.settled⟩,
            .inl ⟨rfl, rfl⟩⟩, .inr ⟨rfl, wanted, clock, rfl, asked, ?_⟩⟩
        rw [List.append_nil]
        exact underway.last (Nat.le_of_eq clock.symm)
      · have before : UInt64.ofNat l.clock < deadline := UInt64.not_le.mp late
        obtain ⟨l1, arrived1, again, retried1, ran, flag, asked⟩ :=
          round_asked replies start told retryAt retries l read arrived self retried underway _ reading
        rw [handshake_iteration (dialogue replies) deadline retryAt fuel retried self e l l1 (UInt64.ofNat l.clock) 0 wanted
          late rfl ran, flag]
        apply decides_asked replies start l read arrived self retried l1 arrived1 again retried1 asked
        have fewer := asked.fewer
        have clock := asked.clock
        obtain ⟨msec, wait⟩ : ∃ msec, mextWaitMs (UInt64.ofNat l.clock) deadline retryAt retried1 = msec := ⟨_, rfl⟩
        obtain ⟨positive, _, inside, soon⟩ := wait_ms_bounds (UInt64.ofNat l.clock) deadline retryAt retried1 before
        rw [wait] at positive
        rw [wait, reading, ends, ← clock] at inside
        rw [wait, reading, retries] at soon
        have ahead := UInt64.lt_iff_toNat_lt.mp before
        have inTime : retried1 = false → l1.clock + msec.toNat ≤ start + 250 := fun first => by
          have pending := asked.pending first
          have slice := soon first (by rw [UInt64.lt_iff_toNat_lt]; omega)
          omega
        rcases pass_awaits msec.toNat l1 arrived1 asked.underway.awaiting with
          ⟨passed, nothing, awaits⟩ | ⟨l2, arrived2, passed, awaits, some, unread, closed, latest, passing, came, stayed⟩
        · rw [handshake_wait_answered (dialogue replies) deadline retryAt fuel retried1 self e _ 0 1 l1
            { l1 with clock := l1.clock + msec.toNat } (by decide) (by rw [wait]; exact passed),
            if_neg (by decide), if_neg (by decide)]
          have goes := underway_timeout start l1 read arrived1 self retried1 asked.underway msec.toNat nothing awaits inside
            inTime
          have unread : ({ l1 with clock := l1.clock + msec.toNat } : Line).unread [] = l1.unread arrived1 := by
            rw [nothing]
            rfl
          rw [← unread]
          apply ih _ _ _ _ _ _ goes
          rw [left] at fewer ⊢
          rw [unread]
          simp only
          omega
        · have goes := underway_input start l1 read arrived1 self retried1 asked.underway l2 arrived2 awaits unread closed
            came stayed (le_trans latest inside) fun first => le_trans latest (inTime first)
          have count : arrived2.length ≤ (l1.unread arrived1).length := by
            rw [← unread, Line.unread, List.length_append]
            omega
          obtain ⟨status, e', l3, heard, rest, ran, fine, split, hears, awaits3, clock3, coming3, closed3⟩ :=
            dialogue_next_event replies fuel self e l2 arrived2 awaits
              (fun said member => goes.listed said (List.mem_append_left _ member)) goes.unturned (by
                rw [left] at fewer
                omega)
          have later := underway_heard start l2 read arrived2 self retried1 goes l3 heard rest split awaits3 clock3 coming3
            closed3
          rw [handshake_wait_answered (dialogue replies) deadline retryAt fuel retried1 self e _ 0 0 l1 l2 (by decide)
            (by rw [wait]; exact passed), if_neg (by decide), if_pos rfl, io_bind_ok _ _ _ _ _ ran]
          simp only [handshakePoll, if_neg fine]
          have taken : l1.unread arrived1 = heard ++ l3.unread rest := by
            rw [← unread, Line.unread, Line.unread, coming3, split, List.append_assoc]
          apply decides_later replies start self read _ heard (l3.unread rest) retried1 _ taken
          apply ih _ _ _ _ _ _ later
          have positive := List.length_pos_of_ne_nil (hears some)
          have counted := congrArg List.length taken
          rw [List.length_append] at counted
          rw [left] at fewer ⊢
          omega

end Loop

section Opening

variable (replies : Replies) (l : Line) (arrived : List (Nat × Frame)) (awaiting : Awaiting l arrived)
  (told : ∀ time, time = l.clock ∨ time = l.clock + 250 → ∀ query, ∀ said ∈ replies time query, Listed said.2.header)
  (noWrap : l.clock + 1000 < 2 ^ 64) (listed : ∀ said ∈ l.unread arrived, Listed said.2.header) (stillOpen : l.closed = false)
  (e : MonomeEvent) (dev : String) (serial : Option String) (m : MonomeDevmap) (fuel : Nat)
  (enough : 1000 + (l.unread arrived).length + (handshakeQueries.flatMap (replies l.clock)).length +
    (handshakeQueries.flatMap (replies (l.clock + 250))).length < fuel)
include awaiting told noWrap listed stillOpen enough

theorem open_underway [t : Target] : ∃ deadline retryAt l' arrived',
    mextOpen (dialogue replies) fuel mextNew e dev serial m l =
      mextHandshake (dialogue replies) deadline retryAt fuel false (openedMext serial m) e l' ∧
    deadline.toNat = l.clock + 1000 ∧ retryAt.toNat = l.clock + 250 ∧
    Underway l.clock l' [] arrived' (openedMext serial m) false ∧
    l'.unread arrived' = l.unread arrived ++ handshakeQueries.flatMap (replies l.clock) ∧
    left replies l.clock l' arrived' false < fuel := by
  obtain ⟨l', more, asked, underway, clock, unread⟩ := underway_begins replies l.clock told l arrived awaiting rfl listed
    stillOpen serial m
  have reading : (UInt64.ofNat l.clock).toNat = l.clock := by
    rw [UInt64.toNat_ofNat', Nat.mod_eq_of_lt (by omega)]
  have bounds : mextHandshakeTimeoutMs.toNat = 1000 ∧ mextHandshakeRetryMs.toNat = 250 := ⟨rfl, rfl⟩
  refine ⟨UInt64.ofNat l.clock + mextHandshakeTimeoutMs, UInt64.ofNat l.clock + mextHandshakeRetryMs, l', arrived ++ more,
    open_reaches_loop (dialogue replies) fuel e dev serial m l l l l' (UInt64.ofNat l.clock) rfl rfl asked, ?_, ?_, underway,
    unread, ?_⟩
  · rw [UInt64.toNat_add, reading, bounds.1, Nat.mod_eq_of_lt noWrap]
  · rw [UInt64.toNat_add, reading, bounds.2, Nat.mod_eq_of_lt (by omega)]
  · rw [left, clock, unread, List.length_append, if_neg Bool.false_ne_true]
    omega

-- Whatever a device says and whenever, opening it takes no more than the second
-- it allows, and it is given up only when that second is over.
theorem mext_open_decides [t : Target] :
    Decides replies l.clock (openedMext serial m) [] (l.unread arrived ++ handshakeQueries.flatMap (replies l.clock)) false
      (mextOpen (dialogue replies) fuel mextNew e dev serial m l) := by
  obtain ⟨deadline, retryAt, l', arrived', runs, ends, retries, underway, unread, fewer⟩ :=
    open_underway replies l arrived awaiting told noWrap listed stillOpen e dev serial m fuel enough
  rw [runs, ← unread]
  exact handshake_decides replies l.clock told noWrap deadline retryAt ends retries fuel l' [] arrived' _ false e underway fewer

end Opening

theorem answered_lacks (frames : List Frame) (bit : UInt32) (lacks : ∀ frame ∈ frames, ~~~responseBit frame.header &&& bit = bit) :
    ~~~answered frames &&& bit = bit := by
  induction frames with
  | nil => simp [answered]
  | cons first rest ih =>
      rw [answered, not_or_bits, UInt32.and_assoc, ih fun frame member => lacks frame (List.mem_cons_of_mem _ member)]
      exact lacks first List.mem_cons_self

def sizeless : Replies := fun time query =>
  if query = [0x00] then [(time + 5, ⟨0x00, [1, 1], rfl⟩)]
  else if query = [0x01] then [(time + 30, ⟨0x01, List.replicate 32 0x6D, rfl⟩)]
  else [(time + 600, ⟨0x21, [3, 4], rfl⟩)]

theorem sizeless_speaks (time : Nat) (query : List UInt8) : ∀ said ∈ sizeless time query,
    Listed said.2.header ∧ said.1 ≤ time + 600 ∧ ~~~responseBit said.2.header &&& 4 = 4 := by
  intro said member
  obtain ⟨system, name, key⟩ : (Listed 0x00 ∧ ~~~responseBit 0x00 &&& 4 = 4) ∧ (Listed 0x01 ∧ ~~~responseBit 0x01 &&& 4 = 4) ∧
      Listed 0x21 ∧ ~~~responseBit 0x21 &&& 4 = 4 := by decide
  rw [sizeless] at member
  split at member
  · rw [List.mem_singleton.mp member]
    exact ⟨system.1, Nat.add_le_add_left (by decide) time, system.2⟩
  · split at member <;> rw [List.mem_singleton.mp member]
    · exact ⟨name.1, Nat.add_le_add_left (by decide) time, name.2⟩
    · exact ⟨key.1, Nat.add_le_add_left (by decide) time, key.2⟩

theorem mext_open_decides_sizeless : ∃ heard l',
    mextOpen (t := ⟨true, false⟩) (dialogue sizeless) 1010 mextNew (keyEvent false 0 0) "" none
        ⟨"m%d", .mext, 0, 0, "monome", false⟩ ⟨5000, [], [], false⟩ =
      .ok (⟨some (-1), saidSelf (openedMext none ⟨"m%d", .mext, 0, 0, "monome", false⟩) heard⟩, l') ∧
    handshakeQueries.flatMap (sizeless 5000) <+: heard ∧ l'.clock = 6000 ∧ l'.closed = true := by
  obtain ⟨heard, later, again, asked, l', ⟨whole, _, told⟩, ending⟩ := mext_open_decides (t := ⟨true, false⟩) sizeless
    ⟨5000, [], [], false⟩ [] ⟨rfl, fun said member => absurd member List.not_mem_nil,
      fun said member => absurd member (Option.not_mem_none said)⟩
    (fun time _ query said member => (sizeless_speaks time query said member).1) (by decide)
    (fun said member => absurd member List.not_mem_nil) rfl (keyEvent false 0 0) "" none
    ⟨"m%d", .mext, 0, 0, "monome", false⟩ 1010 (by decide)
  have first : Line.unread ⟨5000, [], [], false⟩ [] = [] := rfl
  rw [first, List.nil_append] at whole
  have spoken : ∀ said ∈ heard ++ l'.unread later, ∃ time ≤ 5250, ∃ query, said ∈ sizeless time query := by
    intro said member
    rw [whole] at member
    rcases List.mem_append.mp member with one | two
    · obtain ⟨query, _, answer⟩ := List.mem_flatMap.mp one
      exact ⟨5000, by decide, query, answer⟩
    · rcases told with ⟨_, none⟩ | ⟨_, _, early, _, some⟩
      · rw [none] at two
        exact absurd two List.not_mem_nil
      · rw [some] at two
        obtain ⟨query, _, answer⟩ := List.mem_flatMap.mp two
        exact ⟨5250, le_refl _, query, answer⟩
  rcases ending with ⟨_, answered, _⟩ | ⟨ran, _, clock, closed, _, inTime⟩
  · exfalso
    have lacks := answered_lacks (heard.map Prod.snd) 4 fun frame member => by
      obtain ⟨said, there, rfl⟩ := List.mem_map.mp member
      obtain ⟨time, _, query, answer⟩ := spoken said (List.mem_append_left _ there)
      exact (sizeless_speaks time query said answer).2.2
    rw [saidSelf, frames_self_need] at answered
    have outstanding := congrArg (· &&& (4 : UInt32)) answered
    rw [UInt32.and_assoc, lacks] at outstanding
    exact absurd outstanding (by decide)
  · have nothing : l'.unread later = [] := read_in_time_all 5000 heard _ inTime fun said member => by
      obtain ⟨time, latest, query, answer⟩ := spoken said member
      have early := (sizeless_speaks time query said answer).2.1
      omega
    rw [nothing, List.append_nil] at whole
    exact ⟨heard, l', ran, ⟨again, whole.symm⟩, clock, closed⟩

structure Prompt (replies : Replies) (start : Nat) : Prop where
  early : ∀ time, time = start ∨ time = start + 250 → ∀ query, ∀ said ∈ replies time query, said.1 < start + 1000
  listed : ∀ time, time = start ∨ time = start + 250 → ∀ query, ∀ said ∈ replies time query, Listed said.2.header
  answers : ∀ query ∈ handshakeQueries, AnswersAt replies start query ∨ AnswersAt replies (start + 250) query

-- A handshake that comes back with everything answered, in time and still open:
-- its object is what the frames heard make of it, and nothing the device said
-- is lost.
def Completes (replies : Replies) (start : Nat) (self : Mext) (unread : List (Nat × Frame)) (retried : Bool)
    (result : Except Fault (MextOpened × Line)) : Prop :=
  ∃ heard later again asked l', HeardOut replies start self unread retried heard later again asked l' ∧
    result = .ok (⟨some 0, saidSelf self heard⟩, l') ∧ (saidSelf self heard).needResponses = 0 ∧
    l'.clock ≤ start + 1000 ∧ l'.closed = false

section Pending

variable (self : Mext) (query : List UInt8)

theorem pending_shrinks (early heard : List (Nat × Frame)) (before : early <+: heard)
    (pending : query ∈ pendingQueries (saidSelf self heard).needResponses) :
    query ∈ pendingQueries (saidSelf self early).needResponses := by
  obtain ⟨among, wanted⟩ := List.mem_filter.mp pending
  obtain ⟨more, rfl⟩ := before
  rw [← said_self_append, saidSelf, frames_self_need, decide_eq_true_iff] at wanted
  refine List.mem_filter.mpr ⟨among, ?_⟩
  rw [decide_eq_true_iff]
  intro gone
  apply wanted
  rw [UInt32.and_assoc, UInt32.and_comm (~~~answered _), ← UInt32.and_assoc, gone]
  simp

theorem heard_settles (heard : List (Nat × Frame)) (said : Nat × Frame) (member : said ∈ heard)
    (bit : responseBit said.2.header = queryBit query) : query ∉ pendingQueries (saidSelf self heard).needResponses := by
  intro pending
  have wanted := (List.mem_filter.mp pending).2
  rw [saidSelf, frames_self_need, decide_eq_true_iff] at wanted
  apply wanted
  rw [← bit, UInt32.and_assoc, answered_covers _ said.2 (List.mem_map_of_mem member)]
  simp

end Pending

theorem mext_open_completes [t : Target] (replies : Replies) (l : Line) (arrived : List (Nat × Frame))
    (awaiting : Awaiting l arrived) (prompt : Prompt replies l.clock) (noWrap : l.clock + 1000 < 2 ^ 64)
    (early : ∀ said ∈ l.coming, said.1 < l.clock + 1000) (listed : ∀ said ∈ l.unread arrived, Listed said.2.header)
    (stillOpen : l.closed = false) (e : MonomeEvent) (dev : String) (serial : Option String) (m : MonomeDevmap)
    (fuel : Nat) (enough : 1000 + (l.unread arrived).length + (handshakeQueries.flatMap (replies l.clock)).length +
      (handshakeQueries.flatMap (replies (l.clock + 250))).length < fuel) :
    Completes replies l.clock (openedMext serial m) (l.unread arrived ++ handshakeQueries.flatMap (replies l.clock)) false
      (mextOpen (dialogue replies) fuel mextNew e dev serial m l) := by
  obtain ⟨deadline, retryAt, l1, arrived1, runs, ends, retries, underway, first, fewer⟩ :=
    open_underway replies l arrived awaiting prompt.listed noWrap listed stillOpen e dev serial m fuel enough
  rw [runs, ← first]
  obtain ⟨heard, later, again, asked, l', out, ending⟩ := handshake_decides replies l.clock prompt.listed noWrap deadline
    retryAt ends retries fuel l1 [] arrived1 _ false e underway fewer
  rcases ending with ⟨ran, answered, within, stillOpen⟩ | ⟨_, wanted, _, _, retried, inTime⟩
  · exact ⟨heard, later, again, asked, l', out, ran, answered, within, stillOpen⟩
  -- Given up, the device has been heard to its last word, and has answered.
  · exfalso
    obtain ⟨before, heardBefore, again_⟩ : ∃ before, before <+: heard ∧
        again = saidAgain replies l.clock (saidSelf (openedMext serial m) before).needResponses := by
      rcases out.told with ⟨same, _⟩ | ⟨_, _, some⟩
      · rw [retried] at same
        cases same
      · exact some
    have whole := out.whole
    have answersEarly (time : Nat) (asked : time = l.clock ∨ time = l.clock + 250) (queries : List (List UInt8)) :
        ∀ said ∈ queries.flatMap (replies time), said.1 < l.clock + 1000 := by
      intro said member
      obtain ⟨query, _, answer⟩ := List.mem_flatMap.mp member
      exact prompt.early time asked query said answer
    have nothing : l'.unread later = [] := read_in_time_all l.clock heard _ inTime fun said member => by
      rw [whole, first, List.append_assoc] at member
      rcases List.mem_append.mp member with there | told
      · rcases List.mem_append.mp there with come | coming
        · have due := awaiting.came said come
          omega
        · exact early said coming
      · rcases List.mem_append.mp told with one | two
        · exact answersEarly _ (.inl rfl) _ said one
        · rw [again_] at two
          exact answersEarly _ (.inr rfl) _ said two
    rw [nothing, List.append_nil, first] at whole
    have kinds : (saidSelf (openedMext serial m) heard).needResponses =
        mextNew.needResponses &&& ~~~answered (heard.map Prod.snd) := frames_self_need (openedMext serial m) _
    obtain ⟨query, pending⟩ := pending_some _ _ kinds wanted
    rcases prompt.answers query (List.mem_filter.mp pending).1 with first | second
    · obtain ⟨said, member, bit⟩ := answer_heard replies _ handshakeQueries query (List.mem_filter.mp pending).1 first
      refine heard_settles (openedMext serial m) query heard said ?_ bit pending
      rw [whole]
      exact List.mem_append_left _ (List.mem_append_right _ member)
    · have early := pending_shrinks (openedMext serial m) query before heard heardBefore pending
      obtain ⟨said, member, bit⟩ := answer_heard replies _ _ query early second
      refine heard_settles (openedMext serial m) query heard said ?_ bit pending
      rw [whole, again_]
      exact List.mem_append_right _ member

-- A grid still starting up when it is first asked: all it says in the first
-- quarter of a second is that a key went down.
def startingUp (replyAt : Nat) : Replies := fun time query =>
  if time < replyAt then [(time + 10, ⟨0x21, [3, 4], rfl⟩)]
  else if query = [0x00] then [(time + 5, ⟨0x00, [1, 1], rfl⟩)]
  else if query = [0x01] then [(time + 30, ⟨0x01, List.replicate 32 0x6D, rfl⟩)]
  else [(time + 600, ⟨0x03, [16, 8], rfl⟩)]

theorem starting_up_prompt : Prompt (startingUp 5100) 5000 := by
  have said (time : Nat) (asked : time = 5000 ∨ time = 5000 + 250) (query : List UInt8) :
      ∀ said ∈ startingUp 5100 time query, said.1 < 5000 + 1000 ∧ Listed said.2.header := by
    intro said member
    rcases asked with first | again
    · rw [first, startingUp, if_pos (by decide)] at member
      rw [List.mem_singleton.mp member]
      decide
    · rw [again, startingUp, if_neg (by decide)] at member
      split at member
      · rw [List.mem_singleton.mp member]
        decide
      · split at member <;> rw [List.mem_singleton.mp member] <;> decide
  refine ⟨fun time asked query s member => (said time asked query s member).1,
    fun time asked query s member => (said time asked query s member).2, fun query listed => .inr ?_⟩
  simp only [handshakeQueries, List.mem_cons, List.not_mem_nil, or_false] at listed
  rcases listed with rfl | rfl | rfl
  · exact ⟨_, List.mem_singleton.mpr rfl, by decide⟩
  · exact ⟨_, List.mem_singleton.mpr rfl, by decide⟩
  · exact ⟨_, List.mem_singleton.mpr rfl, by decide⟩

theorem mext_open_completes_late : ∃ self l',
    mextOpen (t := ⟨true, false⟩) (dialogue (startingUp 5100)) 1010 mextNew (keyEvent false 0 0) "" none
        ⟨"m%d", .mext, 0, 0, "monome", false⟩ ⟨5000, [], [], false⟩ = .ok (⟨some 0, self⟩, l') ∧
      self.needResponses = 0 ∧ l'.clock ≤ 6000 ∧ l'.closed = false := by
  obtain ⟨heard, later, again, asked, l', _, ran, need, inTime, stillOpen⟩ := mext_open_completes
    (t := ⟨true, false⟩) (startingUp 5100) ⟨5000, [], [], false⟩ [] ⟨rfl, fun said member => absurd member List.not_mem_nil,
      fun said member => absurd member (Option.not_mem_none said)⟩ starting_up_prompt (by decide)
    (fun said member => absurd member List.not_mem_nil) (fun said member => absurd member List.not_mem_nil) rfl
    (keyEvent false 0 0) "" none ⟨"m%d", .mext, 0, 0, "monome", false⟩ 1010 (by decide)
  exact ⟨_, l', ran, need, inTime, stillOpen⟩

end Libmonome
