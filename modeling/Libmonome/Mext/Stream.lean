import Libmonome.Mext.Meaning
import Mathlib.Data.List.ReduceOption

set_option autoImplicit false

namespace Libmonome

variable {ω : Type}

def framesSelf (self : Mext) (frames : List Frame) : Mext := frames.foldl frameSelf self

def framesEvents [t : Target] : Mext → List Frame → List MonomeEvent
  | _, [] => []
  | self, frame :: rest => (frameEvent self.monome frame).toList ++ framesEvents (frameSelf self frame) rest

def AllDecode : Mext → List Frame → Prop
  | _, [] => True
  | self, frame :: rest => Decodes self frame ∧ AllDecode (frameSelf self frame) rest

def allDecodeDecidable : (self : Mext) → (frames : List Frame) → Decidable (AllDecode self frames)
  | _, [] => isTrue trivial
  | self, frame :: rest =>
      have := allDecodeDecidable (frameSelf self frame) rest
      inferInstanceAs (Decidable (Decodes self frame ∧ AllDecode (frameSelf self frame) rest))

instance (self : Mext) (frames : List Frame) : Decidable (AllDecode self frames) := allDecodeDecidable self frames

def streamSupply : List (Option Frame) → List Supply
  | [] => []
  | none :: rest => .pause :: streamSupply rest
  | some frame :: rest => frame.pieces ++ streamSupply rest

structure Turn [t : Target] (start : Mext) (e : MonomeEvent) (stream rest : List (Option Frame))
    (next : NextEvent Mext) : Prop where
  left : rest <:+ stream
  state : framesSelf next.self rest.reduceOption = framesSelf start stream.reduceOption
  decodes : AllDecode next.self rest.reduceOption
  outcome : (next.status = some 1 ∧ rest.length < stream.length ∧
      framesEvents start stream.reduceOption = next.event :: framesEvents next.self rest.reduceOption) ∨
    (next.status = some 0 ∧ next.event = e ∧
      framesEvents start stream.reduceOption = framesEvents next.self rest.reduceOption ∧
      (rest = [] ∨ none ∈ stream ∧ rest.length < stream.length))

theorem turn_past [t : Target] (self : Mext) (e : MonomeEvent) (frame : Frame) (stream rest : List (Option Frame))
    (next : NextEvent Mext) (silent : frameEvent self.monome frame = none)
    (turn : Turn (frameSelf self frame) e stream rest next) : Turn self e (some frame :: stream) rest next where
  left := turn.left.trans (List.suffix_cons _ _)
  state := turn.state
  decodes := turn.decodes
  outcome := by
    have same : framesEvents self (some frame :: stream).reduceOption =
        framesEvents (frameSelf self frame) stream.reduceOption := by
      rw [List.reduceOption_cons_of_some, framesEvents, silent]
      rfl
    rw [same]
    rcases turn.outcome with ⟨status, shorter, events⟩ | ⟨status, event, events, stopped⟩
    · exact .inl ⟨status, Nat.lt_succ_of_lt shorter, events⟩
    · refine .inr ⟨status, event, events, stopped.imp_right fun paused => ?_⟩
      exact ⟨List.mem_cons_of_mem _ paused.1, Nat.lt_succ_of_lt paused.2⟩

section Fed

variable (P : Platform ω) (holds : ω → List Supply → Prop) (feeds : Feeds P holds)
include feeds

theorem next_event_stream [t : Target] (stream : List (Option Frame)) (fuel : Nat) (enough : stream.length < fuel)
    (msg : MextMsg) (self : Mext) (e : MonomeEvent) (w : ω) (listed : ∀ frame, some frame ∈ stream → Listed frame.header)
    (decodes : AllDecode self stream.reduceOption) (queued : holds w (streamSupply stream)) :
    ∃ next w' rest, mextNextEventLoop P fuel msg self e w = .ok (next, w') ∧ holds w' (streamSupply rest) ∧
      Turn self e stream rest next := by
  induction stream generalizing fuel msg self w with
  | nil =>
      obtain ⟨old, w', got, left⟩ := read_msg_drained P holds feeds msg w queued
      cases fuel with
      | zero => exact absurd enough (Nat.not_lt_zero _)
      | succ fuel =>
          exact ⟨_, w', [], next_event_ended P fuel msg self e w w' 0 old got (by decide), left,
            List.suffix_refl _, rfl, trivial, .inr ⟨rfl, rfl, rfl, .inl rfl⟩⟩
  | cons head tail ih =>
      cases fuel with
      | zero => exact absurd enough (Nat.not_lt_zero _)
      | succ fuel =>
          have shorter : tail.length < fuel := Nat.lt_of_succ_lt_succ enough
          have listedTail : ∀ frame, some frame ∈ tail → Listed frame.header :=
            fun frame member => listed frame (List.mem_cons_of_mem _ member)
          cases head with
          | none =>
              obtain ⟨old, w', got, left⟩ := read_msg_pause P holds feeds msg w (streamSupply tail) queued
              refine ⟨_, w', tail, next_event_ended P fuel msg self e w w' 0 old got (by decide), left,
                List.suffix_cons _ _, rfl, decodes, .inr ⟨rfl, rfl, rfl, .inr ⟨List.mem_cons_self, ?_⟩⟩⟩
              exact Nat.lt_succ_self _
          | some frame =>
              obtain ⟨status, w', got, came, left⟩ := read_msg_frame P holds feeds msg w frame (streamSupply tail) queued
              have handled := frame_handled self e msg frame (listed frame List.mem_cons_self)
              rw [if_pos decodes.1] at handled
              have turned := next_event_handled P fuel msg self e w w' status _ _ got came handled
              cases event : frameEvent self.monome frame with
              | none =>
                  rw [event] at turned
                  obtain ⟨next, last, rest, ran, held, turn⟩ :=
                    ih fuel shorter (frame.over msg) (frameSelf self frame) w' listedTail decodes.2 left
                  exact ⟨next, last, rest, turned.trans ran, held, turn_past self e frame tail rest next event turn⟩
              | some reported =>
                  rw [event] at turned
                  refine ⟨_, w', tail, turned, left, List.suffix_cons _ _, rfl, decodes.2, .inl ⟨rfl, ?_, ?_⟩⟩
                  · exact Nat.lt_succ_self _
                  · rw [List.reduceOption_cons_of_some, framesEvents, event]
                    rfl

end Fed

-- Calling next_event until it returns 0, with the events reported on the way.
-- Another status, or a call that its bound cut off, gives no answer.
def mextDrain [t : Target] (P : Platform ω)
    (fuel : Nat) : Nat → Mext → MonomeEvent → Io ω (Option (List MonomeEvent × Mext))
  | 0, _, _ => return none
  | calls + 1, self, e => do
      let next ← mextNextEvent P fuel self e
      if next.status = some 0 then
        return some ([], next.self)
      else if next.status = some 1 then
        let rest ← mextDrain P fuel calls next.self next.event
        return rest.map fun r => (next.event :: r.1, r.2)
      else
        return none

theorem drain_stream [t : Target] (P : Platform ω) (holds : ω → List Supply → Prop) (feeds : Feeds P holds)
    (fuel calls : Nat) (stream : List (Option Frame)) (self : Mext) (e : MonomeEvent) (w : ω)
    (enough : stream.length < fuel) (enoughCalls : stream.length < calls)
    (listed : ∀ frame, some frame ∈ stream → Listed frame.header) (flows : none ∉ stream)
    (decodes : AllDecode self stream.reduceOption) (queued : holds w (streamSupply stream)) :
    ∃ w', mextDrain P fuel calls self e w =
      .ok (some (framesEvents self stream.reduceOption, framesSelf self stream.reduceOption), w') ∧ holds w' [] := by
  induction calls generalizing stream self e w with
  | zero => exact absurd enoughCalls (Nat.not_lt_zero _)
  | succ calls ih =>
      obtain ⟨next, w', rest, ran, held, turn⟩ :=
        next_event_stream P holds feeds stream fuel enough (.fresh 0 0) self e w listed decodes queued
      rw [mextDrain, mextNextEvent, io_bind_ok _ _ _ _ _ ran]
      rcases turn.outcome with ⟨status, shorter, events⟩ | ⟨status, _, events, stopped⟩
      · have within : ∀ item, item ∈ rest → item ∈ stream := fun item member => turn.left.subset member
        obtain ⟨last, drained, empty⟩ := ih rest next.self next.event w' (by omega) (by omega)
          (fun frame member => listed frame (within _ member)) (fun paused => flows (within _ paused)) turn.decodes held
        refine ⟨last, ?_, empty⟩
        rw [if_neg (by rw [status]; decide), if_pos status, io_bind_ok _ _ _ _ _ drained, events, ← turn.state]
        rfl
      · have done : rest = [] := stopped.resolve_right fun paused => flows paused.1
        subst done
        refine ⟨w', ?_, held⟩
        rw [if_pos status, events, ← turn.state]
        rfl

def lastFrame (header : UInt8) (frames : List Frame) : Option Frame :=
  (frames.filter fun frame => frame.header = header).getLast?

def responseBit (header : UInt8) : UInt32 :=
  if header = 0x00 then mextNeedQuery
  else if header = 0x01 then mextNeedId
  else if header = 0x03 then mextNeedGridSize
  else 0

def answered : List Frame → UInt32
  | [] => 0
  | frame :: rest => responseBit frame.header ||| answered rest

theorem last_frame_append (header : UInt8) (frames : List Frame) (frame : Frame) :
    lastFrame header (frames ++ [frame]) = if frame.header = header then some frame else lastFrame header frames := by
  rw [lastFrame, List.filter_append]
  by_cases same : frame.header = header
  · rw [if_pos same]
    simp [same]
  · rw [if_neg same]
    simp [same, lastFrame]

theorem not_or_bits (a b : UInt32) : ~~~(a ||| b) = ~~~a &&& ~~~b := by
  apply UInt32.toBitVec_inj.mp
  simp [BitVec.not_or]

theorem frame_self_need (self : Mext) (frame : Frame) :
    (frameSelf self frame).needResponses = self.needResponses &&& ~~~responseBit frame.header := by
  rw [frameSelf, responseBit]
  by_cases query : frame.header = 0x00
  · rw [if_pos query, if_pos query]
  · by_cases id : frame.header = 0x01
    · rw [if_neg query, if_neg query, if_pos id, if_pos id]
    · by_cases gridsz : frame.header = 0x03
      · rw [if_neg query, if_neg query, if_neg id, if_neg id, if_pos gridsz, if_pos gridsz]
      · rw [if_neg query, if_neg query, if_neg id, if_neg id, if_neg gridsz, if_neg gridsz]
        simp

theorem frames_self_need (self : Mext) (frames : List Frame) :
    (framesSelf self frames).needResponses = self.needResponses &&& ~~~answered frames := by
  induction frames generalizing self with
  | nil => simp [framesSelf, answered]
  | cons frame rest ih =>
      show (framesSelf (frameSelf self frame) rest).needResponses = _
      rw [ih, frame_self_need, answered, not_or_bits, UInt32.and_assoc]

theorem frames_self_append (self : Mext) (frames : List Frame) (frame : Frame) :
    framesSelf self (frames ++ [frame]) = frameSelf (framesSelf self frames) frame := by
  rw [framesSelf, List.foldl_append]
  rfl

theorem frames_self_fields (self : Mext) (frames : List Frame) :
    (framesSelf self frames).monome.cols =
        (lastFrame 0x03 frames).elim self.monome.cols (fun f => (f.payload.getD 0 0).toUInt32.toInt32) ∧
      (framesSelf self frames).monome.rows =
        (lastFrame 0x03 frames).elim self.monome.rows (fun f => (f.payload.getD 1 0).toUInt32.toInt32) ∧
      (framesSelf self frames).id = (lastFrame 0x01 frames).elim self.id (fun f => idArray f.payload) ∧
      (framesSelf self frames).monome.rotation = self.monome.rotation := by
  induction frames using List.reverseRecOn with
  | nil => exact ⟨rfl, rfl, rfl, rfl⟩
  | append_singleton frames frame ih =>
      obtain ⟨cols, rows, id, rotation⟩ := ih
      rw [frames_self_append, last_frame_append, last_frame_append, frameSelf]
      by_cases query : frame.header = 0x00
      · simpa [query] using ⟨cols, rows, id, rotation⟩
      · by_cases named : frame.header = 0x01
        · simpa [query, named] using ⟨cols, rows, rotation⟩
        · by_cases gridsz : frame.header = 0x03
          · simpa [query, named, gridsz] using ⟨id, rotation⟩
          · simpa [query, named, gridsz] using ⟨cols, rows, id, rotation⟩

theorem stream_supply_frames (frames : List Frame) :
    .pause ∉ streamSupply (frames.map some) ∧
      (streamSupply (frames.map some)).flatMap Supply.bytes = frames.flatMap Frame.bytes := by
  induction frames with
  | nil => exact ⟨List.not_mem_nil, rfl⟩
  | cons frame rest ih =>
      constructor
      · exact fun paused => (List.mem_append.mp paused).elim (frame_pieces_flow frame) ih.1
      · rw [List.map_cons, streamSupply, List.flatMap_append, frame_pieces_bytes, ih.2, List.flatMap_cons]

-- The same build with the low byte of a word first.
@[reducible] def Target.lowFirst (t : Target) : Target := { t with bigEndian := false }

-- The two bytes of each axis of a tilt frame are the same.
def TiltSymmetric (frame : Frame) : Prop :=
  frame.header = 0x81 → frame.payload.getD 1 0 = frame.payload.getD 2 0 ∧
    frame.payload.getD 3 0 = frame.payload.getD 4 0 ∧ frame.payload.getD 5 0 = frame.payload.getD 6 0

instance : DecidablePred TiltSymmetric := fun frame => inferInstanceAs (Decidable (frame.header = 0x81 →
  frame.payload.getD 1 0 = frame.payload.getD 2 0 ∧ frame.payload.getD 3 0 = frame.payload.getD 4 0 ∧
    frame.payload.getD 5 0 = frame.payload.getD 6 0))

theorem signed_pair_swapped (b0 b1 : UInt8) :
    Int32.ofInt (signedPair b1 b0) = Int32.ofInt (signedPair b0 b1) ↔ b0 = b1 := by
  have first := b0.toNat_lt
  have second := b1.toNat_lt
  constructor
  · intro same
    have values := congrArg Int32.toInt same
    rw [signed_pair_held, signed_pair_held] at values
    apply UInt8.toNat_inj.mp
    simp only [signedPair] at values
    split at values <;> split at values <;> omega
  · intro same
    rw [same]

section ByteOrder

variable [t : Target]

theorem host_pair_swapped (big : t.bigEndian = true) (b0 b1 : UInt8) :
    Int32.ofInt (hostPair b0 b1) = Int32.ofInt (hostPair (t := t.lowFirst) b0 b1) ↔ b0 = b1 := by
  simp only [hostPair, big, if_true, Bool.false_eq_true, if_false]
  exact signed_pair_swapped b0 b1

theorem frame_event_swapped (big : t.bigEndian = true) (monome : Monome) (frame : Frame) :
    frameEvent monome frame = frameEvent (t := t.lowFirst) monome frame ↔ TiltSymmetric frame := by
  by_cases tilt : frame.header = 0x81
  · simp [frameEvent, TiltSymmetric, tilt, host_pair_swapped big]
  · refine iff_of_true ?_ fun is => absurd is tilt
    simp only [frameEvent, if_neg tilt]

theorem frame_event_at_all (monome : Monome) (frame : Frame) :
    (frameEvent monome frame).isSome = (frameEvent (t := t.lowFirst) monome frame).isSome := by
  by_cases tilt : frame.header = 0x81
  · simp [frameEvent, tilt]
  · simp only [frameEvent, if_neg tilt]

theorem frames_events_swapped (big : t.bigEndian = true) (self : Mext) (frames : List Frame) :
    framesEvents self frames = framesEvents (t := t.lowFirst) self frames ↔ ∀ frame ∈ frames, TiltSymmetric frame := by
  induction frames generalizing self with
  | nil => exact iff_of_true rfl fun frame member => absurd member List.not_mem_nil
  | cons frame rest ih =>
      have one := frame_event_swapped big self.monome frame
      have together := frame_event_at_all self.monome frame
      simp only [framesEvents]
      rw [List.forall_mem_cons, ← ih (frameSelf self frame), ← one]
      cases here : frameEvent self.monome frame with
      | none =>
          rw [here] at together
          have there : frameEvent (t := t.lowFirst) self.monome frame = none :=
            Option.not_isSome_iff_eq_none.mp (by rw [← together]; simp)
          rw [there]
          simp
      | some event =>
          rw [here] at together
          obtain ⟨other, there⟩ := Option.isSome_iff_exists.mp together.symm
          rw [there]
          simp

theorem frames_events_low_first (self : Mext) (frames : List Frame) :
    framesEvents self frames = framesEvents (t := t.lowFirst) self frames ↔
      t.bigEndian = false ∨ ∀ frame ∈ frames, TiltSymmetric frame := by
  cases big : t.bigEndian with
  | false =>
      have same : t.lowFirst = t := by rw [Target.lowFirst, ← big]
      rw [same]
      exact iff_of_true rfl (.inl rfl)
  | true => simp [frames_events_swapped big self frames]

end ByteOrder

section Drained

variable [t : Target] (P : Platform ω) (pending : ω → List UInt8) (frames : List Frame) (self : Mext) (e : MonomeEvent)
  (w : ω) (fuel calls : Nat)

-- Calling next_event until it returns 0 reports these events and takes up all
-- there is, and the object is what the last system frames make of it.
def StreamDecoded (events : List MonomeEvent) : Prop :=
  ∃ last w', mextDrain P fuel calls self e w = .ok (some (events, last), w') ∧ pending w' = [] ∧
    last.monome.cols = (lastFrame 0x03 frames).elim self.monome.cols (fun f => (f.payload.getD 0 0).toUInt32.toInt32) ∧
    last.monome.rows = (lastFrame 0x03 frames).elim self.monome.rows (fun f => (f.payload.getD 1 0).toUInt32.toInt32) ∧
    last.id = (lastFrame 0x01 frames).elim self.id (fun f => idArray f.payload) ∧
    last.needResponses = self.needResponses &&& ~~~answered frames ∧
    last.monome.rotation = self.monome.rotation

variable (delivers : Delivers P pending) (listed : ∀ frame ∈ frames, Listed frame.header) (decodes : AllDecode self frames)
  (queued : pending w = frames.flatMap Frame.bytes) (enough : frames.length < fuel) (enoughCalls : frames.length < calls)
include delivers listed decodes queued enough enoughCalls

theorem stream_decoded : StreamDecoded P pending frames self e w fuel calls (framesEvents self frames) := by
  have flat : (frames.map some).reduceOption = frames := by
    rw [List.reduceOption, List.filterMap_map, Function.comp_def]
    exact List.filterMap_some
  have length : (frames.map some).length = frames.length := List.length_map some
  have cut : Cut pending w (streamSupply (frames.map some)) :=
    ⟨(stream_supply_frames frames).1, by rw [queued, (stream_supply_frames frames).2]⟩
  obtain ⟨w', ran, empty⟩ := drain_stream P (Cut pending) (delivers_feeds P pending delivers) fuel calls
    (frames.map some) self e w (by omega) (by omega)
    (fun frame member => listed frame (by simpa using member)) (by simp) (by rw [flat]; exact decodes) cut
  rw [flat] at ran
  obtain ⟨cols, rows, id, rotation⟩ := frames_self_fields self frames
  exact ⟨framesSelf self frames, w', ran, empty.2, cols, rows, id, frames_self_need self frames, rotation⟩

-- A finite stream of listed frames is decoded exactly, with the tilt axes low
-- byte first, unless the build reads a word the other way round and an axis
-- shows it.
theorem mext_stream_decoded_iff :
    StreamDecoded P pending frames self e w fuel calls (framesEvents (t := t.lowFirst) self frames) ↔
      t.bigEndian = false ∨ ∀ frame ∈ frames, TiltSymmetric frame := by
  have decoded := stream_decoded P pending frames self e w fuel calls delivers listed decodes queued enough enoughCalls
  rw [← frames_events_low_first self frames]
  constructor
  · intro lowFirst
    obtain ⟨last, w', ran, _⟩ := decoded
    obtain ⟨last', w'', ran', _⟩ := lowFirst
    have same := Except.ok.inj (ran.symm.trans ran')
    exact (Prod.mk.inj (Option.some.inj (Prod.mk.inj same).1)).1
  · intro same
    rw [← same]
    exact decoded

end Drained

theorem mext_stream_decoded_level : ∃ last w', mextDrain (t := ⟨true, true⟩) link 4 4
      ⟨⟨0, 0, .rotate90, none, .unset⟩, 7, List.replicate 33 0⟩ (keyEvent false 0 0)
      ⟨[0x03, 16, 8, 0x21, 1, 2, 0x81, 0, 2, 2, 0, 0, 0xFF, 0xFF], []⟩ =
    .ok (some ([keyEvent true 5 1, ⟨.tilt, .tilt 0 514 0 (-1)⟩], last), w') ∧ last.needResponses = 3 := by
  obtain ⟨last, w', ran, -, -, -, -, need, -⟩ := (mext_stream_decoded_iff (t := ⟨true, true⟩) link Link.incoming
    [⟨0x03, [16, 8], rfl⟩, ⟨0x21, [1, 2], rfl⟩, ⟨0x81, [0, 2, 2, 0, 0, 0xFF, 0xFF], rfl⟩]
    ⟨⟨0, 0, .rotate90, none, .unset⟩, 7, List.replicate 33 0⟩ (keyEvent false 0 0)
    ⟨[0x03, 16, 8, 0x21, 1, 2, 0x81, 0, 2, 2, 0, 0, 0xFF, 0xFF], []⟩ 4 4 link_delivers (by decide) (by decide) rfl
    (by decide) (by decide)).mpr (.inr (by decide))
  exact ⟨last, w', ran, need⟩

-- A sensor tilted by 1 on a big-endian build: the event says 256.
theorem tilt_word_swapped : ¬ StreamDecoded (t := ⟨true, true⟩) link Link.incoming [⟨0x81, [0, 1, 0, 0, 0, 0, 0], rfl⟩]
    ⟨⟨8, 16, .rotate0, none, .unset⟩, 0, List.replicate 33 0⟩ (keyEvent false 0 0) ⟨[0x81, 0, 1, 0, 0, 0, 0, 0], []⟩ 2 2
    (framesEvents (t := ⟨true, false⟩) ⟨⟨8, 16, .rotate0, none, .unset⟩, 0, List.replicate 33 0⟩
      [⟨0x81, [0, 1, 0, 0, 0, 0, 0], rfl⟩]) := by
  intro decoded
  obtain ⟨last, w', ran, _⟩ := decoded
  have reported : mextDrain (t := ⟨true, true⟩) link 2 2 ⟨⟨8, 16, .rotate0, none, .unset⟩, 0, List.replicate 33 0⟩
      (keyEvent false 0 0) ⟨[0x81, 0, 1, 0, 0, 0, 0, 0], []⟩ = .ok (some ([⟨.tilt, .tilt 0 256 0 0⟩],
        ⟨⟨8, 16, .rotate0, none, .unset⟩, 0, List.replicate 33 0⟩), ⟨[], []⟩) := rfl
  have same := Except.ok.inj (reported.symm.trans ran)
  have events := (Prod.mk.inj (Option.some.inj (Prod.mk.inj same).1)).1
  exact absurd events (by decide)

end Libmonome
