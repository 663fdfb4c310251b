import Libmonome.Feed
import Libmonome.Mext.Input
import Libmonome.RotationCoords

set_option autoImplicit false

namespace Libmonome

variable {ω : Type}

def headerLength (header : UInt8) : Nat := payloadLength incomingPayloadLengths (header >>> 4) (header &&& 0xF)

-- A message a device sends: a header, and as many payload bytes as the header
-- calls for.
structure Frame where
  header : UInt8
  payload : List UInt8
  sized : payload.length = headerLength header
deriving DecidableEq, Repr

def Frame.bytes (frame : Frame) : List UInt8 := frame.header :: frame.payload

def Frame.pieces (frame : Frame) : List Supply :=
  .piece [frame.header] :: if frame.payload = [] then [] else [.piece frame.payload]

theorem frame_pieces_bytes (frame : Frame) : frame.pieces.flatMap Supply.bytes = frame.bytes := by
  by_cases bare : frame.payload = []
  · rw [Frame.pieces, if_pos bare, Frame.bytes, bare]
    rfl
  · rw [Frame.pieces, if_neg bare, Frame.bytes]
    simp [Supply.bytes]

theorem frame_pieces_flow (frame : Frame) : .pause ∉ frame.pieces := by
  by_cases bare : frame.payload = []
  · simp [Frame.pieces, bare]
  · simp [Frame.pieces, bare]

def Listed (header : UInt8) : Prop := 0 < headerLength header

instance : DecidablePred Listed := fun header => inferInstanceAs (Decidable (0 < headerLength header))

def Frame.over (frame : Frame) (old : MextMsg) : MextMsg where
  addr := frame.header >>> 4
  cmd := frame.header &&& 0xF
  header := frame.header
  payload := frame.payload ++ old.payload.drop frame.payload.length

theorem header_length_small (header : UInt8) : headerLength header ≤ 32 := by
  have table : ∀ entry ∈ incomingPayloadLengths, entry.2.2 ≤ 32 := by decide
  rw [headerLength, payloadLength]
  cases found : incomingPayloadLengths.find? (fun entry => entry.1 = header >>> 4 ∧ entry.2.1 = header &&& 0xF) with
  | none => exact Nat.zero_le _
  | some entry => exact table entry (List.mem_of_find?_eq_some found)

theorem count_positive (n : Nat) (small : n ≤ 33) (some : 0 < n) : ¬ Int64.ofNat n ≤ 0 := by
  rw [Int64.le_iff_toInt_le, Int64.toInt_ofNat_of_lt (by omega), Int64.toInt_zero]
  omega

section ReadMsg

variable (P : Platform ω) (msg : MextMsg) (w : ω)

theorem read_msg_ended (ended : (P.read 1 w).1.status ≤ 0) : mextReadMsg P msg w =
    .ok (((P.read 1 w).1.status, { msg with header := (P.read 1 w).1.stored.headD msg.header }), (P.read 1 w).2) := by
  rw [mextReadMsg, io_call_bind]
  simp only [if_pos ended]
  rfl

theorem read_msg_bare (came : ¬ (P.read 1 w).1.status ≤ 0) (header : UInt8)
    (first : (P.read 1 w).1.stored.headD msg.header = header) (bare : headerLength header = 0) :
    mextReadMsg P msg w =
      .ok ((1, { addr := header >>> 4, cmd := header &&& 0xF, header := header, payload := msg.payload }),
        (P.read 1 w).2) := by
  rw [mextReadMsg, io_call_bind]
  rw [headerLength] at bare
  simp only [if_neg came, first, if_pos bare]
  rfl

theorem read_msg_body (came : ¬ (P.read 1 w).1.status ≤ 0) (header : UInt8)
    (first : (P.read 1 w).1.stored.headD msg.header = header) (long : headerLength header ≠ 0) :
    mextReadMsg P msg w =
      (let body := P.read (headerLength header) (P.read 1 w).2
       let got := { addr := header >>> 4, cmd := header &&& 0xF, header := header, payload := msg.payload : MextMsg }
       .ok ((if body.1.status ≠ Int64.ofNat (headerLength header) then -1 else Int64.ofNat (1 + headerLength header),
         got.put 0 body.1.stored), body.2)) := by
  subst first
  rw [mextReadMsg, io_call_bind]
  rw [headerLength] at long ⊢
  simp only [if_neg came, if_neg long]
  rw [io_call_bind]
  by_cases short : (P.read (payloadLength incomingPayloadLengths ((P.read 1 w).1.stored.headD msg.header >>> 4)
      ((P.read 1 w).1.stored.headD msg.header &&& 0xF)) (P.read 1 w).2).1.status ≠
        Int64.ofNat (payloadLength incomingPayloadLengths ((P.read 1 w).1.stored.headD msg.header >>> 4)
          ((P.read 1 w).1.stored.headD msg.header &&& 0xF))
  · rw [if_pos short, if_pos short]
    rfl
  · rw [if_neg short, if_neg short]
    rfl

end ReadMsg

section Fed

variable (P : Platform ω) (holds : ω → List Supply → Prop) (feeds : Feeds P holds) (msg : MextMsg) (w : ω)
include feeds

theorem read_msg_frame (frame : Frame) (more : List Supply) (queued : holds w (frame.pieces ++ more)) :
    ∃ status w', mextReadMsg P msg w = .ok ((status, frame.over msg), w') ∧ ¬ status ≤ 0 ∧ holds w' more := by
  obtain ⟨stored, counted, left⟩ := feeds.piece w [frame.header] _ (List.cons_ne_nil _ _) queued
  have came : ¬ (P.read 1 w).1.status ≤ 0 := by
    rw [show (P.read 1 w).1.status = Int64.ofNat 1 from counted]
    decide
  have first : (P.read 1 w).1.stored.headD msg.header = frame.header := by
    rw [show (P.read 1 w).1.stored = [frame.header] from stored]
    rfl
  by_cases bare : frame.payload = []
  · have short : headerLength frame.header = 0 := by rw [← frame.sized, bare]; rfl
    refine ⟨1, (P.read 1 w).2, ?_, by decide, ?_⟩
    · rw [read_msg_bare P msg w came frame.header first short, Frame.over, bare]
      rfl
    · rw [if_pos bare] at left
      exact left
  · have long : headerLength frame.header ≠ 0 := by
      rw [← frame.sized]
      exact fun none => bare (List.length_eq_zero_iff.mp none)
    rw [if_neg bare] at left
    obtain ⟨body, size, after⟩ := feeds.piece (P.read 1 w).2 frame.payload more bare left
    rw [frame.sized] at body size after
    refine ⟨Int64.ofNat (1 + headerLength frame.header), (P.read (headerLength frame.header) (P.read 1 w).2).2, ?_, ?_, after⟩
    · rw [read_msg_body P msg w came frame.header first long]
      simp only [body, size, ne_eq, not_true_eq_false, if_false]
      simp only [MextMsg.put, Frame.over, List.take_zero, List.nil_append, Nat.zero_add]
    · have small := header_length_small frame.header
      exact count_positive _ (by omega) (by omega)

theorem read_msg_pause (more : List Supply) (queued : holds w (.pause :: more)) :
    ∃ old w', mextReadMsg P msg w = .ok ((0, old), w') ∧ holds w' more := by
  obtain ⟨none, left⟩ := feeds.pause 1 w more (by decide) queued
  exact ⟨_, _, (read_msg_ended P msg w (by rw [none]; decide)).trans (by rw [none]), left⟩

theorem read_msg_drained (queued : holds w []) : ∃ old w', mextReadMsg P msg w = .ok ((0, old), w') ∧ holds w' [] := by
  obtain ⟨none, left⟩ := feeds.drained 1 w (by decide) queued
  exact ⟨_, _, (read_msg_ended P msg w (by rw [none]; decide)).trans (by rw [none]), left⟩

end Fed

section NextEvent

variable (P : Platform ω) (fuel : Nat) (msg : MextMsg) (self : Mext) (e : MonomeEvent) (w w' : ω) (status : Int64)
  (read : MextMsg)

theorem system_silent (h : Handled) (handled : mextHandlerSystem self msg e = .ok h) : h.propagate = false ∧ h.event = e := by
  rw [mextHandlerSystem] at handled
  by_cases query : msg.cmd = cmdSystemQueryResponse
  · rw [if_pos query] at handled
    cases handled
    exact ⟨rfl, rfl⟩
  · by_cases id : msg.cmd = cmdSystemId
    · rw [if_neg query, if_pos id] at handled
      cases handled
      exact ⟨rfl, rfl⟩
    · by_cases gridsz : msg.cmd = cmdSystemGridsz
      · rw [if_neg query, if_neg id, if_pos gridsz] at handled
        cases handled
        exact ⟨rfl, rfl⟩
      · rw [if_neg query, if_neg id, if_neg gridsz] at handled
        cases handled
        exact ⟨rfl, rfl⟩

theorem next_event_ended [t : Target] (got : mextReadMsg P msg w = .ok ((status, read), w')) (ended : status ≤ 0) :
    mextNextEventLoop P (fuel + 1) msg self e w = .ok (⟨some status.toInt32, self, e⟩, w') := by
  rw [mextNextEventLoop, io_bind_ok _ _ _ _ _ got]
  simp only [if_pos ended]
  rfl

theorem next_event_fault [t : Target] (fault : Fault) (got : mextReadMsg P msg w = .ok ((status, read), w'))
    (came : ¬ status ≤ 0) (handled : subsystemEventHandlers read.addr self read e = .error fault) :
    mextNextEventLoop P (fuel + 1) msg self e w = .error fault := by
  rw [mextNextEventLoop, io_bind_ok _ _ _ _ _ got]
  simp only [if_neg came]
  by_cases system : read.addr = ssSystem
  · rw [if_pos system, io_bind, Io.check, show (0 : UInt8) = read.addr from system.symm, handled]
    rfl
  · rw [if_neg system, io_bind, Io.check, handled]
    rfl

theorem next_event_handled [t : Target] (h : Handled) (got : mextReadMsg P msg w = .ok ((status, read), w'))
    (came : ¬ status ≤ 0) (handled : subsystemEventHandlers read.addr self read e = .ok h) :
    mextNextEventLoop P (fuel + 1) msg self e w =
      if h.propagate then .ok (⟨some 1, h.self, h.event⟩, w') else mextNextEventLoop P fuel read h.self h.event w' := by
  rw [mextNextEventLoop, io_bind_ok _ _ _ _ _ got]
  simp only [if_neg came]
  by_cases system : read.addr = ssSystem
  · have quiet : mextHandlerSystem self read e = .ok h := by
      rw [← handled, system]
      rfl
    rw [if_pos system, (system_silent read self e h quiet).1, io_bind, Io.check,
      show (0 : UInt8) = read.addr from system.symm, handled]
    rfl
  · rw [if_neg system, io_bind, Io.check, handled]
    show (if h.propagate = true then pure ⟨some 1, h.self, h.event⟩
      else mextNextEventLoop P fuel read h.self h.event : Io ω (NextEvent Mext)) w' = _
    split <;> rfl

end NextEvent

end Libmonome
