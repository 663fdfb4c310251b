import Libmonome.Messages

set_option autoImplicit false

namespace Libmonome

variable {ω : Type}

structure Attempt where
  first : Int64
  message : Option Message
deriving DecidableEq, Repr

-- A header, and for a header with a payload one more read of just its length.
-- Between the two the header's status and the header are kept.
def mextAttemptsFrom : Option (Int64 × UInt8) → List PlatformCall → List Attempt
  | none, [] => []
  | some (first, _), [] => [⟨first, none⟩]
  | none, .read _ stored status :: rest =>
      if status ≤ 0 then ⟨status, none⟩ :: mextAttemptsFrom none rest
      else if bare : headerLength (stored.headD 0) = 0 then
        ⟨status, some (.frame ⟨stored.headD 0, [], bare.symm⟩)⟩ :: mextAttemptsFrom none rest
      else mextAttemptsFrom (some (status, stored.headD 0)) rest
  | some (first, header), .read _ body count :: rest =>
      if whole : body.length = headerLength header ∧ count = Int64.ofNat body.length then
        ⟨first, some (.frame ⟨header, body, whole.1⟩)⟩ :: mextAttemptsFrom none rest
      else ⟨first, none⟩ :: mextAttemptsFrom none rest
  | pending, _ :: rest => mextAttemptsFrom pending rest

def mextAttempts (log : List PlatformCall) : List Attempt := mextAttemptsFrom none log

def pairAttempts : List PlatformCall → List Attempt
  | [] => []
  | .read _ stored status :: rest =>
      ⟨status, if status = 2 then some (.pair (stored.getD 0 0) (stored.getD 1 0)) else none⟩ :: pairAttempts rest
  | _ :: rest => pairAttempts rest

inductive ReadTurn (msg : MextMsg) (calls : List PlatformCall) : Int64 → MextMsg → Prop where
  | whole (first status : Int64) (frame : Frame) (came : ¬ first ≤ 0) (positive : ¬ status ≤ 0)
      (shown : ∀ rest, mextAttempts (calls ++ rest) = ⟨first, some (.frame frame)⟩ :: mextAttempts rest) :
      ReadTurn msg calls status (frame.over msg)
  | ended (first status : Int64) (read : MextMsg) (ended : status ≤ 0) (same : first ≤ 0 → status = first)
      (short : ¬ first ≤ 0 → status = -1)
      (shown : ∀ rest, mextAttempts (calls ++ rest) = ⟨first, none⟩ :: mextAttempts rest) :
      ReadTurn msg calls status read

theorem first_read_byte (outcome : ReadOutcome 1) (came : ¬ outcome.status ≤ 0) : ∃ header, outcome.stored = [header] := by
  have fits := outcome.fits
  have counted := outcome.counted
  have positive : 0 < outcome.status.toInt := by
    rw [Int64.le_iff_toInt_le, Int64.toInt_zero] at came
    omega
  exact List.length_eq_one_iff.mp (by omega)

theorem full_read_length (n : Nat) (small : n ≤ 32) (outcome : ReadOutcome n) (full : outcome.status = Int64.ofNat n) :
    outcome.stored.length = n := by
  have fits := outcome.fits
  have counted := outcome.counted
  rw [full, Int64.toInt_ofNat_of_lt (by omega)] at counted
  omega

def readCall (P : Platform ω) (n : Nat) (w : ω) : PlatformCall := .read n (P.read n w).1.stored (P.read n w).1.status

inductive Reads (P : Platform ω) : ω → List PlatformCall → ω → Prop where
  | none (w : ω) : Reads P w [] w
  | more (w last : ω) (n : Nat) (calls : List PlatformCall) (on : Reads P (P.read n w).2 calls last) :
      Reads P w (readCall P n w :: calls) last

theorem reads_append (P : Platform ω) (w between last : ω) (calls more : List PlatformCall)
    (first : Reads P w calls between) (second : Reads P between more last) : Reads P w (calls ++ more) last := by
  induction first with
  | none w => exact second
  | more w between n calls on ih => exact .more w last n (calls ++ more) (ih second)

theorem logged_read_msg (P : Platform ω) (msg : MextMsg) (w : ω) (past : List PlatformCall) :
    ∃ status read calls w', mextReadMsg (logged P) msg (w, past) = .ok ((status, read), (w', past ++ calls)) ∧
      Reads P w calls w' ∧ calls.length ≤ 2 ∧ ReadTurn msg calls status read := by
  by_cases came : (P.read 1 w).1.status ≤ 0
  · refine ⟨_, _, [readCall P 1 w], _, read_msg_ended (logged P) msg (w, past) came, .more w _ 1 [] (.none _), one_le_two,
      .ended (P.read 1 w).1.status _ _ came (fun _ => rfl) (absurd came) fun rest => ?_⟩
    rw [List.cons_append, List.nil_append, readCall, mextAttempts, mextAttemptsFrom, if_pos came]
    rfl
  · obtain ⟨header, byte⟩ := first_read_byte (P.read 1 w).1 came
    have first : ((logged P).read 1 (w, past)).1.stored.headD msg.header = header := by
      show (P.read 1 w).1.stored.headD msg.header = header
      rw [byte]
      rfl
    by_cases bare : headerLength header = 0
    · refine ⟨_, _, [readCall P 1 w], _, read_msg_bare (logged P) msg (w, past) came header first bare,
        .more w _ 1 [] (.none _), one_le_two,
        .whole (P.read 1 w).1.status 1 ⟨header, [], bare.symm⟩ came (by decide) fun rest => ?_⟩
      rw [List.cons_append, List.nil_append, readCall, mextAttempts, mextAttemptsFrom, if_neg came]
      simp only [byte, List.headD_cons, dif_pos bare]
      rfl
    · have body := read_msg_body (logged P) msg (w, past) came header first bare
      have small := header_length_small header
      generalize at_ : headerLength header = n at body small
      have log : (past ++ [readCall P 1 w]) ++ [readCall P n (P.read 1 w).2] =
          past ++ [readCall P 1 w, readCall P n (P.read 1 w).2] := by
        rw [List.append_assoc]
        rfl
      have shown : ∀ rest, mextAttempts ([readCall P 1 w, readCall P n (P.read 1 w).2] ++ rest) =
          mextAttemptsFrom (some ((P.read 1 w).1.status, header)) (readCall P n (P.read 1 w).2 :: rest) := by
        intro rest
        rw [List.cons_append, List.cons_append, List.nil_append, readCall, mextAttempts, mextAttemptsFrom, if_neg came]
        simp only [byte, List.headD_cons, dif_neg bare]
      by_cases whole : (P.read n (P.read 1 w).2).1.status = Int64.ofNat n
      · have size := full_read_length n small (P.read n (P.read 1 w).2).1 whole
        refine ⟨Int64.ofNat (1 + n), Frame.over ⟨header, (P.read n (P.read 1 w).2).1.stored, size.trans at_.symm⟩ msg,
          [readCall P 1 w, readCall P n (P.read 1 w).2], (P.read n (P.read 1 w).2).2, body.trans ?_,
          .more w _ 1 _ (.more _ _ n [] (.none _)), le_refl 2,
          .whole (P.read 1 w).1.status _ _ came (count_positive _ (by omega) (by omega)) fun rest => ?_⟩
        · show Except.ok ((if (P.read n (P.read 1 w).2).1.status ≠ Int64.ofNat n
            then (-1 : Int64) else Int64.ofNat (1 + n), _), _, _) = _
          rw [if_neg (not_not.mpr whole), ← log]
          simp only [MextMsg.put, Frame.over, List.take_zero, List.nil_append, Nat.zero_add]
          rfl
        · rw [shown, readCall, mextAttemptsFrom, dif_pos ⟨size.trans at_.symm, by rw [whole, size]⟩]
          rfl
      · refine ⟨-1, MextMsg.put ⟨header >>> 4, header &&& 0xF, header, msg.payload⟩ 0 (P.read n (P.read 1 w).2).1.stored,
          [readCall P 1 w, readCall P n (P.read 1 w).2], (P.read n (P.read 1 w).2).2, body.trans ?_,
          .more w _ 1 _ (.more _ _ n [] (.none _)), le_refl 2,
          .ended (P.read 1 w).1.status _ _ (by decide) (fun ended => absurd ended came) (fun _ => rfl) fun rest => ?_⟩
        · show Except.ok ((if (P.read n (P.read 1 w).2).1.status ≠ Int64.ofNat n
            then (-1 : Int64) else Int64.ofNat (1 + n), _), _, _) = _
          rw [if_pos whole, ← log]
          rfl
        · have cut : ¬ ((P.read n (P.read 1 w).2).1.stored.length = headerLength header ∧
              (P.read n (P.read 1 w).2).1.status = Int64.ofNat (P.read n (P.read 1 w).2).1.stored.length) := by
            rintro ⟨size, count⟩
            exact whole (by rw [count, size, at_])
          rw [shown, readCall, mextAttemptsFrom, dif_neg cut]
          rfl

-- A next_event call as its attempts tell it, one frame after the other. A call
-- that its bound cuts off stops between two frames.
inductive CallRun [t : Target] : MextMsg → Mext → MonomeEvent → List Attempt → NextEvent Mext → Prop where
  | cut (msg : MextMsg) (self : Mext) (e : MonomeEvent) : CallRun msg self e [] ⟨none, self, e⟩
  | ended (msg : MextMsg) (self : Mext) (e : MonomeEvent) (first status : Int64) (ended : status ≤ 0)
      (same : first ≤ 0 → status = first) (short : ¬ first ≤ 0 → status = -1) :
      CallRun msg self e [⟨first, none⟩] ⟨some status.toInt32, self, e⟩
  | reported (msg : MextMsg) (self : Mext) (e : MonomeEvent) (first : Int64) (frame : Frame) (h : Handled)
      (came : ¬ first ≤ 0)
      (handled : subsystemEventHandlers (frame.over msg).addr self (frame.over msg) e = .ok h) (event : h.propagate) :
      CallRun msg self e [⟨first, some (.frame frame)⟩] ⟨some 1, h.self, h.event⟩
  | passed (msg : MextMsg) (self : Mext) (e : MonomeEvent) (first : Int64) (frame : Frame) (h : Handled)
      (rest : List Attempt) (next : NextEvent Mext) (came : ¬ first ≤ 0)
      (handled : subsystemEventHandlers (frame.over msg).addr self (frame.over msg) e = .ok h)
      (silent : ¬ h.propagate) (on : CallRun (frame.over msg) h.self h.event rest next) :
      CallRun msg self e (⟨first, some (.frame frame)⟩ :: rest) next

def Aligned (log : List PlatformCall) : Prop := ∀ rest, mextAttempts (log ++ rest) = mextAttempts log ++ mextAttempts rest

structure CallLog [t : Target] (P : Platform ω) (fuel : Nat) (msg : MextMsg) (start : Mext) (e : MonomeEvent) (w : ω)
    (next : NextEvent Mext) (w' : ω) (calls : List PlatformCall) : Prop where
  reads : Reads P w calls w'
  call : CallRun msg start e (mextAttempts calls) next
  aligned : Aligned calls
  few : calls.length ≤ 2 * (mextAttempts calls).length
  spent : next.status = none → (mextAttempts calls).length = fuel

theorem logged_next_event [t : Target] (P : Platform ω) (fuel : Nat) (msg : MextMsg) (self : Mext) (e : MonomeEvent)
    (w w' : ω) (past log : List PlatformCall) (next : NextEvent Mext)
    (run : mextNextEventLoop (logged P) fuel msg self e (w, past) = .ok (next, (w', log))) :
    ∃ calls, log = past ++ calls ∧ CallLog P fuel msg self e w next w' calls := by
  induction fuel generalizing msg self e w past with
  | zero =>
      cases run
      exact ⟨[], by simp, .none _, .cut msg self e, fun _ => rfl, Nat.zero_le _, fun _ => rfl⟩
  | succ fuel ih =>
      obtain ⟨status, read, calls, between, got, reads, few, turn⟩ := logged_read_msg P msg w past
      cases turn with
      | ended first _ _ ended same short shown =>
          have one : mextAttempts calls = [⟨first, none⟩] := by simpa [mextAttempts, mextAttemptsFrom] using shown []
          rw [next_event_ended (logged P) fuel msg self e _ _ status read got ended] at run
          cases run
          refine ⟨calls, rfl, reads, ?_, fun rest => by rw [shown, one]; rfl, by rw [one]; exact few, fun cut => by cases cut⟩
          rw [one]
          exact .ended msg self e first status ended same short
      | whole first _ frame came positive shown =>
          have one : mextAttempts calls = [⟨first, some (.frame frame)⟩] := by
            simpa [mextAttempts, mextAttemptsFrom] using shown []
          cases handled : subsystemEventHandlers (frame.over msg).addr self (frame.over msg) e with
          | error fault =>
              rw [next_event_fault (logged P) fuel msg self e _ _ status _ fault got positive handled] at run
              cases run
          | ok h =>
              rw [next_event_handled (logged P) fuel msg self e _ _ status _ h got positive handled] at run
              by_cases event : h.propagate
              · rw [if_pos event] at run
                cases run
                refine ⟨calls, rfl, reads, ?_, fun rest => by rw [shown, one]; rfl, by rw [one]; exact few, fun cut => by cases cut⟩
                rw [one]
                exact .reported msg self e first frame h came handled event
              · rw [if_neg event] at run
                obtain ⟨more, tail, on⟩ := ih (frame.over msg) h.self h.event between _ run
                refine ⟨calls ++ more, by rw [tail, List.append_assoc],
                  reads_append P w between w' calls more reads on.reads, ?_, fun rest => ?_, ?_, fun none => ?_⟩
                · rw [shown]
                  exact .passed msg self e first frame h _ next came handled event on.call
                · rw [List.append_assoc, shown, on.aligned, shown]
                  rfl
                · have later := on.few
                  rw [shown, List.length_append, List.length_cons]
                  omega
                · rw [shown, List.length_cons, on.spent none]

end Libmonome
