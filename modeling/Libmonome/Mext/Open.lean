import Libmonome.Mext.Iteration

set_option autoImplicit false

namespace Libmonome

variable {ω : Type}

def openedMext (serial : Option String) (m : MonomeDevmap) : Mext :=
  { mextNew with monome := { mextNew.monome with serial := serial, friendly := .devmap m.friendly } }

theorem first_round (P : Platform ω) (first : Mext) (ready : first.needResponses = mextNew.needResponses) (start : UInt64)
    (w : ω) : ∃ queried writes w', mextQueryPending (logged P) first (w, [.openDevice 0, .clock start]) =
        .ok (queried, (w', [PlatformCall.openDevice 0, .clock start] ++ writes)) ∧
      Traced first first start ([PlatformCall.openDevice 0, .clock start] ++ writes) ∧
      ((queried = 0 ∧ Going first first start false ([PlatformCall.openDevice 0, .clock start] ++ writes)) ∨
        (queried = -1 ∧ ∃ call ∈ writes, call.Failed)) := by
  have begun : Traced first first start [.openDevice 0, .clock start] :=
    ⟨fun _ => rfl, ⟨trivial, trivial, trivial⟩, rfl, rfl, rfl, by simp⟩
  have all : pendingQueries first.needResponses = [[0x00], [0x01], [0x05]] := by
    rw [ready]
    decide
  obtain ⟨queried, writes, w', ran, sent, _⟩ := write_queries_run P (pendingQueries first.needResponses) w
    [.openDevice 0, .clock start]
  obtain ⟨plain, quiet, unclosed⟩ := sent_plain _ _ _ sent
  have safe : SafeFrom [.openDevice 0, .clock start] writes := by
    refine sent_safe _ _ _ sent _ begun.aligned (pending_distinct _) fun query member => ?_
    exact ⟨(pending_query _ query member).1, .inl rfl⟩
  have traced := traced_plain first first start _ writes begun plain safe unclosed
  refine ⟨queried, writes, w', by rw [query_pending_writes, ran], traced, ?_⟩
  rcases sent_result _ _ _ sent with ⟨zero, unbroken, times⟩ | failed
  · refine .inl ⟨zero, traced, ?_, ?_, .inl ⟨rfl, fun bytes => ?_⟩⟩
    · refine fun call member => (List.mem_append.mp member).elim (fun early => ?_) (unbroken call)
      rcases List.mem_cons.mp early with same | later
      · rw [same]
        exact fun bad => bad rfl
      · rw [List.mem_singleton.mp later]
        exact id
    · rw [begun.aligned, (other_calls_aligned writes plain).2]
      exact fun attempt member => absurd member List.not_mem_nil
    · have written : timesWritten bytes ([PlatformCall.openDevice 0, .clock start] ++ writes) =
          ([[0x00], [0x01], [0x05]] : List (List UInt8)).count bytes := by
        rw [times_written_append, times, all]
        exact Nat.zero_add _
      rw [written]
      refine ⟨List.nodup_iff_count_le_one.mp (by decide) bytes, fun known => List.count_eq_one_of_mem (by decide) ?_⟩
      rw [queryBit] at known
      by_contra absent
      simp only [List.mem_cons, List.not_mem_nil, or_false, not_or] at absent
      exact known (by rw [if_neg absent.1, if_neg absent.2.1, if_neg absent.2.2])
  · exact .inr failed

theorem mext_open_run [t : Target] (P : Platform ω) (fuel : Nat) (e : MonomeEvent) (dev : String) (serial : Option String)
    (m : MonomeDevmap) (w : ω) :
    ∃ opened w' log first, mextOpen (logged P) fuel mextNew e dev serial m (w, []) = .ok (opened, (w', log)) ∧
      (first = mextNew ∨ first = openedMext serial m) ∧ Finished first log opened := by
  rw [mextOpen, io_call_bind]
  generalize answered : P.openDevice m dev w = answer
  obtain ⟨status, w1⟩ := answer
  have opening : (logged P).openDevice m dev (w, []) = (status, (w1, [PlatformCall.openDevice status])) := by
    show ((P.openDevice m dev w).1, (P.openDevice m dev w).2, [] ++ [PlatformCall.openDevice (P.openDevice m dev w).1]) = _
    rw [answered]
    rfl
  rw [opening]
  dsimp only
  by_cases failed : status ≠ 0
  · rw [if_pos failed]
    refine ⟨⟨some (-1), mextNew⟩, w1, [.openDevice status], mextNew, rfl, .inl rfl, rfl, ⟨trivial, trivial⟩, ?_, ?_⟩
    · rintro s same
      cases same
      refine ⟨⟨fun zero => absurd zero (by decide), fun succeeded => ?_⟩, fun _ => rfl⟩
      exact absurd failed (succeeded.1 _ List.mem_cons_self)
    · rintro s same
      cases same
      exact ⟨fun zero => absurd zero (by decide), fun _ => .inl ⟨status, failed, rfl⟩⟩
  · have zero : status = 0 := not_not.mp failed
    subst zero
    rw [if_neg failed, io_call_bind]
    generalize reading : P.monotonicMilliseconds w1 = now
    obtain ⟨start, w2⟩ := now
    have clock : (logged P).monotonicMilliseconds (w1, [PlatformCall.openDevice 0]) =
        (start, (w2, [PlatformCall.openDevice 0, PlatformCall.clock start])) := by
      show ((P.monotonicMilliseconds w1).1, (P.monotonicMilliseconds w1).2,
        [PlatformCall.openDevice 0] ++ [PlatformCall.clock (P.monotonicMilliseconds w1).1]) = _
      rw [reading]
      rfl
    rw [clock]
    dsimp only
    obtain ⟨queried, writes, w3, asked, traced, outcome⟩ := first_round P (openedMext serial m) rfl start w2
    rcases outcome with ⟨zero, going⟩ | ⟨short, call, member, broken⟩
    · obtain ⟨opened, w4, more, ran, finished⟩ := handshake_run (openedMext serial m) (openedMext serial m) start false _ rfl
        P rfl fuel e w3 going
      refine ⟨opened, w4, _, openedMext serial m, (io_bind_ok _ _ _ _ _ asked).trans ?_, .inr rfl, finished⟩
      rw [if_neg (by rw [zero]; decide)]
      exact ran
    · refine ⟨_, (P.close w3).2, _, openedMext serial m, (io_bind_ok _ _ _ _ _ asked).trans ?_, .inr rfl,
        failed_exit _ _ start _ traced fun succeeded => ?_⟩
      · rw [if_pos (by rw [short]; decide)]
        rfl
      exact succeeded.1 call (List.mem_append_left _ (List.mem_append_right _ member)) broken

structure HandshakeSafe (log : List PlatformCall) (opened : MextOpened) : Prop where
  responses : opened.self.needResponses = outstanding log
  losing : ∀ before since, log = before ++ since → outstanding log ||| outstanding before = outstanding before
  safe : SafeFrom [] log
  twice : ∀ bytes, timesWritten bytes log ≤ 2
  answer : ∀ s, opened.status = some s → (s = 0 ↔ Succeeded log) ∧ (s ≠ 0 → s = -1)
  closing : ∀ s, opened.status = some s → (s = 0 → .close ∉ log) ∧
    (s ≠ 0 → (∃ status, status ≠ 0 ∧ log = [.openDevice status]) ∨
      ∃ calls, log = calls ++ [PlatformCall.close] ∧ calls.head? = some (.openDevice 0) ∧ .close ∉ calls)

theorem mext_open_safe [t : Target] (P : Platform ω) (fuel : Nat) (e : MonomeEvent) (dev : String)
    (serial : Option String) (m : MonomeDevmap) (w : ω) :
    ∃ opened w' log, mextOpen (logged P) fuel mextNew e dev serial m (w, []) = .ok (opened, (w', log)) ∧
      HandshakeSafe log opened := by
  obtain ⟨opened, w', log, first, ran, origin, finished⟩ := mext_open_run P fuel e dev serial m w
  have ready : first.needResponses = mextNew.needResponses := by
    rcases origin with same | same
    · rw [same]
    · rw [same]
      rfl
  refine ⟨opened, w', log, ran, ?_, ?_, finished.safe, ?_, finished.answer, finished.closing⟩
  · rw [finished.object, frames_self_need, ready, outstanding]
  · rintro before since rfl
    exact outstanding_shrinks before since
  · exact fun bytes => safe_twice [] log bytes finished.safe (Nat.zero_le _)

end Libmonome
