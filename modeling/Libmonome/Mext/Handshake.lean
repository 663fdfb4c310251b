import Libmonome.Mext.Monitor
import Libmonome.Timing

set_option autoImplicit false

namespace Libmonome

variable {ω : Type}

def pendingQueries (need : UInt32) : List (List UInt8) :=
  ([[0x00], [0x01], [0x05]] : List (List UInt8)).filter fun query => need &&& queryBit query ≠ 0

def writeQueries (P : Platform ω) : List (List UInt8) → Io ω Int32
  | [] => return 0
  | query :: rest => do
      let status ← Io.call (P.write query)
      if status ≠ 1 then return -1 else writeQueries P rest

theorem one_query_writes (P : Platform ω) (asked : Prop) [Decidable asked] (query : List UInt8) (rest : List (List UInt8))
    (next : Io ω Int32) (on : next = writeQueries P rest) :
    (if asked then (do
        let status ← Io.call (P.write query)
        if status ≠ 1 then pure (-1) else next)
      else (do
        let status ← pure 1
        if status ≠ 1 then pure (-1) else next) : Io ω Int32) = writeQueries P ((if asked then [query] else []) ++ rest) := by
  by_cases is : asked
  · rw [if_pos is, if_pos is, on]
    rfl
  · rw [if_neg is, if_neg is, on]
    rfl

theorem pending_queries_parts (need : UInt32) : pendingQueries need =
    (if need &&& mextNeedQuery ≠ 0 then [[0x00]] else []) ++ ((if need &&& mextNeedId ≠ 0 then [[0x01]] else []) ++
      ((if need &&& mextNeedGridSize ≠ 0 then [[0x05]] else []) ++ [])) := by
  have bits : queryBit [0x00] = mextNeedQuery ∧ queryBit [0x01] = mextNeedId ∧ queryBit [0x05] = mextNeedGridSize := by
    decide
  simp only [pendingQueries, List.filter_cons, List.filter_nil, bits.1, bits.2.1, bits.2.2, decide_eq_true_eq]
  split <;> split <;> split <;> rfl

theorem query_pending_writes (P : Platform ω) (self : Mext) :
    mextQueryPending P self = writeQueries P (pendingQueries self.needResponses) := by
  have wire : ∀ cmd : UInt8, cmd = cmdSystemQuery ∨ cmd = cmdSystemGetId ∨ cmd = cmdSystemGetGridsz →
      mextSimpleCmd P cmd = Io.call (P.write [cmd]) := by
    rintro cmd (is | is | is) <;> rw [is] <;> rfl
  rw [mextQueryPending, wire _ (.inl rfl), wire _ (.inr (.inl rfl)), wire _ (.inr (.inr rfl)), pending_queries_parts]
  exact one_query_writes P _ _ _ _ (one_query_writes P _ _ _ _ (one_query_writes P _ _ _ _ rfl))

inductive Sent : List (List UInt8) → List PlatformCall → Int32 → Prop where
  | done : Sent [] [] 0
  | short (query : List UInt8) (rest : List (List UInt8)) (status : Int64) (bad : status ≠ 1) :
      Sent (query :: rest) [.write query status] (-1)
  | next (query : List UInt8) (rest : List (List UInt8)) (writes : List PlatformCall) (result : Int32)
      (on : Sent rest writes result) : Sent (query :: rest) (.write query 1 :: writes) result

theorem write_queries_run (P : Platform ω) (queries : List (List UInt8)) (w : ω) (past : List PlatformCall) :
    ∃ result writes w', writeQueries (logged P) queries (w, past) = .ok (result, (w', past ++ writes)) ∧
      Sent queries writes result ∧ Path P w writes w' := by
  induction queries generalizing w past with
  | nil => exact ⟨0, [], w, by rw [List.append_nil]; rfl, .done, .none w⟩
  | cons query rest ih =>
      by_cases whole : (P.write query w).1 = 1
      · obtain ⟨result, writes, w', ran, sent, path⟩ := ih (P.write query w).2 (past ++ [PlatformCall.write query (P.write query w).1])
        have took : Took P w (.write query 1) (P.write query w).2 := whole ▸ .write query w
        refine ⟨result, .write query 1 :: writes, w', ?_, .next query rest writes result sent,
          .more w _ w' _ writes took path⟩
        rw [writeQueries, io_call_bind]
        show (if (P.write query w).1 ≠ 1 then (pure (-1) : Io (ω × List PlatformCall) Int32) else writeQueries (logged P) rest)
          ((P.write query w).2, past ++ [PlatformCall.write query (P.write query w).1]) = _
        rw [if_neg (not_not.mpr whole), ran, whole, List.append_assoc]
        rfl
      · refine ⟨-1, [.write query (P.write query w).1], (P.write query w).2, ?_, .short query rest _ whole,
          path_one P w _ _ (.write query w)⟩
        rw [writeQueries, io_call_bind]
        show (if (P.write query w).1 ≠ 1 then (pure (-1) : Io (ω × List PlatformCall) Int32) else writeQueries (logged P) rest)
          ((P.write query w).2, past ++ [PlatformCall.write query (P.write query w).1]) = _
        rw [if_pos whole]
        rfl

theorem query_allowed_later (log : List PlatformCall) (aligned : Aligned log) (query other : List UInt8) (status : Int64)
    (different : other ≠ query) (allowed : QueryAllowed log other) : QueryAllowed (log ++ [PlatformCall.write query status]) other := by
  have plain : ∀ call ∈ [PlatformCall.write query status], ¬ call.Reads := by simp [PlatformCall.Reads]
  have frames := frames_read_plain log _ aligned plain
  have times : timesWritten other (log ++ [PlatformCall.write query status]) = timesWritten other log := by
    rw [times_written_append, timesWritten, timesWritten,
      List.countP_cons_of_neg (by simpa [PlatformCall.writes] using different.symm)]
    rfl
  obtain ⟨known, once | ⟨one, wanted, start, before, now, since, first, ⟨last, quiet⟩, late, single⟩⟩ := allowed
  · exact ⟨known, .inl (by rw [times, once])⟩
  · refine ⟨known, .inr ⟨by rw [times, one], by rw [outstanding, frames]; exact wanted, start, before, now,
      since ++ [PlatformCall.write query status], ?_, ⟨?_, ?_⟩, late, single⟩⟩
    · rw [clocks_append, List.head?_append, first]
      rfl
    · rw [last, List.append_assoc]
      rfl
    · rw [clocks_append, quiet]
      rfl

section Sent

variable (queries : List (List UInt8)) (writes : List PlatformCall) (result : Int32) (sent : Sent queries writes result)
include sent

theorem sent_plain : (∀ call ∈ writes, ¬ call.Reads) ∧ clocks writes = [] ∧ .close ∉ writes := by
  induction sent with
  | done => exact ⟨by simp, rfl, List.not_mem_nil⟩
  | short query rest status bad => exact ⟨by simp [PlatformCall.Reads], rfl, by simp⟩
  | next query rest writes result on ih =>
      obtain ⟨noRead, noClock, noClose⟩ := ih
      refine ⟨?_, noClock, by simpa using noClose⟩
      intro call member
      rcases List.mem_cons.mp member with same | later
      · rw [same]
        exact id
      · exact noRead call later

theorem sent_result : (result = 0 ∧ (∀ call ∈ writes, ¬ call.Failed) ∧
    ∀ bytes, timesWritten bytes writes = queries.count bytes) ∨ (result = -1 ∧ ∃ call ∈ writes, call.Failed) := by
  induction sent with
  | done => exact .inl ⟨rfl, by simp, fun _ => rfl⟩
  | short query rest status bad => exact .inr ⟨rfl, _, List.mem_singleton_self _, bad⟩
  | next query rest writes result on ih =>
      rcases ih with ⟨zero, unbroken, times⟩ | ⟨fails, call, member, broken⟩
      · refine .inl ⟨zero, ?_, fun bytes => ?_⟩
        · intro call member
          rcases List.mem_cons.mp member with same | later
          · rw [same]
            exact fun bad => bad rfl
          · exact unbroken call later
        · rw [timesWritten, List.countP_cons, List.count_cons, ← times]
          simp [timesWritten, PlatformCall.writes]
      · exact .inr ⟨fails, call, List.mem_cons_of_mem _ member, broken⟩

theorem sent_safe (log : List PlatformCall) (aligned : Aligned log) (distinct : queries.Nodup)
    (allowed : ∀ query ∈ queries, QueryAllowed log query) : SafeFrom log writes := by
  induction sent generalizing log with
  | done => trivial
  | short query rest status bad => exact ⟨allowed query List.mem_cons_self, trivial⟩
  | next query rest writes result on ih =>
      have plain : ∀ call ∈ [PlatformCall.write query 1], ¬ call.Reads := by simp [PlatformCall.Reads]
      refine ⟨allowed query List.mem_cons_self, ?_⟩
      refine ih (log ++ [PlatformCall.write query 1]) (aligned_append log _ aligned (other_calls_aligned _ plain).1)
        (List.nodup_cons.mp distinct).2 fun other member => ?_
      refine query_allowed_later log aligned query other 1 ?_ (allowed other (List.mem_cons_of_mem _ member))
      rintro rfl
      exact (List.nodup_cons.mp distinct).1 member

end Sent

theorem wait_ms_bounds (now deadline retryAt : UInt64) (retried : Bool) (ahead : now < deadline) :
    1 ≤ (mextWaitMs now deadline retryAt retried).toNat ∧ (mextWaitMs now deadline retryAt retried).toNat ≤ 25 ∧
      now.toNat + (mextWaitMs now deadline retryAt retried).toNat ≤ deadline.toNat ∧
      (retried = false → now < retryAt → now.toNat + (mextWaitMs now deadline retryAt retried).toNat ≤ retryAt.toNat) := by
  have gap : ∀ later : UInt64, now < later → (later - now).toNat = later.toNat - now.toNat ∧ now.toNat < later.toNat := by
    intro later before
    have less := UInt64.lt_iff_toNat_lt.mp before
    exact ⟨UInt64.toNat_sub_of_le _ _ (UInt64.le_iff_toNat_le.mpr (by omega)), less⟩
  have narrow : ∀ left : UInt64, left.toNat < 26 → left.toUInt32.toNat = left.toNat := by
    intro left small
    rw [UInt64.toNat_toUInt32, Nat.mod_eq_of_lt (by omega)]
  have slice : mextHandshakeWaitSliceMs.toUInt64.toNat = 25 := rfl
  have sliceSmall : mextHandshakeWaitSliceMs.toNat = 25 := rfl
  obtain ⟨left, leftPositive⟩ := gap deadline ahead
  have cut : ∃ ms : UInt32, (if deadline - now < mextHandshakeWaitSliceMs.toUInt64 then (deadline - now).toUInt32
      else mextHandshakeWaitSliceMs) = ms ∧ 1 ≤ ms.toNat ∧ ms.toNat ≤ 25 ∧ now.toNat + ms.toNat ≤ deadline.toNat := by
    by_cases close : deadline - now < mextHandshakeWaitSliceMs.toUInt64
    · have less := UInt64.lt_iff_toNat_lt.mp close
      have same := narrow (deadline - now) (by omega)
      exact ⟨_, if_pos close, by omega, by omega, by omega⟩
    · have more : ¬ (deadline - now).toNat < 25 := fun less => close (UInt64.lt_iff_toNat_lt.mpr (by rw [slice]; exact less))
      exact ⟨_, if_neg close, by omega, by omega, by omega⟩
  obtain ⟨ms, sliced, positive, short, within⟩ := cut
  rw [mextWaitMs, sliced]
  have wide : ms.toUInt64.toNat = ms.toNat := UInt32.toNat_toUInt64 ms
  by_cases retry : ¬ retried ∧ retryAt > now ∧ retryAt - now < ms.toUInt64
  · obtain ⟨pending, later, closer⟩ := retry
    obtain ⟨step, before⟩ := gap retryAt later
    have less := UInt64.lt_iff_toNat_lt.mp closer
    have same := narrow (retryAt - now) (by omega)
    simp only [if_pos (show ¬ retried ∧ retryAt > now ∧ retryAt - now < ms.toUInt64 from ⟨pending, later, closer⟩)]
    exact ⟨by omega, by omega, by omega, fun _ _ => by omega⟩
  · simp only [if_neg retry]
    refine ⟨positive, short, within, fun pending later => ?_⟩
    obtain ⟨step, before⟩ := gap retryAt later
    have far : ¬ retryAt - now < ms.toUInt64 := fun closer => retry ⟨by rw [pending]; decide, later, closer⟩
    have more : ¬ (retryAt - now).toNat < ms.toUInt64.toNat := fun less => far (UInt64.lt_iff_toNat_lt.mpr less)
    omega

-- The retry comes 250 ms after the start or later, also when the clock's 64
-- bits wrap on the way to the deadline.
theorem retry_elapsed (start now : UInt64) (ahead : now < start + mextHandshakeTimeoutMs)
    (due : start + mextHandshakeRetryMs ≤ now) : 250 ≤ (now - start).toNat := by
  have less := UInt64.lt_iff_toNat_lt.mp ahead
  have more := UInt64.le_iff_toNat_le.mp due
  rw [UInt64.toNat_add, show mextHandshakeTimeoutMs.toNat = 1000 from rfl] at less
  rw [UInt64.toNat_add, show mextHandshakeRetryMs.toNat = 250 from rfl] at more
  have startBound := start.toNat_lt
  have nowBound := now.toNat_lt
  rw [UInt64.toNat_sub]
  omega

theorem call_run_object [t : Target] (msg : MextMsg) (self : Mext) (e : MonomeEvent) (attempts : List Attempt)
    (next : NextEvent Mext)
    (run : CallRun msg self e attempts next) : next.self = framesSelf self (attemptFrames attempts) := by
  induction run with
  | cut => rfl
  | ended => rfl
  | reported msg self e first frame h came handled event => exact (frame_handled_any self e msg frame h handled).1
  | passed msg self e first frame h rest next came handled silent on ih =>
      rw [ih, (frame_handled_any self e msg frame h handled).1]
      rfl

theorem call_run_failed [t : Target] (msg : MextMsg) (self : Mext) (e : MonomeEvent) (attempts : List Attempt)
    (next : NextEvent Mext)
    (run : CallRun msg self e attempts next) : (∃ attempt ∈ attempts, attempt.Failed) ↔ ∃ s, next.status = some s ∧ s < 0 := by
  induction run with
  | cut => simp
  | ended msg self e first status ended same short =>
      have narrowed : (if first ≤ 0 then first.toInt32 else -1) = status.toInt32 := by
        by_cases nonpos : first ≤ 0
        · rw [if_pos nonpos, same nonpos]
        · rw [if_neg nonpos, short nonpos]
          rfl
      simp [Attempt.Failed, narrowed]
  | reported msg self e first frame h came handled event => simp [Attempt.Failed]
  | passed msg self e first frame h rest next came handled silent on ih =>
      rw [← ih]
      simp [Attempt.Failed]

theorem next_event_defined [t : Target] (P : Platform ω) (fuel : Nat) (msg : MextMsg) (self : Mext) (e : MonomeEvent)
    (w : ω) (past : List PlatformCall) (unturned : self.monome.rotation = .rotate0) :
    ∃ next w' log, mextNextEventLoop (logged P) fuel msg self e (w, past) = .ok (next, (w', log)) := by
  induction fuel generalizing msg self e w past with
  | zero => exact ⟨_, _, _, rfl⟩
  | succ fuel ih =>
      obtain ⟨status, read, calls, between, got, _, _, turn⟩ := logged_read_msg P msg w past
      cases turn with
      | ended first _ _ ended same short shown =>
          exact ⟨_, _, _, next_event_ended (logged P) fuel msg self e _ _ status read got ended⟩
      | whole first _ frame came positive shown =>
          have divides : DividesByNonzero self.monome := by
            rw [DividesByNonzero, unturned]
            trivial
          obtain ⟨h, handled⟩ := frame_handled_defined self e msg frame fun _ => divides
          have turned : h.self.monome.rotation = .rotate0 := by
            rw [(frame_handled_any self e msg frame h handled).1, ← unturned]
            exact (frames_self_fields self [frame]).2.2.2
          rw [next_event_handled (logged P) fuel msg self e _ _ status _ h got positive handled]
          by_cases event : h.propagate
          · rw [if_pos event]
            exact ⟨_, _, _, rfl⟩
          · rw [if_neg event]
            exact ih (frame.over msg) h.self h.event between _ turned

end Libmonome
