import Libmonome.Mext.Handshake

set_option autoImplicit false

namespace Libmonome

variable {ω : Type}

structure Traced (first held : Mext) (start : UInt64) (log : List PlatformCall) : Prop where
  aligned : Aligned log
  safe : SafeFrom [] log
  object : held = framesSelf first (framesRead log)
  began : (clocks log).head? = some start
  opened : log.head? = some (.openDevice 0)
  unclosed : .close ∉ log

-- Nothing has failed either, and the queries have gone out once, or some of
-- them twice.
structure Going (first held : Mext) (start : UInt64) (retried : Bool) (log : List PlatformCall) : Prop
    extends Traced first held start log where
  unbroken : ∀ call ∈ log, ¬ call.Failed
  kept : ∀ attempt ∈ mextAttempts log, ¬ attempt.Failed
  round : (retried = false ∧ ∀ bytes, timesWritten bytes log ≤ 1 ∧ (queryBit bytes ≠ 0 → timesWritten bytes log = 1)) ∨
    (retried = true ∧ ∃ bytes, 2 ≤ timesWritten bytes log)

structure Finished (first : Mext) (log : List PlatformCall) (opened : MextOpened) : Prop where
  object : opened.self = framesSelf first (framesRead log)
  safe : SafeFrom [] log
  answer : ∀ s, opened.status = some s → (s = 0 ↔ Succeeded log) ∧ (s ≠ 0 → s = -1)
  closing : ∀ s, opened.status = some s → (s = 0 → .close ∉ log) ∧
    (s ≠ 0 → (∃ status, status ≠ 0 ∧ log = [.openDevice status]) ∨
      ∃ calls, log = calls ++ [PlatformCall.close] ∧ calls.head? = some (.openDevice 0) ∧ .close ∉ calls)

section Steps

variable (first self : Mext) (start : UInt64) (log : List PlatformCall)

theorem traced_append (next : Mext) (calls : List PlatformCall) (traced : Traced first self start log)
    (aligned : Aligned calls) (safe : SafeFrom log calls) (object : next = framesSelf self (framesRead calls))
    (unclosed : .close ∉ calls) : Traced first next start (log ++ calls) where
  aligned := aligned_append log calls traced.aligned aligned
  safe := (safe_from_append [] log calls).mpr ⟨traced.safe, safe⟩
  object := by
    rw [object, traced.object, frames_read_append log calls traced.aligned, framesSelf, framesSelf, framesSelf,
      List.foldl_append]
  began := by
    rw [clocks_append, List.head?_append, traced.began]
    rfl
  opened := by
    rw [List.head?_append, traced.opened]
    rfl
  unclosed := fun member => (List.mem_append.mp member).elim traced.unclosed unclosed

theorem traced_plain (calls : List PlatformCall) (traced : Traced first self start log)
    (plain : ∀ call ∈ calls, ¬ call.Reads) (safe : SafeFrom log calls) (unclosed : .close ∉ calls) :
    Traced first self start (log ++ calls) := by
  obtain ⟨aligned, none⟩ := other_calls_aligned calls plain
  refine traced_append first self start log self calls traced aligned safe ?_ unclosed
  rw [framesRead, none]
  rfl

theorem failed_exit (traced : Traced first self start log) (fails : ¬ Succeeded (log ++ [PlatformCall.close])) :
    Finished first (log ++ [PlatformCall.close]) ⟨some (-1), self⟩ where
  object := by
    rw [frames_read_plain log _ traced.aligned (by simp [PlatformCall.Reads])]
    exact traced.object
  safe := (safe_from_append [] log [.close]).mpr ⟨traced.safe, trivial, trivial⟩
  answer := by
    rintro s same
    cases same
    exact ⟨⟨fun zero => absurd zero (by decide), fun succeeded => absurd succeeded fails⟩, fun _ => rfl⟩
  closing := by
    rintro s same
    cases same
    exact ⟨fun zero => absurd zero (by decide), fun _ => .inr ⟨log, rfl, traced.opened, traced.unclosed⟩⟩

theorem answered_exit (retried : Bool) (going : Going first self start retried log) (all : outstanding log = 0) :
    Finished first log ⟨some 0, self⟩ where
  object := going.object
  safe := going.safe
  answer := by
    rintro s same
    cases same
    exact ⟨⟨fun _ => ⟨going.unbroken, going.kept, all⟩, fun _ => rfl⟩, fun nonzero => absurd rfl nonzero⟩
  closing := by
    rintro s same
    cases same
    exact ⟨fun _ => going.unclosed, fun nonzero => absurd rfl nonzero⟩

theorem broken_log (calls : List PlatformCall) (call : PlatformCall) (member : call ∈ calls) (broken : call.Failed) :
    ¬ Succeeded (log ++ calls ++ [PlatformCall.close]) :=
  fun succeeded => succeeded.1 call (List.mem_append_left _ (List.mem_append_right _ member)) broken

theorem cut_off (traced : Traced first self start log) : Finished first log ⟨none, self⟩ where
  object := traced.object
  safe := traced.safe
  answer := fun _ same => by cases same
  closing := fun _ same => by cases same

end Steps

def Finishes (first : Mext) (x : Io (ω × List PlatformCall) MextOpened) (w : ω) (log : List PlatformCall) : Prop :=
  ∃ opened w' more, x (w, log) = .ok (opened, (w', log ++ more)) ∧ Finished first (log ++ more) opened

theorem finishes_now (first : Mext) (opened : MextOpened) (w : ω) (log : List PlatformCall)
    (finished : Finished first log opened) : Finishes first (pure opened) w log := by
  refine ⟨opened, w, [], ?_, ?_⟩
  · rw [List.append_nil]
    rfl
  · rw [List.append_nil]
    exact finished

theorem finishes_failing (P : Platform ω) (first self : Mext) (start : UInt64) (w : ω) (log : List PlatformCall)
    (traced : Traced first self start log) (fails : ¬ Succeeded (log ++ [PlatformCall.close])) :
    Finishes first (mextOpenFail (logged P) self) w log :=
  ⟨_, _, [.close], rfl, failed_exit first self start log traced fails⟩

theorem finishes_after (first : Mext) (x y : Io (ω × List PlatformCall) MextOpened) (w w1 : ω)
    (log calls : List PlatformCall) (step : y (w, log) = x (w1, log ++ calls)) (rest : Finishes first x w1 (log ++ calls)) :
    Finishes first y w log := by
  obtain ⟨opened, w', more, ran, finished⟩ := rest
  rw [List.append_assoc] at ran finished
  exact ⟨opened, w', calls ++ more, step.trans ran, finished⟩

theorem pending_some (need others : UInt32) (kinds : need = mextNew.needResponses &&& others) (wanted : need ≠ 0) :
    ∃ query, query ∈ pendingQueries need := by
  have small : need.toNat < 8 := by
    rw [kinds, UInt32.toNat_and]
    exact Nat.lt_of_le_of_lt Nat.and_le_left (by decide)
  have table : ∀ k < 8, UInt32.ofNat k ≠ 0 → pendingQueries (UInt32.ofNat k) ≠ [] := by decide
  have entry := table need.toNat small
  rw [UInt32.ofNat_toNat] at entry
  exact List.exists_mem_of_ne_nil _ (entry wanted)

theorem pending_query (need : UInt32) (query : List UInt8) (member : query ∈ pendingQueries need) :
    queryBit query ≠ 0 ∧ need &&& queryBit query ≠ 0 := by
  obtain ⟨among, asked⟩ := List.mem_filter.mp member
  have wanted : need &&& queryBit query ≠ 0 := by simpa using asked
  refine ⟨fun none => wanted ?_, wanted⟩
  rw [none]
  simp

theorem pending_distinct (need : UInt32) : (pendingQueries need).Nodup := List.Nodup.filter _ (by decide)

def handshakeWait [t : Target] (P : Platform ω) (deadline retryAt : UInt64) (fuel : Nat) (retried : Bool) (self : Mext)
    (e : MonomeEvent) (now : UInt64) (queried : Int32) : Io ω MextOpened := do
  if queried < 0 then
    mextOpenFail P self
  else
    let waitStatus ← Io.call (P.waitForInput (mextWaitMs now deadline retryAt retried))
    if waitStatus < 0 then
      mextOpenFail P self
    else if waitStatus = 0 then
      let next ← mextNextEvent P fuel self e
      match next.status with
      | none => return ⟨none, next.self⟩
      | some status =>
          if status < 0 then
            mextOpenFail P next.self
          else
            mextHandshake P deadline retryAt fuel retried next.self next.event
    else
      mextHandshake P deadline retryAt fuel retried self e

def handshakePoll [t : Target] (P : Platform ω) (deadline retryAt : UInt64) (fuel : Nat) (retried : Bool)
    (next : NextEvent Mext) :
    Io ω MextOpened :=
  match next.status with
  | none => return ⟨none, next.self⟩
  | some status =>
      if status < 0 then
        mextOpenFail P next.self
      else
        mextHandshake P deadline retryAt fuel retried next.self next.event

theorem handshake_wait_answered [t : Target] (P : Platform ω) (deadline retryAt : UInt64) (fuel : Nat) (retried : Bool)
    (self : Mext) (e : MonomeEvent) (now : UInt64) (queried status : Int32) (w w1 : ω) (sent : ¬ queried < 0)
    (waits : P.waitForInput (mextWaitMs now deadline retryAt retried) w = (status, w1)) :
    handshakeWait P deadline retryAt fuel retried self e now queried w =
      (if status < 0 then mextOpenFail P self
        else if status = 0 then mextNextEvent P fuel self e >>= handshakePoll P deadline retryAt fuel retried
        else mextHandshake P deadline retryAt fuel retried self e) w1 := by
  rw [handshakeWait, if_neg sent, io_call_bind, waits]
  rfl

theorem handshake_iteration [t : Target] (P : Platform ω) (deadline retryAt : UInt64) (fuel : Nat) (retried : Bool)
    (self : Mext) (e : MonomeEvent) (w between : ω) (now : UInt64) (queried : Int32) (wanted : self.needResponses ≠ 0)
    (ahead : ¬ (P.monotonicMilliseconds w).1 ≥ deadline) (reading : (P.monotonicMilliseconds w).1 = now)
    (asked : (if ¬ retried ∧ now ≥ retryAt then mextQueryPending P self else pure 0) (P.monotonicMilliseconds w).2 =
      .ok (queried, between)) :
    mextHandshake P deadline retryAt (fuel + 1) retried self e w =
      handshakeWait P deadline retryAt fuel (retried || decide (¬ retried ∧ now ≥ retryAt)) self e now queried between := by
  subst reading
  rw [mextHandshake, if_neg wanted, io_call_bind, if_neg ahead]
  by_cases retry : ¬ retried ∧ (P.monotonicMilliseconds w).1 ≥ retryAt
  · rw [if_pos retry] at asked
    simp only [if_pos retry]
    rw [io_bind_ok _ _ _ _ _ asked]
    rfl
  · rw [if_neg retry] at asked
    cases asked
    simp only [if_neg retry]
    rfl

theorem open_fail_run (P : Platform ω) (self : Mext) (w : ω) (log : List PlatformCall) :
    mextOpenFail (logged P) self (w, log) = .ok (⟨some (-1), self⟩, ((P.close w).2, log ++ [PlatformCall.close])) := rfl

section Iteration

variable (first self : Mext) (start : UInt64) (retried : Bool) (log : List PlatformCall)
  (ready : first.needResponses = mextNew.needResponses)

theorem going_append (next : Mext) (calls : List PlatformCall) (going : Going first self start retried log)
    (aligned : Aligned calls) (safe : SafeFrom log calls) (object : next = framesSelf self (framesRead calls))
    (unclosed : .close ∉ calls) (unbroken : ∀ call ∈ calls, ¬ call.Failed)
    (kept : ∀ attempt ∈ mextAttempts calls, ¬ attempt.Failed) (unwritten : ∀ bytes, timesWritten bytes calls = 0) :
    Going first next start retried (log ++ calls) where
  toTraced := traced_append first self start log next calls going.toTraced aligned safe object unclosed
  unbroken := fun call member => (List.mem_append.mp member).elim (going.unbroken call) (unbroken call)
  kept := by
    rw [going.aligned]
    exact fun attempt member => (List.mem_append.mp member).elim (going.kept attempt) (kept attempt)
  round := by
    simp only [times_written_append, unwritten, Nat.add_zero]
    exact going.round

theorem going_clock (now : UInt64) (going : Going first self start retried log) :
    Going first self start retried (log ++ [PlatformCall.clock now]) := by
  have plain : ∀ call ∈ [PlatformCall.clock now], ¬ call.Reads := by simp [PlatformCall.Reads]
  obtain ⟨aligned, none⟩ := other_calls_aligned _ plain
  refine going_append first self start retried log self _ going aligned ⟨trivial, trivial⟩ ?_ (by simp)
    (by simp [PlatformCall.Failed]) (by rw [none]; simp) (fun _ => rfl)
  rw [framesRead, none]
  rfl

theorem wait_allowed (before since : List PlatformCall) (now : UInt64) (going : Going first self start retried log)
    (last : LastReading log before now since) (ahead : now < start + mextHandshakeTimeoutMs) :
    WaitAllowed log (mextWaitMs now (start + mextHandshakeTimeoutMs) (start + mextHandshakeRetryMs) retried) := by
  obtain ⟨positive, short, deadline, retry⟩ :=
    wait_ms_bounds now (start + mextHandshakeTimeoutMs) (start + mextHandshakeRetryMs) retried ahead
  refine ⟨positive, short, start, before, now, since, going.began, last, deadline, fun single later => ?_⟩
  refine retry ?_ later
  rcases going.round with ⟨no, _⟩ | ⟨_, bytes, twice⟩
  · exact no
  · have once := single bytes
    omega

theorem going_wait (msec : UInt32) (status : Int32) (going : Going first self start retried log)
    (allowed : WaitAllowed log msec) (came : ¬ status < 0) : Going first self start retried (log ++ [PlatformCall.wait msec status]) := by
  have plain : ∀ call ∈ [PlatformCall.wait msec status], ¬ call.Reads := by simp [PlatformCall.Reads]
  obtain ⟨aligned, none⟩ := other_calls_aligned _ plain
  refine going_append first self start retried log self _ going aligned ⟨allowed, trivial⟩ ?_ (by simp)
    (by simpa [PlatformCall.Failed] using came) (by rw [none]; simp) (fun _ => rfl)
  rw [framesRead, none]
  rfl

theorem poll_step [t : Target] (P : Platform ω) (fuel : Nat) (e : MonomeEvent) (w : ω)
    (unturned : self.monome.rotation = .rotate0) (going : Going first self start retried log) :
    ∃ next w' calls, mextNextEvent (logged P) fuel self e (w, log) = .ok (next, (w', log ++ calls)) ∧
      Traced first next.self start (log ++ calls) ∧
      (((∃ s, next.status = some s ∧ s < 0) ∧ ∃ attempt ∈ mextAttempts (log ++ calls), attempt.Failed) ∨
        ((¬ ∃ s, next.status = some s ∧ s < 0) ∧ Going first next.self start retried (log ++ calls))) := by
  obtain ⟨next, w', log', ran⟩ := next_event_defined P fuel (.fresh 0 0) self e w log unturned
  obtain ⟨calls, rfl, called⟩ := logged_next_event P fuel (.fresh 0 0) self e w w' log log' next ran
  obtain ⟨safe, _, unwritten, unbroken, unclosed⟩ := reads_quiet P w w' calls called.reads log
  have aligned := called.aligned
  have object := call_run_object _ self e _ next called.call
  refine ⟨next, w', calls, ran, traced_append first self start log next.self calls going.toTraced aligned safe object unclosed, ?_⟩
  by_cases failed : ∃ attempt ∈ mextAttempts calls, attempt.Failed
  · refine .inl ⟨(call_run_failed _ self e _ next called.call).mp failed, ?_⟩
    obtain ⟨attempt, member, broken⟩ := failed
    exact ⟨attempt, by rw [going.aligned]; exact List.mem_append_right _ member, broken⟩
  · refine .inr ⟨fun negative => failed ((call_run_failed _ self e _ next called.call).mpr negative), ?_⟩
    exact going_append first self start retried log next.self calls going aligned safe object unclosed unbroken
      (fun attempt member broken => failed ⟨attempt, member, broken⟩) unwritten

include ready

theorem need_outstanding (traced : Traced first self start log) : self.needResponses = outstanding log := by
  rw [traced.object, frames_self_need, ready, outstanding]

theorem retry_round (P : Platform ω) (now : UInt64) (w : ω) (going : Going first self start false log)
    (wanted : self.needResponses ≠ 0) (ahead : now < start + mextHandshakeTimeoutMs)
    (due : start + mextHandshakeRetryMs ≤ now) :
    ∃ queried writes w', mextQueryPending (logged P) self (w, log ++ [PlatformCall.clock now]) =
        .ok (queried, (w', log ++ [PlatformCall.clock now] ++ writes)) ∧
      Traced first self start (log ++ [PlatformCall.clock now] ++ writes) ∧ clocks writes = [] ∧
      ((queried = 0 ∧ Going first self start true (log ++ [PlatformCall.clock now] ++ writes)) ∨
        (queried = -1 ∧ ∃ call ∈ writes, call.Failed)) := by
  have clocked := going_clock first self start false log now going
  have need := need_outstanding first self start _ ready clocked.toTraced
  obtain ⟨queried, writes, w', ran, sent, _⟩ := write_queries_run P (pendingQueries self.needResponses) w (log ++ [PlatformCall.clock now])
  obtain ⟨plain, quiet, unclosed⟩ := sent_plain _ _ _ sent
  have once : ∀ bytes, timesWritten bytes log ≤ 1 ∧ (queryBit bytes ≠ 0 → timesWritten bytes log = 1) :=
    going.round.elim And.right fun retry => absurd retry.1 (by decide)
  have clockTimes : ∀ bytes, timesWritten bytes (log ++ [PlatformCall.clock now]) = timesWritten bytes log := by
    intro bytes
    rw [times_written_append]
    rfl
  have safe : SafeFrom (log ++ [PlatformCall.clock now]) writes := by
    refine sent_safe _ _ _ sent _ clocked.aligned (pending_distinct _) fun query member => ?_
    obtain ⟨known, asked⟩ := pending_query _ query member
    refine ⟨known, .inr ⟨by rw [clockTimes, (once query).2 known], by rw [← need]; exact asked, start, log, now, [],
      clocked.began, ⟨rfl, rfl⟩, retry_elapsed start now ahead due, fun other => (once other).1⟩⟩
  have traced := traced_plain first self start _ writes clocked.toTraced plain safe unclosed
  refine ⟨queried, writes, w', by rw [query_pending_writes, ran], traced, quiet, ?_⟩
  rcases sent_result _ _ _ sent with ⟨zero, unbroken, times⟩ | failed
  · refine .inl ⟨zero, traced, ?_, ?_, .inr ⟨rfl, ?_⟩⟩
    · exact fun call member => (List.mem_append.mp member).elim (clocked.unbroken call) (unbroken call)
    · rw [clocked.aligned, (other_calls_aligned writes plain).2, List.append_nil]
      exact clocked.kept
    · obtain ⟨query, member⟩ := pending_some self.needResponses _ need wanted
      have again := List.count_pos_iff.mpr member
      refine ⟨query, ?_⟩
      rw [times_written_append, clockTimes, (once query).2 (pending_query _ query member).1, times]
      omega
  · exact .inr failed

theorem retry_step (P : Platform ω) (now : UInt64) (w : ω) (going : Going first self start retried log)
    (wanted : self.needResponses ≠ 0) (ahead : now < start + mextHandshakeTimeoutMs) :
    ∃ queried writes w', (if ¬ retried ∧ now ≥ start + mextHandshakeRetryMs then mextQueryPending (logged P) self else pure 0)
        (w, log ++ [PlatformCall.clock now]) = .ok (queried, (w', log ++ [PlatformCall.clock now] ++ writes)) ∧
      Traced first self start (log ++ [PlatformCall.clock now] ++ writes) ∧ clocks writes = [] ∧
      ((queried = 0 ∧ Going first self start (retried || decide (¬ retried ∧ now ≥ start + mextHandshakeRetryMs))
          (log ++ [PlatformCall.clock now] ++ writes)) ∨
        (queried = -1 ∧ ∃ call ∈ writes, call.Failed)) := by
  by_cases retry : ¬ retried ∧ now ≥ start + mextHandshakeRetryMs
  · obtain ⟨pending, due⟩ := retry
    have fresh : retried = false := by simpa using pending
    subst fresh
    rw [if_pos ⟨pending, due⟩, decide_eq_true ⟨pending, due⟩]
    exact retry_round first self start log ready P now w going wanted ahead due
  · rw [if_neg retry, decide_eq_false retry, Bool.or_false]
    have clocked := going_clock first self start retried log now going
    refine ⟨0, [], w, ?_, ?_, rfl, .inl ⟨rfl, ?_⟩⟩
    · rw [List.append_nil]
      rfl
    · rw [List.append_nil]
      exact clocked.toTraced
    · rw [List.append_nil]
      exact clocked

omit ready in
theorem poll_finishes [t : Target] (P : Platform ω) (fuel : Nat) (e : MonomeEvent) (w : ω)
    (unturned : self.monome.rotation = .rotate0)
    (onward : ∀ (next : Mext) (e : MonomeEvent) (w : ω) (log : List PlatformCall), Going first next start retried log →
      Finishes first (mextHandshake (logged P) (start + mextHandshakeTimeoutMs) (start + mextHandshakeRetryMs) fuel retried
        next e) w log)
    (going : Going first self start retried log) :
    Finishes first (mextNextEvent (logged P) fuel self e >>=
      handshakePoll (logged P) (start + mextHandshakeTimeoutMs) (start + mextHandshakeRetryMs) fuel retried) w log := by
  obtain ⟨next, w1, calls, ran, after, outcome⟩ := poll_step first self start retried log P fuel e w unturned going
  refine finishes_after first (handshakePoll (logged P) _ _ fuel retried next) _ w w1 log calls
    (io_bind_ok _ _ _ _ _ ran) ?_
  rw [handshakePoll]
  cases returned : next.status with
  | none => exact finishes_now first ⟨none, next.self⟩ w1 _ (cut_off first next.self start _ after)
  | some s =>
      rw [returned] at outcome
      dsimp only
      rcases outcome with ⟨⟨t, same, negative⟩, attempt, member, broken⟩ | ⟨fine, going⟩
      · rw [← Option.some.inj same] at negative
        rw [if_pos negative]
        refine finishes_failing P first next.self start w1 _ after fun succeeded => ?_
        refine succeeded.2.1 attempt ?_ broken
        rw [after.aligned]
        exact List.mem_append_left _ member
      · rw [if_neg (fun negative => fine ⟨s, rfl, negative⟩)]
        exact onward next.self next.event w1 _ going

omit ready in
theorem wait_run [t : Target] (P : Platform ω) (fuel : Nat) (e : MonomeEvent) (w : ω) (before since : List PlatformCall)
    (now : UInt64) (queried : Int32) (unturned : self.monome.rotation = .rotate0)
    (onward : ∀ (next : Mext) (e : MonomeEvent) (w : ω) (log : List PlatformCall), Going first next start retried log →
      Finishes first (mextHandshake (logged P) (start + mextHandshakeTimeoutMs) (start + mextHandshakeRetryMs) fuel retried
        next e) w log)
    (traced : Traced first self start log) (last : LastReading log before now since)
    (ahead : now < start + mextHandshakeTimeoutMs)
    (asked : (queried = 0 ∧ Going first self start retried log) ∨ (queried = -1 ∧ ∃ call ∈ log, call.Failed)) :
    Finishes first (handshakeWait (logged P) (start + mextHandshakeTimeoutMs) (start + mextHandshakeRetryMs) fuel retried
      self e now queried) w log := by
  rcases asked with ⟨zero, going⟩ | ⟨short, call, member, broken⟩
  · have allowed := wait_allowed first self start retried log before since now going last ahead
    generalize waited : mextWaitMs now (start + mextHandshakeTimeoutMs) (start + mextHandshakeRetryMs) retried = msec
      at allowed
    generalize answered : P.waitForInput msec w = answer
    obtain ⟨status, w1⟩ := answer
    have waits : (logged P).waitForInput msec (w, log) = (status, (w1, log ++ [PlatformCall.wait msec status])) := by
      have logs : (logged P).waitForInput msec (w, log) =
          ((P.waitForInput msec w).1, (P.waitForInput msec w).2, log ++ [PlatformCall.wait msec (P.waitForInput msec w).1]) := rfl
      rw [logs, answered]
    have sent : ¬ queried < 0 := by
      rw [zero]
      decide
    refine finishes_after first _ _ w w1 log [.wait msec status] (handshake_wait_answered (logged P) _ _ fuel retried self e
      now queried status (w, log) _ sent (waited.symm ▸ waits)) ?_
    by_cases failed : status < 0
    · rw [if_pos failed]
      have plain : ∀ call ∈ [PlatformCall.wait msec status], ¬ call.Reads := by simp [PlatformCall.Reads]
      have waiting := traced_plain first self start log [.wait msec status] traced plain ⟨allowed, trivial⟩ (by simp)
      exact finishes_failing P first self start w1 _ waiting
        (broken_log log [.wait msec status] (.wait msec status) (List.mem_singleton_self _) failed)
    · have waiting := going_wait first self start retried log msec status going allowed failed
      rw [if_neg failed]
      by_cases input : status = 0
      · rw [if_pos input]
        exact poll_finishes first self start retried _ P fuel e w1 unturned onward waiting
      · rw [if_neg input]
        exact onward self e w1 _ waiting
  · have unsent : queried < 0 := by
      rw [short]
      decide
    rw [handshakeWait, if_pos unsent]
    exact finishes_failing P first self start w log traced fun succeeded =>
      succeeded.1 call (List.mem_append_left _ member) broken

theorem handshake_run [t : Target] (P : Platform ω) (unturned : first.monome.rotation = .rotate0) (fuel : Nat)
    (e : MonomeEvent) (w : ω) (going : Going first self start retried log) :
    Finishes first (mextHandshake (logged P) (start + mextHandshakeTimeoutMs) (start + mextHandshakeRetryMs) fuel retried
      self e) w log := by
  induction fuel generalizing self retried e w log with
  | zero => exact finishes_now first ⟨none, self⟩ w log (cut_off first self start log going.toTraced)
  | succ fuel ih =>
      have need := need_outstanding first self start log ready going.toTraced
      have still : self.monome.rotation = .rotate0 := by
        rw [going.object, (frames_self_fields first _).2.2.2, unturned]
      by_cases done : self.needResponses = 0
      · rw [mextHandshake, if_pos done]
        exact finishes_now first ⟨some 0, self⟩ w log (answered_exit first self start log retried going (by rw [← need, done]))
      · by_cases late : (P.monotonicMilliseconds w).1 ≥ start + mextHandshakeTimeoutMs
        · have clocked := going_clock first self start retried log (P.monotonicMilliseconds w).1 going
          have read : mextHandshake (logged P) (start + mextHandshakeTimeoutMs) (start + mextHandshakeRetryMs) (fuel + 1)
              retried self e (w, log) = mextOpenFail (logged P) self
                ((P.monotonicMilliseconds w).2, log ++ [PlatformCall.clock (P.monotonicMilliseconds w).1]) := by
            have reading : ((logged P).monotonicMilliseconds (w, log)).1 = (P.monotonicMilliseconds w).1 := rfl
            rw [mextHandshake, if_neg done, io_call_bind, reading, if_pos late]
            rfl
          refine finishes_after first _ _ w _ log _ read ?_
          refine finishes_failing P first self start _ _ clocked.toTraced fun succeeded => done ?_
          rw [need_outstanding first self start _ ready clocked.toTraced, outstanding,
            ← frames_read_plain _ [.close] clocked.aligned (by simp [PlatformCall.Reads])]
          exact succeeded.2.2
        · obtain ⟨queried, writes, w1, asked, traced, quiet, outcome⟩ := retry_step first self start retried log ready P
            (P.monotonicMilliseconds w).1 (P.monotonicMilliseconds w).2 going done (UInt64.not_le.mp late)
          have iteration := handshake_iteration (logged P) (start + mextHandshakeTimeoutMs) (start + mextHandshakeRetryMs)
            fuel retried self e (w, log) _ (P.monotonicMilliseconds w).1 queried done late rfl asked
          rw [List.append_assoc] at iteration traced outcome
          refine finishes_after first _ _ w w1 log _ iteration ?_
          refine wait_run first self start _ _ P fuel e w1 log writes (P.monotonicMilliseconds w).1 queried still
            (fun next e w log going => ih next _ log e w going) traced ⟨rfl, quiet⟩ (UInt64.not_le.mp late) ?_
          exact outcome.imp_right fun failed => ⟨failed.1, failed.2.imp fun call broken =>
            ⟨List.mem_append_right _ (List.mem_append_right _ broken.1), broken.2⟩⟩

end Iteration

end Libmonome
