import Libmonome.Mext.Open

set_option autoImplicit false

namespace Libmonome

variable {ω : Type}

-- What is read once the handshake's deadline has come. The deadline is looked
-- at between two next_event calls only, and a call ends at a frame that carries
-- an event, but not at one that carries none.

theorem reads_path (P : Platform ω) (w last : ω) (calls : List PlatformCall) (reads : Reads P w calls last) :
    Path P w calls last := by
  induction reads with
  | none w => exact .none w
  | more w last n calls on ih => exact .more w _ last _ calls (.read n w) ih

def QuietButLast (frames : List Frame) : Prop := ∀ frame ∈ frames.dropLast, ¬ CarriesEvent frame.header

theorem quiet_suffix (frames later : List Frame) (suffix : later <:+ frames) (quiet : QuietButLast frames) :
    QuietButLast later := by
  obtain ⟨before, rfl⟩ := suffix
  cases later with
  | nil => exact fun frame member => absurd member List.not_mem_nil
  | cons first rest =>
      intro frame member
      refine quiet frame ?_
      rw [List.dropLast_append_of_ne_nil (List.cons_ne_nil first rest)]
      exact List.mem_append_right before member

theorem call_run_frames [t : Target] (msg : MextMsg) (self : Mext) (e : MonomeEvent) (attempts : List Attempt)
    (next : NextEvent Mext) (run : CallRun msg self e attempts next) : QuietButLast (attemptFrames attempts) ∧
      (next.status = none → (attemptFrames attempts).length = attempts.length) := by
  induction run with
  | cut => exact ⟨fun frame member => absurd member List.not_mem_nil, fun _ => rfl⟩
  | ended => exact ⟨fun frame member => absurd member List.not_mem_nil, fun cut => by cases cut⟩
  | reported => exact ⟨fun frame member => absurd member List.not_mem_nil, fun cut => by cases cut⟩
  | passed msg self e first frame h rest next came handled silent on ih =>
      have eventless : ¬ CarriesEvent frame.header :=
        fun carries => silent ((frame_handled_any self e msg frame h handled).2.1.mpr carries)
      refine ⟨fun other member => ?_, fun cut => congrArg (· + 1) (ih.2 cut)⟩
      have parts : attemptFrames (⟨first, some (.frame frame)⟩ :: rest) = frame :: attemptFrames rest := rfl
      rw [parts] at member
      cases later : attemptFrames rest with
      | nil =>
          rw [later] at member
          exact absurd member List.not_mem_nil
      | cons second others =>
          rw [later, List.dropLast_cons_cons, ← later] at member
          rcases List.mem_cons.mp member with same | among
          · rw [same]
            exact eventless
          · exact ih.1 other among

-- One iteration of the loop by its calls. It ends the loop, or the loop goes on
-- from where it stands: after the wait, or after a next_event call.
structure Waited (P : Platform ω) (w : ω) (calls : List PlatformCall) (between : ω) : Prop where
  path : Path P w calls between
  plain : ∀ call ∈ calls, ¬ call.Reads
  clock : (clocks calls).length = 1

inductive Round [t : Target] (P : Platform ω) (deadline : UInt64) (fuel : Nat) (onward : ω → List PlatformCall → Prop)
    (w : ω) (log : List PlatformCall) (status : Option Int32) (last : ω) (full : List PlatformCall) : Prop where
  | ended (calls : List PlatformCall) (returned : status ≠ none) (path : Path P w calls last)
      (plain : ∀ call ∈ calls, ¬ call.Reads) (grown : full = log ++ calls)
  | idle (calls : List PlatformCall) (between : ω) (ahead : clockAt P w < deadline) (waited : Waited P w calls between)
      (on : onward between (log ++ calls))
  | polled (calls reads : List PlatformCall) (between after : ω) (msg : MextMsg) (self : Mext) (e : MonomeEvent)
      (next : NextEvent Mext) (ahead : clockAt P w < deadline) (waited : Waited P w calls between)
      (called : CallLog P fuel msg self e between next after reads)
      (outcome : (next.status = none ∧ status = none ∧ last = after ∧ full = log ++ (calls ++ reads)) ∨
        (status ≠ none ∧ last = (P.close after).2 ∧ full = log ++ (calls ++ reads) ++ [PlatformCall.close]) ∨
        onward after (log ++ (calls ++ reads)))

theorem query_run (P : Platform ω) (self : Mext) (w : ω) (past : List PlatformCall) :
    ∃ queried writes w', mextQueryPending (logged P) self (w, past) = .ok (queried, (w', past ++ writes)) ∧
      Path P w writes w' ∧ (∀ call ∈ writes, ¬ call.Reads) ∧ clocks writes = [] := by
  obtain ⟨queried, writes, w', ran, sent, path⟩ := write_queries_run P (pendingQueries self.needResponses) w past
  obtain ⟨plain, quiet, _⟩ := sent_plain _ _ _ sent
  exact ⟨queried, writes, w', by rw [query_pending_writes, ran], path, plain, quiet⟩

theorem asked_run (P : Platform ω) (retry : Prop) [Decidable retry] (self : Mext) (w : ω) (past : List PlatformCall) :
    ∃ queried writes w', (if retry then mextQueryPending (logged P) self else pure 0) (w, past) =
        .ok (queried, (w', past ++ writes)) ∧ Path P w writes w' ∧ (∀ call ∈ writes, ¬ call.Reads) ∧ clocks writes = [] := by
  by_cases due : retry
  · rw [if_pos due]
    exact query_run P self w past
  · exact ⟨0, [], w, by rw [if_neg due, List.append_nil]; rfl, .none w, by simp, rfl⟩

theorem plain_then (calls : List PlatformCall) (call : PlatformCall) (plain : ∀ call ∈ calls, ¬ call.Reads)
    (last : ¬ call.Reads) : ∀ other ∈ calls ++ [call], ¬ other.Reads := by
  intro other member
  rcases List.mem_append.mp member with early | same
  · exact plain other early
  · rw [List.mem_singleton.mp same]
    exact last

section Rounds

variable (P : Platform ω) (deadline retryAt : UInt64) (fuel : Nat) (retried : Bool) (self : Mext) (e : MonomeEvent)
  (w last : ω) (log full : List PlatformCall) (opened : MextOpened)

def Onward [t : Target] (w : ω) (log : List PlatformCall) : Prop :=
  ∃ retried self e, mextHandshake (logged P) deadline retryAt fuel retried self e (w, log) = .ok (opened, (last, full))

theorem closing_round [t : Target] (calls : List PlatformCall) (w1 : ω) (path : Path P w calls w1)
    (plain : ∀ call ∈ calls, ¬ call.Reads)
    (run : mextOpenFail (logged P) self (w1, log ++ calls) = .ok (opened, (last, full))) :
    Round P deadline fuel (Onward P deadline retryAt fuel last full opened) w log opened.status last full := by
  rw [open_fail_run] at run
  cases run
  exact .ended (calls ++ [PlatformCall.close]) (by simp) (path_append P _ _ _ calls [.close] path (path_one P _ _ _ (.close w1)))
    (plain_then calls .close plain id) (List.append_assoc _ _ _)

theorem poll_round [t : Target] (calls : List PlatformCall) (w1 : ω) (ahead : clockAt P w < deadline)
    (waited : Waited P w calls w1)
    (run : (mextNextEvent (logged P) fuel self e >>= handshakePoll (logged P) deadline retryAt fuel retried)
      (w1, log ++ calls) = .ok (opened, (last, full))) :
    Round P deadline fuel (Onward P deadline retryAt fuel last full opened) w log opened.status last full := by
  obtain ⟨next, ⟨after, later⟩, polled, rest⟩ := io_bind_inv _ _ _ _ _ run
  obtain ⟨reads, rfl, called⟩ := logged_next_event P fuel (.fresh 0 0) self e w1 after _ _ next polled
  refine .polled calls reads w1 after _ self e next ahead waited called ?_
  rw [handshakePoll] at rest
  cases returned : next.status with
  | none =>
      rw [returned] at rest
      cases rest
      exact .inl ⟨rfl, rfl, rfl, List.append_assoc _ _ _⟩
  | some status =>
      rw [returned] at rest
      dsimp only at rest
      by_cases negative : status < 0
      · rw [if_pos negative, open_fail_run] at rest
        cases rest
        exact .inr (.inl ⟨by simp, rfl, by rw [List.append_assoc log calls reads]⟩)
      · rw [if_neg negative, List.append_assoc] at rest
        exact .inr (.inr ⟨_, next.self, next.event, rest⟩)

theorem wait_round [t : Target] (now : UInt64) (queried : Int32) (calls : List PlatformCall) (w1 : ω)
    (ahead : clockAt P w < deadline) (path : Path P w calls w1) (plain : ∀ call ∈ calls, ¬ call.Reads)
    (clock : (clocks calls).length = 1)
    (run : handshakeWait (logged P) deadline retryAt fuel retried self e now queried (w1, log ++ calls) =
      .ok (opened, (last, full))) :
    Round P deadline fuel (Onward P deadline retryAt fuel last full opened) w log opened.status last full := by
  by_cases unsent : queried < 0
  · rw [handshakeWait, if_pos unsent] at run
    exact closing_round P deadline retryAt fuel self w last log full opened calls w1 path plain run
  · generalize waited : mextWaitMs now deadline retryAt retried = msec
    have waiting : Waited P w (calls ++ [PlatformCall.wait msec (P.waitForInput msec w1).1]) (P.waitForInput msec w1).2 := by
      refine ⟨path_append P _ _ _ calls [_] path (path_one P _ _ _ (.wait msec w1)), plain_then calls _ plain id, ?_⟩
      rw [clocks_append, List.length_append, clock]
      rfl
    have waits : (logged P).waitForInput (mextWaitMs now deadline retryAt retried) (w1, log ++ calls) =
        ((P.waitForInput msec w1).1, ((P.waitForInput msec w1).2,
          log ++ (calls ++ [PlatformCall.wait msec (P.waitForInput msec w1).1]))) := by
      rw [waited, ← List.append_assoc]
      rfl
    rw [handshake_wait_answered (logged P) _ _ fuel retried self e now queried _ _ _ unsent waits] at run
    by_cases failed : (P.waitForInput msec w1).1 < 0
    · rw [if_pos failed] at run
      exact closing_round P deadline retryAt fuel self w last log full opened _ _ waiting.path waiting.plain run
    · rw [if_neg failed] at run
      by_cases input : (P.waitForInput msec w1).1 = 0
      · rw [if_pos input] at run
        exact poll_round P deadline retryAt fuel retried self e w last log full opened _ _ ahead waiting run
      · rw [if_neg input] at run
        exact .idle _ _ ahead waiting ⟨retried, self, e, run⟩

theorem handshake_round [t : Target]
    (run : mextHandshake (logged P) deadline retryAt (fuel + 1) retried self e (w, log) = .ok (opened, (last, full))) :
    Round P deadline fuel (Onward P deadline retryAt fuel last full opened) w log opened.status last full := by
  by_cases done : self.needResponses = 0
  · rw [mextHandshake, if_pos done] at run
    cases run
    exact .ended [] (by simp) (.none w) (by simp) (List.append_nil log).symm
  · have read : Path P w [.clock (P.monotonicMilliseconds w).1] (P.monotonicMilliseconds w).2 := path_one P _ _ _ (.clock w)
    have silent : ∀ call ∈ [PlatformCall.clock (P.monotonicMilliseconds w).1], ¬ call.Reads := by simp [PlatformCall.Reads]
    by_cases late : (P.monotonicMilliseconds w).1 ≥ deadline
    · have reading : ((logged P).monotonicMilliseconds (w, log)).1 = (P.monotonicMilliseconds w).1 := rfl
      rw [mextHandshake, if_neg done, io_call_bind, reading, if_pos late] at run
      exact closing_round P deadline retryAt fuel self w last log full opened _ _ read silent run
    · obtain ⟨queried, writes, w1, asked, path, plain, quiet⟩ := asked_run P
        (¬ retried ∧ (P.monotonicMilliseconds w).1 ≥ retryAt) self (P.monotonicMilliseconds w).2
        (log ++ [PlatformCall.clock (P.monotonicMilliseconds w).1])
      rw [handshake_iteration (logged P) deadline retryAt fuel retried self e (w, log) _ (P.monotonicMilliseconds w).1
        queried done late rfl asked, List.append_assoc] at run
      refine wait_round P deadline retryAt fuel _ self e w last log full opened _ queried _ w1 (UInt64.not_le.mp late)
        (path_append P _ _ _ [_] writes read path) (fun call member => ?_) ?_ run
      · exact (List.mem_append.mp member).elim (silent call) (plain call)
      · rw [clocks_append, quiet]
        rfl

end Rounds

def framesPast (deadline : UInt64) (stamps : List UInt64) (log : List PlatformCall) : List Frame :=
  (framesRead log).drop (framesRead (callsBefore deadline stamps log)).length

section Past

variable (deadline : UInt64) (stamps more : List UInt64) (log calls : List PlatformCall)
  (paired : stamps.length = log.length) (aligned : Aligned log)
include paired aligned

theorem frames_past_early (early : ∀ stamp ∈ stamps, stamp < deadline) :
    framesPast deadline (stamps ++ more) (log ++ calls) <:+ framesRead calls := by
  rw [framesPast, calls_before_all deadline stamps more log calls paired early, frames_read_append log calls aligned,
    frames_read_append log _ aligned, List.length_append, List.drop_length_add_append]
  exact List.drop_suffix _ _

theorem frames_past_plain (late : ∃ stamp ∈ stamps, ¬ stamp < deadline) (plain : ∀ call ∈ calls, ¬ call.Reads) :
    framesPast deadline (stamps ++ more) (log ++ calls) = framesPast deadline stamps log := by
  rw [framesPast, calls_before_passed deadline stamps more log calls paired late, frames_read_plain log calls aligned plain,
    framesPast]

end Past

theorem plain_frames (calls : List PlatformCall) (plain : ∀ call ∈ calls, ¬ call.Reads) : framesRead calls = [] := by
  rw [framesRead, (other_calls_aligned calls plain).2]
  rfl

-- Where a handshake under way stands: the deadline is ahead of every call so
-- far, or the frames read since end the last next_event call there will be.
structure OnTime (P : Platform ω) (deadline : UInt64) (s : ω × List UInt64) (log : List PlatformCall) : Prop where
  timed : Timed P s log
  aligned : Aligned log
  standing : (∀ stamp ∈ s.2, stamp < deadline) ∨ (∃ stamp ∈ s.2, ¬ stamp < deadline) ∧
    QuietButLast (framesPast deadline s.2 log) ∧
      (clocks log).length ≤ (clocks (callsBefore deadline s.2 log)).length + 1

section Standing

variable (P : Platform ω) (monotone : NonDecreasing P) (deadline : UInt64) (s last : ω × List UInt64)
  (log calls : List PlatformCall)
include monotone

theorem on_time_step (onTime : OnTime P deadline s log) (ahead : clockAt P s.1 < deadline)
    (path : Path (stamped P) s calls last) (aligned : Aligned calls) (quiet : QuietButLast (framesRead calls))
    (single : (clocks calls).length ≤ 1) : OnTime P deadline last (log ++ calls) := by
  have early : ∀ stamp ∈ s.2, stamp < deadline :=
    fun stamp member => UInt64.lt_of_le_of_lt (onTime.timed.past stamp member) ahead
  obtain ⟨timed, stamps, grown, _⟩ := timed_path P monotone s last log calls onTime.timed path
  refine ⟨timed, aligned_append log calls onTime.aligned aligned, ?_⟩
  by_cases all : ∀ stamp ∈ last.2, stamp < deadline
  · exact .inl all
  · refine .inr ⟨by simpa using all, ?_, ?_⟩
    · rw [grown]
      exact quiet_suffix _ _ (frames_past_early deadline s.2 stamps log calls onTime.timed.paired onTime.aligned early) quiet
    · rw [grown, calls_before_all deadline s.2 stamps log calls onTime.timed.paired early, clocks_append, clocks_append,
        List.length_append, List.length_append]
      omega

theorem on_time_ended (onTime : OnTime P deadline s log) (path : Path (stamped P) s calls last)
    (outcome : (∀ call ∈ calls, ¬ call.Reads) ∨ clockAt P s.1 < deadline ∧ QuietButLast (framesRead calls)) :
    QuietButLast (framesPast deadline last.2 (log ++ calls)) := by
  obtain ⟨_, stamps, grown, _⟩ := timed_path P monotone s last log calls onTime.timed path
  rw [grown]
  have fresh : (∀ stamp ∈ s.2, stamp < deadline) → QuietButLast (framesRead calls) →
      QuietButLast (framesPast deadline (s.2 ++ stamps) (log ++ calls)) := fun early quiet =>
    quiet_suffix _ _ (frames_past_early deadline s.2 stamps log calls onTime.timed.paired onTime.aligned early) quiet
  rcases outcome with plain | ⟨ahead, quiet⟩
  · rcases onTime.standing with early | ⟨late, quiet, _⟩
    · refine fresh early ?_
      rw [plain_frames calls plain]
      exact fun frame member => absurd member List.not_mem_nil
    · rw [frames_past_plain deadline s.2 stamps log calls onTime.timed.paired onTime.aligned late plain]
      exact quiet
  · exact fresh (fun stamp member => UInt64.lt_of_le_of_lt (onTime.timed.past stamp member) ahead) quiet

end Standing

theorem on_time_cut (P : Platform ω) (deadline : UInt64) (s : ω × List UInt64) (log : List PlatformCall)
    (onTime : OnTime P deadline s log) : QuietButLast (framesPast deadline s.2 log) ∧
      (clocks log).length ≤ (clocks (callsBefore deadline s.2 log)).length + 1 := by
  rcases onTime.standing with early | ⟨_, quiet, single⟩
  · have whole : callsBefore deadline s.2 log = log := by
      have all := calls_before_all deadline s.2 [] log [] onTime.timed.paired early
      rwa [List.append_nil, List.append_nil, show callsBefore deadline [] [] = [] from rfl, List.append_nil] at all
    rw [framesPast, whole, List.drop_length]
    exact ⟨fun frame member => absurd member List.not_mem_nil, Nat.le_succ _⟩
  · exact ⟨quiet, single⟩

def progress (log : List PlatformCall) : Nat := (framesRead log).length + (clocks log).length

theorem progress_append (log calls : List PlatformCall) (aligned : Aligned log) :
    progress (log ++ calls) = progress log + progress calls := by
  rw [progress, frames_read_append log calls aligned, clocks_append, List.length_append, List.length_append, progress,
    progress]
  omega

theorem handshake_on_time [t : Target] (P : Platform ω) (monotone : NonDecreasing P) (deadline retryAt : UInt64)
    (fuel : Nat) (retried : Bool) (self : Mext) (e : MonomeEvent) (s last : ω × List UInt64)
    (log full : List PlatformCall) (opened : MextOpened)
    (run : mextHandshake (logged (stamped P)) deadline retryAt fuel retried self e (s, log) = .ok (opened, (last, full)))
    (onTime : OnTime P deadline s log) :
    (∃ more, full = log ++ more) ∧ QuietButLast (framesPast deadline last.2 full) ∧
      (opened.status = none → progress log + fuel ≤ progress full ∧
        (clocks full).length ≤ (clocks (callsBefore deadline last.2 full)).length + 1) := by
  induction fuel generalizing retried self e s log with
  | zero =>
      cases run
      obtain ⟨quiet, single⟩ := on_time_cut P deadline last full onTime
      exact ⟨⟨[], (List.append_nil _).symm⟩, quiet, fun _ => ⟨le_refl _, single⟩⟩
  | succ fuel ih =>
      cases handshake_round (stamped P) deadline retryAt fuel retried self e s last log full opened run with
      | ended calls returned path plain grown =>
          rw [grown]
          exact ⟨⟨calls, rfl⟩, on_time_ended P monotone deadline s last log calls onTime path (.inl plain),
            fun cut => absurd cut returned⟩
      | idle calls between ahead waited on =>
          obtain ⟨retried, self, e, on⟩ := on
          have none := plain_frames calls waited.plain
          have next := on_time_step P monotone deadline s between log calls onTime ahead waited.path
            (other_calls_aligned calls waited.plain).1 (by rw [none]; exact fun frame member => absurd member List.not_mem_nil)
            (le_of_eq waited.clock)
          obtain ⟨⟨more, grown⟩, quiet, cut⟩ := ih retried self e between (log ++ calls) on next
          refine ⟨⟨calls ++ more, by rw [grown, List.append_assoc]⟩, quiet, fun returned => ?_⟩
          obtain ⟨spent, single⟩ := cut returned
          have one : progress calls = 1 := by rw [progress, none, waited.clock, List.length_nil]
          rw [progress_append log calls onTime.aligned, one] at spent
          exact ⟨by omega, single⟩
      | polled calls reads between after msg self e next ahead waited called outcome =>
          obtain ⟨aligned, none⟩ := other_calls_aligned calls waited.plain
          obtain ⟨quiet, allFrames⟩ := call_run_frames msg self e _ next called.call
          obtain ⟨_, unread, _⟩ := reads_quiet (stamped P) between after reads called.reads []
          have frames : framesRead (calls ++ reads) = framesRead reads := by
            rw [frames_read_append calls reads aligned, plain_frames calls waited.plain]
            rfl
          have readings : (clocks (calls ++ reads)).length = 1 := by
            rw [clocks_append, unread, List.append_nil, waited.clock]
          have path := path_append (stamped P) s between after calls reads waited.path (reads_path _ _ _ _ called.reads)
          have step := on_time_step P monotone deadline s after log (calls ++ reads) onTime ahead path
            (aligned_append calls reads aligned called.aligned) (by rw [frames]; exact quiet) (le_of_eq readings)
          rcases outcome with ⟨cutOff, _, rfl, grown⟩ | ⟨returned, rfl, grown⟩ | ⟨retried, self, e, on⟩
          · obtain ⟨past, single⟩ := on_time_cut P deadline last _ step
            have spent : progress (calls ++ reads) = fuel + 1 := by
              rw [progress, frames, readings, framesRead, allFrames cutOff, called.spent cutOff]
            rw [grown]
            refine ⟨⟨_, rfl⟩, past, fun _ => ⟨?_, single⟩⟩
            rw [progress_append log _ onTime.aligned, spent]
          · rw [grown]
            exact ⟨⟨_, List.append_assoc _ _ _⟩, on_time_ended P monotone deadline after _ _ [.close] step
              (path_one _ _ _ _ (.close after)) (.inl (by simp [PlatformCall.Reads])), fun cut => absurd cut returned⟩
          · obtain ⟨⟨more, grown⟩, past, cut⟩ := ih retried self e after _ on step
            refine ⟨⟨calls ++ reads ++ more, by rw [grown, List.append_assoc log]⟩, past, fun returned => ?_⟩
            obtain ⟨spent, single⟩ := cut returned
            rw [progress_append log _ onTime.aligned] at spent
            have one : 1 ≤ progress (calls ++ reads) := by
              rw [progress, readings]
              exact Nat.le_add_left 1 _
            exact ⟨by omega, single⟩

theorem open_rounds [t : Target] (P : Platform ω) (fuel : Nat) (e : MonomeEvent) (dev : String) (serial : Option String)
    (m : MonomeDevmap) (w last : ω) (full : List PlatformCall) (opened : MextOpened)
    (run : mextOpen (logged P) fuel mextNew e dev serial m (w, []) = .ok (opened, (last, full))) :
    (opened.status ≠ none ∧ ∀ call ∈ full, ¬ call.Reads) ∨
      ∃ start calls between, Path P w calls between ∧ (∀ call ∈ calls, ¬ call.Reads) ∧ clocks calls = [start] ∧
        mextHandshake (logged P) (start + mextHandshakeTimeoutMs) (start + mextHandshakeRetryMs) fuel false
          (openedMext serial m) e (between, calls) = .ok (opened, (last, full)) := by
  rw [mextOpen, io_call_bind] at run
  have opening : Path P w [.openDevice (P.openDevice m dev w).1] (P.openDevice m dev w).2 :=
    path_one P _ _ _ (.openDevice m dev w)
  by_cases failed : (P.openDevice m dev w).1 ≠ 0
  · rw [show ((logged P).openDevice m dev (w, [])).1 = (P.openDevice m dev w).1 from rfl, if_pos failed] at run
    cases run
    exact .inl ⟨by simp, by simp [PlatformCall.Reads]⟩
  · rw [show ((logged P).openDevice m dev (w, [])).1 = (P.openDevice m dev w).1 from rfl, if_neg failed, io_call_bind] at run
    have reading := path_one P _ _ _ (.clock (P.openDevice m dev w).2)
    have begun := path_append P w _ _ [_] [_] opening reading
    obtain ⟨queried, writes, w', asked, path, plain, quiet⟩ := query_run P (openedMext serial m)
      (P.monotonicMilliseconds (P.openDevice m dev w).2).2
      [.openDevice (P.openDevice m dev w).1, .clock (P.monotonicMilliseconds (P.openDevice m dev w).2).1]
    have ran := (io_bind_ok _ _ _ _ _ asked).symm.trans run
    have calls := path_append P w _ _ _ writes begun path
    have plainCalls : ∀ call ∈ [.openDevice (P.openDevice m dev w).1,
        .clock (P.monotonicMilliseconds (P.openDevice m dev w).2).1] ++ writes, ¬ call.Reads := by
      refine fun call member => (List.mem_append.mp member).elim (fun early => ?_) (plain call)
      rcases List.mem_cons.mp early with same | later
      · rw [same]
        exact id
      · rw [List.mem_singleton.mp later]
        exact id
    by_cases unsent : queried < 0
    · rw [if_pos unsent, open_fail_run] at ran
      cases ran
      refine .inl ⟨by simp, fun call member => ?_⟩
      rcases List.mem_append.mp member with early | close
      · exact plainCalls call early
      · rw [List.mem_singleton.mp close]
        exact id
    · rw [if_neg unsent] at ran
      refine .inr ⟨_, _, w', calls, plainCalls, ?_, ran⟩
      show clocks ([_, _] ++ writes) = _
      rw [clocks_append, quiet]
      rfl

structure Opening (ω : Type) where
  platform : Platform ω
  start : ω
  event : MonomeEvent
  dev : String
  serial : Option String
  devmap : MonomeDevmap

def Opening.run [t : Target] (o : Opening ω) (fuel : Nat) :
    Except Fault (MextOpened × (ω × List UInt64) × List PlatformCall) :=
  mextOpen (logged (stamped o.platform)) fuel mextNew o.event o.dev o.serial o.devmap ((o.start, []), [])

-- The calls of a run before its deadline, 1000 ms after the first reading of
-- the clock, and the frames it read from then on.
def callsAhead (stamps : List UInt64) (log : List PlatformCall) : List PlatformCall :=
  match (clocks log).head? with
  | none => log
  | some start => callsBefore (start + mextHandshakeTimeoutMs) stamps log

def lateFrames (stamps : List UInt64) (log : List PlatformCall) : List Frame :=
  (framesRead log).drop (framesRead (callsAhead stamps log)).length

theorem progress_bound (pending : Option (Int64 × UInt8)) (log : List PlatformCall) :
    (attemptFrames (mextAttemptsFrom pending log)).length + (clocks log).length ≤ log.length := by
  induction log generalizing pending with
  | nil =>
      cases pending with
      | none => exact le_refl 0
      | some header => exact le_refl 0
  | cons call rest ih =>
      obtain ⟨found, next, single, reading, step⟩ := frames_step pending call
      have later := ih next
      rw [step, List.length_append, List.length_cons]
      by_cases reads : call.Reads
      · have unread : clocks (call :: rest) = clocks rest := by
          cases call with
          | clock now => exact absurd reads id
          | _ => rfl
        rw [unread]
        omega
      · have one : (clocks (call :: rest)).length ≤ (clocks rest).length + 1 := by
          cases call with
          | clock now => exact le_refl _
          | _ => exact Nat.le_succ _
        rw [reading reads, List.length_nil]
        omega

-- From the deadline on a run reads one frame with an event at most, and no
-- frame after it. A run cut off has made a call, or read such a frame, for each
-- unit of its bound.
theorem open_run_late [t : Target] (o : Opening ω) (monotone : NonDecreasing o.platform) (fuel : Nat)
    (opened : MextOpened) (w : ω) (stamps : List UInt64) (log : List PlatformCall)
    (run : o.run fuel = .ok (opened, (w, stamps), log)) :
    QuietButLast (lateFrames stamps log) ∧
      (opened.status = none → fuel ≤ (callsAhead stamps log).length + (lateFrames stamps log).length + 1) := by
  rcases open_rounds (stamped o.platform) fuel o.event o.dev o.serial o.devmap (o.start, []) (w, stamps) log opened run with
    ⟨returned, plain⟩ | ⟨start, calls, between, path, plain, reading, rest⟩
  · rw [lateFrames, plain_frames log plain, List.drop_nil]
    exact ⟨fun frame member => absurd member List.not_mem_nil, fun cut => absurd cut returned⟩
  · have nothing : Timed o.platform (o.start, []) [] := ⟨rfl, fun stamp member => absurd member List.not_mem_nil⟩
    have aligned := (other_calls_aligned calls plain).1
    obtain ⟨timed, _⟩ := timed_path o.platform monotone (o.start, []) between [] calls nothing path
    have onTime : OnTime o.platform (start + mextHandshakeTimeoutMs) between calls := by
      refine ⟨timed, aligned, ?_⟩
      by_cases all : ∀ stamp ∈ between.2, stamp < start + mextHandshakeTimeoutMs
      · exact .inl all
      · refine .inr ⟨by simpa using all, ?_, by rw [reading]; exact Nat.le_add_left 1 _⟩
        rw [framesPast, plain_frames calls plain, List.drop_nil]
        exact fun frame member => absurd member List.not_mem_nil
    obtain ⟨⟨more, grown⟩, quiet, cut⟩ := handshake_on_time o.platform monotone _ _ fuel false _ o.event between (w, stamps)
      calls log opened rest onTime
    have began : (clocks log).head? = some start := by
      rw [grown, clocks_append, reading]
      rfl
    have ahead : callsAhead stamps log = callsBefore (start + mextHandshakeTimeoutMs) stamps log := by
      rw [callsAhead, began]
    have past : lateFrames stamps log = framesPast (start + mextHandshakeTimeoutMs) stamps log := by
      rw [lateFrames, ahead, framesPast]
    refine ⟨by rw [past]; exact quiet, fun returned => ?_⟩
    obtain ⟨spent, single⟩ := cut returned
    have early : progress (callsAhead stamps log) ≤ (callsAhead stamps log).length := progress_bound none _
    have late : (lateFrames stamps log).length = (framesRead log).length - (framesRead (callsAhead stamps log)).length :=
      List.length_drop
    rw [← ahead] at single
    have whole : progress log = (framesRead log).length + (clocks log).length := rfl
    have parts : progress (callsAhead stamps log) =
      (framesRead (callsAhead stamps log)).length + (clocks (callsAhead stamps log)).length := rfl
    omega

def QuietWithin (bound : Nat) (frames : List Frame) : Prop :=
  ∀ part, part <:+: frames → (∀ frame ∈ part, ¬ CarriesEvent frame.header) → part.length ≤ bound

def PassesDeadline [t : Target] (o : Opening ω) : Prop :=
  ∃ most, ∀ fuel opened w stamps log, o.run fuel = .ok (opened, (w, stamps), log) → (callsAhead stamps log).length ≤ most

-- One bound for what all these calls of mext_open read from their deadline on;
-- and each of them returns, once its clock passes its deadline.
def TimeoutBounds [t : Target] (openings : Set (Opening ω)) : Prop :=
  (∃ bound, ∀ o ∈ openings, ∀ fuel opened w stamps log, o.run fuel = .ok (opened, (w, stamps), log) →
    (lateFrames stamps log).length ≤ bound) ∧
  ∀ o ∈ openings, PassesDeadline o → ∃ fuel opened w, o.run fuel = .ok (opened, w) ∧ opened.status ≠ none

theorem mext_open_bounded_iff [t : Target] (openings : Set (Opening ω))
    (monotone : ∀ o ∈ openings, NonDecreasing o.platform) :
    TimeoutBounds openings ↔ ∃ bound, ∀ o ∈ openings, ∀ fuel opened w stamps log,
      o.run fuel = .ok (opened, (w, stamps), log) → QuietWithin bound (lateFrames stamps log) := by
  constructor
  · rintro ⟨⟨bound, most⟩, _⟩
    refine ⟨bound, fun o member fuel opened w stamps log run part among _ => ?_⟩
    exact Nat.le_trans among.length_le (most o member fuel opened w stamps log run)
  · rintro ⟨bound, within⟩
    have most : ∀ o ∈ openings, ∀ fuel opened w stamps log, o.run fuel = .ok (opened, (w, stamps), log) →
        (lateFrames stamps log).length ≤ bound + 1 := by
      intro o member fuel opened w stamps log run
      have quiet := (open_run_late o (monotone o member) fuel opened w stamps log run).1
      have short := within o member fuel opened w stamps log run _ (List.dropLast_prefix _).isInfix quiet
      rw [List.length_dropLast] at short
      omega
    refine ⟨⟨bound + 1, most⟩, fun o member passes => ?_⟩
    obtain ⟨early, passes⟩ := passes
    obtain ⟨opened, ⟨w, stamps⟩, log, _, ran, _⟩ := mext_open_run (stamped o.platform) (early + bound + 3) o.event o.dev
      o.serial o.devmap (o.start, [])
    refine ⟨early + bound + 3, opened, _, ran, fun cut => ?_⟩
    have spent := (open_run_late o (monotone o member) _ opened w stamps log ran).2 cut
    have ahead := passes _ opened w stamps log ran
    have late := most o member _ opened w stamps log ran
    omega

theorem open_reaches_loop [t : Target] (P : Platform ω) (fuel : Nat) (e : MonomeEvent) (dev : String)
    (serial : Option String) (m : MonomeDevmap) (w w1 w2 w3 : ω) (start : UInt64) (opens : P.openDevice m dev w = (0, w1))
    (reads : P.monotonicMilliseconds w1 = (start, w2)) (asked : mextQueryPending P (openedMext serial m) w2 = .ok (0, w3)) :
    mextOpen P fuel mextNew e dev serial m w = mextHandshake P (start + mextHandshakeTimeoutMs)
      (start + mextHandshakeRetryMs) fuel false (openedMext serial m) e w3 := by
  rw [mextOpen, io_call_bind, opens]
  dsimp only
  rw [if_neg (not_not.mpr rfl), io_call_bind, reads]
  refine (io_bind_ok _ _ _ _ _ asked).trans ?_
  rw [if_neg (by decide)]
  rfl

theorem wait_cut_off [t : Target] (P : Platform ω) (deadline retryAt : UInt64) (fuel : Nat) (retried : Bool) (self : Mext)
    (e : MonomeEvent) (now : UInt64) (w w1 w2 : ω) (next : NextEvent Mext)
    (waits : P.waitForInput (mextWaitMs now deadline retryAt retried) w = (0, w1))
    (polls : mextNextEvent P fuel self e w1 = .ok (next, w2)) (cut : next.status = none) :
    handshakeWait P deadline retryAt fuel retried self e now 0 w = .ok (⟨none, next.self⟩, w2) := by
  rw [handshakeWait, if_neg (by decide), io_call_bind, waits]
  dsimp only
  rw [if_neg (by decide), if_pos rfl, io_bind_ok _ _ _ _ _ polls, cut]
  rfl

def answeredLink : Opening Link :=
  ⟨link, ⟨[0x00, 0, 0] ++ (0x01 :: List.replicate 32 0) ++ [0x03, 16, 8], []⟩, ⟨.buttonUp, .grid 0 0⟩, "/dev/ttyACM0", none,
    ⟨"m%d", .mext, 0, 0, "monome", false⟩⟩

theorem mext_open_bounded_link : TimeoutBounds (t := ⟨true, false⟩) {answeredLink} ↔
    ∃ bound, ∀ o ∈ ({answeredLink} : Set (Opening Link)),
    ∀ fuel opened w stamps log, o.run (t := ⟨true, false⟩) fuel = .ok (opened, (w, stamps), log) →
      QuietWithin bound (lateFrames stamps log) := by
  refine mext_open_bounded_iff (t := ⟨true, false⟩) {answeredLink} fun o member => ?_
  rw [Set.mem_singleton_iff.mp member]
  intro w call last took
  exact UInt64.le_refl 0

-- A device that sends 0x30 bytes without end, a header nobody handles, and a
-- clock that jumps past the deadline during the first wait.
def babbling : Opening Bool where
  platform := {
    openDevice := fun _ _ s => (0, s)
    close := fun s => (0, s)
    write := fun bytes s => (Int64.ofNat bytes.length, s)
    read := fun n s => (⟨Int64.ofNat ((List.take n [0x30]).length), List.take n [0x30], List.length_take_le n _,
      count_of_length _⟩, s)
    waitForInput := fun _ _ => (0, true)
    monotonicMilliseconds := fun s => (if s then 1000 else 0, s) }
  start := false
  event := ⟨.buttonUp, .grid 0 0⟩
  dev := "/dev/ttyACM0"
  serial := none
  devmap := ⟨"m%d", .mext, 0, 0, "monome", false⟩

def babblingCalls : List PlatformCall :=
  [.openDevice 0, .clock 0, .write [0x00] 1, .write [0x01] 1, .write [0x05] 1, .clock 0, .wait 25 0]

theorem babbling_next_event [t : Target] (fuel : Nat) (msg : MextMsg) (self : Mext) (e : MonomeEvent)
    (stamps : List UInt64) (log : List PlatformCall) :
    mextNextEventLoop (logged (stamped babbling.platform)) fuel msg self e ((true, stamps), log) =
      .ok (⟨none, self, e⟩, (true, stamps ++ List.replicate fuel 1000), log ++ List.replicate fuel (.read 1 [0x30] 1)) := by
  induction fuel generalizing msg stamps log with
  | zero =>
      rw [List.replicate_zero, List.replicate_zero, List.append_nil, List.append_nil]
      rfl
  | succ fuel ih =>
      have got := read_msg_bare (logged (stamped babbling.platform)) msg ((true, stamps), log)
        (show ¬ (1 : Int64) ≤ 0 by decide) 0x30 rfl rfl
      rw [next_event_handled _ fuel msg self e _ _ 1 _ ⟨false, self, e⟩ got (by decide) rfl, if_neg Bool.false_ne_true]
      refine (ih _ (stamps ++ [1000]) (log ++ [PlatformCall.read 1 [0x30] 1])).trans ?_
      rw [List.append_assoc, List.append_assoc]
      rfl

def babblingOpened : Mext := openedMext none babbling.devmap

theorem babbling_run [t : Target] (fuel : Nat) : babbling.run (fuel + 1) = .ok (⟨none, babblingOpened⟩,
    (true, List.replicate 6 0 ++ [1000] ++ List.replicate fuel 1000), babblingCalls ++ List.replicate fuel (.read 1 [0x30] 1)) := by
  have asked : mextQueryPending (logged (stamped babbling.platform)) babblingOpened
      ((false, [0, 0]), [.openDevice 0, .clock 0]) =
      .ok (0, (false, [0, 0, 0, 0, 0]), [.openDevice 0, .clock 0, .write [0x00] 1, .write [0x01] 1, .write [0x05] 1]) := by
    rw [query_pending_writes]
    rfl
  have looped := open_reaches_loop (logged (stamped babbling.platform)) (fuel + 1) babbling.event babbling.dev babbling.serial
    babbling.devmap ((false, []), []) ((false, [0]), [.openDevice 0]) ((false, [0, 0]), [.openDevice 0, .clock 0]) _ 0 rfl rfl asked
  refine Eq.trans looped ?_
  rw [show (0 : UInt64) + mextHandshakeTimeoutMs = 1000 from rfl, show (0 : UInt64) + mextHandshakeRetryMs = 250 from rfl]
  have polled := babbling_next_event fuel (.fresh 0 0) babblingOpened babbling.event (List.replicate 6 0 ++ [1000]) babblingCalls
  have ended := wait_cut_off (logged (stamped babbling.platform)) 1000 250 fuel false babblingOpened babbling.event 0
    ((false, [0, 0, 0, 0, 0, 0]),
      [.openDevice 0, .clock 0, .write [0x00] 1, .write [0x01] 1, .write [0x05] 1, .clock 0])
    ((true, List.replicate 6 0 ++ [1000]), babblingCalls) _ _ rfl polled rfl
  refine Eq.trans (handshake_iteration (logged (stamped babbling.platform)) 1000 250 fuel false babblingOpened babbling.event
    ((false, [0, 0, 0, 0, 0]), [.openDevice 0, .clock 0, .write [0x00] 1, .write [0x01] 1, .write [0x05] 1])
    ((false, [0, 0, 0, 0, 0, 0]),
      [.openDevice 0, .clock 0, .write [0x00] 1, .write [0x01] 1, .write [0x05] 1, .clock 0]) 0 0 (by decide) ?_ rfl ?_) ?_
  · show ¬ (0 : UInt64) ≥ 1000
    decide
  · rfl
  · exact ended

theorem babbling_frames (fuel : Nat) :
    framesRead (List.replicate fuel (.read 1 [0x30] 1)) = List.replicate fuel ⟨0x30, [], rfl⟩ := by
  induction fuel with
  | zero => rfl
  | succ fuel ih =>
      rw [List.replicate_succ, List.replicate_succ, ← ih]
      rfl

theorem babbling_late (fuel : Nat) :
    (lateFrames (List.replicate 6 0 ++ [1000] ++ List.replicate fuel 1000)
      (babblingCalls ++ List.replicate fuel (.read 1 [0x30] 1))).length = fuel := by
  have ahead : callsAhead (List.replicate 6 0 ++ [1000] ++ List.replicate fuel 1000)
      (babblingCalls ++ List.replicate fuel (.read 1 [0x30] 1)) = babblingCalls.take 6 := rfl
  have plain : ∀ call ∈ babblingCalls, ¬ call.Reads := by simp [babblingCalls, PlatformCall.Reads]
  have early : ∀ call ∈ babblingCalls.take 6, ¬ call.Reads := fun call member => plain call (List.mem_of_mem_take member)
  rw [lateFrames, ahead, plain_frames _ early, frames_read_append _ _ (other_calls_aligned _ plain).1, plain_frames _ plain,
    babbling_frames]
  exact List.length_replicate

theorem babbling_unbounded : NonDecreasing babbling.platform ∧ ¬ TimeoutBounds (t := ⟨true, false⟩) {babbling} := by
  constructor
  · intro s call last took
    cases took with
    | wait msec =>
        show (if s then (1000 : UInt64) else 0) ≤ 1000
        cases s <;> decide
    | _ => exact UInt64.le_refl _
  · rintro ⟨⟨bound, most⟩, _⟩
    have late := most babbling rfl (bound + 2) _ _ _ _ (babbling_run (t := ⟨true, false⟩) (bound + 1))
    rw [babbling_late] at late
    omega

end Libmonome
