import Libmonome.Attempts
import Libmonome.Mext.Handling
import Libmonome.Mext.Stream

set_option autoImplicit false

namespace Libmonome

variable {ω : Type}

def attemptFrames (attempts : List Attempt) : List Frame :=
  attempts.filterMap fun attempt => match attempt.message with
    | some (.frame frame) => some frame
    | _ => none

def framesRead (log : List PlatformCall) : List Frame := attemptFrames (mextAttempts log)

def outstanding (log : List PlatformCall) : UInt32 := mextNew.needResponses &&& ~~~answered (framesRead log)

def clocks (log : List PlatformCall) : List UInt64 :=
  log.filterMap fun call => match call with
    | .clock now => some now
    | _ => none

def PlatformCall.writes (bytes : List UInt8) : PlatformCall → Bool
  | .write sent _ => sent = bytes
  | _ => false

def timesWritten (bytes : List UInt8) (log : List PlatformCall) : Nat := log.countP (PlatformCall.writes bytes)

def queryBit (bytes : List UInt8) : UInt32 :=
  if bytes = [0x00] then mextNeedQuery
  else if bytes = [0x01] then mextNeedId
  else if bytes = [0x05] then mextNeedGridSize
  else 0

def LastReading (log before : List PlatformCall) (now : UInt64) (since : List PlatformCall) : Prop :=
  log = before ++ .clock now :: since ∧ clocks since = []

-- A query goes out once, and once more in the one retry: after a clock reading
-- at which nothing had gone out twice, at least 250 ms from the start, for a
-- response still outstanding.
def QueryAllowed (log : List PlatformCall) (bytes : List UInt8) : Prop :=
  queryBit bytes ≠ 0 ∧ (timesWritten bytes log = 0 ∨
    timesWritten bytes log = 1 ∧ outstanding log &&& queryBit bytes ≠ 0 ∧
      ∃ start before now since, (clocks log).head? = some start ∧ LastReading log before now since ∧
        250 ≤ (now - start).toNat ∧ ∀ other, timesWritten other before ≤ 1)

-- A wait is a slice of 1 to 25 ms that ends by the deadline, and by the retry
-- time when that is still to come and nothing has gone out twice.
def WaitAllowed (log : List PlatformCall) (msec : UInt32) : Prop :=
  1 ≤ msec.toNat ∧ msec.toNat ≤ 25 ∧
    ∃ start before now since, (clocks log).head? = some start ∧ LastReading log before now since ∧
      now.toNat + msec.toNat ≤ (start + mextHandshakeTimeoutMs).toNat ∧
      ((∀ other, timesWritten other log ≤ 1) → now < start + mextHandshakeRetryMs →
        now.toNat + msec.toNat ≤ (start + mextHandshakeRetryMs).toNat)

def Allowed (log : List PlatformCall) : PlatformCall → Prop
  | .write bytes _ => QueryAllowed log bytes
  | .wait msec _ => WaitAllowed log msec
  | _ => True

def SafeFrom : (before log : List PlatformCall) → Prop
  | _, [] => True
  | before, call :: rest => Allowed before call ∧ SafeFrom (before ++ [call]) rest

def PlatformCall.Failed : PlatformCall → Prop
  | .openDevice status => status ≠ 0
  | .write _ status => status ≠ 1
  | .wait _ status => status < 0
  | _ => False

def Attempt.Failed (attempt : Attempt) : Prop :=
  attempt.message = none ∧ (if attempt.first ≤ 0 then attempt.first.toInt32 else -1) < 0

def Succeeded (log : List PlatformCall) : Prop :=
  (∀ call ∈ log, ¬ call.Failed) ∧ (∀ attempt ∈ mextAttempts log, ¬ attempt.Failed) ∧ outstanding log = 0

section Append

variable (before log more : List PlatformCall)

theorem safe_from_append : SafeFrom before (log ++ more) ↔ SafeFrom before log ∧ SafeFrom (before ++ log) more := by
  induction log generalizing before with
  | nil => simp [SafeFrom]
  | cons call rest ih =>
      rw [List.cons_append, SafeFrom, SafeFrom, ih, and_assoc, List.append_assoc]
      rfl

theorem aligned_append (first : Aligned log) (second : Aligned more) : Aligned (log ++ more) := by
  intro rest
  rw [List.append_assoc, first, second, first, List.append_assoc]

theorem frames_read_append (aligned : Aligned log) : framesRead (log ++ more) = framesRead log ++ framesRead more := by
  rw [framesRead, aligned, attemptFrames, List.filterMap_append]
  rfl

theorem clocks_append : clocks (log ++ more) = clocks log ++ clocks more := List.filterMap_append

theorem times_written_append (bytes : List UInt8) :
    timesWritten bytes (log ++ more) = timesWritten bytes log + timesWritten bytes more := List.countP_append

theorem answered_append (frames later : List Frame) : answered (frames ++ later) = answered frames ||| answered later := by
  induction frames with
  | nil => simp [answered]
  | cons frame rest ih =>
      rw [List.cons_append, answered, answered, ih, UInt32.or_assoc]

end Append

def PlatformCall.Reads : PlatformCall → Prop
  | .read _ _ _ => True
  | _ => False

theorem other_call_skipped (pending : Option (Int64 × UInt8)) (call : PlatformCall) (other : ¬ call.Reads)
    (rest : List PlatformCall) : mextAttemptsFrom pending (call :: rest) = mextAttemptsFrom pending rest := by
  cases call with
  | read n stored status => exact absurd trivial other
  | openDevice status => cases pending <;> rfl
  | close => cases pending <;> rfl
  | write bytes status => cases pending <;> rfl
  | wait msec status => cases pending <;> rfl
  | clock now => cases pending <;> rfl

theorem other_calls_attempts (calls : List PlatformCall) (others : ∀ call ∈ calls, ¬ call.Reads) (rest : List PlatformCall) :
    mextAttempts (calls ++ rest) = mextAttempts rest := by
  induction calls with
  | nil => rfl
  | cons call tail ih =>
      rw [List.cons_append, mextAttempts, other_call_skipped none call (others call List.mem_cons_self)]
      exact ih fun later member => others later (List.mem_cons_of_mem _ member)

theorem other_calls_aligned (calls : List PlatformCall) (others : ∀ call ∈ calls, ¬ call.Reads) :
    Aligned calls ∧ mextAttempts calls = [] := by
  have none : mextAttempts calls = [] := by
    have whole := other_calls_attempts calls others []
    rwa [List.append_nil] at whole
  refine ⟨fun rest => ?_, none⟩
  rw [other_calls_attempts calls others, none]
  rfl

theorem frames_read_plain (log calls : List PlatformCall) (aligned : Aligned log) (others : ∀ call ∈ calls, ¬ call.Reads) :
    framesRead (log ++ calls) = framesRead log := by
  rw [framesRead, aligned, (other_calls_aligned calls others).2, List.append_nil]
  rfl

theorem reads_quiet (P : Platform ω) (w last : ω) (calls : List PlatformCall) (reads : Reads P w calls last)
    (before : List PlatformCall) : SafeFrom before calls ∧ clocks calls = [] ∧ (∀ bytes, timesWritten bytes calls = 0) ∧
      (∀ call ∈ calls, ¬ call.Failed) ∧ PlatformCall.close ∉ calls := by
  induction reads generalizing before with
  | none w => exact ⟨trivial, rfl, fun _ => rfl, by simp, List.not_mem_nil⟩
  | more w last n calls on ih =>
      obtain ⟨safe, noClock, noWrite, unbroken, noClose⟩ := ih (before ++ [readCall P n w])
      refine ⟨⟨trivial, safe⟩, noClock, fun bytes => ?_, ?_, ?_⟩
      · rw [timesWritten, List.countP_cons_of_neg (by simp [readCall, PlatformCall.writes])]
        exact noWrite bytes
      · intro call member
        rcases List.mem_cons.mp member with same | later
        · rw [same]
          exact id
        · exact unbroken call later
      · simp [readCall, noClose]

theorem frames_step (pending : Option (Int64 × UInt8)) (call : PlatformCall) :
    ∃ found next, found.length ≤ 1 ∧ (¬ call.Reads → found = []) ∧ ∀ rest,
      attemptFrames (mextAttemptsFrom pending (call :: rest)) = found ++ attemptFrames (mextAttemptsFrom next rest) := by
  by_cases reads : call.Reads
  · cases call with
    | read n stored status =>
        cases pending with
        | none =>
            by_cases ended : status ≤ 0
            · refine ⟨[], none, Nat.zero_le 1, fun _ => rfl, fun rest => ?_⟩
              rw [mextAttemptsFrom, if_pos ended]
              rfl
            · by_cases bare : headerLength (stored.headD 0) = 0
              · refine ⟨[⟨stored.headD 0, [], bare.symm⟩], none, le_refl 1, fun other => absurd reads other, fun rest => ?_⟩
                rw [mextAttemptsFrom, if_neg ended, dif_pos bare]
                rfl
              · refine ⟨[], some (status, stored.headD 0), Nat.zero_le 1, fun _ => rfl, fun rest => ?_⟩
                rw [mextAttemptsFrom, if_neg ended, dif_neg bare]
                rfl
        | some head =>
            obtain ⟨first, header⟩ := head
            by_cases whole : stored.length = headerLength header ∧ status = Int64.ofNat stored.length
            · refine ⟨[⟨header, stored, whole.1⟩], none, le_refl 1, fun other => absurd reads other, fun rest => ?_⟩
              rw [mextAttemptsFrom, dif_pos whole]
              rfl
            · refine ⟨[], none, Nat.zero_le 1, fun _ => rfl, fun rest => ?_⟩
              rw [mextAttemptsFrom, dif_neg whole]
              rfl
    | openDevice status => exact absurd reads id
    | close => exact absurd reads id
    | write bytes status => exact absurd reads id
    | wait msec status => exact absurd reads id
    | clock now => exact absurd reads id
  · exact ⟨[], pending, Nat.zero_le 1, fun _ => rfl, fun rest => by rw [other_call_skipped pending call reads]; rfl⟩

theorem frames_from_prefix (pending : Option (Int64 × UInt8)) (log more : List PlatformCall) :
    ∃ later, attemptFrames (mextAttemptsFrom pending (log ++ more)) =
      attemptFrames (mextAttemptsFrom pending log) ++ later := by
  induction log generalizing pending with
  | nil =>
      cases pending with
      | none => exact ⟨_, rfl⟩
      | some header => exact ⟨_, rfl⟩
  | cons call rest ih =>
      obtain ⟨found, next, _, _, step⟩ := frames_step pending call
      obtain ⟨later, same⟩ := ih next
      exact ⟨later, by rw [List.cons_append, step, same, step, List.append_assoc]⟩

theorem bits_absorbed (a b : UInt32) : (a &&& b) ||| a = a := by
  apply UInt32.toBitVec_inj.mp
  ext i inside
  simp
  tauto

theorem outstanding_shrinks (log more : List PlatformCall) :
    outstanding (log ++ more) ||| outstanding log = outstanding log := by
  obtain ⟨later, same⟩ := frames_from_prefix none log more
  have frames : framesRead (log ++ more) = framesRead log ++ later := same
  rw [outstanding, outstanding, frames, answered_append, not_or_bits, ← UInt32.and_assoc, bits_absorbed]

theorem safe_twice (before log : List PlatformCall) (bytes : List UInt8) (safe : SafeFrom before log)
    (start : timesWritten bytes before ≤ 2) : timesWritten bytes (before ++ log) ≤ 2 := by
  induction log generalizing before with
  | nil => rwa [List.append_nil]
  | cons call rest ih =>
      rw [show before ++ call :: rest = before ++ [call] ++ rest by rw [List.append_assoc]; rfl]
      refine ih (before ++ [call]) safe.2 ?_
      rw [times_written_append]
      cases call with
      | write sent status =>
          by_cases same : sent = bytes
          · subst same
            have allowed : QueryAllowed before sent := safe.1
            have one : timesWritten sent [.write sent status] ≤ 1 := List.countP_le_length
            rcases allowed.2 with none | ⟨once, _⟩
            · omega
            · omega
          · have none : timesWritten bytes [.write sent status] = 0 := by simp [timesWritten, PlatformCall.writes, same]
            omega
      | openDevice status => exact start
      | close => exact start
      | read n stored status => exact start
      | wait msec status => exact start
      | clock now => exact start

end Libmonome
