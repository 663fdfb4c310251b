import Libmonome.Posix

set_option autoImplicit false

namespace Libmonome

variable {ω : Type}

-- What poll answers: a descriptor with something to say, POLLERR among its
-- events or not, nothing in time, a signal, or an error.
inductive SysPoll where
  | ready (pollerr : Bool)
  | timeout
  | interrupted
  | failed
deriving DecidableEq, Repr

-- monome_platform_wait_for_input of linux.c over the answers poll will give,
-- which time out when there are no more. An interrupted poll is repeated.
def linuxWaitForInput (msec : UInt32) (polls : List SysPoll) : Int32 × List SysPoll :=
  if msec = 0 then (0, polls)
  else
    match polls.dropWhile (· = .interrupted) with
    | [] => (1, [])
    | .timeout :: rest => (1, rest)
    | .ready pollerr :: rest => if pollerr then (-1, rest) else (0, rest)
    | _ :: rest => (-1, rest)

-- The variables of monome_platform_read: the memory buf points into, how far
-- it has moved, what is still asked for, and the count to be returned.
structure ReadVars where
  mem : List UInt8
  buf : Nat
  nbyte : Nat
  ret : Int
deriving DecidableEq, Repr

def ReadVars.stored (vars : ReadVars) (bytes : List UInt8) : ReadVars :=
  { vars with mem := vars.mem.take vars.buf ++ bytes ++ vars.mem.drop (vars.buf + bytes.length) }

def ReadVars.advanced (vars : ReadVars) (bytes : Nat) : ReadVars :=
  { vars with ret := vars.ret + bytes, buf := vars.buf + bytes, nbyte := vars.nbyte - bytes }

-- monome_platform_read of posix.c variable by variable, entered at its start
-- label. A call still running when the reads it may make are used up has no
-- result yet.
def platformRead (T : Tty ω) : (fuel : Nat) → ReadVars → ω → Option ((Int × List UInt8) × ω)
  | 0, _, _ => none
  | fuel + 1, vars, w =>
      match T.read vars.nbyte w with
      | (.again, w) => some ((0, vars.mem), w)
      | (.interrupted, w) => platformRead T fuel vars w
      | (.failed, w) => some ((-1, vars.mem), w)
      | (.got bytes _, w) =>
          let vars := vars.stored bytes
          if bytes.length = 0 then some ((vars.ret, vars.mem), w)
          else
            let vars := vars.advanced bytes.length
            if vars.nbyte = 0 then some ((vars.ret, vars.mem), w)
            else
              let err := T.waitForInput readTimeout w
              if err.1 > 0 then some ((vars.ret, vars.mem), err.2)
              else if err.1 < 0 then some ((-1, vars.mem), err.2)
              else platformRead T fuel vars err.2

-- The counters in step over a buffer with other memory behind it: what has
-- been stored stands at its start, ret counts it, buf points behind it, and
-- nbyte is the room left before the memory beyond.
structure InStep (beyond : List UInt8) (vars : ReadVars) (stored : List UInt8) : Prop where
  mem : ∃ room, vars.mem = stored ++ room ++ beyond ∧ room.length = vars.nbyte
  buf : vars.buf = stored.length
  ret : vars.ret = stored.length

theorem stored_mem (vars : ReadVars) (beyond stored room bytes : List UInt8) (mem : vars.mem = stored ++ room ++ beyond)
    (buf : vars.buf = stored.length) (fits : bytes.length ≤ room.length) :
    (vars.stored bytes).mem = stored ++ bytes ++ (room.drop bytes.length ++ beyond) := by
  simp only [ReadVars.stored, mem, buf, List.append_assoc]
  rw [List.take_left, List.drop_append, List.drop_eq_nil_of_le (Nat.le_add_right _ _), List.nil_append,
    Nat.add_sub_cancel_left, List.drop_append_of_le_length fits]

theorem in_step_stored (beyond : List UInt8) (vars : ReadVars) (stored bytes : List UInt8)
    (inStep : InStep beyond vars stored) (fits : bytes.length ≤ vars.nbyte) :
    InStep beyond ((vars.stored bytes).advanced bytes.length) (stored ++ bytes) := by
  obtain ⟨⟨room, mem, size⟩, buf, count⟩ := inStep
  have longer : (stored ++ bytes).length = stored.length + bytes.length := List.length_append
  have filled := stored_mem vars beyond stored room bytes mem buf (size ▸ fits)
  refine ⟨⟨room.drop bytes.length, ?_, ?_⟩, ?_, ?_⟩
  · rw [List.append_assoc]
    exact filled
  · rw [List.length_drop, size]
    rfl
  · rw [longer, ← buf]
    rfl
  · rw [longer, Nat.cast_add, ← count]
    rfl

theorem stored_nothing (vars : ReadVars) : (vars.stored []).mem = vars.mem := by
  simp only [ReadVars.stored, List.append_nil, List.length_nil, Nat.add_zero]
  exact List.take_append_drop vars.buf vars.mem

def BufferFilled (beyond : List UInt8) (n : Nat) (stored mem : List UInt8) : Prop :=
  ∃ room, mem = stored ++ room ++ beyond ∧ stored.length + room.length = n

theorem in_step_filled (beyond : List UInt8) (vars : ReadVars) (stored : List UInt8) (inStep : InStep beyond vars stored) :
    BufferFilled beyond (stored.length + vars.nbyte) stored vars.mem := by
  obtain ⟨room, mem, size⟩ := inStep.mem
  exact ⟨room, mem, by rw [size]⟩

theorem advanced_total (vars : ReadVars) (stored bytes : List UInt8) (fits : bytes.length ≤ vars.nbyte) :
    (stored ++ bytes).length + ((vars.stored bytes).advanced bytes.length).nbyte = stored.length + vars.nbyte := by
  simp only [ReadVars.advanced, ReadVars.stored, List.length_append]
  omega

theorem platform_read_nothing (T : Tty ω) (fuel : Nat) (vars : ReadVars) (w next : ω) (fits : [].length ≤ vars.nbyte)
    (answer : T.read vars.nbyte w = (.got [] fits, next)) :
    platformRead T (fuel + 1) vars w = some ((vars.ret, vars.mem), next) := by
  rw [platformRead, answer]
  dsimp only
  rw [if_pos List.length_nil, stored_nothing]
  rfl

theorem platform_read_got (T : Tty ω) (fuel : Nat) (vars : ReadVars) (w next : ω) (bytes : List UInt8)
    (fits : bytes.length ≤ vars.nbyte) (answer : T.read vars.nbyte w = (.got bytes fits, next)) (some : bytes ≠ [])
    (vars' : ReadVars) (moved : (vars.stored bytes).advanced bytes.length = vars') :
    platformRead T (fuel + 1) vars w =
      if vars'.nbyte = 0 then .some ((vars'.ret, vars'.mem), next)
      else if (T.waitForInput readTimeout next).1 > 0 then
        .some ((vars'.ret, vars'.mem), (T.waitForInput readTimeout next).2)
      else if (T.waitForInput readTimeout next).1 < 0 then .some ((-1, vars'.mem), (T.waitForInput readTimeout next).2)
      else platformRead T fuel vars' (T.waitForInput readTimeout next).2 := by
  rw [platformRead, answer]
  dsimp only
  rw [if_neg (fun empty => some (List.length_eq_zero_iff.mp empty)), moved]

theorem platform_read_more_fuel (T : Tty ω) (fuel more : Nat) (vars : ReadVars) (w : ω) (result : (Int × List UInt8) × ω)
    (enough : fuel ≤ more) (returned : platformRead T fuel vars w = some result) :
    platformRead T more vars w = some result := by
  induction fuel generalizing more vars w with
  | zero => cases returned
  | succ fuel ih =>
      cases more with
      | zero => exact absurd enough (Nat.not_succ_le_zero fuel)
      | succ more =>
          have less := Nat.le_of_succ_le_succ enough
          rw [platformRead] at returned ⊢
          cases answer : T.read vars.nbyte w with
          | mk got next =>
              rw [answer] at returned
              cases got with
              | again => exact returned
              | interrupted => exact ih more vars next less returned
              | failed => exact returned
              | got bytes fits =>
                  dsimp only at returned ⊢
                  split_ifs at returned ⊢ with none full late broken
                  · exact returned
                  · exact returned
                  · exact returned
                  · exact returned
                  · exact ih more _ _ less returned

-- What read answers: some of the bytes that are there, which none is the answer
-- 0 of, EAGAIN or EWOULDBLOCK, EINTR, or another error.
inductive ReadAnswer where
  | got (bytes : List UInt8)
  | again
  | interrupted
  | failed
deriving DecidableEq, Repr

-- The answers a device will give, and the bytes taken off it so far. A read
-- takes no more than it asks for, and 0 when the answers have run out.
structure Script where
  reads : List ReadAnswer
  polls : List SysPoll
  taken : List UInt8
deriving DecidableEq, Repr

def Script.read (n : Nat) (s : Script) : SysRead n × Script :=
  match s.reads with
  | [] => (.got [] (Nat.zero_le n), s)
  | .again :: rest => (.again, { s with reads := rest })
  | .interrupted :: rest => (.interrupted, { s with reads := rest })
  | .failed :: rest => (.failed, { s with reads := rest })
  | .got bytes :: rest =>
      (.got (bytes.take n) (List.length_take_le n bytes),
        { s with reads := if bytes.length ≤ n then rest else .got (bytes.drop n) :: rest, taken := s.taken ++ bytes.take n })

def scriptTty : Tty Script where
  read := Script.read
  waitForInput msec s := ((linuxWaitForInput msec s.polls).1, { s with polls := (linuxWaitForInput msec s.polls).2 })

def bytesOf : List ReadAnswer → List UInt8
  | [] => []
  | .got bytes :: rest => bytes ++ bytesOf rest
  | _ :: rest => bytesOf rest

def pieces : List ReadAnswer → Nat
  | [] => 0
  | .got _ :: rest => pieces rest + 1
  | _ :: rest => pieces rest

def GoesOn : ReadAnswer → Prop
  | .interrupted => True
  | .got bytes => bytes ≠ []
  | _ => False

def ReadyFor (count : Nat) (polls : List SysPoll) : Prop :=
  (polls.filter (· ≠ .interrupted)).take count = List.replicate count (.ready false)

-- An EAGAIN comes after bytes were taken in the same call, with room left.
def AgainAfter (taken n : Nat) (reads : List ReadAnswer) (polls : List SysPoll) : Prop :=
  ∃ before after, reads = before ++ .again :: after ∧ (∀ answer ∈ before, GoesOn answer) ∧
    (bytesOf before).length < n ∧ 0 < taken + (bytesOf before).length ∧ ReadyFor (pieces before) polls

-- A call accounts for what it takes: it returns, whatever fuel past the script's
-- length it has, stores nothing beyond the buffer, and a count it returns is of
-- bytes taken off the device in the call, in order from the buffer's start.
def ReadAccounted (buffer beyond : List UInt8) (s : Script) : Prop :=
  ∃ r mem s', (∀ fuel, s.reads.length < fuel →
      platformRead scriptTty fuel ⟨buffer ++ beyond, 0, buffer.length, 0⟩ s = some ((r, mem), s')) ∧
    mem.length = (buffer ++ beyond).length ∧ mem.drop buffer.length = beyond ∧
    (0 ≤ r → ∃ bytes, s'.taken = s.taken ++ bytes ∧ (bytes.length : Int) = r ∧ mem.take bytes.length = bytes)

theorem again_after_end (taken n : Nat) (polls : List SysPoll) : ¬ AgainAfter taken n [] polls := by
  intro again
  obtain ⟨before, after, split, _⟩ := again
  exact absurd split (by simp)

theorem again_after_cons (taken n : Nat) (answer : ReadAnswer) (rest : List ReadAnswer) (polls : List SysPoll) :
    AgainAfter taken n (answer :: rest) polls ↔ (answer = .again ∧ 0 < n ∧ 0 < taken) ∨
      (GoesOn answer ∧ ∃ before after, rest = before ++ .again :: after ∧ (∀ answer ∈ before, GoesOn answer) ∧
        (bytesOf (answer :: before)).length < n ∧ 0 < taken + (bytesOf (answer :: before)).length ∧
          ReadyFor (pieces (answer :: before)) polls) := by
  constructor
  · intro again
    obtain ⟨before, after, split, goes, fits, some, waits⟩ := again
    cases before with
    | nil => exact .inl ⟨(List.cons.inj split).1, fits, some⟩
    | cons first before =>
        obtain ⟨same, tail⟩ := List.cons.inj split
        subst same
        exact .inr ⟨goes answer List.mem_cons_self, before, after, tail,
          fun later member => goes later (List.mem_cons_of_mem answer member), fits, some, waits⟩
  · intro cases
    cases cases with
    | inl first =>
        obtain ⟨same, fits, some⟩ := first
        exact ⟨[], rest, by rw [same]; rfl, by simp, fits, some, rfl⟩
    | inr later =>
        obtain ⟨first, before, after, split, goes, fits, some, waits⟩ := later
        exact ⟨answer :: before, after, by rw [split]; rfl, List.forall_mem_cons.mpr ⟨first, goes⟩, fits, some, waits⟩

theorem again_after_stopped (taken n : Nat) (answer : ReadAnswer) (rest : List ReadAnswer) (polls : List SysPoll)
    (stops : ¬ GoesOn answer) (other : answer ≠ .again) : ¬ AgainAfter taken n (answer :: rest) polls := by
  rw [again_after_cons]
  intro cases
  cases cases with
  | inl first => exact other first.1
  | inr later => exact stops later.1

theorem again_after_again (taken n : Nat) (rest : List ReadAnswer) (polls : List SysPoll) (room : 0 < taken → 0 < n) :
    AgainAfter taken n (.again :: rest) polls ↔ 0 < taken := by
  rw [again_after_cons]
  constructor
  · intro cases
    cases cases with
    | inl first => exact first.2.2
    | inr later => exact later.1.elim
  · intro some
    exact .inl ⟨rfl, room some, some⟩

theorem again_after_interrupted (taken n : Nat) (rest : List ReadAnswer) (polls : List SysPoll) :
    AgainAfter taken n (.interrupted :: rest) polls ↔ AgainAfter taken n rest polls := by
  rw [again_after_cons]
  constructor
  · intro cases
    cases cases with
    | inl first => cases first.1
    | inr later => exact later.2
  · intro again
    exact .inr ⟨trivial, again⟩

theorem ready_for_succ (count : Nat) (polls : List SysPoll) :
    ReadyFor (count + 1) polls ↔
      ∃ later, polls.dropWhile (· = .interrupted) = .ready false :: later ∧ ReadyFor count later := by
  induction polls with
  | nil => simp [ReadyFor, List.replicate_succ]
  | cons first polls ih =>
      by_cases signal : first = .interrupted
      · subst signal
        exact ih
      · rw [ReadyFor, List.filter_cons_of_pos (by simpa using signal), List.dropWhile_cons_of_neg (by simpa using signal),
          List.take_succ_cons, List.replicate_succ, List.cons.injEq]
        constructor
        · intro ready
          exact ⟨polls, by rw [ready.1], ready.2⟩
        · intro ready
          obtain ⟨later, split, more⟩ := ready
          obtain ⟨same, rest⟩ := List.cons.inj split
          subst rest
          exact ⟨same, more⟩

theorem again_after_got (taken n : Nat) (bytes : List UInt8) (rest : List ReadAnswer) (polls : List SysPoll)
    (some : bytes ≠ []) :
    AgainAfter taken n (.got bytes :: rest) polls ↔
      ∃ later, polls.dropWhile (· = .interrupted) = .ready false :: later ∧
        AgainAfter (taken + bytes.length) (n - bytes.length) rest later := by
  rw [again_after_cons]
  have positive : 0 < bytes.length := List.length_pos_iff.mpr some
  constructor
  · intro cases
    cases cases with
    | inl first => cases first.1
    | inr later =>
        obtain ⟨_, before, after, split, goes, fits, _, waits⟩ := later
        obtain ⟨rest', ready, waits⟩ := (ready_for_succ (pieces before) polls).mp waits
        rw [bytesOf, List.length_append] at fits
        exact ⟨rest', ready, before, after, split, goes, by omega, by omega, waits⟩
  · intro again
    obtain ⟨later, ready, before, after, split, goes, fits, _, waits⟩ := again
    refine .inr ⟨some, before, after, split, goes, ?_, ?_, (ready_for_succ (pieces before) polls).mpr ⟨later, ready, waits⟩⟩
    · rw [bytesOf, List.length_append]
      omega
    · rw [bytesOf, List.length_append]
      omega

theorem again_after_no_room (taken : Nat) (reads : List ReadAnswer) (polls : List SysPoll) :
    ¬ AgainAfter taken 0 reads polls := by
  intro again
  obtain ⟨before, after, _, _, fits, _⟩ := again
  exact Nat.not_lt_zero _ fits

theorem again_after_nothing (taken n : Nat) (bytes : List UInt8) (rest : List ReadAnswer) (polls : List SysPoll)
    (nothing : bytes.take n = []) : ¬ AgainAfter taken n (.got bytes :: rest) polls := by
  cases List.take_eq_nil_iff.mp nothing with
  | inl noRoom =>
      rw [noRoom]
      exact again_after_no_room taken _ polls
  | inr empty => exact again_after_stopped taken n (.got bytes) rest polls (fun goes => goes empty) (by simp)

theorem linux_wait_cases (polls : List SysPoll) :
    (∃ later, polls.dropWhile (· = .interrupted) = .ready false :: later ∧
        linuxWaitForInput readTimeout polls = (0, later)) ∨
      ((∀ later, polls.dropWhile (· = .interrupted) ≠ .ready false :: later) ∧
        ((linuxWaitForInput readTimeout polls).1 = 1 ∨ (linuxWaitForInput readTimeout polls).1 = -1)) := by
  have positive : readTimeout ≠ 0 := by decide
  rw [linuxWaitForInput, if_neg positive]
  cases polls.dropWhile (· = .interrupted) with
  | nil => exact .inr ⟨by simp, .inl rfl⟩
  | cons first later =>
      cases first with
      | timeout => exact .inr ⟨by simp, .inl rfl⟩
      | interrupted => exact .inr ⟨by simp, .inr rfl⟩
      | failed => exact .inr ⟨by simp, .inr rfl⟩
      | ready pollerr =>
          cases pollerr with
          | false => exact .inl ⟨later, rfl, rfl⟩
          | true => exact .inr ⟨by simp, .inr rfl⟩

theorem again_later (polls later : List SysPoll) (Rest : List SysPoll → Prop)
    (ready : polls.dropWhile (· = .interrupted) = .ready false :: later)
    (after : ∃ later, polls.dropWhile (· = .interrupted) = .ready false :: later ∧ Rest later) : Rest later := by
  obtain ⟨other, first, rest⟩ := after
  rw [ready] at first
  rw [(List.cons.inj first).2]
  exact rest

-- How a call ends that has stored some bytes already: the count is of all the
-- bytes it took, unless it lost them to an EAGAIN.
def EndsCounted (beyond : List UInt8) (fuel : Nat) (vars : ReadVars) (stored : List UInt8) (s : Script) : Prop :=
  ∃ r mem s' more, platformRead scriptTty fuel vars s = some ((r, mem), s') ∧ s'.taken = s.taken ++ more ∧
    BufferFilled beyond (stored.length + vars.nbyte) (stored ++ more) mem ∧
      (r < 0 ∨ r = (stored ++ more).length ↔ ¬ AgainAfter stored.length vars.nbyte s.reads s.polls)

theorem ends_counted_nothing (beyond : List UInt8) (fuel : Nat) (vars : ReadVars) (stored : List UInt8) (s next : Script)
    (fits : [].length ≤ vars.nbyte) (inStep : InStep beyond vars stored)
    (answer : s.read vars.nbyte = (.got [] fits, next)) (same : next.taken = s.taken)
    (never : ¬ AgainAfter stored.length vars.nbyte s.reads s.polls) : EndsCounted beyond (fuel + 1) vars stored s := by
  refine ⟨vars.ret, vars.mem, next, [], platform_read_nothing scriptTty fuel vars s next fits answer, ?_, ?_, ?_⟩
  · rw [same, List.append_nil]
  · rw [List.append_nil]
    exact in_step_filled beyond vars stored inStep
  · rw [List.append_nil]
    exact iff_of_true (.inr inStep.ret) never

theorem ends_counted_full (beyond : List UInt8) (fuel : Nat) (vars : ReadVars) (stored bytes : List UInt8)
    (rest : List ReadAnswer) (polls : List SysPoll) (taken : List UInt8) (inStep : InStep beyond vars stored)
    (some : bytes.take vars.nbyte ≠ []) (full : vars.nbyte ≤ bytes.length) :
    EndsCounted beyond (fuel + 1) vars stored ⟨.got bytes :: rest, polls, taken⟩ := by
  have fits : (bytes.take vars.nbyte).length ≤ vars.nbyte := List.length_take_le _ _
  have size : (bytes.take vars.nbyte).length = vars.nbyte := by rw [List.length_take, Nat.min_eq_left full]
  have onward := in_step_stored beyond vars stored (bytes.take vars.nbyte) inStep fits
  have total := advanced_total vars stored (bytes.take vars.nbyte) fits
  have step := platform_read_got scriptTty fuel vars ⟨.got bytes :: rest, polls, taken⟩ _ (bytes.take vars.nbyte) fits rfl
    some _ rfl
  have spent : ((vars.stored (bytes.take vars.nbyte)).advanced (bytes.take vars.nbyte).length).nbyte = 0 := by
    simp only [ReadVars.advanced, ReadVars.stored, size, Nat.sub_self]
  rw [if_pos spent] at step
  refine ⟨_, _, _, bytes.take vars.nbyte, step, rfl, ?_, ?_⟩
  · rw [← total]
    exact in_step_filled beyond _ _ onward
  · refine iff_of_true (.inr onward.ret) ?_
    intro again
    rw [again_after_got _ _ bytes rest polls (fun none => some (by rw [none, List.take_nil]))] at again
    obtain ⟨later, _, again⟩ := again
    rw [Nat.sub_eq_zero_of_le full] at again
    exact again_after_no_room _ rest later again

theorem ends_counted_part (beyond : List UInt8) (fuel : Nat) (vars : ReadVars) (stored bytes : List UInt8)
    (rest : List ReadAnswer) (polls : List SysPoll) (taken : List UInt8) (inStep : InStep beyond vars stored)
    (some : bytes ≠ []) (part : bytes.length < vars.nbyte)
    (next : ∀ vars' later, InStep beyond vars' (stored ++ bytes) → 0 < vars'.nbyte →
      EndsCounted beyond fuel vars' (stored ++ bytes) ⟨rest, later, taken ++ bytes⟩) :
    EndsCounted beyond (fuel + 1) vars stored ⟨.got bytes :: rest, polls, taken⟩ := by
  have fits := Nat.le_of_lt part
  have answer : scriptTty.read vars.nbyte ⟨.got bytes :: rest, polls, taken⟩ =
      (.got bytes fits, ⟨rest, polls, taken ++ bytes⟩) := by
    simp only [scriptTty, Script.read, List.take_of_length_le fits, if_pos fits]
  have onward := in_step_stored beyond vars stored bytes inStep fits
  have total := advanced_total vars stored bytes fits
  have left : ((vars.stored bytes).advanced bytes.length).nbyte = vars.nbyte - bytes.length := rfl
  have step := platform_read_got scriptTty fuel vars _ _ bytes fits answer some _ rfl
  generalize (vars.stored bytes).advanced bytes.length = vars' at onward total left step
  have room : 0 < vars'.nbyte := by omega
  rw [if_neg (Nat.ne_of_gt room)] at step
  have filled := in_step_filled beyond vars' (stored ++ bytes) onward
  rw [total] at filled
  have again := again_after_got stored.length vars.nbyte bytes rest polls some
  cases linux_wait_cases polls with
  | inl goes =>
      obtain ⟨later, ready, waited⟩ := goes
      have wait : scriptTty.waitForInput readTimeout ⟨rest, polls, taken ++ bytes⟩ = (0, ⟨rest, later, taken ++ bytes⟩) := by
        simp only [scriptTty, waited]
      rw [wait] at step
      obtain ⟨r, mem, s', more, returned, took, ended, counted⟩ := next vars' later onward room
      refine ⟨r, mem, s', bytes ++ more, step.trans returned, ?_, ?_, ?_⟩
      · rw [took, List.append_assoc]
      · rw [← total, ← List.append_assoc]
        exact ended
      · rw [← List.append_assoc, counted, List.length_append, left, again]
        exact not_congr ⟨fun after => ⟨later, ready, after⟩, fun after => again_later polls later _ ready after⟩
  | inr stops =>
      obtain ⟨notReady, waited⟩ := stops
      have never : ¬ AgainAfter stored.length vars.nbyte (.got bytes :: rest) polls := by
        rw [again]
        intro after
        obtain ⟨later, ready, _⟩ := after
        exact notReady later ready
      cases waited with
      | inl late =>
          have status : (scriptTty.waitForInput readTimeout ⟨rest, polls, taken ++ bytes⟩).1 = 1 := late
          rw [status, if_pos (by decide)] at step
          exact ⟨_, _, _, bytes, step, rfl, filled, iff_of_true (.inr onward.ret) never⟩
      | inr broken =>
          have status : (scriptTty.waitForInput readTimeout ⟨rest, polls, taken ++ bytes⟩).1 = -1 := broken
          rw [status, if_neg (by decide), if_pos (by decide)] at step
          exact ⟨_, _, _, bytes, step, rfl, filled, iff_of_true (.inl (by decide)) never⟩

theorem script_read_returns (beyond : List UInt8) (fuel : Nat) (vars : ReadVars) (stored : List UInt8) (s : Script)
    (inStep : InStep beyond vars stored) (room : 0 < stored.length → 0 < vars.nbyte) (enough : s.reads.length < fuel) :
    EndsCounted beyond fuel vars stored s := by
  induction fuel generalizing vars stored s with
  | zero => exact absurd enough (Nat.not_lt_zero _)
  | succ fuel ih =>
      have same : stored ++ [] = stored := List.append_nil stored
      have filled : BufferFilled beyond (stored.length + vars.nbyte) (stored ++ []) vars.mem := by
        rw [same]
        exact in_step_filled beyond vars stored inStep
      obtain ⟨reads, polls, taken⟩ := s
      cases reads with
      | nil =>
          exact ends_counted_nothing beyond fuel vars stored _ _ (Nat.zero_le _) inStep rfl rfl
            (again_after_end _ _ polls)
      | cons answer rest =>
          have less := Nat.lt_of_succ_lt_succ enough
          cases answer with
          | again =>
              refine ⟨0, vars.mem, ⟨rest, polls, taken⟩, [], rfl, (List.append_nil taken).symm, filled, ?_⟩
              rw [same, again_after_again _ _ rest polls room]
              omega
          | failed =>
              refine ⟨-1, vars.mem, ⟨rest, polls, taken⟩, [], rfl, (List.append_nil taken).symm, filled, ?_⟩
              exact iff_of_true (.inl (by decide)) (again_after_stopped _ _ _ rest polls id (by simp))
          | interrupted =>
              have rest := ih vars stored ⟨rest, polls, taken⟩ inStep room less
              rw [EndsCounted, ← again_after_interrupted] at rest
              exact rest
          | got bytes =>
              by_cases none : bytes.take vars.nbyte = []
              · have answer : scriptTty.read vars.nbyte ⟨.got bytes :: rest, polls, taken⟩ = (.got [] (Nat.zero_le _),
                    ⟨if bytes.length ≤ vars.nbyte then rest else .got (bytes.drop vars.nbyte) :: rest, polls, taken⟩) := by
                  simp only [scriptTty, Script.read, none, List.append_nil]
                exact ends_counted_nothing beyond fuel vars stored _ _ (Nat.zero_le _) inStep answer rfl
                  (again_after_nothing _ _ bytes rest polls none)
              · by_cases full : vars.nbyte ≤ bytes.length
                · exact ends_counted_full beyond fuel vars stored bytes rest polls taken inStep none full
                · refine ends_counted_part beyond fuel vars stored bytes rest polls taken inStep ?_ (Nat.lt_of_not_le full) ?_
                  · intro empty
                    rw [empty, List.take_nil] at none
                    exact none rfl
                  · intro vars' later onward left
                    exact ih vars' (stored ++ bytes) ⟨rest, later, taken ++ bytes⟩ onward (fun _ => left) less

theorem read_accounted_iff (buffer beyond : List UInt8) (s : Script) :
    ReadAccounted buffer beyond s ↔ ¬ AgainAfter 0 buffer.length s.reads s.polls := by
  have start : InStep beyond ⟨buffer ++ beyond, 0, buffer.length, 0⟩ [] := ⟨⟨buffer, rfl, rfl⟩, rfl, rfl⟩
  obtain ⟨r, mem, s', bytes, returned, took, ⟨room, whole, size⟩, counted⟩ :=
    script_read_returns beyond (s.reads.length + 1) _ [] s start (fun some => absurd some (Nat.lt_irrefl 0))
      (Nat.lt_succ_self _)
  simp only [List.nil_append, List.length_nil, Nat.zero_add] at whole size counted
  rw [← counted]
  constructor
  · intro accounted
    obtain ⟨r', mem', last, always, _, _, accounts⟩ := accounted
    have same := (always (s.reads.length + 1) (Nat.lt_succ_self _)).symm.trans returned
    cases same
    by_cases broken : r < 0
    · exact .inl broken
    · obtain ⟨bytes', took', count, _⟩ := accounts (not_lt.mp broken)
      rw [took] at took'
      rw [← List.append_cancel_left took'] at count
      exact .inr count.symm
  · intro exact
    refine ⟨r, mem, s', ?_, ?_, ?_, ?_⟩
    · intro fuel enough
      exact platform_read_more_fuel scriptTty _ fuel _ s _ enough returned
    · rw [whole]
      simp only [List.length_append, size]
    · rw [whole, ← size, ← List.length_append]
      exact List.drop_left
    · intro counts
      refine ⟨bytes, took, (exact.resolve_left (not_lt.mpr counts)).symm, ?_⟩
      rw [whole, List.append_assoc]
      exact List.take_left

theorem read_loses_byte : ¬ ReadAccounted [0, 0] [] ⟨[.got [7], .again], [.ready false], []⟩ := by
  intro accounted
  obtain ⟨r, mem, s', always, _, _, accounts⟩ := accounted
  have returned : platformRead scriptTty 3 ⟨[0, 0], 0, 2, 0⟩ ⟨[.got [7], .again], [.ready false], []⟩ =
      some ((0, [7, 0]), ⟨[], [], [7]⟩) := by decide
  have same := (always 3 (by decide)).symm.trans returned
  cases same
  obtain ⟨bytes, took, count, _⟩ := accounts (by decide)
  rw [List.nil_append] at took
  rw [← took] at count
  exact absurd count (by decide)

end Libmonome
