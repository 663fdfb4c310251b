import Libmonome.Platform

set_option autoImplicit false

namespace Libmonome

variable {ω : Type}

inductive Took (P : Platform ω) : ω → PlatformCall → ω → Prop where
  | openDevice (m : MonomeDevmap) (dev : String) (w : ω) :
      Took P w (.openDevice (P.openDevice m dev w).1) (P.openDevice m dev w).2
  | close (w : ω) : Took P w .close (P.close w).2
  | write (bytes : List UInt8) (w : ω) : Took P w (.write bytes (P.write bytes w).1) (P.write bytes w).2
  | read (n : Nat) (w : ω) : Took P w (.read n (P.read n w).1.stored (P.read n w).1.status) (P.read n w).2
  | wait (msec : UInt32) (w : ω) : Took P w (.wait msec (P.waitForInput msec w).1) (P.waitForInput msec w).2
  | clock (w : ω) : Took P w (.clock (P.monotonicMilliseconds w).1) (P.monotonicMilliseconds w).2

inductive Path (P : Platform ω) : ω → List PlatformCall → ω → Prop where
  | none (w : ω) : Path P w [] w
  | more (w between last : ω) (call : PlatformCall) (calls : List PlatformCall) (took : Took P w call between)
      (on : Path P between calls last) : Path P w (call :: calls) last

theorem path_one (P : Platform ω) (w last : ω) (call : PlatformCall) (took : Took P w call last) : Path P w [call] last :=
  .more w last last call [] took (.none last)

theorem path_append (P : Platform ω) (w between last : ω) (calls more : List PlatformCall) (first : Path P w calls between)
    (second : Path P between more last) : Path P w (calls ++ more) last := by
  induction first with
  | none w => exact second
  | more w next between call calls took on ih => exact .more w next last call (calls ++ more) took (ih second)

def clockAt (P : Platform ω) (w : ω) : UInt64 := (P.monotonicMilliseconds w).1

def NonDecreasing (P : Platform ω) : Prop := ∀ w call last, Took P w call last → clockAt P w ≤ clockAt P last

def stamped (P : Platform ω) : Platform (ω × List UInt64) where
  openDevice m dev s := ((P.openDevice m dev s.1).1, (P.openDevice m dev s.1).2,
    s.2 ++ [clockAt P (P.openDevice m dev s.1).2])
  close s := ((P.close s.1).1, (P.close s.1).2, s.2 ++ [clockAt P (P.close s.1).2])
  write bytes s := ((P.write bytes s.1).1, (P.write bytes s.1).2, s.2 ++ [clockAt P (P.write bytes s.1).2])
  read n s := ((P.read n s.1).1, (P.read n s.1).2, s.2 ++ [clockAt P (P.read n s.1).2])
  waitForInput msec s := ((P.waitForInput msec s.1).1, (P.waitForInput msec s.1).2,
    s.2 ++ [clockAt P (P.waitForInput msec s.1).2])
  monotonicMilliseconds s := ((P.monotonicMilliseconds s.1).1, (P.monotonicMilliseconds s.1).2,
    s.2 ++ [clockAt P (P.monotonicMilliseconds s.1).2])

theorem stamped_took (P : Platform ω) (s last : ω × List UInt64) (call : PlatformCall) (took : Took (stamped P) s call last) :
    Took P s.1 call last.1 ∧ last.2 = s.2 ++ [clockAt P last.1] := by
  cases took with
  | openDevice m dev => exact ⟨.openDevice m dev s.1, rfl⟩
  | close => exact ⟨.close s.1, rfl⟩
  | write bytes => exact ⟨.write bytes s.1, rfl⟩
  | read n => exact ⟨.read n s.1, rfl⟩
  | wait msec => exact ⟨.wait msec s.1, rfl⟩
  | clock => exact ⟨.clock s.1, rfl⟩

structure Timed (P : Platform ω) (s : ω × List UInt64) (log : List PlatformCall) : Prop where
  paired : s.2.length = log.length
  past : ∀ stamp ∈ s.2, stamp ≤ clockAt P s.1

theorem timed_path (P : Platform ω) (monotone : NonDecreasing P) (s last : ω × List UInt64) (log calls : List PlatformCall)
    (timed : Timed P s log) (path : Path (stamped P) s calls last) :
    Timed P last (log ++ calls) ∧ ∃ stamps, last.2 = s.2 ++ stamps ∧ stamps.length = calls.length := by
  induction path generalizing log with
  | none s => exact ⟨by rwa [List.append_nil], [], (List.append_nil _).symm, rfl⟩
  | more s between last call calls took on ih =>
      obtain ⟨step, stamp⟩ := stamped_took P s between call took
      have onward := monotone s.1 call between.1 step
      have next : Timed P between (log ++ [call]) := by
        refine ⟨?_, fun t member => ?_⟩
        · rw [stamp, List.length_append, List.length_append, timed.paired]
          rfl
        · rw [stamp] at member
          rcases List.mem_append.mp member with before | last
          · exact UInt64.le_trans (timed.past t before) onward
          · rw [List.mem_singleton.mp last]
            exact UInt64.le_refl _
      obtain ⟨after, stamps, grown, same⟩ := ih (log ++ [call]) next
      refine ⟨by rwa [List.append_assoc] at after, clockAt P between.1 :: stamps, ?_, ?_⟩
      · rw [grown, stamp, List.append_assoc]
        rfl
      · rw [List.length_cons, List.length_cons, same]

def callsBefore (deadline : UInt64) (stamps : List UInt64) (log : List PlatformCall) : List PlatformCall :=
  log.take (stamps.takeWhile fun stamp => stamp < deadline).length

section Before

variable (deadline : UInt64) (stamps more : List UInt64) (log calls : List PlatformCall)
  (paired : stamps.length = log.length)
include paired

theorem calls_before_all (early : ∀ stamp ∈ stamps, stamp < deadline) :
    callsBefore deadline (stamps ++ more) (log ++ calls) = log ++ callsBefore deadline more calls := by
  rw [callsBefore, List.takeWhile_append_of_pos (by simpa using early), List.length_append, paired,
    List.take_length_add_append, callsBefore]

theorem calls_before_passed (late : ∃ stamp ∈ stamps, ¬ stamp < deadline) :
    callsBefore deadline (stamps ++ more) (log ++ calls) = callsBefore deadline stamps log := by
  have short : ¬ (stamps.takeWhile fun stamp => stamp < deadline).length = stamps.length := by
    intro whole
    obtain ⟨stamp, member, passed⟩ := late
    have all := (List.takeWhile_prefix fun stamp => decide (stamp < deadline)).eq_of_length whole
    rw [← all] at member
    exact passed (by simpa using List.mem_takeWhile_imp member)
  rw [callsBefore, List.takeWhile_append, if_neg short, callsBefore]
  exact List.take_append_of_le_length (paired ▸ (List.takeWhile_prefix _).length_le)

end Before

end Libmonome
