import Libmonome.Types

set_option autoImplicit false

namespace Libmonome

variable {ω α β : Type}

-- What one monome_platform_read(monome, buf, n) leaves behind: its status and
-- the bytes it stored from the start of buf. It never stores past the buffer
-- and never counts a byte it did not store.
structure ReadOutcome (n : Nat) where
  status : Int64
  stored : List UInt8
  fits : stored.length ≤ n
  counted : status.toInt ≤ stored.length

theorem nothing_counted : (0 : Int64).toInt ≤ (([] : List UInt8).length : Int) := Int.le_refl 0

-- The functions of platform.h the backends call, over any environment state.
-- An environment is free to answer as it likes and to remember every call.
structure Platform (ω : Type) where
  openDevice : MonomeDevmap → String → ω → Int32 × ω
  close : ω → Int32 × ω
  write : List UInt8 → ω → Int64 × ω
  read : (n : Nat) → ω → ReadOutcome n × ω
  waitForInput : UInt32 → ω → Int32 × ω
  monotonicMilliseconds : ω → UInt64 × ω

-- A computation on an environment that may run into undefined behaviour.
abbrev Io (ω α : Type) := StateT ω (Except Fault) α

def Io.call (f : ω → α × ω) : Io ω α := fun w => .ok (f w)

def Io.check (result : Except Fault α) : Io ω α := fun w => result.map fun a => (a, w)

theorem io_bind (x : Io ω α) (f : α → Io ω β) (w : ω) :
    (x >>= f) w = match x w with
      | .error fault => .error fault
      | .ok (a, next) => f a next := by
  cases run : x w <;> simp [bind, StateT.bind, Except.bind, run]

theorem io_bind_ok (x : Io ω α) (f : α → Io ω β) (w next : ω) (a : α) (run : x w = .ok (a, next)) :
    (x >>= f) w = f a next := by
  rw [io_bind, run]

theorem io_call_bind (f : ω → α × ω) (g : α → Io ω β) (w : ω) : (Io.call f >>= g) w = g (f w).1 (f w).2 := rfl

theorem io_check_bind (a : α) (f : α → Io ω β) (w : ω) : (Io.check (.ok a) >>= f) w = f a w := rfl

theorem io_bind_inv (x : Io ω α) (f : α → Io ω β) (w last : ω) (b : β) (run : (x >>= f) w = .ok (b, last)) :
    ∃ a next, x w = .ok (a, next) ∧ f a next = .ok (b, last) := by
  rw [io_bind] at run
  cases first : x w with
  | error fault => simp [first] at run
  | ok pair =>
      obtain ⟨a, next⟩ := pair
      rw [first] at run
      exact ⟨a, next, rfl, run⟩

-- What a next_event call leaves: its status, the object and the event record.
-- A call that a bound on its loop cut off has no status yet.
structure NextEvent (σ : Type) where
  status : Option Int32
  self : σ
  event : MonomeEvent
deriving Repr

-- The serial line as two ends see it: bytes waiting to be read, and the writes
-- made, each taken whole. A read takes what it asks for or what there is.
structure Link where
  incoming : List UInt8
  sent : List (List UInt8)
deriving DecidableEq, Repr

theorem count_of_length (n : Nat) : (Int64.ofNat n).toInt ≤ n := by
  rw [Int64.toInt_ofNat', Int.bmod]
  simp only [Int64.size]
  split <;> omega

def link : Platform Link where
  openDevice _ _ s := (0, s)
  close s := (0, s)
  write bytes s := (Int64.ofNat bytes.length, { s with sent := s.sent ++ [bytes] })
  read n s := (⟨Int64.ofNat (s.incoming.take n).length, s.incoming.take n, List.length_take_le n s.incoming,
    count_of_length _⟩, { s with incoming := s.incoming.drop n })
  waitForInput _ s := (if s.incoming.isEmpty then 1 else 0, s)
  monotonicMilliseconds s := (0, s)

inductive PlatformCall where
  | openDevice (status : Int32)
  | close
  | write (bytes : List UInt8) (status : Int64)
  | read (n : Nat) (stored : List UInt8) (status : Int64)
  | wait (msec : UInt32) (status : Int32)
  | clock (now : UInt64)
deriving DecidableEq, Repr

def logged (P : Platform ω) : Platform (ω × List PlatformCall) where
  openDevice m dev s := ((P.openDevice m dev s.1).1, (P.openDevice m dev s.1).2,
    s.2 ++ [.openDevice (P.openDevice m dev s.1).1])
  close s := ((P.close s.1).1, (P.close s.1).2, s.2 ++ [.close])
  write bytes s := ((P.write bytes s.1).1, (P.write bytes s.1).2, s.2 ++ [.write bytes (P.write bytes s.1).1])
  read n s := ((P.read n s.1).1, (P.read n s.1).2,
    s.2 ++ [.read n (P.read n s.1).1.stored (P.read n s.1).1.status])
  waitForInput msec s := ((P.waitForInput msec s.1).1, (P.waitForInput msec s.1).2,
    s.2 ++ [.wait msec (P.waitForInput msec s.1).1])
  monotonicMilliseconds s := ((P.monotonicMilliseconds s.1).1, (P.monotonicMilliseconds s.1).2,
    s.2 ++ [.clock (P.monotonicMilliseconds s.1).1])

end Libmonome
