import Libmonome.Feed

set_option autoImplicit false

namespace Libmonome

variable {ω : Type}

-- The two system calls under monome_platform_read: read on the nonblocking
-- line, and the wait for input.
inductive SysRead (n : Nat) where
  | got (bytes : List UInt8) (fits : bytes.length ≤ n)
  | again
  | interrupted
  | failed

structure Tty (ω : Type) where
  read : (n : Nat) → ω → SysRead n × ω
  waitForInput : UInt32 → ω → Int32 × ω

def readTimeout : UInt32 := 25

-- monome_platform_read of posix.c, entered at its start label. The fuel is the
-- number of reads it may still make, the interrupted ones included.
def posixRead (T : Tty ω) : (fuel n : Nat) → (ret : List UInt8) → ω → (Int64 × List UInt8) × ω
  | 0, _, ret, w => ((Int64.ofNat ret.length, ret), w)
  | fuel + 1, n, ret, w =>
      match T.read n w with
      | (.again, w) => ((0, ret), w)
      | (.interrupted, w) => posixRead T fuel n ret w
      | (.failed, w) => ((-1, ret), w)
      | (.got bytes _, w) =>
          if bytes = [] then ((Int64.ofNat ret.length, ret), w)
          else if n - bytes.length = 0 then ((Int64.ofNat (ret ++ bytes).length, ret ++ bytes), w)
          else
            let err := T.waitForInput readTimeout w
            if err.1 > 0 then ((Int64.ofNat (ret ++ bytes).length, ret ++ bytes), err.2)
            else if err.1 < 0 then ((-1, ret ++ bytes), err.2)
            else posixRead T fuel (n - bytes.length) (ret ++ bytes) err.2

theorem posix_read_fits (T : Tty ω) (fuel n : Nat) (ret : List UInt8) (w : ω) :
    (posixRead T fuel n ret w).1.2.length ≤ ret.length + n ∧
      (posixRead T fuel n ret w).1.1.toInt ≤ (posixRead T fuel n ret w).1.2.length := by
  induction fuel generalizing n ret w with
  | zero => exact ⟨Nat.le_add_right _ _, count_of_length _⟩
  | succ fuel ih =>
      rw [posixRead]
      cases T.read n w with
      | mk got next =>
          cases got with
          | again => exact ⟨Nat.le_add_right _ _, Int.natCast_nonneg _⟩
          | interrupted => exact ih n ret next
          | failed => exact ⟨Nat.le_add_right _ _, le_trans (show (-1 : Int64).toInt ≤ 0 by decide) (Int.natCast_nonneg _)⟩
          | got bytes fits =>
              have longer : (ret ++ bytes).length ≤ ret.length + n := by
                rw [List.length_append]
                omega
              dsimp only
              split
              · exact ⟨Nat.le_add_right _ _, count_of_length _⟩
              · split
                · exact ⟨longer, count_of_length _⟩
                · split
                  · exact ⟨longer, count_of_length _⟩
                  · split
                    · exact ⟨longer, le_trans (show (-1 : Int64).toInt ≤ 0 by decide) (Int.natCast_nonneg _)⟩
                    · have rest := ih (n - bytes.length) (ret ++ bytes) (T.waitForInput readTimeout next).2
                      refine ⟨le_trans rest.1 ?_, rest.2⟩
                      rw [List.length_append]
                      omega

-- What a line brings, in time order: a byte, a signal, a moment in which the
-- next byte is late but comes within a wait, and one that outlasts the wait.
inductive Arrival where
  | byte (b : UInt8)
  | interrupt
  | late
  | silence
deriving DecidableEq, Repr

def ready : List Arrival → List UInt8
  | .byte b :: rest => b :: ready rest
  | _ => []

def lineRead (n : Nat) : List Arrival → SysRead n × List Arrival
  | [] => (.again, [])
  | .interrupt :: rest => (.interrupted, rest)
  | .late :: rest => (.again, rest)
  | .silence :: rest => (.again, rest)
  | .byte b :: rest => (.got ((ready (.byte b :: rest)).take n) (List.length_take_le _ _),
      (Arrival.byte b :: rest).drop ((ready (.byte b :: rest)).take n).length)

-- poll restarts after a signal.
def lineWait : List Arrival → Int32 × List Arrival
  | [] => (1, [])
  | .interrupt :: rest => lineWait rest
  | .late :: rest => lineWait rest
  | .silence :: rest => (1, rest)
  | .byte b :: rest => (0, .byte b :: rest)

def tty : Tty (List Arrival) where
  read := lineRead
  waitForInput _ := lineWait

-- The line as the backends see it. One read of the system call takes at least
-- one entry off the line, so the fuel never runs out.
def scripted : Platform (List Arrival) where
  openDevice _ _ line := (0, line)
  close line := (0, line)
  write bytes line := (Int64.ofNat bytes.length, line)
  read n line :=
    let r := posixRead tty (line.length + 1) n [] line
    (⟨r.1.1, r.1.2, by simpa using (posix_read_fits tty (line.length + 1) n [] line).1,
      (posix_read_fits tty (line.length + 1) n [] line).2⟩, r.2)
  waitForInput _ := lineWait
  monotonicMilliseconds line := (0, line)

inductive Flow : List UInt8 → List Arrival → Prop where
  | done : Flow [] []
  | byte (b : UInt8) (bytes : List UInt8) (part : List Arrival) (on : Flow bytes part) :
      Flow (b :: bytes) (.byte b :: part)
  | interrupt (b : UInt8) (bytes : List UInt8) (part : List Arrival) (on : Flow (b :: bytes) part) :
      Flow (b :: bytes) (.interrupt :: part)
  | late (b : UInt8) (bytes : List UInt8) (part : List Arrival) (on : Flow (b :: bytes) part) :
      Flow (b :: bytes) (.late :: part)

theorem flow_empty (part : List Arrival) (flow : Flow [] part) : part = [] := by
  cases flow
  rfl

theorem flow_ready (bytes : List UInt8) (part rest : List Arrival) (flow : Flow bytes part) :
    ∃ taken left part', (ready (part ++ rest)).take bytes.length = taken ∧ bytes = taken ++ left ∧ Flow left part' ∧
      (part ++ rest).drop taken.length = part' ++ rest ∧ part'.length + taken.length = part.length := by
  induction flow with
  | done => exact ⟨[], [], [], rfl, rfl, .done, rfl, rfl⟩
  | byte b bytes part on ih =>
      obtain ⟨taken, left, part', took, split, flow, after, size⟩ := ih
      refine ⟨b :: taken, left, part', ?_, by rw [split]; rfl, flow, after, by simp only [List.length_cons]; omega⟩
      show b :: (ready (part ++ rest)).take bytes.length = b :: taken
      rw [took]
  | interrupt b bytes part on ih =>
      exact ⟨[], b :: bytes, .interrupt :: part, rfl, rfl, .interrupt b bytes part on, rfl, rfl⟩
  | late b bytes part on ih => exact ⟨[], b :: bytes, .late :: part, rfl, rfl, .late b bytes part on, rfl, rfl⟩

theorem flow_wait (b : UInt8) (bytes : List UInt8) (part rest : List Arrival) (flow : Flow (b :: bytes) part) :
    ∃ part', lineWait (part ++ rest) = (0, .byte b :: part' ++ rest) ∧ Flow bytes part' ∧ part'.length < part.length := by
  generalize whole : b :: bytes = all at flow
  induction flow with
  | done => cases whole
  | byte c cs part on ih =>
      cases whole
      exact ⟨part, rfl, on, Nat.lt_succ_self _⟩
  | interrupt c cs part on ih =>
      obtain ⟨part', waited, flow, shorter⟩ := ih whole
      exact ⟨part', waited, flow, Nat.lt_succ_of_lt shorter⟩
  | late c cs part on ih =>
      obtain ⟨part', waited, flow, shorter⟩ := ih whole
      exact ⟨part', waited, flow, Nat.lt_succ_of_lt shorter⟩

theorem posix_read_flow (fuel : Nat) (b : UInt8) (bytes ret : List UInt8) (part rest : List Arrival)
    (flow : Flow bytes part) (enough : part.length < fuel) :
    posixRead tty fuel (bytes.length + 1) ret (.byte b :: part ++ rest) =
      ((Int64.ofNat (ret ++ b :: bytes).length, ret ++ b :: bytes), rest) := by
  induction fuel generalizing b bytes ret part with
  | zero => exact absurd enough (Nat.not_lt_zero _)
  | succ fuel ih =>
      obtain ⟨taken, left, part', took, split, on, after, size⟩ :=
        flow_ready (b :: bytes) (.byte b :: part) rest (.byte b bytes part flow)
      have some : taken ≠ [] := by
        rw [← took, List.cons_append, ready]
        exact List.cons_ne_nil _ _
      have positive : 0 < taken.length := List.length_pos_iff.mpr some
      have total : bytes.length + 1 = taken.length + left.length := by
        rw [← List.length_append, ← split]
        rfl
      have read : (tty.read (bytes.length + 1) (.byte b :: part ++ rest)) =
          (.got taken (by omega), part' ++ rest) := by
        subst took
        rw [← after]
        rfl
      rw [posixRead, read]
      dsimp only
      rw [if_neg some, total, Nat.add_sub_cancel_left]
      cases left with
      | nil =>
          rw [List.append_nil] at split
          rw [if_pos List.length_nil, flow_empty part' on, split]
          rfl
      | cons c left =>
          obtain ⟨part'', waited, flow', shorter⟩ := flow_wait c left part' rest on
          have wait : tty.waitForInput readTimeout (part' ++ rest) = (0, .byte c :: part'' ++ rest) := waited
          simp only [List.length_cons] at size
          rw [if_neg (by simp), wait]
          show posixRead tty fuel (left.length + 1) (ret ++ taken) (.byte c :: part'' ++ rest) = _
          rw [ih c left (ret ++ taken) part'' flow' (by omega), List.append_assoc, ← split]

inductive Scripted : List Arrival → List Supply → Prop where
  | done : Scripted [] []
  | interrupt (line : List Arrival) (supply : List Supply) (on : Scripted line supply) : Scripted (.interrupt :: line) supply
  | late (line : List Arrival) (supply : List Supply) (on : Scripted line supply) : Scripted (.late :: line) (.pause :: supply)
  | silence (line : List Arrival) (supply : List Supply) (on : Scripted line supply) :
      Scripted (.silence :: line) (.pause :: supply)
  | piece (b : UInt8) (bytes : List UInt8) (part line : List Arrival) (supply : List Supply) (flow : Flow bytes part)
      (on : Scripted line supply) : Scripted (.byte b :: part ++ line) (.piece (b :: bytes) :: supply)

theorem script_piece (line : List Arrival) (bytes : List UInt8) (more : List Supply)
    (holds : Scripted line (.piece bytes :: more)) (fuel : Nat) (enough : line.length < fuel) :
    ∃ line', posixRead tty fuel bytes.length [] line = ((Int64.ofNat bytes.length, bytes), line') ∧
      Scripted line' more := by
  generalize whole : Supply.piece bytes :: more = supply at holds
  induction holds generalizing fuel with
  | done => cases whole
  | late line supply on ih => cases whole
  | silence line supply on ih => cases whole
  | interrupt line supply on ih =>
      cases fuel with
      | zero => exact absurd enough (Nat.not_lt_zero _)
      | succ fuel => exact ih fuel (Nat.lt_of_succ_lt_succ enough) whole
  | piece b bytes part line supply flow on ih =>
      cases whole
      rw [List.cons_append, List.length_cons, List.length_append] at enough
      exact ⟨line, posix_read_flow fuel b bytes [] part line flow (by omega), on⟩

theorem script_pause (line : List Arrival) (more : List Supply) (holds : Scripted line (.pause :: more)) (fuel n : Nat)
    (enough : line.length < fuel) :
    ∃ line', posixRead tty fuel n [] line = ((0, []), line') ∧ Scripted line' more := by
  generalize whole : Supply.pause :: more = supply at holds
  induction holds generalizing fuel with
  | done => cases whole
  | interrupt line supply on ih =>
      cases fuel with
      | zero => exact absurd enough (Nat.not_lt_zero _)
      | succ fuel => exact ih fuel (Nat.lt_of_succ_lt_succ enough) whole
  | late line supply on ih =>
      cases whole
      cases fuel with
      | zero => exact absurd enough (Nat.not_lt_zero _)
      | succ fuel => exact ⟨line, rfl, on⟩
  | silence line supply on ih =>
      cases whole
      cases fuel with
      | zero => exact absurd enough (Nat.not_lt_zero _)
      | succ fuel => exact ⟨line, rfl, on⟩
  | piece b bytes part line supply flow on ih => cases whole

theorem script_drained (line : List Arrival) (holds : Scripted line []) (fuel n : Nat) (enough : line.length < fuel) :
    ∃ line', posixRead tty fuel n [] line = ((0, []), line') ∧ Scripted line' [] := by
  generalize whole : ([] : List Supply) = supply at holds
  induction holds generalizing fuel with
  | done =>
      cases fuel with
      | zero => exact absurd enough (Nat.not_lt_zero _)
      | succ fuel => exact ⟨[], rfl, .done⟩
  | interrupt line supply on ih =>
      cases fuel with
      | zero => exact absurd enough (Nat.not_lt_zero _)
      | succ fuel => exact ih fuel (Nat.lt_of_succ_lt_succ enough) whole
  | late line supply on ih => cases whole
  | silence line supply on ih => cases whole
  | piece b bytes part line supply flow on ih => cases whole

theorem scripted_feeds : Feeds scripted Scripted where
  piece line bytes more _ holds := by
    obtain ⟨line', read, left⟩ := script_piece line bytes more holds (line.length + 1) (Nat.lt_succ_self _)
    show (posixRead tty (line.length + 1) bytes.length [] line).1.2 = bytes ∧
      (posixRead tty (line.length + 1) bytes.length [] line).1.1 = Int64.ofNat bytes.length ∧
        Scripted (posixRead tty (line.length + 1) bytes.length [] line).2 more
    rw [read]
    exact ⟨rfl, rfl, left⟩
  pause n line more _ holds := by
    obtain ⟨line', read, left⟩ := script_pause line more holds (line.length + 1) n (Nat.lt_succ_self _)
    show (posixRead tty (line.length + 1) n [] line).1.1 = 0 ∧ Scripted (posixRead tty (line.length + 1) n [] line).2 more
    rw [read]
    exact ⟨rfl, left⟩
  drained n line _ holds := by
    obtain ⟨line', read, left⟩ := script_drained line holds (line.length + 1) n (Nat.lt_succ_self _)
    show (posixRead tty (line.length + 1) n [] line).1.1 = 0 ∧ Scripted (posixRead tty (line.length + 1) n [] line).2 []
    rw [read]
    exact ⟨rfl, left⟩

end Libmonome
