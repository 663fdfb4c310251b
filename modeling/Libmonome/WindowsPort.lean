import Libmonome.Platform
import Libmonome.Lib.Ledger

set_option autoImplicit false

namespace Libmonome

open Ledger

variable {ω : Type}

inductive PortResource where
  | deviceName
  | device
  | invalid
  | event (handle : Nat)
deriving DecidableEq, Repr

-- An overlapped transfer: over at once, refused, or pending, and then what
-- GetOverlappedResult has to say of it.
inductive Transfer (α : Type) where
  | done (result : α)
  | pending (result : Option α)
  | refused

def Transfer.result {α : Type} : Transfer α → Option α
  | .done result => some result
  | .pending result => result
  | .refused => none

-- WaitCommEvent, and WaitForSingleObject where it has to be waited for.
inductive CommWait where
  | ready
  | signalled
  | timedOut
  | failed
  | refused

structure ComDriver (ω : Type) where
  vscprintf : ω → Bool × ω
  createFile : String → ω → Bool × ω
  getCommState : ω → Bool × ω
  setCommState : (baud : UInt32) → ω → Bool × ω
  setCommTimeouts : ω → Bool × ω
  purgeComm : ω → ω
  openOsfhandle : ω → Bool × ω
  createEvent : ω → Bool × ω
  writeFile : (bytes : List UInt8) → ω → Transfer (Fin (bytes.length + 1)) × ω
  readFile : (n : Nat) → ω → Transfer { data : List UInt8 // data.length ≤ n } × ω
  getCommMask : ω → Bool × ω
  setCommMask : (mask : UInt32) → ω → Bool × ω
  waitCommEvent : (msec : UInt32) → ω → CommWait × ω

-- A run on a port: whether its descriptor is one for the device, its event
-- mask, the handles handed out so far, the ledger, and what went on: writes
-- refused, calls that failed to make an event or to set the mask, bytes taken
-- from the driver.
structure Port (ω : Type) where
  world : ω
  attached : Bool
  mask : UInt32
  handles : Nat
  ledger : List (Event PortResource)
  refused : Nat
  failures : Nat
  taken : List UInt8

def Port.on (w : ω) (mask : UInt32) : Port ω := ⟨w, false, mask, 0, [], 0, 0, []⟩

-- What _get_osfhandle answers: of the descriptor -1 it has no handle to give.
def Port.handle (p : Port ω) : PortResource := if p.attached then .device else .invalid

def Port.noted (p : Port ω) (events : List (Event PortResource)) : Port ω := { p with ledger := p.ledger ++ events }

def noteOf (events : List (Event PortResource)) : Io (Port ω) Unit := Io.call fun p => ((), p.noted events)

def evRxchar : UInt32 := 1
def windowsReadTimeout : UInt32 := 25
def cbr57600 : UInt32 := 57600
def cbr115200 : UInt32 := 115200

section Calls

variable (d : ComDriver ω)

-- A call on the handle of the device that succeeds or fails, and changes
-- nothing here.
def deviceCall (call : ω → Bool × ω) : Io (Port ω) Bool := Io.call fun p =>
  ((call p.world).1, { p with world := (call p.world).2, ledger := p.ledger ++ [.use .device] })

def createEvent : Io (Port ω) (Option Nat) := Io.call fun p =>
  if (d.createEvent p.world).1 then
    (some p.handles, { p with
      world := (d.createEvent p.world).2
      handles := p.handles + 1
      ledger := p.ledger ++ [.acquire (.event p.handles)] })
  else (none, { p with world := (d.createEvent p.world).2, failures := p.failures + 1 })

def closeHandle (r : PortResource) : Io (Port ω) Unit := noteOf [.release r]

def writeFile (event : Nat) (bytes : List UInt8) : Io (Port ω) (Transfer (Fin (bytes.length + 1))) := Io.call fun p =>
  let answer := d.writeFile bytes p.world
  (answer.1, { p with
    world := answer.2
    ledger := p.ledger ++ [.use p.handle, .use (.event event)]
    refused := match answer.1 with
      | .refused => p.refused + 1
      | _ => p.refused })

def readFile (event n : Nat) : Io (Port ω) (Option (List UInt8)) := Io.call fun p =>
  let answer := d.readFile n p.world
  let data := answer.1.result.map Subtype.val
  (data, { p with
    world := answer.2
    ledger := p.ledger ++ [.use p.handle, .use (.event event)]
    taken := p.taken ++ data.getD [] })

def getCommMask : Io (Port ω) (Option UInt32) := Io.call fun p =>
  (if (d.getCommMask p.world).1 then some p.mask else none,
    { p with world := (d.getCommMask p.world).2, ledger := p.ledger ++ [.use p.handle] })

def setCommMask (mask : UInt32) : Io (Port ω) Bool := Io.call fun p =>
  let answer := d.setCommMask mask p.world
  (answer.1, { p with
    world := answer.2
    ledger := p.ledger ++ [.use p.handle]
    mask := if answer.1 then mask else p.mask
    failures := if answer.1 then p.failures else p.failures + 1 })

def waitCommEvent (event : Nat) (msec : UInt32) : Io (Port ω) CommWait := Io.call fun p =>
  ((d.waitCommEvent msec p.world).1, { p with
    world := (d.waitCommEvent msec p.world).2
    ledger := p.ledger ++ [.use p.handle, .use (.event event)] })

def windowsOpenFail : Io (Port ω) Int32 := do
  closeHandle .device
  return 1

def windowsPlatformOpen (m : MonomeDevmap) (dev : String) : Io (Port ω) Int32 := do
  let allocated ← Io.call fun p => ((d.vscprintf p.world).1, { p with world := (d.vscprintf p.world).2 })
  if ¬ allocated then return 1
  else
    noteOf [.acquire .deviceName, .use .deviceName]
    let opened ← Io.call fun p =>
      ((d.createFile ("\\\\.\\" ++ dev) p.world).1, { p with world := (d.createFile ("\\\\.\\" ++ dev) p.world).2 })
    noteOf [.release .deviceName]
    if ¬ opened then return 1
    else
      noteOf [.acquire .device]
      let read ← deviceCall d.getCommState
      if ¬ read then windowsOpenFail
      else
        let set ← deviceCall (d.setCommState (if m.quirk57600Baud then cbr57600 else cbr115200))
        if ¬ set then windowsOpenFail
        else
          let timed ← deviceCall d.setCommTimeouts
          if ¬ timed then windowsOpenFail
          else
            let _ ← deviceCall fun w => (true, d.purgeComm w)
            -- a descriptor of -1 is not looked at
            Io.call fun p =>
              ((), { p with world := (d.openOsfhandle p.world).2, attached := (d.openOsfhandle p.world).1 })
            return 0

def windowsPlatformClose : Io (Port ω) Unit := Io.call fun p => ((), p.noted [.release p.handle])

-- The event stays behind where the write is refused.
def windowsPlatformWrite (bytes : List UInt8) : Io (Port ω) Int := do
  match ← createEvent d with
  | none => return -1
  | some event =>
      match ← writeFile d event bytes with
      | .refused => return -1
      | .done written =>
          closeHandle (.event event)
          return written
      | .pending written =>
          closeHandle (.event event)
          return written.getD 0

def CommWait.status : CommWait → Int32
  | .ready => 0
  | .signalled => 0
  | .timedOut => 1
  | .failed => -1
  | .refused => -1

-- The mask stays changed where the event cannot be made.
def windowsWaitForInput (msec : UInt32) : Io (Port ω) Int32 := do
  match ← getCommMask d with
  | none => return -1
  | some oldCommMask =>
      let changed ← setCommMask d evRxchar
      if ¬ changed then return -1
      else
        match ← createEvent d with
        | none => return -1
        | some event =>
            let wait ← waitCommEvent d event msec
            closeHandle (.event event)
            let restored ← setCommMask d oldCommMask
            return if restored then wait.status else -1

structure PortRead where
  status : Int
  stored : List UInt8
deriving DecidableEq, Repr

-- The loop of monome_platform_read from start on. A loop still turning when its
-- turns are used up has no result.
def windowsReadLoop (event n : Nat) : (fuel : Nat) → (stored : List UInt8) → Io (Port ω) (Option PortRead)
  | 0, _ => return none
  | fuel + 1, stored => do
      match ← readFile d event (n - stored.length) with
      | none =>
          closeHandle (.event event)
          return some ⟨-1, stored⟩
      | some data =>
          if (stored ++ data).length < n then
            let err ← windowsWaitForInput d windowsReadTimeout
            if err > 0 then
              closeHandle (.event event)
              return some ⟨(stored ++ data).length, stored ++ data⟩
            else if err < 0 then
              closeHandle (.event event)
              return some ⟨-1, stored ++ data⟩
            else windowsReadLoop event n fuel (stored ++ data)
          else
            closeHandle (.event event)
            return some ⟨(stored ++ data).length, stored ++ data⟩

def windowsPlatformRead (fuel n : Nat) : Io (Port ω) (Option PortRead) := do
  match ← createEvent d with
  | none => return some ⟨-1, []⟩
  | some event => windowsReadLoop d event n fuel []

end Calls

inductive PortCall where
  | write (bytes : List UInt8)
  | read (n : UInt32)
  | wait (msec : UInt32)

inductive PortResult where
  | wrote (status : Int)
  | read (got : PortRead)
  | waited (status : Int32)
deriving DecidableEq, Repr

inductive SessionEnd where
  | unopened
  | reading
  | closed (results : List PortResult)
deriving DecidableEq, Repr

section Session

variable (d : ComDriver ω) (fuel : Nat)

def portCall : PortCall → Io (Port ω) (Option PortResult)
  | .write bytes => do
      let status ← windowsPlatformWrite d bytes
      return some (.wrote status)
  | .read n => do
      let got ← windowsPlatformRead d fuel n.toNat
      return got.map .read
  | .wait msec => do
      let status ← windowsWaitForInput d msec
      return some (.waited status)

def portCalls : List PortCall → Io (Port ω) (Option (List PortResult))
  | [] => return some []
  | call :: rest => do
      match ← portCall d fuel call with
      | none => return none
      | some result =>
          let results ← portCalls rest
          return results.map (result :: ·)

def windowsSession (m : MonomeDevmap) (dev : String) (calls : List PortCall) : Io (Port ω) SessionEnd := do
  let status ← windowsPlatformOpen d m dev
  if status ≠ 0 then return .unopened
  else
    match ← portCalls d fuel calls with
    | none => return .reading
    | some results =>
        windowsPlatformClose
        return .closed results

end Session

-- What is not held and is used all the same where open has got no descriptor.
def pretended (attached : Bool) : List PortResource := if attached then [] else [.invalid]

structure Booked (attached : Bool) (own : List PortResource) (p : Port ω) : Prop where
  same : p.attached = attached
  books : ∃ leaked : List Nat, Ledger.run (pretended attached) p.ledger =
      some (own ++ (leaked.map .event ++ .device :: pretended attached)) ∧ leaked.length = p.refused ∧
    (∀ n, .event n ∈ own → n < p.handles) ∧ ∀ n ∈ leaked, n < p.handles

theorem handle_pretended (p : Port ω) : p.handle ∈ .device :: pretended p.attached := by
  rw [Port.handle, pretended]
  cases p.attached <;> simp

structure Steady (p p' : Port ω) : Prop where
  failures : p.failures ≤ p'.failures
  mask : p'.mask = p.mask ∨ p'.mask = evRxchar ∧ p.failures < p'.failures

theorem steady_same (p p' : Port ω) (failures : p'.failures = p.failures) (mask : p'.mask = p.mask) : Steady p p' :=
  ⟨failures.ge, .inl mask⟩

theorem steady_noted (p p' : Port ω) (events : List (Event PortResource)) (steady : Steady p p') : Steady p (p'.noted events) :=
  ⟨steady.failures, steady.mask⟩

theorem steady_trans (p p1 p2 : Port ω) (first : Steady p p1) (second : Steady p1 p2) : Steady p p2 := by
  refine ⟨first.failures.trans second.failures, ?_⟩
  rcases second.mask with same | ⟨changed, failed⟩
  · rcases first.mask with before | ⟨changed, failed⟩
    · exact .inl (same.trans before)
    · exact .inr ⟨same.trans changed, failed.trans_le second.failures⟩
  · exact .inr ⟨changed, first.failures.trans_lt failed⟩

theorem uses_held {ρ : Type} [DecidableEq ρ] (held : List ρ) (uses : List (Event ρ))
    (all : ∀ event ∈ uses, ∃ r ∈ held, event = .use r) : Ledger.run held uses = some held := by
  induction uses with
  | nil => rfl
  | cons event uses ih =>
      obtain ⟨r, member, rfl⟩ := all event List.mem_cons_self
      rw [Ledger.run, Ledger.step, if_pos member]
      exact ih fun event later => all event (List.mem_cons_of_mem _ later)

section Booked

variable (attached : Bool) (own : List PortResource) (p p' : Port ω)

theorem booked_used (booked : Booked attached own p) (uses : List (Event PortResource))
    (all : ∀ event ∈ uses, event = .use p.handle ∨ ∃ r ∈ own, event = .use r) (same : p'.attached = p.attached)
    (ledger : p'.ledger = p.ledger ++ uses) (refused : p'.refused = p.refused) (handles : p'.handles = p.handles) :
    Booked attached own p' := by
  obtain ⟨was, leaked, ran, count, ownFresh, leakedFresh⟩ := booked
  refine ⟨same.trans was, leaked, ?_, count.trans refused.symm, fun n member => handles ▸ ownFresh n member,
    fun n member => handles ▸ leakedFresh n member⟩
  rw [ledger, run_append, ran]
  apply uses_held
  intro event member
  rcases all event member with device | ⟨r, held, same⟩
  · refine ⟨p.handle, ?_, device⟩
    exact List.mem_append_right _ (List.mem_append_right _ (was ▸ handle_pretended p))
  · exact ⟨r, List.mem_append_left _ held, same⟩

theorem booked_created (booked : Booked attached own p) (same : p'.attached = p.attached)
    (ledger : p'.ledger = p.ledger ++ [.acquire (.event p.handles)])
    (refused : p'.refused = p.refused) (handles : p'.handles = p.handles + 1) :
    Booked attached (.event p.handles :: own) p' := by
  obtain ⟨was, leaked, ran, count, ownFresh, leakedFresh⟩ := booked
  refine ⟨same.trans was, leaked, ?_, count.trans refused.symm, fun n member => ?_, fun n member => ?_⟩
  · have fresh : PortResource.event p.handles ∉ own ++ (leaked.map .event ++ .device :: pretended attached) := by
      intro member
      rcases List.mem_append.mp member with mine | rest
      · exact absurd (ownFresh _ mine) (lt_irrefl _)
      · rcases List.mem_append.mp rest with left | device
        · obtain ⟨n, inLeaked, same⟩ := List.mem_map.mp left
          cases same
          exact absurd (leakedFresh _ inLeaked) (lt_irrefl _)
        · rw [pretended] at device
          cases attached <;> simp at device
    rw [ledger, run_append, ran, Option.bind_some, Ledger.run, Ledger.step, if_neg fresh]
    rfl
  · rw [handles]
    rcases List.mem_cons.mp member with same | mine
    · cases same
      exact Nat.lt_succ_self _
    · exact (ownFresh n mine).trans (Nat.lt_succ_self _)
  · rw [handles]
    exact (leakedFresh n member).trans (Nat.lt_succ_self _)

theorem booked_closed (r : PortResource) (booked : Booked attached (r :: own) p) :
    Booked attached own (p.noted [.release r]) := by
  obtain ⟨was, leaked, ran, count, ownFresh, leakedFresh⟩ := booked
  refine ⟨was, leaked, ?_, count, fun n member => ownFresh n (List.mem_cons_of_mem _ member), leakedFresh⟩
  rw [Port.noted, run_append, ran]
  simp [Ledger.run, Ledger.step]

theorem booked_leaked (event : Nat) (booked : Booked attached [.event event] p) (same : p'.attached = p.attached)
    (ledger : p'.ledger = p.ledger) (refused : p'.refused = p.refused + 1) (handles : p'.handles = p.handles) :
    Booked attached [] p' := by
  obtain ⟨was, leaked, ran, count, ownFresh, leakedFresh⟩ := booked
  refine ⟨same.trans was, event :: leaked, ?_, ?_, fun n member => absurd member List.not_mem_nil, fun n member => ?_⟩
  · rw [ledger, ran]
    rfl
  · rw [List.length_cons, count, refused]
  · rw [handles]
    rcases List.mem_cons.mp member with same | later
    · exact ownFresh n (by rw [same]; exact List.mem_cons_self)
    · exact leakedFresh n later

theorem booked_let_go (booked : Booked attached [] p) : ∃ leaked : List Nat, leaked.length = p.refused ∧
    Ledger.run (pretended attached) (p.noted [.release p.handle]).ledger =
      some (leaked.map .event ++ if attached then [] else [.device]) := by
  obtain ⟨was, leaked, ran, count, _⟩ := booked
  refine ⟨leaked, count, ?_⟩
  have absent (r : PortResource) (other : ∀ n, r ≠ .event n) : r ∉ leaked.map PortResource.event := by
    intro member
    obtain ⟨n, _, same⟩ := List.mem_map.mp member
    exact other n same.symm
  rw [Port.noted, run_append, ran, Option.bind_some, List.nil_append, Port.handle, was]
  cases attached with
  | true =>
      rw [Ledger.run, Ledger.step, if_pos (by simp [pretended]), List.erase_append_right _ (absent _ (by simp))]
      rfl
  | false =>
      rw [Ledger.run, Ledger.step, if_pos (by simp [pretended]), List.erase_append_right _ (absent _ (by simp))]
      rfl

end Booked

section Runs

variable (d : ComDriver ω) (attached : Bool) (own : List PortResource) (p : Port ω) (booked : Booked attached own p)
include booked

theorem create_event_keeps :
    (∃ p', createEvent d p = .ok (some p.handles, p') ∧ Booked attached (.event p.handles :: own) p' ∧ p'.mask = p.mask ∧
      p'.failures = p.failures ∧ p'.taken = p.taken) ∨
    ∃ p', createEvent d p = .ok (none, p') ∧ Booked attached own p' ∧ p'.mask = p.mask ∧ p'.failures = p.failures + 1 ∧
      p'.taken = p.taken := by
  by_cases made : (d.createEvent p.world).1 = true
  · refine .inl ⟨_, congrArg Except.ok (if_pos made), booked_created attached own p _ booked rfl rfl rfl rfl, rfl, rfl, rfl⟩
  · refine .inr ⟨_, congrArg Except.ok (if_neg made), booked_used attached own p _ booked [] (by simp) rfl (by simp) rfl rfl, rfl, rfl, rfl⟩

theorem set_comm_mask_keeps (mask : UInt32) :
    (∃ p', setCommMask d mask p = .ok (true, p') ∧ Booked attached own p' ∧ p'.mask = mask ∧ p'.failures = p.failures ∧
      p'.taken = p.taken) ∨
    ∃ p', setCommMask d mask p = .ok (false, p') ∧ Booked attached own p' ∧ p'.mask = p.mask ∧ p'.failures = p.failures + 1 ∧
      p'.taken = p.taken := by
  have keeps (p' : Port ω) (same : p'.attached = p.attached) (ledger : p'.ledger = p.ledger ++ [.use p.handle])
      (refused : p'.refused = p.refused)
      (handles : p'.handles = p.handles) : Booked attached own p' :=
    booked_used attached own p p' booked _ (by simp) same ledger refused handles
  cases set : (d.setCommMask mask p.world).1 with
  | true =>
      refine .inl ⟨{ p with
        world := (d.setCommMask mask p.world).2
        ledger := p.ledger ++ [.use p.handle]
        mask := mask }, ?_, keeps _ rfl rfl rfl rfl, rfl, rfl, rfl⟩
      simp only [setCommMask, Io.call, set, if_true]
  | false =>
      refine .inr ⟨{ p with
        world := (d.setCommMask mask p.world).2
        ledger := p.ledger ++ [.use p.handle]
        failures := p.failures + 1 }, ?_, keeps _ rfl rfl rfl rfl, rfl, rfl, rfl⟩
      simp only [setCommMask, Io.call, set, Bool.false_eq_true, if_false]

theorem wait_for_input_keeps (msec : UInt32) : ∃ status p', windowsWaitForInput d msec p = .ok (status, p') ∧ Booked attached own p' ∧
    Steady p p' ∧ p'.taken = p.taken := by
  let p1 : Port ω := { p with world := (d.getCommMask p.world).2, ledger := p.ledger ++ [.use p.handle] }
  have asked : Booked attached own p1 := booked_used attached own p p1 booked _ (by simp) rfl rfl rfl rfl
  cases got : (d.getCommMask p.world).1 with
  | false =>
      refine ⟨-1, p1, ?_, asked, steady_same p _ rfl rfl, rfl⟩
      simp only [windowsWaitForInput, getCommMask, io_call_bind, got, Bool.false_eq_true, if_false]
      rfl
  | true =>
      have start : windowsWaitForInput d msec p = (do
          let changed ← setCommMask d evRxchar
          if ¬ changed then return -1
          else
            match ← createEvent d with
            | none => return -1
            | some event =>
                let wait ← waitCommEvent d event msec
                closeHandle (.event event)
                let restored ← setCommMask d p.mask
                return if restored then wait.status else -1) p1 := by
        rw [windowsWaitForInput, getCommMask, io_call_bind, got]
        rfl
      rw [start]
      rcases set_comm_mask_keeps d attached own p1 asked evRxchar with
        ⟨p2, ran, booked2, mask2, failures2, taken2⟩ | ⟨p2, ran, booked2, mask2, failures2, taken2⟩
      · rw [io_bind_ok _ _ _ _ _ ran, if_neg (by decide)]
        rcases create_event_keeps d attached own p2 booked2 with
          ⟨p3, made, booked3, mask3, failures3, taken3⟩ | ⟨p3, failed, booked3, mask3, failures3, taken3⟩
        · rw [io_bind_ok _ _ _ _ _ made]
          simp only
          let p4 : Port ω := { p3 with
            world := (d.waitCommEvent msec p3.world).2
            ledger := p3.ledger ++ [.use p3.handle, .use (.event p2.handles)] }
          have booked4 : Booked attached (.event p2.handles :: own) p4 :=
            booked_used attached _ p3 p4 booked3 _ (by simp) rfl rfl rfl rfl
          have booked5 := booked_closed attached own p4 (.event p2.handles) booked4
          rw [waitCommEvent, io_call_bind, closeHandle, noteOf, io_call_bind]
          rcases set_comm_mask_keeps d attached own (p4.noted [.release (.event p2.handles)]) booked5 p.mask with
            ⟨p6, restored, booked6, mask6, failures6, taken6⟩ | ⟨p6, stuck, booked6, mask6, failures6, taken6⟩
          · refine ⟨_, p6, io_bind_ok _ _ _ _ _ restored, booked6, ⟨?_, .inl mask6⟩, ?_⟩
            · rw [failures6]
              exact (failures3.trans failures2).ge
            · rw [taken6]
              exact taken3.trans taken2
          · refine ⟨_, p6, io_bind_ok _ _ _ _ _ stuck, booked6, ⟨?_, .inr ⟨?_, ?_⟩⟩, ?_⟩
            · rw [failures6]
              exact Nat.le_succ_of_le (failures3.trans failures2).ge
            · rw [mask6]
              exact mask3.trans mask2
            · rw [failures6]
              exact Nat.lt_succ_of_le (failures3.trans failures2).ge
            · rw [taken6]
              exact taken3.trans taken2
        · refine ⟨-1, p3, io_bind_ok _ _ _ _ _ failed, booked3, ⟨?_, .inr ⟨mask3.trans mask2, ?_⟩⟩, taken3.trans taken2⟩
          · rw [failures3, failures2]
            exact Nat.le_succ _
          · rw [failures3, failures2]
            exact Nat.lt_succ_self _
      · rw [io_bind_ok _ _ _ _ _ ran, if_pos (by decide)]
        refine ⟨-1, p2, rfl, booked2, ⟨?_, .inl mask2⟩, taken2⟩
        rw [failures2]
        exact Nat.le_succ _

theorem write_keeps (bytes : List UInt8) (free : own = []) : ∃ status p', windowsPlatformWrite d bytes p = .ok (status, p') ∧
    Booked attached [] p' ∧ Steady p p' ∧ p'.taken = p.taken := by
  subst free
  rcases create_event_keeps d attached [] p booked with
    ⟨p1, made, booked1, mask1, failures1, taken1⟩ | ⟨p1, failed, booked1, mask1, failures1, taken1⟩
  · rw [windowsPlatformWrite, io_bind_ok _ _ _ _ _ made]
    simp only
    let p2 : Port ω := { p1 with
      world := (d.writeFile bytes p1.world).2
      ledger := p1.ledger ++ [.use p1.handle, .use (.event p.handles)] }
    have booked2 : Booked attached [.event p.handles] p2 := booked_used attached _ p1 p2 booked1 _ (by simp) rfl rfl rfl rfl
    have closed := booked_closed attached [] p2 (.event p.handles) booked2
    have steady (p' : Port ω) (failures : p'.failures = p1.failures) (mask : p'.mask = p1.mask) : Steady p p' :=
      steady_same p p' (failures.trans failures1) (mask.trans mask1)
    cases answer : (d.writeFile bytes p1.world).1 with
    | done written =>
        refine ⟨written, _, ?_, closed, steady _ rfl rfl, taken1⟩
        rw [writeFile, io_call_bind]
        simp only [answer]
        rfl
    | pending written =>
        refine ⟨(written.getD 0).val, _, ?_, closed, steady _ rfl rfl, taken1⟩
        rw [writeFile, io_call_bind]
        simp only [answer]
        rfl
    | refused =>
        refine ⟨-1, { p2 with refused := p2.refused + 1 }, ?_,
          booked_leaked attached p2 _ p.handles booked2 rfl rfl rfl rfl, steady _ rfl rfl, taken1⟩
        rw [writeFile, io_call_bind]
        simp only [answer]
        rfl
  · rw [windowsPlatformWrite, io_bind_ok _ _ _ _ _ failed]
    refine ⟨-1, p1, rfl, booked1, ⟨?_, .inl mask1⟩, taken1⟩
    rw [failures1]
    exact Nat.le_succ _

end Runs

structure ReadLeaves (attached : Bool) (own : List PortResource) (n : Nat) (p p' : Port ω) (before : List UInt8) (got : PortRead) : Prop where
  booked : Booked attached own p'
  steady : Steady p p'
  taken : ∃ more, got.stored = before ++ more ∧ p'.taken = p.taken ++ more
  fits : got.stored.length ≤ n
  counted : got.status = got.stored.length ∨ got.status = -1

section Reads

variable (d : ComDriver ω) (attached : Bool)

theorem read_file_runs (event n : Nat) (p : Port ω) : ∃ (data : Option (List UInt8)) (w : ω),
    readFile d event n p = .ok (data, { p with
      world := w
      ledger := p.ledger ++ [.use p.handle, .use (.event event)]
      taken := p.taken ++ data.getD [] }) ∧ ∀ bytes ∈ data, bytes.length ≤ n := by
  refine ⟨_, _, rfl, fun bytes member => ?_⟩
  obtain ⟨chunk, _, rfl⟩ := Option.map_eq_some_iff.mp member
  exact chunk.2

theorem read_loop_keeps (event n fuel : Nat) (stored : List UInt8) (p : Port ω) (booked : Booked attached [.event event] p)
    (room : stored.length ≤ n) : ∃ got p', windowsReadLoop d event n fuel stored p = .ok (got, p') ∧
      match got with
      | none => Booked attached [.event event] p'
      | some got => ReadLeaves attached [] n p p' stored got := by
  induction fuel generalizing stored p with
  | zero => exact ⟨none, p, rfl, booked⟩
  | succ fuel ih =>
      obtain ⟨data, w, read, fits⟩ := read_file_runs d event (n - stored.length) p
      let p1 : Port ω := { p with
        world := w
        ledger := p.ledger ++ [.use p.handle, .use (.event event)]
        taken := p.taken ++ data.getD [] }
      have booked1 : Booked attached [.event event] p1 := booked_used attached _ p p1 booked _ (by simp) rfl rfl rfl rfl
      have steady1 : Steady p p1 := steady_same p p1 rfl rfl
      rw [windowsReadLoop, io_bind_ok _ _ _ _ _ read]
      cases data with
      | none =>
          refine ⟨some ⟨-1, stored⟩, _, rfl, booked_closed attached [] p1 (.event event) booked1,
            steady_noted p p1 _ steady1, ⟨[], ?_, rfl⟩, room, .inr rfl⟩
          exact (List.append_nil stored).symm
      | some data =>
          have within : (stored ++ data).length ≤ n := by
            have bound := fits data rfl
            rw [List.length_append]
            omega
          simp only
          by_cases short : (stored ++ data).length < n
          · obtain ⟨err, p2, waited, booked2, steady2, taken2⟩ :=
              wait_for_input_keeps d attached [.event event] p1 booked1 windowsReadTimeout
            have steady := steady_trans p p1 p2 steady1 steady2
            have leaves (status : Int) (counted : status = (stored ++ data).length ∨ status = -1) :
                ReadLeaves attached [] n p (p2.noted [.release (.event event)]) stored ⟨status, stored ++ data⟩ :=
              ⟨booked_closed attached [] p2 (.event event) booked2, steady_noted p p2 _ steady, ⟨data, rfl, taken2⟩, within, counted⟩
            rw [if_pos short, io_bind_ok _ _ _ _ _ waited]
            by_cases timedOut : err > 0
            · rw [if_pos timedOut]
              exact ⟨some _, _, rfl, leaves _ (.inl rfl)⟩
            · by_cases failed : err < 0
              · rw [if_neg timedOut, if_pos failed]
                exact ⟨some _, _, rfl, leaves _ (.inr rfl)⟩
              · rw [if_neg timedOut, if_neg failed]
                obtain ⟨got, p3, ran, after⟩ := ih (stored ++ data) p2 booked2 within
                refine ⟨got, p3, ran, ?_⟩
                cases got with
                | none => exact after
                | some got =>
                    obtain ⟨more, split, taken3⟩ := after.taken
                    refine ⟨after.booked, steady_trans p p2 p3 steady after.steady, ⟨data ++ more, ?_, ?_⟩, after.fits,
                      after.counted⟩
                    · rw [split, List.append_assoc]
                    · rw [taken3, taken2]
                      exact List.append_assoc _ _ _
          · rw [if_neg short]
            exact ⟨some _, _, rfl, booked_closed attached [] p1 (.event event) booked1, steady_noted p p1 _ steady1,
              ⟨data, rfl, rfl⟩, within, .inl rfl⟩

theorem read_keeps (fuel n : Nat) (p : Port ω) (booked : Booked attached [] p) :
    ∃ got p', windowsPlatformRead d fuel n p = .ok (got, p') ∧
      match got with
      | none => ∃ event, Booked attached [.event event] p'
      | some got => ReadLeaves attached [] n p p' [] got := by
  rcases create_event_keeps d attached [] p booked with
    ⟨p1, made, booked1, mask1, failures1, taken1⟩ | ⟨p1, failed, booked1, mask1, failures1, taken1⟩
  · rw [windowsPlatformRead, io_bind_ok _ _ _ _ _ made]
    obtain ⟨got, p2, ran, after⟩ := read_loop_keeps d attached p.handles n fuel [] p1 booked1 (Nat.zero_le n)
    refine ⟨got, p2, ran, ?_⟩
    cases got with
    | none => exact ⟨p.handles, after⟩
    | some got =>
        have steady := steady_trans p p1 p2 (steady_same p p1 failures1 mask1) after.steady
        exact ⟨after.booked, steady, taken1 ▸ after.taken, after.fits, after.counted⟩
  · rw [windowsPlatformRead, io_bind_ok _ _ _ _ _ failed]
    refine ⟨some ⟨-1, []⟩, p1, rfl, booked1, ⟨?_, .inl mask1⟩, ⟨[], rfl, ?_⟩, Nat.zero_le n, .inr rfl⟩
    · rw [failures1]
      exact Nat.le_succ _
    · rw [taken1, List.append_nil]

end Reads

def PortResult.stored : PortResult → List UInt8
  | .read got => got.stored
  | _ => []

def Counted : PortCall → PortResult → Prop
  | .write _, .wrote _ => True
  | .read n, .read got => got.stored.length ≤ n.toNat ∧ (got.status = got.stored.length ∨ got.status = -1)
  | .wait _, .waited _ => True
  | _, _ => False

section Session

variable (d : ComDriver ω) (attached : Bool) (fuel : Nat)

theorem call_keeps (call : PortCall) (p : Port ω) (booked : Booked attached [] p) :
    ∃ result p', portCall d fuel call p = .ok (result, p') ∧
      match result with
      | none => ∃ event, Booked attached [.event event] p'
      | some result => Booked attached [] p' ∧ Steady p p' ∧ p'.taken = p.taken ++ result.stored ∧ Counted call result := by
  cases call with
  | write bytes =>
      obtain ⟨status, p', ran, booked', steady, taken⟩ := write_keeps d attached [] p booked bytes rfl
      refine ⟨some (.wrote status), p', ?_, booked', steady, ?_, trivial⟩
      · rw [portCall, io_bind_ok _ _ _ _ _ ran]
        rfl
      · exact taken.trans (List.append_nil _).symm
  | read n =>
      obtain ⟨got, p', ran, after⟩ := read_keeps d attached fuel n.toNat p booked
      refine ⟨got.map .read, p', ?_, ?_⟩
      · rw [portCall, io_bind_ok _ _ _ _ _ ran]
        rfl
      · cases got with
        | none => exact after
        | some got =>
            obtain ⟨more, split, taken⟩ := after.taken
            refine ⟨after.booked, after.steady, ?_, after.fits, after.counted⟩
            rw [taken, PortResult.stored, split, List.nil_append]
  | wait msec =>
      obtain ⟨status, p', ran, booked', steady, taken⟩ := wait_for_input_keeps d attached [] p booked msec
      refine ⟨some (.waited status), p', ?_, booked', steady, ?_, trivial⟩
      · rw [portCall, io_bind_ok _ _ _ _ _ ran]
        rfl
      · exact taken.trans (List.append_nil _).symm

theorem calls_keep (calls : List PortCall) (p : Port ω) (booked : Booked attached [] p) :
    ∃ results p', portCalls d fuel calls p = .ok (results, p') ∧
      match results with
      | none => ∃ event, Booked attached [.event event] p'
      | some results => Booked attached [] p' ∧ Steady p p' ∧ p'.taken = p.taken ++ results.flatMap PortResult.stored ∧
          List.Forall₂ Counted calls results := by
  induction calls generalizing p with
  | nil => exact ⟨some [], p, rfl, booked, steady_same p p rfl rfl, (List.append_nil _).symm, .nil⟩
  | cons call rest ih =>
      obtain ⟨result, p1, called, after⟩ := call_keeps d attached fuel call p booked
      rw [portCalls, io_bind_ok _ _ _ _ _ called]
      cases result with
      | none => exact ⟨none, p1, rfl, after⟩
      | some result =>
          obtain ⟨booked1, steady1, taken1, counted1⟩ := after
          obtain ⟨results, p2, ran, later⟩ := ih p1 booked1
          refine ⟨results.map (result :: ·), p2, ?_, ?_⟩
          · simp only
            rw [io_bind_ok _ _ _ _ _ ran]
            rfl
          · cases results with
            | none => exact later
            | some results =>
                obtain ⟨booked2, steady2, taken2, counted2⟩ := later
                refine ⟨booked2, steady_trans p p1 p2 steady1 steady2, ?_, .cons counted1 counted2⟩
                rw [taken2, taken1, List.flatMap_cons, List.append_assoc]

structure Opened (mask : UInt32) (p : Port ω) : Prop where
  ledger : ∀ attached, Ledger.run (pretended attached) p.ledger = some (.device :: pretended attached)
  refused : p.refused = 0
  failures : p.failures = 0
  mask : p.mask = mask
  taken : p.taken = []

def Attached (p : Port ω) : Prop := ∃ w, p.attached = (d.openOsfhandle w).1

def Opens (mask : UInt32) (result : Except Fault (Int32 × Port ω)) : Prop :=
  ∃ status p', result = .ok (status, p') ∧ ((status = 0 ∧ Opened mask p' ∧ Attached d p') ∨
    (status = 1 ∧ Settled p'.ledger))

omit attached fuel in
theorem device_call_opens (mask : UInt32) (call : ω → Bool × ω) (next : Io (Port ω) Int32) (p : Port ω)
    (opened : Opened mask p) (on : ∀ p', Opened mask p' → Opens d mask (next p')) :
    Opens d mask ((do
      let answer ← deviceCall call
      if ¬ answer then windowsOpenFail else next) p) := by
  let p1 : Port ω := { p with world := (call p.world).2, ledger := p.ledger ++ [.use .device] }
  have used (attached : Bool) : Ledger.run (pretended attached) p1.ledger = some (.device :: pretended attached) := by
    rw [run_append, opened.ledger attached]
    simp [Ledger.run, Ledger.step]
  rw [deviceCall, io_call_bind]
  simp only
  by_cases refused : ¬ (call p.world).1 = true
  · rw [if_pos refused]
    refine ⟨1, p1.noted [.release .device], rfl, .inr ⟨rfl, ?_⟩⟩
    have held : Ledger.run [] p1.ledger = some [.device] := used true
    rw [Settled, Port.noted, run_append, held]
    rfl
  · rw [if_neg refused]
    exact on p1 ⟨used, opened.refused, opened.failures, opened.mask, opened.taken⟩

omit attached fuel in
theorem platform_open_opens (m : MonomeDevmap) (dev : String) (w : ω) (mask : UInt32) :
    Opens d mask (windowsPlatformOpen d m dev (Port.on w mask)) := by
  rw [windowsPlatformOpen, io_call_bind]
  simp only
  by_cases allocated : ¬ (d.vscprintf w).1 = true
  · have none : ¬ (d.vscprintf (Port.on w mask).world).1 = true := allocated
    rw [if_pos none]
    exact ⟨1, _, rfl, .inr ⟨rfl, rfl⟩⟩
  · have some : ¬ ¬ (d.vscprintf (Port.on w mask).world).1 = true := allocated
    rw [if_neg some, noteOf, io_call_bind, io_call_bind, noteOf, io_call_bind]
    simp only
    split
    · exact ⟨1, _, rfl, .inr ⟨rfl, rfl⟩⟩
    · rw [noteOf, io_call_bind]
      refine device_call_opens d mask _ _ _ ⟨fun attached => ?_, rfl, rfl, rfl, rfl⟩ fun p1 opened1 => ?_
      · cases attached <;> rfl
      refine device_call_opens d mask _ _ p1 opened1 fun p2 opened2 => ?_
      refine device_call_opens d mask _ _ p2 opened2 fun p3 opened3 => ?_
      refine ⟨0, _, rfl, .inl ⟨rfl, ⟨fun attached => ?_, opened3.refused, opened3.failures, opened3.mask, opened3.taken⟩,
        _, rfl⟩⟩
      simp only
      rw [run_append, opened3.ledger attached]
      simp [Ledger.run, Ledger.step]

-- Whatever the system answers, a session on a port uses and closes nothing it
-- does not hold, and leaves one event behind for each write that was refused
-- and nothing else, as long as _open_osfhandle gives a descriptor; where it
-- gives none, the calls use and the close closes a handle that is not held, and
-- the device's is left behind as well. The mask is as it was unless a call
-- failed that makes an event or sets the mask; the reads hand over what the
-- driver gave, in order.
theorem windows_session_balances (m : MonomeDevmap) (dev : String) (calls : List PortCall) (w : ω) (mask : UInt32) :
    ∃ ended p', windowsSession d fuel m dev calls (Port.on w mask) = .ok (ended, p') ∧
      match ended with
      | .unopened => Settled p'.ledger
      | .reading => Attached d p' ∧ ∃ (event : Nat) (leaked : List Nat), leaked.length = p'.refused ∧
          Ledger.run (pretended p'.attached) p'.ledger =
            some (.event event :: (leaked.map .event ++ .device :: pretended p'.attached))
      | .closed results => Attached d p' ∧ (∃ leaked : List Nat, leaked.length = p'.refused ∧
            Ledger.run (pretended p'.attached) p'.ledger =
              some (leaked.map .event ++ if p'.attached then [] else [.device])) ∧
          (p'.mask = mask ∨ p'.mask = evRxchar ∧ p'.failures ≠ 0) ∧
          p'.taken = results.flatMap PortResult.stored ∧ List.Forall₂ Counted calls results := by
  obtain ⟨status, p1, opening, after⟩ := platform_open_opens d m dev w mask
  rw [windowsSession, io_bind_ok _ _ _ _ _ opening]
  rcases after with ⟨zero, opened, w', answered⟩ | ⟨one, settled⟩
  · have booked : Booked p1.attached [] p1 := ⟨rfl, [], opened.ledger _, opened.refused.symm,
      fun n member => absurd member List.not_mem_nil, fun n member => absurd member List.not_mem_nil⟩
    obtain ⟨results, p2, ran, later⟩ := calls_keep d p1.attached fuel calls p1 booked
    rw [if_neg (not_not.mpr zero), io_bind_ok _ _ _ _ _ ran]
    cases results with
    | none =>
        obtain ⟨event, same, leaked, held, count, _⟩ := later
        exact ⟨.reading, p2, rfl, ⟨w', same.trans answered⟩, event, leaked, count, same ▸ held⟩
    | some results =>
        obtain ⟨booked2, steady, taken, counted⟩ := later
        refine ⟨.closed results, p2.noted [.release p2.handle], rfl, ⟨w', booked2.same.trans answered⟩, ?_, ?_, ?_, counted⟩
        · have same : (p2.noted [.release p2.handle]).attached = p1.attached := booked2.same
          rw [same]
          exact booked_let_go p1.attached p2 booked2
        · rcases steady.mask with same | ⟨changed, failed⟩
          · exact .inl (same.trans opened.mask)
          · exact .inr ⟨changed, Nat.ne_of_gt (Nat.zero_lt_of_lt failed)⟩
        · have all : p2.taken = results.flatMap PortResult.stored := by
            rw [taken, opened.taken, List.nil_append]
          exact all
  · rw [if_pos (by rw [one]; decide)]
    exact ⟨.unopened, p1, rfl, settled⟩

end Session

end Libmonome
