import Libmonome.Acquire

set_option autoImplicit false

namespace Libmonome

open Ledger Triple Shadow

variable {ω ψ : Type}

theorem handlers_keep_serial [t : Target] (addr : UInt8) (self : Mext) (msg : MextMsg) (e : MonomeEvent) (h : Handled)
    (handled : subsystemEventHandlers addr self msg e = .ok h) : h.self.monome.serial = self.monome.serial := by
  rw [subsystemEventHandlers] at handled
  split at handled
  · rw [mextHandlerSystem] at handled
    split at handled
    · cases handled
      rfl
    · split at handled
      · cases handled
        rfl
      · split at handled <;> (cases handled; rfl)
  · split at handled
    · rw [mextHandlerKeyGrid] at handled
      cases back : unrotateCoords self.monome (msg.byte 0).toUInt32 (msg.byte 1).toUInt32 with
      | error fault =>
          rw [back] at handled
          cases handled
      | ok point =>
          rw [back] at handled
          cases handled
          rfl
    · split at handled
      · simp only [mextHandlerEncoder] at handled
        split at handled
        · cases handled
          rfl
        · split at handled
          · cases handled
            rfl
          · split at handled <;> (cases handled; rfl)
      · split at handled
        · rw [mextHandlerTilt] at handled
          split at handled <;> (cases handled; rfl)
        · cases handled
          rfl

-- What the mext handshake does to the state of its platform, told by what each
-- call of the platform does to it: everything but open and close keeps inv.
section Handshake

variable (P : Platform ψ) (inv closed : ψ → Prop)

structure Kept : Prop where
  write : ∀ bytes s, inv s → inv (P.write bytes s).2
  read : ∀ n s, inv s → inv (P.read n s).2
  waitForInput : ∀ msec s, inv s → inv (P.waitForInput msec s).2
  monotonicMilliseconds : ∀ s, inv s → inv (P.monotonicMilliseconds s).2
  close : ∀ s, inv s → closed (P.close s).2

theorem ensures_call {α : Type} (pre post : ψ → Prop) (f : ψ → α × ψ) (keeps : ∀ s, pre s → post (f s).2) :
    Ensures (ε := Fault) pre (Io.call f) (fun _ => post) := by
  intro s a s' before run
  have state : (f s).2 = s' := congrArg Prod.snd (Except.ok.inj run)
  rw [← state]
  exact keeps s before

theorem ensures_check {α : Type} (pre : ψ → Prop) (result : Except Fault α) :
    Ensures pre (Io.check result) (fun a s => result = .ok a ∧ pre s) := by
  intro s a s' before run
  cases result with
  | error fault => cases run
  | ok value =>
      cases run
      exact ⟨rfl, before⟩

variable (kept : Kept P inv closed)
include kept

theorem read_msg_keeps (msg : MextMsg) : Ensures inv (mextReadMsg P msg) (fun _ => inv) := by
  refine ensures_bind _ _ _ _ _ (ensures_call inv inv _ (kept.read 1)) fun head => ?_
  refine ensures_ite _ _ _ _ _ (fun _ => ensures_pure _ _ _ fun _ holds => holds) fun _ => ?_
  refine ensures_ite _ _ _ _ _ (fun _ => ensures_pure _ _ _ fun _ holds => holds) fun _ => ?_
  refine ensures_bind _ _ _ _ _ (ensures_call inv inv _ (kept.read _)) fun body => ?_
  exact ensures_ite _ _ _ _ _ (fun _ => ensures_pure _ _ _ fun _ holds => holds)
    fun _ => ensures_pure _ _ _ fun _ holds => holds

theorem simple_cmd_keeps (cmd : UInt8) : Ensures inv (mextSimpleCmd P cmd) (fun _ => inv) :=
  ensures_call inv inv _ (kept.write _)

theorem asked_keeps (c : Prop) [Decidable c] (cmd : UInt8) (next : Io ψ Int32) (on : Ensures inv next (fun _ => inv)) :
    Ensures inv (if c then mextSimpleCmd P cmd >>= fun status => if status ≠ 1 then pure (-1) else next
      else (pure 1 : Io ψ Int64) >>= fun status => if status ≠ 1 then pure (-1) else next) (fun _ => inv) := by
  have rest (status : Int64) : Ensures inv (if status ≠ 1 then (pure (-1) : Io ψ Int32) else next) (fun _ => inv) :=
    ensures_ite _ _ _ _ _ (fun _ => ensures_pure _ _ _ fun _ holds => holds) fun _ => on
  refine ensures_ite _ _ _ _ _ (fun _ => ?_) fun _ => ?_
  · exact ensures_bind _ _ _ _ _ (simple_cmd_keeps P inv closed kept cmd) rest
  · exact ensures_bind _ _ _ _ _ (ensures_pure inv (fun _ => inv) _ fun _ holds => holds) rest

theorem query_pending_keeps (self : Mext) : Ensures inv (mextQueryPending P self) (fun _ => inv) :=
  asked_keeps P inv closed kept _ _ _ (asked_keeps P inv closed kept _ _ _
    (asked_keeps P inv closed kept _ _ _ (ensures_pure _ _ _ fun _ holds => holds)))

theorem next_event_keeps [t : Target] (fuel : Nat) (msg : MextMsg) (self : Mext) (e : MonomeEvent) :
    Ensures inv (mextNextEventLoop P fuel msg self e)
      (fun next s => next.self.monome.serial = self.monome.serial ∧ inv s) := by
  induction fuel generalizing msg self e with
  | zero => exact ensures_pure _ _ _ fun _ holds => ⟨rfl, holds⟩
  | succ fuel ih =>
      refine ensures_bind _ _ _ _ _ (read_msg_keeps P inv closed kept msg) fun read => ?_
      refine ensures_ite _ _ _ _ _ (fun _ => ensures_pure _ _ _ fun _ holds => ⟨rfl, holds⟩) fun _ => ?_
      refine ensures_ite _ _ _ _ _ (fun _ => ?_) fun _ => ?_
      · refine ensures_bind _ _ _ _ _ (ensures_check inv _) fun h => ?_
        intro s next s' before run
        obtain ⟨same, holds⟩ := ih read.2 h.self h.event s next s' before.2 run
        exact ⟨same.trans (handlers_keep_serial _ _ _ _ h before.1), holds⟩
      · refine ensures_bind _ _ _ _ _ (ensures_check inv _) fun h => ?_
        refine ensures_ite _ _ _ _ _ (fun _ => ?_) fun _ => ?_
        · exact ensures_pure _ _ _ fun _ before => ⟨handlers_keep_serial _ _ _ _ h before.1, before.2⟩
        · intro s next s' before run
          obtain ⟨same, holds⟩ := ih read.2 h.self h.event s next s' before.2 run
          exact ⟨same.trans (handlers_keep_serial _ _ _ _ h before.1), holds⟩

def OpenLeft (serial : Option String) (opened : MextOpened) (s : ψ) : Prop :=
  match opened.status with
  | none => inv s
  | some error => if error = 0 then opened.self.monome.serial = serial ∧ inv s else closed s

theorem open_fail_closes (serial : Option String) (self : Mext) :
    Ensures inv (mextOpenFail P self) (OpenLeft inv closed serial) := by
  refine ensures_bind _ _ _ _ _ (ensures_call inv closed _ kept.close) fun _ => ?_
  exact ensures_pure _ _ _ fun _ holds => holds

theorem handshake_leaves [t : Target] (serial : Option String) (deadline retryAt : UInt64) (fuel : Nat) (retried : Bool)
    (self : Mext) (e : MonomeEvent) (named : self.monome.serial = serial) :
    Ensures inv (mextHandshake P deadline retryAt fuel retried self e) (OpenLeft inv closed serial) := by
  induction fuel generalizing retried self e with
  | zero => exact ensures_pure _ _ _ fun _ holds => holds
  | succ fuel ih =>
      have fail := open_fail_closes P inv closed kept serial
      refine ensures_ite _ _ _ _ _ (fun _ => ensures_pure _ _ _ fun _ holds => ⟨named, holds⟩) fun _ => ?_
      refine ensures_bind _ _ _ _ _ (ensures_call inv inv _ kept.monotonicMilliseconds) fun now => ?_
      refine ensures_ite _ _ _ _ _ (fun _ => fail self) fun _ => ?_
      refine ensures_ite _ _ _ _ _ (fun _ => ?_) fun _ => ?_
      all_goals
        refine ensures_bind _ (fun _ => inv) _ _ _ (by
          first | exact query_pending_keeps P inv closed kept self | exact ensures_pure _ _ _ fun _ holds => holds)
          fun queried => ?_
        refine ensures_ite _ _ _ _ _ (fun _ => fail self) fun _ => ?_
        refine ensures_bind _ _ _ _ _ (ensures_call inv inv _ (kept.waitForInput _)) fun status => ?_
        refine ensures_ite _ _ _ _ _ (fun _ => fail self) fun _ => ?_
        refine ensures_ite _ _ _ _ _ (fun _ => ?_) fun _ => ih _ self e named
        refine ensures_bind _ _ _ _ _ (next_event_keeps P inv closed kept fuel _ self e) fun next => ?_
        intro s opened s' before run
        have same := before.1.trans named
        cases answer : next.status with
        | none =>
            rw [answer] at run
            cases run
            exact before.2
        | some returned =>
            rw [answer] at run
            refine ensures_ite inv (OpenLeft inv closed serial) _ _ (returned < 0) (fun _ => fail next.self)
              (fun _ => ih _ next.self next.event same) s opened s' before.2 run

theorem first_round_leaves [t : Target] (serial : Option String) (fuel : Nat) (self : Mext) (e : MonomeEvent)
    (named : self.monome.serial = serial) :
    Ensures inv (do
      let start ← Io.call P.monotonicMilliseconds
      let queried ← mextQueryPending P self
      if queried < 0 then
        mextOpenFail P self
      else
        mextHandshake P (start + mextHandshakeTimeoutMs) (start + mextHandshakeRetryMs) fuel false self e)
      (OpenLeft inv closed serial) := by
  refine ensures_bind _ _ _ _ _ (ensures_call inv inv _ kept.monotonicMilliseconds) fun start => ?_
  refine ensures_bind _ _ _ _ _ (query_pending_keeps P inv closed kept self) fun queried => ?_
  exact ensures_ite _ _ _ _ _ (fun _ => open_fail_closes P inv closed kept serial self)
    fun _ => handshake_leaves P inv closed kept serial _ _ fuel false self e named

end Handshake

section Booked

variable (o : Outcomes) (line : Platform ω)

def Holds (held : List Resource) (s : Books ω) : Prop := Ledger.run [] s.2 = some held

theorem holds_after (held after : List Resource) (events : List (Event Resource)) (w w' : ω) (ledger : List (Event Resource))
    (holds : Holds held (w, ledger)) (moves : Ledger.run held events = some after) : Holds after (w', ledger ++ events) := by
  have before : Ledger.run [] ledger = some held := holds
  rw [Holds, run_append, before]
  exact moves

theorem note_achieves (held after : List Resource) (events : List (Event Resource))
    (moves : Ledger.run held events = some after) :
    Achieves (Holds (ω := ω) held) (note events) (fun _ => Holds after) :=
  fun s holds => ⟨(), (s.1, s.2 ++ events), rfl, holds_after held after events s.1 s.1 s.2 holds moves⟩

theorem used (held : List Resource) (r : Resource) : Ledger.run (r :: held) [.use r] = some (r :: held) := by
  simp [Ledger.run, Ledger.step]

theorem handed_back (held : List Resource) (r : Resource) : Ledger.run (r :: held) [.release r] = some held := by
  simp [Ledger.run, Ledger.step]

theorem booked_kept (held : List Resource) : Kept (bookedPlatform o line) (Holds (.terminal :: held)) (Holds held) := by
  have uses := used held .terminal
  have closes := handed_back held .terminal
  exact ⟨fun _ s holds => holds_after _ _ _ s.1 _ s.2 holds uses, fun _ s holds => holds_after _ _ _ s.1 _ s.2 holds uses,
    fun _ s holds => holds_after _ _ _ s.1 _ s.2 holds uses, fun s holds => holds,
    fun s holds => holds_after _ _ _ s.1 s.1 s.2 holds closes⟩

theorem platform_open_booked (held : List Resource) (fresh : .terminal ∉ held) (m : MonomeDevmap) (dev : String)
    (s : Books ω) (holds : Holds held s) :
    let opened := (bookedPlatform o line).openDevice m dev s
    (opened.1 = 0 ∧ Holds (.terminal :: held) opened.2) ∨ (opened.1 = 1 ∧ Holds held opened.2) := by
  have opens : Ledger.run held [.acquire .terminal, .use .terminal] = some (.terminal :: held) := by
    simp [Ledger.run, Ledger.step, fresh]
  have got := holds_after held _ _ s.1 s.1 s.2 holds opens
  have set := holds_after _ _ _ s.1 s.1 _ got (used held .terminal)
  have flushed := holds_after _ _ _ s.1 s.1 _ set (used held .terminal)
  have closed (ledger : List (Event Resource)) (open_ : Holds (.terminal :: held) (s.1, ledger)) :
      Holds held (s.1, (errClose ledger).2) := holds_after _ _ _ s.1 s.1 ledger open_ (handed_back held .terminal)
  simp only [bookedPlatform, monomePlatformOpen]
  split
  · exact .inr ⟨rfl, holds⟩
  · split
    · exact .inr ⟨rfl, closed _ got⟩
    · split
      · exact .inr ⟨rfl, closed _ got⟩
      · split
        · exact .inr ⟨rfl, closed _ set⟩
        · split
          · exact .inr ⟨rfl, closed _ flushed⟩
          · exact .inl ⟨rfl, flushed⟩

def ModuleOpened (held : List Resource) (serial : Option String) (opened : Option Int32 × ProtocolObject)
    (s : Books ω) : Prop :=
  match opened.1 with
  | none => ∃ open_, Holds open_ s
  | some error =>
      if error = 0 then opened.2.serialField = serial ∧ Holds (.terminal :: held) s else Holds held s

theorem open_left_opened (held : List Resource) (serial : Option String) (opened : MextOpened) (s : Books ω)
    (left : OpenLeft (Holds (.terminal :: held)) (Holds held) serial opened s) :
    ModuleOpened held serial (opened.status, .serial (.mext opened.self)) s := by
  obtain ⟨status, self⟩ := opened
  cases status with
  | none => exact ⟨_, left⟩
  | some error => exact left

theorem mext_opened [t : Target] (held : List Resource) (fresh : .terminal ∉ held) (fuel : Nat) (e : MonomeEvent)
    (dev : String) (serial : Option String) (m : MonomeDevmap) :
    Achieves (Holds held) (mextOpen (bookedPlatform o line) fuel mextNew e dev serial m)
      (fun opened => ModuleOpened held serial (opened.status, .serial (.mext opened.self))) := by
  refine achieves_of_ensures _ _ _ (fun s _ => ?_) ?_
  · obtain ⟨opened, w', log, ran, -⟩ := mext_open_safe (bookedPlatform o line) fuel e dev serial m s
    have seen := shadows_open (logged (bookedPlatform o line)) (bookedPlatform o line) Prod.fst (logged_watches _) fuel mextNew
      e dev serial m (s, [])
    rw [ran] at seen
    exact ⟨_, seen⟩
  · intro s opened s' holds run
    obtain ⟨status, s1, called, rest⟩ := io_bind_inv _ _ _ _ _ run
    have answer : (bookedPlatform o line).openDevice m dev s = (status, s1) := Except.ok.inj called
    have ladder := platform_open_booked o line held fresh m dev s holds
    rw [answer] at ladder
    rcases ladder with ⟨zero, opens⟩ | ⟨one, shut⟩
    · have none : status = 0 := zero
      rw [none] at rest
      have left := first_round_leaves (bookedPlatform o line) _ _ (booked_kept o line held) serial fuel _ e rfl s1 opened s'
        opens rest
      exact open_left_opened held serial opened s' left
    · have some : status = 1 := one
      rw [some] at rest
      cases rest
      exact shut

theorem line_opened {α : Type} (held : List Resource) (fresh : .terminal ∉ held) (self : α) (object : α → ProtocolObject)
    (dev : String) (serial : Option String) (m : MonomeDevmap) (named : (object self).serialField = serial) :
    Achieves (Holds held)
      (do let status ← Io.call ((bookedPlatform o line).openDevice m dev); return (status, self) : Io (Books ω) (Int32 × α))
      (fun opened => ModuleOpened held serial (some opened.1, object opened.2)) := by
  intro s holds
  refine ⟨_, _, rfl, ?_⟩
  rcases platform_open_booked o line held fresh m dev s holds with ⟨zero, opens⟩ | ⟨one, shut⟩
  · simp only [ModuleOpened]
    rw [if_pos zero]
    exact ⟨named, opens⟩
  · simp only [ModuleOpened]
    rw [if_neg (by rw [one]; decide)]
    exact shut

end Booked

def base : Option String → List Resource
  | none => []
  | some _ => [.serial]

def optional (there : Bool) (r : Resource) : List Resource := if there then [r] else []

def OscSlots.held (slots : OscSlots) : List Resource :=
  (slots.cached.map Resource.cachedPath).reverse ++ optional slots.outgoing Resource.address ++
    optional slots.pathPrefix Resource.oscPrefix ++ optional slots.server Resource.server ++ [Resource.object, Resource.module]

theorem object_touched (slots : OscSlots) : Ledger.run slots.held [.use .object] = some slots.held := by
  simp [Ledger.run, Ledger.step, OscSlots.held]

def Handle.owned (handle : Handle) : List Resource :=
  match handle.object with
  | .serial device => [.device, .terminal, .object, .module] ++ base device.monome.serial
  | .osc slots => .device :: slots.held

def Handle.Whole (handle : Handle) : Prop :=
  match handle.object with
  | .serial _ => True
  | .osc slots => slots.server = true ∧ slots.cached = oscPaths

def Cleared (s : Books ω) : Prop := Settled s.2 ∧ ∀ r, s.2.count (.release r) = s.2.count (.acquire r)

def AllOrNothing (o : Outcomes) (line : Platform ω) (open_ : Io (Books ω) (Option (Option Handle))) (w : ω) : Prop :=
  Achieves (fun s => s = (w, [])) open_ fun result s =>
    match result with
    | none => ∃ held, Holds held s
    | some none => Cleared s
    | some (some handle) =>
        handle.Whole ∧ Holds handle.owned s ∧ Achieves (Holds handle.owned) (monomeClose o line handle) fun _ => Cleared

def Outcomes.Loads (o : Outcomes) : Prop := o.asprintf = true ∧ o.dlopen = true ∧ o.dlsym = true ∧ o.calloc = true

def SocketRefused (o : Outcomes) (dev : Option String) : Prop :=
  ∃ url, dev = some url ∧ isUrl url ∧ o.Loads ∧ o.serverNew = true ∧ o.socketFd < 0

theorem holds_cleared (s : Books ω) (holds : Holds [] s) : Cleared s :=
  ⟨holds, fun r => settled_once s.2 r holds⟩

section Ladder

variable (o : Outcomes) (line : Platform ω)

theorem load_protocol_achieves (held : List Resource) (fresh : .scratch ∉ held ∧ .module ∉ held ∧ .object ∉ held)
    (proto : MonomeProto) :
    Achieves (Holds (ω := ω) held) (loadProtocol o proto) fun object s =>
      (o.Loads ∧ object = some (protocolNew proto) ∧ Holds (.object :: .module :: held) s) ∨
        (¬ o.Loads ∧ object = none ∧ Holds held s) := by
  obtain ⟨noScratch, noModule, noObject⟩ := fresh
  have named : Ledger.run held [.acquire .scratch, .use .scratch, .release .scratch] = some held := by
    simp [Ledger.run, Ledger.step, noScratch]
  have loaded : Ledger.run held [.acquire .module, .use .module] = some (.module :: held) := by
    simp [Ledger.run, Ledger.step, noModule]
  have made : Ledger.run (.module :: held) [.acquire .object, .use .object] = some (.object :: .module :: held) := by
    simp [Ledger.run, Ledger.step, noObject]
  refine achieves_ite _ _ _ _ _ (fun formatted => ?_) fun failed => ?_
  · refine achieves_bind _ _ _ _ _ (note_achieves held held _ named) fun _ => ?_
    refine achieves_ite _ _ _ _ _ (fun found => ?_) fun failed => ?_
    · refine achieves_bind _ _ _ _ _ (note_achieves held _ _ loaded) fun _ => ?_
      refine achieves_ite _ _ _ _ _ (fun rest => ?_) fun failed => ?_
      · refine achieves_bind _ _ _ _ _ (note_achieves _ _ _ made) fun _ => ?_
        exact achieves_pure _ _ _ fun _ holds => .inl ⟨⟨formatted, found, rest.1, rest.2⟩, rfl, holds⟩
      · refine achieves_bind _ _ _ _ _ (note_achieves _ _ _ (handed_back held .module)) fun _ => ?_
        exact achieves_pure _ _ _ fun _ holds => .inr ⟨fun loads => failed loads.2.2, rfl, holds⟩
    · exact achieves_pure _ _ _ fun _ holds => .inr ⟨fun loads => failed loads.2.1, rfl, holds⟩
  · exact achieves_pure _ _ _ fun _ holds => .inr ⟨fun loads => failed loads.1, rfl, holds⟩

theorem err_init_achieves (serial : Option String) :
    Achieves (Holds (ω := ω) (base serial)) (errInit serial) fun result s => result = some none ∧ Holds [] s := by
  refine achieves_bind _ _ _ _ _ (note_achieves (base serial) [] _ ?_) fun _ =>
    achieves_pure _ _ _ fun _ holds => ⟨rfl, holds⟩
  cases serial <;> rfl

theorem serial_free_achieves (held : List Resource) (device : Device) :
    Achieves (Holds (ω := ω) (.object :: .module :: held)) (monomePlatformFree (.serial device)) fun _ => Holds held := by
  refine achieves_bind _ _ _ _ _ (note_achieves _ _ _ (used (.module :: held) .object)) fun _ => ?_
  refine achieves_bind _ _ _ _ _ (note_achieves _ _ _ (handed_back (.module :: held) .object)) fun _ => ?_
  exact note_achieves _ _ _ (handed_back held .module)

theorem serial_close_achieves (held : List Resource) (device : Device) :
    Achieves (Holds (.terminal :: .object :: held)) (protocolClose o line (.serial device))
      fun _ => Holds (.object :: held) := by
  have object : Ledger.run (.terminal :: .object :: held) [.use .object] = some (.terminal :: .object :: held) := by
    simp [Ledger.run, Ledger.step]
  refine achieves_bind _ _ _ _ _ (note_achieves _ _ _ object) fun _ s holds => ?_
  have closed := (booked_kept o line (.object :: held)).close s holds
  cases device with
  | mext self => exact ⟨_, _, rfl, closed⟩
  | series self => exact ⟨_, _, rfl, closed⟩
  | m40h self => exact ⟨_, _, rfl, closed⟩

theorem serial_protocol_open_achieves [t : Target] (serial : Option String) (m : MonomeDevmap) (proto : MonomeProto)
    (tty : proto ≠ .osc) (fuel : Nat) (e : MonomeEvent) (dev : String) :
    Achieves (Holds (.object :: .module :: base serial))
      (protocolOpen o line fuel e dev serial (some m) (protocolNew proto)) fun opened s =>
        (∃ device, opened.2 = .serial device) ∧ ModuleOpened (.object :: .module :: base serial) serial opened s := by
  have fresh : Resource.terminal ∉ Resource.object :: .module :: base serial := by
    cases serial <;> simp [base]
  refine achieves_bind _ _ _ _ _ (note_achieves _ _ _ (used (.module :: base serial) .object)) fun _ => ?_
  cases proto with
  | osc => exact absurd rfl tty
  | mext =>
      refine achieves_bind _ _ _ _ _ (mext_opened o line _ fresh fuel e dev serial m) fun opened => ?_
      exact achieves_pure _ _ _ fun _ after => ⟨⟨_, rfl⟩, after⟩
  | series =>
      refine achieves_bind _ _ _ _ _ (line_opened o line _ fresh _ (fun self => .serial (.series self)) dev serial m rfl)
        fun opened => ?_
      exact achieves_pure _ _ _ fun _ after => ⟨⟨_, rfl⟩, after⟩
  | m40h =>
      refine achieves_bind _ _ _ _ _ (line_opened o line _ fresh _ (fun self => .serial (.m40h self)) dev serial m rfl)
        fun opened => ?_
      exact achieves_pure _ _ _ fun _ after => ⟨⟨_, rfl⟩, after⟩

def Settles (result : Option (Option Handle)) (s : Books ω) : Prop :=
  match result with
  | none => ∃ held, Holds held s
  | some none => Holds [] s
  | some (some handle) => handle.Whole ∧ Holds handle.owned s

theorem err_init_settles (serial : Option String) : Achieves (Holds (ω := ω) (base serial)) (errInit serial) Settles := by
  intro s holds
  obtain ⟨result, s', ran, same, empty⟩ := err_init_achieves serial s holds
  subst same
  exact ⟨_, s', ran, empty⟩

theorem err_protocol_settles (serial : Option String) (device : Device) :
    Achieves (Holds (ω := ω) (.object :: .module :: base serial))
      (do monomePlatformFree (.serial device); errInit serial) Settles :=
  achieves_bind _ _ _ _ _ (serial_free_achieves (base serial) device) fun _ => err_init_settles serial

theorem serial_open_achieves [t : Target] (serial : Option String) (m : MonomeDevmap) (proto : MonomeProto)
    (tty : proto ≠ .osc) (fuel : Nat) (e : MonomeEvent) (dev : String) :
    Achieves (Holds (base serial)) (openProtocol o line fuel e dev serial (some m) proto) Settles := by
  have fresh : .scratch ∉ base serial ∧ .module ∉ base serial ∧ .object ∉ base serial := by
    cases serial <;> simp [base]
  refine achieves_bind _ _ _ _ _ (load_protocol_achieves o (base serial) fresh proto) fun object s loaded => ?_
  rcases loaded with ⟨_, is, holds⟩ | ⟨_, is, holds⟩
  · subst is
    refine achieves_bind _ _ _ _ _ (serial_protocol_open_achieves o line serial m proto tty fuel e dev) ?_ s holds
    rintro ⟨status, object⟩ s opened
    obtain ⟨⟨device, is⟩, left⟩ := opened
    subst is
    cases status with
    | none => exact ⟨_, s, rfl, left⟩
    | some error =>
        by_cases failed : error = 0
        · subst failed
          obtain ⟨named, holds⟩ : device.monome.serial = serial ∧ Holds (.terminal :: .object :: .module :: base serial) s := left
          have touched : Ledger.run (.terminal :: .object :: .module :: base serial) [.use .object] =
              some (.terminal :: .object :: .module :: base serial) := by
            simp [Ledger.run, Ledger.step]
          have kept : Ledger.run (.terminal :: .object :: .module :: base serial) [.acquire .device, .use .object] =
              some (.device :: .terminal :: .object :: .module :: base serial) := by
            cases serial <;> rfl
          refine achieves_bind _ _ _ _ _ (note_achieves _ _ _ touched) (fun _ => ?_) s holds
          refine achieves_ite _ _ _ _ _ (fun _ => ?_) fun _ => ?_
          · refine achieves_bind _ _ _ _ _ (note_achieves _ _ _ kept) fun _ => ?_
            refine achieves_pure _ _ _ fun s holds => ⟨trivial, ?_⟩
            rw [← named] at holds
            exact holds
          · refine achieves_bind _ _ _ _ _ (serial_close_achieves o line (.module :: base serial) device) fun _ => ?_
            exact err_protocol_settles serial device
        · have holds : Holds (.object :: .module :: base serial) s := by
            simpa only [ModuleOpened, if_neg failed] using left
          have cleared := err_protocol_settles serial device s holds
          simpa only [ne_eq, failed, not_false_eq_true, if_true] using cleared
  · subst is
    exact err_init_settles serial s holds

theorem osc_free_achieves (slots : OscSlots) (listed : slots.cached = [] ∨ slots.cached = oscPaths) :
    Achieves (Holds (ω := ω) slots.held) (protoOscFree slots) fun _ => Holds [.module] := by
  obtain ⟨server, named, outgoing, cached⟩ := slots
  have moves : Ledger.run (OscSlots.held ⟨server, named, outgoing, cached⟩)
      ([Event.use Resource.object] ++ (cached.map fun path => .release (.cachedPath path)) ++ released named .oscPrefix ++
        released server .server ++ released outgoing .address ++ [Event.use Resource.object, .release .object]) = some [.module] := by
    simp only at listed
    rcases listed with same | same <;> rw [same] <;> cases server <;> cases named <;> cases outgoing <;> decide
  intro s holds
  have freed := holds_after _ _ _ s.1 s.1 s.2 holds moves
  simp only [← List.append_assoc] at freed
  exact ⟨_, _, rfl, freed⟩

def OscOpened (opened : Int32 × OscSlots) (s : Books ω) : Prop :=
  if o.serverNew = true then
    if o.socketFd < 0 then opened.1 = 1 ∧ Holds [.module] s
    else opened.1 = 0 ∧ (Handle.Whole ⟨.osc opened.2, ""⟩) ∧ Holds opened.2.held s
  else opened = (1, ⟨false, false, false, []⟩) ∧ Holds [.object, .module] s

theorem osc_open_achieves : Achieves (Holds (ω := ω) [.object, .module]) (protoOscOpen o ⟨false, false, false, []⟩)
    (OscOpened o) := by
  refine achieves_ite _ _ _ _ _ (fun made => ?_) fun failed => ?_
  · have prefixed : Ledger.run [.server, .object, .module] (acquired o.urlGetPath.isSome .oscPrefix) =
        some (optional o.urlGetPath.isSome .oscPrefix ++ [Resource.server, .object, .module]) := by
      cases o.urlGetPath.isSome <;> rfl
    have addressed : Ledger.run (optional o.urlGetPath.isSome .oscPrefix ++ [Resource.server, .object, .module])
        (acquired o.addressNew .address) =
          some (OscSlots.held ⟨true, o.urlGetPath.isSome, o.addressNew, []⟩) := by
      cases o.urlGetPath.isSome <;> cases o.addressNew <;> rfl
    have asked : Ledger.run (OscSlots.held ⟨true, o.urlGetPath.isSome, o.addressNew, []⟩)
        [.use .object, .use .server] =
          some (OscSlots.held ⟨true, o.urlGetPath.isSome, o.addressNew, []⟩) := by
      cases o.urlGetPath.isSome <;> cases o.addressNew <;> rfl
    have added : Ledger.run (OscSlots.held ⟨true, o.urlGetPath.isSome, o.addressNew, []⟩)
        (.use .server :: addMethod ++ addMethod ++ addMethod) =
          some (OscSlots.held ⟨true, o.urlGetPath.isSome, o.addressNew, []⟩) := by
      cases o.urlGetPath.isSome <;> cases o.addressNew <;> rfl
    have cached : Ledger.run (OscSlots.held ⟨true, o.urlGetPath.isSome, o.addressNew, []⟩)
        (oscPaths.map fun path => .acquire (.cachedPath path)) =
          some (OscSlots.held ⟨true, o.urlGetPath.isSome, o.addressNew, oscPaths⟩) := by
      cases o.urlGetPath.isSome <;> cases o.addressNew <;> rfl
    refine achieves_bind _ _ _ _ _ (note_achieves _ [.server, .object, .module] _ rfl) fun _ => ?_
    refine achieves_bind _ _ _ _ _ (note_achieves _ _ _ prefixed) fun _ => ?_
    refine achieves_bind _ _ _ _ _ (note_achieves _ _ _ addressed) fun _ => ?_
    refine achieves_bind _ _ _ _ _ (note_achieves _ _ _ asked) fun _ => ?_
    refine achieves_ite _ _ _ _ _ (fun refused => ?_) fun bound => ?_
    · refine achieves_bind _ (fun _ => Holds _) _ _ _ (achieves_pure _ _ 0 fun _ holds => holds) fun _ => ?_
      refine achieves_bind _ _ _ _ _ (osc_free_achieves _ (.inl rfl)) fun slots => ?_
      refine achieves_pure _ _ _ fun s holds => ?_
      rw [OscOpened, if_pos made, if_pos refused]
      exact ⟨rfl, holds⟩
    · refine achieves_bind _ _ _ _ _ (note_achieves _ _ _ added) fun _ => ?_
      refine achieves_bind _ _ _ _ _ (note_achieves _ _ _ cached) fun _ => ?_
      refine achieves_pure _ _ _ fun s holds => ?_
      rw [OscOpened, if_pos made, if_neg bound]
      exact ⟨rfl, ⟨rfl, rfl⟩, holds⟩
  · exact achieves_pure _ _ _ fun _ holds => by
      rw [OscOpened, if_neg failed]
      exact ⟨rfl, holds⟩

theorem osc_protocol_open_achieves [t : Target] (fuel : Nat) (e : MonomeEvent) (dev : String) :
    Achieves (Holds [.object, .module]) (protocolOpen o line fuel e dev none none (protocolNew .osc)) fun opened s =>
      ∃ status slots, opened = (some status, .osc slots) ∧ OscOpened o (status, slots) s := by
  refine achieves_bind _ _ _ _ _ (note_achieves _ _ _ (used [.module] .object)) fun _ => ?_
  refine achieves_bind _ _ _ _ _ (osc_open_achieves o) fun opened => ?_
  exact achieves_pure _ _ _ fun _ after => ⟨opened.1, opened.2, rfl, after⟩

theorem osc_free_module_achieves (slots : OscSlots) (listed : slots.cached = [] ∨ slots.cached = oscPaths) :
    Achieves (Holds (ω := ω) slots.held) (monomePlatformFree (.osc slots)) fun _ => Holds [] := by
  refine achieves_bind _ _ _ _ _ (note_achieves _ _ _ (object_touched slots)) fun _ => ?_
  refine achieves_bind _ _ _ _ _ ?_ fun _ => note_achieves _ _ _ (handed_back [] .module)
  refine achieves_bind _ _ _ _ _ (osc_free_achieves slots listed) fun _ => ?_
  exact achieves_pure _ _ _ fun _ holds => holds

theorem osc_close_achieves (slots : OscSlots) :
    Achieves (Holds slots.held) (protocolClose o line (.osc slots))
      fun _ => Holds slots.held := by
  refine achieves_bind _ _ _ _ _ (note_achieves _ _ _ (object_touched slots)) fun _ => ?_
  exact achieves_pure _ _ _ fun _ holds => holds

theorem osc_open_settles [t : Target] (fuel : Nat) (e : MonomeEvent) (dev : String)
    (bound : ¬ (o.Loads ∧ o.serverNew = true ∧ o.socketFd < 0)) :
    Achieves (Holds []) (openProtocol o line fuel e dev none none .osc) Settles := by
  refine achieves_bind _ _ _ _ _ (load_protocol_achieves o [] (by simp) .osc) fun object s loaded => ?_
  rcases loaded with ⟨loads, is, holds⟩ | ⟨_, is, holds⟩
  · subst is
    refine achieves_bind _ _ _ _ _ (osc_protocol_open_achieves o line fuel e dev) ?_ s holds
    rintro opened s ⟨status, slots, is, left⟩
    subst is
    rw [OscOpened] at left
    by_cases made : o.serverNew = true
    · have fine : ¬ o.socketFd < 0 := fun refused => bound ⟨loads, made, refused⟩
      rw [if_pos made, if_neg fine] at left
      obtain ⟨zero, whole, holds⟩ := left
      have none : status = 0 := zero
      subst none
      have kept : Ledger.run slots.held [.acquire .device, .use .object] = some (.device :: slots.held) := by
        simp [Ledger.run, Ledger.step, OscSlots.held, optional]
      refine achieves_bind _ _ _ _ _ (note_achieves _ _ _ (object_touched slots)) (fun _ => ?_) s holds
      refine achieves_ite _ _ _ _ _ (fun _ => ?_) fun _ => ?_
      · refine achieves_bind _ _ _ _ _ (note_achieves _ _ _ kept) fun _ => ?_
        exact achieves_pure _ _ _ fun _ holds => ⟨whole, holds⟩
      · refine achieves_bind _ _ _ _ _ (osc_close_achieves o line slots) fun _ => ?_
        exact achieves_bind _ _ _ _ _ (osc_free_module_achieves slots (.inr whole.2)) fun _ => err_init_settles none
    · rw [if_neg made] at left
      obtain ⟨is, holds⟩ := left
      cases is
      refine achieves_bind _ _ _ _ _ (osc_free_module_achieves ⟨false, false, false, []⟩ (.inl rfl)) (fun _ => ?_) s holds
      exact err_init_settles none
  · subst is
    exact err_init_settles none s holds

def Broken (s : Books ω) : Prop := Ledger.run [] s.2 = none

theorem note_breaks (held : List Resource) (events : List (Event Resource)) (wrong : Ledger.run held events = none) :
    Achieves (Holds (ω := ω) held) (note events) fun _ => Broken := by
  intro s holds
  have before : Ledger.run [] s.2 = some held := holds
  refine ⟨(), _, rfl, ?_⟩
  show Ledger.run [] (s.2 ++ events) = none
  rw [run_append, before]
  exact wrong

theorem note_broken (events : List (Event Resource)) : Achieves (Broken (ω := ω)) (note events) fun _ => Broken := by
  intro s broken
  have before : Ledger.run [] s.2 = none := broken
  refine ⟨(), _, rfl, ?_⟩
  show Ledger.run [] (s.2 ++ events) = none
  rw [run_append, before]
  rfl

theorem osc_free_broken (slots : OscSlots) : Achieves (Broken (ω := ω)) (protoOscFree slots) fun _ => Broken := by
  refine achieves_bind _ _ _ _ _ (note_broken _) fun _ => ?_
  refine achieves_bind _ _ _ _ _ (note_broken _) fun _ => ?_
  refine achieves_bind _ _ _ _ _ (note_broken _) fun _ => ?_
  refine achieves_bind _ _ _ _ _ (note_broken _) fun _ => ?_
  refine achieves_bind _ _ _ _ _ (note_broken _) fun _ => ?_
  refine achieves_bind _ _ _ _ _ (note_broken _) fun _ => ?_
  exact achieves_pure _ _ _ fun _ broken => broken

theorem osc_freed_twice (slots : OscSlots) :
    Achieves (Holds (ω := ω) [.module]) (monomePlatformFree (.osc slots)) fun _ => Broken := by
  refine achieves_bind _ _ _ _ _ (note_breaks [.module] [.use .object] rfl) fun _ => ?_
  refine achieves_bind _ _ _ _ _ ?_ fun _ => note_broken _
  exact achieves_bind _ _ _ _ _ (osc_free_broken slots) fun _ => achieves_pure _ _ _ fun _ broken => broken

theorem osc_refused_breaks [t : Target] (fuel : Nat) (e : MonomeEvent) (dev : String)
    (refused : o.Loads ∧ o.serverNew = true ∧ o.socketFd < 0) :
    Achieves (Holds []) (openProtocol o line fuel e dev none none .osc) fun result s => result = some none ∧ Broken s := by
  obtain ⟨loads, made, unbound⟩ := refused
  refine achieves_bind _ _ _ _ _ (load_protocol_achieves o [] (by simp) .osc) fun object s loaded => ?_
  rcases loaded with ⟨_, is, holds⟩ | ⟨fails, _, _⟩
  · subst is
    refine achieves_bind _ _ _ _ _ (osc_protocol_open_achieves o line fuel e dev) ?_ s holds
    rintro opened s ⟨status, slots, is, left⟩
    subst is
    rw [OscOpened, if_pos made, if_pos unbound] at left
    obtain ⟨one, holds⟩ := left
    have error : status = 1 := one
    subst error
    refine achieves_bind _ _ _ _ _ (osc_freed_twice slots) (fun _ => ?_) s holds
    refine achieves_bind _ _ _ _ _ (note_broken _) fun _ => ?_
    exact achieves_pure _ _ _ fun _ broken => ⟨rfl, broken⟩
  · exact absurd loads fails

theorem monome_close_clears (handle : Handle) (whole : handle.Whole) :
    Achieves (Holds handle.owned) (monomeClose o line handle) fun _ => Cleared := by
  have cleared (held : List Resource) (x : Io (Books ω) Unit) (ends : Achieves (Holds held) x fun _ => Holds []) :
      Achieves (Holds held) x fun _ => Cleared := by
    intro s holds
    obtain ⟨u, s', ran, empty⟩ := ends s holds
    exact ⟨u, s', ran, holds_cleared s' empty⟩
  apply cleared
  obtain ⟨object, dev⟩ := handle
  cases object with
  | serial device =>
      have touched : Ledger.run (Handle.owned ⟨.serial device, dev⟩) [.use .object] = some (Handle.owned ⟨.serial device, dev⟩) := by
        simp [Ledger.run, Ledger.step, Handle.owned]
      have freed : Ledger.run (Handle.owned ⟨.serial device, dev⟩) (released device.monome.serial.isSome .serial) =
          some [.device, .terminal, .object, .module] := by
        simp only [Handle.owned]
        cases device.monome.serial <;> rfl
      refine achieves_bind _ _ _ _ _ (note_achieves _ _ _ touched) fun _ => ?_
      refine achieves_bind _ _ _ _ _ (note_achieves _ _ _ freed) fun _ => ?_
      refine achieves_bind _ _ _ _ _ (note_achieves _ [.terminal, .object, .module] _ rfl) fun _ => ?_
      refine achieves_bind _ _ _ _ _ (serial_close_achieves o line [.module] device) fun _ => ?_
      exact serial_free_achieves [] device
  | osc slots =>
      have touched : Ledger.run (.device :: slots.held) [.use .object] = some (.device :: slots.held) := by
        simp [Ledger.run, Ledger.step, OscSlots.held]
      have freed : Ledger.run (.device :: slots.held) [.use .object, .release .device] = some slots.held := by
        simp [Ledger.run, Ledger.step, OscSlots.held]
      refine achieves_bind _ _ _ _ _ (note_achieves _ _ _ touched) fun _ => ?_
      refine achieves_bind _ _ _ _ _ (note_achieves _ (.device :: slots.held) [] rfl) fun _ => ?_
      refine achieves_bind _ _ _ _ _ (note_achieves _ _ _ freed) fun _ => ?_
      refine achieves_bind _ _ _ _ _ (osc_close_achieves o line slots) fun _ => ?_
      exact osc_free_module_achieves slots (.inr whole.2)

end Ladder

theorem mapping_serial (o : Outcomes) (serial : String) (m : MonomeDevmap) (found : mapSerialToDevice o serial = some m) :
    m.proto ≠ .osc := by
  have table : ∀ m ∈ mapping, m.proto ≠ .osc := by decide
  exact table m (List.mem_of_find?_eq_some found)

theorem monome_open_settles [t : Target] (o : Outcomes) (line : Platform ω) (fuel : Nat) (e : MonomeEvent)
    (dev : Option String) (bound : ¬ SocketRefused o dev) : Achieves (Holds [])
    (monomeOpen o line fuel e dev) Settles := by
  cases dev with
  | none => exact achieves_pure _ _ _ fun _ holds => holds
  | some dev =>
      refine achieves_ite _ _ _ _ _ (fun url => ?_) fun tty => ?_
      · exact osc_open_settles o line fuel e dev fun refused => bound ⟨dev, rfl, url, refused⟩
      · cases found : o.getDevSerial with
        | none => exact achieves_pure _ _ _ fun _ holds => holds
        | some serial =>
            refine achieves_bind _ _ _ _ _ (note_achieves [] [.serial] _ rfl) fun _ => ?_
            cases matched : mapSerialToDevice o serial with
            | none =>
                refine achieves_bind _ _ _ _ _ (note_achieves [.serial] [] _ rfl) fun _ => ?_
                exact achieves_pure _ _ _ fun _ holds => holds
            | some m => exact serial_open_achieves o line (some serial) m m.proto (mapping_serial o serial m matched) fuel e dev

theorem monome_open_all_or_nothing_iff [t : Target] (o : Outcomes) (line : Platform ω) (fuel : Nat) (e : MonomeEvent)
    (dev : Option String) (w : ω) : AllOrNothing o line (monomeOpen o line fuel e dev) w ↔ ¬ SocketRefused o dev := by
  constructor
  · rintro clean ⟨url, same, named, refused⟩
    subst same
    obtain ⟨result, s, ran, left⟩ := clean (w, []) rfl
    rw [monomeOpen] at ran
    simp only [if_pos named] at ran
    obtain ⟨broken, s', again, failed, wrong⟩ := osc_refused_breaks o line fuel e url refused (w, []) rfl
    rw [ran] at again
    cases again
    subst failed
    have settled : Ledger.run [] s.2 = some [] := left.1
    rw [wrong] at settled
    cases settled
  · rintro bound s rfl
    obtain ⟨result, s', ran, settles⟩ := monome_open_settles o line fuel e dev bound (w, []) rfl
    refine ⟨result, s', ran, ?_⟩
    cases result with
    | none => exact settles
    | some opened =>
        cases opened with
        | none => exact holds_cleared s' settles
        | some handle => exact ⟨settles.1, settles.2, monome_close_clears o line handle settles.1⟩

-- Every step comes out well but lo_server_get_socket_fd.
def socketless : Outcomes where
  getDevSerial := none
  sscanf _ _ := 0
  asprintf := true
  dlopen := true
  dlsym := true
  calloc := true
  openFd := 3
  tcgetattr := 0
  cfsetispeed := 0
  cfsetospeed := 0
  tcsetattr := 0
  tcflush := 0
  closeFd := 0
  serverNew := true
  urlGetPath := some "/monome"
  addressNew := true
  socketFd := -1
  strdup := true

theorem socketless_freed_twice :
    ¬ AllOrNothing socketless link (monomeOpen (t := ⟨true, false⟩) socketless link 0 (keyEvent false 0 0)
      (some "osc.udp://127.0.0.1:8080/monome")) ⟨[], []⟩ := by
  intro clean
  have named : isUrl "osc.udp://127.0.0.1:8080/monome" := by decide
  have refused : socketless.Loads ∧ socketless.serverNew = true ∧ socketless.socketFd < 0 := by
    refine ⟨⟨rfl, rfl, rfl, rfl⟩, rfl, by decide⟩
  obtain ⟨result, s, ran, left⟩ := clean (⟨[], []⟩, []) rfl
  rw [monomeOpen] at ran
  simp only [if_pos named] at ran
  obtain ⟨broken, s', again, failed, wrong⟩ := osc_refused_breaks (t := ⟨true, false⟩) socketless link 0
    (keyEvent false 0 0) "osc.udp://127.0.0.1:8080/monome" refused (⟨[], []⟩, []) rfl
  rw [ran] at again
  cases again
  subst failed
  have settled : Ledger.run [] s.2 = some [] := left.1
  rw [wrong] at settled
  cases settled

end Libmonome
