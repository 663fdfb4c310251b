import Libmonome.Cpp.Tables

set_option autoImplicit false

namespace Libmonome

variable {κ : Type}

@[simp] theorem set_object_twice (w : World κ) (x : Nat) (o o' : Option MonomeObject) :
    (w.setObject x o).setObject x o' = w.setObject x o' := by
  simp only [World.setObject, Function.update_idem]

theorem pointee_some {α : Type} (heap : Nat → Option α) (address : Nat) (a : α) (there : heap address = some a) :
    pointee heap address = .ok a := by
  simp only [pointee, there]

def ran (raises : List (CallbackRun κ) → κ → MonomeEvent → Bool) (w : World κ) (s h : Nat) (state : CallbackState κ)
    (event : MonomeEvent) : World κ :=
  match state.callbacks event.eventType with
  | none => w
  | some callback =>
      let threw := raises w.runs callback event
      let state := { state with failureCount := if threw then state.failureCount + 1 else state.failureCount }
      { w.setState s (some state) with runs := w.runs ++ [⟨callback, h, event, threw⟩] }

theorem run_callback_ran (raises : List (CallbackRun κ) → κ → MonomeEvent → Bool) (w : World κ) (s h : Nat)
    (state : CallbackState κ) (event : MonomeEvent) (there : w.states s = some state) :
    runCallback raises w s h event = .ok (ran raises w s h state event) := by
  simp only [runCallback, pointee_some w.states s state there, Bind.bind, Except.bind, event_index_to_c, ran]
  cases slot : state.callbacks event.eventType with
  | none => rfl
  | some callback => rfl

theorem runs_ran (raises : List (CallbackRun κ) → κ → MonomeEvent → Bool) (w : World κ) (s h : Nat)
    (state : CallbackState κ) (event : MonomeEvent) :
    (ran raises w s h state event).runs = w.runs ++
      ((state.callbacks event.eventType).map fun callback => ⟨callback, h, event, raises w.runs callback event⟩).toList := by
  unfold ran
  cases slot : state.callbacks event.eventType with
  | none => exact (List.append_nil _).symm
  | some callback => rfl

def MayThrow (op : Op κ) (w w' : World κ) : Prop :=
  match op with
  | .construct _ errno => errno.isSome
  | .on _ _ _ _ => w' = w
  | _ => False

section Calls

variable (raises : List (CallbackRun κ) → κ → MonomeEvent → Bool) (w : World κ) (sound : Sound w)
include sound

theorem sound_ran (x s h : Nat) (owns : Owns w x s h) (state : CallbackState κ) (there : w.states s = some state)
    (event : MonomeEvent) : Sound (ran raises w s h state event) := by
  obtain ⟨handlers, state', open_, there', agree, counted⟩ := sound.tables x s h owns
  have same : state' = state := Option.some.inj (there'.symm.trans there)
  subst same
  unfold ran
  cases slot : state'.callbacks event.eventType with
  | none => exact sound
  | some callback =>
      have kept : w.handles = Function.update w.handles h (some handlers) := by
        rw [← open_, Function.update_eq_self]
      have thrown (k : Nat) (threw : Bool) :
          throwsOf { w with runs := w.runs ++ [⟨callback, h, event, threw⟩] } k =
            throwsOf w k + (if h = k ∧ threw = true then 1 else 0) := by
        simp [throwsOf, List.countP_append, List.countP_cons]
      have grown := sound_owner w sound x s h owns handlers
        { state' with failureCount := if raises w.runs callback event then state'.failureCount + 1 else state'.failureCount }
        (w.runs ++ [⟨callback, h, event, raises w.runs callback event⟩]) agree
        (by
          rw [thrown, counted]
          cases raises w.runs callback event with
          | false => simp
          | true => simp [UInt64.ofNat_add])
        (fun k apart => by simp [thrown, Ne.symm apart])
      rw [← kept] at grown
      exact grown

theorem event_handle_next_ran (x s h : Nat) (owns : Owns w x s h) (state : CallbackState κ)
    (there : w.states s = some state) (nativeStatus : Int32) (event : MonomeEvent) (read : nativeStatus > 0) :
    step raises w (.eventHandleNext x nativeStatus event) =
      .ok (.polled .event nativeStatus, ran raises w s h state event) := by
  obtain ⟨handlers, _, open_, -⟩ := sound.tables x s h owns
  simp only [step, live, pointee_some w.objects x _ owns, Bind.bind, Except.bind, eventHandleNext,
    pointee_some w.handles h handlers open_, if_pos read, run_callback_ran raises w s h state event there]
  rfl

theorem dispatch_ran (x s h : Nat) (owns : Owns w x s h) (state : CallbackState κ)
    (there : w.states s = some state) (nativeStatus : Int32) (event : MonomeEvent) (read : nativeStatus > 0) :
    step raises w (.dispatch h nativeStatus event) =
      .ok (.handled (if (state.callbacks event.eventType).isSome then 1 else 0), ran raises w s h state event) := by
  obtain ⟨handlers, state', open_, there', agree, -⟩ := sound.tables x s h owns
  have same : state' = state := Option.some.inj (there'.symm.trans there)
  subst same
  have notLow : ¬ nativeStatus ≤ 0 := Int32.not_le.mpr read
  simp only [step, monomeEventHandleNext, Bind.bind, Except.bind, pointee_some w.handles h handlers open_, if_neg notLow,
    agree event.eventType, slotFor]
  cases slot : state'.callbacks event.eventType with
  | none => simp [noHandler, ran, slot, Pure.pure, Except.pure]
  | some callback =>
      simp [handleEvent, run_callback_ran raises w s h state' event there, Pure.pure, Except.pure]

theorem on_registered (x s h : Nat) (owns : Owns w x s h) (handlers : Handlers) (state : CallbackState κ)
    (open_ : w.handles h = some handlers) (there : w.states s = some state) (type : Int32) (index : MonomeEventType)
    (indexed : eventIndex type = some index) (callback : Option κ) :
    onEvent w ⟨some s, some h⟩ type callback 0 = .ok (.returned,
      { w with handles := Function.update w.handles h (some (Function.update handlers index (slotFor s callback))),
               states := Function.update w.states s
                 (some { state with callbacks := Function.update state.callbacks index callback }) }) ∧
    Sound { w with handles := Function.update w.handles h (some (Function.update handlers index (slotFor s callback))),
                   states := Function.update w.states s
                     (some { state with callbacks := Function.update state.callbacks index callback }) } := by
  constructor
  · cases callback with
    | none =>
        simp only [onEvent, indexed, pointee_some w.handles h handlers open_, Bind.bind, Except.bind, Option.isSome_none,
          Bool.false_eq_true, if_false, monomeUnregisterHandler, monomeRegisterHandler, ne_eq, not_true_eq_false,
          World.setHandlers, pointee_some w.states s state there]
        rfl
    | some callback =>
        simp only [onEvent, indexed, pointee_some w.handles h handlers open_, Bind.bind, Except.bind, Option.isSome_some,
          if_true, monomeRegisterHandler, ne_eq, not_true_eq_false, if_false,
          World.setHandlers, pointee_some w.states s state there]
        rfl
  · obtain ⟨handlers', state', open', there', agree, counted⟩ := sound.tables x s h owns
    have sameHandlers : handlers' = handlers := Option.some.inj (open'.symm.trans open_)
    have sameState : state' = state := Option.some.inj (there'.symm.trans there)
    subst sameHandlers sameState
    refine sound_owner w sound x s h owns _ _ w.runs (fun type => ?_) counted fun _ _ => rfl
    by_cases here : type = index
    · simp only [here, Function.update_self]
    · simp only [Function.update_of_ne here, agree type]

omit sound in
theorem on_refused (s h : Nat) (handlers : Handlers) (open_ : w.handles h = some handlers) (type : Int32)
    (index : MonomeEventType) (indexed : eventIndex type = some index) (callback : Option κ) (status : Int32)
    (refused : status ≠ 0) :
    onEvent w ⟨some s, some h⟩ type callback status = .ok (.threw .configureCallback status, w) := by
  have unchanged : w.setHandlers h (some handlers) = w := by
    simp only [World.setHandlers, ← open_, Function.update_eq_self]
  cases callback with
  | none =>
      simp only [onEvent, indexed, pointee_some w.handles h handlers open_, Bind.bind, Except.bind, Option.isSome_none,
        Bool.false_eq_true, if_false, monomeUnregisterHandler, monomeRegisterHandler, if_pos refused, unchanged]
      rfl
  | some callback =>
      simp only [onEvent, indexed, pointee_some w.handles h handlers open_, Bind.bind, Except.bind, Option.isSome_some,
        if_true, monomeRegisterHandler, if_pos refused, unchanged]
      rfl

theorem on_done (x s h : Nat) (owns : Owns w x s h) (type : Int32) (callback : Option κ) (status : Int32) :
    ∃ outcome w', onEvent w ⟨some s, some h⟩ type callback status = .ok (outcome, w') ∧ Sound w' ∧
      ∀ operation nativeStatus, outcome = .threw operation nativeStatus → w' = w := by
  obtain ⟨handlers, state, open_, there, -⟩ := sound.tables x s h owns
  cases indexed : eventIndex type with
  | none =>
      refine ⟨.threw .configureCallback einval, w, ?_, sound, fun _ _ _ => rfl⟩
      simp only [onEvent, indexed]
  | some index =>
      by_cases made : status = 0
      · obtain ⟨done, after⟩ := on_registered w sound x s h owns handlers state open_ there type index indexed callback
        rw [made]
        exact ⟨_, _, done, after, fun _ _ is => by cases is⟩
      · exact ⟨_, w, on_refused w s h handlers open_ type index indexed callback status made, sound, fun _ _ _ => rfl⟩

theorem release_done (x : Nat) (o : MonomeObject) (held : w.objects x = some o) (statuses : MonomeEventType → Int32) :
    ∃ closed w', closeObject w o statuses = .ok closed ∧ freeState closed.2 closed.1.callbackState = .ok w' ∧
      w'.objects = w.objects ∧ Sound (w'.setObject x (some ⟨none, none⟩)) := by
  rcases sound.whole x o held with rfl | ⟨s, h, rfl⟩
  · refine ⟨_, w, rfl, rfl, rfl, ?_⟩
    have unchanged : w.setObject x (some ⟨none, none⟩) = w := by
      simp only [World.setObject, ← held, Function.update_eq_self]
    rw [unchanged]
    exact sound
  · obtain ⟨handlers, state, open_, there, -⟩ := sound.tables x s h held
    have closing : closeObject w ⟨some s, some h⟩ statuses =
        .ok (⟨some s, none⟩, { w with handles := Function.update w.handles h none, closed := w.closed ++ [h] }) := by
      simp only [closeObject, pointee_some w.handles h handlers open_, Bind.bind, Except.bind, World.setHandlers,
        Function.update_idem]
      rfl
    have freeing : freeState { w with handles := Function.update w.handles h none, closed := w.closed ++ [h] } (some s) =
        .ok { w with handles := Function.update w.handles h none, states := Function.update w.states s none,
                     closed := w.closed ++ [h] } := by
      simp only [freeState, pointee_some w.states s state there]
      rfl
    exact ⟨_, _, closing, freeing, rfl, sound_close w sound x s h held⟩

def Done (op : Op κ) : Prop :=
  ∃ outcome w', step raises w op = .ok (outcome, w') ∧ Sound w' ∧
    ∀ operation nativeStatus, outcome = .threw operation nativeStatus → MayThrow op w w'

theorem construct_done (x : Nat) (errno : Option Int32) (free : w.objects x = none) : Done raises w (.construct x errno) := by
  cases errno with
  | some errno => exact ⟨_, _, rfl, sound_unmade w sound, fun _ _ _ => rfl⟩
  | none => exact ⟨_, _, rfl, sound_open w sound x free, fun _ _ is => by cases is⟩

theorem on_step_done (x : Nat) (o : MonomeObject) (held : w.objects x = some o) (type : Int32) (callback : Option κ)
    (status : Int32) : Done raises w (.on x type callback status) := by
  rcases sound.whole x o held with rfl | ⟨s, h, rfl⟩
  · refine ⟨.threw .configureCallback ebadf, w, ?_, sound, fun _ _ _ => rfl⟩
    simp only [step, live, pointee_some w.objects x _ held]
    rfl
  · obtain ⟨outcome, w', done, after⟩ := on_done w sound x s h held type callback status
    refine ⟨outcome, w', ?_, after⟩
    simp only [step, live, pointee_some w.objects x _ held]
    exact done

theorem move_construct_done (x other : Nat) (o : MonomeObject) (free : w.objects x = none)
    (held : w.objects other = some o) : Done raises w (.moveConstruct x other) := by
  have apart : x ≠ other := by
    rintro rfl
    rw [free] at held
    cases held
  refine ⟨.returned, _, ?_, sound_transfer w sound x other o apart held (.inl free), fun _ _ is => by cases is⟩
  simp only [step, live, pointee_some w.objects other o held]
  rfl

theorem move_assign_done (x other : Nat) (o source : MonomeObject) (held : w.objects x = some o)
    (there : w.objects other = some source) (statuses : MonomeEventType → Int32) :
    Done raises w (.moveAssign x other statuses) := by
  by_cases self : x = other
  · exact ⟨.returned, w, by simp only [step, if_pos self], sound, fun _ _ is => by cases is⟩
  · obtain ⟨closed, w', closing, freeing, same, after⟩ := release_done w sound x o held statuses
    have still : w'.objects other = some source := by rw [same, there]
    have emptied : (w'.setObject x (some ⟨none, none⟩)).objects x = some ⟨none, none⟩ := Function.update_self _ _ _
    have kept : (w'.setObject x (some ⟨none, none⟩)).objects other = some source :=
      (Function.update_of_ne (Ne.symm self) _ _).trans still
    have moved := sound_transfer _ after x other source self kept (.inr emptied)
    rw [set_object_twice] at moved
    refine ⟨.returned, _, ?_, moved, fun _ _ is => by cases is⟩
    simp only [step, if_neg self, live, pointee_some w.objects x o held, Bind.bind, Except.bind, closing, freeing,
      pointee_some w'.objects other source still]
    rfl

theorem destroy_done (x : Nat) (o : MonomeObject) (held : w.objects x = some o) (statuses : MonomeEventType → Int32) :
    Done raises w (.destroy x statuses) := by
  obtain ⟨closed, w', closing, freeing, -, after⟩ := release_done w sound x o held statuses
  have forgotten := sound_forget _ after x (Function.update_self _ _ _)
  rw [set_object_twice] at forgotten
  refine ⟨.returned, _, ?_, forgotten, fun _ _ is => by cases is⟩
  simp only [step, live, pointee_some w.objects x o held, Bind.bind, Except.bind, closing, freeing]
  rfl

theorem event_handle_next_done (x : Nat) (o : MonomeObject) (held : w.objects x = some o) (nativeStatus : Int32)
    (event : MonomeEvent) : Done raises w (.eventHandleNext x nativeStatus event) := by
  rcases sound.whole x o held with rfl | ⟨s, h, rfl⟩
  · refine ⟨.polled .deviceError ebadf, w, ?_, sound, fun _ _ is => by cases is⟩
    simp only [step, live, pointee_some w.objects x _ held]
    rfl
  · obtain ⟨handlers, state, open_, there, -⟩ := sound.tables x s h held
    by_cases read : nativeStatus > 0
    · exact ⟨_, _, event_handle_next_ran raises w sound x s h held state there nativeStatus event read,
        sound_ran raises w sound x s h held state there event, fun _ _ is => by cases is⟩
    · have quiet (status : PollStatus) (is : status = if nativeStatus = 0 then .noData else .deviceError) :
          step raises w (.eventHandleNext x nativeStatus event) = .ok (.polled status nativeStatus, w) := by
        simp only [step, live, pointee_some w.objects x _ held, Bind.bind, Except.bind, eventHandleNext,
          pointee_some w.handles h handlers open_, if_neg read, is]
        by_cases nothing : nativeStatus = 0
        · simp only [if_pos nothing, Pure.pure, Except.pure]
        · simp only [if_neg nothing, Pure.pure, Except.pure]
      exact ⟨_, w, quiet _ rfl, sound, fun _ _ is => by cases is⟩

theorem dispatch_done (h : Nat) (isOpen : (w.handles h).isSome) (nativeStatus : Int32) (event : MonomeEvent) :
    Done raises w (.dispatch h nativeStatus event) := by
  obtain ⟨x, s, owns⟩ := sound.owned h isOpen
  obtain ⟨handlers, state, open_, there, -⟩ := sound.tables x s h owns
  by_cases read : nativeStatus > 0
  · exact ⟨_, _, dispatch_ran raises w sound x s h owns state there nativeStatus event read,
      sound_ran raises w sound x s h owns state there event, fun _ _ is => by cases is⟩
  · refine ⟨.handled nativeStatus, w, ?_, sound, fun _ _ is => by cases is⟩
    have low : nativeStatus ≤ 0 := Int32.not_lt.mp read
    simp only [step, monomeEventHandleNext, Bind.bind, Except.bind, pointee_some w.handles h handlers open_, if_pos low]
    rfl

theorem step_sound (op : Op κ) (allowed : Allows w op) : Done raises w op := by
  cases op with
  | construct x errno => exact construct_done raises w sound x errno allowed
  | on x type callback status =>
      obtain ⟨o, held⟩ := Option.isSome_iff_exists.mp allowed
      exact on_step_done raises w sound x o held type callback status
  | moveConstruct x other =>
      obtain ⟨o, held⟩ := Option.isSome_iff_exists.mp allowed.2
      exact move_construct_done raises w sound x other o allowed.1 held
  | moveAssign x other statuses =>
      obtain ⟨o, held⟩ := Option.isSome_iff_exists.mp allowed.1
      obtain ⟨source, there⟩ := Option.isSome_iff_exists.mp allowed.2
      exact move_assign_done raises w sound x other o source held there statuses
  | destroy x statuses =>
      obtain ⟨o, held⟩ := Option.isSome_iff_exists.mp allowed
      exact destroy_done raises w sound x o held statuses
  | eventHandleNext x nativeStatus event =>
      obtain ⟨o, held⟩ := Option.isSome_iff_exists.mp allowed
      exact event_handle_next_done raises w sound x o held nativeStatus event
  | dispatch h nativeStatus event => exact dispatch_done raises w sound h allowed nativeStatus event

end Calls

theorem reachable_sound (raises : List (CallbackRun κ) → κ → MonomeEvent → Bool) (w : World κ) (reachable : Reachable raises w) :
    Sound w := by
  induction reachable with
  | start => exact sound_empty
  | step w w' op outcome before allowed stepped sound =>
      obtain ⟨_, w'', done, after, -⟩ := step_sound raises w sound op allowed
      have same : w'' = w' := congrArg Prod.snd (Except.ok.inj (done.symm.trans stepped))
      exact same ▸ after

theorem failure_count_owned (w : World κ) (sound : Sound w) (x s h : Nat) (owns : Owns w x s h) :
    callbackFailureCount w ⟨some s, some h⟩ = UInt64.ofNat (throwsOf w h) := by
  obtain ⟨_, state, _, there, -, counted⟩ := sound.tables x s h owns
  simpa only [callbackFailureCount, there, Option.elim] using counted

theorem owned_once (w : World κ) (sound : Sound w) (h : Nat) (open_ : (w.handles h).isSome) :
    ∃! x, ∃ o, w.objects x = some o ∧ o.monome = some h := by
  obtain ⟨x, s, owns⟩ := sound.owned h open_
  refine ⟨x, ⟨_, owns, rfl⟩, fun y owned => ?_⟩
  obtain ⟨o, held, mine⟩ := owned
  rcases sound.whole y o held with rfl | ⟨s', h', rfl⟩
  · cases mine
  · cases mine
    exact sound.sole y x s' s h h held owns (.inr rfl)

-- After any run of the program: every open handle has one owner, every handle
-- no longer open was closed once, the two tables of an owner agree slot by slot
-- and its count is that of the throws so far, as the counter holds it. Both
-- ways to dispatch do the same, no step faults, and none but a constructor or
-- an on that changed nothing throws.
theorem tables_in_step (raises : List (CallbackRun κ) → κ → MonomeEvent → Bool) (w : World κ)
    (reachable : Reachable raises w) :
    (∀ h, (w.handles h).isSome → ∃! x, ∃ o, w.objects x = some o ∧ o.monome = some h) ∧
    (∀ h, w.closed.count h = if h < w.opened ∧ w.handles h = none then 1 else 0) ∧
    (∀ x o h, w.objects x = some o → o.monome = some h → ∃ s handlers state, o.callbackState = some s ∧
      w.handles h = some handlers ∧ w.states s = some state ∧
      (∀ type, handlers type = if (state.callbacks type).isSome then ⟨some .handleEvent, some s⟩ else ⟨none, none⟩) ∧
      callbackFailureCount w o = UInt64.ofNat (throwsOf w h) ∧
      ∀ nativeStatus event, nativeStatus > 0 → ∃ status w',
        step raises w (.eventHandleNext x nativeStatus event) = .ok (.polled .event nativeStatus, w') ∧
        step raises w (.dispatch h nativeStatus event) = .ok (.handled status, w') ∧
        w'.runs = w.runs ++ ((state.callbacks event.eventType).map
          fun callback => ⟨callback, h, event, raises w.runs callback event⟩).toList) ∧
    ∀ op, Allows w op → ∃ outcome w', step raises w op = .ok (outcome, w') ∧
      ∀ operation nativeStatus, outcome = .threw operation nativeStatus → MayThrow op w w' := by
  have sound := reachable_sound raises w reachable
  refine ⟨owned_once w sound, sound.numbered, fun x o h held mine => ?_, fun op allowed => ?_⟩
  · rcases sound.whole x o held with rfl | ⟨s, h', rfl⟩
    · cases mine
    · cases mine
      obtain ⟨handlers, state, open_, there, agree, -⟩ := sound.tables x s h held
      refine ⟨s, handlers, state, rfl, open_, there, agree, failure_count_owned w sound x s h held, ?_⟩
      intro nativeStatus event read
      exact ⟨_, _, event_handle_next_ran raises w sound x s h held state there nativeStatus event read,
        dispatch_ran raises w sound x s h held state there nativeStatus event read, runs_ran raises w s h state event⟩
  · obtain ⟨outcome, w', done, -, thrown⟩ := step_sound raises w sound op allowed
    exact ⟨outcome, w', done, thrown⟩

theorem thrown_often (n : Nat) : ∃ w : World Unit, Reachable (fun _ _ _ => true) w ∧ Owns w 0 0 0 ∧
    (∃ state, w.states 0 = some state ∧ state.callbacks .buttonDown = some ()) ∧ throwsOf w 0 = n := by
  induction n with
  | zero =>
      have made := sound_open (World.empty : World Unit) sound_empty 0 rfl
      have first : Reachable (fun _ _ _ => true) (_ : World Unit) :=
        .step _ _ (.construct 0 none) .returned .start rfl rfl
      obtain ⟨registered, -⟩ := on_registered _ made 0 0 0 rfl _ _ rfl rfl 1 .buttonDown rfl (some ())
      exact ⟨_, .step _ _ (.on 0 1 (some ()) 0) .returned first rfl registered, rfl, ⟨_, rfl, rfl⟩, rfl⟩
  | succ n ih =>
      obtain ⟨w, reachable, owns, ⟨state, there, slot⟩, count⟩ := ih
      have sound := reachable_sound _ w reachable
      have thrown := event_handle_next_ran (fun _ _ _ => true) w sound 0 0 0 owns state there 1 (keyEvent true 0 0) (by decide)
      have allowed : Allows w (.eventHandleNext 0 1 (keyEvent true 0 0)) := by
        rw [Allows, owns]
        rfl
      refine ⟨_, .step w _ _ _ reachable allowed thrown, ?_, ?_, ?_⟩
      · simp only [ran, keyEvent, if_true, slot]
        exact owns
      · simp only [ran, keyEvent, if_true, slot, World.setState, Function.update_self]
        exact ⟨_, rfl, slot⟩
      · simp only [ran, keyEvent, if_true, slot, World.setState]
        rw [← count]
        simp [throwsOf, List.countP_append]

theorem tables_in_step_thrown : ∃ w : World Unit, throwsOf w 0 = 3 ∧ callbackFailureCount w ⟨some 0, some 0⟩ = 3 ∧
    w.closed.count 0 = 0 ∧ ∃! x, ∃ o, w.objects x = some o ∧ o.monome = some 0 := by
  obtain ⟨w, reachable, owns, -, count⟩ := thrown_often 3
  obtain ⟨owned, closed, tables, -⟩ := tables_in_step (fun _ _ _ => true) w reachable
  obtain ⟨_, _, _, -, open_, -, -, counted, -⟩ := tables 0 _ 0 owns rfl
  refine ⟨w, count, ?_, ?_, owned 0 (by rw [open_]; rfl)⟩
  · rw [counted, count]
    rfl
  · rw [closed 0, open_]
    simp

theorem failure_count_wraps : ¬ ∀ (w : World Unit) (x h : Nat) (o : MonomeObject), Reachable (fun _ _ _ => true) w →
    w.objects x = some o → o.monome = some h → (callbackFailureCount w o).toNat = throwsOf w h := by
  intro exact_
  obtain ⟨w, reachable, owns, -, count⟩ := thrown_often (2 ^ 64)
  have counted := failure_count_owned w (reachable_sound _ w reachable) 0 0 0 owns
  have claimed := exact_ w 0 0 _ reachable owns rfl
  rw [counted, count] at claimed
  simp at claimed

end Libmonome
