import Libmonome.Success
import Mathlib.Logic.Function.Basic

set_option autoImplicit false

namespace Libmonome

-- The enumerators of monome_event_type_t, and MONOME_EVENT_MAX past them.
def toC : MonomeEventType → Int32
  | .buttonUp => 0
  | .buttonDown => 1
  | .encoderDelta => 2
  | .encoderKeyUp => 3
  | .encoderKeyDown => 4
  | .tilt => 5

-- An enumeration can hold any int; only the six enumerators index the tables.
def eventIndex (type : Int32) : Option MonomeEventType :=
  [.buttonUp, .buttonDown, .encoderDelta, .encoderKeyUp, .encoderKeyDown, .tilt].find? fun t => toC t = type

inductive CCallback where
  | handleEvent
deriving DecidableEq, Repr

-- monome_callback_t: data is the address of a CallbackState.
structure MonomeCallback where
  cb : Option CCallback
  data : Option Nat
deriving DecidableEq, Repr

def noHandler : MonomeCallback := ⟨none, none⟩

abbrev Handlers := MonomeEventType → MonomeCallback

-- Monome::CallbackState. A callback is known by a name of its own.
structure CallbackState (κ : Type) where
  callbacks : MonomeEventType → Option κ
  failureCount : UInt64

structure MonomeObject where
  callbackState : Option Nat
  monome : Option Nat
deriving DecidableEq, Repr

structure CallbackRun (κ : Type) where
  callback : κ
  monome : Nat
  event : MonomeEvent
  threw : Bool

-- The live objects, the open handles and the callback states on the heap, each
-- by address. Handles and states get a new address each; an object may come to
-- stand where another one was.
structure World (κ : Type) where
  objects : Nat → Option MonomeObject
  handles : Nat → Option Handlers
  states : Nat → Option (CallbackState κ)
  opened : Nat
  made : Nat
  closed : List Nat
  runs : List (CallbackRun κ)

inductive PollStatus where
  | event
  | noData
  | deviceError
deriving DecidableEq, Repr

-- How a call ends: it returns, with a result if it has one, or an Error is
-- thrown.
inductive Outcome where
  | returned
  | polled (status : PollStatus) (nativeStatus : Int32)
  | handled (status : Int32)
  | threw (operation : Operation) (nativeStatus : Int32)
deriving DecidableEq, Repr

def ebadf : Int32 := 9
def einval : Int32 := 22

-- What a program does. The answers of the C library come with each step: errno
-- of a monome_open that fails, the status of each registration the library
-- would make, and what monome_event_next brings.
inductive Op (κ : Type) where
  | construct (x : Nat) (errno : Option Int32)
  | on (x : Nat) (type : Int32) (callback : Option κ) (status : Int32)
  | moveConstruct (x other : Nat)
  | moveAssign (x other : Nat) (statuses : MonomeEventType → Int32)
  | destroy (x : Nat) (statuses : MonomeEventType → Int32)
  | eventHandleNext (x : Nat) (nativeStatus : Int32) (event : MonomeEvent)
  | dispatch (monome : Nat) (nativeStatus : Int32) (event : MonomeEvent)

namespace World

variable {κ : Type}

def empty : World κ := ⟨fun _ => none, fun _ => none, fun _ => none, 0, 0, [], []⟩

def setObject (w : World κ) (x : Nat) (o : Option MonomeObject) : World κ :=
  { w with objects := Function.update w.objects x o }

def setHandlers (w : World κ) (h : Nat) (c : Option Handlers) : World κ :=
  { w with handles := Function.update w.handles h c }

def setState (w : World κ) (s : Nat) (state : Option (CallbackState κ)) : World κ :=
  { w with states := Function.update w.states s state }

end World

section Model

variable {κ : Type}

-- monome_register_handler. status is what the registration answers where it is
-- not to succeed.
def monomeRegisterHandler (handlers : Handlers) (type : Int32) (handler : MonomeCallback) (status : Int32) :
    Int32 × Handlers :=
  match eventIndex type with
  | none => (einval, handlers)
  | some index => if status ≠ 0 then (status, handlers) else (0, Function.update handlers index handler)

def monomeUnregisterHandler (handlers : Handlers) (type : Int32) (status : Int32) : Int32 × Handlers :=
  monomeRegisterHandler handlers type noHandler status

def pointee {α : Type} (heap : Nat → Option α) (address : Nat) : Except Fault α :=
  match heap address with
  | none => .error .danglingPointer
  | some a => .ok a

def unregisterCallbacks (handlers : Handlers) (statuses : MonomeEventType → Int32) : Handlers :=
  [MonomeEventType.buttonUp, .buttonDown, .encoderDelta, .encoderKeyUp, .encoderKeyDown, .tilt].foldl
    (fun handlers type => (monomeUnregisterHandler handlers (toC type) (statuses type)).2) handlers

def closeObject (w : World κ) (o : MonomeObject) (statuses : MonomeEventType → Int32) :
    Except Fault (MonomeObject × World κ) :=
  match o.monome with
  | none => .ok (o, w)
  | some h => do
      let handlers ← pointee w.handles h
      let w := w.setHandlers h (some (unregisterCallbacks handlers statuses))
      let w := { w.setHandlers h none with closed := w.closed ++ [h] }
      return ({ o with monome := none }, w)

-- What a unique_ptr does to its old value when it is assigned or destroyed.
def freeState (w : World κ) (s : Option Nat) : Except Fault (World κ) :=
  match s with
  | none => .ok w
  | some s => do
      let _ ← pointee w.states s
      return w.setState s none

-- An event reaches the callback of its type, if there is one; a throw is
-- caught and counted. What it does may depend on all that ran before.
def runCallback (raises : List (CallbackRun κ) → κ → MonomeEvent → Bool) (w : World κ) (s h : Nat) (event : MonomeEvent) :
    Except Fault (World κ) := do
  let state ← pointee w.states s
  match eventIndex (toC event.eventType) with
  | none => return w
  | some index =>
      match state.callbacks index with
      | none => return w
      | some callback =>
          let threw := raises w.runs callback event
          let state := { state with failureCount := if threw then state.failureCount + 1 else state.failureCount }
          return { w.setState s (some state) with runs := w.runs ++ [⟨callback, h, event, threw⟩] }

def handleEvent (raises : List (CallbackRun κ) → κ → MonomeEvent → Bool) (w : World κ) (data : Option Nat) (h : Nat)
    (event : MonomeEvent) : Except Fault (World κ) :=
  match data with
  | none => .ok w
  | some s => runCallback raises w s h event

def monomeEventHandleNext (raises : List (CallbackRun κ) → κ → MonomeEvent → Bool) (w : World κ) (h : Nat)
    (nativeStatus : Int32) (event : MonomeEvent) : Except Fault (Outcome × World κ) := do
  let handlers ← pointee w.handles h
  if nativeStatus ≤ 0 then
    return (.handled nativeStatus, w)
  else
    match (handlers event.eventType).cb with
    | none => return (.handled 0, w)
    | some .handleEvent =>
        let w ← handleEvent raises w (handlers event.eventType).data h event
        return (.handled 1, w)

def eventHandleNext (raises : List (CallbackRun κ) → κ → MonomeEvent → Bool) (w : World κ) (o : MonomeObject)
    (nativeStatus : Int32) (event : MonomeEvent) : Except Fault (Outcome × World κ) :=
  match o.monome with
  | none => .ok (.polled .deviceError ebadf, w)
  | some h => do
      let _ ← pointee w.handles h
      if nativeStatus > 0 then
        match o.callbackState with
        | none => return (.polled .event nativeStatus, w)
        | some s => do
            let w ← runCallback raises w s h event
            return (.polled .event nativeStatus, w)
      else if nativeStatus = 0 then
        return (.polled .noData nativeStatus, w)
      else
        return (.polled .deviceError nativeStatus, w)

def onEvent (w : World κ) (o : MonomeObject) (type : Int32) (callback : Option κ) (status : Int32) :
    Except Fault (Outcome × World κ) :=
  match o.monome with
  | none => .ok (.threw .configureCallback ebadf, w)
  | some h =>
      match eventIndex type with
      | none => .ok (.threw .configureCallback einval, w)
      | some index => do
          let handlers ← pointee w.handles h
          let registered :=
            if callback.isSome then monomeRegisterHandler handlers type ⟨some .handleEvent, o.callbackState⟩ status
            else monomeUnregisterHandler handlers type status
          let w := w.setHandlers h (some registered.2)
          if registered.1 ≠ 0 then
            return (.threw .configureCallback registered.1, w)
          else
            match o.callbackState with
            | none => .error .danglingPointer
            | some s => do
                let state ← pointee w.states s
                return (.returned,
                  w.setState s (some { state with callbacks := Function.update state.callbacks index callback }))

def live (w : World κ) (x : Nat) : Except Fault MonomeObject := pointee w.objects x

def step (raises : List (CallbackRun κ) → κ → MonomeEvent → Bool) (w : World κ) :
    Op κ → Except Fault (Outcome × World κ)
  | .construct x errno =>
      match errno with
      -- The state made for the constructor goes with the exception.
      | some errno => .ok (.threw .open (if errno ≠ 0 then errno else -1), { w with made := w.made + 1 })
      | none =>
          let w' := (w.setState w.made (some ⟨fun _ => none, 0⟩)).setHandlers w.opened (some fun _ => noHandler)
          .ok (.returned, { w'.setObject x (some ⟨some w.made, some w.opened⟩) with opened := w.opened + 1, made := w.made + 1 })
  | .on x type callback status => do
      let o ← live w x
      onEvent w o type callback status
  | .moveConstruct x other => do
      let o ← live w other
      return (.returned, (w.setObject x (some o)).setObject other (some ⟨none, none⟩))
  | .moveAssign x other statuses =>
      if x = other then
        .ok (.returned, w)
      else do
        let o ← live w x
        let closed ← closeObject w o statuses
        let w ← freeState closed.2 closed.1.callbackState
        let source ← live w other
        return (.returned, (w.setObject x (some source)).setObject other (some ⟨none, none⟩))
  | .destroy x statuses => do
      let o ← live w x
      let closed ← closeObject w o statuses
      let w ← freeState closed.2 closed.1.callbackState
      return (.returned, w.setObject x none)
  | .eventHandleNext x nativeStatus event => do
      let o ← live w x
      eventHandleNext raises w o nativeStatus event
  | .dispatch h nativeStatus event => monomeEventHandleNext raises w h nativeStatus event

-- The steps a program can take: it names objects that are there, makes new
-- ones where none is, and dispatches on open handles.
def Allows (w : World κ) : Op κ → Prop
  | .construct x _ => w.objects x = none
  | .on x _ _ _ => (w.objects x).isSome
  | .moveConstruct x other => w.objects x = none ∧ (w.objects other).isSome
  | .moveAssign x other _ => (w.objects x).isSome ∧ (w.objects other).isSome
  | .destroy x _ => (w.objects x).isSome
  | .eventHandleNext x _ _ => (w.objects x).isSome
  | .dispatch h _ _ => (w.handles h).isSome

inductive Reachable (raises : List (CallbackRun κ) → κ → MonomeEvent → Bool) : World κ → Prop where
  | start : Reachable raises World.empty
  | step (w w' : World κ) (op : Op κ) (outcome : Outcome) (before : Reachable raises w) (allowed : Allows w op)
      (ran : Libmonome.step raises w op = .ok (outcome, w')) : Reachable raises w'

def callbackFailureCount (w : World κ) (o : MonomeObject) : UInt64 :=
  match o.callbackState with
  | none => 0
  | some s => (w.states s).elim 0 CallbackState.failureCount

def throwsOf (w : World κ) (h : Nat) : Nat := w.runs.countP fun run => run.monome = h ∧ run.threw = true

end Model

end Libmonome
