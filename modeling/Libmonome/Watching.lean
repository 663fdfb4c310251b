import Libmonome.Lib.Shadow
import Libmonome.Device

set_option autoImplicit false

namespace Libmonome

open Shadow

variable {ω ψ α : Type}

structure Watches (Q : Platform ψ) (P : Platform ω) (view : ψ → ω) : Prop where
  openDevice : ∀ m dev s, P.openDevice m dev (view s) = ((Q.openDevice m dev s).1, view (Q.openDevice m dev s).2)
  close : ∀ s, P.close (view s) = ((Q.close s).1, view (Q.close s).2)
  write : ∀ bytes s, P.write bytes (view s) = ((Q.write bytes s).1, view (Q.write bytes s).2)
  read : ∀ n s, P.read n (view s) = ((Q.read n s).1, view (Q.read n s).2)
  waitForInput : ∀ msec s, P.waitForInput msec (view s) = ((Q.waitForInput msec s).1, view (Q.waitForInput msec s).2)
  monotonicMilliseconds : ∀ s,
    P.monotonicMilliseconds (view s) = ((Q.monotonicMilliseconds s).1, view (Q.monotonicMilliseconds s).2)

theorem logged_watches (P : Platform ω) : Watches (logged P) P Prod.fst :=
  ⟨fun _ _ _ => rfl, fun _ => rfl, fun _ _ => rfl, fun _ _ => rfl, fun _ _ => rfl, fun _ => rfl⟩

theorem shadows_call (view : ψ → ω) (f : ψ → α × ψ) (g : ω → α × ω) (same : ∀ s, g (view s) = ((f s).1, view (f s).2)) :
    Shadows view (Io.call f) (Io.call g) := by
  intro s
  show Except.ok (g (view s)) = _
  rw [same s]
  rfl

theorem shadows_check (view : ψ → ω) (result : Except Fault α) :
    Shadows view (Io.check result : Io ψ α) (Io.check result) := by
  intro s
  cases result <;> rfl

section Calls

variable (Q : Platform ψ) (P : Platform ω) (view : ψ → ω) (watches : Watches Q P view)
include watches

theorem shadows_read_msg (msg : MextMsg) : Shadows view (mextReadMsg Q msg) (mextReadMsg P msg) := by
  refine shadows_bind view _ _ _ _ (shadows_call view _ _ (watches.read 1)) fun head => ?_
  refine shadows_ite view _ _ _ _ _ (shadows_pure view _) ?_
  refine shadows_ite view _ _ _ _ _ (shadows_pure view _) ?_
  refine shadows_bind view _ _ _ _ (shadows_call view _ _ (watches.read _)) fun body => ?_
  exact shadows_ite view _ _ _ _ _ (shadows_pure view _) (shadows_pure view _)

theorem shadows_next_event [t : Target] (fuel : Nat) (msg : MextMsg) (self : Mext) (e : MonomeEvent) :
    Shadows view (mextNextEventLoop Q fuel msg self e) (mextNextEventLoop P fuel msg self e) := by
  induction fuel generalizing msg self e with
  | zero => exact shadows_pure view _
  | succ fuel ih =>
      refine shadows_bind view _ _ _ _ (shadows_read_msg Q P view watches msg) fun read => ?_
      refine shadows_ite view _ _ _ _ _ (shadows_pure view _) ?_
      refine shadows_ite view _ _ _ _ _ ?_ ?_
      · exact shadows_bind view _ _ _ _ (shadows_check view _) fun h => ih read.2 h.self h.event
      · refine shadows_bind view _ _ _ _ (shadows_check view _) fun h => ?_
        exact shadows_ite view _ _ _ _ _ (shadows_pure view _) (ih read.2 h.self h.event)

theorem shadows_asked (c : Prop) [Decidable c] (cmd : UInt8) (next : Io ψ Int32) (next' : Io ω Int32)
    (on : Shadows view next next') :
    Shadows view
      (if c then mextSimpleCmd Q cmd >>= fun status => if status ≠ 1 then pure (-1) else next
        else (pure 1 : Io ψ Int64) >>= fun status => if status ≠ 1 then pure (-1) else next)
      (if c then mextSimpleCmd P cmd >>= fun status => if status ≠ 1 then pure (-1) else next'
        else (pure 1 : Io ω Int64) >>= fun status => if status ≠ 1 then pure (-1) else next') := by
  have rest : ∀ status : Int64, Shadows view (if status ≠ 1 then (pure (-1) : Io ψ Int32) else next)
      (if status ≠ 1 then (pure (-1) : Io ω Int32) else next') :=
    fun status => shadows_ite view _ _ _ _ _ (shadows_pure view _) on
  refine shadows_ite view _ _ _ _ _ ?_ ?_
  · exact shadows_bind view _ _ _ _ (shadows_call view _ _ (watches.write _)) rest
  · exact shadows_bind view _ _ _ _ (shadows_pure view _) rest

theorem shadows_query_pending (self : Mext) : Shadows view (mextQueryPending Q self) (mextQueryPending P self) :=
  shadows_asked Q P view watches _ _ _ _ (shadows_asked Q P view watches _ _ _ _
    (shadows_asked Q P view watches _ _ _ _ (shadows_pure view _)))

theorem shadows_open_fail (self : Mext) : Shadows view (mextOpenFail Q self) (mextOpenFail P self) :=
  shadows_bind view _ _ _ _ (shadows_call view _ _ watches.close) fun _ => shadows_pure view _

theorem shadows_handshake [t : Target] (deadline retryAt : UInt64) (fuel : Nat) (retried : Bool) (self : Mext)
    (e : MonomeEvent) :
    Shadows view (mextHandshake Q deadline retryAt fuel retried self e) (mextHandshake P deadline retryAt fuel retried self e) := by
  induction fuel generalizing retried self e with
  | zero => exact shadows_pure view _
  | succ fuel ih =>
      have fail : ∀ self, Shadows view (mextOpenFail Q self) (mextOpenFail P self) := shadows_open_fail Q P view watches
      refine shadows_ite view _ _ _ _ _ (shadows_pure view _) ?_
      refine shadows_bind view _ _ _ _ (shadows_call view _ _ watches.monotonicMilliseconds) fun now => ?_
      refine shadows_ite view _ _ _ _ _ (fail self) ?_
      refine shadows_ite view _ _ _ _ _ ?_ ?_
      all_goals
        refine shadows_bind view _ _ _ _ (by
          first | exact shadows_query_pending Q P view watches self | exact shadows_pure view _) fun queried => ?_
        refine shadows_ite view _ _ _ _ _ (fail self) ?_
        refine shadows_bind view _ _ _ _ (shadows_call view _ _ (watches.waitForInput _)) fun status => ?_
        refine shadows_ite view _ _ _ _ _ (fail self) ?_
        refine shadows_ite view _ _ _ _ _ ?_ (ih _ self e)
        refine shadows_bind view _ _ _ _ (shadows_next_event Q P view watches fuel _ self e) fun next => ?_
        cases next.status with
        | none => exact shadows_pure view _
        | some returned => exact shadows_ite view _ _ _ _ _ (fail _) (ih _ next.self next.event)

theorem shadows_open [t : Target] (fuel : Nat) (self : Mext) (e : MonomeEvent) (dev : String) (serial : Option String)
    (m : MonomeDevmap) : Shadows view (mextOpen Q fuel self e dev serial m) (mextOpen P fuel self e dev serial m) := by
  refine shadows_bind view _ _ _ _ (shadows_call view _ _ (watches.openDevice m dev)) fun opened => ?_
  refine shadows_ite view _ _ _ _ _ (shadows_pure view _) ?_
  refine shadows_bind view _ _ _ _ (shadows_call view _ _ watches.monotonicMilliseconds) fun start => ?_
  refine shadows_bind view _ _ _ _ (shadows_query_pending Q P view watches _) fun queried => ?_
  exact shadows_ite view _ _ _ _ _ (shadows_open_fail Q P view watches _) (shadows_handshake Q P view watches _ _ fuel _ _ e)

end Calls

end Libmonome
