import Libmonome.Lib.Display
import Libmonome.Mext.OutputStream
import Libmonome.Screen

set_option autoImplicit false

namespace Libmonome

open Picture

variable {ω α : Type}

inductive Command where
  | call (call : OutputCall)
  | rotate (rotation : UInt32)
deriving DecidableEq, Repr

def Device.rotated (device : Device) (rotation : UInt32) : Device :=
  match device with
  | mext self => mext { self with monome := monomeSetRotation self.monome rotation }
  | series self => series { self with monome := monomeSetRotation self.monome rotation }
  | m40h self => m40h { self with parent := monomeSetRotation self.parent rotation }

def Device.program (t : Target) (P : Platform ω) : Device → List Command → Io ω Unit
  | _, [] => pure ()
  | device, .rotate rotation :: rest => (device.rotated rotation).program t P rest
  | device, .call call :: rest => do
      let _ ← device.output t P call
      device.program t P rest

theorem rotated_monome (device : Device) (rotation : UInt32) :
    (device.rotated rotation).monome = monomeSetRotation device.monome rotation := by
  cases device <;> rfl

-- A device at the other end of the line, fed byte by byte: it knows how much
-- payload each header announces and what a whole message draws.
def silent (n : Nat) : ReadOutcome n := ⟨0, [], Nat.zero_le n, nothing_counted⟩

def panel (size : UInt8 → Nat) (picture : UInt8 × List UInt8 → Pic (Nat × Nat) α) :
    Platform (Records.Machine UInt8 (Canvas (Nat × Nat) α)) where
  openDevice _ _ shown := (0, shown)
  close shown := (0, shown)
  write bytes shown := (Int64.ofNat bytes.length, display size picture bytes shown)
  read n shown := (silent n, shown)
  waitForInput _ shown := (1, shown)
  monotonicMilliseconds shown := (0, shown)

theorem panel_takes (size : UInt8 → Nat) (picture : UInt8 × List UInt8 → Pic (Nat × Nat) α)
    (frames : List (List UInt8)) (shown : Records.Machine UInt8 (Canvas (Nat × Nat) α)) :
    (sendFrames (panel size picture) frames shown).2 = display size picture frames.flatten shown := by
  induction frames generalizing shown with
  | nil => rfl
  | cons frame rest ih =>
      rw [sendFrames, List.flatten_cons, display, Records.feed_append]
      exact ih _

theorem seen_flood (r : MonomeRotate) (C R : Nat) (v : α) : clip (InGrid C R) (flood v) = seen r C R (flood v) := rfl

def programPicture (draw : MonomeRotate → OutputCall → Pic (Nat × Nat) α) (C R : Nat) :
    MonomeRotate → List Command → Pic (Nat × Nat) α
  | _, [] => blank
  | _, .rotate rotation :: rest => programPicture draw C R (.ofMasked rotation) rest
  | r, .call call :: rest => atop (programPicture draw C R r rest) (seen r C R (draw r call))

def Proper (drawable : MonomeRotate → OutputCall → Prop) : MonomeRotate → List Command → Prop
  | _, [] => True
  | _, .rotate rotation :: rest => Proper drawable (.ofMasked rotation) rest
  | r, .call call :: rest => drawable r call ∧ Proper drawable r rest

structure Drafts (t : Target) (C R : Nat) (size : UInt8 → Nat) (picture : UInt8 × List UInt8 → Pic (Nat × Nat) α)
    (family : Device → Prop) (drawable : MonomeRotate → OutputCall → Prop)
    (draw : MonomeRotate → OutputCall → Pic (Nat × Nat) α) : Prop where
  turned : ∀ device rotation, family device → family (device.rotated rotation)
  draws : ∀ device, family device → ∀ call, drawable device.monome.rotation call →
    ∃ frames, device.frames t call = .ok frames ∧
      Draws size picture frames.flatten (seen device.monome.rotation C R (draw device.monome.rotation call))

section Programs

variable (t : Target) (C R : Nat) (size : UInt8 → Nat) (picture : UInt8 × List UInt8 → Pic (Nat × Nat) α)
  (family : Device → Prop) (drawable : MonomeRotate → OutputCall → Prop)
  (draw : MonomeRotate → OutputCall → Pic (Nat × Nat) α)
  (drafts : Drafts t C R size picture family drawable draw)
include drafts

theorem call_shown (device : Device) (known : family device) (call : OutputCall)
    (proper : drawable device.monome.rotation call) (lamps : Canvas (Nat × Nat) α) :
    ∃ status, device.output t (panel size picture) call ⟨none, lamps⟩ =
      .ok (status, ⟨none, paint (seen device.monome.rotation C R (draw device.monome.rotation call)) lamps⟩) := by
  obtain ⟨frames, sent, drawn⟩ := drafts.draws device known call proper
  have ran := (device_sends t device call).runs _ (panel size picture) ⟨none, lamps⟩
  rw [sent] at ran
  refine ⟨_, ran.trans (congrArg (fun shown => Except.ok (_, shown)) ?_)⟩
  rw [panel_takes, draws_shown size picture _ _ drawn]

theorem program_shown (device : Device) (known : family device) (program : List Command)
    (proper : Proper drawable device.monome.rotation program) (lamps : Canvas (Nat × Nat) α) :
    device.program t (panel size picture) program ⟨none, lamps⟩ =
      .ok ((), ⟨none, paint (programPicture draw C R device.monome.rotation program) lamps⟩) := by
  induction program generalizing device lamps with
  | nil =>
      rw [programPicture, paint_blank]
      rfl
  | cons command rest ih =>
      cases command with
      | rotate rotation =>
          have next := ih (device.rotated rotation) (drafts.turned device rotation known)
          rw [rotated_monome] at next
          exact next proper lamps
      | call call =>
          obtain ⟨status, called⟩ := call_shown t C R size picture family drawable draw drafts device known call proper.1 lamps
          rw [Device.program, io_bind_ok _ _ _ _ _ called, ih device known proper.2, programPicture, paint_atop]

end Programs

end Libmonome
