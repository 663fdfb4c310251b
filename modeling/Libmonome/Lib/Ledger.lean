import Mathlib.Data.List.Basic
import Mathlib.Data.List.Count

set_option autoImplicit false

namespace Ledger

-- What a program does with resources, in the order it does it. A release hands
-- the resource back; to use or release one that is not held is the fault this
-- is about, and so is to acquire one that still is.
inductive Event (ρ : Type) where
  | acquire (r : ρ)
  | use (r : ρ)
  | release (r : ρ)
deriving DecidableEq, Repr

variable {ρ : Type} [DecidableEq ρ]

def step (held : List ρ) : Event ρ → Option (List ρ)
  | .acquire r => if r ∈ held then none else some (r :: held)
  | .use r => if r ∈ held then some held else none
  | .release r => if r ∈ held then some (held.erase r) else none

def run (held : List ρ) : List (Event ρ) → Option (List ρ)
  | [] => some held
  | event :: rest => (step held event).bind fun held => run held rest

theorem run_append (held : List ρ) (first second : List (Event ρ)) :
    run held (first ++ second) = (run held first).bind fun held => run held second := by
  induction first generalizing held with
  | nil => rfl
  | cons event rest ih =>
      rw [List.cons_append, run, run, Option.bind_assoc]
      exact congrArg _ (funext ih)

def Settled (events : List (Event ρ)) : Prop := run [] events = some []

instance (events : List (Event ρ)) : Decidable (Settled events) :=
  inferInstanceAs (Decidable (run [] events = some []))

theorem step_balance (held after : List ρ) (event : Event ρ) (r : ρ) (stepped : step held event = some after) :
    held.count r + [event].count (.acquire r) = after.count r + [event].count (.release r) := by
  cases event with
  | acquire q =>
      rw [step] at stepped
      split at stepped
      · cases stepped
      · cases stepped
        by_cases same : q = r
        · simp [same]
        · simp [same]
  | use q =>
      rw [step] at stepped
      split at stepped
      · cases stepped
        simp
      · cases stepped
  | release q =>
      rw [step] at stepped
      split at stepped
      · rename_i member
        cases stepped
        by_cases same : q = r
        · subst same
          have some : 0 < held.count q := List.count_pos_iff.mpr member
          simp [List.count_erase_self]
          omega
        · simp [same, List.count_erase_of_ne (Ne.symm same)]
      · cases stepped

theorem run_balance (held after : List ρ) (events : List (Event ρ)) (r : ρ) (ran : run held events = some after) :
    held.count r + events.count (.acquire r) = after.count r + events.count (.release r) := by
  induction events generalizing held with
  | nil =>
      cases ran
      rfl
  | cons event rest ih =>
      obtain ⟨between, stepped, rested⟩ := Option.bind_eq_some_iff.mp ran
      have first := step_balance held between event r stepped
      have second := ih between rested
      rw [← List.singleton_append, List.count_append, List.count_append]
      omega

theorem settled_once (events : List (Event ρ)) (r : ρ) (settled : Settled events) :
    events.count (.release r) = events.count (.acquire r) := by
  have balance := run_balance [] [] events r settled
  simpa using balance.symm

end Ledger
