import Mathlib

set_option autoImplicit false

namespace Shadow

variable {σ τ ε α β : Type}

def Shadows (view : σ → τ) (x : StateT σ (Except ε) α) (y : StateT τ (Except ε) α) : Prop :=
  ∀ s, y (view s) = (x s).map fun r => (r.1, view r.2)

section Rules

variable (view : σ → τ)

theorem shadows_pure (a : α) : Shadows (ε := ε) view (pure a) (pure a) := fun _ => rfl

theorem shadows_bind (x : StateT σ (Except ε) α) (y : StateT τ (Except ε) α) (f : α → StateT σ (Except ε) β)
    (g : α → StateT τ (Except ε) β) (first : Shadows view x y) (rest : ∀ a, Shadows view (f a) (g a)) :
    Shadows view (x >>= f) (y >>= g) := by
  intro s
  show ((y (view s)) >>= fun r => g r.1 r.2) = ((x s) >>= fun r => f r.1 r.2).map fun r => (r.1, view r.2)
  rw [first s]
  cases x s with
  | error fault => rfl
  | ok r => exact rest r.1 r.2

theorem shadows_ite (c : Prop) [Decidable c] (x x' : StateT σ (Except ε) α) (y y' : StateT τ (Except ε) α)
    (yes : Shadows view x y) (no : Shadows view x' y') : Shadows view (if c then x else x') (if c then y else y') := by
  by_cases is : c
  · rw [if_pos is, if_pos is]
    exact yes
  · rw [if_neg is, if_neg is]
    exact no

theorem shadows_run (x : StateT σ (Except ε) α) (y : StateT τ (Except ε) α) (same : Shadows view x y) (s : σ) (a : α)
    (last : τ) (run : y (view s) = .ok (a, last)) : ∃ s', x s = .ok (a, s') ∧ view s' = last := by
  rw [same s] at run
  cases shadowed : x s with
  | error fault =>
      rw [shadowed] at run
      cases run
  | ok r =>
      rw [shadowed] at run
      cases run
      exact ⟨r.2, rfl, rfl⟩

end Rules

end Shadow
