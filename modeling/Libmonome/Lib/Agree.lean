import Mathlib.Logic.Relation

set_option autoImplicit false

namespace Agree

variable {σ ε α β γ δ : Type}

inductive Alike (R : α → β → Prop) : Except ε (α × σ) → Except ε (β × σ) → Prop where
  | answers (a : α) (b : β) (s : σ) (related : R a b) : Alike R (.ok (a, s)) (.ok (b, s))
  | fails (fault : ε) : Alike R (.error fault) (.error fault)

def Agrees (R : α → β → Prop) (x : StateT σ (Except ε) α) (y : StateT σ (Except ε) β) : Prop := ∀ s, Alike R (x s) (y s)

theorem agrees_pure (R : α → β → Prop) (a : α) (b : β) (related : R a b) :
    Agrees (σ := σ) (ε := ε) R (pure a) (pure b) := fun s => .answers a b s related

theorem agrees_bind (R : α → β → Prop) (S : γ → δ → Prop) (x : StateT σ (Except ε) α) (y : StateT σ (Except ε) β)
    (f : α → StateT σ (Except ε) γ) (g : β → StateT σ (Except ε) δ) (first : Agrees R x y)
    (rest : ∀ a b, R a b → Agrees S (f a) (g b)) : Agrees S (x >>= f) (y >>= g) := by
  intro s
  show Alike S ((x s) >>= fun r => f r.1 r.2) ((y s) >>= fun r => g r.1 r.2)
  generalize x s = left, y s = right, first s = alike
  cases alike with
  | answers a b next related => exact rest a b related next
  | fails fault => exact .fails fault

theorem agrees_self (R : α → α → Prop) (reflexive : ∀ a, R a a) (x : StateT σ (Except ε) α) : Agrees R x x := by
  intro s
  cases x s with
  | error fault => exact .fails fault
  | ok r => exact .answers r.1 r.1 r.2 (reflexive r.1)

theorem agrees_ite (R : α → β → Prop) (c : Prop) [Decidable c] (x x' : StateT σ (Except ε) α)
    (y y' : StateT σ (Except ε) β) (yes : c → Agrees R x y) (no : ¬ c → Agrees R x' y') :
    Agrees R (if c then x else x') (if c then y else y') := by
  by_cases is : c
  · rw [if_pos is, if_pos is]
    exact yes is
  · rw [if_neg is, if_neg is]
    exact no is

theorem agrees_eq (x y : StateT σ (Except ε) α) (same : Agrees Eq x y) : x = y := by
  funext s
  generalize left : x s = r, right : y s = q, same s = alike
  cases alike with
  | answers a b next related => rw [related]
  | fails fault => rfl

end Agree
