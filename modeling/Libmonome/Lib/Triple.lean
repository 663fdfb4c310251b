import Libmonome.Lib.Shadow

set_option autoImplicit false

namespace Triple

variable {σ ε α β : Type}

-- What a computation does from the states a precondition names: whenever it
-- comes back, and that it does come back.
def Ensures (pre : σ → Prop) (x : StateT σ (Except ε) α) (post : α → σ → Prop) : Prop :=
  ∀ s a s', pre s → x s = .ok (a, s') → post a s'

def Achieves (pre : σ → Prop) (x : StateT σ (Except ε) α) (post : α → σ → Prop) : Prop :=
  ∀ s, pre s → ∃ a s', x s = .ok (a, s') ∧ post a s'

variable (pre : σ → Prop) (mid : α → σ → Prop) (post : α → σ → Prop) (last : β → σ → Prop)
  (x y : StateT σ (Except ε) α) (f : α → StateT σ (Except ε) β)

theorem ensures_pure (a : α) (holds : ∀ s, pre s → post a s) : Ensures (ε := ε) pre (pure a) post := by
  intro s b s' before run
  cases run
  exact holds s before

theorem ensures_bind (first : Ensures pre x mid) (rest : ∀ a, Ensures (mid a) (f a) last) :
    Ensures pre (x >>= f) last := by
  intro s b s' before run
  have split : (x s >>= fun r => f r.1 r.2) = .ok (b, s') := run
  cases ran : x s with
  | error fault =>
      rw [ran] at split
      cases split
  | ok r =>
      rw [ran] at split
      exact rest r.1 r.2 b s' (first s r.1 r.2 before ran) split

theorem ensures_ite (c : Prop) [Decidable c] (yes : c → Ensures pre x post) (no : ¬ c → Ensures pre y post) :
    Ensures pre (if c then x else y) post := by
  by_cases is : c
  · rw [if_pos is]
    exact yes is
  · rw [if_neg is]
    exact no is

theorem achieves_pure (a : α) (holds : ∀ s, pre s → post a s) : Achieves (ε := ε) pre (pure a) post :=
  fun s before => ⟨a, s, rfl, holds s before⟩

theorem achieves_bind (first : Achieves pre x mid) (rest : ∀ a, Achieves (mid a) (f a) last) :
    Achieves pre (x >>= f) last := by
  intro s before
  obtain ⟨a, s1, ran, between⟩ := first s before
  obtain ⟨b, s2, ended, after⟩ := rest a s1 between
  refine ⟨b, s2, ?_, after⟩
  show (x s >>= fun r => f r.1 r.2) = _
  rw [ran]
  exact ended

theorem achieves_ite (c : Prop) [Decidable c] (yes : c → Achieves pre x post) (no : ¬ c → Achieves pre y post) :
    Achieves pre (if c then x else y) post := by
  by_cases is : c
  · rw [if_pos is]
    exact yes is
  · rw [if_neg is]
    exact no is

theorem achieves_of_ensures (returns : ∀ s, pre s → ∃ r, x s = .ok r) (ensures : Ensures pre x post) :
    Achieves pre x post := by
  intro s before
  obtain ⟨r, ran⟩ := returns s before
  exact ⟨r.1, r.2, ran, ensures s r.1 r.2 before ran⟩

end Triple
