import Mathlib

set_option autoImplicit false

namespace Life

variable {V : Type} [AddCommGroup V] (near : Finset V) (alive : V → Bool)

def living (v : V) : Nat := (near.filter fun d => alive (v + d)).card

def next (v : V) : Bool :=
  if alive v then decide (living near alive v = 2 ∨ living near alive v = 3) else decide (living near alive v = 3)

def changes (v : V) : Bool := next near alive v != alive v

def touch (touched : V → Bool) (v : V) : Bool := if touched v then ! alive v else next near alive v

theorem touch_changes (touched : V → Bool) (v : V) :
    (alive v != (touched v || changes near alive v)) = touch near alive touched v := by
  rw [touch, changes]
  cases touched v <;> cases alive v <;> cases next near alive v <;> rfl

theorem touch_nothing : touch near alive (fun _ => false) = next near alive := rfl

theorem changes_bare (v : V) : changes near (fun _ => false) v = false := by
  simp [changes, next, living]

theorem living_few (v : V) : living near alive v ≤ near.card := Finset.card_filter_le _ _

section Changed

variable [DecidableEq V] (c v : V)

theorem living_far (value : Bool) (far : c - v ∉ near) :
    living near (Function.update alive c value) v = living near alive v := by
  have same : ∀ d ∈ near, Function.update alive c value (v + d) = alive (v + d) := by
    intro d member
    apply Function.update_of_ne
    rintro rfl
    exact far (by rwa [add_sub_cancel_left])
  rw [living, living, Finset.filter_congr fun d member => by rw [same d member]]

theorem living_born (dead : alive c = false) (here : c - v ∈ near) :
    living near (Function.update alive c true) v = living near alive v + 1 := by
  have at_ : v + (c - v) = c := add_sub_cancel v c
  have absent : c - v ∉ near.filter fun d => alive (v + d) := by
    rw [Finset.mem_filter, at_, dead]
    exact fun both => Bool.false_ne_true both.2
  have grown : (near.filter fun d => Function.update alive c true (v + d)) =
      insert (c - v) (near.filter fun d => alive (v + d)) := by
    ext d
    rw [Finset.mem_insert, Finset.mem_filter, Finset.mem_filter]
    by_cases same : d = c - v
    · subst same
      rw [at_, Function.update_self]
      exact ⟨fun _ => .inl rfl, fun _ => ⟨here, rfl⟩⟩
    · have apart : v + d ≠ c := fun place => same (by rw [← place, add_sub_cancel_left])
      rw [Function.update_of_ne apart]
      exact ⟨.inr, fun either => either.resolve_left same⟩
  rw [living, grown, Finset.card_insert_of_notMem absent]
  rfl

theorem living_died (live : alive c = true) (here : c - v ∈ near) :
    living near (Function.update alive c false) v + 1 = living near alive v := by
  have born := living_born near (Function.update alive c false) c v (Function.update_self _ _ _) here
  rw [Function.update_idem, ← live, Function.update_eq_self] at born
  exact born.symm

end Changed

end Life
