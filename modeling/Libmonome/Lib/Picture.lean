import Mathlib

set_option autoImplicit false

namespace Picture

-- A picture says which points it draws and the value each of them takes; a
-- canvas has a value everywhere. Drawing is painting one over the other.
abbrev Pic (P α : Type) := P → Option α
abbrev Canvas (P α : Type) := P → α

variable {P Q α β : Type}

def blank : Pic P α := fun _ => none

def atop (top bottom : Pic P α) : Pic P α := fun p => (top p).or (bottom p)

def paint (pic : Pic P α) (canvas : Canvas P α) : Canvas P α := fun p => (pic p).getD (canvas p)

def clip (region : P → Prop) [DecidablePred region] (pic : Pic P α) : Pic P α :=
  fun p => if region p then pic p else none

def pull (view : Q → P) (pic : Pic P α) : Pic Q α := fun q => pic (view q)

def dot [DecidableEq P] (point : P) (value : α) : Pic P α :=
  fun p => if p = point then some value else none

def stack : List (Pic P α) → Pic P α
  | [] => blank
  | pic :: later => atop (stack later) pic

theorem paint_blank (canvas : Canvas P α) : paint blank canvas = canvas := by
  funext p
  simp [paint, blank]

theorem paint_atop (top bottom : Pic P α) (canvas : Canvas P α) :
    paint (atop top bottom) canvas = paint top (paint bottom canvas) := by
  funext p
  cases drawn : top p <;> simp [paint, atop, drawn]

theorem clip_atop (region : P → Prop) [DecidablePred region] (top bottom : Pic P α) :
    clip region (atop top bottom) = atop (clip region top) (clip region bottom) := by
  funext p
  by_cases inside : region p <;> simp [clip, atop, inside]

theorem pull_atop (view : Q → P) (top bottom : Pic P α) :
    pull view (atop top bottom) = atop (pull view top) (pull view bottom) := rfl

theorem clip_congr (region : P → Prop) [DecidablePred region] (a b : Pic P α)
    (agree : ∀ p, region p → a p = b p) : clip region a = clip region b := by
  funext p
  by_cases inside : region p
  · simp [clip, inside, agree p inside]
  · simp [clip, inside]

theorem paint_drawn (pic : Pic P α) (canvas : Canvas P α) (p : P) (value : α)
    (drawn : pic p = some value) : paint pic canvas p = value := by
  simp [paint, drawn]

theorem paint_kept (pic : Pic P α) (canvas : Canvas P α) (p : P)
    (kept : pic p = none) : paint pic canvas p = canvas p := by
  simp [paint, kept]

structure Lists (dots : List (P × α)) (pic : Pic P α) : Prop where
  sound : ∀ d ∈ dots, pic d.1 = some d.2
  complete : ∀ p, pic p ≠ none → p ∈ dots.map Prod.fst

def dotted [DecidableEq P] (dots : List (P × α)) : Pic P α := stack (dots.map fun d => dot d.1 d.2)

theorem dotted_agree [DecidableEq P] (pic : Pic P α) (dots : List (P × α))
    (sound : ∀ d ∈ dots, pic d.1 = some d.2) (p : P) :
    dotted dots p = if p ∈ dots.map Prod.fst then pic p else none := by
  induction dots with
  | nil => rfl
  | cons d rest ih =>
      have tail := ih (fun e member => sound e (by simp [member]))
      have head := sound d (by simp)
      rw [dotted] at tail ⊢
      simp only [List.map_cons, stack, atop, tail, dot, List.mem_cons]
      by_cases listed : p ∈ rest.map Prod.fst
      · by_cases same : p = d.1
        · subst same
          simp [listed, head]
        · simp [listed, same]
      · by_cases same : p = d.1
        · subst same
          simp [listed, head]
        · simp [listed, same]

theorem dotted_lists [DecidableEq P] (pic : Pic P α) (dots : List (P × α)) (lists : Lists dots pic) :
    dotted dots = pic := by
  funext p
  rw [dotted_agree pic dots lists.sound p]
  by_cases listed : p ∈ dots.map Prod.fst
  · rw [if_pos listed]
  · rw [if_neg listed]
    by_contra drawn
    exact listed (lists.complete p (Ne.symm drawn))

theorem dot_lists [DecidableEq P] (point : P) (value : α) : Lists [(point, value)] (dot point value) where
  sound d member := by
    rw [List.mem_singleton.mp member, dot, if_pos rfl]
  complete p drawn := by
    by_contra other
    exact drawn (if_neg (by simpa using other))

end Picture
