import Libmonome.Lib.Picture
import Libmonome.Lib.Records

set_option autoImplicit false

namespace Records

-- A machine that acts on each record of its input stream as soon as the record
-- is complete, and keeps of the stream only the record it is in.
structure Machine (α σ : Type) where
  pending : Option (α × List α × Nat)
  state : σ

variable {α σ : Type} (size : α → Nat) (act : σ → α × List α → σ)

def Machine.take (machine : Machine α σ) (b : α) : Machine α σ :=
  match machine.pending with
  | none => if size b = 0 then ⟨none, act machine.state (b, [])⟩ else ⟨some (b, [], size b), machine.state⟩
  | some (header, got, missing) =>
      if missing ≤ 1 then ⟨none, act machine.state (header, got ++ [b])⟩
      else ⟨some (header, got ++ [b], missing - 1), machine.state⟩

def Machine.feed (stream : List α) (machine : Machine α σ) : Machine α σ := stream.foldl (Machine.take size act) machine

theorem feed_append (a b : List α) (machine : Machine α σ) :
    Machine.feed size act (a ++ b) machine = Machine.feed size act b (Machine.feed size act a machine) :=
  List.foldl_append

theorem take_acts (receiver : Receiver α) (s : σ) (b : α) :
    Machine.take size act ⟨receiver.pending, receiver.done.foldl act s⟩ b =
      ⟨(receiver.accept size b).pending, (receiver.accept size b).done.foldl act s⟩ := by
  obtain ⟨done, pending⟩ := receiver
  cases pending with
  | none =>
      by_cases bare : size b = 0
      · simp [Machine.take, Receiver.accept, bare]
      · simp [Machine.take, Receiver.accept, bare]
  | some record =>
      obtain ⟨header, got, missing⟩ := record
      by_cases last : missing ≤ 1
      · simp [Machine.take, Receiver.accept, last]
      · simp [Machine.take, Receiver.accept, last]

theorem feed_acts (stream : List α) (receiver : Receiver α) (s : σ) :
    Machine.feed size act stream ⟨receiver.pending, receiver.done.foldl act s⟩ =
      ⟨(stream.foldl (Receiver.accept size) receiver).pending,
        (stream.foldl (Receiver.accept size) receiver).done.foldl act s⟩ := by
  induction stream generalizing receiver with
  | nil => rfl
  | cons b rest ih =>
      rw [Machine.feed, List.foldl_cons, take_acts]
      exact ih (receiver.accept size b)

theorem feed_records (records : List (α × List α)) (sized : ∀ record ∈ records, Sized size record) (s : σ) :
    Machine.feed size act (records.flatMap bytes) ⟨none, s⟩ = ⟨none, records.foldl act s⟩ := by
  have fed := feed_acts size act (records.flatMap bytes) ⟨[], none⟩ s
  rw [accept_records size [] records sized] at fed
  exact fed

end Records

namespace Picture

open Records

variable {P α β γ : Type}

theorem stack_append (a b : List (Pic P α)) : stack (a ++ b) = atop (stack b) (stack a) := by
  induction a with
  | nil =>
      funext p
      simp [stack, atop, blank]
  | cons pic rest ih =>
      funext p
      simp [stack, atop, ih, Option.or_assoc]

theorem paint_stack (pics : List (Pic P α)) (canvas : Canvas P α) :
    pics.foldl (fun canvas pic => paint pic canvas) canvas = paint (stack pics) canvas := by
  induction pics generalizing canvas with
  | nil => rw [List.foldl_nil, stack, paint_blank]
  | cons pic rest ih => rw [List.foldl_cons, ih, stack, paint_atop]

def tint (f : α → β) (pic : Pic P α) : Pic P β := fun p => (pic p).map f

theorem tint_blank (f : α → β) : tint f (blank : Pic P α) = blank := rfl

theorem tint_atop (f : α → β) (top bottom : Pic P α) : tint f (atop top bottom) = atop (tint f top) (tint f bottom) := by
  funext p
  cases drawn : top p <;> simp [tint, atop, drawn]

theorem tint_clip (f : α → β) (region : P → Prop) [DecidablePred region] (pic : Pic P α) :
    tint f (clip region pic) = clip region (tint f pic) := by
  funext p
  by_cases inside : region p <;> simp [tint, clip, inside]

def flood (value : α) : Pic P α := fun _ => some value

theorem paint_faithful [Nontrivial α] (a b : Pic P α) (same : ∀ canvas, paint a canvas = paint b canvas) : a = b := by
  obtain ⟨v, w, differ⟩ := exists_pair_ne α
  funext p
  have left := congrFun (same fun _ => v) p
  have right := congrFun (same fun _ => w) p
  simp only [paint] at left right
  cases top : a p with
  | none =>
      cases bottom : b p with
      | none => rfl
      | some value =>
          rw [top, bottom] at left right
          exact absurd (left.trans right.symm) differ
  | some value =>
      cases bottom : b p with
      | none =>
          rw [top, bottom] at left right
          exact absurd (left.symm.trans right) differ
      | some other =>
          rw [top, bottom] at left
          exact congrArg some left

section Streams

variable (size : β → Nat) (picture : β × List β → Pic P α)

def Draws (stream : List β) (pic : Pic P α) : Prop :=
  ∃ raw : List (β × List β), stream = raw.flatMap bytes ∧ (∀ record ∈ raw, Sized size record) ∧
    stack (raw.map picture) = pic

theorem draws_nothing : Draws size picture [] blank := ⟨[], rfl, fun _ member => absurd member List.not_mem_nil, rfl⟩

theorem draws_append (a b : List β) (earlier later : Pic P α) (first : Draws size picture a earlier)
    (second : Draws size picture b later) : Draws size picture (a ++ b) (atop later earlier) := by
  obtain ⟨raw, rfl, sized, rfl⟩ := first
  obtain ⟨more, rfl, moreSized, rfl⟩ := second
  refine ⟨raw ++ more, by rw [List.flatMap_append], fun record member => ?_, by rw [List.map_append, stack_append]⟩
  exact (List.mem_append.mp member).elim (sized record) (moreSized record)

theorem draws_one (record : β × List β) (sized : Sized size record) :
    Draws size picture (bytes record) (picture record) := by
  refine ⟨[record], by simp, fun other member => ?_, ?_⟩
  · rw [List.mem_singleton.mp member]
    exact sized
  · funext p
    simp [stack, atop, blank]

def display (stream : List β) : Machine β (Canvas P α) → Machine β (Canvas P α) :=
  Machine.feed size (fun canvas record => paint (picture record) canvas) stream

theorem draws_shown (stream : List β) (pic : Pic P α) (draws : Draws size picture stream pic) (canvas : Canvas P α) :
    display size picture stream ⟨none, canvas⟩ = ⟨none, paint pic canvas⟩ := by
  obtain ⟨raw, rfl, sized, rfl⟩ := draws
  rw [display, feed_records size _ raw sized, ← paint_stack, List.foldl_map]

end Streams

end Picture
