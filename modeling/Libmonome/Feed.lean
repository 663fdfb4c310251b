import Libmonome.Platform

set_option autoImplicit false

namespace Libmonome

variable {ω : Type}

-- A platform whose reads take from a line of pending bytes as much as they
-- ask for, or all there is.
structure Delivers (P : Platform ω) (pending : ω → List UInt8) : Prop where
  takes : ∀ n w, (P.read n w).1.stored = (pending w).take n
  counts : ∀ n w, (P.read n w).1.status = Int64.ofNat ((pending w).take n).length
  leaves : ∀ n w, pending (P.read n w).2 = (pending w).drop n

theorem link_delivers : Delivers link Link.incoming := ⟨fun _ _ => rfl, fun _ _ => rfl, fun _ _ => rfl⟩

-- What the reads of a line come to: one read's bytes, all of them, or nothing
-- yet.
inductive Supply where
  | piece (bytes : List UInt8)
  | pause
deriving DecidableEq, Repr

def Supply.bytes : Supply → List UInt8
  | piece bytes => bytes
  | pause => []

-- A platform whose reads, made at the lengths of the pieces, go through a
-- supply in its order, and find nothing after it.
structure Feeds (P : Platform ω) (holds : ω → List Supply → Prop) : Prop where
  piece : ∀ w bytes more, bytes ≠ [] → holds w (.piece bytes :: more) →
    (P.read bytes.length w).1.stored = bytes ∧ (P.read bytes.length w).1.status = Int64.ofNat bytes.length ∧
      holds (P.read bytes.length w).2 more
  pause : ∀ n w more, 0 < n → holds w (.pause :: more) → (P.read n w).1.status = 0 ∧ holds (P.read n w).2 more
  drained : ∀ n w, 0 < n → holds w [] → (P.read n w).1.status = 0 ∧ holds (P.read n w).2 []

def Cut (pending : ω → List UInt8) (w : ω) (supply : List Supply) : Prop :=
  .pause ∉ supply ∧ pending w = supply.flatMap Supply.bytes

theorem delivers_feeds (P : Platform ω) (pending : ω → List UInt8) (delivers : Delivers P pending) :
    Feeds P (Cut pending) where
  piece w bytes more _ holds := by
    have queued : pending w = bytes ++ more.flatMap Supply.bytes := holds.2
    have taken : (pending w).take bytes.length = bytes := by rw [queued, List.take_left]
    refine ⟨by rw [delivers.takes, taken], by rw [delivers.counts, taken], ?_, ?_⟩
    · exact fun paused => holds.1 (List.mem_cons_of_mem _ paused)
    · rw [delivers.leaves, queued, List.drop_left]
  pause n w more _ holds := absurd List.mem_cons_self holds.1
  drained n w _ holds := by
    have empty : pending w = [] := holds.2
    refine ⟨by rw [delivers.counts, empty, List.take_nil]; rfl, List.not_mem_nil, ?_⟩
    rw [delivers.leaves, empty, List.drop_nil]
    rfl

end Libmonome
