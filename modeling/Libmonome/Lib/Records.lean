import Mathlib.Data.List.Basic
import Mathlib.Data.List.Induction

set_option autoImplicit false

namespace Records

-- A stream of records: a header, and behind it as many elements as the header
-- calls for. The receiver keeps what is complete, and of the record it is in
-- the header, what has come and how much is missing.
variable {α : Type} (size : α → Nat)

structure Receiver (α : Type) where
  done : List (α × List α)
  pending : Option (α × List α × Nat)
deriving DecidableEq, Repr

def Receiver.accept (receiver : Receiver α) (b : α) : Receiver α :=
  match receiver.pending with
  | none => if size b = 0 then ⟨receiver.done ++ [(b, [])], none⟩ else ⟨receiver.done, some (b, [], size b)⟩
  | some (header, got, missing) =>
      if missing ≤ 1 then ⟨receiver.done ++ [(header, got ++ [b])], none⟩
      else ⟨receiver.done, some (header, got ++ [b], missing - 1)⟩

def receive (stream : List α) : Receiver α := stream.foldl (Receiver.accept size) ⟨[], none⟩

def bytes (record : α × List α) : List α := record.1 :: record.2

def Sized (record : α × List α) : Prop := record.2.length = size record.1

theorem accept_body (done : List (α × List α)) (header : α) (got body : List α) (some : body ≠ []) :
    body.foldl (Receiver.accept size) ⟨done, .some (header, got, body.length)⟩ = ⟨done ++ [(header, got ++ body)], none⟩ := by
  induction body generalizing got with
  | nil => exact absurd rfl some
  | cons b rest ih =>
      rw [List.foldl_cons]
      cases rest with
      | nil => simp [Receiver.accept]
      | cons c more =>
          have next : Receiver.accept size ⟨done, .some (header, got, (b :: c :: more).length)⟩ b =
              ⟨done, .some (header, got ++ [b], (c :: more).length)⟩ := by
            simp [Receiver.accept]
          rw [next, ih (got ++ [b]) (by simp), List.append_assoc, List.singleton_append]

theorem accept_record (done : List (α × List α)) (record : α × List α) (sized : Sized size record) :
    (bytes record).foldl (Receiver.accept size) ⟨done, none⟩ = ⟨done ++ [record], none⟩ := by
  obtain ⟨header, body⟩ := record
  rw [bytes, List.foldl_cons]
  cases body with
  | nil =>
      have bare : size header = 0 := sized.symm
      simp [Receiver.accept, bare]
  | cons b rest =>
      have long : size header = (b :: rest).length := sized.symm
      have opened : Receiver.accept size ⟨done, none⟩ header = ⟨done, .some (header, [], (b :: rest).length)⟩ := by
        simp [Receiver.accept, long]
      rw [opened, accept_body size done header [] (b :: rest) (by simp), List.nil_append]

theorem accept_records (done records : List (α × List α)) (sized : ∀ record ∈ records, Sized size record) :
    (records.flatMap bytes).foldl (Receiver.accept size) ⟨done, none⟩ = ⟨done ++ records, none⟩ := by
  induction records generalizing done with
  | nil => simp
  | cons record rest ih =>
      rw [List.flatMap_cons, List.foldl_append, accept_record size done record (sized record (by simp)),
        ih _ (fun r member => sized r (by simp [member])), List.append_assoc, List.singleton_append]

theorem receive_records (records : List (α × List α)) (sized : ∀ record ∈ records, Sized size record) :
    receive size (records.flatMap bytes) = ⟨records, none⟩ :=
  accept_records size [] records sized

def Receiver.left (receiver : Receiver α) : List α :=
  match receiver.pending with
  | none => []
  | some (header, got, _) => header :: got

structure Keeps (stream : List α) (receiver : Receiver α) : Prop where
  whole : receiver.done.flatMap bytes ++ receiver.left = stream
  sized : ∀ record ∈ receiver.done, Sized size record
  short : ∀ header got missing, receiver.pending = some (header, got, missing) →
    0 < missing ∧ got.length + missing = size header

theorem accept_keeps (stream : List α) (receiver : Receiver α) (b : α) (keeps : Keeps size stream receiver) :
    Keeps size (stream ++ [b]) (receiver.accept size b) := by
  obtain ⟨done, pending⟩ := receiver
  obtain ⟨whole, sized, short⟩ := keeps
  cases pending with
  | none =>
      have drained : done.flatMap bytes = stream := by simpa [Receiver.left] using whole
      by_cases bare : size b = 0
      · rw [Receiver.accept, if_pos bare]
        refine ⟨by simp [Receiver.left, drained, bytes], fun record member => ?_, fun _ _ _ opened => by cases opened⟩
        rcases List.mem_append.mp member with old | new
        · exact sized record old
        · rw [List.mem_singleton.mp new, Sized, bare]
          rfl
      · rw [Receiver.accept, if_neg bare]
        refine ⟨by simp [Receiver.left, drained], sized, fun _ _ _ opened => ?_⟩
        cases opened
        exact ⟨Nat.pos_of_ne_zero bare, Nat.zero_add _⟩
  | some record =>
      obtain ⟨header, got, missing⟩ := record
      obtain ⟨some, length⟩ := short header got missing rfl
      have held : done.flatMap bytes ++ (header :: got) = stream := whole
      by_cases last : missing ≤ 1
      · simp only [Receiver.accept, if_pos last]
        refine ⟨by simp [Receiver.left, ← held, bytes], fun record member => ?_, fun _ _ _ opened => by cases opened⟩
        rcases List.mem_append.mp member with old | new
        · exact sized record old
        · have grown : (got ++ [b]).length = size header := by
            rw [List.length_append, List.length_singleton]
            omega
          rw [List.mem_singleton.mp new]
          exact grown
      · simp only [Receiver.accept, if_neg last]
        refine ⟨by simp [Receiver.left, ← held], sized, fun _ _ _ opened => ?_⟩
        cases opened
        rw [List.length_append, List.length_singleton]
        omega

theorem receive_keeps (stream : List α) : Keeps size stream (receive size stream) := by
  induction stream using List.reverseRecOn with
  | nil => exact ⟨rfl, fun _ member => absurd member List.not_mem_nil, fun _ _ _ opened => by cases opened⟩
  | append_singleton stream b ih =>
      rw [receive, List.foldl_append]
      exact accept_keeps size stream _ b ih

end Records
