import Libmonome.Mext.Issued
import Libmonome.Osc

set_option autoImplicit false

namespace Libmonome

inductive CountedCall where
  | row
  | col
  | levelRow
  | levelCol
deriving DecidableEq, Repr

-- A call on an array of exactly count elements. A count of 0 comes with a null
-- pointer: there is nothing to read either way.
def CountedCall.on (line : CountedCall) (a b : UInt32) (data : List UInt8) : OutputCall :=
  match line with
  | row => .ledRow a b data.length data
  | col => .ledCol a b data.length data
  | levelRow => .ledLevelRow a b data.length data
  | levelCol => .ledLevelCol a b data.length data

def StaysInside {ω α : Type} (x : Io ω α) (w : ω) : Prop := ∃ result, x w = .ok result

def Backend.Takes (backend : Backend) (line : CountedCall) (count : Nat) : Prop :=
  match backend, line with
  | serial (.mext _), _ => True
  | serial (.series _), .row | serial (.series _), .col => 1 ≤ count
  | serial (.series _), .levelRow | serial (.series _), .levelCol => 1 ≤ levelChunks count ∧ levelChunks count ≤ 16
  | serial (.m40h _), .row | serial (.m40h _), .col => 1 ≤ count
  | serial (.m40h _), .levelRow | serial (.m40h _), .levelCol => 1 ≤ levelChunks count ∧ levelChunks count ≤ 2
  | osc _, .row | osc _, .col => 1 ≤ count
  | osc _, .levelRow | osc _, .levelCol => True

section Steps

variable {ω α β : Type}

theorem check_stays (value : Except Fault α) (f : α → Io ω β) (w : ω) :
    StaysInside (Io.check value >>= f) w ↔ ∃ a, value = .ok a ∧ StaysInside (f a) w := by
  cases value with
  | error fault =>
      have faults : (Io.check (.error fault) >>= f) w = .error fault := rfl
      simp [StaysInside, faults]
  | ok a =>
      rw [StaysInside, io_check_bind]
      simp [StaysInside]

theorem monome_write_stays (P : Platform ω) (buf : List UInt8) (w : ω) : StaysInside (monomeWrite P buf) w :=
  ⟨_, rfl⟩

theorem lo_send_msg_stays (lo : Liblo ω) (path types : String) (args : List Int32) (w : ω) :
    StaysInside (loSendMsg lo path types args) w :=
  ⟨_, rfl⟩

theorem deref_ok_iff (data : List UInt8) : (∃ b, deref data = .ok b) ↔ 1 ≤ data.length := by
  cases data with
  | nil => simp [deref]
  | cons b rest => simp [deref]

theorem copy_out_ok_iff (n : Nat) (data : List UInt8) : (∃ copied, copyOut n data = .ok copied) ↔ n ≤ data.length := by
  by_cases supplied : n ≤ data.length
  · simp [copyOut, supplied]
  · simp [copyOut, supplied]

theorem deref_stays (data : List UInt8) (f : UInt8 → Io ω β) (w : ω) (rest : ∀ b, StaysInside (f b) w) :
    StaysInside (Io.check (deref data) >>= f) w ↔ 1 ≤ data.length := by
  rw [check_stays, ← deref_ok_iff]
  simp [rest]

theorem copy_out_stays (n : Nat) (data : List UInt8) (f : List UInt8 → Io ω β) (w : ω)
    (rest : ∀ copied, StaysInside (f copied) w) : StaysInside (Io.check (copyOut n data) >>= f) w ↔ n ≤ data.length := by
  rw [check_stays, ← copy_out_ok_iff]
  simp [rest]

end Steps

theorem level_chunks_supplied (count : Nat) : 8 * levelChunks count ≤ count := by
  rw [levelChunks, UInt32.toNat_ofNat']
  have narrowed := Nat.mod_le (count / 8) (2 ^ 32)
  omega

theorem reduce_chunks_written (size : Nat) (data : List UInt8) (n i : Nat) (room : i + n ≤ size)
    (supplied : 8 * (i + n) ≤ data.length) : ∃ masks, reduceChunks size data n i = .ok masks ∧ masks.length = n := by
  induction n generalizing i with
  | zero => exact ⟨[], rfl, rfl⟩
  | succ n ih =>
      have levels : ∃ levels, copyOut 8 (data.drop (i * 8)) = .ok levels := by
        rw [copy_out_ok_iff, List.length_drop]
        omega
      obtain ⟨levels, copied⟩ := levels
      obtain ⟨masks, rest, length⟩ := ih (i + 1) (by omega) (by omega)
      refine ⟨reduceLevelsToBitmask levels :: masks, ?_, congrArg Nat.succ length⟩
      have inside : i < size := by omega
      simp only [reduceChunks, copied, rest, if_pos inside]
      rfl

theorem reduce_chunks_overrun (size : Nat) (data : List UInt8) (n i : Nat) (start : i ≤ size) (past : size < i + n) :
    ∃ fault, reduceChunks size data n i = .error fault := by
  induction n generalizing i with
  | zero => omega
  | succ n ih =>
      simp only [reduceChunks]
      cases copyOut 8 (data.drop (i * 8)) with
      | error fault => exact ⟨fault, rfl⟩
      | ok levels =>
          by_cases inside : i < size
          · obtain ⟨fault, overrun⟩ := ih (i + 1) inside (by omega)
            simp only [if_pos inside, overrun]
            exact ⟨fault, rfl⟩
          · simp only [if_neg inside]
            exact ⟨_, rfl⟩

theorem level_line_stays {ω : Type} (size : Nat) (data : List UInt8) (line : List UInt8 → Io ω Int32) (w : ω)
    (below : ∀ masks, masks.length = levelChunks data.length → (StaysInside (line masks) w ↔ 1 ≤ masks.length)) :
    StaysInside (Io.check (reduceChunks size data (levelChunks data.length) 0) >>= line) w ↔
      1 ≤ levelChunks data.length ∧ levelChunks data.length ≤ size := by
  rw [check_stays]
  by_cases room : levelChunks data.length ≤ size
  · obtain ⟨masks, written, length⟩ := reduce_chunks_written size data (levelChunks data.length) 0 (by omega)
      (by simpa using level_chunks_supplied data.length)
    rw [written]
    simp [room, below masks length, length]
  · obtain ⟨fault, overrun⟩ := reduce_chunks_overrun size data (levelChunks data.length) 0 (by omega) (by omega)
    rw [overrun]
    simp [room]

section Backends

variable {ω : Type} (t : Target) (P : Platform ω) (lo : Liblo ω) (monome : Monome) (a b : UInt32) (w : ω)

theorem chunk_messages_stay {β : Type} (message : UInt32 → List UInt8 → Except Fault β) (width n : Nat) (off : UInt32)
    (data : List UInt8) (takes : ∀ off data, width ≤ data.length → ∃ msg, message off data = .ok msg)
    (supplied : width * n ≤ data.length) : ∃ msgs, chunkMessages message width n off data = .ok msgs := by
  induction n generalizing off data with
  | zero => exact ⟨[], rfl⟩
  | succ n ih =>
      rw [Nat.mul_succ] at supplied
      obtain ⟨msg, built⟩ := takes off data (by omega)
      obtain ⟨msgs, rest⟩ := ih (off + 8) (data.drop width) (by rw [List.length_drop]; omega)
      rw [chunkMessages, built, rest]
      exact ⟨_, rfl⟩

theorem mext_line_messages (line : CountedCall) (data : List UInt8) :
    ∃ msgs, mextMessages t monome (line.on a b data) = .ok msgs := by
  have eighth : 8 * (data.length >>> 3) ≤ data.length := by
    rw [Nat.shiftRight_eq_div_pow]
    omega
  cases line with
  | row =>
      refine chunk_messages_stay _ 1 data.length a data (fun off data supplied => ?_) (by omega)
      obtain ⟨byte, read⟩ := (deref_ok_iff data).mpr supplied
      rw [mextLedRowMessage, read]
      exact ⟨_, rfl⟩
  | col =>
      refine chunk_messages_stay _ 1 data.length b data (fun off data supplied => ?_) (by omega)
      obtain ⟨byte, read⟩ := (deref_ok_iff data).mpr supplied
      rw [mextLedColMessage, read]
      exact ⟨_, rfl⟩
  | levelRow =>
      refine chunk_messages_stay _ 8 (data.length >>> 3) a data (fun off data supplied => ?_) eighth
      obtain ⟨levels, copied⟩ := (copy_out_ok_iff 8 data).mpr supplied
      rw [mextLedLevelRowMessage, copied]
      exact ⟨_, rfl⟩
  | levelCol =>
      refine chunk_messages_stay _ 8 (data.length >>> 3) b data (fun off data supplied => ?_) eighth
      obtain ⟨levels, copied⟩ := (copy_out_ok_iff 8 data).mpr supplied
      rw [mextLedLevelColMessage, copied]
      exact ⟨_, rfl⟩

theorem mext_line_stays (line : CountedCall) (data : List UInt8) :
    StaysInside (mextOutput t P monome (line.on a b data)) w := by
  obtain ⟨msgs, built⟩ := mext_line_messages t monome a b line data
  rw [StaysInside, (mext_sends t monome (line.on a b data)).runs, built]
  exact ⟨_, rfl⟩

theorem series_col_row_8_stays (mode : UInt8) (listed : mode = seriesLedRow8 ∨ mode = seriesLedCol8) (data : List UInt8) :
    StaysInside (protoSeriesLedColRow8 P monome mode a data) w ↔ 1 ≤ data.length := by
  rw [protoSeriesLedColRow8]
  by_cases row : mode = seriesLedRow8
  · rw [if_pos row]
    exact deref_stays data _ w fun _ => monome_write_stays P _ w
  · rw [if_neg row, if_pos (listed.resolve_left row)]
    exact deref_stays data _ w fun _ => monome_write_stays P _ w

theorem series_col_row_16_stays (mode : UInt8) (listed : mode = seriesLedRow16 ∨ mode = seriesLedCol16)
    (data : List UInt8) : StaysInside (protoSeriesLedColRow16 t P monome mode a data) w ↔ 2 ≤ data.length := by
  rw [protoSeriesLedColRow16]
  by_cases row : mode = seriesLedRow16
  · rw [if_pos row]
    exact copy_out_stays 2 data _ w fun _ => monome_write_stays P _ w
  · rw [if_neg row, if_pos (listed.resolve_left row)]
    exact copy_out_stays 2 data _ w fun _ => monome_write_stays P _ w

theorem widened_length (byte : UInt8) : (widened t byte).length = 2 := by
  rw [widened]
  split <;> rfl

theorem series_wide_stays (mode : UInt8) (listed : mode = seriesLedRow16 ∨ mode = seriesLedCol16) (data : List UInt8) :
    StaysInside (if data.length > 1 then protoSeriesLedColRow16 t P monome mode a data else do
      let byte ← Io.check (deref data)
      protoSeriesLedColRow16 t P monome mode a (widened t byte)) w ↔ 1 ≤ data.length := by
  by_cases more : data.length > 1
  · rw [if_pos more, series_col_row_16_stays t P monome a w mode listed]
    omega
  · rw [if_neg more]
    apply deref_stays
    intro byte
    rw [series_col_row_16_stays t P monome a w mode listed, widened_length]

theorem series_row_stays (data : List UInt8) :
    StaysInside (protoSeriesLedRow t P monome a b data.length data) w ↔ 1 ≤ data.length := by
  rw [protoSeriesLedRow]
  by_cases wide : monomeGetCols monome > 8
  · rw [if_pos wide]
    exact series_wide_stays t P monome b w seriesLedRow16 (.inl rfl) data
  · rw [if_neg wide]
    exact series_col_row_8_stays P monome b w seriesLedRow8 (.inl rfl) data

theorem series_col_stays (data : List UInt8) :
    StaysInside (protoSeriesLedCol t P monome a b data.length data) w ↔ 1 ≤ data.length := by
  rw [protoSeriesLedCol]
  by_cases wide : monomeGetRows monome > 8
  · rw [if_pos wide]
    exact series_wide_stays t P monome a w seriesLedCol16 (.inr rfl) data
  · rw [if_neg wide]
    exact series_col_row_8_stays P monome a w seriesLedCol8 (.inr rfl) data

theorem m40h_col_row_stays (mode : UInt8) (listed : mode = m40hLedRow ∨ mode = m40hLedCol) (data : List UInt8) :
    StaysInside (proto40hLedColRow P monome mode a data) w ↔ 1 ≤ data.length := by
  simp only [proto40hLedColRow]
  by_cases row : mode = m40hLedRow
  · rw [if_pos row]
    exact deref_stays data _ w fun _ => monome_write_stays P _ w
  · rw [if_neg row, if_pos (listed.resolve_left row)]
    exact deref_stays data _ w fun _ => monome_write_stays P _ w

theorem osc_line_stays (data : List UInt8) (one : UInt8 → Io ω Int32) (two : List UInt8 → Io ω Int32)
    (oneStays : ∀ byte, StaysInside (one byte) w) (twoStays : ∀ pair, StaysInside (two pair) w) :
    StaysInside (if data.length = 1 then do let byte ← Io.check (deref data); one byte
      else do let pair ← Io.check (copyOut 2 data); two pair) w ↔ 1 ≤ data.length := by
  by_cases single : data.length = 1
  · rw [if_pos single, deref_stays data one w oneStays]
  · rw [if_neg single, copy_out_stays 2 data two w twoStays]
    omega

end Backends

theorem line_calls_inside_iff {ω : Type} (t : Target) (P : Platform ω) (lo : Liblo ω) (backend : Backend) (line : CountedCall)
    (a b : UInt32) (data : List UInt8) (w : ω) :
    StaysInside (backend.output t P lo (line.on a b data)) w ↔ backend.Takes line data.length := by
  cases backend with
  | serial device =>
      cases device with
      | mext self => exact iff_of_true (mext_line_stays t P self.monome a b w line data) trivial
      | series self =>
          cases line with
          | row => exact series_row_stays t P self.monome a b w data
          | col => exact series_col_stays t P self.monome a b w data
          | levelRow =>
              refine level_line_stays 16 data _ w fun masks length => ?_
              rw [← length]
              exact series_row_stays t P self.monome a b w masks
          | levelCol =>
              refine level_line_stays 16 data _ w fun masks length => ?_
              rw [← length]
              exact series_col_stays t P self.monome a b w masks
      | m40h self =>
          cases line with
          | row => exact m40h_col_row_stays P self.parent b w m40hLedRow (.inl rfl) data
          | col => exact m40h_col_row_stays P self.parent a w m40hLedCol (.inr rfl) data
          | levelRow =>
              exact level_line_stays 2 data _ w fun masks _ =>
                m40h_col_row_stays P self.parent b w m40hLedRow (.inl rfl) masks
          | levelCol =>
              exact level_line_stays 2 data _ w fun masks _ =>
                m40h_col_row_stays P self.parent a w m40hLedCol (.inr rfl) masks
  | osc self =>
      cases line with
      | row => exact osc_line_stays w data _ _ (fun _ => lo_send_msg_stays lo _ _ _ w) fun _ => lo_send_msg_stays lo _ _ _ w
      | col => exact osc_line_stays w data _ _ (fun _ => lo_send_msg_stays lo _ _ _ w) fun _ => lo_send_msg_stays lo _ _ _ w
      | levelRow => exact iff_of_true ⟨_, rfl⟩ trivial
      | levelCol => exact iff_of_true ⟨_, rfl⟩ trivial

-- The row of no bytes the wrapper lets through, on a series device: the byte it
-- puts on the wire is read through the null pointer.
theorem empty_row_reads_outside : ¬ StaysInside
    ((Backend.serial (.series ⟨⟨8, 16, .rotate0, none, .unset⟩, 0, 0⟩)).output ⟨true, false⟩ link
      ⟨fun _ l => (0, l), fun l => (none, l)⟩ (CountedCall.row.on 0 3 [])) ⟨[], []⟩ := by
  rintro ⟨result, run⟩
  cases run

end Libmonome
