import Libmonome.Lib.Records
import Libmonome.Mext.Issued

set_option autoImplicit false

namespace Libmonome

open Records

-- A field of a payload record of struct mext_msg: a byte, an array of bytes,
-- or an array of levels, which goes out packed to half its length.
inductive Field where
  | byte
  | bytes (count : Nat)
  | levels (count : Nat)
deriving DecidableEq, Repr

def Field.size : Field → Nat
  | byte => 1
  | bytes count => count
  | levels count => count / 2

-- The record mext.h declares for each command the builders fill; a command
-- that is not named has none.
def outgoingRecords : List (UInt8 × UInt8 × List Field) := [
  (ssLedGrid, cmdLedOn, [.byte, .byte]),
  (ssLedGrid, cmdLedOff, [.byte, .byte]),
  (ssLedGrid, cmdLedMap, [.byte, .byte, .bytes 8]),
  (ssLedGrid, cmdLedRow, [.byte, .byte, .byte]),
  (ssLedGrid, cmdLedColumn, [.byte, .byte, .byte]),
  (ssLedGrid, cmdLedIntensity, [.byte]),
  (ssLedGrid, cmdLedLevelSet, [.byte, .byte, .byte]),
  (ssLedGrid, cmdLedLevelAll, [.byte]),
  (ssLedGrid, cmdLedLevelMap, [.byte, .byte, .levels 64]),
  (ssLedGrid, cmdLedLevelRow, [.byte, .byte, .levels 8]),
  (ssLedGrid, cmdLedLevelColumn, [.byte, .byte, .levels 8]),
  (ssLedRing, cmdLedRingSet, [.byte, .byte, .byte]),
  (ssLedRing, cmdLedRingAll, [.byte, .byte]),
  (ssLedRing, cmdLedRingMap, [.byte, .levels 64]),
  (ssLedRing, cmdLedRingRange, [.byte, .byte, .byte, .byte]),
  (ssLedRing, cmdLedRingIntensity, [.byte]),
  (ssTilt, cmdTiltEnable, [.byte]),
  (ssTilt, cmdTiltDisable, [.byte])]

def recordFields (addr cmd : UInt8) : List Field :=
  match outgoingRecords.find? (fun entry => entry.1 = addr ∧ entry.2.1 = cmd) with
  | some entry => entry.2.2
  | none => []

def recordLength (header : UInt8) : Nat := ((recordFields (header >>> 4) (header &&& 0xF)).map Field.size).sum

structure MextRecord where
  addr : UInt8
  cmd : UInt8
  fields : List (List UInt8)
deriving DecidableEq, Repr

def Field.read (field : Field) (stored : List UInt8) : List UInt8 :=
  match field with
  | byte | bytes _ => stored
  | levels count => (List.range count).map fun i => UInt8.ofNat (levelNybble stored i)

def readFields : List Field → List UInt8 → List (List UInt8)
  | [], _ => []
  | field :: rest, payload => field.read (payload.take field.size) :: readFields rest (payload.drop field.size)

def readRecord (raw : UInt8 × List UInt8) : MextRecord :=
  ⟨raw.1 >>> 4, raw.1 &&& 0xF, readFields (recordFields (raw.1 >>> 4) (raw.1 &&& 0xF)) raw.2⟩

def Carries (stream : List UInt8) (records : List MextRecord) : Prop :=
  ∃ raw : List (UInt8 × List UInt8), stream = raw.flatMap bytes ∧ (∀ record ∈ raw, Sized recordLength record) ∧ raw.map readRecord = records

theorem carries_none : Carries [] [] := ⟨[], rfl, by simp, rfl⟩

theorem carries_append (a b : List UInt8) (r s : List MextRecord) (left : Carries a r) (right : Carries b s) :
    Carries (a ++ b) (r ++ s) := by
  obtain ⟨raw, rfl, sized, rfl⟩ := left
  obtain ⟨later, rfl, laterSized, rfl⟩ := right
  refine ⟨raw ++ later, by rw [List.flatMap_append], ?_, by rw [List.map_append]⟩
  intro record member
  exact (List.mem_append.mp member).elim (sized record) (laterSized record)

theorem carries_one (header addr cmd : UInt8) (shape : List Field) (payload : List UInt8) (fields : List (List UInt8))
    (named : header >>> 4 = addr ∧ header &&& 0xF = cmd) (declared : recordFields addr cmd = shape)
    (sized : payload.length = (shape.map Field.size).sum) (read : readFields shape payload = fields) :
    Carries (header :: payload) [⟨addr, cmd, fields⟩] := by
  obtain ⟨rfl, rfl⟩ := named
  subst declared
  refine ⟨[(header, payload)], by simp [bytes], ?_, by rw [← read]; rfl⟩
  intro record member
  rw [List.mem_singleton.mp member]
  exact sized

theorem read_last (field : Field) (stored : List UInt8) (whole : stored.length = field.size) :
    readFields [field] stored = [field.read stored] := by
  rw [readFields, readFields, List.take_of_length_le whole.le]

theorem carries_received (stream : List UInt8) (records : List MextRecord) (carries : Carries stream records) :
    (receive recordLength stream).done.map readRecord = records ∧ (receive recordLength stream).pending = none := by
  obtain ⟨raw, rfl, sized, rfl⟩ := carries
  rw [receive_records recordLength raw sized]
  exact ⟨rfl, rfl⟩

-- What each call says, in terms of the values its builder stores: arguments
-- as bytes, levels modulo 16.
section Said

variable (t : Target) (monome : Monome)

def levelValues (count : Nat) (levels : List UInt8) : List UInt8 :=
  (List.range count).map fun i => UInt8.ofNat ((levels.getD i 0).toNat % 16)

def pointFields (x y : UInt32) : List (List UInt8) :=
  let point := rotateCoords monome x y
  [[point.1.toUInt8], [point.2.toUInt8]]

def rowColRecord (row : Bool) (x y : UInt32) (b : UInt8) : MextRecord :=
  ⟨ssLedGrid, if row == monome.rotation.swaps then cmdLedColumn else cmdLedRow, pointFields monome x y ++ [[b]]⟩

def levelRowColRecord (row rev : Bool) (x y : UInt32) (data : List UInt8) : MextRecord :=
  ⟨ssLedGrid, if row == monome.rotation.swaps then cmdLedLevelColumn else cmdLedLevelRow,
    pointFields monome x y ++ [levelValues 8 (if rev then revcopy data else data.take 8)]⟩

def mextRecords : OutputCall → Except Fault (List MextRecord)
  | .ledSet x y on => .ok [⟨ssLedGrid, if on ≠ 0 then cmdLedOn else cmdLedOff, pointFields monome x y⟩]
  | .ledAll status => .ok [⟨ssLedGrid, if status ≠ 0 then cmdLedAllOn else cmdLedAllOff, []⟩]
  | .ledMap xOff yOff data => do
      let data ← copyOut 8 data
      return [⟨ssLedGrid, cmdLedMap, pointFields monome xOff yOff ++ [(rotspec monome.rotation).mapCb t data]⟩]
  | .ledRow xOff y count data =>
      chunkMessages (fun xOff data => do
        let b ← deref data
        return rowColRecord monome true xOff y (if hasFlag monome rowRevbits then reverseByte b else b)) 1 count xOff data
  | .ledCol x yOff count data =>
      chunkMessages (fun yOff data => do
        let b ← deref data
        return rowColRecord monome false x yOff (if hasFlag monome colRevbits then reverseByte b else b)) 1 count yOff data
  | .ledIntensity brightness => .ok [⟨ssLedGrid, cmdLedIntensity, [[(brightness &&& 0xF).toUInt8]]⟩]
  | .ledLevelSet x y level => .ok [⟨ssLedGrid, cmdLedLevelSet, pointFields monome x y ++ [[level.toUInt8]]⟩]
  | .ledLevelAll level => .ok [⟨ssLedGrid, cmdLedLevelAll, [[level.toUInt8]]⟩]
  | .ledLevelMap xOff yOff data => do
      let data ← copyOut 64 data
      return [⟨ssLedGrid, cmdLedLevelMap, pointFields monome xOff yOff ++
        [levelValues 64 ((rotspec monome.rotation).levelMapCb (List.replicate 64 0) data)]⟩]
  | .ledLevelRow xOff row count data =>
      chunkMessages (fun xOff data => do
        return levelRowColRecord monome true (hasFlag monome rowRevbits) xOff row (← copyOut 8 data)) 8 (count >>> 3)
        xOff data
  | .ledLevelCol col yOff count data =>
      chunkMessages (fun yOff data => do
        return levelRowColRecord monome false (hasFlag monome colRevbits) col yOff (← copyOut 8 data)) 8 (count >>> 3)
        yOff data
  | .ledRingSet ring led level => .ok [⟨ssLedRing, cmdLedRingSet, [[ring.toUInt8], [led.toUInt8], [level.toUInt8]]⟩]
  | .ledRingAll ring level => .ok [⟨ssLedRing, cmdLedRingAll, [[ring.toUInt8], [level.toUInt8]]⟩]
  | .ledRingMap ring levels => do
      let levels ← copyOut 64 levels
      return [⟨ssLedRing, cmdLedRingMap, [[ring.toUInt8], levelValues 64 levels]⟩]
  | .ledRingRange ring start stop level => .ok [⟨ssLedRing, cmdLedRingRange,
      [[ring.toUInt8], [start.toUInt8], [stop.toUInt8], [level.toUInt8]]⟩]
  | .ledRingIntensity brightness => .ok [⟨ssLedRing, cmdLedRingIntensity, [[(brightness &&& 0xF).toUInt8]]⟩]
  | .tiltEnable sensor => .ok [⟨ssTilt, cmdTiltEnable, [[sensor.toUInt8]]⟩]
  | .tiltDisable sensor => .ok [⟨ssTilt, cmdTiltDisable, [[sensor.toUInt8]]⟩]

theorem led_set_carries (x y on : UInt32) :
    Carries ((MextMsg.fresh ssLedGrid (if on ≠ 0 then cmdLedOn else cmdLedOff)).put 0
      [(rotateCoords monome x y).1.toUInt8, (rotateCoords monome x y).2.toUInt8]).wire
      [⟨ssLedGrid, if on ≠ 0 then cmdLedOn else cmdLedOff, pointFields monome x y⟩] := by
  rw [led_set_wire]
  by_cases lit : on ≠ 0
  · simp only [if_pos lit]
    exact carries_one _ _ _ [.byte, .byte] _ _ (by decide) rfl rfl rfl
  · simp only [if_neg lit]
    exact carries_one _ _ _ [.byte, .byte] _ _ (by decide) rfl rfl rfl

theorem point_carries (header addr cmd : UInt8) (field : Field) (x y : UInt32) (stored : List UInt8)
    (named : header >>> 4 = addr ∧ header &&& 0xF = cmd) (declared : recordFields addr cmd = [.byte, .byte, field])
    (whole : stored.length = field.size) :
    Carries (header :: (rotateCoords monome x y).1.toUInt8 :: (rotateCoords monome x y).2.toUInt8 :: stored)
      [⟨addr, cmd, pointFields monome x y ++ [field.read stored]⟩] := by
  refine carries_one _ _ _ _ _ _ named declared ?_ ?_
  · simp [whole, Field.size, Nat.add_comm]
  · rw [← read_last field stored whole]
    rfl

theorem row_col_carries (row : Bool) (x y : UInt32) (b : UInt8) :
    Carries (mextLedRowColMsg monome (if row then cmdLedRow else cmdLedColumn) x y b).wire
      [rowColRecord monome row x y b] := by
  rw [led_row_col_wire, rowColRecord]
  cases row == monome.rotation.swaps with
  | false => exact point_carries monome _ _ _ .byte x y [b] (by decide) rfl rfl
  | true => exact point_carries monome _ _ _ .byte x y [b] (by decide) rfl rfl

theorem led_map_carries (x y : UInt32) (data : List UInt8) (whole : data.length = 8) :
    Carries (mextLedMapMsg t monome x y data).wire
      [⟨ssLedGrid, cmdLedMap, pointFields monome x y ++ [(rotspec monome.rotation).mapCb t data]⟩] := by
  rw [led_map_wire t monome x y data whole]
  exact point_carries monome _ _ _ (.bytes 8) x y _ (by decide) rfl (map_cb_length t data whole monome.rotation)

theorem levels_read (count n : Nat) (even : count = 2 * n) (stored levels : List UInt8) (room : count ≤ stored.length)
    (same : ∀ i < count, stored.getD i 0 = levels.getD i 0) :
    (Field.levels count).read ((packNybbles n stored).take n) = levelValues count levels := by
  rw [Field.read, levelValues]
  refine List.map_congr_left fun i member => ?_
  have inside := List.mem_range.mp member
  rw [packed_taken n stored (by omega) i (by omega), same i inside]

theorem packed_length (n : Nat) (stored : List UInt8) (room : n ≤ stored.length) :
    ((packNybbles n stored).take n).length = n := by
  rw [List.length_take, pack_nybbles_length]
  omega

theorem level_row_col_carries (row rev : Bool) (x y : UInt32) (data : List UInt8) (whole : data.length = 8) :
    Carries (mextLedLevelRowColMsg monome (if row then cmdLedLevelRow else cmdLedLevelColumn) rev x y data).wire
      [levelRowColRecord monome row rev x y data] := by
  have copied : (if rev then revcopy data else data.take 8).length = 8 := by
    cases rev <;> simp [revcopy, whole]
  have long : (rowLevels rev data).length = 64 := by
    rw [rowLevels, List.length_append, copied]
    rfl
  have read := levels_read 8 4 rfl (rowLevels rev data) (if rev then revcopy data else data.take 8) (by omega)
    fun i inside => by rw [rowLevels, List.getD_append _ _ _ _ (by omega)]
  have packed := packed_length 4 (rowLevels rev data) (by omega)
  rw [led_level_row_col_wire monome row rev x y data whole, levelRowColRecord, ← read]
  cases row == monome.rotation.swaps with
  | false => exact point_carries monome _ _ _ (.levels 8) x y _ (by decide) rfl packed
  | true => exact point_carries monome _ _ _ (.levels 8) x y _ (by decide) rfl packed

theorem level_map_carries (x y : UInt32) (data : List UInt8) (whole : data.length = 64) :
    Carries (mextLedLevelMapMsg monome x y data).wire
      [⟨ssLedGrid, cmdLedLevelMap, pointFields monome x y ++
        [levelValues 64 ((rotspec monome.rotation).levelMapCb (List.replicate 64 0) data)]⟩] := by
  have long := level_map_cb_length monome.rotation (List.replicate 64 0) data (by simp) whole
  rw [led_level_map_wire monome x y data whole, ← levels_read 64 32 rfl _ _ (by omega) fun _ _ => rfl]
  exact point_carries monome _ _ _ (.levels 64) x y _ (by decide) rfl (packed_length 32 _ (by omega))

theorem ring_map_carries (ring : UInt8) (levels : List UInt8) (whole : levels.length = 64) :
    Carries ((((MextMsg.fresh ssLedRing cmdLedRingMap).put 0 [ring]).put 1 levels).edit 1 (packNybbles 32)).wire
      [⟨ssLedRing, cmdLedRingMap, [[ring], levelValues 64 levels]⟩] := by
  have long : (levels ++ [0]).length = 65 := by
    rw [List.length_append, whole]
    rfl
  have packed := packed_length 32 (levels ++ [0]) (by omega)
  have wire : ((((MextMsg.fresh ssLedRing cmdLedRingMap).put 0 [ring]).put 1 levels).edit 1 (packNybbles 32)).wire =
      0x92 :: ring :: (packNybbles 32 (levels ++ [0])).take 32 := by
    refine wire_of _ ssLedRing cmdLedRingMap _ _ ((packNybbles 32 (levels ++ [0])).drop 32) rfl rfl ?_ (by decide) ?_
    · simp [MextMsg.edit, MextMsg.put, MextMsg.fresh, payloadSize, whole, List.take_append_drop]
    · rw [List.length_cons, packed]
      decide
  have read := levels_read 64 32 rfl (levels ++ [0]) levels (by omega)
    fun i inside => by rw [List.getD_append _ _ _ _ (by omega)]
  rw [wire, ← read]
  generalize (packNybbles 32 (levels ++ [0])).take 32 = stored at packed ⊢
  refine carries_one _ _ _ [.byte, .levels 64] _ _ (by decide) rfl ?_ ?_
  · rw [List.length_cons, packed]
    rfl
  · rw [← read_last (.levels 64) stored packed]
    rfl

theorem bytes_carries (msg : MextMsg) (addr cmd : UInt8) (body rest : List UInt8) (address : msg.addr = addr)
    (command : msg.cmd = cmd) (stored : msg.payload = body ++ rest)
    (counted : payloadLength outgoingPayloadLengths addr cmd = body.length)
    (named : (((addr &&& 0xF) <<< 4) ||| (cmd &&& 0xF)) >>> 4 = addr ∧
      (((addr &&& 0xF) <<< 4) ||| (cmd &&& 0xF)) &&& 0xF = cmd)
    (declared : recordFields addr cmd = List.replicate body.length .byte) :
    Carries msg.wire [⟨addr, cmd, body.map fun b => [b]⟩] := by
  have read : ∀ body : List UInt8, readFields (List.replicate body.length .byte) body = body.map fun b => [b] := by
    intro body
    induction body with
    | nil => rfl
    | cons b rest ih => exact congrArg ([b] :: ·) ih
  rw [wire_of msg addr cmd _ body rest address command stored rfl counted]
  exact carries_one _ _ _ _ _ _ named declared (by simp [Field.size]) (read body)

theorem chunks_carry (message : UInt32 → List UInt8 → Except Fault MextMsg) (said : UInt32 → List UInt8 → Except Fault MextRecord)
    (carries : ∀ off data msg, message off data = .ok msg → ∃ record, said off data = .ok record ∧ Carries msg.wire [record])
    (width n : Nat) (off : UInt32) (data : List UInt8) (msgs : List MextMsg)
    (built : chunkMessages message width n off data = .ok msgs) :
    ∃ records, chunkMessages said width n off data = .ok records ∧ Carries (msgs.map MextMsg.wire).flatten records := by
  induction n generalizing off data msgs with
  | zero =>
      cases built
      exact ⟨[], rfl, carries_none⟩
  | succ n ih =>
      rw [chunkMessages] at built ⊢
      cases first : message off data with
      | error fault =>
          rw [first] at built
          cases built
      | ok msg =>
          obtain ⟨record, same, one⟩ := carries off data msg first
          rw [first] at built
          cases later : chunkMessages message width n (off + 8) (data.drop width) with
          | error fault =>
              rw [later] at built
              cases built
          | ok rest =>
              rw [later] at built
              cases built
              obtain ⟨records, sames, all⟩ := ih _ _ _ later
              rw [same, sames]
              exact ⟨record :: records, rfl, carries_append _ _ [record] records one all⟩

-- The record the receiver takes the byte behind a ring intensity for.
def OutputCall.stray : OutputCall → List MextRecord
  | .ledRingIntensity _ => [⟨ssSystem, cmdSystemQuery, []⟩]
  | _ => []

theorem copied_built {β : Type} (n : Nat) (data : List UInt8) (f : List UInt8 → β) (b : β)
    (built : (do return f (← copyOut n data) : Except Fault β) = .ok b) :
    ∃ copied, copyOut n data = .ok copied ∧ b = f copied := by
  cases copy : copyOut n data with
  | error fault =>
      rw [copy] at built
      cases built
  | ok copied =>
      rw [copy] at built
      cases built
      exact ⟨copied, rfl, rfl⟩

theorem call_carries (call : OutputCall) (msgs : List MextMsg) (built : mextMessages t monome call = .ok msgs) :
    ∃ records, mextRecords t monome call = .ok records ∧
      Carries (msgs.map MextMsg.wire).flatten (records ++ call.stray) := by
  have single (msg : MextMsg) (record : MextRecord) (one : Carries msg.wire [record]) :
      Carries ([msg].map MextMsg.wire).flatten ([record] ++ []) := by
    rw [List.map_singleton, List.flatten_singleton]
    exact one
  cases call with
  | ledSet x y on =>
      cases built
      exact ⟨_, rfl, single _ _ (led_set_carries monome x y on)⟩
  | ledAll status =>
      cases built
      by_cases lit : status ≠ 0
      · simp only [mextRecords, if_pos lit]
        exact ⟨_, rfl, single _ _ (bytes_carries _ _ _ [] _ rfl rfl rfl rfl (by decide) rfl)⟩
      · simp only [mextRecords, if_neg lit]
        exact ⟨_, rfl, single _ _ (bytes_carries _ _ _ [] _ rfl rfl rfl rfl (by decide) rfl)⟩
  | ledMap xOff yOff data =>
      obtain ⟨copied, copy, rfl⟩ := copied_built 8 data _ msgs built
      rw [mextRecords, copy]
      exact ⟨_, rfl, single _ _ (led_map_carries t monome xOff yOff copied (copied_out 8 data copied copy))⟩
  | ledRow xOff y count data =>
      simp only [OutputCall.stray, List.append_nil]
      refine chunks_carry (mextLedRowMessage monome y) _ (fun off data msg one => ?_) 1 count xOff data msgs built
      cases data with
      | nil => cases one
      | cons b rest =>
          cases one
          exact ⟨_, rfl, row_col_carries monome true off y _⟩
  | ledCol x yOff count data =>
      simp only [OutputCall.stray, List.append_nil]
      refine chunks_carry (mextLedColMessage monome x) _ (fun off data msg one => ?_) 1 count yOff data msgs built
      cases data with
      | nil => cases one
      | cons b rest =>
          cases one
          exact ⟨_, rfl, row_col_carries monome false x off _⟩
  | ledIntensity brightness =>
      cases built
      exact ⟨_, rfl, single _ _ (bytes_carries _ _ _ [_] (List.replicate 65 0) rfl rfl rfl rfl (by decide) rfl)⟩
  | ledLevelSet x y level =>
      cases built
      exact ⟨_, rfl, single _ _ (bytes_carries _ _ _ [_, _, _] (List.replicate 63 0) rfl rfl rfl rfl (by decide) rfl)⟩
  | ledLevelAll level =>
      cases built
      exact ⟨_, rfl, single _ _ (bytes_carries _ _ _ [_] (List.replicate 65 0) rfl rfl rfl rfl (by decide) rfl)⟩
  | ledLevelMap xOff yOff data =>
      obtain ⟨copied, copy, rfl⟩ := copied_built 64 data _ msgs built
      rw [mextRecords, copy]
      exact ⟨_, rfl, single _ _ (level_map_carries monome xOff yOff copied (copied_out 64 data copied copy))⟩
  | ledLevelRow xOff row count data =>
      simp only [OutputCall.stray, List.append_nil]
      refine chunks_carry (mextLedLevelRowMessage monome row) _ (fun off data msg one => ?_) 8 (count >>> 3) xOff data msgs
        built
      obtain ⟨copied, copy, rfl⟩ := copied_built 8 data _ msg one
      rw [copy]
      exact ⟨_, rfl, level_row_col_carries monome true _ off row copied (copied_out 8 data copied copy)⟩
  | ledLevelCol col yOff count data =>
      simp only [OutputCall.stray, List.append_nil]
      refine chunks_carry (mextLedLevelColMessage monome col) _ (fun off data msg one => ?_) 8 (count >>> 3) yOff data msgs
        built
      obtain ⟨copied, copy, rfl⟩ := copied_built 8 data _ msg one
      rw [copy]
      exact ⟨_, rfl, level_row_col_carries monome false _ col off copied (copied_out 8 data copied copy)⟩
  | ledRingSet ring led level =>
      cases built
      exact ⟨_, rfl, single _ _ (bytes_carries _ _ _ [_, _, _] (List.replicate 63 0) rfl rfl rfl rfl (by decide) rfl)⟩
  | ledRingAll ring level =>
      cases built
      exact ⟨_, rfl, single _ _ (bytes_carries _ _ _ [_, _] (List.replicate 64 0) rfl rfl rfl rfl (by decide) rfl)⟩
  | ledRingMap ring levels =>
      obtain ⟨copied, copy, rfl⟩ := copied_built 64 levels _ msgs built
      rw [mextRecords, copy]
      exact ⟨_, rfl, single _ _ (ring_map_carries ring.toUInt8 copied (copied_out 64 levels copied copy))⟩
  | ledRingRange ring start stop level =>
      cases built
      exact ⟨_, rfl, single _ _ (bytes_carries _ _ _ [_, _, _, _] (List.replicate 62 0) rfl rfl rfl rfl (by decide) rfl)⟩
  | ledRingIntensity brightness =>
      -- the table counts two bytes, the record has one
      cases built
      have wire : ((MextMsg.fresh ssLedRing cmdLedRingIntensity).put 0 [(brightness &&& 0xF).toUInt8]).wire =
          [0x94, (brightness &&& 0xF).toUInt8] ++ [0x00] :=
        wire_of _ ssLedRing cmdLedRingIntensity _ [_, 0] (List.replicate 64 0) rfl rfl rfl (by decide) rfl
      refine ⟨_, rfl, ?_⟩
      rw [List.map_singleton, List.flatten_singleton, wire]
      exact carries_append _ _ _ _ (carries_one _ _ _ [.byte] _ _ (by decide) rfl rfl rfl)
        (carries_one _ _ _ [] _ _ (by decide) rfl rfl rfl)
  | tiltEnable sensor =>
      cases built
      exact ⟨_, rfl, single _ _ (bytes_carries _ _ _ [_] (List.replicate 65 0) rfl rfl rfl rfl (by decide) rfl)⟩
  | tiltDisable sensor =>
      cases built
      exact ⟨_, rfl, single _ _ (bytes_carries _ _ _ [_] (List.replicate 65 0) rfl rfl rfl rfl (by decide) rfl)⟩

end Said

inductive MextQuery where
  | query
  | id
  | gridsz
deriving DecidableEq, Repr

def MextQuery.cmd : MextQuery → UInt8
  | query => cmdSystemQuery
  | id => cmdSystemGetId
  | gridsz => cmdSystemGetGridsz

inductive MextIssue where
  | query (q : MextQuery)
  | output (monome : Monome) (call : OutputCall)
deriving DecidableEq, Repr

namespace MextIssue

def run {ω : Type} (t : Target) (P : Platform ω) : MextIssue → Io ω Unit
  | query q => do let _ ← mextSimpleCmd P q.cmd
  | output monome call => do let _ ← mextOutput t P monome call

def runAll {ω : Type} (t : Target) (P : Platform ω) : List MextIssue → Io ω Unit
  | [] => pure ()
  | issue :: rest => do
      issue.run t P
      runAll t P rest

def records (t : Target) : MextIssue → Except Fault (List MextRecord)
  | query q => .ok [⟨ssSystem, q.cmd, []⟩]
  | output monome call => mextRecords t monome call

def allRecords (t : Target) : List MextIssue → Except Fault (List MextRecord)
  | [] => .ok []
  | issue :: rest => do
      let first ← issue.records t
      let later ← allRecords t rest
      return first ++ later

def ringIntensity : MextIssue → Bool
  | output _ (.ledRingIntensity _) => true
  | _ => false

end MextIssue

section Sent

variable (t : Target)

theorem issue_sent (issue : MextIssue) (l l' : Link) (run : issue.run t link l = .ok ((), l')) :
    ∃ stream records stray, l'.sent.flatten = l.sent.flatten ++ stream ∧ issue.records t = .ok records ∧
      Carries stream (records ++ stray) ∧ stray.length = if issue.ringIntensity then 1 else 0 := by
  cases issue with
  | query q =>
      cases run
      cases q <;> exact ⟨_, _, [], by simp; rfl, rfl, carries_one _ _ _ [] _ _ (by decide) rfl rfl rfl, rfl⟩
  | output monome call =>
      obtain ⟨status, next, sent, ended⟩ := io_bind_inv _ _ _ _ _ run
      cases ended
      rw [(mext_sends t monome call).runs] at sent
      cases built : mextMessages t monome call with
      | error fault =>
          rw [built] at sent
          cases sent
      | ok msgs =>
          obtain ⟨records, said, carries⟩ := call_carries t monome call msgs built
          rw [built] at sent
          have line : l' = { l with sent := l.sent ++ msgs.map MextMsg.wire } :=
            (Prod.mk.inj (Except.ok.inj sent)).2.symm.trans (send_frames_link _ l)
          refine ⟨(msgs.map MextMsg.wire).flatten, records, call.stray, ?_, said, carries, ?_⟩
          · rw [line, List.flatten_append]
          · cases call <;> rfl

theorem issues_sent (issues : List MextIssue) (l l' : Link) (run : MextIssue.runAll t link issues l = .ok ((), l')) :
    ∃ stream records told, l'.sent.flatten = l.sent.flatten ++ stream ∧ MextIssue.allRecords t issues = .ok records ∧
      Carries stream told ∧ told.length = records.length + issues.countP MextIssue.ringIntensity ∧
      (issues.countP MextIssue.ringIntensity = 0 → told = records) := by
  induction issues generalizing l with
  | nil =>
      cases run
      exact ⟨[], [], [], by simp, rfl, carries_none, rfl, fun _ => rfl⟩
  | cons issue rest ih =>
      obtain ⟨_, next, first, later⟩ := io_bind_inv _ _ _ _ _ run
      obtain ⟨a, r, stray, aSent, aRecords, aCarries, aStray⟩ := issue_sent t issue l next first
      obtain ⟨b, s, told, bSent, bRecords, bCarries, bLength, bSame⟩ := ih next later
      have said : MextIssue.allRecords t (issue :: rest) = .ok (r ++ s) := by
        rw [MextIssue.allRecords, aRecords, bRecords]
        rfl
      refine ⟨a ++ b, r ++ s, r ++ stray ++ told, ?_, said, carries_append _ _ _ _ aCarries bCarries, ?_, ?_⟩
      · rw [bSent, aSent, List.append_assoc]
      · simp only [List.length_append, List.countP_cons, aStray, bLength]
        omega
      · intro none
        rw [List.countP_cons] at none
        have bare : stray = [] := List.eq_nil_of_length_eq_zero (by omega)
        rw [bare, List.append_nil, bSame (by omega)]

end Sent

theorem mext_output_decoded_iff (t : Target) (issues : List MextIssue) (incoming : List UInt8) (l : Link)
    (run : MextIssue.runAll t link issues ⟨incoming, []⟩ = .ok ((), l)) :
    (∃ records, MextIssue.allRecords t issues = .ok records ∧
      (receive recordLength l.sent.flatten).done.map readRecord = records ∧
      (receive recordLength l.sent.flatten).pending = none) ↔
    ∀ issue ∈ issues, issue.ringIntensity = false := by
  obtain ⟨stream, records, told, sent, said, carries, length, same⟩ := issues_sent t issues ⟨incoming, []⟩ l run
  obtain ⟨received, ended⟩ := carries_received stream told carries
  have whole : l.sent.flatten = stream := by
    rw [sent]
    rfl
  have clean : (∀ issue ∈ issues, issue.ringIntensity = false) ↔ issues.countP MextIssue.ringIntensity = 0 := by
    simp [List.countP_eq_zero]
  rw [whole, received, ended, said, clean]
  constructor
  · rintro ⟨expected, asked, heard, _⟩
    cases asked
    rw [heard] at length
    omega
  · intro none
    exact ⟨records, rfl, same none, rfl⟩

theorem mext_output_decoded_mixed : ∃ records,
    MextIssue.allRecords ⟨true, false⟩ [.query .id, .output ⟨8, 16, .rotate90, none, .unset⟩ (.ledLevelRow 0 3 8
      [0, 1, 2, 3, 4, 5, 6, 0xF7]), .output ⟨8, 16, .rotate0, none, .unset⟩ (.ledRingAll 2 300)] = .ok records ∧
    (receive recordLength [[0x01], [0x1C, 3, 7, 0x76, 0x54, 0x32, 0x10], [0x91, 2, 44]].flatten).done.map readRecord =
      records ∧
    (receive recordLength [[0x01], [0x1C, 3, 7, 0x76, 0x54, 0x32, 0x10], [0x91, 2, 44]].flatten).pending = none :=
  (mext_output_decoded_iff ⟨true, false⟩ _ [] ⟨[], [[0x01], [0x1C, 3, 7, 0x76, 0x54, 0x32, 0x10], [0x91, 2, 44]]⟩
    rfl).mpr (by decide)

-- The byte the table counts behind a ring intensity reads as a system query.
theorem ring_intensity_adds_query : ∃ l, MextIssue.runAll ⟨true, false⟩ link
      [.output ⟨0, 0, .rotate0, none, .unset⟩ (.ledRingIntensity 5)] ⟨[], []⟩ = .ok ((), l) ∧
    ¬ ∃ records, MextIssue.allRecords ⟨true, false⟩ [.output ⟨0, 0, .rotate0, none, .unset⟩ (.ledRingIntensity 5)] =
        .ok records ∧
      (receive recordLength l.sent.flatten).done.map readRecord = records ∧
      (receive recordLength l.sent.flatten).pending = none := by
  refine ⟨⟨[], [[0x94, 5, 0]]⟩, rfl, ?_⟩
  rintro ⟨records, said, received, _⟩
  cases said
  exact absurd received (by decide)

end Libmonome
