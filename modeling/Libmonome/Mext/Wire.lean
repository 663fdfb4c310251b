import Libmonome.Mext.Output
import Libmonome.RotationMaps
import Libmonome.RotationCoords

set_option autoImplicit false

namespace Libmonome

variable (t : Target) (monome : Monome)

theorem wire_of (msg : MextMsg) (addr cmd header : UInt8) (body rest : List UInt8)
    (address : msg.addr = addr) (command : msg.cmd = cmd) (stored : msg.payload = body ++ rest)
    (named : ((addr &&& 0xF) <<< 4) ||| (cmd &&& 0xF) = header)
    (counted : payloadLength outgoingPayloadLengths addr cmd = body.length) : msg.wire = header :: body := by
  rw [MextMsg.wire, address, command, counted, stored, named, List.take_left]

theorem led_set_wire (on : UInt32) (a b : UInt8) :
    ((MextMsg.fresh ssLedGrid (if on ≠ 0 then cmdLedOn else cmdLedOff)).put 0 [a, b]).wire =
      [if on ≠ 0 then 0x11 else 0x10, a, b] := by
  by_cases lit : on ≠ 0
  · rw [if_pos lit, if_pos lit]
    exact wire_of _ ssLedGrid cmdLedOn _ [a, b] (List.replicate 64 0) rfl rfl rfl (by decide) (by rfl)
  · rw [if_neg lit, if_neg lit]
    exact wire_of _ ssLedGrid cmdLedOff _ [a, b] (List.replicate 64 0) rfl rfl rfl (by decide) (by rfl)

theorem led_row_col_wire (row : Bool) (x y : UInt32) (data : UInt8) :
    (mextLedRowColMsg monome (if row then cmdLedRow else cmdLedColumn) x y data).wire =
      [if row == monome.rotation.swaps then 0x16 else 0x15, (rotateCoords monome x y).1.toUInt8,
        (rotateCoords monome x y).2.toUInt8, data] := by
  simp only [mextLedRowColMsg, has_flag_swap]
  generalize monome.rotation.swaps = swaps
  cases row <;> cases swaps
  · exact wire_of _ ssLedGrid cmdLedColumn _ _ (List.replicate 63 0) rfl rfl rfl (by decide) (by rfl)
  · exact wire_of _ ssLedGrid cmdLedRow _ _ (List.replicate 63 0) rfl rfl rfl (by decide) (by rfl)
  · exact wire_of _ ssLedGrid cmdLedRow _ _ (List.replicate 63 0) rfl rfl rfl (by decide) (by rfl)
  · exact wire_of _ ssLedGrid cmdLedColumn _ _ (List.replicate 63 0) rfl rfl rfl (by decide) (by rfl)

theorem led_map_wire (x y : UInt32) (data : List UInt8) (whole : data.length = 8) :
    (mextLedMapMsg t monome x y data).wire =
      0x14 :: (rotateCoords monome x y).1.toUInt8 :: (rotateCoords monome x y).2.toUInt8 ::
        (rotspec monome.rotation).mapCb t data := by
  have turned := map_cb_length t data whole monome.rotation
  refine wire_of _ ssLedGrid cmdLedMap _ _ (List.replicate 56 0) rfl rfl ?_ (by decide) ?_
  · simp [mextLedMapMsg, MextMsg.put, MextMsg.fresh, payloadSize, turned]
  · rw [List.length_cons, List.length_cons, turned]
    decide

section Nybbles

def levelNybble (bytes : List UInt8) (i : Nat) : Nat :=
  if i % 2 = 0 then (bytes.getD (i / 2) 0).toNat / 16 else (bytes.getD (i / 2) 0).toNat % 16

theorem packed_val (a b : UInt8) : ((a <<< 4) ||| (b &&& 0x0F)).toNat = 16 * (a.toNat % 16) + b.toNat % 16 := by
  have high : (a <<< 4).toNat = 2 ^ 4 * (a.toNat % 16) := by
    rw [UInt8.toNat_shiftLeft]
    simp only [Nat.shiftLeft_eq]
    show a.toNat * 2 ^ 4 % 2 ^ 8 = _
    omega
  have low : (b &&& 0x0F).toNat = b.toNat % 16 := by
    rw [UInt8.toNat_and]
    exact Nat.and_two_pow_sub_one_eq_mod b.toNat 4
  rw [UInt8.toNat_or, high, low, ← Nat.two_pow_add_eq_or_of_lt (by omega)]

theorem pack_nybbles_step (n : Nat) (data : List UInt8) : packNybbles (n + 1) data =
    (packNybbles n data).set n
      (((packNybbles n data).getD (n * 2) 0 <<< 4) ||| ((packNybbles n data).getD (n * 2 + 1) 0 &&& 0x0F)) := by
  rw [packNybbles, List.range_succ, List.foldl_append, List.foldl_cons, List.foldl_nil]
  rfl

theorem pack_nybbles_length (n : Nat) (data : List UInt8) : (packNybbles n data).length = data.length := by
  induction n with
  | zero => rfl
  | succ n ih => rw [pack_nybbles_step, List.length_set, ih]

theorem pack_nybbles_entry (n : Nat) (data : List UInt8) (room : 2 * n ≤ data.length) (k : Nat) :
    (packNybbles n data).getD k 0 =
      if k < n then (data.getD (k * 2) 0 <<< 4) ||| (data.getD (k * 2 + 1) 0 &&& 0x0F) else data.getD k 0 := by
  induction n generalizing k with
  | zero => rfl
  | succ n ih =>
      have even := ih (by omega) (n * 2)
      have odd := ih (by omega) (n * 2 + 1)
      have long := pack_nybbles_length n data
      rw [if_neg (by omega)] at even odd
      rw [pack_nybbles_step, even, odd, List.getD_eq_getElem?_getD, List.getElem?_set]
      by_cases here : n = k
      · subst here
        rw [if_pos rfl, if_pos (by omega), if_pos (by omega)]
        rfl
      · rw [if_neg here, ← List.getD_eq_getElem?_getD, ih (by omega) k]
        by_cases earlier : k < n
        · rw [if_pos earlier, if_pos (by omega)]
        · rw [if_neg earlier, if_neg (by omega)]

theorem pack_nybbles_level (n : Nat) (data : List UInt8) (room : 2 * n ≤ data.length) (i : Nat) (inside : i < 2 * n) :
    levelNybble (packNybbles n data) i = (data.getD i 0).toNat % 16 := by
  have half : i / 2 < n := by omega
  rw [levelNybble, pack_nybbles_entry n data room, if_pos half, packed_val]
  by_cases even : i % 2 = 0
  · rw [if_pos even, show i / 2 * 2 = i by omega]
    omega
  · rw [if_neg even, show i / 2 * 2 + 1 = i by omega]
    omega

theorem packed_taken (n : Nat) (data : List UInt8) (room : 2 * n ≤ data.length) (i : Nat) (inside : i < 2 * n) :
    levelNybble ((packNybbles n data).take n) i = (data.getD i 0).toNat % 16 := by
  have half : i / 2 < n := by omega
  rw [← pack_nybbles_level n data room i inside, levelNybble, levelNybble, List.getD_eq_getElem?_getD,
    List.getElem?_take_of_lt half, ← List.getD_eq_getElem?_getD]

end Nybbles

theorem led_level_set_wire (x y level : UInt8) :
    (((MextMsg.fresh ssLedGrid cmdLedLevelSet).put 2 [level]).put 0 [x, y]).wire = [0x18, x, y, level] :=
  wire_of _ ssLedGrid cmdLedLevelSet _ _ (List.replicate 63 0) rfl rfl rfl (by decide) (by rfl)

def rowLevels (rev : Bool) (data : List UInt8) : List UInt8 :=
  (if rev then revcopy data else data.take 8) ++ List.replicate 56 0

theorem led_level_row_col_wire (row rev : Bool) (x y : UInt32) (data : List UInt8) (whole : data.length = 8) :
    (mextLedLevelRowColMsg monome (if row then cmdLedLevelRow else cmdLedLevelColumn) rev x y data).wire =
      (if row == monome.rotation.swaps then 0x1C else 0x1B) :: (rotateCoords monome x y).1.toUInt8 ::
        (rotateCoords monome x y).2.toUInt8 :: (packNybbles 4 (rowLevels rev data)).take 4 := by
  have copied : (if rev then revcopy data else data.take 8).length = 8 := by
    cases rev <;> simp [revcopy, whole]
  have long : (packNybbles 4 (rowLevels rev data)).length = 64 := by
    rw [pack_nybbles_length, rowLevels, List.length_append, copied]
    rfl
  have stored (cmd : UInt8) : ((((MextMsg.fresh ssLedGrid cmd).put 0 [(rotateCoords monome x y).1.toUInt8,
      (rotateCoords monome x y).2.toUInt8]).put 2 (if rev then revcopy data else data.take 8)).edit 2
        (packNybbles 4)).payload = ((rotateCoords monome x y).1.toUInt8 :: (rotateCoords monome x y).2.toUInt8 ::
          (packNybbles 4 (rowLevels rev data)).take 4) ++ (packNybbles 4 (rowLevels rev data)).drop 4 := by
    simp [MextMsg.edit, MextMsg.put, MextMsg.fresh, payloadSize, copied, rowLevels, List.take_append_drop]
  have counted : ((rotateCoords monome x y).1.toUInt8 :: (rotateCoords monome x y).2.toUInt8 ::
      (packNybbles 4 (rowLevels rev data)).take 4).length = 6 := by
    simp [long]
  simp only [mextLedLevelRowColMsg, has_flag_swap]
  generalize monome.rotation.swaps = swaps
  cases row <;> cases swaps
  · exact wire_of _ ssLedGrid cmdLedLevelColumn _ _ _ rfl rfl (stored _) (by decide) (by rw [counted]; rfl)
  · exact wire_of _ ssLedGrid cmdLedLevelRow _ _ _ rfl rfl (stored _) (by decide) (by rw [counted]; rfl)
  · exact wire_of _ ssLedGrid cmdLedLevelRow _ _ _ rfl rfl (stored _) (by decide) (by rw [counted]; rfl)
  · exact wire_of _ ssLedGrid cmdLedLevelColumn _ _ _ rfl rfl (stored _) (by decide) (by rw [counted]; rfl)

theorem level_map_cb_length (r : MonomeRotate) (dst src : List UInt8) (room : dst.length = 64) (whole : src.length = 64) :
    ((rotspec r).levelMapCb dst src).length = 64 := by
  cases r with
  | rotate0 => simp [rotspec, r0LevelMapCb, room, whole]
  | rotate90 | rotate180 | rotate270 =>
      simp only [rotspec, r90LevelMapCb, r180LevelMapCb, r270LevelMapCb, levelLoop]
      exact (set_loop_length _ (fun _ => src.getD _ 0) (List.range 64) dst).trans room

theorem led_level_map_wire (x y : UInt32) (data : List UInt8) (whole : data.length = 64) :
    (mextLedLevelMapMsg monome x y data).wire =
      0x1A :: (rotateCoords monome x y).1.toUInt8 :: (rotateCoords monome x y).2.toUInt8 ::
        (packNybbles 32 ((rotspec monome.rotation).levelMapCb (List.replicate 64 0) data)).take 32 := by
  have long : (packNybbles 32 ((rotspec monome.rotation).levelMapCb (List.replicate 64 0) data)).length = 64 := by
    rw [pack_nybbles_length]
    exact level_map_cb_length _ _ _ (by simp) whole
  refine wire_of _ ssLedGrid cmdLedLevelMap _ _
    ((packNybbles 32 ((rotspec monome.rotation).levelMapCb (List.replicate 64 0) data)).drop 32) rfl rfl ?_ (by decide) ?_
  · simp [mextLedLevelMapMsg, MextMsg.edit, MextMsg.put, MextMsg.fresh, payloadSize, List.take_append_drop]
  · simp only [List.length_cons, List.length_take, long]
    decide

end Libmonome
