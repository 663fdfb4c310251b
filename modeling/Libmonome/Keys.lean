import Libmonome.Device

set_option autoImplicit false

namespace Libmonome

theorem pair_byte (x y : UInt32) (xSmall : x.toNat < 16) (ySmall : y.toNat < 16) :
    ((x <<< 4) ||| y).toUInt8.toNat = 16 * x.toNat + y.toNat := by
  have high : (x <<< 4).toNat = 2 ^ 4 * x.toNat := by
    rw [UInt32.toNat_shiftLeft]
    simp only [Nat.shiftLeft_eq]
    show x.toNat * 2 ^ 4 % 2 ^ 32 = _
    omega
  rw [UInt32.toNat_toUInt8, UInt32.toNat_or, high, ← Nat.two_pow_add_eq_or_of_lt (by omega)]
  omega

theorem high_nybble (b : UInt8) : (b >>> 4).toUInt32.toNat = b.toNat / 16 := by
  rw [UInt8.toNat_toUInt32, UInt8.toNat_shiftRight, Nat.shiftRight_eq_div_pow]
  rfl

theorem low_nybble (b : UInt8) : (b &&& 0x0F).toUInt32.toNat = b.toNat % 16 := by
  rw [UInt8.toNat_toUInt32, UInt8.toNat_and]
  exact Nat.and_two_pow_sub_one_eq_mod b.toNat 4

theorem masked (x mask : UInt32) (k : Nat) (bits : mask.toNat = 2 ^ k - 1) (small : x.toNat < 2 ^ k) :
    x &&& mask = x := by
  apply UInt32.toNat_inj.mp
  rw [UInt32.toNat_and, bits]
  exact (Nat.and_two_pow_sub_one_eq_mod x.toNat k).trans (Nat.mod_eq_of_lt small)

theorem byte_of_coordinate (n : Nat) (small : n < 256) : (UInt8.ofNat n).toNat = n := by
  rw [UInt8.toNat_ofNat', Nat.mod_eq_of_lt (by omega)]

section Grid

variable (monome : Monome) (C R : Nat) (has : HasGrid monome C R)
include has

theorem unrotated_on_grid (px py x y : UInt32) (inside : InGrid C R (px.toNat, py.toNat))
    (named : (x.toNat, y.toNat) = unturn monome.rotation C R (px.toNat, py.toNat)) :
    unrotateCoords monome px py = .ok (x, y) := by
  obtain ⟨x', y', back, place⟩ := unrotate_coords_in_grid monome C R has px py inside
  rw [← named, Prod.mk.injEq] at place
  rw [back, UInt32.toNat_inj.mp place.1, UInt32.toNat_inj.mp place.2]

theorem rotated_pair_place (small : C ≤ 16 ∧ R ≤ 16) (x y : UInt32)
    (named : InGrid (logicalCols monome.rotation C R) (logicalRows monome.rotation C R) (x.toNat, y.toNat)) :
    ((((rotateCoords monome x y).1 <<< 4) ||| (rotateCoords monome x y).2).toUInt8.toNat / 16,
      (((rotateCoords monome x y).1 <<< 4) ||| (rotateCoords monome x y).2).toUInt8.toNat % 16) =
        turn monome.rotation C R (x.toNat, y.toNat) := by
  have inside := turn_in_grid monome.rotation C R _ named
  rw [← rotate_coords_in_grid monome C R has x y named] at inside ⊢
  have left : (rotateCoords monome x y).1.toNat < 16 := lt_of_lt_of_le inside.1 small.1
  have up : (rotateCoords monome x y).2.toNat < 16 := lt_of_lt_of_le inside.2 small.2
  rw [pair_byte _ _ left up, Prod.mk.injEq]
  omega

theorem m40h_set_unmasked {ω : Type} (small : C = 8 ∧ R = 8) (x y on : UInt32)
    (named : InGrid (logicalCols monome.rotation C R) (logicalRows monome.rotation C R) (x.toNat, y.toNat))
    (P : Platform ω) : proto40hLedSet P monome x y on = monomeWrite P [m40hLedOff + (if on = 0 then 0 else 1),
      (((rotateCoords monome x y).1 <<< 4) ||| (rotateCoords monome x y).2).toUInt8] := by
  have inside := turn_in_grid monome.rotation C R _ named
  rw [← rotate_coords_in_grid monome C R has x y named] at inside
  have left : (rotateCoords monome x y).1.toNat < 2 ^ 3 := lt_of_lt_of_eq inside.1 small.1
  have up : (rotateCoords monome x y).2.toNat < 2 ^ 3 := lt_of_lt_of_eq inside.2 small.2
  rw [proto40hLedSet, masked _ 0x7 3 rfl left, masked _ 0x7 3 rfl up]

theorem mext_lamp_addressed (small : C ≤ 255 ∧ R ≤ 255) (x y on : UInt32)
    (named : InGrid (logicalCols monome.rotation C R) (logicalRows monome.rotation C R) (x.toNat, y.toNat))
    (self : Mext) : ∃ status frame, mextLedSet link monome x y on ⟨[], []⟩ = .ok (status, ⟨[], [frame]⟩) ∧
      (Device.mext self).lampSet frame =
        some (turn monome.rotation C R (x.toNat, y.toNat), decide (on ≠ 0)) := by
  have limits : logicalCols monome.rotation C R ≤ 255 ∧ logicalRows monome.rotation C R ≤ 255 := by
    rw [logicalCols, logicalRows]
    cases monome.rotation.swaps
    · exact small
    · exact ⟨small.2, small.1⟩
  have below : x.toNat < 256 ∧ y.toNat < 256 := ⟨by have := named.1; simp only at this; omega,
    by have := named.2; simp only at this; omega⟩
  have bytes := rotate_coords_bytes monome C R has x y below.1 below.2
  rw [wire_turn_in_grid _ C R _ small named] at bytes
  refine ⟨3, [if on ≠ 0 then 0x11 else 0x10, (rotateCoords monome x y).1.toUInt8, (rotateCoords monome x y).2.toUInt8], ?_, ?_⟩
  · rw [mextLedSet, io_bind, mextWriteMsg, led_set_wire]
    rfl
  · rw [← bytes]
    by_cases lit : on ≠ 0
    · rw [if_pos lit, decide_eq_true lit]
      rfl
    · rw [if_neg lit, decide_eq_false lit]
      rfl

theorem series_lamp_addressed (small : C ≤ 16 ∧ R ≤ 16) (x y on : UInt32)
    (named : InGrid (logicalCols monome.rotation C R) (logicalRows monome.rotation C R) (x.toNat, y.toNat))
    (self : Series) : ∃ status frame, protoSeriesLedSet link monome x y on ⟨[], []⟩ = .ok (status, ⟨[], [frame]⟩) ∧
      (Device.series self).lampSet frame =
        some (turn monome.rotation C R (x.toNat, y.toNat), decide (on ≠ 0)) := by
  rw [← rotated_pair_place monome C R has small x y named]
  refine ⟨0, [seriesLedOn + ((if on = 0 then (1 : UInt8) else 0) <<< 4),
    (((rotateCoords monome x y).1 <<< 4) ||| (rotateCoords monome x y).2).toUInt8], rfl, ?_⟩
  by_cases dark : on = 0
  · rw [if_pos dark, decide_eq_false (not_not.mpr dark)]
    rfl
  · rw [if_neg dark, decide_eq_true dark]
    rfl

theorem m40h_lamp_addressed (small : C = 8 ∧ R = 8) (x y on : UInt32)
    (named : InGrid (logicalCols monome.rotation C R) (logicalRows monome.rotation C R) (x.toNat, y.toNat))
    (self : M40h) : ∃ status frame, proto40hLedSet link monome x y on ⟨[], []⟩ = .ok (status, ⟨[], [frame]⟩) ∧
      (Device.m40h self).lampSet frame =
        some (turn monome.rotation C R (x.toNat, y.toNat), decide (on ≠ 0)) := by
  have sixteen : C ≤ 16 ∧ R ≤ 16 := ⟨by omega, by omega⟩
  rw [← rotated_pair_place monome C R has sixteen x y named]
  refine ⟨0, [m40hLedOff + (if on = 0 then 0 else 1),
    (((rotateCoords monome x y).1 <<< 4) ||| (rotateCoords monome x y).2).toUInt8], ?_, ?_⟩
  · rw [m40h_set_unmasked monome C R has small x y on named]
    rfl
  · by_cases dark : on = 0
    · rw [if_pos dark, decide_eq_false (not_not.mpr dark)]
      rfl
    · rw [if_neg dark, decide_eq_true dark]
      rfl

end Grid

def keyFrame (down : Bool) (px py : UInt8) : Frame where
  header := if down then 0x21 else 0x20
  payload := [px, py]
  sized := by cases down <;> rfl

section Reports

variable (C R : Nat) (p : Nat × Nat) (inside : InGrid C R p) (down : Bool) (x y : UInt32) (e : MonomeEvent)
include inside

theorem mext_key_reported [t : Target] (self : Mext) (has : HasGrid self.monome C R) (small : C ≤ 255 ∧ R ≤ 255)
    (named : (x.toNat, y.toNat) = unturn self.monome.rotation C R p) (fuel : Nat) :
    ∃ after, mextNextEvent link (fuel + 1) self e ⟨(Device.mext self).keyMessage down p, []⟩ =
      .ok (⟨some 1, self, keyEvent down x y⟩, after) ∧ after.incoming = [] := by
  obtain ⟨px, py⟩ := p
  have left : (UInt8.ofNat px).toUInt32.toNat = px := by
    rw [UInt8.toNat_toUInt32, byte_of_coordinate px (by have := inside.1; simp only at this; omega)]
  have up : (UInt8.ofNat py).toUInt32.toNat = py := by
    rw [UInt8.toNat_toUInt32, byte_of_coordinate py (by have := inside.2; simp only at this; omega)]
  have back := unrotated_on_grid self.monome C R has (UInt8.ofNat px).toUInt32 (UInt8.ofNat py).toUInt32 x y
    (by rwa [left, up]) (by rw [left, up]; exact named)
  have queued : Cut Link.incoming ⟨(Device.mext self).keyMessage down (px, py), []⟩
      ((keyFrame down (UInt8.ofNat px) (UInt8.ofNat py)).pieces ++ []) := by
    rw [List.append_nil]
    exact ⟨frame_pieces_flow _, (frame_pieces_bytes (keyFrame down (UInt8.ofNat px) (UInt8.ofNat py))).symm⟩
  obtain ⟨status, after, got, came, drained⟩ := read_msg_frame link (Cut Link.incoming)
    (delivers_feeds link Link.incoming link_delivers) (.fresh 0 0) _ _ _ queued
  refine ⟨after, ?_, drained.2⟩
  have handled : subsystemEventHandlers ((keyFrame down (UInt8.ofNat px) (UInt8.ofNat py)).over (.fresh 0 0)).addr self
      ((keyFrame down (UInt8.ofNat px) (UInt8.ofNat py)).over (.fresh 0 0)) e =
        .ok ⟨true, self, keyEvent down x y⟩ := by
    have address : (if down then (0x21 : UInt8) else 0x20) >>> 4 = ssKeyGrid := by
      cases down <;> decide
    have pressed : (if (if down then (0x21 : UInt8) else 0x20) &&& 0xF = cmdKeyDown
        then MonomeEventType.buttonDown else .buttonUp) = if down then .buttonDown else .buttonUp := by
      cases down <;> decide
    rw [Frame.over]
    show subsystemEventHandlers ((if down then (0x21 : UInt8) else 0x20) >>> 4) self _ e = _
    rw [address]
    show (unrotateCoords self.monome (UInt8.ofNat px).toUInt32 (UInt8.ofNat py).toUInt32 >>= _) = _
    rw [back, keyEvent, ← pressed]
    rfl
  rw [mextNextEvent, next_event_handled link fuel _ self e _ after status _ _ got came handled]
  rfl

theorem pair_coordinates (small : C ≤ 16 ∧ R ≤ 16) :
    (UInt8.ofNat (16 * p.1 + p.2) >>> 4).toUInt32.toNat = p.1 ∧
      (UInt8.ofNat (16 * p.1 + p.2) &&& 0x0F).toUInt32.toNat = p.2 := by
  have left := lt_of_lt_of_le inside.1 small.1
  have up := lt_of_lt_of_le inside.2 small.2
  rw [high_nybble, low_nybble, byte_of_coordinate _ (by omega)]
  omega

theorem pair_unrotated (monome : Monome) (has : HasGrid monome C R) (small : C ≤ 16 ∧ R ≤ 16)
    (named : (x.toNat, y.toNat) = unturn monome.rotation C R p) :
    unrotateCoords monome (UInt8.ofNat (16 * p.1 + p.2) >>> 4).toUInt32 (UInt8.ofNat (16 * p.1 + p.2) &&& 0x0F).toUInt32 =
      .ok (x, y) := by
  obtain ⟨left, up⟩ := pair_coordinates C R p inside small
  refine unrotated_on_grid monome C R has _ _ x y ?_ ?_
  · rwa [left, up]
  · rw [left, up]
    exact named

theorem series_key_reported (self : Series) (has : HasGrid self.monome C R) (small : C ≤ 16 ∧ R ≤ 16)
    (named : (x.toNat, y.toNat) = unturn self.monome.rotation C R p) :
    protoSeriesNextEvent link self e ⟨(Device.series self).keyMessage down p, []⟩ =
      .ok (⟨some 1, self, keyEvent down x y⟩, ⟨[], []⟩) := by
  have back := pair_unrotated C R p inside x y self.monome has small named
  have switched : seriesSwitch self e ((if down then (0x00 : UInt8) else 0x10), UInt8.ofNat (16 * p.1 + p.2)) =
      .ok ⟨some 1, self, keyEvent down x y⟩ := by
    cases down with
    | false =>
        rw [seriesSwitch, if_pos (.inr rfl), back]
        rfl
    | true =>
        rw [seriesSwitch, if_pos (.inl rfl), back]
        rfl
  show Io.check (seriesSwitch self e ((if down then (0x00 : UInt8) else 0x10), UInt8.ofNat (16 * p.1 + p.2))) (⟨[], []⟩ : Link) = _
  rw [switched]
  rfl

theorem m40h_key_reported (self : M40h) (has : HasGrid self.parent C R) (small : C ≤ 16 ∧ R ≤ 16)
    (named : (x.toNat, y.toNat) = unturn self.parent.rotation C R p) :
    proto40hNextEvent link self e ⟨(Device.m40h self).keyMessage down p, []⟩ =
      .ok (⟨some 1, self, keyEvent down x y⟩, ⟨[], []⟩) := by
  have back := pair_unrotated C R p inside x y self.parent has small named
  have switched : m40hSwitch self e ((if down then (0x01 : UInt8) else 0x00), UInt8.ofNat (16 * p.1 + p.2)) =
      .ok ⟨some 1, self, keyEvent down x y⟩ := by
    cases down with
    | false =>
        rw [m40hSwitch, if_pos (.inr rfl), back]
        rfl
    | true =>
        rw [m40hSwitch, if_pos (.inl rfl), back]
        rfl
  show Io.check (m40hSwitch self e ((if down then (0x01 : UInt8) else 0x00), UInt8.ofNat (16 * p.1 + p.2))) (⟨[], []⟩ : Link) = _
  rw [switched]
  rfl

end Reports

theorem lamp_addressed (device : Device) (C R : Nat) (drives : device.Drives C R) (has : HasGrid device.monome C R)
    (x y on : UInt32) (named : InGrid (logicalCols device.monome.rotation C R)
      (logicalRows device.monome.rotation C R) (x.toNat, y.toNat)) :
    ∃ status frame, device.ledSet link x y on ⟨[], []⟩ = .ok (status, ⟨[], [frame]⟩) ∧
      device.lampSet frame = some (turn device.monome.rotation C R (x.toNat, y.toNat), decide (on ≠ 0)) := by
  cases device with
  | mext self => exact mext_lamp_addressed self.monome C R has ⟨drives.1.2, drives.2.2⟩ x y on named self
  | series self => exact series_lamp_addressed self.monome C R has drives x y on named self
  | m40h self => exact m40h_lamp_addressed self.parent C R has drives x y on named self

theorem key_reported [t : Target] (device : Device) (C R : Nat) (drives : device.Drives C R)
    (has : HasGrid device.monome C R) (p : Nat × Nat) (inside : InGrid C R p) (down : Bool) (x y : UInt32)
    (e : MonomeEvent) (fuel : Nat) (named : (x.toNat, y.toNat) = unturn device.monome.rotation C R p) :
    ∃ after, device.nextEvent link (fuel + 1) e ⟨device.keyMessage down p, []⟩ =
      .ok (⟨some 1, device, keyEvent down x y⟩, after) ∧ after.incoming = [] := by
  cases device with
  | mext self =>
      obtain ⟨after, ran, drained⟩ := mext_key_reported C R p inside down x y e self has ⟨drives.1.2, drives.2.2⟩ named fuel
      exact ⟨after, io_bind_ok _ _ _ _ _ ran, drained⟩
  | series self =>
      exact ⟨⟨[], []⟩, io_bind_ok _ _ _ _ _ (series_key_reported C R p inside down x y e self has drives named), rfl⟩
  | m40h self =>
      have small : C ≤ 16 ∧ R ≤ 16 := ⟨by rw [drives.1]; decide, by rw [drives.2]; decide⟩
      exact ⟨⟨[], []⟩, io_bind_ok _ _ _ _ _ (m40h_key_reported C R p inside down x y e self has small named), rfl⟩

theorem lamp_under_key [t : Target] (device : Device) (C R : Nat) (drives : device.Drives C R)
    (has : HasGrid device.monome C R) (e : MonomeEvent) (fuel : Nat) :
    (∀ x y : UInt32, LogicalCell device.monome (x.toNat, y.toNat) → ∃ p, InGrid C R p ∧
      (∀ on, ∃ status frame, device.ledSet link x y on ⟨[], []⟩ = .ok (status, ⟨[], [frame]⟩) ∧
        device.lampSet frame = some (p, decide (on ≠ 0))) ∧
      ∀ down, ∃ after, device.nextEvent link (fuel + 1) e ⟨device.keyMessage down p, []⟩ =
        .ok (⟨some 1, device, keyEvent down x y⟩, after)) ∧
    (∀ p, InGrid C R p → ∃ x y : UInt32, LogicalCell device.monome (x.toNat, y.toNat) ∧
      (∀ down, ∃ after, device.nextEvent link (fuel + 1) e ⟨device.keyMessage down p, []⟩ =
        .ok (⟨some 1, device, keyEvent down x y⟩, after)) ∧
      ∀ on, ∃ status frame, device.ledSet link x y on ⟨[], []⟩ = .ok (status, ⟨[], [frame]⟩) ∧
        device.lampSet frame = some (p, decide (on ≠ 0))) := by
  constructor
  · intro x y named
    rw [logical_cell_in_grid device.monome C R has] at named
    have inside := turn_in_grid device.monome.rotation C R _ named
    refine ⟨_, inside, fun on => lamp_addressed device C R drives has x y on named, fun down => ?_⟩
    obtain ⟨after, ran, _⟩ := key_reported device C R drives has _ inside down x y e fuel
      (unturn_turn device.monome.rotation C R _ named).symm
    exact ⟨after, ran⟩
  · intro p inside
    have logical := unturn_in_grid device.monome.rotation C R p inside
    have fits : ∀ n : Nat, n < 256 → (UInt32.ofNat n).toNat = n := by
      intro n small
      rw [UInt32.toNat_ofNat', Nat.mod_eq_of_lt (by omega)]
    have small : logicalCols device.monome.rotation C R ≤ 256 ∧ logicalRows device.monome.rotation C R ≤ 256 := by
      have limits : C ≤ 256 ∧ R ≤ 256 := by
        cases device with
        | mext self => exact ⟨le_trans drives.1.2 (by decide), le_trans drives.2.2 (by decide)⟩
        | series self => exact ⟨le_trans drives.1 (by decide), le_trans drives.2 (by decide)⟩
        | m40h self => exact ⟨by rw [drives.1]; decide, by rw [drives.2]; decide⟩
      rw [logicalCols, logicalRows]
      cases device.monome.rotation.swaps
      · exact limits
      · exact ⟨limits.2, limits.1⟩
    have named : ((UInt32.ofNat (unturn device.monome.rotation C R p).1).toNat,
        (UInt32.ofNat (unturn device.monome.rotation C R p).2).toNat) = unturn device.monome.rotation C R p := by
      rw [fits _ (lt_of_lt_of_le logical.1 small.1), fits _ (lt_of_lt_of_le logical.2 small.2)]
    refine ⟨_, _, (logical_cell_in_grid device.monome C R has _).mpr (by rw [named]; exact logical), fun down => ?_,
      fun on => ?_⟩
    · obtain ⟨after, ran, _⟩ := key_reported device C R drives has p inside down _ _ e fuel named
      exact ⟨after, ran⟩
    · have lamp := lamp_addressed device C R drives has _ _ on (by rw [named]; exact logical)
      rwa [named, turn_unturn device.monome.rotation C R p inside] at lamp

theorem lamp_under_key_turned : ∃ after,
    (Device.series ⟨⟨8, 16, .rotate90, none, .unset⟩, 0, 0⟩).nextEvent (t := ⟨true, false⟩) link 1
        (keyEvent true 0 0) ⟨[0x00, 0xF2], []⟩ =
      .ok (⟨some 1, .series ⟨⟨8, 16, .rotate90, none, .unset⟩, 0, 0⟩, keyEvent true 5 15⟩, after) := by
  have lit := (lamp_under_key (t := ⟨true, false⟩) (.series ⟨⟨8, 16, .rotate90, none, .unset⟩, 0, 0⟩) 16 8
    ⟨by decide, by decide⟩ ⟨by decide, by decide⟩ (keyEvent true 0 0) 0).1 5 15 (by decide)
  obtain ⟨p, inside, lamps, keys⟩ := lit
  obtain ⟨status, frame, sent, place⟩ := lamps 1
  have sameFrame : frame = [0x20, 0xF2] := by
    have wrote := congrArg (fun r => r.toOption.map fun a => a.2.sent) sent
    exact ((List.cons.inj (Option.some.inj wrote)).1).symm
  rw [sameFrame] at place
  have at_place : p = (15, 2) := (congrArg Prod.fst (Option.some.inj place)).symm
  rw [at_place] at keys
  exact keys true

end Libmonome
