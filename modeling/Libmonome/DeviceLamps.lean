import Libmonome.Hearing
import Libmonome.LineLamps
import Libmonome.Mext.Lamps

set_option autoImplicit false

namespace Libmonome

open Picture

namespace Device

def panelSize : Device → UInt8 → Nat
  | mext _ => recordLength
  | series _ => LineGrid.size .series
  | m40h _ => LineGrid.size .m40h

def panelLamp (C R : Nat) : Device → UInt8 × List UInt8 → Pic (Nat × Nat) Bool
  | mext _ => mextLamp ⟨id, fun level => level ≠ 0⟩ C R
  | series _ => LineGrid.lamp .series C R
  | m40h _ => LineGrid.lamp .m40h C R

def HasLamps (C R : Nat) : Device → Prop
  | mext self => BlockGrid C R ∧ HasGrid self.monome C R
  | series self => SeriesGrid C R ∧ HasGrid self.monome C R
  | m40h self => (C = 8 ∧ R = 8) ∧ HasGrid self.parent C R

def draw (t : Target) (C R : Nat) : Device → MonomeRotate → OutputCall → Pic (Nat × Nat) Bool
  | mext _, _ => OutputCall.picture ⟨id, fun level => level ≠ 0⟩
  | series _, r => LineGrid.draw .series t C R r
  | m40h _, r => LineGrid.draw .m40h t C R r

def Drawable (C R : Nat) : Device → MonomeRotate → OutputCall → Prop
  | mext _, _ => OutputCall.Drawable
  | series _, r | m40h _, r => LineDrawable C R r

def keyDown : Device → Message → Option (Nat × Nat)
  | mext _, .frame frame =>
      if frame.header = 0x21 then some ((frame.payload.getD 0 0).toNat, (frame.payload.getD 1 0).toNat) else none
  | series _, .pair b0 b1 => if b0 = 0x00 then some (b1.toNat / 16, b1.toNat % 16) else none
  | m40h _, .pair b0 b1 => if b0 = 0x01 then some (b1.toNat / 16, b1.toNat % 16) else none
  | _, _ => none

def TellsSize (C R : Nat) (message : Message) : Prop :=
  ∀ frame, message = .frame frame → frame.header = 0x03 →
    (frame.payload.getD 0 0).toNat = C ∧ (frame.payload.getD 1 0).toNat = R

-- The messages of a device with a grid of C by R: of its protocol, of keys it
-- has, and telling its own size.
structure Reports (device : Device) (C R : Nat) (message : Message) : Prop where
  spoken : device.Speaks message
  has : ∀ p, device.keyDown message = some p → InGrid C R p
  size : TellsSize C R message

structure Remains (start : Device) (C R : Nat) (device : Device) : Prop where
  lamps : device.HasLamps C R
  rotation : device.monome.rotation = start.monome.rotation
  panel : device.panelSize = start.panelSize ∧ device.panelLamp C R = start.panelLamp C R
  draws : ∀ t, device.draw t C R = start.draw t C R ∧ device.Drawable C R = start.Drawable C R
  keys : ∀ message, device.keyDown message = start.keyDown message
  speaks : ∀ message, device.Speaks message ↔ start.Speaks message

end Device

theorem frame_self_remains (self : Mext) (frame : Frame) (C R : Nat) (has : HasGrid self.monome C R)
    (size : frame.header = 0x03 → (frame.payload.getD 0 0).toNat = C ∧ (frame.payload.getD 1 0).toNat = R) :
    HasGrid (frameSelf self frame).monome C R ∧ (frameSelf self frame).monome.rotation = self.monome.rotation := by
  rw [frameSelf]
  by_cases query : frame.header = 0x00
  · rw [if_pos query]
    exact ⟨has, rfl⟩
  by_cases id : frame.header = 0x01
  · rw [if_neg query, if_pos id]
    exact ⟨⟨has.cols, has.rows⟩, rfl⟩
  by_cases gridsz : frame.header = 0x03
  · rw [if_neg query, if_neg id, if_pos gridsz]
    obtain ⟨cols, rows⟩ := size gridsz
    have byte (b : UInt8) : b.toUInt32.toInt32.toInt = b.toNat := by
      have bound := b.toNat_lt
      rw [uint_as_int, UInt8.toNat_toUInt32, Int32.toInt_ofNat_of_lt (by omega)]
    exact ⟨⟨(byte _).trans (congrArg Nat.cast cols), (byte _).trans (congrArg Nat.cast rows)⟩, rfl⟩
  · rw [if_neg query, if_neg id, if_neg gridsz]
    exact ⟨has, rfl⟩

theorem keys_after (device : Device) (heard message : Message) :
    (device.after heard).keyDown message = device.keyDown message := by
  cases device <;> cases heard <;> cases message <;> rfl

theorem after_remains (start : Device) (C R : Nat) (device : Device) (remains : start.Remains C R device) (message : Message)
    (tells : Device.TellsSize C R message) : start.Remains C R (device.after message) := by
  have speaks : ∀ m, (device.after message).Speaks m ↔ start.Speaks m := fun m =>
    (speaks_after device message m).trans (remains.speaks m)
  have keys := fun m => (keys_after device message m).trans (remains.keys m)
  cases device with
  | mext self =>
      cases message with
      | pair b0 b1 => exact remains
      | frame frame =>
          obtain ⟨grid, has⟩ := remains.lamps
          obtain ⟨kept, rotation⟩ := frame_self_remains self frame C R has (tells frame rfl)
          exact ⟨⟨grid, kept⟩, rotation.trans remains.rotation, remains.panel, remains.draws, keys, speaks⟩
  | series self =>
      cases message with
      | frame frame => exact remains
      | pair b0 b1 =>
          have same : (seriesSelf self b0 b1).monome = self.monome := by
            rw [seriesSelf]
            split
            · rfl
            · split <;> rfl
          obtain ⟨sides, has⟩ := remains.lamps
          refine ⟨⟨sides, ?_⟩, ?_, remains.panel, remains.draws, keys, speaks⟩
          · rw [same]
            exact has
          · exact (congrArg Monome.rotation same).trans remains.rotation
  | m40h self =>
      cases message with
      | frame frame => exact remains
      | pair b0 b1 =>
          have same : (m40hSelf self b0 b1).parent = self.parent := by
            rw [m40hSelf]
            split
            · rfl
            · split <;> rfl
          obtain ⟨sides, has⟩ := remains.lamps
          refine ⟨⟨sides, ?_⟩, ?_, remains.panel, remains.draws, keys, speaks⟩
          · rw [same]
            exact has
          · exact (congrArg Monome.rotation same).trans remains.rotation

theorem grid_decodes (start : Device) (C R : Nat) (positive : 0 < C ∧ 0 < R) (device : Device)
    (remains : start.Remains C R device) (messages : List Message)
    (tells : ∀ message ∈ messages, Device.TellsSize C R message) : device.AllDecode messages := by
  induction messages generalizing device with
  | nil => trivial
  | cons message rest ih =>
      have told := tells message List.mem_cons_self
      refine ⟨?_, ih (device.after message) (after_remains start C R device remains message told)
        fun m member => tells m (List.mem_cons_of_mem _ member)⟩
      have divides (monome : Monome) (has : HasGrid monome C R) := grid_divides monome C R has positive.1 positive.2
      have lamps := remains.lamps
      cases device with
      | mext self =>
          cases message with
          | frame frame => exact fun _ => divides self.monome lamps.2
          | pair b0 b1 => trivial
      | series self =>
          cases message with
          | frame frame => trivial
          | pair b0 b1 => exact fun _ => divides self.monome lamps.2
      | m40h self =>
          cases message with
          | frame frame => trivial
          | pair b0 b1 => exact fun _ => divides self.parent lamps.2

theorem fresh_remains (start : Device) (C R : Nat) (has : start.HasLamps C R) : start.Remains C R start :=
  ⟨has, rfl, ⟨rfl, rfl⟩, fun _ => ⟨rfl, rfl⟩, fun _ => rfl, fun _ => Iff.rfl⟩

theorem tint_id (pic : Pic (Nat × Nat) Bool) : tint id pic = pic := by
  funext p
  rw [tint, Option.map_id]
  rfl

theorem device_draws (t : Target) (device : Device) (C R : Nat) (lamps : device.HasLamps C R) (call : OutputCall)
    (drawable : device.Drawable C R device.monome.rotation call) :
    ∃ frames, device.frames t call = .ok frames ∧ Draws device.panelSize (device.panelLamp C R) frames.flatten
      (seen device.monome.rotation C R (device.draw t C R device.monome.rotation call)) := by
  cases device with
  | mext self => exact (mext_drafts t _ C R lamps.1).draws (.mext self) ⟨self, rfl, lamps.2⟩ call drawable
  | series self => exact (line_drafts t C R .series).draws (.series self) ⟨rfl, lamps⟩ call drawable
  | m40h self => exact (line_drafts t C R .m40h).draws (.m40h self) ⟨rfl, lamps⟩ call drawable

section Shown

variable (t : Target) (start : Device) (C R : Nat) (lamps : Canvas (Nat × Nat) Bool)

def Shows (sent : List (List UInt8)) (pic : Pic (Nat × Nat) Bool) : Prop :=
  display start.panelSize (start.panelLamp C R) sent.flatten ⟨none, lamps⟩ =
    ⟨none, paint (seen start.monome.rotation C R pic) lamps⟩

theorem nothing_shows : Shows start C R lamps [] blank := by
  rw [Shows, seen_blank, paint_blank]
  rfl

theorem call_shows (device : Device) (remains : start.Remains C R device) (call : OutputCall)
    (drawable : start.Drawable C R start.monome.rotation call) (sent : List (List UInt8)) (pic : Pic (Nat × Nat) Bool)
    (shows : Shows start C R lamps sent pic) : ∃ frames, device.frames t call = .ok frames ∧
      Shows start C R lamps (sent ++ frames) (atop (start.draw t C R start.monome.rotation call) pic) := by
  rw [← remains.rotation, ← (remains.draws t).2] at drawable
  obtain ⟨frames, sends, draws⟩ := device_draws t device C R remains.lamps call drawable
  refine ⟨frames, sends, ?_⟩
  rw [remains.panel.1, remains.panel.2, remains.rotation, (remains.draws t).1] at draws
  rw [Shows, display] at shows
  rw [Shows, List.flatten_append, display, Records.feed_append, shows]
  have last := draws_shown start.panelSize (start.panelLamp C R) _ _ draws (paint (seen start.monome.rotation C R pic) lamps)
  rw [display] at last
  rw [last, seen_atop, paint_atop]

end Shown

end Libmonome
