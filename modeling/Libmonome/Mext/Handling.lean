import Libmonome.Mext.Meaning

set_option autoImplicit false

namespace Libmonome

-- Frames whose header no table names have no payload; their handlers find old
-- bytes where the payload would be. What follows holds of every frame.

theorem header_of_nybbles (header addr cmd whole : UInt8) (sum : whole.toNat = 16 * addr.toNat + cmd.toNat)
    (high : header >>> 4 = addr) (low : header &&& 0xF = cmd) : header = whole := by
  have upper := congrArg UInt8.toNat high
  have lower := congrArg UInt8.toNat low
  rw [UInt8.toNat_shiftRight, Nat.shiftRight_eq_div_pow] at upper
  rw [UInt8.toNat_and, show header.toNat &&& (0xF : UInt8).toNat = header.toNat % 16 from
    Nat.and_two_pow_sub_one_eq_mod header.toNat 4] at lower
  apply UInt8.toNat_inj.mp
  have high : header.toNat / 16 = addr.toNat := upper
  omega

-- The headers whose frames carry an event, the unlisted ones of the key
-- subsystem included.
def CarriesEvent (header : UInt8) : Prop :=
  header >>> 4 = ssKeyGrid ∨ header ∈ ([0x50, 0x51, 0x52, 0x81] : List UInt8)

instance : DecidablePred CarriesEvent := fun header =>
  inferInstanceAs (Decidable (header >>> 4 = ssKeyGrid ∨ header ∈ ([0x50, 0x51, 0x52, 0x81] : List UInt8)))

section AnyFrame

variable (self : Mext) (e : MonomeEvent) (old : MextMsg) (frame : Frame)

theorem system_handled_any [t : Target] (system : frame.header >>> 4 = ssSystem) :
    subsystemEventHandlers (frame.over old).addr self (frame.over old) e = .ok ⟨false, frameSelf self frame, e⟩ := by
  by_cases listed : frame.header ∈ ([0x00, 0x01, 0x02, 0x03, 0x04, 0x0F] : List UInt8)
  · exact (system_frame_handled self e old frame listed).1
  · simp only [List.mem_cons, List.not_mem_nil, or_false, not_or] at listed
    have query : ¬ frame.header &&& 0xF = cmdSystemQueryResponse :=
      fun low => listed.1 (header_of_nybbles _ _ _ 0x00 rfl system low)
    have id : ¬ frame.header &&& 0xF = cmdSystemId := fun low => listed.2.1 (header_of_nybbles _ _ _ 0x01 rfl system low)
    have gridsz : ¬ frame.header &&& 0xF = cmdSystemGridsz :=
      fun low => listed.2.2.2.1 (header_of_nybbles _ _ _ 0x03 rfl system low)
    rw [over_addr, system]
    show mextHandlerSystem self (frame.over old) e = _
    rw [mextHandlerSystem, over_cmd, if_neg query, if_neg id, if_neg gridsz, frameSelf, if_neg listed.1,
      if_neg listed.2.1, if_neg listed.2.2.2.1]

theorem other_frame_self (other : frame.header >>> 4 ≠ ssSystem) : frameSelf self frame = self := by
  rw [frameSelf, if_neg (fun is => other (by rw [is]; rfl)), if_neg (fun is => other (by rw [is]; rfl)),
    if_neg (fun is => other (by rw [is]; rfl))]

theorem plain_header (key : frame.header >>> 4 ≠ ssKeyGrid) (others : frame.header ∉ ([0x50, 0x51, 0x52, 0x81] : List UInt8)) :
    ¬ CarriesEvent frame.header := fun carries => carries.elim key others

theorem encoder_handled_any (encoder : frame.header >>> 4 = ssEncoder) (h : Handled)
    (handled : mextHandlerEncoder self (frame.over old) e = .ok h) :
    h.self = self ∧ (h.propagate = true ↔ CarriesEvent frame.header) ∧ (h.propagate = false → h.event = e) := by
  rw [mextHandlerEncoder, over_cmd] at handled
  by_cases delta : frame.header &&& 0xF = cmdEncoderDelta
  · rw [if_pos delta] at handled
    cases handled
    have is := header_of_nybbles _ _ _ 0x50 rfl encoder delta
    exact ⟨rfl, ⟨fun _ => by rw [is]; decide, fun _ => rfl⟩, fun no => by cases no⟩
  · by_cases down : frame.header &&& 0xF = cmdEncoderSwitchDown
    · rw [if_neg delta, if_pos down] at handled
      cases handled
      have is := header_of_nybbles _ _ _ 0x52 rfl encoder down
      exact ⟨rfl, ⟨fun _ => by rw [is]; decide, fun _ => rfl⟩, fun no => by cases no⟩
    · by_cases up : frame.header &&& 0xF = cmdEncoderSwitchUp
      · rw [if_neg delta, if_neg down, if_pos up] at handled
        cases handled
        have is := header_of_nybbles _ _ _ 0x51 rfl encoder up
        exact ⟨rfl, ⟨fun _ => by rw [is]; decide, fun _ => rfl⟩, fun no => by cases no⟩
      · rw [if_neg delta, if_neg down, if_neg up] at handled
        cases handled
        refine ⟨rfl, ⟨fun no => (by cases no), fun carries => absurd carries ?_⟩, fun _ => rfl⟩
        refine plain_header frame (by rw [encoder]; decide) ?_
        simp only [List.mem_cons, List.not_mem_nil, or_false]
        rintro (is | is | is | is)
        · exact delta (by rw [is]; rfl)
        · exact up (by rw [is]; rfl)
        · exact down (by rw [is]; rfl)
        · rw [is] at encoder
          exact absurd encoder (by decide)

theorem tilt_handled_any [t : Target] (tilt : frame.header >>> 4 = ssTilt) (h : Handled)
    (handled : mextHandlerTilt self (frame.over old) e = .ok h) :
    h.self = self ∧ (h.propagate = true ↔ CarriesEvent frame.header) ∧ (h.propagate = false → h.event = e) := by
  rw [mextHandlerTilt, over_cmd] at handled
  by_cases moved : frame.header &&& 0xF = cmdTilt
  · rw [if_pos moved] at handled
    cases handled
    have is := header_of_nybbles _ _ _ 0x81 rfl tilt moved
    exact ⟨rfl, ⟨fun _ => by rw [is]; decide, fun _ => rfl⟩, fun no => by cases no⟩
  · rw [if_neg moved] at handled
    cases handled
    refine ⟨rfl, ⟨fun no => (by cases no), fun carries => absurd carries ?_⟩, fun _ => rfl⟩
    refine plain_header frame (by rw [tilt]; decide) ?_
    simp only [List.mem_cons, List.not_mem_nil, or_false]
    rintro (is | is | is | is)
    · rw [is] at tilt
      exact absurd tilt (by decide)
    · rw [is] at tilt
      exact absurd tilt (by decide)
    · rw [is] at tilt
      exact absurd tilt (by decide)
    · exact moved (by rw [is]; rfl)

theorem frame_handled_any [t : Target] (h : Handled)
    (handled : subsystemEventHandlers (frame.over old).addr self (frame.over old) e = .ok h) :
    h.self = frameSelf self frame ∧ (h.propagate = true ↔ CarriesEvent frame.header) ∧ (h.propagate = false → h.event = e) := by
  by_cases system : frame.header >>> 4 = ssSystem
  · rw [system_handled_any self e old frame system] at handled
    cases handled
    refine ⟨rfl, ⟨fun no => (by cases no), fun carries => absurd carries ?_⟩, fun _ => rfl⟩
    refine plain_header frame (by rw [system]; decide) ?_
    simp only [List.mem_cons, List.not_mem_nil, or_false]
    rintro (is | is | is | is) <;> rw [is] at system <;> exact absurd system (by decide)
  · rw [other_frame_self self frame system]
    rw [over_addr] at handled
    by_cases key : frame.header >>> 4 = ssKeyGrid
    · rw [key] at handled
      have pressed : mextHandlerKeyGrid self (frame.over old) e = .ok h := handled
      rw [mextHandlerKeyGrid] at pressed
      cases back : unrotateCoords self.monome ((frame.over old).byte 0).toUInt32 ((frame.over old).byte 1).toUInt32 with
      | error fault =>
          rw [back] at pressed
          cases pressed
      | ok point =>
          rw [back] at pressed
          cases pressed
          exact ⟨rfl, ⟨fun _ => .inl key, fun _ => rfl⟩, fun no => by cases no⟩
    · by_cases encoder : frame.header >>> 4 = ssEncoder
      · rw [encoder] at handled
        exact encoder_handled_any self e old frame encoder h handled
      · by_cases tilt : frame.header >>> 4 = ssTilt
        · rw [tilt] at handled
          exact tilt_handled_any self e old frame tilt h handled
        · rw [subsystemEventHandlers, if_neg system, if_neg key, if_neg encoder, if_neg tilt] at handled
          cases handled
          refine ⟨rfl, ⟨fun no => (by cases no), fun carries => absurd carries ?_⟩, fun _ => rfl⟩
          refine plain_header frame key ?_
          simp only [List.mem_cons, List.not_mem_nil, or_false]
          rintro (is | is | is | is)
          · exact encoder (by rw [is]; rfl)
          · exact encoder (by rw [is]; rfl)
          · exact encoder (by rw [is]; rfl)
          · exact tilt (by rw [is]; rfl)

theorem frame_handled_defined [t : Target] (divides : frame.header >>> 4 = ssKeyGrid → DividesByNonzero self.monome) :
    ∃ h, subsystemEventHandlers (frame.over old).addr self (frame.over old) e = .ok h := by
  rw [over_addr]
  by_cases system : frame.header >>> 4 = ssSystem
  · exact ⟨_, by rw [← over_addr frame old]; exact system_handled_any self e old frame system⟩
  · by_cases key : frame.header >>> 4 = ssKeyGrid
    · rw [key]
      show ∃ h, mextHandlerKeyGrid self (frame.over old) e = .ok h
      rw [mextHandlerKeyGrid, unrotate_coords_ok _ _ _ (divides key)]
      exact ⟨_, rfl⟩
    · rw [subsystemEventHandlers, if_neg system, if_neg key]
      by_cases encoder : frame.header >>> 4 = ssEncoder
      · rw [if_pos encoder, mextHandlerEncoder]
        split
        · exact ⟨_, rfl⟩
        · split
          · exact ⟨_, rfl⟩
          · split <;> exact ⟨_, rfl⟩
      · by_cases tilt : frame.header >>> 4 = ssTilt
        · rw [if_neg encoder, if_pos tilt, mextHandlerTilt]
          split <;> exact ⟨_, rfl⟩
        · rw [if_neg encoder, if_neg tilt]
          exact ⟨_, rfl⟩

end AnyFrame

end Libmonome
