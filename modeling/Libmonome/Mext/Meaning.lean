import Libmonome.Mext.Frames

set_option autoImplicit false

namespace Libmonome

-- What a listed frame means, said by its header and payload bytes alone.

def signedByte (b : UInt8) : Int := if b.toNat < 128 then b.toNat else b.toNat - 256

def signedPair (lo hi : UInt8) : Int :=
  let n := lo.toNat + 256 * hi.toNat
  if n < 32768 then n else n - 65536

-- A tilt axis as the host reads it.
def hostPair [t : Target] (b0 b1 : UInt8) : Int := if t.bigEndian then signedPair b1 b0 else signedPair b0 b1

-- The event a frame carries, if any. Key coordinates are taken back with the
-- grid and rotation the object has at that moment.
def frameEvent [t : Target] (monome : Monome) (frame : Frame) : Option MonomeEvent :=
  let at_ := fun i => frame.payload.getD i 0
  let key := unrotated monome (at_ 0).toUInt32 (at_ 1).toUInt32
  let number := (at_ 0).toUInt32
  if frame.header = 0x20 then some (keyEvent false key.1 key.2)
  else if frame.header = 0x21 then some (keyEvent true key.1 key.2)
  else if frame.header = 0x50 then some ⟨.encoderDelta, .encoder number (.ofInt (signedByte (at_ 1)))⟩
  else if frame.header = 0x51 then some ⟨.encoderKeyUp, .encoder number 0⟩
  else if frame.header = 0x52 then some ⟨.encoderKeyDown, .encoder number 0⟩
  else if frame.header = 0x81 then
    some ⟨.tilt, .tilt number (.ofInt (hostPair (at_ 1) (at_ 2))) (.ofInt (hostPair (at_ 3) (at_ 4)))
      (.ofInt (hostPair (at_ 5) (at_ 6)))⟩
  else none

-- The characters of an id frame: up to its first NUL, at most 32, then NULs to
-- the end of the array.
def idText (payload : List UInt8) : List UInt8 := (payload.take 32).takeWhile (fun b => b ≠ 0)
def idArray (payload : List UInt8) : List UInt8 := idText payload ++ List.replicate (33 - (idText payload).length) 0

def frameSelf (self : Mext) (frame : Frame) : Mext :=
  if frame.header = 0x00 then { self with needResponses := self.needResponses &&& ~~~mextNeedQuery }
  else if frame.header = 0x01 then
    { self with
      id := idArray frame.payload
      monome := { self.monome with friendly := .selfId }
      needResponses := self.needResponses &&& ~~~mextNeedId }
  else if frame.header = 0x03 then
    { self with
      monome := { self.monome with cols := (frame.payload.getD 0 0).toUInt32.toInt32,
                                   rows := (frame.payload.getD 1 0).toUInt32.toInt32 }
      needResponses := self.needResponses &&& ~~~mextNeedGridSize }
  else self

def KeyFrame (frame : Frame) : Prop := frame.header = 0x20 ∨ frame.header = 0x21

instance : DecidablePred KeyFrame := fun frame => inferInstanceAs (Decidable (frame.header = 0x20 ∨ frame.header = 0x21))

-- A key frame is decoded by a division unless the rotation is 0; the others
-- always come through.
def Decodes (self : Mext) (frame : Frame) : Prop := KeyFrame frame → DividesByNonzero self.monome

instance (self : Mext) : DecidablePred (Decodes self) := fun frame => inferInstanceAs (Decidable (KeyFrame frame → DividesByNonzero self.monome))

theorem strncpy_id (payload : List UInt8) : strncpy 32 payload ++ [0] = idArray payload := by
  have short : (idText payload).length ≤ 32 :=
    le_trans (List.takeWhile_sublist _).length_le (List.length_take_le 32 payload)
  rw [strncpy, idArray, List.append_assoc]
  congr 1
  rw [show 33 - (idText payload).length = 32 - (idText payload).length + 1 by omega, List.replicate_succ']
  rfl

theorem signed_byte (b : UInt8) : b.toInt8.toInt32 = .ofInt (signedByte b) := by
  apply Int32.toInt_inj.mp
  have bound := b.toNat_lt
  rw [Int32.toInt_ofInt_of_le (by rw [signedByte]; split <;> omega) (by rw [signedByte]; split <;> omega),
    Int8.toInt_toInt32]
  show b.toBitVec.toInt = _
  rw [BitVec.toInt_eq_toNat_cond, signedByte]
  show (if 2 * b.toNat < 2 ^ 8 then (b.toNat : Int) else (b.toNat : Int) - (2 ^ 8 : Nat)) = _
  split <;> split <;> omega

theorem signed_pair_held (lo hi : UInt8) : (Int32.ofInt (signedPair lo hi)).toInt = signedPair lo hi := by
  have low := lo.toNat_lt
  have high := hi.toNat_lt
  apply Int32.toInt_ofInt_of_le
  · simp only [signedPair]
    split <;> omega
  · simp only [signedPair]
    split <;> omega

theorem signed_pair (lo hi : UInt8) :
    (lo.toUInt16 ||| hi.toUInt16 <<< 8).toInt16.toInt32 = .ofInt (signedPair lo hi) := by
  apply Int32.toInt_inj.mp
  have low := lo.toNat_lt
  have high := hi.toNat_lt
  have whole : (lo.toUInt16 ||| hi.toUInt16 <<< 8).toNat = lo.toNat + 256 * hi.toNat := by
    have shifted : (hi.toUInt16 <<< 8).toNat = 2 ^ 8 * hi.toNat := by
      rw [UInt16.toNat_shiftLeft]
      simp only [Nat.shiftLeft_eq]
      show hi.toNat * 2 ^ 8 % 2 ^ 16 = _
      omega
    rw [UInt16.toNat_or, shifted, Nat.or_comm]
    show 2 ^ 8 * hi.toNat ||| lo.toNat = _
    rw [← Nat.two_pow_add_eq_or_of_lt (by omega)]
    omega
  rw [signed_pair_held, Int16.toInt_toInt32]
  show (lo.toUInt16 ||| hi.toUInt16 <<< 8).toBitVec.toInt = _
  rw [BitVec.toInt_eq_toNat_cond]
  show (if 2 * (lo.toUInt16 ||| hi.toUInt16 <<< 8).toNat < 2 ^ 16
    then ((lo.toUInt16 ||| hi.toUInt16 <<< 8).toNat : Int)
    else ((lo.toUInt16 ||| hi.toUInt16 <<< 8).toNat : Int) - (2 ^ 16 : Nat)) = _
  rw [whole]
  simp only [signedPair]
  split <;> split <;> omega

theorem host_pair [t : Target] (msg : MextMsg) (offset : Nat) :
    (msg.int16 offset).toInt32 = .ofInt (hostPair (msg.byte offset) (msg.byte (offset + 1))) := by
  rw [MextMsg.int16, hostPair]
  split
  · exact signed_pair _ _
  · exact signed_pair _ _

set_option maxRecDepth 8000 in
theorem listed_table : ∀ n < 256, Listed (UInt8.ofNat n) → UInt8.ofNat n ∈
    ([0x00, 0x01, 0x02, 0x03, 0x04, 0x0F, 0x20, 0x21, 0x50, 0x51, 0x52, 0x80, 0x81] : List UInt8) := by decide +kernel

theorem listed_header (header : UInt8) (listed : Listed header) : header ∈
    ([0x00, 0x01, 0x02, 0x03, 0x04, 0x0F, 0x20, 0x21, 0x50, 0x51, 0x52, 0x80, 0x81] : List UInt8) := by
  have entry := listed_table header.toNat header.toNat_lt
  rw [UInt8.ofNat_toNat] at entry
  exact entry listed

theorem byte_over (frame : Frame) (old : MextMsg) (k : Nat) (inside : k < frame.payload.length) :
    (frame.over old).byte k = frame.payload.getD k 0 := by
  rw [MextMsg.byte, Frame.over, List.getD_append _ _ _ _ inside]

theorem over_addr (frame : Frame) (old : MextMsg) : (frame.over old).addr = frame.header >>> 4 := rfl
theorem over_cmd (frame : Frame) (old : MextMsg) : (frame.over old).cmd = frame.header &&& 0xF := rfl

section Handled

variable (self : Mext) (e : MonomeEvent) (old : MextMsg) (frame : Frame)

theorem system_frame_handled [t : Target] (system : frame.header ∈ ([0x00, 0x01, 0x02, 0x03, 0x04, 0x0F] : List UInt8)) :
    subsystemEventHandlers (frame.over old).addr self (frame.over old) e = .ok ⟨false, frameSelf self frame, e⟩ ∧
      frameEvent self.monome frame = none := by
  have bytes := byte_over frame old
  have size := frame.sized
  simp only [List.mem_cons, List.not_mem_nil, or_false] at system
  have handler : subsystemEventHandlers (frame.over old).addr = mextHandlerSystem := by
    rw [over_addr]
    rcases system with h | h | h | h | h | h <;> rw [h] <;> rfl
  rw [handler]
  rcases system with h | h | h | h | h | h
  · have cmd : (frame.over old).cmd = cmdSystemQueryResponse := by rw [over_cmd, h]; rfl
    simp [mextHandlerSystem, cmd, frameEvent, frameSelf, h]
  · have cmd : (frame.over old).cmd = cmdSystemId := by rw [over_cmd, h]; rfl
    have whole : frame.payload.length = 32 := by rw [size, h]; rfl
    have taken : strncpy 32 (frame.over old).payload = strncpy 32 frame.payload := by
      rw [strncpy, strncpy, Frame.over, List.take_append_of_le_length (by omega)]
    simp [mextHandlerSystem, cmd, cmdSystemId, cmdSystemQueryResponse, frameEvent, frameSelf, h, taken, strncpy_id]
  · have cmd : (frame.over old).cmd = cmdSystemGridOffset := by rw [over_cmd, h]; rfl
    simp [mextHandlerSystem, cmd, cmdSystemGridOffset, cmdSystemQueryResponse, cmdSystemId, cmdSystemGridsz,
      frameEvent, frameSelf, h]
  · have cmd : (frame.over old).cmd = cmdSystemGridsz := by rw [over_cmd, h]; rfl
    have whole : frame.payload.length = 2 := by rw [size, h]; rfl
    simp [mextHandlerSystem, cmd, cmdSystemQueryResponse, cmdSystemId, cmdSystemGridsz, frameEvent, frameSelf, h,
      bytes, whole]
  · have cmd : (frame.over old).cmd = cmdSystemAddr := by rw [over_cmd, h]; rfl
    simp [mextHandlerSystem, cmd, cmdSystemAddr, cmdSystemQueryResponse, cmdSystemId, cmdSystemGridsz, frameEvent,
      frameSelf, h]
  · have cmd : (frame.over old).cmd = cmdSystemVersion := by rw [over_cmd, h]; rfl
    simp [mextHandlerSystem, cmd, cmdSystemVersion, cmdSystemQueryResponse, cmdSystemId, cmdSystemGridsz, frameEvent,
      frameSelf, h]

theorem key_frame_handled [t : Target] (key : KeyFrame frame) :
    subsystemEventHandlers (frame.over old).addr self (frame.over old) e =
      if DividesByNonzero self.monome then
        .ok ⟨(frameEvent self.monome frame).isSome, frameSelf self frame, (frameEvent self.monome frame).getD e⟩
      else .error .divisionByZero := by
  have bytes := byte_over frame old
  have size := frame.sized
  have handler : subsystemEventHandlers (frame.over old).addr = mextHandlerKeyGrid := by
    rw [over_addr]
    rcases key with h | h <;> rw [h] <;> rfl
  have whole : frame.payload.length = 2 := by
    rcases key with h | h <;> rw [size, h] <;> rfl
  rw [handler, mextHandlerKeyGrid, bytes 0 (by omega), bytes 1 (by omega)]
  by_cases nonzero : DividesByNonzero self.monome
  · rw [if_pos nonzero, unrotate_coords_ok _ _ _ nonzero]
    rcases key with h | h
    · have cmd : (frame.over old).cmd = cmdKeyUp := by rw [over_cmd, h]; rfl
      rw [cmd]
      simp only [frameEvent, frameSelf, h]
      rfl
    · have cmd : (frame.over old).cmd = cmdKeyDown := by rw [over_cmd, h]; rfl
      rw [cmd]
      simp only [frameEvent, frameSelf, h]
      rfl
  · rw [if_neg nonzero, unrotate_coords_fault _ _ _ nonzero]
    rfl

theorem encoder_frame_handled [t : Target] (encoder : frame.header ∈ ([0x50, 0x51, 0x52] : List UInt8)) :
    subsystemEventHandlers (frame.over old).addr self (frame.over old) e =
      .ok ⟨(frameEvent self.monome frame).isSome, frameSelf self frame, (frameEvent self.monome frame).getD e⟩ := by
  have bytes := byte_over frame old
  have size := frame.sized
  simp only [List.mem_cons, List.not_mem_nil, or_false] at encoder
  have handler : subsystemEventHandlers (frame.over old).addr = mextHandlerEncoder := by
    rw [over_addr]
    rcases encoder with h | h | h <;> rw [h] <;> rfl
  rw [handler]
  rcases encoder with h | h | h
  · have cmd : (frame.over old).cmd = cmdEncoderDelta := by rw [over_cmd, h]; rfl
    have whole : frame.payload.length = 2 := by rw [size, h]; rfl
    simp [mextHandlerEncoder, cmd, h, frameEvent, frameSelf, bytes, whole, signed_byte]
  · have cmd : (frame.over old).cmd = cmdEncoderSwitchUp := by rw [over_cmd, h]; rfl
    have whole : frame.payload.length = 1 := by rw [size, h]; rfl
    simp [mextHandlerEncoder, cmd, h, frameEvent, frameSelf, cmdEncoderDelta, cmdEncoderSwitchDown, cmdEncoderSwitchUp,
      bytes, whole]
  · have cmd : (frame.over old).cmd = cmdEncoderSwitchDown := by rw [over_cmd, h]; rfl
    have whole : frame.payload.length = 1 := by rw [size, h]; rfl
    simp [mextHandlerEncoder, cmd, h, frameEvent, frameSelf, cmdEncoderDelta, cmdEncoderSwitchDown, bytes, whole]

theorem tilt_frame_handled [t : Target] (tilt : frame.header ∈ ([0x80, 0x81] : List UInt8)) :
    subsystemEventHandlers (frame.over old).addr self (frame.over old) e =
      .ok ⟨(frameEvent self.monome frame).isSome, frameSelf self frame, (frameEvent self.monome frame).getD e⟩ := by
  have bytes := byte_over frame old
  have size := frame.sized
  simp only [List.mem_cons, List.not_mem_nil, or_false] at tilt
  have handler : subsystemEventHandlers (frame.over old).addr = mextHandlerTilt := by
    rw [over_addr]
    rcases tilt with h | h <;> rw [h] <;> rfl
  rw [handler]
  rcases tilt with h | h
  · have cmd : (frame.over old).cmd = cmdTiltStates := by rw [over_cmd, h]; rfl
    simp [mextHandlerTilt, cmd, h, frameEvent, frameSelf, cmdTilt, cmdTiltStates]
  · have cmd : (frame.over old).cmd = cmdTilt := by rw [over_cmd, h]; rfl
    have whole : frame.payload.length = 7 := by rw [size, h]; rfl
    simp [mextHandlerTilt, cmd, h, frameEvent, frameSelf, bytes, whole, host_pair]

theorem frame_handled [t : Target] (listed : Listed frame.header) :
    subsystemEventHandlers (frame.over old).addr self (frame.over old) e =
      if Decodes self frame then
        .ok ⟨(frameEvent self.monome frame).isSome, frameSelf self frame, (frameEvent self.monome frame).getD e⟩
      else .error .divisionByZero := by
  have header := listed_header frame.header listed
  by_cases key : KeyFrame frame
  · rw [key_frame_handled self e old frame key]
    simp only [Decodes, key, true_imp_iff]
  · have decodes : Decodes self frame := fun is => absurd is key
    have others : frame.header ∈ ([0x00, 0x01, 0x02, 0x03, 0x04, 0x0F] : List UInt8) ∨
        frame.header ∈ ([0x50, 0x51, 0x52] : List UInt8) ∨ frame.header ∈ ([0x80, 0x81] : List UInt8) := by
      rw [KeyFrame] at key
      simp only [List.mem_cons, List.not_mem_nil, or_false] at header ⊢
      tauto
    rw [if_pos decodes]
    rcases others with system | encoder | tilt
    · obtain ⟨handled, silent⟩ := system_frame_handled self e old frame system
      rw [handled, silent]
      rfl
    · exact encoder_frame_handled self e old frame encoder
    · exact tilt_frame_handled self e old frame tilt

end Handled

end Libmonome
