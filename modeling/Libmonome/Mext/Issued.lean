import Libmonome.Output

set_option autoImplicit false

namespace Libmonome

def chunkMessages {β : Type} (message : UInt32 → List UInt8 → Except Fault β) (width : Nat) :
    Nat → UInt32 → List UInt8 → Except Fault (List β)
  | 0, _, _ => .ok []
  | count + 1, off, data => do
      let msg ← message off data
      let rest ← chunkMessages message width count (off + 8) (data.drop width)
      return msg :: rest

section Messages

variable (t : Target) (monome : Monome)

def mextLedRowMessage (y xOff : UInt32) (data : List UInt8) : Except Fault MextMsg := do
  let b ← deref data
  return mextLedRowColMsg monome cmdLedRow xOff y (if hasFlag monome rowRevbits then reverseByte b else b)

def mextLedColMessage (x yOff : UInt32) (data : List UInt8) : Except Fault MextMsg := do
  let b ← deref data
  return mextLedRowColMsg monome cmdLedColumn x yOff (if hasFlag monome colRevbits then reverseByte b else b)

def mextLedLevelRowMessage (row xOff : UInt32) (data : List UInt8) : Except Fault MextMsg := do
  let levels ← copyOut 8 data
  return mextLedLevelRowColMsg monome cmdLedLevelRow (hasFlag monome rowRevbits) xOff row levels

def mextLedLevelColMessage (col yOff : UInt32) (data : List UInt8) : Except Fault MextMsg := do
  let levels ← copyOut 8 data
  return mextLedLevelRowColMsg monome cmdLedLevelColumn (hasFlag monome colRevbits) col yOff levels

def mextMessages : OutputCall → Except Fault (List MextMsg)
  | .ledSet x y on =>
      let point := rotateCoords monome x y
      .ok [(MextMsg.fresh ssLedGrid (if on ≠ 0 then cmdLedOn else cmdLedOff)).put 0 [point.1.toUInt8, point.2.toUInt8]]
  | .ledAll status => .ok [.fresh ssLedGrid (if status ≠ 0 then cmdLedAllOn else cmdLedAllOff)]
  | .ledMap xOff yOff data => do return [mextLedMapMsg t monome xOff yOff (← copyOut 8 data)]
  | .ledRow xOff y count data => chunkMessages (mextLedRowMessage monome y) 1 count xOff data
  | .ledCol x yOff count data => chunkMessages (mextLedColMessage monome x) 1 count yOff data
  | .ledIntensity brightness => .ok [(MextMsg.fresh ssLedGrid cmdLedIntensity).put 0 [(brightness &&& 0xF).toUInt8]]
  | .ledLevelSet x y level =>
      let point := rotateCoords monome x y
      .ok [((MextMsg.fresh ssLedGrid cmdLedLevelSet).put 2 [level.toUInt8]).put 0 [point.1.toUInt8, point.2.toUInt8]]
  | .ledLevelAll level => .ok [(MextMsg.fresh ssLedGrid cmdLedLevelAll).put 0 [level.toUInt8]]
  | .ledLevelMap xOff yOff data => do return [mextLedLevelMapMsg monome xOff yOff (← copyOut 64 data)]
  | .ledLevelRow xOff row count data => chunkMessages (mextLedLevelRowMessage monome row) 8 (count >>> 3) xOff data
  | .ledLevelCol col yOff count data => chunkMessages (mextLedLevelColMessage monome col) 8 (count >>> 3) yOff data
  | .ledRingSet ring led level =>
      .ok [(MextMsg.fresh ssLedRing cmdLedRingSet).put 0 [ring.toUInt8, led.toUInt8, level.toUInt8]]
  | .ledRingAll ring level => .ok [(MextMsg.fresh ssLedRing cmdLedRingAll).put 0 [ring.toUInt8, level.toUInt8]]
  | .ledRingMap ring levels => do
      let levels ← copyOut 64 levels
      return [(((MextMsg.fresh ssLedRing cmdLedRingMap).put 0 [ring.toUInt8]).put 1 levels).edit 1 (packNybbles 32)]
  | .ledRingRange ring start stop level =>
      .ok [(MextMsg.fresh ssLedRing cmdLedRingRange).put 0
        [ring.toUInt8, start.toUInt8, stop.toUInt8, level.toUInt8]]
  | .ledRingIntensity brightness =>
      .ok [(MextMsg.fresh ssLedRing cmdLedRingIntensity).put 0 [(brightness &&& 0xF).toUInt8]]
  | .tiltEnable sensor => .ok [(MextMsg.fresh ssTilt cmdTiltEnable).put 0 [sensor.toUInt8]]
  | .tiltDisable sensor => .ok [(MextMsg.fresh ssTilt cmdTiltDisable).put 0 [sensor.toUInt8]]

end Messages

theorem chunk_loop_sends {ω : Type} (P : Platform ω) (message : UInt32 → List UInt8 → Except Fault MextMsg) (width : Nat)
    (loop : Nat → UInt32 → List UInt8 → Io ω Unit) (stop : ∀ off data w, loop 0 off data w = .ok ((), w))
    (turn : ∀ n off data w, loop (n + 1) off data w = (do
      let msg ← Io.check (message off data)
      let _ ← mextWriteMsg P msg
      loop n (off + 8) (data.drop width) : Io ω Unit) w)
    (n : Nat) (off : UInt32) (data : List UInt8) (w : ω) :
    loop n off data w = (chunkMessages message width n off data).map fun msgs =>
      ((), (sendFrames P (msgs.map MextMsg.wire) w).2) := by
  induction n generalizing off data w with
  | zero => exact stop off data w
  | succ n ih =>
      rw [turn, chunkMessages]
      cases message off data with
      | error fault => rfl
      | ok msg =>
          refine (ih _ _ _).trans ?_
          cases chunkMessages message width n (off + 8) (data.drop width) with
          | error fault => rfl
          | ok rest => rfl

section Mext

variable (t : Target) (monome : Monome)

theorem mext_loop_sends (loop : (ω : Type) → Platform ω → Nat → UInt32 → List UInt8 → Io ω Unit)
    (message : UInt32 → List UInt8 → Except Fault MextMsg) (width n : Nat) (off : UInt32) (data : List UInt8)
    (stop : ∀ ω P off data w, loop ω P 0 off data w = .ok ((), w))
    (turn : ∀ ω P n off data w, loop ω P (n + 1) off data w = (do
      let msg ← Io.check (message off data)
      let _ ← mextWriteMsg P msg
      loop ω P n (off + 8) (data.drop width) : Io ω Unit) w) :
    Sends (fun ω P => do loop ω P n off data; return 1)
      ((chunkMessages message width n off data).map (List.map MextMsg.wire)) (.dropped 1) where
  runs ω P w := by
    rw [io_bind, chunk_loop_sends P message width (loop ω P) (stop ω P) (turn ω P)]
    cases chunkMessages message width n off data <;> rfl
  few checked := by cases checked

theorem mext_copy_sends (n : Nat) (data : List UInt8) (message : List UInt8 → MextMsg) :
    Sends (fun _ P => do
      let data ← Io.check (copyOut n data)
      let status ← mextWriteMsg P (message data)
      return status.toInt32)
      ((do return [message (← copyOut n data)] : Except Fault (List MextMsg)).map (List.map MextMsg.wire)) .returned := by
  have frames : (do return [message (← copyOut n data)] : Except Fault (List MextMsg)).map (List.map MextMsg.wire) =
      (copyOut n data).bind fun data => .ok [(message data).wire] := by
    cases copyOut n data <;> rfl
  rw [frames]
  exact sends_checked _ _ _ _ fun data _ => sends_returned (message data)

theorem mext_sends (call : OutputCall) : Sends (fun _ P => mextOutput t P monome call)
    ((mextMessages t monome call).map (List.map MextMsg.wire)) (mextResultUse call) := by
  cases call with
  | ledSet | ledAll | ledIntensity | ledLevelSet | ledLevelAll | ledRingSet | ledRingAll | ledRingRange
  | ledRingIntensity | tiltEnable | tiltDisable => exact sends_returned _
  | ledMap xOff yOff data => exact mext_copy_sends 8 data (mextLedMapMsg t monome xOff yOff)
  | ledLevelMap xOff yOff data => exact mext_copy_sends 64 data (mextLedLevelMapMsg monome xOff yOff)
  | ledRingMap ring levels => exact mext_copy_sends 64 levels _
  | ledRow xOff y count data =>
      refine mext_loop_sends (fun ω P => mextLedRowLoop P monome (hasFlag monome rowRevbits) y) _ 1 count xOff data
        (fun _ _ _ _ _ => rfl) fun _ _ _ _ data _ => ?_
      rw [mextLedRowLoop, mextLedRowMessage]
      cases deref data <;> rfl
  | ledCol x yOff count data =>
      refine mext_loop_sends (fun ω P => mextLedColLoop P monome (hasFlag monome colRevbits) x) _ 1 count yOff data
        (fun _ _ _ _ _ => rfl) fun _ _ _ _ data _ => ?_
      rw [mextLedColLoop, mextLedColMessage]
      cases deref data <;> rfl
  | ledLevelRow xOff row count data =>
      refine mext_loop_sends (fun ω P => mextLedLevelRowLoop P monome (hasFlag monome rowRevbits) row) _ 8 (count >>> 3)
        xOff data (fun _ _ _ _ _ => rfl) fun _ _ _ _ data _ => ?_
      rw [mextLedLevelRowLoop, mextLedLevelRowCol, mextLedLevelRowMessage]
      cases copyOut 8 data <;> rfl
  | ledLevelCol col yOff count data =>
      refine mext_loop_sends (fun ω P => mextLedLevelColLoop P monome (hasFlag monome colRevbits) col) _ 8 (count >>> 3)
        yOff data (fun _ _ _ _ _ => rfl) fun _ _ _ _ data _ => ?_
      rw [mextLedLevelColLoop, mextLedLevelRowCol, mextLedLevelColMessage]
      cases copyOut 8 data <;> rfl

theorem mext_frames (self : Mext) (call : OutputCall) :
    (Device.mext self).frames t call = (mextMessages t self.monome call).map (List.map MextMsg.wire) :=
  sends_shown _ _ _ (mext_sends t self.monome call)

end Mext

theorem device_sends (t : Target) (device : Device) (call : OutputCall) :
    Sends (fun _ P => device.output t P call) (device.frames t call) (device.resultUse call) := by
  cases device with
  | mext self =>
      rw [mext_frames]
      exact mext_sends t self.monome call
  | series self =>
      obtain ⟨frames, sends⟩ := series_sends t self.monome call
      have shown : (Device.series self).frames t call = frames := sends_shown _ _ frames sends
      rw [shown]
      exact sends
  | m40h self =>
      obtain ⟨frames, sends⟩ := m40h_sends t self.parent call
      have shown : (Device.m40h self).frames t call = frames := sends_shown _ _ frames sends
      rw [shown]
      exact sends

end Libmonome
