import Libmonome.Device

set_option autoImplicit false

namespace Libmonome

variable {ω : Type}

inductive OutputCall where
  | ledSet (x y on : UInt32)
  | ledAll (status : UInt32)
  | ledMap (xOff yOff : UInt32) (data : List UInt8)
  | ledRow (xOff y : UInt32) (count : Nat) (data : List UInt8)
  | ledCol (x yOff : UInt32) (count : Nat) (data : List UInt8)
  | ledIntensity (brightness : UInt32)
  | ledLevelSet (x y level : UInt32)
  | ledLevelAll (level : UInt32)
  | ledLevelMap (xOff yOff : UInt32) (data : List UInt8)
  | ledLevelRow (xOff row : UInt32) (count : Nat) (data : List UInt8)
  | ledLevelCol (col yOff : UInt32) (count : Nat) (data : List UInt8)
  | ledRingSet (ring led level : UInt32)
  | ledRingAll (ring level : UInt32)
  | ledRingMap (ring : UInt32) (levels : List UInt8)
  | ledRingRange (ring start stop level : UInt32)
  | ledRingIntensity (brightness : UInt32)
  | tiltEnable (sensor : UInt32)
  | tiltDisable (sensor : UInt32)
deriving DecidableEq, Repr

def mextOutput (t : Target) (P : Platform ω) (monome : Monome) : OutputCall → Io ω Int32
  | .ledSet x y on => mextLedSet P monome x y on
  | .ledAll status => mextLedAll P status
  | .ledMap xOff yOff data => mextLedMap t P monome xOff yOff data
  | .ledRow xOff y count data => mextLedRow P monome xOff y count data
  | .ledCol x yOff count data => mextLedCol P monome x yOff count data
  | .ledIntensity brightness => mextLedIntensity P brightness
  | .ledLevelSet x y level => mextLedLevelSet P monome x y level
  | .ledLevelAll level => mextLedLevelAll P level
  | .ledLevelMap xOff yOff data => mextLedLevelMap P monome xOff yOff data
  | .ledLevelRow xOff row count data => mextLedLevelRow P monome xOff row count data
  | .ledLevelCol col yOff count data => mextLedLevelCol P monome col yOff count data
  | .ledRingSet ring led level => mextLedRingSet P ring led level
  | .ledRingAll ring level => mextLedRingAll P ring level
  | .ledRingMap ring levels => mextLedRingMap P ring levels
  | .ledRingRange ring start stop level => mextLedRingRange P ring start stop level
  | .ledRingIntensity brightness => mextLedRingIntensity P brightness
  | .tiltEnable sensor => mextTiltEnable P sensor
  | .tiltDisable sensor => mextTiltDisable P sensor

-- REQUIRE of libmonome.c: a table that is not there answers -1.
def protoSeriesOutput (t : Target) (P : Platform ω) (monome : Monome) : OutputCall → Io ω Int32
  | .ledSet x y on => protoSeriesLedSet P monome x y on
  | .ledAll status => protoSeriesLedAll P status
  | .ledMap xOff yOff data => protoSeriesLedMap t P monome xOff yOff data
  | .ledRow xOff y count data => protoSeriesLedRow t P monome xOff y count data
  | .ledCol x yOff count data => protoSeriesLedCol t P monome x yOff count data
  | .ledIntensity brightness => protoSeriesLedIntensity P brightness
  | .ledLevelSet x y level => protoSeriesLedLevelSet P monome x y level
  | .ledLevelAll level => protoSeriesLedLevelAll P level
  | .ledLevelMap xOff yOff data => protoSeriesLedLevelMap t P monome xOff yOff data
  | .ledLevelRow xOff row count data => protoSeriesLedLevelRow t P monome xOff row count data
  | .ledLevelCol col yOff count data => protoSeriesLedLevelCol t P monome col yOff count data
  | .ledRingSet _ _ _ | .ledRingAll _ _ | .ledRingMap _ _ | .ledRingRange _ _ _ _ | .ledRingIntensity _ => pure (-1)
  | .tiltEnable sensor => protoSeriesTiltEnable P sensor
  | .tiltDisable sensor => protoSeriesTiltDisable P sensor

def proto40hOutput (t : Target) (P : Platform ω) (monome : Monome) : OutputCall → Io ω Int32
  | .ledSet x y on => proto40hLedSet P monome x y on
  | .ledAll status => proto40hLedAll P status
  | .ledMap xOff yOff data => proto40hLedMap t P monome xOff yOff data
  | .ledRow xOff y count data => proto40hLedRow P monome xOff y count data
  | .ledCol x yOff count data => proto40hLedCol P monome x yOff count data
  | .ledIntensity brightness => proto40hIntensity P brightness
  | .ledLevelSet x y level => proto40hLedLevelSet P monome x y level
  | .ledLevelAll level => proto40hLedLevelAll P level
  | .ledLevelMap xOff yOff data => proto40hLedLevelMap t P monome xOff yOff data
  | .ledLevelRow xOff row count data => proto40hLedLevelRow P monome xOff row count data
  | .ledLevelCol col yOff count data => proto40hLedLevelCol P monome col yOff count data
  | .ledRingSet _ _ _ | .ledRingAll _ _ | .ledRingMap _ _ | .ledRingRange _ _ _ _ | .ledRingIntensity _ => pure (-1)
  | .tiltEnable sensor => proto40hTiltEnable P sensor
  | .tiltDisable sensor => proto40hTiltDisable P sensor

def Device.output (t : Target) (P : Platform ω) (device : Device) (call : OutputCall) : Io ω Int32 :=
  match device with
  | .mext self => mextOutput t P self.monome call
  | .series self => protoSeriesOutput t P self.monome call
  | .m40h self => proto40hOutput t P self.parent call

def sendFrames (P : Platform ω) : List (List UInt8) → ω → List Int64 × ω
  | [], w => ([], w)
  | frame :: rest, w =>
      let write := P.write frame w
      let later := sendFrames P rest write.2
      (write.1 :: later.1, later.2)

-- What the backends make of the results: 0 or -1 for each, added up; the one
-- result itself, as an int; or a fixed status with the results dropped.
inductive ResultUse where
  | checked
  | returned
  | dropped (status : Int32)
deriving DecidableEq, Repr

def checkedStatus (frame : List UInt8) (status : Int64) : Int32 := if status = Int64.ofNat frame.length then 0 else -1

def ResultUse.status (use : ResultUse) (frames : List (List UInt8)) (results : List Int64) : Int32 :=
  match use with
  | checked => (frames.zip results).foldl (fun ret write => ret + checkedStatus write.1 write.2) 0
  | returned => (results.headD 0).toInt32
  | dropped status => status

def mextResultUse : OutputCall → ResultUse
  | .ledRow _ _ _ _ | .ledCol _ _ _ _ | .ledLevelRow _ _ _ _ | .ledLevelCol _ _ _ _ => .dropped 1
  | _ => .returned

def protoSeriesResultUse : OutputCall → ResultUse
  | .ledRingSet _ _ _ | .ledRingAll _ _ | .ledRingMap _ _ | .ledRingRange _ _ _ _ | .ledRingIntensity _ => .dropped (-1)
  | _ => .checked

def proto40hResultUse : OutputCall → ResultUse
  | .ledRingSet _ _ _ | .ledRingAll _ _ | .ledRingMap _ _ | .ledRingRange _ _ _ _ | .ledRingIntensity _ => .dropped (-1)
  | .ledAll _ | .ledLevelAll _ => .dropped 16
  | _ => .checked

def Device.resultUse : Device → OutputCall → ResultUse
  | mext _ => mextResultUse
  | series _ => protoSeriesResultUse
  | m40h _ => proto40hResultUse

-- The frames a call issues, read off a line that takes all it is given.
def Device.frames (t : Target) (device : Device) (call : OutputCall) : Except Fault (List (List UInt8)) :=
  (device.output t link call ⟨[], []⟩).map fun run => run.2.sent

-- A call whose frames do not depend on what the platform answers: it faults,
-- or sends them all and then answers. One that adds its results up sends few
-- enough for the sum not to wrap.
structure Sends (x : (ω : Type) → Platform ω → Io ω Int32) (frames : Except Fault (List (List UInt8)))
    (use : ResultUse) : Prop where
  runs : ∀ (ω : Type) (P : Platform ω) (w : ω), x ω P w = frames.map fun frames =>
    (use.status frames (sendFrames P frames w).1, (sendFrames P frames w).2)
  few : use = .checked → ∀ sent, frames = .ok sent → sent.length ≤ 8

section Sending

variable (x : (ω : Type) → Platform ω → Io ω Int32) (use : ResultUse)

theorem sends_written (frame : List UInt8) : Sends (fun _ P => monomeWrite P frame) (.ok [frame]) .checked where
  runs _ P w := by
    have one (status : Int64) : ResultUse.checked.status [frame] [status] = checkedStatus frame status :=
      Int32.zero_add _
    exact congrArg (fun status => Except.ok (status, (P.write frame w).2)) (one _).symm
  few _ sent same := by
    cases same
    simp

theorem sends_returned (msg : MextMsg) :
    Sends (fun _ P => do let status ← mextWriteMsg P msg; return status.toInt32) (.ok [msg.wire]) .returned where
  runs _ _ _ := rfl
  few checked := by cases checked

theorem sends_nothing (status : Int32) : Sends (fun _ _ => pure status) (.ok []) (.dropped status) where
  runs _ _ _ := rfl
  few checked := by cases checked

theorem sends_checked {α : Type} (value : Except Fault α) (f : α → (ω : Type) → Platform ω → Io ω Int32)
    (frames : α → Except Fault (List (List UInt8))) (rest : ∀ a, value = .ok a → Sends (f a) (frames a) use) :
    Sends (fun ω P => do let a ← Io.check value; f a ω P) (value.bind frames) use where
  runs ω P w := by
    cases value with
    | error fault => rfl
    | ok a => exact (rest a rfl).runs ω P w
  few checked sent same := by
    cases value with
    | error fault => cases same
    | ok a => exact (rest a rfl).few checked sent same

theorem send_frames_link (frames : List (List UInt8)) (l : Link) :
    (sendFrames link frames l).2 = { l with sent := l.sent ++ frames } := by
  induction frames generalizing l with
  | nil => simp [sendFrames]
  | cons frame rest ih =>
      rw [sendFrames]
      exact (ih _).trans (by simp [link])

theorem sends_shown (frames : Except Fault (List (List UInt8))) (sends : Sends x frames use) :
    (x Link link ⟨[], []⟩).map (fun run => run.2.sent) = frames := by
  rw [sends.runs]
  cases frames with
  | error fault => rfl
  | ok frames => simp [Except.map, send_frames_link]

end Sending

section Series

variable (t : Target) (monome : Monome)

theorem series_led_row_sends (xOff y : UInt32) (count : Nat) (data : List UInt8) :
    ∃ frames, Sends (fun _ P => protoSeriesLedRow t P monome xOff y count data) frames .checked := by
  simp only [protoSeriesLedRow, protoSeriesLedColRow16, protoSeriesLedColRow8, if_true]
  by_cases wide : monomeGetCols monome > 8
  · simp only [if_pos wide]
    by_cases more : count > 1
    · simp only [if_pos more]
      exact ⟨_, sends_checked _ _ _ _ fun pair _ => sends_written _⟩
    · simp only [if_neg more]
      exact ⟨_, sends_checked _ _ _ _ fun b _ => sends_checked _ _ _ _ fun pair _ => sends_written _⟩
  · simp only [if_neg wide]
    exact ⟨_, sends_checked _ _ _ _ fun b _ => sends_written _⟩

theorem series_led_col_sends (x yOff : UInt32) (count : Nat) (data : List UInt8) :
    ∃ frames, Sends (fun _ P => protoSeriesLedCol t P monome x yOff count data) frames .checked := by
  have other : seriesLedCol16 ≠ seriesLedRow16 ∧ seriesLedCol8 ≠ seriesLedRow8 := by decide
  simp only [protoSeriesLedCol, protoSeriesLedColRow16, protoSeriesLedColRow8, if_neg other.1, if_neg other.2, if_true]
  by_cases wide : monomeGetRows monome > 8
  · simp only [if_pos wide]
    by_cases more : count > 1
    · simp only [if_pos more]
      exact ⟨_, sends_checked _ _ _ _ fun pair _ => sends_written _⟩
    · simp only [if_neg more]
      exact ⟨_, sends_checked _ _ _ _ fun b _ => sends_checked _ _ _ _ fun pair _ => sends_written _⟩
  · simp only [if_neg wide]
    exact ⟨_, sends_checked _ _ _ _ fun b _ => sends_written _⟩

theorem series_sends (call : OutputCall) :
    ∃ frames, Sends (fun _ P => protoSeriesOutput t P monome call) frames (protoSeriesResultUse call) := by
  cases call with
  | ledSet | ledAll | ledIntensity | ledLevelSet | ledLevelAll | tiltEnable | tiltDisable =>
      exact ⟨_, sends_written _⟩
  | ledMap xOff yOff data => exact ⟨_, sends_checked _ _ _ _ fun data _ => sends_written _⟩
  | ledRow xOff y count data => exact series_led_row_sends t monome xOff y count data
  | ledCol x yOff count data => exact series_led_col_sends t monome x yOff count data
  | ledLevelMap xOff yOff data =>
      exact ⟨_, sends_checked _ _ _ _ fun data _ => sends_checked _ _ _ _ fun data _ => sends_written _⟩
  | ledLevelRow xOff row count data =>
      exact ⟨_, sends_checked _ _ _ _ fun masks _ =>
        (series_led_row_sends t monome xOff row (levelChunks count) masks).choose_spec⟩
  | ledLevelCol col yOff count data =>
      exact ⟨_, sends_checked _ _ _ _ fun masks _ =>
        (series_led_col_sends t monome col yOff (levelChunks count) masks).choose_spec⟩
  | ledRingSet | ledRingAll | ledRingMap | ledRingRange | ledRingIntensity =>
      exact ⟨_, sends_nothing _⟩

end Series

section M40h

variable (t : Target) (monome : Monome)

theorem m40h_led_col_row_sends (mode : UInt8) (listed : mode = m40hLedRow ∨ mode = m40hLedCol) (address : UInt32)
    (data : List UInt8) : ∃ frames, Sends (fun _ P => proto40hLedColRow P monome mode address data) frames .checked := by
  simp only [proto40hLedColRow]
  by_cases row : mode = m40hLedRow
  · simp only [if_pos row]
    exact ⟨_, sends_checked _ _ _ _ fun b _ => sends_written _⟩
  · simp only [if_neg row, if_pos (listed.resolve_left row)]
    exact ⟨_, sends_checked _ _ _ _ fun b _ => sends_written _⟩

theorem m40h_led_all_loop_sends {ω : Type} (P : Platform ω) (value : UInt8) (rows : List Nat) (w : ω) :
    proto40hLedAllLoop P value rows w =
      .ok ((), (sendFrames P (rows.map fun i => [m40hLedRow ||| (UInt8.ofNat i &&& 0xF), value]) w).2) := by
  induction rows generalizing w with
  | nil => rfl
  | cons i rest ih => exact ih _

theorem m40h_led_all_sends (status : UInt32) :
    ∃ frames, Sends (fun _ P => proto40hLedAll P status) frames (.dropped 16) :=
  ⟨.ok _, fun _ P w => io_bind_ok _ _ _ _ _ (m40h_led_all_loop_sends P _ _ w), fun checked => by cases checked⟩

def m40hMapFrame (buf : List UInt8) (i : Nat) : List UInt8 :=
  let point := rotateCoords monome (UInt32.ofNat i) (UInt32.ofNat i)
  let b := buf.getD i 0
  [m40hModeByte monome m40hLedRow point.1, if hasFlag monome rowRevbits then reverseByte b else b]

theorem deref_drop (buf : List UInt8) (i : Nat) (inside : i < buf.length) : deref (buf.drop i) = .ok (buf.getD i 0) := by
  rw [List.drop_eq_getElem_cons inside, deref, List.getD_eq_getElem buf 0 inside]

theorem m40h_led_map_loop_sends {ω : Type} (P : Platform ω) (buf : List UInt8) (rows : List Nat)
    (inside : ∀ i ∈ rows, i < buf.length) (ret : Int32) (w : ω) :
    proto40hLedMapLoop P monome buf rows ret w =
      .ok (((rows.map (m40hMapFrame monome buf)).zip (sendFrames P (rows.map (m40hMapFrame monome buf)) w).1).foldl
        (fun ret write => ret + checkedStatus write.1 write.2) ret,
        (sendFrames P (rows.map (m40hMapFrame monome buf)) w).2) := by
  induction rows generalizing ret w with
  | nil => rfl
  | cons i rest ih =>
      have row : proto40hLedColRow P monome m40hLedRow (UInt32.ofNat i) (buf.drop i) =
          monomeWrite P (m40hMapFrame monome buf i) := by
        rw [proto40hLedColRow, deref_drop buf i (inside i (by simp))]
        rfl
      rw [proto40hLedMapLoop, row]
      exact ih (fun j member => inside j (by simp [member])) _ _

theorem copied_out (n : Nat) (data copied : List UInt8) (copy : copyOut n data = .ok copied) : copied.length = n := by
  rw [copyOut] at copy
  split at copy
  · cases copy
    rw [List.length_take]
    omega
  · cases copy

theorem m40h_led_map_sends (xOff yOff : UInt32) (data : List UInt8) :
    ∃ frames, Sends (fun _ P => proto40hLedMap t P monome xOff yOff data) frames .checked := by
  refine ⟨_, sends_checked .checked (copyOut 8 data)
    (fun data _ P => proto40hLedMapLoop P monome ((rotspec monome.rotation).mapCb t data) (List.range 8) 0)
    (fun data => .ok ((List.range 8).map (m40hMapFrame monome ((rotspec monome.rotation).mapCb t data)))) ?_⟩
  intro copied copy
  have turned := map_cb_length t copied (copied_out 8 data copied copy) monome.rotation
  constructor
  · intro ω P w
    exact m40h_led_map_loop_sends monome P _ _ (fun i member => by rw [turned]; exact List.mem_range.mp member) 0 w
  · intro _ sent same
    cases same
    simp

theorem m40h_sends (call : OutputCall) :
    ∃ frames, Sends (fun _ P => proto40hOutput t P monome call) frames (proto40hResultUse call) := by
  have row := m40h_led_col_row_sends monome m40hLedRow (.inl rfl)
  have col := m40h_led_col_row_sends monome m40hLedCol (.inr rfl)
  cases call with
  | ledSet | ledIntensity | ledLevelSet | tiltEnable | tiltDisable => exact ⟨_, sends_written _⟩
  | ledAll status => exact m40h_led_all_sends status
  | ledLevelAll level => exact m40h_led_all_sends (reduceLevelToBit level)
  | ledMap xOff yOff data => exact m40h_led_map_sends t monome xOff yOff data
  | ledRow xOff y count data => exact row y data
  | ledCol x yOff count data => exact col x data
  | ledLevelMap xOff yOff data =>
      exact ⟨_, sends_checked _ _ _ _ fun data _ => (m40h_led_map_sends t monome xOff yOff _).choose_spec⟩
  | ledLevelRow xOff y count data => exact ⟨_, sends_checked _ _ _ _ fun masks _ => (row y masks).choose_spec⟩
  | ledLevelCol x yOff count data => exact ⟨_, sends_checked _ _ _ _ fun masks _ => (col x masks).choose_spec⟩
  | ledRingSet | ledRingAll | ledRingMap | ledRingRange | ledRingIntensity => exact ⟨_, sends_nothing _⟩

end M40h

end Libmonome
