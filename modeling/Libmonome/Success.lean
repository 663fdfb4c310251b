import Libmonome.Mext.Issued

set_option autoImplicit false

namespace Libmonome

inductive Operation where
  | none
  | open
  | readSerial
  | readDevicePath
  | readFriendlyName
  | readProtocol
  | readRows
  | readColumns
  | setRotation
  | readRotation
  | ledSet
  | ledAll
  | ledMap
  | ledColumn
  | ledRow
  | ledIntensity
  | ledLevelSet
  | ledLevelAll
  | ledLevelMap
  | ledLevelRow
  | ledLevelColumn
  | ledRingSet
  | ledRingAll
  | ledRingMap
  | ledRingRange
  | ledRingIntensity
  | tiltEnable
  | tiltDisable
  | pollEvent
  | eventLoop
  | configureCallback
deriving DecidableEq, Repr

inductive IoStatus where
  | success
  | deviceError
deriving DecidableEq, Repr

structure IoResult where
  status : IoStatus
  operation : Operation
  nativeStatus : Int32
deriving DecidableEq, Repr

def makeIoResult (operation : Operation) (nativeStatus : Int32) : IoResult :=
  ⟨if nativeStatus < 0 then .deviceError else .success, operation, nativeStatus⟩

def OutputCall.operation : OutputCall → Operation
  | ledSet _ _ _ => .ledSet
  | ledAll _ => .ledAll
  | ledMap _ _ _ => .ledMap
  | ledRow _ _ _ _ => .ledRow
  | ledCol _ _ _ _ => .ledColumn
  | ledIntensity _ => .ledIntensity
  | ledLevelSet _ _ _ => .ledLevelSet
  | ledLevelAll _ => .ledLevelAll
  | ledLevelMap _ _ _ => .ledLevelMap
  | ledLevelRow _ _ _ _ => .ledLevelRow
  | ledLevelCol _ _ _ _ => .ledLevelColumn
  | ledRingSet _ _ _ => .ledRingSet
  | ledRingAll _ _ => .ledRingAll
  | ledRingMap _ _ => .ledRingMap
  | ledRingRange _ _ _ _ => .ledRingRange
  | ledRingIntensity _ => .ledRingIntensity
  | tiltEnable _ => .tiltEnable
  | tiltDisable _ => .tiltDisable

theorem make_io_result_success (operation : Operation) (status : Int32) :
    (makeIoResult operation status).status = .success ↔ 0 ≤ status := by
  rw [makeIoResult]
  by_cases negative : status < 0
  · simp [negative]
  · simp [negative, Int32.not_lt.mp negative]

def answering (script : Nat → Int64) : Platform (List (List UInt8 × Int64)) where
  openDevice _ _ writes := (0, writes)
  close writes := (0, writes)
  write bytes writes := (script writes.length, writes ++ [(bytes, script writes.length)])
  read n writes := (⟨0, [], Nat.zero_le n, Int.le_refl 0⟩, writes)
  waitForInput _ writes := (1, writes)
  monotonicMilliseconds writes := (0, writes)

def Whole (frame : List UInt8) (answer : Int64) : Prop := Int64.ofNat frame.length ≤ answer

theorem answering_writes (script : Nat → Int64) (frames : List (List UInt8)) (writes : List (List UInt8 × Int64)) :
    sendFrames (answering script) frames writes =
      ((List.range' writes.length frames.length).map script,
        writes ++ frames.zip ((List.range' writes.length frames.length).map script)) := by
  induction frames generalizing writes with
  | nil => simp [sendFrames]
  | cons frame rest ih =>
      have later := ih (writes ++ [(frame, script writes.length)])
      rw [List.length_append, List.length_singleton] at later
      simp only [sendFrames]
      have next : (answering script).write frame writes = (script writes.length, writes ++ [(frame, script writes.length)]) := rfl
      rw [next, later]
      simp [List.range'_succ]

theorem checked_status_counts (writes : List (List UInt8 × Int64)) (ret : Int32) (k : Nat) (start : ret.toInt = -k)
    (room : k + writes.length < 2 ^ 31) :
    (writes.foldl (fun ret write => ret + checkedStatus write.1 write.2) ret).toInt =
      -(k + writes.countP fun write => write.2 ≠ Int64.ofNat write.1.length : Nat) := by
  induction writes generalizing ret k with
  | nil => simpa using start
  | cons write rest ih =>
      rw [List.foldl_cons, List.countP_cons]
      rw [List.length_cons] at room
      by_cases whole : write.2 = Int64.ofNat write.1.length
      · rw [checkedStatus, if_pos whole, Int32.add_zero, ih ret k start (by omega)]
        simp [whole]
      · have next : (ret + -1).toInt = -((k + 1 : Nat) : Int) := by
          rw [Int32.toInt_add, start, Int.bmod_eq_of_le] <;> simp <;> omega
        rw [checkedStatus, if_neg whole, ih (ret + -1) (k + 1) next (by omega)]
        simp [whole]
        omega

theorem checked_status_whole (frames : List (List UInt8)) (results : List Int64) (few : frames.length ≤ 8)
    (success : 0 ≤ ResultUse.checked.status frames results) : ∀ write ∈ frames.zip results, Whole write.1 write.2 := by
  have counted := checked_status_counts (frames.zip results) 0 0 rfl (by simp; omega)
  have none : (frames.zip results).countP (fun write => write.2 ≠ Int64.ofNat write.1.length) = 0 := by
    rw [Int32.le_iff_toInt_le] at success
    simp only [ResultUse.status, counted, Int32.toInt_zero] at success
    omega
  intro write member
  have whole := List.countP_eq_zero.mp none write member
  simp only [ne_eq, decide_not, Bool.not_eq_eq_eq_not, Bool.not_true, decide_eq_false_iff_not, not_not] at whole
  rw [Whole, whole]
  exact Int64.le_refl _

-- What the frames of a call need of the answers for its status to tell the
-- truth: nothing where each result is checked; else that the one answer is
-- negative as an int, or that every frame is taken whole.
def AllWhole (script : Nat → Int64) (frames : List (List UInt8)) : Prop :=
  ∀ write ∈ frames.zip ((List.range frames.length).map script), Whole write.1 write.2

def ResultUse.Truthful (use : ResultUse) (script : Nat → Int64) (frames : List (List UInt8)) : Prop :=
  match use with
  | checked => True
  | returned => (script 0).toInt32 < 0 ∨ AllWhole script frames
  | dropped status => status < 0 ∨ AllWhole script frames

theorem truthful_iff (use : ResultUse) (script : Nat → Int64) (frames : List (List UInt8))
    (few : use = .checked → frames.length ≤ 8) :
    (0 ≤ use.status frames ((List.range frames.length).map script) → AllWhole script frames) ↔
      use.Truthful script frames := by
  have either (status : Int32) : (0 ≤ status → AllWhole script frames) ↔ status < 0 ∨ AllWhole script frames := by
    rw [imp_iff_not_or, Int32.not_le]
  cases use with
  | checked => exact iff_of_true (checked_status_whole frames _ (few rfl)) trivial
  | dropped status => exact either status
  | returned =>
      cases frames with
      | nil => simp [ResultUse.Truthful, AllWhole]
      | cons frame rest =>
          have first : ((List.range (frame :: rest).length).map script).headD 0 = script 0 := by
            rw [List.length_cons, List.range_succ_eq_map]
            rfl
          rw [ResultUse.status, first]
          exact either (script 0).toInt32

theorem answered_run (t : Target) (device : Device) (script : Nat → Int64) (call : OutputCall)
    (frames : List (List UInt8)) (issued : device.frames t call = .ok frames) :
    device.output t (answering script) call [] =
      .ok ((device.resultUse call).status frames ((List.range frames.length).map script),
        frames.zip ((List.range frames.length).map script)) := by
  rw [(device_sends t device call).runs, issued, Except.map, answering_writes, List.length_nil, List.nil_append,
    List.range_eq_range']

theorem success_means_sent_iff (t : Target) (device : Device) (script : Nat → Int64) (call : OutputCall) :
    (∀ status writes, device.output t (answering script) call [] = .ok (status, writes) →
      0 ≤ status ∨ (makeIoResult call.operation status).status = .success →
        ∀ write ∈ writes, Whole write.1 write.2) ↔
    ∀ frames, device.frames t call = .ok frames → (device.resultUse call).Truthful script frames := by
  have sends := device_sends t device call
  simp only [make_io_result_success, or_self]
  cases issued : device.frames t call with
  | error fault =>
      have faults : device.output t (answering script) call [] = .error fault := by
        rw [sends.runs, issued]
        rfl
      simp [faults]
  | ok frames =>
      have truthful := truthful_iff (device.resultUse call) script frames fun checked => sends.few checked frames issued
      rw [answered_run t device script call frames issued]
      constructor
      · intro told sent same
        cases same
        exact truthful.mp (told _ _ rfl)
      · intro answers status writes run
        cases run
        exact truthful.mpr (answers frames rfl)

-- A row of one byte whose only write fails outright: the call answers 1, and
-- the wrapper reports success.
theorem failed_row_reports_success : ¬ ∀ status writes,
    (Device.mext ⟨⟨8, 8, .rotate0, none, .unset⟩, 0, []⟩).output ⟨true, false⟩ (answering fun _ => -1)
      (.ledRow 0 0 1 [0xFF]) [] = .ok (status, writes) →
    0 ≤ status ∨ (makeIoResult .ledRow status).status = .success → ∀ write ∈ writes, Whole write.1 write.2 := by
  intro told
  have lost := told 1 [([0x15, 0, 0, 0xFF], -1)] rfl (.inl (by decide)) _ (List.mem_singleton.mpr rfl)
  rw [Whole] at lost
  exact absurd lost (by decide)

end Libmonome
