import Libmonome.Attempts

set_option autoImplicit false

namespace Libmonome

variable {ω : Type}

namespace Device

def attempts : Device → List PlatformCall → List Attempt
  | mext _ => mextAttempts
  | _ => pairAttempts

def afterAll (device : Device) (messages : List Message) : Device := messages.foldl after device

end Device

def Positive (status : Option Int32) : Prop := ∃ s, status = some s ∧ 0 < s
def Negative (status : Option Int32) : Prop := ∃ s, status = some s ∧ s < 0

instance : DecidablePred Positive
  | none => isFalse (by rintro ⟨s, is, _⟩; cases is)
  | some s => decidable_of_iff (0 < s) ⟨fun above => ⟨s, rfl, above⟩, by rintro ⟨_, is, above⟩; cases is; exact above⟩

structure ReportsReads [t : Target] (device : Device) (e : MonomeEvent) (attempts : List Attempt)
    (next : NextEvent Device) : Prop where
  reported : Positive next.status → ∃ earlier first message, attempts = earlier ++ [⟨first, some message⟩] ∧
    (device.afterAll (earlier.filterMap Attempt.message)).event message = some next.event
  failed : (∃ attempt ∈ attempts, attempt.first < 0) → Negative next.status ∧ next.event = e
  short : (∃ attempt ∈ attempts, attempt.message = none) → ¬ Positive next.status

-- The read outcomes each backend classifies rightly: mext narrows a header
-- read's status to int, the others test for a short read without a sign.
def ReadsFit : Device → List Attempt → Prop
  | .mext _, attempts => ∀ attempt ∈ attempts, attempt.first < 0 → attempt.first.toInt32 < 0
  | _, attempts => ∀ attempt ∈ attempts, attempt.first = 0 ∨ attempt.first = 2

section Mext

variable (msg : MextMsg) (self : Mext) (e : MonomeEvent) (attempts : List Attempt) (next : NextEvent Mext)

def Tabled (device : Device) (attempts : List Attempt) : Prop :=
  ∀ attempt ∈ attempts, ∀ message, attempt.message = some message → device.Speaks message

theorem tabled_head (first : Int64) (frame : Frame) (rest : List Attempt)
    (tabled : Tabled (.mext self) (⟨first, some (.frame frame)⟩ :: rest)) : Listed frame.header :=
  tabled _ List.mem_cons_self (.frame frame) rfl

theorem tabled_tail (other : Mext) (attempt : Attempt) (rest : List Attempt)
    (tabled : Tabled (.mext self) (attempt :: rest)) : Tabled (.mext other) rest := by
  intro later member message whole
  have spoken := tabled later (List.mem_cons_of_mem _ member) message whole
  cases message with
  | frame frame => exact spoken
  | pair b0 b1 => exact spoken

theorem handled_means [t : Target] (frame : Frame) (listed : Listed frame.header) (h : Handled)
    (handled : subsystemEventHandlers (frame.over msg).addr self (frame.over msg) e = .ok h) :
    h = ⟨(frameEvent self.monome frame).isSome, frameSelf self frame, (frameEvent self.monome frame).getD e⟩ := by
  rw [frame_handled self e msg frame listed] at handled
  by_cases decodes : Decodes self frame
  · rw [if_pos decodes] at handled
    exact (Except.ok.inj handled).symm
  · rw [if_neg decodes] at handled
    cases handled

theorem narrowed_zero (status : Int64) (ended : status ≤ 0) (nonneg : ¬ status < 0) : status = 0 := by
  rw [Int64.le_iff_toInt_le, Int64.toInt_zero] at ended
  rw [Int64.lt_iff_toInt_lt, Int64.toInt_zero] at nonneg
  apply Int64.toInt_inj.mp
  rw [Int64.toInt_zero]
  omega

theorem call_run_broken [t : Target] (run : CallRun msg self e attempts next) (tabled : Tabled (.mext self) attempts) :
    ∀ attempt ∈ attempts, attempt.first < 0 ∨ attempt.message = none →
      next.event = e ∧ next.status = some (if attempt.first ≤ 0 then attempt.first.toInt32 else -1) := by
  induction run with
  | cut => exact fun _ member => absurd member List.not_mem_nil
  | ended msg self e first status ended same short =>
      intro attempt member _
      rw [List.mem_singleton.mp member]
      refine ⟨rfl, ?_⟩
      by_cases nonpos : first ≤ 0
      · rw [if_pos nonpos, same nonpos]
      · rw [if_neg nonpos, short nonpos]
        rfl
  | reported msg self e first frame h came handled event =>
      intro attempt member broken
      rw [List.mem_singleton.mp member] at broken
      exact broken.elim (fun negative => absurd (Int64.le_of_lt negative) came) (fun none => absurd none (by simp))
  | passed msg self e first frame h rest next came handled silent on ih =>
      intro attempt member broken
      rcases List.mem_cons.mp member with head | tail
      · rw [head] at broken
        exact broken.elim (fun negative => absurd (Int64.le_of_lt negative) came) (fun none => absurd none (by simp))
      · have means := handled_means msg self e frame (tabled_head self first frame rest tabled) h handled
        have kept : h.event = e := by
          rw [means] at silent ⊢
          cases event : frameEvent self.monome frame with
          | none => rfl
          | some reported => simp [event] at silent
        have later := ih (tabled_tail self h.self _ rest tabled) attempt tail broken
        rw [kept] at later
        exact later

theorem call_run_reported [t : Target] (run : CallRun msg self e attempts next) (tabled : Tabled (.mext self) attempts)
    (fit : ReadsFit (.mext self) attempts) (positive : Positive next.status) :
    ∃ earlier first message, attempts = earlier ++ [⟨first, some message⟩] ∧
      ((Device.mext self).afterAll (earlier.filterMap Attempt.message)).event message = some next.event := by
  induction run with
  | cut =>
      obtain ⟨s, status, _⟩ := positive
      cases status
  | ended msg self e first status ended same short =>
      obtain ⟨s, is, above⟩ := positive
      cases is
      by_cases nonpos : first ≤ 0
      · rw [same nonpos] at above
        by_cases negative : first < 0
        · exact absurd (fit _ (List.mem_singleton_self _) negative) (Int32.lt_asymm above)
        · rw [narrowed_zero first nonpos negative] at above
          exact absurd above (by decide)
      · rw [short nonpos] at above
        exact absurd above (by decide)
  | reported msg self e first frame h came handled event =>
      have means := handled_means msg self e frame (tabled_head self first frame [] tabled) h handled
      refine ⟨[], first, .frame frame, rfl, ?_⟩
      rw [means] at event ⊢
      show frameEvent self.monome frame = some ((frameEvent self.monome frame).getD e)
      cases found : frameEvent self.monome frame with
      | none => simp [found] at event
      | some reported => rfl
  | passed msg self e first frame h rest next came handled silent on ih =>
      have means := handled_means msg self e frame (tabled_head self first frame rest tabled) h handled
      obtain ⟨earlier, last, message, shown, event⟩ := ih (tabled_tail self h.self _ rest tabled)
        (fun attempt member => fit attempt (List.mem_cons_of_mem _ member)) positive
      refine ⟨⟨first, some (.frame frame)⟩ :: earlier, last, message, by rw [shown]; rfl, ?_⟩
      rw [← event, means]
      rfl

theorem mext_reports_iff [t : Target] (run : CallRun msg self e attempts next) (tabled : Tabled (.mext self) attempts) :
    ReportsReads (.mext self) e attempts ⟨next.status, .mext next.self, next.event⟩ ↔ ReadsFit (.mext self) attempts := by
  have broken := call_run_broken msg self e attempts next run tabled
  constructor
  · intro reports attempt member negative
    obtain ⟨s, status, below⟩ := (reports.failed ⟨attempt, member, negative⟩).1
    have same := (broken attempt member (.inl negative)).2
    rw [if_pos (Int64.le_of_lt negative)] at same
    rw [← Option.some.inj (status.symm.trans same)]
    exact below
  · intro fit
    refine ⟨call_run_reported msg self e attempts next run tabled fit, ?_, ?_⟩
    · rintro ⟨attempt, member, negative⟩
      obtain ⟨event, status⟩ := broken attempt member (.inl negative)
      rw [if_pos (Int64.le_of_lt negative)] at status
      exact ⟨⟨_, status, fit attempt member negative⟩, event⟩
    · rintro ⟨attempt, member, none⟩ ⟨s, is, above⟩
      obtain ⟨_, status⟩ := broken attempt member (.inr none)
      have same := Option.some.inj (is.symm.trans status)
      by_cases nonpos : attempt.first ≤ 0
      · rw [if_pos nonpos] at same
        by_cases negative : attempt.first < 0
        · exact absurd (fit attempt member negative) (by rw [← same]; exact Int32.lt_asymm above)
        · rw [narrowed_zero attempt.first nonpos negative] at same
          rw [same] at above
          exact absurd above (by decide)
      · rw [if_neg nonpos] at same
        rw [same] at above
        exact absurd above (by decide)

end Mext

section Pair

variable (device : Device) (e : MonomeEvent) (outcome : ReadOutcome 2) (b0 b1 : UInt8) (next : NextEvent Device)

theorem read_short_iff (status : Int64) : readShort status 2 = true ↔ status = 0 ∨ status = 1 := by
  have bound := status.toUInt64.toNat_lt
  rw [readShort, decide_eq_true_iff, UInt64.lt_iff_toNat_lt]
  have zero : status = 0 ↔ status.toUInt64.toNat = 0 := by
    rw [← UInt64.toNat_zero, UInt64.toNat_inj]
    exact ⟨fun h => by rw [h]; rfl, fun h => congrArg Int64.ofUInt64 h⟩
  have one : status = 1 ↔ status.toUInt64.toNat = 1 := by
    rw [show (1 : Nat) = (1 : UInt64).toNat from rfl, UInt64.toNat_inj]
    exact ⟨fun h => by rw [h]; rfl, fun h => congrArg Int64.ofUInt64 h⟩
  rw [zero, one]
  show status.toUInt64.toNat < 2 ↔ _
  omega

theorem pair_outcomes (outcome : ReadOutcome 2) :
    outcome.status < 0 ∨ outcome.status = 0 ∨ outcome.status = 1 ∨ outcome.status = 2 := by
  have counted := outcome.counted
  have fits := outcome.fits
  have exactly : ∀ k : Int64, outcome.status.toInt = k.toInt → outcome.status = k := fun k => Int64.toInt_inj.mp
  rw [Int64.lt_iff_toInt_lt, Int64.toInt_zero]
  by_cases negative : outcome.status.toInt < 0
  · exact .inl negative
  · have small : outcome.status.toInt = 0 ∨ outcome.status.toInt = 1 ∨ outcome.status.toInt = 2 := by omega
    exact .inr (small.imp (exactly 0) (.imp (exactly 1) (exactly 2)))

def PairShape [t : Target] : Prop :=
  next = if readShort outcome.status 2 then ⟨some outcome.status.toInt32, device, e⟩
    else ⟨some (if (device.event (.pair b0 b1)).isSome then 1 else 0), device.after (.pair b0 b1),
      (device.event (.pair b0 b1)).getD e⟩

def pairAttempt : Attempt := ⟨outcome.status, if outcome.status = 2 then some (.pair b0 b1) else none⟩

theorem pair_failed_hidden [t : Target] (shape : PairShape device e outcome b0 b1 next) (negative : outcome.status < 0) :
    ¬ ReportsReads device e [pairAttempt outcome b0 b1] next := by
  have long : ¬ readShort outcome.status 2 = true := by
    rw [read_short_iff]
    rintro (zero | one)
    · rw [zero] at negative
      exact absurd negative (by decide)
    · rw [one] at negative
      exact absurd negative (by decide)
  rw [PairShape, if_neg long] at shape
  intro reports
  obtain ⟨s, status, below⟩ := (reports.failed ⟨_, List.mem_singleton_self _, negative⟩).1
  rw [shape] at status
  cases event : (device.event (.pair b0 b1)).isSome with
  | true =>
      rw [event] at status
      cases status
      exact absurd below (by decide)
  | false =>
      rw [event] at status
      cases status
      exact absurd below (by decide)

theorem pair_nothing_reported [t : Target] (shape : PairShape device e outcome b0 b1 next) (zero : outcome.status = 0) :
    ReportsReads device e [pairAttempt outcome b0 b1] next := by
  rw [PairShape, zero] at shape
  rw [pairAttempt, zero]
  refine ⟨?_, ?_, ?_⟩
  · rintro ⟨s, status, above⟩
    rw [shape] at status
    cases status
    exact absurd above (by decide)
  · rintro ⟨attempt, member, negative⟩
    rw [List.mem_singleton.mp member] at negative
    exact absurd (show (0 : Int64) < 0 from negative) (by decide)
  · rintro _ ⟨s, status, above⟩
    rw [shape] at status
    cases status
    exact absurd above (by decide)

theorem pair_half_reported [t : Target] (shape : PairShape device e outcome b0 b1 next) (one : outcome.status = 1) :
    ¬ ReportsReads device e [pairAttempt outcome b0 b1] next := by
  rw [PairShape, one] at shape
  rw [pairAttempt, one]
  intro reports
  refine absurd ?_ (reports.short ⟨_, List.mem_singleton_self _, rfl⟩)
  rw [shape]
  exact ⟨1, rfl, by decide⟩

theorem pair_whole_reported [t : Target] (shape : PairShape device e outcome b0 b1 next) (two : outcome.status = 2) :
    ReportsReads device e [pairAttempt outcome b0 b1] next := by
  have long : ¬ readShort 2 2 = true := by decide
  rw [PairShape, two, if_neg long] at shape
  rw [pairAttempt, two]
  refine ⟨?_, ?_, ?_⟩
  · rintro ⟨s, status, above⟩
    have reported : device.event (.pair b0 b1) = some ((device.event (.pair b0 b1)).getD e) := by
      rw [shape] at status
      cases event : device.event (.pair b0 b1) with
      | none =>
          rw [event] at status
          cases status
          exact absurd above (by decide)
      | some reported => rfl
    rw [shape]
    exact ⟨[], 2, .pair b0 b1, rfl, reported⟩
  · rintro ⟨attempt, member, negative⟩
    rw [List.mem_singleton.mp member] at negative
    exact absurd (show (2 : Int64) < 0 from negative) (by decide)
  · rintro ⟨attempt, member, none⟩
    rw [List.mem_singleton.mp member] at none
    cases none

theorem pair_reports_iff [t : Target] (shape : PairShape device e outcome b0 b1 next) :
    ReportsReads device e [pairAttempt outcome b0 b1] next ↔ outcome.status = 0 ∨ outcome.status = 2 := by
  rcases pair_outcomes outcome with negative | zero | one | two
  · refine iff_of_false (pair_failed_hidden device e outcome b0 b1 next shape negative) ?_
    rintro (zero | two)
    · rw [zero] at negative
      exact absurd negative (by decide)
    · rw [two] at negative
      exact absurd negative (by decide)
  · exact iff_of_true (pair_nothing_reported device e outcome b0 b1 next shape zero) (.inl zero)
  · refine iff_of_false (pair_half_reported device e outcome b0 b1 next shape one) ?_
    rw [one]
    decide
  · exact iff_of_true (pair_whole_reported device e outcome b0 b1 next shape two) (.inr two)

end Pair

section PairRun

variable {σ : Type} (P : Platform ω) (self : σ) (e : MonomeEvent) (w w' : ω) (log : List PlatformCall) (next : NextEvent σ)

theorem pair_run_reports_iff [t : Target] (device : σ → Device) (switch : UInt8 × UInt8 → Except Fault (NextEvent σ))
    (means : ∀ b0 b1 h, switch (b0, b1) = .ok h → (⟨h.status, device h.self, h.event⟩ : NextEvent Device) =
      ⟨some (if ((device self).event (.pair b0 b1)).isSome then 1 else 0), (device self).after (.pair b0 b1),
        ((device self).event (.pair b0 b1)).getD e⟩)
    (run : pairNextEvent (logged P) self e switch (w, []) = .ok (next, (w', log))) :
    ReportsReads (device self) e (pairAttempts log) ⟨next.status, device next.self, next.event⟩ ↔
      ∀ attempt ∈ pairAttempts log, attempt.first = 0 ∨ attempt.first = 2 := by
  have fits : (∀ attempt ∈ [pairAttempt (P.read 2 w).1 ((P.read 2 w).1.stored.getD 0 0) ((P.read 2 w).1.stored.getD 1 0)],
      attempt.first = 0 ∨ attempt.first = 2) ↔ (P.read 2 w).1.status = 0 ∨ (P.read 2 w).1.status = 2 := by
    simp [pairAttempt]
  rw [pairNextEvent, io_call_bind] at run
  by_cases short : readShort (P.read 2 w).1.status 2 = true
  · rw [show ((logged P).read 2 (w, [])).1 = (P.read 2 w).1 from rfl, if_pos short] at run
    cases run
    refine (pair_reports_iff (device self) e (P.read 2 w).1 _ _ _ ?_).trans fits.symm
    rw [PairShape, if_pos short]
  · rw [show ((logged P).read 2 (w, [])).1 = (P.read 2 w).1 from rfl, if_neg short, readPair] at run
    cases switched : switch ((P.read 2 w).1.stored.getD 0 0, (P.read 2 w).1.stored.getD 1 0) with
    | error fault =>
        rw [switched] at run
        cases run
    | ok h =>
        rw [switched] at run
        cases run
        refine (pair_reports_iff (device self) e (P.read 2 w).1 _ _ _ ?_).trans fits.symm
        rw [PairShape, if_neg short]
        exact means _ _ _ switched

end PairRun

theorem series_switch_means [t : Target] (self : Series) (e : MonomeEvent) (b0 b1 : UInt8) (h : NextEvent Series)
    (switched : seriesSwitch self e (b0, b1) = .ok h) : (⟨h.status, .series h.self, h.event⟩ : NextEvent Device) =
      ⟨some (if ((Device.series self).event (.pair b0 b1)).isSome then 1 else 0),
        (Device.series self).after (.pair b0 b1), ((Device.series self).event (.pair b0 b1)).getD e⟩ := by
  rw [series_switched] at switched
  split at switched
  · cases switched
    rfl
  · cases switched

theorem m40h_switch_means [t : Target] (self : M40h) (e : MonomeEvent) (b0 b1 : UInt8) (h : NextEvent M40h)
    (switched : m40hSwitch self e (b0, b1) = .ok h) : (⟨h.status, .m40h h.self, h.event⟩ : NextEvent Device) =
      ⟨some (if ((Device.m40h self).event (.pair b0 b1)).isSome then 1 else 0),
        (Device.m40h self).after (.pair b0 b1), ((Device.m40h self).event (.pair b0 b1)).getD e⟩ := by
  rw [m40h_switched] at switched
  split at switched
  · cases switched
    rfl
  · cases switched

theorem next_event_reports_reads_iff [t : Target] (P : Platform ω) (fuel : Nat) (device : Device) (e : MonomeEvent)
    (w w' : ω) (log : List PlatformCall) (next : NextEvent Device)
    (run : device.nextEvent (logged P) fuel e (w, []) = .ok (next, (w', log)))
    (tabled : Tabled device (device.attempts log)) :
    ReportsReads device e (device.attempts log) next ↔ ReadsFit device (device.attempts log) := by
  cases device with
  | mext self =>
      obtain ⟨inner, last, ran, wrapped⟩ := io_bind_inv _ _ _ _ _ run
      cases wrapped
      obtain ⟨calls, all, called⟩ := logged_next_event P fuel (.fresh 0 0) self e w w' [] log inner ran
      rw [List.nil_append] at all
      subst all
      exact mext_reports_iff (.fresh 0 0) self e _ inner called.call tabled
  | series self =>
      obtain ⟨inner, last, ran, wrapped⟩ := io_bind_inv _ _ _ _ _ run
      cases wrapped
      rw [series_next_event] at ran
      exact pair_run_reports_iff P self e w w' log inner .series _ (series_switch_means self e) ran
  | m40h self =>
      obtain ⟨inner, last, ran, wrapped⟩ := io_bind_inv _ _ _ _ _ run
      cases wrapped
      rw [m40h_next_event] at ran
      exact pair_run_reports_iff P self e w w' log inner .m40h _ (m40h_switch_means self e) ran

theorem next_event_reports_reads_key :
    ReportsReads (t := ⟨true, false⟩) (.mext mextNew) (keyEvent false 0 0) [⟨1, some (.frame ⟨0x21, [1, 2], rfl⟩)⟩]
      ⟨some 1, .mext mextNew, keyEvent true 1 2⟩ := by
  have tabled : Tabled (.mext mextNew) ((Device.mext mextNew).attempts [.read 1 [0x21] 1, .read 2 [1, 2] 2]) := by
    intro attempt member message whole
    have one : attempt = ⟨1, some (.frame ⟨0x21, [1, 2], rfl⟩)⟩ := List.mem_singleton.mp member
    rw [one] at whole
    cases whole
    exact show Listed 0x21 by decide
  exact (next_event_reports_reads_iff (t := ⟨true, false⟩) link 1 (.mext mextNew) (keyEvent false 0 0)
    ⟨[0x21, 1, 2], []⟩ ⟨[], []⟩ [.read 1 [0x21] 1, .read 2 [1, 2] 2] ⟨some 1, .mext mextNew, keyEvent true 1 2⟩ rfl tabled).mpr
      (show ∀ attempt ∈ mextAttempts [.read 1 [0x21] 1, .read 2 [1, 2] 2], attempt.first < 0 → attempt.first.toInt32 < 0
        by decide)

def unplugged : Platform Unit where
  openDevice _ _ s := (0, s)
  close s := (0, s)
  write _ s := (-1, s)
  read _ s := (⟨-1, [], Nat.zero_le _, by decide⟩, s)
  waitForInput _ s := (-1, s)
  monotonicMilliseconds s := (0, s)

theorem failed_read_reports_key :
    (Device.series ⟨⟨8, 8, .rotate0, none, .unset⟩, 0, 0⟩).nextEvent (t := ⟨true, false⟩) (logged unplugged) 1
        (keyEvent false 3 4) ((), []) =
        .ok (⟨some 1, .series ⟨⟨8, 8, .rotate0, none, .unset⟩, 0, 0⟩, keyEvent true 0 0⟩, ((), [.read 2 [] (-1)])) ∧
      ¬ ReportsReads (t := ⟨true, false⟩) (.series ⟨⟨8, 8, .rotate0, none, .unset⟩, 0, 0⟩) (keyEvent false 3 4)
        ((Device.series ⟨⟨8, 8, .rotate0, none, .unset⟩, 0, 0⟩).attempts [.read 2 [] (-1)])
        ⟨some 1, .series ⟨⟨8, 8, .rotate0, none, .unset⟩, 0, 0⟩, keyEvent true 0 0⟩ := by
  let build : Target := ⟨true, false⟩
  refine ⟨rfl, fun reports => ?_⟩
  have kept := (reports.failed ⟨⟨-1, none⟩, by decide, by decide⟩).2
  exact absurd kept (by decide)

end Libmonome
