import Libmonome.Attending
import Libmonome.DeviceLamps
import Libmonome.Relay

set_option autoImplicit false

namespace Libmonome

open Picture

variable {ω : Type}

-- simple_toggle.cpp: a grid of sixteen by sixteen, by x and y.
abbrev ToggleGrid := Fin 16 × Fin 16 → Bool

def darkGrid : ToggleGrid := fun _ => false

def toggled (grid : ToggleGrid) (cell : Fin 16 × Fin 16) : ToggleGrid := Function.update grid cell (! grid cell)

section Program

variable (t : Target) (P : Platform ω) (fuel : Nat)

-- The one callback the program registers. Through the wrapper it gets every
-- event of its type; what the calls in it answer is dropped.
def toggleHandlers : MonomeEventType → Option Unit
  | .buttonDown => some ()
  | _ => none

def onButtonDown : Callbacks (ω × ToggleGrid) Unit := fun _ e l => do
  match e.payload with
  | .grid x y =>
      if inside : x.toNat < 16 ∧ y.toNat < 16 then do
        let cell := boardCell x y inside
        let lit ← Io.call fun s => (toggled s.2 cell cell, (s.1, toggled s.2 cell))
        let _ ← l.device.output t P.beside (.ledSet x y (if lit then 1 else 0))
        return l
      else
        return l
  | _ => return l

def simpleToggle (answers : List Bool) (e : MonomeEvent) (device : Device) :
    Io (ω × ToggleGrid) (Bool × Listening Unit) := do
  let _ ← device.output t P.beside (.ledAll 0)
  monomeEventLoop P.beside fuel (onButtonDown t P) answers e ⟨device, toggleHandlers⟩

end Program

theorem unrotated_place (monome : Monome) (C R : Nat) (has : HasGrid monome C R) (px py : UInt32)
    (inside : InGrid C R (px.toNat, py.toNat)) : ((unrotated monome px py).1.toNat, (unrotated monome px py).2.toNat) =
      unturn monome.rotation C R (px.toNat, py.toNat) := by
  have divides := grid_divides monome C R has (Nat.zero_lt_of_lt inside.1) (Nat.zero_lt_of_lt inside.2)
  obtain ⟨x, y, back, place⟩ := unrotate_coords_in_grid monome C R has px py inside
  rw [unrotate_coords_ok monome px py divides] at back
  rw [Except.ok.inj back]
  exact place

theorem pair_press_meant (monome : Monome) (C R : Nat) (has : HasGrid monome C R) (b : UInt8)
    (inside : InGrid C R (b.toNat / 16, b.toNat % 16)) : ∃ x y,
      unrotated monome (.ofNat (b.toNat / 16)) (.ofNat (b.toNat % 16)) = (x, y) ∧
      (x.toNat, y.toNat) = unturn monome.rotation C R (b.toNat / 16, b.toNat % 16) := by
  have bound := b.toNat_lt
  have left : (UInt32.ofNat (b.toNat / 16)).toNat = b.toNat / 16 := by
    rw [UInt32.toNat_ofNat', Nat.mod_eq_of_lt (by omega)]
  have up : (UInt32.ofNat (b.toNat % 16)).toNat = b.toNat % 16 := by
    rw [UInt32.toNat_ofNat', Nat.mod_eq_of_lt (by omega)]
  have place := unrotated_place monome C R has (.ofNat (b.toNat / 16)) (.ofNat (b.toNat % 16)) (by rw [left, up]; exact inside)
  rw [left, up] at place
  exact ⟨_, _, rfl, place⟩

theorem press_meant [t : Target] (start : Device) (C R : Nat) (device : Device) (remains : start.Remains C R device)
    (message : Message) (reports : start.Reports C R message) :
    (∀ p, start.keyDown message = some p → ∃ x y, device.event message = some (keyEvent true x y) ∧
      (x.toNat, y.toNat) = unturn start.monome.rotation C R p) ∧
    (start.keyDown message = none → ∀ e, device.event message = some e → toggleHandlers e.eventType = none) := by
  have inside := reports.has
  rw [← remains.rotation]
  simp only [← remains.keys message] at inside ⊢
  cases device with
  | mext self =>
      cases message with
      | pair b0 b1 => exact ⟨fun p is => (by cases is), fun _ e is => (by cases is)⟩
      | frame frame =>
          obtain ⟨-, has⟩ := remains.lamps
          simp only [Device.keyDown, Device.event, frameEvent] at inside ⊢
          by_cases down : frame.header = 0x21
          · have up : ¬ frame.header = 0x20 := by rw [down]; decide
            simp only [if_pos down, if_neg up] at inside ⊢
            refine ⟨fun p is => ?_, fun no => (by cases no)⟩
            have within := inside p is
            cases is
            exact ⟨_, _, rfl, unrotated_place self.monome C R has _ _ within⟩
          · simp only [if_neg down]
            refine ⟨fun p is => (by cases is), fun _ e is => ?_⟩
            split_ifs at is <;> cases is <;> rfl
  | series self =>
      cases message with
      | frame frame => exact ⟨fun p is => (by cases is), fun _ e is => (by cases is)⟩
      | pair b0 b1 =>
          obtain ⟨-, has⟩ := remains.lamps
          simp only [Device.keyDown, Device.event, seriesEvent] at inside ⊢
          by_cases down : b0 = 0x00
          · simp only [if_pos down] at inside ⊢
            refine ⟨fun p is => ?_, fun no => (by cases no)⟩
            have within := inside p is
            cases is
            obtain ⟨x, y, back, place⟩ := pair_press_meant self.monome C R has b1 within
            rw [back]
            exact ⟨x, y, rfl, place⟩
          · simp only [if_neg down]
            refine ⟨fun p is => (by cases is), fun _ e is => ?_⟩
            split_ifs at is <;> cases is <;> rfl
  | m40h self =>
      cases message with
      | frame frame => exact ⟨fun p is => (by cases is), fun _ e is => (by cases is)⟩
      | pair b0 b1 =>
          obtain ⟨-, has⟩ := remains.lamps
          simp only [Device.keyDown, Device.event, m40hEvent] at inside ⊢
          by_cases down : b0 = 0x01
          · simp only [if_pos down] at inside ⊢
            refine ⟨fun p is => ?_, fun no => (by cases no)⟩
            have within := inside p is
            cases is
            obtain ⟨x, y, back, place⟩ := pair_press_meant self.parent C R has b1 within
            rw [back]
            exact ⟨x, y, rfl, place⟩
          · simp only [if_neg down]
            refine ⟨fun p is => (by cases is), fun _ e is => ?_⟩
            split_ifs at is <;> cases is <;> rfl

def pressedCell (e : MonomeEvent) : Option (Nat × Nat) :=
  match e.eventType, e.payload with
  | .buttonDown, .grid x y => some (x.toNat, y.toNat)
  | _, _ => none

def pressedOften (cells : List (Nat × Nat)) : ToggleGrid := fun cell => decide (cells.count (cell.1.val, cell.2.val) % 2 = 1)

def Listens (e : MonomeEvent) : Bool := (toggleHandlers e.eventType).isSome

section Presses

variable (start : Device) (C R : Nat) (device : Device) (remains : start.Remains C R device) (messages : List Message)
  (reports : ∀ message ∈ messages, start.Reports C R message)
include remains reports

theorem presses_meant [t : Target] : ((device.eventsOf messages).filter Listens).filterMap pressedCell =
    (messages.filterMap start.keyDown).map (unturn start.monome.rotation C R) := by
  induction messages generalizing device with
  | nil => rfl
  | cons message rest ih =>
      have told := reports message List.mem_cons_self
      have meant := press_meant start C R device remains message told
      have later := ih (device.after message) (after_remains start C R device remains message told.size)
        fun m member => reports m (List.mem_cons_of_mem _ member)
      rw [Device.eventsOf, List.filter_append, List.filterMap_append, later, List.filterMap_cons]
      cases pressed : start.keyDown message with
      | some p =>
          obtain ⟨x, y, event, place⟩ := meant.1 p pressed
          rw [event, List.map_cons, ← place]
          rfl
      | none =>
          cases event : device.event message with
          | none => rfl
          | some e =>
              have deaf : Listens e = false := by rw [Listens, meant.2 pressed e event]; rfl
              rw [Option.toList_some, List.filter_singleton, deaf]
              rfl

theorem presses_named [t : Target] : ∀ e ∈ device.eventsOf messages, Listens e → ∃ x y, e = keyEvent true x y ∧
    InGrid (logicalCols start.monome.rotation C R) (logicalRows start.monome.rotation C R) (x.toNat, y.toNat) := by
  induction messages generalizing device with
  | nil => exact fun e member => absurd member List.not_mem_nil
  | cons message rest ih =>
      have told := reports message List.mem_cons_self
      have meant := press_meant start C R device remains message told
      intro e member listens
      rcases List.mem_append.mp member with now | later
      · have event : device.event message = some e := by simpa using now
        cases pressed : start.keyDown message with
        | some p =>
            obtain ⟨x, y, key, place⟩ := meant.1 p pressed
            refine ⟨x, y, Option.some.inj (event.symm.trans key), ?_⟩
            rw [place]
            exact unturn_in_grid _ _ _ p (told.has p pressed)
        | none =>
            rw [Listens, meant.2 pressed e event] at listens
            cases listens
      · exact ih (device.after message) (after_remains start C R device remains message told.size)
          (fun m member => reports m (List.mem_cons_of_mem _ member)) e later listens

end Presses

def gridPicture (grid : ToggleGrid) : Pic (Nat × Nat) Bool := fun p =>
  some (if inside : InGrid 16 16 p then grid (⟨p.1, inside.1⟩, ⟨p.2, inside.2⟩) else false)

theorem grid_picture_dark : gridPicture (pressedOften []) = flood false := by
  funext p
  simp [gridPicture, pressedOften, flood]

theorem pressed_once_more (cells : List (Nat × Nat)) (cell : Fin 16 × Fin 16) :
    pressedOften (cells ++ [(cell.1.val, cell.2.val)]) = toggled (pressedOften cells) cell := by
  funext other
  rw [toggled, pressedOften, List.count_append, List.count_singleton]
  by_cases same : other = cell
  · subst same
    rw [Function.update_self, pressedOften, beq_self_eq_true, if_pos rfl]
    by_cases odd : cells.count (other.1.val, other.2.val) % 2 = 1
    · rw [decide_eq_true odd, Bool.not_true, decide_eq_false (by omega)]
    · rw [decide_eq_false odd, Bool.not_false, decide_eq_true (by omega)]
  · have apart : ¬ ((cell.1.val, cell.2.val) == (other.1.val, other.2.val)) = true := by
      rw [beq_iff_eq, Prod.mk.injEq]
      exact fun both => same (Prod.ext (Fin.ext both.1.symm) (Fin.ext both.2.symm))
    rw [Function.update_of_ne same, if_neg apart]
    rfl

theorem pressed_outside (cells : List (Nat × Nat)) (p : Nat × Nat) (outside : ¬ InGrid 16 16 p) :
    pressedOften (cells ++ [p]) = pressedOften cells := by
  funext cell
  have apart : ¬ (p == (cell.1.val, cell.2.val)) = true := by
    rw [beq_iff_eq]
    rintro rfl
    exact outside ⟨cell.1.isLt, cell.2.isLt⟩
  rw [pressedOften, pressedOften, List.count_append, List.count_singleton, if_neg apart]
  rfl

theorem toggled_picture (grid : ToggleGrid) (cell : Fin 16 × Fin 16) :
    gridPicture (toggled grid cell) = atop (dot (cell.1.val, cell.2.val) (toggled grid cell cell)) (gridPicture grid) := by
  funext p
  rw [atop, dot]
  by_cases same : p = (cell.1.val, cell.2.val)
  · subst same
    rw [if_pos rfl, gridPicture, dif_pos ⟨cell.1.isLt, cell.2.isLt⟩]
    rfl
  · rw [if_neg same, gridPicture, gridPicture]
    by_cases inside : InGrid 16 16 p
    · have apart : ((⟨p.1, inside.1⟩, ⟨p.2, inside.2⟩) : Fin 16 × Fin 16) ≠ cell := by
        rintro rfl
        exact same rfl
      rw [dif_pos inside, dif_pos inside, toggled, Function.update_of_ne apart]
      rfl
    · rw [dif_neg inside, dif_neg inside]
      rfl

section Calls

variable (t : Target) (device : Device) (C R : Nat)

theorem set_draws (r : MonomeRotate) (x y on : UInt32) :
    device.draw t C R r (.ledSet x y on) = dot (x.toNat, y.toNat) (decide (on ≠ 0)) := by
  cases device with
  | mext self => exact tint_id _
  | series self | m40h self => rfl

theorem clear_draws (r : MonomeRotate) : device.draw t C R r (.ledAll 0) = flood false := by
  cases device <;> rfl

theorem set_drawable (has : device.HasLamps C R) (x y on : UInt32)
    (named : InGrid (logicalCols device.monome.rotation C R) (logicalRows device.monome.rotation C R) (x.toNat, y.toNat)) :
    device.Drawable C R device.monome.rotation (.ledSet x y on) := by
  cases device with
  | mext self =>
      have limits : logicalCols self.monome.rotation C R ≤ 248 ∧ logicalRows self.monome.rotation C R ≤ 248 := by
        rw [logicalCols, logicalRows]
        cases self.monome.rotation.swaps
        · exact ⟨has.1.colsSmall, has.1.rowsSmall⟩
        · exact ⟨has.1.rowsSmall, has.1.colsSmall⟩
      refine ⟨trivial, trivial, fun d member => ?_⟩
      rw [List.mem_singleton.mp member]
      exact ⟨Nat.lt_of_lt_of_le named.1 (limits.1.trans (by decide)), Nat.lt_of_lt_of_le named.2 (limits.2.trans (by decide))⟩
  | series self | m40h self => exact named

theorem clear_drawable (r : MonomeRotate) : device.Drawable C R r (.ledAll 0) := by
  cases device <;> trivial

end Calls

section Runs

variable (t : Target) (P : Platform ω) (fuel : Nat) (holds : ω → List Supply → Prop) (written : ω → List (List UInt8))
  (wired : Wired P holds written) (start : Device) (C R : Nat) (has : start.HasLamps C R)
  (before : List (List UInt8)) (lamps : Canvas (Nat × Nat) Bool)

def ShowsPresses (handled : List MonomeEvent) (grid : ToggleGrid) (sent : List (List UInt8)) : Prop :=
  grid = pressedOften (handled.filterMap pressedCell) ∧
    ∃ drawn, sent = before ++ drawn ∧ Shows start C R lamps drawn (gridPicture grid)

def KeyNamed (e : MonomeEvent) : Prop := ∃ x y, e = keyEvent true x y ∧
  InGrid (logicalCols start.monome.rotation C R) (logicalRows start.monome.rotation C R) (x.toNat, y.toNat)

include wired

theorem call_drawn (device : Device) (remains : start.Remains C R device) (call : OutputCall)
    (drawable : start.Drawable C R start.monome.rotation call) (pic : Pic (Nat × Nat) Bool) (drawn : List (List UInt8))
    (grid : ToggleGrid) (w : ω) (supply : List Supply) (queued : holds w supply) (sent : written w = before ++ drawn)
    (shows : Shows start C R lamps drawn pic) :
    ∃ status w', device.output t P.beside call (w, grid) = .ok (status, (w', grid)) ∧ holds w' supply ∧
      ∃ more, written w' = before ++ more ∧
        Shows start C R lamps more (atop (start.draw t C R start.monome.rotation call) pic) := by
  obtain ⟨frames, sends, after⟩ := call_shows t start C R lamps device remains call drawable drawn pic shows
  have ran := (device_sends t device call).runs _ (P.beside (ν := ToggleGrid)) (w, grid)
  rw [sends] at ran
  obtain ⟨apart, all⟩ := frames_written P holds written wired frames w supply queued
  refine ⟨_, (sendFrames P frames w).2, ran.trans (congrArg (fun s => Except.ok (_, s)) (send_frames_beside P frames _)),
    apart, drawn ++ frames, ?_, after⟩
  rw [all, sent, List.append_assoc]

include has

theorem press_toggles (handled : List MonomeEvent) (device : Device) (e : MonomeEvent) (cb : Unit) (s : ω × ToggleGrid)
    (supply : List Supply) (remains : start.Remains C R device) (named : KeyNamed start C R e)
    (held : holds s.1 supply ∧ ShowsPresses start C R before lamps handled s.2 (written s.1)) :
    ∃ s', onButtonDown t P cb e ⟨device, toggleHandlers⟩ s = .ok (⟨device, toggleHandlers⟩, s') ∧
      holds s'.1 supply ∧ ShowsPresses start C R before lamps (handled ++ [e]) s'.2 (written s'.1) := by
  obtain ⟨w, grid⟩ := s
  obtain ⟨queued, pressed, drawn, sent, shows⟩ := held
  have pressed : grid = pressedOften (handled.filterMap pressedCell) := pressed
  obtain ⟨x, y, rfl, within⟩ := named
  have cells : (handled ++ [keyEvent true x y]).filterMap pressedCell =
      handled.filterMap pressedCell ++ [(x.toNat, y.toNat)] := by
    rw [List.filterMap_append]
    rfl
  rw [onButtonDown]
  simp only [keyEvent, if_true] at *
  by_cases inside : x.toNat < 16 ∧ y.toNat < 16
  · rw [dif_pos inside, io_call_bind]
    have after := toggled_picture grid (boardCell x y inside)
    have now := pressed_once_more (handled.filterMap pressedCell) (boardCell x y inside)
    rw [← pressed] at now
    generalize toggled grid (boardCell x y inside) = grid' at after now ⊢
    have lit (on : Bool) : decide ((if on then (1 : UInt32) else 0) ≠ 0) = on := by cases on <;> decide
    obtain ⟨status, w', ran, left, more, wrote, appears⟩ := call_drawn t P holds written wired start C R before lamps device
      remains _ (set_drawable start C R has x y (if grid' (boardCell x y inside) then 1 else 0) within)
      (gridPicture grid) drawn grid' w supply queued sent shows
    rw [set_draws, lit] at appears
    refine ⟨(w', grid'), io_bind_ok _ _ _ _ _ ran, left, ?_, more, wrote, ?_⟩
    · rw [cells]
      exact now.symm
    · rw [after]
      exact appears
  · rw [dif_neg inside]
    refine ⟨(w, grid), rfl, queued, ?_, drawn, sent, shows⟩
    rw [cells, pressed_outside _ (x.toNat, y.toNat) inside]
    exact pressed

theorem program_starts (w : ω) (supply : List Supply) (queued : holds w supply) :
    ∃ status w', start.output t P.beside (.ledAll 0) (w, darkGrid) = .ok (status, (w', darkGrid)) ∧
      holds w' supply ∧ ShowsPresses start C R (written w) lamps [] darkGrid (written w') := by
  obtain ⟨status, w', ran, left, drawn, sent, shows⟩ := call_drawn t P holds written wired start C R (written w) lamps
    start (fresh_remains start C R has) (.ledAll 0) (clear_drawable start C R _) blank [] darkGrid w supply queued
    (List.append_nil _).symm (nothing_shows start C R lamps)
  refine ⟨status, w', ran, left, rfl, drawn, sent, ?_⟩
  have dark : darkGrid = pressedOften [] := rfl
  have flooded : atop (flood false) blank = (flood false : Pic (Nat × Nat) Bool) := rfl
  rw [dark, grid_picture_dark, ← flooded]
  rw [clear_draws] at shows
  exact shows

theorem toggle_serves : Serves P.beside (onButtonDown t P) toggleHandlers (start.Remains C R) (KeyNamed start C R)
    fun handled s supply => holds s.1 supply ∧ ShowsPresses start C R before lamps handled s.2 (written s.1) where
  feeds handled := beside_feeds P holds written wired (ShowsPresses start C R before lamps handled)
  runs handled device e cb s supply remains named _ held :=
    press_toggles t P holds written wired start C R has before lamps handled device e cb s supply remains named held

end Runs

theorem count_placed (r : MonomeRotate) (C R : Nat) (keys : List (Nat × Nat)) (inside : ∀ q ∈ keys, InGrid C R q)
    (p : Nat × Nat) (within : InGrid C R p) : (keys.map (unturn r C R)).count (unturn r C R p) = keys.count p := by
  induction keys with
  | nil => rfl
  | cons q rest ih =>
      have same : unturn r C R q = unturn r C R p ↔ q = p := by
        refine ⟨fun places => ?_, congrArg _⟩
        rw [← turn_unturn r C R q (inside q List.mem_cons_self), places, turn_unturn r C R p within]
      have later := ih fun k member => inside k (List.mem_cons_of_mem _ member)
      simp only [List.map_cons, List.count_cons, later, beq_iff_eq, same]

-- Whatever the waits bring and however long the program runs: on any of the
-- serial grids, in any rotation, a lamp over a cell the program has is lit after
-- an odd number of presses of the key under it, and the others stay dark.
theorem simple_toggle_shows (t : Target) (P : Platform ω) (fuel : Nat) (holds : ω → List Supply → Prop)
    (written : ω → List (List UInt8)) (wired : Wired P holds written) (start : Device) (C R : Nat)
    (has : start.HasLamps C R) (positive : 0 < C ∧ 0 < R) (lamps : Canvas (Nat × Nat) Bool) (answers : List Bool)
    (e : MonomeEvent) (stream : List (Option Message)) (short : stream.length < fuel)
    (reports : ∀ message, some message ∈ stream → start.Reports C R message) (w : ω)
    (queued : holds w (messageSupply stream)) :
    ∃ device w' grid done left sent shown,
      simpleToggle t P fuel answers e start (w, darkGrid) =
        .ok ((answers.all id, ⟨device, toggleHandlers⟩), (w', grid)) ∧
      holds w' (messageSupply left) ∧ (answers.all id → stream.length ≤ answers.length → left = []) ∧
      stream.reduceOption.filterMap start.keyDown = done ++ left.reduceOption.filterMap start.keyDown ∧
      written w' = written w ++ sent ∧
      display start.panelSize (start.panelLamp C R) sent.flatten ⟨none, lamps⟩ = ⟨none, shown⟩ ∧
      ∀ p, InGrid C R p → gridPicture grid (unturn start.monome.rotation C R p) = some (shown p) ∧
        (shown p = true ↔ InGrid 16 16 (unturn start.monome.rotation C R p) ∧ Odd (done.count p)) := by
  have among : ∀ {part : List (Option Message)}, part ⊆ stream → ∀ message ∈ part.reduceOption, start.Reports C R message :=
    fun within message member => reports message (within (List.reduceOption_mem_iff.mp member))
  have whole := among (List.Subset.refl _)
  have fresh := fresh_remains start C R has
  have stays : ∀ d, start.Remains C R d → ∀ m, some m ∈ stream → start.Remains C R (d.after m) :=
    fun d remains m member => after_remains start C R d remains m (reports m member).size
  obtain ⟨status, dark, cleared, waiting, first⟩ := program_starts t P holds written wired start C R has lamps w _ queued
  obtain ⟨s', looped, left, final⟩ := event_loop_attends P.beside (onButtonDown t P) toggleHandlers
    (start.Remains C R) (KeyNamed start C R) _ (toggle_serves t P holds written wired start C R has (written w) lamps) fuel
    answers start stream e short fresh stays (fun m member => (reports m member).spoken)
    (grid_decodes start C R positive start fresh _ fun m member => (whole m member).size)
    (fun e member listens => presses_named start C R start fresh _ whole e member listens) [] (dark, darkGrid)
    ⟨waiting, first⟩
  obtain ⟨w', grid⟩ := s'
  obtain ⟨remains, within⟩ := attend_within (start.Remains C R) toggleHandlers answers start stream stays fresh
  have drained := attend_drains toggleHandlers answers start stream
  have kept := congrArg (List.filterMap pressedCell) (attend_keeps toggleHandlers answers start stream)
  generalize start.attend toggleHandlers answers stream = attended at *
  obtain ⟨handled, device, rest⟩ := attended
  obtain ⟨taken, rfl⟩ := within
  obtain ⟨pressed, sent, wrote, shows⟩ := final
  have pressed : grid = pressedOften (handled.filterMap pressedCell) := pressed
  have wrote : written w' = written w ++ sent := wrote
  have presses := presses_meant start C R start fresh _ whole
  have later := presses_meant start C R device remains _ (among (List.subset_append_right _ _))
  have keys : (taken ++ rest).reduceOption.filterMap start.keyDown =
      taken.reduceOption.filterMap start.keyDown ++ rest.reduceOption.filterMap start.keyDown := by
    rw [List.reduceOption_append, List.filterMap_append]
  have cells : handled.filterMap pressedCell =
      (taken.reduceOption.filterMap start.keyDown).map (unturn start.monome.rotation C R) := by
    have split : ((taken ++ rest).reduceOption.filterMap start.keyDown).map (unturn start.monome.rotation C R) =
        handled.filterMap pressedCell ++ (rest.reduceOption.filterMap start.keyDown).map (unturn start.monome.rotation C R) := by
      rw [← presses, ← later, ← List.filterMap_append]
      exact kept
    rw [keys, List.map_append] at split
    exact (List.append_cancel_right split).symm
  refine ⟨device, w', grid, _, rest, sent, _, ?_, left, drained, keys, wrote, shows, fun p inside => ?_⟩
  · rw [simpleToggle, io_bind_ok _ _ _ _ _ cleared]
    exact looped
  have drawn : seen start.monome.rotation C R (gridPicture grid) p = gridPicture grid (unturn start.monome.rotation C R p) :=
    if_pos inside
  rw [paint, drawn, pressed, cells]
  refine ⟨rfl, ?_⟩
  by_cases covered : InGrid 16 16 (unturn start.monome.rotation C R p)
  · have owned : ∀ q ∈ taken.reduceOption.filterMap start.keyDown, InGrid C R q := by
      intro q member
      obtain ⟨message, came, named⟩ := List.mem_filterMap.mp member
      exact (among (List.subset_append_left _ _) message came).has q named
    rw [gridPicture, dif_pos covered, Option.getD_some, pressedOften, decide_eq_true_iff, Nat.odd_iff]
    rw [← count_placed start.monome.rotation C R _ owned p inside]
    exact (and_iff_right covered).symm
  · rw [gridPicture, dif_neg covered]
    exact ⟨fun lit => absurd lit Bool.false_ne_true, fun both => absurd both.1 covered⟩

def toggleStream : List (Option Message) :=
  [some (.pair 0x00 0x23), some (.pair 0x10 0x23), some (.pair 0x00 0xF7), some (.pair 0x00 0x23)]

theorem simple_toggle_shows_twice : ∃ device w' grid sent shown,
    simpleToggle ⟨true, false⟩ link 5 [true, true, true, true] (keyEvent false 0 0)
      (.series ⟨⟨8, 16, .rotate180, none, .unset⟩, 0, 0⟩) (⟨[0x00, 0x23, 0x10, 0x23, 0x00, 0xF7, 0x00, 0x23], []⟩, darkGrid) =
      .ok ((true, ⟨device, toggleHandlers⟩), (w', grid)) ∧ w'.incoming = [] ∧ w'.sent = sent ∧
      display (LineGrid.size .series) (LineGrid.lamp .series 16 8) sent.flatten ⟨none, fun _ => true⟩ = ⟨none, shown⟩ ∧
      shown (2, 3) = false ∧ shown (15, 7) = true ∧ shown (0, 0) = false := by
  have spoken : ∀ message, some message ∈ toggleStream →
      (Device.series ⟨⟨8, 16, .rotate180, none, .unset⟩, 0, 0⟩).Reports 16 8 message := by
    intro message member
    simp only [toggleStream, List.mem_cons, Option.some.injEq, List.not_mem_nil, or_false] at member
    rcases member with rfl | rfl | rfl | rfl
    · exact ⟨trivial, fun p is => (by cases is; decide), fun frame is => (by cases is)⟩
    · exact ⟨trivial, fun p is => (by cases is), fun frame is => (by cases is)⟩
    · exact ⟨trivial, fun p is => (by cases is; decide), fun frame is => (by cases is)⟩
    · exact ⟨trivial, fun p is => (by cases is; decide), fun frame is => (by cases is)⟩
  obtain ⟨device, w', grid, done, left, sent, shown, ran, waiting, drained, keys, wrote, shows, lit⟩ :=
    simple_toggle_shows ⟨true, false⟩ link 5 (Cut Link.incoming) Link.sent link_wired
      (.series ⟨⟨8, 16, .rotate180, none, .unset⟩, 0, 0⟩) 16 8 ⟨⟨.inr rfl, .inl rfl⟩, by decide, by decide⟩ (by decide)
      (fun _ => true) [true, true, true, true] (keyEvent false 0 0) toggleStream (by decide) spoken
      ⟨[0x00, 0x23, 0x10, 0x23, 0x00, 0xF7, 0x00, 0x23], []⟩ ⟨by decide, rfl⟩
  have nothing : left = [] := drained rfl (by decide)
  subst nothing
  have pressed : [(2, 3), (15, 7), (2, 3)] = done := keys.trans (List.append_nil done)
  subst pressed
  refine ⟨device, w', grid, sent, shown, ran, waiting.2, wrote, shows, ?_, ?_, ?_⟩
  · exact Bool.eq_false_iff.mpr fun on => absurd ((lit (2, 3) (by decide)).2.mp on).2 (by decide)
  · exact (lit (15, 7) (by decide)).2.mpr ⟨by decide, by decide⟩
  · exact Bool.eq_false_iff.mpr fun on => absurd ((lit (0, 0) (by decide)).2.mp on).2 (by decide)

end Libmonome
