import Libmonome.Acquire
import Libmonome.Alignment

set_option autoImplicit false

namespace Libmonome

variable {ω : Type}

inductive Axis where
  | x
  | y
deriving DecidableEq, Repr

inductive Heading where
  | key (down : Bool)
  | tilt (axis : Axis)
  | other
deriving DecidableEq, Repr

def seriesHeading (b0 : UInt8) : Heading :=
  if b0 = 0x00 then .key true else if b0 = 0x10 then .key false
  else if b0 = 0xD0 then .tilt .x else if b0 = 0xD1 then .tilt .y else .other

def m40hHeading (b0 : UInt8) : Heading :=
  if b0 = 0x01 then .key true else if b0 = 0x00 then .key false
  else if 0x10 ≤ b0 ∧ b0 ≤ 0x13 then .tilt .x else if 0x14 ≤ b0 ∧ b0 ≤ 0x17 then .tilt .y else .other

namespace Device

def heading : Device → UInt8 → Heading
  | mext _, _ => .other
  | series _, b0 => seriesHeading b0
  | m40h _, b0 => m40hHeading b0

-- A series axis is the second byte, a 40h axis ten bits divided by four.
def reading : Device → UInt8 × UInt8 → Int32
  | mext _, _ => 0
  | series _, message => .ofNat message.2.toNat
  | m40h _, message => .ofNat ((256 * (message.1.toNat % 4) + message.2.toNat) / 4)

def latest (device : Device) (axis : Axis) (messages : List (UInt8 × UInt8)) : Int32 :=
  ((messages.reverse.find? fun message => device.heading message.1 = .tilt axis).map device.reading).getD 0

def FromTable (device : Device) (m : MonomeDevmap) : Prop :=
  m ∈ mapping ∧ device.monome.cols = m.cols ∧ device.monome.rows = m.rows ∧
    match device with
    | mext _ => False
    | series self => m.proto = .series ∧ self.tiltX = 0 ∧ self.tiltY = 0
    | m40h self => m.proto = .m40h ∧ self.tiltX = 0 ∧ self.tiltY = 0

def tilt : Device → Axis → Int32
  | mext _, _ => 0
  | series self, .x => self.tiltX
  | series self, .y => self.tiltY
  | m40h self, .x => self.tiltX
  | m40h self, .y => self.tiltY

def pairEvent : Device → UInt8 → UInt8 → Option MonomeEvent
  | mext _, _, _ => none
  | series self, b0, b1 => seriesEvent self b0 b1
  | m40h self, b0, b1 => m40hEvent self b0 b1

theorem pair_event [t : Target] (device : Device) (b0 b1 : UInt8) :
    device.event (.pair b0 b1) = device.pairEvent b0 b1 := by
  cases device with
  | mext self => rfl
  | series self => rfl
  | m40h self => rfl

def Means (device : Device) (b0 b1 : UInt8) : Prop :=
  match device.heading b0 with
  | .key down => device.after (.pair b0 b1) = device ∧ device.pairEvent b0 b1 = some (keyEvent down
      (unrotated device.monome (.ofNat (b1.toNat / 16)) (.ofNat (b1.toNat % 16))).1
      (unrotated device.monome (.ofNat (b1.toNat / 16)) (.ofNat (b1.toNat % 16))).2)
  | .tilt axis => (device.after (.pair b0 b1)).monome = device.monome ∧
      (∀ other, (device.after (.pair b0 b1)).tilt other = if axis = other then device.reading (b0, b1) else device.tilt other) ∧
        device.pairEvent b0 b1 = some ⟨.tilt, .tilt 0 ((device.after (.pair b0 b1)).tilt .x)
          ((device.after (.pair b0 b1)).tilt .y) 0⟩
  | .other => device.after (.pair b0 b1) = device ∧ device.pairEvent b0 b1 = none

def calls [t : Target] (P : Platform ω) (fuel : Nat) : List MonomeEvent → Device → Io ω (List (NextEvent Device) × Device)
  | [], device => return ([], device)
  | e :: rest, device => do
      let next ← device.nextEvent P fuel e
      let later ← calls P fuel rest next.self
      return (next :: later.1, later.2)

theorem series_means (self : Series) (b0 b1 : UInt8) : (series self).Means b0 b1 := by
  by_cases down : b0 = 0x00
  · subst down
    exact ⟨rfl, rfl⟩
  · by_cases up : b0 = 0x10
    · subst up
      exact ⟨rfl, rfl⟩
    · by_cases x : b0 = 0xD0
      · subst x
        refine ⟨rfl, ?_, rfl⟩
        intro other
        cases other with
        | x => rfl
        | y => rfl
      · by_cases y : b0 = 0xD1
        · subst y
          refine ⟨rfl, ?_, rfl⟩
          intro other
          cases other with
          | x => rfl
          | y => rfl
        · simp only [Means, heading, seriesHeading, after, pairEvent, seriesSelf, seriesEvent, if_neg down, if_neg up,
            if_neg x, if_neg y]
          exact ⟨trivial, trivial⟩

theorem m40h_means (self : M40h) (b0 b1 : UInt8) : (m40h self).Means b0 b1 := by
  by_cases down : b0 = 0x01
  · subst down
    exact ⟨rfl, rfl⟩
  · by_cases up : b0 = 0x00
    · subst up
      exact ⟨rfl, rfl⟩
    · have four : (0x10 ≤ b0 ∧ b0 ≤ 0x13) ↔ b0.toNat / 4 = 4 := by
        rw [UInt8.le_iff_toNat_le, UInt8.le_iff_toNat_le]
        show (16 ≤ b0.toNat ∧ b0.toNat ≤ 19) ↔ _
        omega
      have five : (0x14 ≤ b0 ∧ b0 ≤ 0x17) ↔ b0.toNat / 4 = 5 := by
        rw [UInt8.le_iff_toNat_le, UInt8.le_iff_toNat_le]
        show (20 ≤ b0.toNat ∧ b0.toNat ≤ 23) ↔ _
        omega
      simp only [Means, heading, m40hHeading, after, pairEvent, m40hSelf, m40hEvent, if_neg down, if_neg up, four, five]
      by_cases x : b0.toNat / 4 = 4
      · simp only [if_pos x]
        refine ⟨rfl, ?_, rfl⟩
        intro other
        cases other with
        | x => rfl
        | y => rfl
      · by_cases y : b0.toNat / 4 = 5
        · simp only [if_neg x, if_pos y]
          refine ⟨rfl, ?_, rfl⟩
          intro other
          cases other with
          | x => rfl
          | y => rfl
        · simp only [if_neg x, if_neg y]
          exact ⟨trivial, trivial⟩

theorem table_still (device : Device) (m : MonomeDevmap) (table : device.FromTable m) (axis : Axis) : device.tilt axis = 0 := by
  obtain ⟨_, _, _, opened⟩ := table
  cases device with
  | mext self => exact opened.elim
  | series self =>
      cases axis with
      | x => exact opened.2.1
      | y => exact opened.2.2
  | m40h self =>
      cases axis with
      | x => exact opened.2.1
      | y => exact opened.2.2

def Paired (device : Device) : Prop := (∀ self, device ≠ mext self) ∧ DividesByNonzero device.monome

theorem paired_means (device : Device) (paired : device.Paired) (b0 b1 : UInt8) : device.Means b0 b1 := by
  cases device with
  | mext self => exact absurd rfl (paired.1 self)
  | series self => exact series_means self b0 b1
  | m40h self => exact m40h_means self b0 b1

theorem table_paired (device : Device) (m : MonomeDevmap) (table : device.FromTable m) : device.Paired := by
  obtain ⟨listed, cols, rows, opened⟩ := table
  have sized : ∀ m ∈ mapping, m.proto ≠ .mext → 0 < m.cols.toInt ∧ 0 < m.rows.toInt := by decide
  have serial : (∀ self, device ≠ mext self) ∧ m.proto ≠ .mext := by
    cases device with
    | mext self => exact opened.elim
    | series self => exact ⟨by simp, by rw [opened.1]; decide⟩
    | m40h self => exact ⟨by simp, by rw [opened.1]; decide⟩
  obtain ⟨wide, high⟩ := sized m listed serial.2
  have grid : HasGrid device.monome m.cols.toInt.toNat m.rows.toInt.toNat :=
    ⟨by rw [cols]; omega, by rw [rows]; omega⟩
  exact ⟨serial.1, grid_divides device.monome _ _ grid (by omega) (by omega)⟩

theorem pair_heading (device : Device) (b0 b1 : UInt8) : (device.after (.pair b0 b1)).heading = device.heading := by
  cases device with
  | mext self => rfl
  | series self => rfl
  | m40h self => rfl

theorem pair_reading (device : Device) (b0 b1 : UInt8) : (device.after (.pair b0 b1)).reading = device.reading := by
  cases device with
  | mext self => rfl
  | series self => rfl
  | m40h self => rfl

theorem pair_monome (device : Device) (paired : device.Paired) (b0 b1 : UInt8) :
    (device.after (.pair b0 b1)).monome = device.monome := by
  have means := paired_means device paired b0 b1
  rw [Means] at means
  cases heading : device.heading b0 with
  | key down =>
      rw [heading] at means
      rw [means.1]
  | tilt axis =>
      rw [heading] at means
      exact means.1
  | other =>
      rw [heading] at means
      rw [means.1]

theorem pair_paired (device : Device) (paired : device.Paired) (b0 b1 : UInt8) :
    (device.after (.pair b0 b1)).Paired := by
  refine ⟨?_, by rw [pair_monome device paired]; exact paired.2⟩
  cases device with
  | mext self => exact absurd rfl (paired.1 self)
  | series self => intro other; exact nofun
  | m40h self => intro other; exact nofun

def pairs (messages : List (UInt8 × UInt8)) : List Message := messages.map fun message => .pair message.1 message.2

theorem paired_run (device : Device) (paired : device.Paired) (messages : List (UInt8 × UInt8)) :
    (device.afterAll (pairs messages)).monome = device.monome ∧
      (device.afterAll (pairs messages)).heading = device.heading ∧
      (device.afterAll (pairs messages)).reading = device.reading ∧ (device.afterAll (pairs messages)).Paired := by
  induction messages generalizing device with
  | nil => exact ⟨rfl, rfl, rfl, paired⟩
  | cons message rest ih =>
      have later := ih (device.after (.pair message.1 message.2)) (pair_paired device paired _ _)
      rw [pair_monome device paired, pair_heading, pair_reading] at later
      exact later

theorem tilt_after (device : Device) (paired : device.Paired) (b0 b1 : UInt8) (axis : Axis) :
    (device.after (.pair b0 b1)).tilt axis =
      if device.heading b0 = .tilt axis then device.reading (b0, b1) else device.tilt axis := by
  have means := paired_means device paired b0 b1
  rw [Means] at means
  cases heading : device.heading b0 with
  | key down =>
      rw [heading] at means
      rw [means.1, if_neg (by simp)]
  | tilt moved =>
      rw [heading] at means
      rw [means.2.1 axis]
      simp
  | other =>
      rw [heading] at means
      rw [means.1, if_neg (by simp)]

theorem tilt_latest (device : Device) (paired : device.Paired) (messages : List (UInt8 × UInt8)) (axis : Axis)
    (still : device.tilt axis = 0) : (device.afterAll (pairs messages)).tilt axis = device.latest axis messages := by
  induction messages using List.reverseRecOn with
  | nil => exact still
  | append_singleton earlier message ih =>
      obtain ⟨_, heading, reading, paired'⟩ := paired_run device paired earlier
      have last : device.afterAll (pairs (earlier ++ [message])) =
          (device.afterAll (pairs earlier)).after (.pair message.1 message.2) := by
        simp only [pairs, afterAll, List.map_append, List.foldl_append, List.map_cons, List.map_nil, List.foldl_cons,
          List.foldl_nil]
      rw [last, tilt_after _ paired', heading, reading, ih, latest, latest, List.reverse_append, List.reverse_singleton,
        List.singleton_append]
      by_cases moved : device.heading message.1 = .tilt axis
      · rw [if_pos moved, List.find?_cons_of_pos (by simpa using moved)]
        rfl
      · rw [if_neg moved, List.find?_cons_of_neg (by simpa using moved)]

def pairSupply (messages : List (UInt8 × UInt8)) : List Supply :=
  messages.map fun message => .piece [message.1, message.2]

structure DecodedBy (device : Device) (earlier : List (UInt8 × UInt8)) (b0 b1 : UInt8) (next : NextEvent Device) : Prop where
  status : next.status = some (if device.heading b0 = .other then 0 else 1)
  key : ∀ down, device.heading b0 = .key down → ∃ x y,
    unrotateCoords device.monome (.ofNat (b1.toNat / 16)) (.ofNat (b1.toNat % 16)) = .ok (x, y) ∧
      next.event = keyEvent down x y ∧
      ∀ C R, HasGrid device.monome C R → InGrid C R (b1.toNat / 16, b1.toNat % 16) →
        outputCell device.monome (x.toNat, y.toNat) = (b1.toNat / 16, b1.toNat % 16)
  tilt : ∀ axis, device.heading b0 = .tilt axis → next.event = ⟨.tilt, .tilt 0
    (device.latest .x (earlier ++ [(b0, b1)])) (device.latest .y (earlier ++ [(b0, b1)])) 0⟩

section Fed

variable (P : Platform ω) (holds : ω → List Supply → Prop) (feeds : Feeds P holds) (fuel : Nat) (e : MonomeEvent) (w : ω)
include feeds

theorem pair_call [t : Target] (device : Device) (paired : device.Paired) (b0 b1 : UInt8) (more : List (UInt8 × UInt8))
    (queued : holds w (pairSupply ((b0, b1) :: more))) :
    ∃ w', device.nextEvent P fuel e w = .ok (⟨some (if (device.event (.pair b0 b1)).isSome then 1 else 0),
        device.after (.pair b0 b1), (device.event (.pair b0 b1)).getD e⟩, w') ∧ holds w' (pairSupply more) := by
  cases device with
  | mext self => exact absurd rfl (paired.1 self)
  | series self =>
      obtain ⟨read, left⟩ := pair_next_event_piece P holds feeds e w self (seriesSwitch self e) b0 b1 _ queued
      refine ⟨_, ?_, left⟩
      have nonzero : DividesByNonzero self.monome := paired.2
      rw [series_switched, if_pos fun _ => nonzero] at read
      exact io_bind_ok _ _ _ _ _ read
  | m40h self =>
      obtain ⟨read, left⟩ := pair_next_event_piece P holds feeds e w self (m40hSwitch self e) b0 b1 _ queued
      refine ⟨_, ?_, left⟩
      have nonzero : DividesByNonzero self.parent := paired.2
      rw [m40h_switched, if_pos fun _ => nonzero] at read
      exact io_bind_ok _ _ _ _ _ read

theorem pair_calls [t : Target] (device : Device) (paired : device.Paired) (before : List ((UInt8 × UInt8) × MonomeEvent))
    (more : List (UInt8 × UInt8)) (queued : holds w (pairSupply (before.map Prod.fst ++ more))) :
    ∃ results w', device.calls P fuel (before.map Prod.snd) w =
        .ok ((results, device.afterAll (pairs (before.map Prod.fst))), w') ∧ holds w' (pairSupply more) := by
  induction before generalizing device w with
  | nil => exact ⟨[], w, rfl, queued⟩
  | cons first rest ih =>
      obtain ⟨message, record⟩ := first
      obtain ⟨w', ran, left⟩ := pair_call P holds feeds fuel record w device paired message.1 message.2 _ queued
      obtain ⟨results, last, later, drained⟩ :=
        ih w' (device.after (.pair message.1 message.2)) (pair_paired device paired _ _) left
      exact ⟨_, last, (io_bind_ok _ _ _ _ _ ran).trans (io_bind_ok _ _ _ _ _ later), drained⟩

end Fed

theorem latest_after (device : Device) (paired : device.Paired) (still : ∀ axis, device.tilt axis = 0)
    (earlier : List (UInt8 × UInt8)) (b0 b1 : UInt8) (axis : Axis) :
    ((device.afterAll (pairs earlier)).after (.pair b0 b1)).tilt axis = device.latest axis (earlier ++ [(b0, b1)]) := by
  rw [← tilt_latest device paired (earlier ++ [(b0, b1)]) axis (still axis)]
  simp only [pairs, afterAll, List.map_append, List.foldl_append, List.map_cons, List.map_nil, List.foldl_cons,
    List.foldl_nil]

theorem key_named (monome : Monome) (nonzero : DividesByNonzero monome) (b1 : UInt8) : ∃ x y,
    unrotateCoords monome (.ofNat (b1.toNat / 16)) (.ofNat (b1.toNat % 16)) = .ok (x, y) ∧
      (x, y) = unrotated monome (.ofNat (b1.toNat / 16)) (.ofNat (b1.toNat % 16)) ∧
      ∀ C R, HasGrid monome C R → InGrid C R (b1.toNat / 16, b1.toNat % 16) →
        outputCell monome (x.toNat, y.toNat) = (b1.toNat / 16, b1.toNat % 16) := by
  have bound := b1.toNat_lt
  have left : (UInt32.ofNat (b1.toNat / 16)).toNat = b1.toNat / 16 := by
    rw [UInt32.toNat_ofNat', Nat.mod_eq_of_lt (by omega)]
  have up : (UInt32.ofNat (b1.toNat % 16)).toNat = b1.toNat % 16 := by
    rw [UInt32.toNat_ofNat', Nat.mod_eq_of_lt (by omega)]
  have known := unrotate_coords_ok monome (.ofNat (b1.toNat / 16)) (.ofNat (b1.toNat % 16)) nonzero
  generalize unrotated monome (.ofNat (b1.toNat / 16)) (.ofNat (b1.toNat % 16)) = key at known ⊢
  refine ⟨key.1, key.2, known, rfl, ?_⟩
  intro C R grid inside
  rw [← left, ← up] at inside
  obtain ⟨x, y, unturned, same⟩ := unrotate_coords_in_grid monome C R grid _ _ inside
  rw [known] at unturned
  have named := unturn_in_grid monome.rotation C R _ inside
  rw [← same] at named
  rw [Except.ok.inj unturned, output_cell_turns monome C R grid _ ((logical_cell_in_grid monome C R grid _).mpr named), same,
    turn_unturn monome.rotation C R _ inside, left, up]

theorem decoded_by [t : Target] (device : Device) (paired : device.Paired) (still : ∀ axis, device.tilt axis = 0)
    (earlier : List (UInt8 × UInt8)) (b0 b1 : UInt8) (e : MonomeEvent) (now : Device)
    (reached : device.afterAll (pairs earlier) = now) :
    DecodedBy device earlier b0 b1 ⟨some (if (now.event (.pair b0 b1)).isSome then 1 else 0), now.after (.pair b0 b1),
      (now.event (.pair b0 b1)).getD e⟩ := by
  obtain ⟨monome, heading, _, paired'⟩ := paired_run device paired earlier
  have values := latest_after device paired still earlier b0 b1
  rw [reached] at monome heading paired' values
  have means := paired_means now paired' b0 b1
  rw [Means, heading, monome] at means
  rw [pair_event]
  cases kind : device.heading b0 with
  | key down =>
      rw [kind] at means
      obtain ⟨x, y, ok, same, named⟩ := key_named device.monome paired.2 b1
      refine ⟨?_, ?_, ?_⟩
      · rw [kind, means.2]
        rfl
      · intro down' same'
        rw [kind] at same'
        cases same'
        refine ⟨x, y, ok, ?_, named⟩
        rw [means.2, ← same]
        rfl
      · intro axis tilted
        rw [kind] at tilted
        cases tilted
  | tilt axis =>
      rw [kind] at means
      refine ⟨?_, ?_, ?_⟩
      · rw [kind, means.2.2]
        rfl
      · intro down pressed
        rw [kind] at pressed
        cases pressed
      · intro axis' _
        rw [means.2.2, ← values, ← values]
        rfl
  | other =>
      rw [kind] at means
      refine ⟨?_, ?_, ?_⟩
      · rw [kind, means.2]
        rfl
      · intro down pressed
        rw [kind] at pressed
        cases pressed
      · intro axis tilted
        rw [kind] at tilted
        cases tilted

end Device

theorem messages_decoded [t : Target] (P : Platform ω) (holds : ω → List Supply → Prop) (feeds : Feeds P holds)
    (device : Device) (m : MonomeDevmap) (table : device.FromTable m) (before : List ((UInt8 × UInt8) × MonomeEvent))
    (b0 b1 : UInt8) (e : MonomeEvent) (rest : List (UInt8 × UInt8)) (fuel : Nat) (w : ω)
    (queued : holds w (Device.pairSupply (before.map Prod.fst ++ (b0, b1) :: rest))) :
    ∃ results now w' next w'', device.calls P fuel (before.map Prod.snd) w = .ok ((results, now), w') ∧
      holds w' (Device.pairSupply ((b0, b1) :: rest)) ∧ now.nextEvent P fuel e w' = .ok (next, w'') ∧
      holds w'' (Device.pairSupply rest) ∧ Device.DecodedBy device (before.map Prod.fst) b0 b1 next := by
  have paired := Device.table_paired device m table
  obtain ⟨results, w', ran, left⟩ := Device.pair_calls P holds feeds fuel w device paired before ((b0, b1) :: rest) queued
  obtain ⟨_, _, _, paired'⟩ := Device.paired_run device paired (before.map Prod.fst)
  obtain ⟨w'', taken, after⟩ := Device.pair_call P holds feeds fuel e w' _ paired' b0 b1 rest left
  exact ⟨results, _, w', _, w'', ran, left, taken, after,
    Device.decoded_by device paired (Device.table_still device m table) (before.map Prod.fst) b0 b1 e _ rfl⟩

theorem messages_decoded_40h : ∃ now w' next w'',
    Device.nextEvent (t := ⟨true, false⟩) link 0 (keyEvent false 0 0) now w' = .ok (next, w'') ∧
      next.status = some 1 ∧ next.event = ⟨.tilt, .tilt 0 64 32 0⟩ ∧ Cut Link.incoming w'' [.piece [0x00, 0x23]] := by
  obtain ⟨_, now, w', next, w'', _, _, taken, left, decoded⟩ := messages_decoded (t := ⟨true, false⟩) link
    (Cut Link.incoming) (delivers_feeds link Link.incoming link_delivers) (.m40h ⟨⟨8, 8, .rotate180, none, .unset⟩, 0, 0⟩)
    ⟨"m40h%d", .m40h, 8, 8, "monome 40h", false⟩ ⟨by decide, rfl, rfl, rfl, rfl, rfl⟩
    [((0x11, 0x00), keyEvent false 0 0), ((0x01, 0x23), keyEvent false 0 0)] 0x14 0x80 (keyEvent false 0 0) [(0x00, 0x23)] 0
    ⟨[0x11, 0x00, 0x01, 0x23, 0x14, 0x80, 0x00, 0x23], []⟩ ⟨by decide, rfl⟩
  exact ⟨now, w', next, w'', taken, decoded.status, decoded.tilt .y rfl, left⟩

end Libmonome
