import Libmonome.Mext.Open
import Libmonome.Watching

set_option autoImplicit false

namespace Libmonome

open Shadow

variable {ω : Type}

inductive MextStep where
  | setRotation (rotation : UInt32)
  | receive (frame : Frame) (old : MextMsg) (e : MonomeEvent)

structure Received where
  before : Mext
  msg : MextMsg
  handled : Handled

def mextTurn (self : Mext) (rotation : UInt32) : Mext := { self with monome := monomeSetRotation self.monome rotation }

def mextRun [t : Target] : Mext → List MextStep → Except Fault (List Received)
  | _, [] => .ok []
  | self, .setRotation rotation :: rest => mextRun (mextTurn self rotation) rest
  | self, .receive frame old e :: rest => do
      let h ← subsystemEventHandlers (frame.over old).addr self (frame.over old) e
      let later ← mextRun h.self rest
      return ⟨self, frame.over old, h⟩ :: later

def KeysDivide : Mext → List MextStep → Prop
  | _, [] => True
  | self, .setRotation rotation :: rest => KeysDivide (mextTurn self rotation) rest
  | self, .receive frame _ _ :: rest =>
      (frame.header >>> 4 = ssKeyGrid → DividesByNonzero self.monome) ∧ KeysDivide (frameSelf self frame) rest

def Sized (monome : Monome) : Prop :=
  (0 ≤ monome.cols.toInt ∧ monome.cols.toInt < 256) ∧ 0 ≤ monome.rows.toInt ∧ monome.rows.toInt < 256

theorem byte_extent (b : UInt8) : b.toUInt32.toInt32.toInt = b.toNat := by
  have bound := b.toNat_lt
  rw [uint_as_int, UInt8.toNat_toUInt32, Int32.toInt_ofNat_of_lt (by omega)]

theorem frame_sized (self : Mext) (frame : Frame) (sized : Sized self.monome) : Sized (frameSelf self frame).monome := by
  have first := (frame.payload.getD 0 0).toNat_lt
  have second := (frame.payload.getD 1 0).toNat_lt
  rw [frameSelf]
  split
  · exact sized
  · split
    · exact sized
    · split
      · simp only [Sized, byte_extent]
        omega
      · exact sized

theorem frames_sized (self : Mext) (frames : List Frame) (sized : Sized self.monome) :
    Sized (framesSelf self frames).monome := by
  induction frames generalizing self with
  | nil => exact sized
  | cons frame rest ih => exact ih (frameSelf self frame) (frame_sized self frame sized)

theorem opened_sized [t : Target] (P : Platform ω) (fuel : Nat) (e : MonomeEvent) (dev : String) (serial : Option String)
    (m : MonomeDevmap) (w w' : ω) (opened : MextOpened)
    (run : mextOpen P fuel mextNew e dev serial m w = .ok (opened, w')) : Sized opened.self.monome := by
  have watched := shadows_open (logged P) P Prod.fst (logged_watches P) fuel mextNew e dev serial m
  obtain ⟨s', ran, _⟩ := shadows_run Prod.fst _ _ watched (w, []) opened w' run
  obtain ⟨result, last, log, first, same, origin, finished⟩ := mext_open_run P fuel e dev serial m w
  rw [ran] at same
  cases same
  rw [finished.object]
  have none : (0 ≤ (0 : Int32).toInt ∧ (0 : Int32).toInt < 256) ∧ 0 ≤ (0 : Int32).toInt ∧ (0 : Int32).toInt < 256 := by
    decide
  apply frames_sized
  rcases origin with is | is
  · rw [is]
    exact none
  · rw [is]
    exact none

theorem sized_extents (monome : Monome) (sized : Sized monome) :
    (0 ≤ (monomeGetCols monome).toInt ∧ (monomeGetCols monome).toInt < 256) ∧
      0 ≤ (monomeGetRows monome).toInt ∧ (monomeGetRows monome).toInt < 256 := by
  rw [get_cols_swaps, get_rows_swaps]
  cases monome.rotation.swaps
  · exact sized
  · exact ⟨sized.2, sized.1⟩

def InOrder (extent : Int32) (raw0 raw1 : UInt8) (coordinate : UInt32) : Prop :=
  ((coordinate.toNat : Int) < extent.toInt ∨ coordinate = raw0.toUInt32 ∨ coordinate = raw1.toUInt32) ∧ coordinate.toNat < 256

theorem in_order (extent : Int32) (raw0 raw1 : UInt8) (coordinate : UInt32) (bounds : 0 ≤ extent.toInt ∧ extent.toInt < 256)
    (bounded : coordinate < extent.toUInt32 ∨ coordinate = raw0.toUInt32 ∨ coordinate = raw1.toUInt32) :
    InOrder extent raw0 raw1 coordinate := by
  have first := raw0.toNat_lt
  have second := raw1.toNat_lt
  rcases bounded with below | raw | raw
  · have less := UInt32.lt_iff_toNat_lt.mp below
    have value := int_as_uint extent extent.toInt.toNat (by omega)
    exact ⟨.inl (by omega), by omega⟩
  · rw [raw]
    exact ⟨.inr (.inl rfl), by rw [UInt8.toNat_toUInt32]; omega⟩
  · rw [raw]
    exact ⟨.inr (.inr rfl), by rw [UInt8.toNat_toUInt32]; omega⟩

def KeyInOrder (r : Received) : Prop :=
  ∃ x y, r.handled.event = ⟨if r.msg.cmd = cmdKeyDown then .buttonDown else .buttonUp, .grid x y⟩ ∧
    InOrder (monomeGetCols r.before.monome) (r.msg.byte 0) (r.msg.byte 1) x ∧
    InOrder (monomeGetRows r.before.monome) (r.msg.byte 0) (r.msg.byte 1) y

theorem key_in_order [t : Target] (self : Mext) (e : MonomeEvent) (old : MextMsg) (frame : Frame) (h : Handled)
    (sized : Sized self.monome) (handled : subsystemEventHandlers (frame.over old).addr self (frame.over old) e = .ok h)
    (key : frame.header >>> 4 = ssKeyGrid) (divides : DividesByNonzero self.monome) : KeyInOrder ⟨self, frame.over old, h⟩ := by
  rw [over_addr, key] at handled
  have pressed : mextHandlerKeyGrid self (frame.over old) e = .ok h := handled
  rw [mextHandlerKeyGrid, unrotate_coords_ok _ _ _ divides] at pressed
  cases pressed
  obtain ⟨cols, rows⟩ := sized_extents self.monome sized
  obtain ⟨left, up⟩ := unrotated_bounded self.monome ((frame.over old).byte 0).toUInt32 ((frame.over old).byte 1).toUInt32 divides
  exact ⟨_, _, rfl, in_order _ _ _ _ cols left, in_order _ _ _ _ rows up⟩

theorem run_divides [t : Target] (self : Mext) (steps : List MextStep) (sized : Sized self.monome)
    (divide : KeysDivide self steps) :
    ∃ received, mextRun self steps = .ok received ∧ ∀ r ∈ received, r.msg.addr = ssKeyGrid → KeyInOrder r := by
  induction steps generalizing self with
  | nil => exact ⟨[], rfl, fun _ member => absurd member List.not_mem_nil⟩
  | cons step rest ih =>
      cases step with
      | setRotation rotation => exact ih (mextTurn self rotation) sized divide
      | receive frame old e =>
          obtain ⟨h, handled⟩ := frame_handled_defined self e old frame divide.1
          have after := (frame_handled_any self e old frame h handled).1
          obtain ⟨later, ran, inOrder⟩ := ih h.self (by rw [after]; exact frame_sized self frame sized)
            (by rw [after]; exact divide.2)
          refine ⟨⟨self, frame.over old, h⟩ :: later, ?_, ?_⟩
          · rw [mextRun, handled]
            show (mextRun h.self rest >>= fun later => _) = _
            rw [ran]
            rfl
          · intro r member addr
            rcases List.mem_cons.mp member with same | among
            · rw [same] at addr ⊢
              exact key_in_order self e old frame h sized handled addr (divide.1 addr)
            · exact inOrder r among addr

theorem run_only_divides [t : Target] (self : Mext) (steps : List MextStep) (received : List Received)
    (ran : mextRun self steps = .ok received) : KeysDivide self steps := by
  induction steps generalizing self received with
  | nil => trivial
  | cons step rest ih =>
      cases step with
      | setRotation rotation => exact ih (mextTurn self rotation) received ran
      | receive frame old e =>
          rw [mextRun] at ran
          cases handled : subsystemEventHandlers (frame.over old).addr self (frame.over old) e with
          | error fault =>
              rw [handled] at ran
              cases ran
          | ok h =>
              rw [handled] at ran
              have on : (mextRun h.self rest >>= fun later => Except.ok (⟨self, frame.over old, h⟩ :: later)) = .ok received := ran
              cases later : mextRun h.self rest with
              | error fault =>
                  rw [later] at on
                  cases on
              | ok more =>
                  refine ⟨fun key => ?_, ?_⟩
                  · by_contra zero
                    rw [over_addr, key] at handled
                    have pressed : mextHandlerKeyGrid self (frame.over old) e = .ok h := handled
                    rw [mextHandlerKeyGrid, unrotate_coords_fault _ _ _ zero] at pressed
                    cases pressed
                  · rw [← (frame_handled_any self e old frame h handled).1]
                    exact ih h.self more later

theorem mext_keys_defined_iff [t : Target] (P : Platform ω) (fuel : Nat) (e : MonomeEvent) (dev : String)
    (serial : Option String) (m : MonomeDevmap) (w w' : ω) (self : Mext)
    (opened : mextOpen P fuel mextNew e dev serial m w = .ok (⟨some 0, self⟩, w')) (steps : List MextStep) :
    (∃ received, mextRun self steps = .ok received ∧ ∀ r ∈ received, r.msg.addr = ssKeyGrid → KeyInOrder r) ↔
      KeysDivide self steps := by
  have sized := opened_sized P fuel e dev serial m w w' ⟨some 0, self⟩ opened
  constructor
  · rintro ⟨received, ran, _⟩
    exact run_only_divides self steps received ran
  · exact run_divides self steps sized

def answers (cols rows : UInt8) : List UInt8 := [0x00, 0, 0] ++ (0x01 :: List.replicate 32 0) ++ [0x03, cols, rows]

def plainDevmap : MonomeDevmap := ⟨"m%d", .mext, 0, 0, "monome", false⟩

def answeredMext (cols rows : Int32) : Mext := ⟨⟨rows, cols, .rotate0, none, .selfId⟩, 0, List.replicate 33 0⟩

theorem mext_keys_defined_grid :
    mextRun (t := ⟨true, false⟩) (answeredMext 16 8)
      [.setRotation 1, .receive ⟨0x21, [1, 2], rfl⟩ (.fresh 0 0) (keyEvent false 0 0)] ≠ .error .divisionByZero := by
  have opened : mextOpen (t := ⟨true, false⟩) link 8 mextNew (keyEvent false 0 0) "" none plainDevmap
      ⟨answers 16 8, []⟩ = .ok (⟨some 0, answeredMext 16 8⟩, ⟨[], [[0x00], [0x01], [0x05]]⟩) := by decide +kernel
  obtain ⟨received, ran, _⟩ := (mext_keys_defined_iff (t := ⟨true, false⟩) link 8 (keyEvent false 0 0) "" none plainDevmap
    ⟨answers 16 8, []⟩ _ (answeredMext 16 8) opened
    [.setRotation 1, .receive ⟨0x21, [1, 2], rfl⟩ (.fresh 0 0) (keyEvent false 0 0)]).mpr
      ⟨fun _ => by decide, trivial⟩
  rw [ran]
  exact fun same => by cases same

-- An arc reports a grid of 0x0; turned by a quarter, a key frame divides by 0.
theorem arc_key_divides_by_zero :
    mextOpen (t := ⟨true, false⟩) link 8 mextNew (keyEvent false 0 0) "" none plainDevmap ⟨answers 0 0, []⟩ =
        .ok (⟨some 0, answeredMext 0 0⟩, ⟨[], [[0x00], [0x01], [0x05]]⟩) ∧
      mextRun (t := ⟨true, false⟩) (answeredMext 0 0)
        [.setRotation 1, .receive ⟨0x21, [0, 0], rfl⟩ (.fresh 0 0) (keyEvent false 0 0)] =
        .error .divisionByZero := ⟨by decide +kernel, rfl⟩

end Libmonome
