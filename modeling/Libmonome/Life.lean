import Libmonome.Lib.Life
import Libmonome.Lib.Display
import Libmonome.OscPackets

set_option autoImplicit false

namespace Libmonome

-- life.c. Places are by x and y, and the indices of a place's neighbors wrap
-- around as unsigned ones do.
abbrev Place := Fin 16 × Fin 16

structure Cell where
  alive : UInt32
  modNext : UInt32
  neighbors : List Place
  nnum : UInt32

abbrev LifeWorld := Vector (Vector Cell 16) 16

def LifeWorld.cell (world : LifeWorld) (place : Place) : Cell := (Vector.get world place.1).get place.2

def LifeWorld.put (world : LifeWorld) (place : Place) (c : Cell) : LifeWorld :=
  Vector.set world place.1 ((Vector.get world place.1).set place.2 c)

def wrapped (i : UInt32) : Fin 16 := Fin.ofNat 16 (i % 16).toNat

def neighborsOf (place : Place) : List Place :=
  let x := UInt32.ofNat place.1.val
  let y := UInt32.ofNat place.2.val
  [(wrapped (x - 1), wrapped (y - 1)), (wrapped (x - 1), wrapped (y + 1)), (wrapped (x - 1), place.2),
   (wrapped (x + 1), wrapped (y - 1)), (wrapped (x + 1), wrapped (y + 1)), (wrapped (x + 1), place.2),
   (place.1, wrapped (y - 1)), (place.1, wrapped (y + 1))]

def initWorld : LifeWorld := Vector.ofFn fun x => Vector.ofFn fun y => ⟨0, 0, neighborsOf (x, y), 0⟩

def modNeighbors (world : LifeWorld) (place : Place) (delta : Int32) : LifeWorld :=
  (world.cell place).neighbors.foldl
    (fun world n => world.put n { world.cell n with nnum := (world.cell n).nnum + delta.toUInt32 }) world

def LifeWorld.turned (world : LifeWorld) (place : Place) (alive : UInt32) (delta : Int32) : LifeWorld :=
  modNeighbors (world.put place { world.cell place with alive := alive }) place delta

structure OscLine where
  finds : List (Option (List OscMessage))
  sent : List OscMessage

def lifeServer : LibloServer (OscLine × LifeWorld) where
  takePacket s := (s.1.finds.head?.join, ({ s.1 with finds := s.1.finds.tail }, s.2))

def lifeOutgoing : Liblo (OscLine × LifeWorld) where
  sendFrom message s := (0, { s.1 with sent := s.1.sent ++ [message] }, s.2)
  recvNoblock s := (none, s)

section Program

variable (self : MonomeOsc) (junk : OscLine → MonomeEvent)

-- handle_press, called on key events only.
def lifeHandlePress (e : MonomeEvent) : Io (OscLine × LifeWorld) Unit :=
  match e.payload with
  | .grid x y =>
      if inside : x.toNat < 16 ∧ y.toNat < 16 then
        Io.call fun s =>
          let place := boardCell x y inside
          ((), s.1, s.2.put place { s.2.cell place with modNext := 1 })
      else
        Io.check (.error .outOfBounds)
  | _ => return ()

-- monome_event_handle_next with the one handler the program registers. junk is
-- what lies where the call has its event record.
def lifeEventHandleNext : Io (OscLine × LifeWorld) Int32 := do
  let e ← Io.call fun s => (junk s.1, s)
  let next ← protoOscNextEvent lifeServer self e
  let status := next.status.getD 0
  if status ≤ 0 then
    return status
  else
    match next.event.eventType with
    | .buttonDown => do
        lifeHandlePress next.event
        return 1
    | _ => return 0

def handlePresses : Nat → Io (OscLine × LifeWorld) Bool
  | 0 => return false
  | fuel + 1 => do
      let handled ← lifeEventHandleNext self junk
      if handled ≠ 0 then
        handlePresses fuel
      else
        return true

def handleDue (fuel : Nat) (tick : Int32) : Io (OscLine × LifeWorld) Bool :=
  if tick = 0 then handlePresses self junk fuel else return true

def places : List Place := (List.finRange 16).flatMap fun x => (List.finRange 16).map fun y => (x, y)

def modCell (place : Place) : Io (OscLine × LifeWorld) Unit := do
  let c ← Io.call fun s => (s.2.cell place, s)
  if c.modNext ≠ 0 then
    if c.alive ≠ 0 then
      Io.call fun s => ((), s.1, s.2.turned place 0 (-1))
      let _ ← protoOscLedSet lifeOutgoing self (.ofNat place.1.val) (.ofNat place.2.val) 0
    else
      Io.call fun s => ((), s.1, s.2.turned place 1 1)
      let _ ← protoOscLedSet lifeOutgoing self (.ofNat place.1.val) (.ofNat place.2.val) 1
    Io.call fun s => ((), s.1, s.2.put place { s.2.cell place with modNext := 0 })
  else
    return ()

def modCells : List Place → Io (OscLine × LifeWorld) Unit
  | [] => return ()
  | place :: rest => do
      modCell self place
      modCells rest

-- The body of the second, which says what is to change next. A cell with three
-- neighbors falls through to the break of one with two.
def nextCell (world : LifeWorld) (place : Place) : LifeWorld :=
  let c := world.cell place
  if c.nnum = 3 then
    if c.alive = 0 then world.put place { c with modNext := 1 } else world
  else if c.nnum = 2 then world
  else if c.alive ≠ 0 then world.put place { c with modNext := 1 }
  else world

def lifeTurn (fuel : Nat) (tick : Int32) : Io (OscLine × LifeWorld) (Bool × Int32) := do
  let tick := (tick + 1) % 3
  let ended ← handleDue self junk fuel tick
  modCells self places
  Io.call fun s => ((), s.1, places.foldl nextCell s.2)
  return (ended, tick)

def lifeTurns (fuel : Nat) : Nat → Int32 → Io (OscLine × LifeWorld) (Bool × Int32)
  | 0, tick => return (true, tick)
  | turns + 1, tick => do
      let turn ← lifeTurn self junk fuel tick
      let later ← lifeTurns fuel turns turn.2
      return (turn.1 && later.1, later.2)

def life (fuel turns : Nat) : Io (OscLine × LifeWorld) (Bool × Int32) := do
  Io.call fun s => ((), s.1, initWorld)
  let _ ← protoOscLedAll lifeOutgoing self 0
  lifeTurns self junk fuel turns 0

end Program

theorem cell_put (world : LifeWorld) (place other : Place) (c : Cell) :
    (world.put place c).cell other = if other = place then c else world.cell other := by
  obtain ⟨x, y⟩ := place
  obtain ⟨u, v⟩ := other
  simp only [LifeWorld.cell, LifeWorld.put, Vector.get_eq_getElem, Vector.getElem_set, Prod.mk.injEq, ← Fin.val_inj]
  by_cases row : x.val = u.val
  · by_cases column : y.val = v.val
    · simp [row, column]
    · simp [row, column, Ne.symm column]
  · simp [row, Ne.symm row]

def eightAround : Finset Place := (({-1, 0, 1} : Finset (Fin 16)) ×ˢ {-1, 0, 1}).erase 0

def offsets : List Place := [(-1, -1), (-1, 1), (-1, 0), (1, -1), (1, 1), (1, 0), (0, -1), (0, 1)]

theorem wrapped_back : ∀ i : Fin 16, wrapped (UInt32.ofNat i.val - 1) = i + -1 := by decide
theorem wrapped_on : ∀ i : Fin 16, wrapped (UInt32.ofNat i.val + 1) = i + 1 := by decide

theorem neighbors_offsets (place : Place) : neighborsOf place = offsets.map (place + ·) := by
  obtain ⟨x, y⟩ := place
  simp only [neighborsOf, wrapped_back, wrapped_on, offsets, List.map_cons, List.map_nil, Prod.mk_add_mk, add_zero]

theorem offsets_around : offsets.toFinset = eightAround := by decide
theorem offsets_apart : offsets.Nodup := by decide

theorem neighbors_around (place : Place) :
    (neighborsOf place).Nodup ∧ ∀ u, u ∈ neighborsOf place ↔ u - place ∈ eightAround := by
  rw [neighbors_offsets, ← offsets_around]
  refine ⟨offsets_apart.map (add_right_injective place), fun u => ?_⟩
  rw [List.mem_toFinset, List.mem_map]
  constructor
  · rintro ⟨d, member, rfl⟩
    rwa [add_sub_cancel_left]
  · exact fun member => ⟨_, member, add_sub_cancel place u⟩

theorem offsets_symm : ∀ d ∈ offsets, -d ∈ offsets := by decide +kernel

theorem around_symm (p place : Place) : p - place ∈ eightAround ↔ place - p ∈ eightAround := by
  have back : ∀ d ∈ eightAround, -d ∈ eightAround := by
    intro d member
    rw [← offsets_around, List.mem_toFinset] at member ⊢
    exact offsets_symm d member
  refine ⟨fun member => ?_, fun member => ?_⟩
  · rw [← neg_sub]
    exact back _ member
  · rw [← neg_sub]
    exact back _ member

structure BoardOf (world : LifeWorld) (alive due : Place → Bool) : Prop where
  neighbors : ∀ p, (world.cell p).neighbors = neighborsOf p
  lives : ∀ p, (world.cell p).alive = if alive p then 1 else 0
  changes : ∀ p, (world.cell p).modNext = if due p then 1 else 0
  counted : ∀ p, (world.cell p).nnum = .ofNat (Life.living eightAround alive p)

theorem bumped (l : List Place) (apart : l.Nodup) (delta : UInt32) (world : LifeWorld) (p : Place) :
    (l.foldl (fun world n => world.put n { world.cell n with nnum := (world.cell n).nnum + delta }) world).cell p =
      if p ∈ l then { world.cell p with nnum := (world.cell p).nnum + delta } else world.cell p := by
  induction l generalizing world with
  | nil => rfl
  | cons n rest ih =>
      obtain ⟨fresh, later⟩ := List.nodup_cons.mp apart
      rw [List.foldl_cons, ih later, cell_put]
      by_cases same : p = n
      · subst same
        rw [if_neg fresh, if_pos rfl, if_pos List.mem_cons_self]
      · rw [if_neg same]
        simp only [List.mem_cons, same, false_or]

section Worlds

variable (world : LifeWorld) (alive due : Place → Bool) (holds : BoardOf world alive due)
include holds

theorem turned_cell (place p : Place) (value : UInt32) (delta : Int32) : (world.turned place value delta).cell p =
    ⟨if p = place then value else (world.cell p).alive, (world.cell p).modNext, neighborsOf p,
      if p - place ∈ eightAround then (world.cell p).nnum + delta.toUInt32 else (world.cell p).nnum⟩ := by
  obtain ⟨apart, around⟩ := neighbors_around place
  have listed : ((world.put place { world.cell place with alive := value }).cell place).neighbors = neighborsOf place := by
    rw [cell_put, if_pos rfl]
    exact holds.neighbors place
  rw [LifeWorld.turned, modNeighbors, listed, bumped _ apart, cell_put, ← holds.neighbors p]
  by_cases near : p - place ∈ eightAround
  · rw [if_pos ((around p).mpr near), if_pos near]
    by_cases same : p = place
    · rw [if_pos same, if_pos same, same]
    · rw [if_neg same, if_neg same]
  · rw [if_neg fun member => near ((around p).mp member), if_neg near]
    by_cases same : p = place
    · rw [if_pos same, if_pos same, same]
    · rw [if_neg same, if_neg same]

theorem turned_holds (place : Place) (value : UInt32) (delta : Int32)
    (turn : alive place = true ∧ value = 0 ∧ delta = -1 ∨ alive place = false ∧ value = 1 ∧ delta = 1) :
    BoardOf (world.turned place value delta) (Function.update alive place (! alive place)) due := by
  refine ⟨fun p => ?_, fun p => ?_, fun p => ?_, fun p => ?_⟩
  · rw [turned_cell world alive due holds]
  · rw [turned_cell world alive due holds]
    by_cases same : p = place
    · rw [if_pos same, same, Function.update_self]
      obtain ⟨was, rfl, -⟩ | ⟨was, rfl, -⟩ := turn
      · rw [was]
        rfl
      · rw [was]
        rfl
    · rw [if_neg same, Function.update_of_ne same]
      exact holds.lives p
  · rw [turned_cell world alive due holds]
    exact holds.changes p
  · rw [turned_cell world alive due holds, holds.counted p]
    by_cases near : p - place ∈ eightAround
    · have back := (around_symm p place).mp near
      rw [if_pos near]
      obtain ⟨was, -, rfl⟩ | ⟨was, -, rfl⟩ := turn
      · rw [was, Bool.not_true, ← Life.living_died eightAround alive place p was back, UInt32.ofNat_add]
        have none : UInt32.ofNat 1 + (-1 : Int32).toUInt32 = 0 := by decide
        rw [UInt32.add_assoc, none, UInt32.add_zero]
      · rw [was, Bool.not_false, Life.living_born eightAround alive place p was back, UInt32.ofNat_add]
        rfl
    · rw [if_neg near, Life.living_far eightAround alive place p _ fun back => near ((around_symm p place).mpr back)]

theorem noted_holds (place : Place) (value : Bool) : BoardOf (world.put place { world.cell place with modNext := if value then 1 else 0 })
    alive (Function.update due place value) := by
  have cells (p : Place) : (world.put place { world.cell place with modNext := if value then 1 else 0 }).cell p =
      { world.cell p with modNext := if p = place then (if value then 1 else 0) else (world.cell p).modNext } := by
    rw [cell_put]
    by_cases same : p = place
    · rw [if_pos same, if_pos same, same]
    · rw [if_neg same, if_neg same]
  refine ⟨fun p => ?_, fun p => ?_, fun p => ?_, fun p => ?_⟩
  · rw [cells]
    exact holds.neighbors p
  · rw [cells]
    exact holds.lives p
  · rw [cells]
    by_cases same : p = place
    · rw [if_pos same, same, Function.update_self]
    · rw [if_neg same, Function.update_of_ne same]
      exact holds.changes p
  · rw [cells]
    exact holds.counted p

theorem next_cell_changes (place : Place) : nextCell world place =
    if Life.changes eightAround alive place then world.put place { world.cell place with modNext := 1 } else world := by
  have few : Life.living eightAround alive place < 2 ^ 32 :=
    Nat.lt_of_le_of_lt (Life.living_few eightAround alive place) (by decide)
  have number (n : Nat) (small : n < 2 ^ 32) : (world.cell place).nnum = .ofNat n ↔ Life.living eightAround alive place = n := by
    rw [holds.counted place, ← UInt32.toNat_inj, UInt32.toNat_ofNat', UInt32.toNat_ofNat', Nat.mod_eq_of_lt few,
      Nat.mod_eq_of_lt small]
  have three : (world.cell place).nnum = 3 ↔ Life.living eightAround alive place = 3 := number 3 (by decide)
  have two : (world.cell place).nnum = 2 ↔ Life.living eightAround alive place = 2 := number 2 (by decide)
  have dead : (world.cell place).alive = 0 ↔ alive place = false := by
    rw [holds.lives place]
    cases alive place <;> decide
  simp only [nextCell, three, two, dead, ne_eq, Life.changes, Life.next]
  by_cases many : Life.living eightAround alive place = 3
  · by_cases was : alive place = true <;> simp [many, was]
  · by_cases pair : Life.living eightAround alive place = 2
    · by_cases was : alive place = true <;> simp [pair, was]
    · by_cases was : alive place = true <;> simp [many, pair, was]

theorem next_cell_holds (place : Place) :
    BoardOf (nextCell world place) alive (Function.update due place (due place || Life.changes eightAround alive place)) := by
  rw [next_cell_changes world alive due holds]
  cases Life.changes eightAround alive place with
  | false =>
      rw [Bool.or_false, Function.update_eq_self]
      exact holds
  | true =>
      rw [Bool.or_true]
      exact noted_holds world alive due holds place true

end Worlds

section Turns

variable (self : MonomeOsc)

def ledMessage (place : Place) (lit : Bool) : OscMessage :=
  ⟨self.ledSetStr, "iii", [(UInt32.ofNat place.1.val).toInt32, (UInt32.ofNat place.2.val).toInt32, if lit then 1 else 0]⟩

theorem mod_cell_done (place : Place) (world : LifeWorld) (alive due : Place → Bool) (holds : BoardOf world alive due)
    (finds : List (Option (List OscMessage))) (sent : List OscMessage) : ∃ world',
      modCell self place (⟨finds, sent⟩, world) = .ok ((), (⟨finds, sent ++ if due place then
        [ledMessage self place (! alive place)] else []⟩, world')) ∧
      BoardOf world' (Function.update alive place (alive place != due place)) (Function.update due place false) := by
  have lives := holds.lives place
  have changes := holds.changes place
  rw [modCell, io_call_bind]
  simp only
  cases is : due place with
  | false =>
      rw [is] at changes
      refine ⟨world, ?_, ?_⟩
      · rw [changes, if_neg (by decide), if_neg (by decide), List.append_nil]
        rfl
      · rw [Bool.bne_false, Function.update_eq_self, ← is, Function.update_eq_self]
        exact holds
  | true =>
      rw [is] at changes
      rw [changes, if_pos (by decide)]
      cases was : alive place with
      | false =>
          rw [was] at lives
          refine ⟨(world.turned place 1 1).put place { (world.turned place 1 1).cell place with modNext := 0 }, ?_, ?_⟩
          · rw [lives, if_neg (by decide)]
            rfl
          · have turned := turned_holds world alive due holds place 1 1 (.inr ⟨was, rfl, rfl⟩)
            have done := noted_holds _ _ _ turned place false
            rw [was] at done
            exact done
      | true =>
          rw [was] at lives
          refine ⟨(world.turned place 0 (-1)).put place { (world.turned place 0 (-1)).cell place with modNext := 0 }, ?_, ?_⟩
          · rw [lives, if_pos (by decide)]
            rfl
          · have turned := turned_holds world alive due holds place 0 (-1) (.inl ⟨was, rfl, rfl⟩)
            have done := noted_holds _ _ _ turned place false
            rw [was] at done
            exact done

theorem mod_cells_done (todo : List Place) (apart : todo.Nodup) (world : LifeWorld) (alive due : Place → Bool)
    (holds : BoardOf world alive due) (finds : List (Option (List OscMessage))) (sent : List OscMessage) : ∃ world',
      modCells self todo (⟨finds, sent⟩, world) =
        .ok ((), (⟨finds, sent ++ (todo.filter due).map fun p => ledMessage self p (! alive p)⟩, world')) ∧
      BoardOf world' (fun p => alive p != (decide (p ∈ todo) && due p)) (fun p => due p && ! decide (p ∈ todo)) := by
  induction todo generalizing world alive due sent with
  | nil =>
      refine ⟨world, by rw [List.filter_nil, List.map_nil, List.append_nil]; rfl, ?_⟩
      simpa using holds
  | cons place rest ih =>
      obtain ⟨fresh, later⟩ := List.nodup_cons.mp apart
      obtain ⟨middle, ran, now⟩ := mod_cell_done self place world alive due holds finds sent
      obtain ⟨last, rested, done⟩ := ih later middle _ _ now (sent ++ if due place then [ledMessage self place (! alive place)] else [])
      have others : ∀ p ∈ rest, p ≠ place := fun p member same => fresh (same ▸ member)
      have same : (rest.filter (Function.update due place false)).map
          (fun p => ledMessage self p (! Function.update alive place (alive place != due place) p)) =
            (rest.filter due).map fun p => ledMessage self p (! alive p) := by
        rw [List.filter_congr fun p member => by rw [Function.update_of_ne (others p member)]]
        exact List.map_congr_left fun p member => by rw [Function.update_of_ne (others p (List.mem_filter.mp member).1)]
      refine ⟨last, ?_, ?_⟩
      · rw [modCells, io_bind_ok _ _ _ _ _ ran, rested, same, List.filter_cons, List.append_assoc]
        cases due place <;> rfl
      · convert done using 1
        · funext p
          by_cases here : p = place
          · subst here
            simp [fresh]
          · simp [here]
        · funext p
          by_cases here : p = place
          · subst here
            simp
          · simp [here]

theorem next_cells_hold (todo : List Place) (world : LifeWorld) (alive due : Place → Bool) (holds : BoardOf world alive due) :
    BoardOf (todo.foldl nextCell world) alive fun p => due p || (decide (p ∈ todo) && Life.changes eightAround alive p) := by
  induction todo generalizing world due with
  | nil => simpa using holds
  | cons place rest ih =>
      have later := ih _ _ (next_cell_holds world alive due holds place)
      rw [List.foldl_cons]
      convert later using 2 with p
      by_cases here : p = place
      · subst here
        cases due p <;> simp
      · simp [here]

theorem places_whole : places.Nodup ∧ ∀ p, p ∈ places := by
  have product : places = List.finRange 16 ×ˢ List.finRange 16 := rfl
  rw [product]
  exact ⟨(List.nodup_finRange 16).product (List.nodup_finRange 16), fun p =>
    List.mem_product.mpr ⟨List.mem_finRange p.1, List.mem_finRange p.2⟩⟩

-- Of a packet the last message a method takes is the one that counts, and of
-- those only a press.
def lastHeard (pathPrefix : String) (packet : List OscMessage) : Option (OscHandler × List Int32) :=
  (packet.filterMap fun message =>
    (oscReceive (oscMethods pathPrefix) message).map fun method => (method.handler, message.args)).getLast?

def keyPressed (pathPrefix : String) (packet : List OscMessage) : Option (Nat × Nat) :=
  match lastHeard pathPrefix packet with
  | some (.press, argv) =>
      if argv.getD 2 0 &&& 1 = 0 then none else some ((argv.getD 0 0).toUInt32.toNat, (argv.getD 1 0).toUInt32.toNat)
  | _ => none

def drained (pathPrefix : String) : List (Option (List OscMessage)) → List (Nat × Nat) × List (Option (List OscMessage))
  | [] => ([], [])
  | none :: rest => ([], rest)
  | some packet :: rest =>
      match keyPressed pathPrefix packet with
      | none => ([], rest)
      | some key => (key :: (drained pathPrefix rest).1, (drained pathPrefix rest).2)

theorem dispatch_packet_last (pathPrefix : String) (packet : List OscMessage) (e : MonomeEvent) (haveEvent : Int32) :
    ∃ found, dispatchPacket (oscMethods pathPrefix) packet ⟨some e, haveEvent⟩ =
      match lastHeard pathPrefix packet with
      | none => ⟨some e, haveEvent⟩
      | some heard => ⟨some (heard.1.run heard.2 found), 1⟩ := by
  induction packet using List.reverseRecOn with
  | nil => exact ⟨e, rfl⟩
  | append_singleton packet message ih =>
      obtain ⟨found, before⟩ := ih
      rw [dispatchPacket, List.foldl_append, lastHeard, List.filterMap_append]
      rw [dispatchPacket] at before
      cases taken : oscReceive (oscMethods pathPrefix) message with
      | none =>
          refine ⟨found, ?_⟩
          have nothing : [message].filterMap (fun message => (oscReceive (oscMethods pathPrefix) message).map
              fun method => (method.handler, message.args)) = [] := by simp [taken]
          rw [nothing, List.append_nil, before, List.foldl_cons, List.foldl_nil]
          rw [lastHeard]
          cases (packet.filterMap fun message => (oscReceive (oscMethods pathPrefix) message).map
              fun method => (method.handler, message.args)).getLast? with
          | none => simp only [dispatch_message, taken]
          | some heard => simp only [dispatch_message, taken]
      | some method =>
          have one : [message].filterMap (fun message => (oscReceive (oscMethods pathPrefix) message).map
              fun method => (method.handler, message.args)) = [(method.handler, message.args)] := by simp [taken]
          rw [one, List.getLast?_concat, before, List.foldl_cons, List.foldl_nil]
          cases lastHeard pathPrefix packet with
          | none =>
              refine ⟨e, ?_⟩
              simp only [dispatch_message, taken]
          | some heard =>
              refine ⟨heard.1.run heard.2 found, ?_⟩
              simp only [dispatch_message, taken]

section Events

variable (junk : OscLine → MonomeEvent) (finds : List (Option (List OscMessage))) (sent : List OscMessage) (world : LifeWorld)

theorem nothing_found : lifeEventHandleNext self junk (⟨none :: finds, sent⟩, world) = .ok (0, (⟨finds, sent⟩, world)) := rfl

theorem all_found : lifeEventHandleNext self junk (⟨[], sent⟩, world) = .ok (0, (⟨[], sent⟩, world)) := rfl

theorem packet_found (packet : List OscMessage) : ∃ status e, (status = 0 ∨ status = 1) ∧
    protoOscNextEvent lifeServer self (junk ⟨some packet :: finds, sent⟩) (⟨some packet :: finds, sent⟩, world) =
      .ok (⟨some status, self, e⟩, (⟨finds, sent⟩, world)) ∧
    (∀ x y, keyPressed self.pathPrefix packet = some (x, y) → status = 1 ∧
      ∃ u v, e = keyEvent true u v ∧ u.toNat = x ∧ v.toNat = y) ∧
    (keyPressed self.pathPrefix packet = none → status = 0 ∨ e.eventType ≠ .buttonDown) := by
  obtain ⟨found, last⟩ := dispatch_packet_last self.pathPrefix packet (junk ⟨some packet :: finds, sent⟩) 0
  have ran : protoOscNextEvent lifeServer self (junk ⟨some packet :: finds, sent⟩) (⟨some packet :: finds, sent⟩, world) =
      .ok (⟨some (dispatchPacket (oscMethods self.pathPrefix) packet ⟨some (junk ⟨some packet :: finds, sent⟩), 0⟩).haveEvent, self,
        (dispatchPacket (oscMethods self.pathPrefix) packet ⟨some (junk ⟨some packet :: finds, sent⟩), 0⟩).ePtr.getD
          (junk ⟨some packet :: finds, sent⟩)⟩, (⟨finds, sent⟩, world)) := rfl
  rw [last] at ran
  rw [keyPressed]
  cases heard : lastHeard self.pathPrefix packet with
  | none =>
      rw [heard] at ran
      exact ⟨0, _, .inl rfl, ran, fun x y is => absurd is (by simp), fun _ => .inl rfl⟩
  | some pair =>
      obtain ⟨handler, argv⟩ := pair
      rw [heard] at ran
      refine ⟨1, _, .inr rfl, ran, ?_, ?_⟩
      · intro x y is
        refine ⟨rfl, ?_⟩
        cases handler with
        | press =>
            by_cases up : argv.getD 2 0 &&& 1 = 0
            · simp only [if_pos up] at is
              cases is
            · simp only [if_neg up, Option.some.injEq, Prod.mk.injEq] at is
              refine ⟨_, _, ?_, is.1, is.2⟩
              simp only [Option.getD_some, OscHandler.run, if_neg up]
              rfl
        | delta | encKey => cases is
      · intro is
        refine .inr ?_
        cases handler with
        | press =>
            by_cases up : argv.getD 2 0 &&& 1 = 0
            · simp only [Option.getD_some, OscHandler.run, if_pos up]
              decide
            · simp only [if_neg up] at is
              cases is
        | delta => exact (by decide : MonomeEventType.encoderDelta ≠ .buttonDown)
        | encKey =>
            simp only [Option.getD_some, OscHandler.run]
            split <;> decide

theorem press_found (packet : List OscMessage) (x y : Nat) (pressed : keyPressed self.pathPrefix packet = some (x, y))
    (left : x < 16) (up : y < 16) : lifeEventHandleNext self junk (⟨some packet :: finds, sent⟩, world) =
      .ok (1, (⟨finds, sent⟩, world.put (⟨x, left⟩, ⟨y, up⟩) { world.cell (⟨x, left⟩, ⟨y, up⟩) with modNext := 1 })) := by
  obtain ⟨status, e, -, ran, key, -⟩ := packet_found self junk finds sent world packet
  obtain ⟨rfl, u, v, rfl, rfl, rfl⟩ := key x y pressed
  rw [lifeEventHandleNext, io_call_bind, io_bind_ok _ _ _ _ _ ran]
  have above : ¬ ((some (1 : Int32)).getD 0 ≤ 0) := by decide
  simp only [if_neg above, keyEvent, if_true, lifeHandlePress, dif_pos (And.intro left up)]
  rfl

theorem no_press_found (packet : List OscMessage) (other : keyPressed self.pathPrefix packet = none) :
    lifeEventHandleNext self junk (⟨some packet :: finds, sent⟩, world) = .ok (0, (⟨finds, sent⟩, world)) := by
  obtain ⟨status, e, either, ran, -, none⟩ := packet_found self junk finds sent world packet
  rw [lifeEventHandleNext, io_call_bind, io_bind_ok _ _ _ _ _ ran]
  rcases either with rfl | rfl
  · have low : (some (0 : Int32)).getD 0 ≤ 0 := by decide
    simp only [if_pos low]
    rfl
  · have above : ¬ ((some (1 : Int32)).getD 0 ≤ 0) := by decide
    have apart := (none other).resolve_left (by decide)
    simp only [if_neg above]
    obtain ⟨type, payload⟩ := e
    cases type with
    | buttonDown => exact absurd rfl apart
    | buttonUp | encoderDelta | encoderKeyUp | encoderKeyDown | tilt => rfl

end Events

theorem presses_handled (junk : OscLine → MonomeEvent) (finds : List (Option (List OscMessage))) (fuel : Nat)
    (enough : finds.length < fuel)
    (within : ∀ packet, some packet ∈ finds → ∀ key, keyPressed self.pathPrefix packet = some key → key.1 < 16 ∧ key.2 < 16)
    (sent : List OscMessage) (world : LifeWorld) (alive due : Place → Bool) (holds : BoardOf world alive due) : ∃ world',
      handlePresses self junk fuel (⟨finds, sent⟩, world) = .ok (true, (⟨(drained self.pathPrefix finds).2, sent⟩, world')) ∧
      BoardOf world' alive fun p => decide ((p.1.val, p.2.val) ∈ (drained self.pathPrefix finds).1) || due p := by
  induction finds generalizing fuel world due with
  | nil =>
      cases fuel with
      | zero => exact absurd enough (Nat.not_lt_zero _)
      | succ fuel =>
          refine ⟨world, ?_, by simpa [drained] using holds⟩
          rw [handlePresses, io_bind_ok _ _ _ _ _ (all_found self junk sent world)]
          rfl
  | cons found rest ih =>
      cases fuel with
      | zero => exact absurd enough (Nat.not_lt_zero _)
      | succ fuel =>
          rw [handlePresses]
          cases found with
          | none =>
              refine ⟨world, ?_, by simpa [drained] using holds⟩
              rw [io_bind_ok _ _ _ _ _ (nothing_found self junk rest sent world)]
              rfl
          | some packet =>
              cases pressed : keyPressed self.pathPrefix packet with
              | none =>
                  refine ⟨world, ?_, by simpa [drained, pressed] using holds⟩
                  rw [io_bind_ok _ _ _ _ _ (no_press_found self junk rest sent world packet pressed)]
                  simp only [drained, pressed]
                  rfl
              | some key =>
                  obtain ⟨x, y⟩ := key
                  obtain ⟨left, up⟩ := within packet List.mem_cons_self (x, y) pressed
                  have noted := noted_holds world alive due holds (⟨x, left⟩, ⟨y, up⟩) true
                  obtain ⟨last, ran, done⟩ := ih fuel (Nat.lt_of_succ_lt_succ enough)
                    (fun other member => within other (List.mem_cons_of_mem _ member)) _ _ noted
                  refine ⟨last, ?_, ?_⟩
                  · rw [io_bind_ok _ _ _ _ _ (press_found self junk rest sent world packet x y pressed left up)]
                    simp only [drained, pressed]
                    exact ran
                  · convert done using 2 with p
                    by_cases here : p = (⟨x, left⟩, ⟨y, up⟩)
                    · subst here
                      simp [drained, pressed]
                    · have apart : ¬ (p.1.val = x ∧ p.2.val = y) := fun both =>
                        here (Prod.ext (Fin.ext both.1) (Fin.ext both.2))
                      simp [drained, pressed, here, apart]

-- The game the program plays: presses are taken every third turn and touch the
-- cells they name, and what changes is drawn.
structure Game where
  alive : Place → Bool
  finds : List (Option (List OscMessage))
  drawn : List OscMessage
  tick : Int32

def Game.taken (g : Game) : List (Nat × Nat) × List (Option (List OscMessage)) :=
  if (g.tick + 1) % 3 = 0 then drained self.pathPrefix g.finds else ([], g.finds)

def Game.touches (g : Game) (p : Place) : Bool := decide ((p.1.val, p.2.val) ∈ (g.taken self).1)

def Game.turn (g : Game) : Game where
  alive := Life.touch eightAround g.alive (g.touches self)
  finds := (g.taken self).2
  drawn := g.drawn ++ (places.filter fun p => Life.touch eightAround g.alive (g.touches self) p != g.alive p).map fun p =>
    ledMessage self p (Life.touch eightAround g.alive (g.touches self) p)
  tick := (g.tick + 1) % 3

def FindsKeys (finds : List (Option (List OscMessage))) : Prop :=
  ∀ packet, some packet ∈ finds → ∀ key, keyPressed self.pathPrefix packet = some key → key.1 < 16 ∧ key.2 < 16

theorem drained_suffix (pathPrefix : String) (finds : List (Option (List OscMessage))) :
    (drained pathPrefix finds).2 <:+ finds := by
  induction finds with
  | nil => exact List.suffix_rfl
  | cons found rest ih =>
      cases found with
      | none => exact List.suffix_cons _ _
      | some packet =>
          rw [drained]
          cases keyPressed pathPrefix packet with
          | none => exact List.suffix_cons _ _
          | some key => exact ih.trans (List.suffix_cons _ _)

theorem taken_suffix (g : Game) : (g.taken self).2 <:+ g.finds := by
  rw [Game.taken]
  by_cases due : (g.tick + 1) % 3 = 0
  · rw [if_pos due]
    exact drained_suffix _ _
  · rw [if_neg due]

section Runs

variable (junk : OscLine → MonomeEvent) (fuel : Nat) (before : List OscMessage)

theorem turn_played (g : Game) (enough : g.finds.length < fuel) (within : FindsKeys self g.finds) (world : LifeWorld)
    (holds : BoardOf world g.alive (Life.changes eightAround g.alive)) : ∃ world',
      lifeTurn self junk fuel g.tick (⟨g.finds, before ++ g.drawn⟩, world) =
        .ok ((true, (g.turn self).tick), (⟨(g.turn self).finds, before ++ (g.turn self).drawn⟩, world')) ∧
      BoardOf world' (g.turn self).alive (Life.changes eightAround (g.turn self).alive) := by
  have touched : ∃ world', handleDue self junk fuel ((g.tick + 1) % 3)
        (⟨g.finds, before ++ g.drawn⟩, world) = .ok (true, (⟨(g.turn self).finds, before ++ g.drawn⟩, world')) ∧
      BoardOf world' g.alive fun p => g.touches self p || Life.changes eightAround g.alive p := by
    simp only [handleDue, Game.turn, Game.touches, Game.taken]
    by_cases due : (g.tick + 1) % 3 = 0
    · simp only [if_pos due]
      exact presses_handled self junk g.finds fuel enough within _ world g.alive _ holds
    · simp only [if_neg due]
      exact ⟨world, rfl, by simpa using holds⟩
  obtain ⟨middle, took, now⟩ := touched
  obtain ⟨last, modded, done⟩ := mod_cells_done self places places_whole.1 middle g.alive _ now (g.turn self).finds
    (before ++ g.drawn)
  have flips (p : Place) : (g.turn self).alive p = (g.alive p != (g.touches self p || Life.changes eightAround g.alive p)) :=
    (Life.touch_changes eightAround g.alive (g.touches self) p).symm
  have changed (p : Place) : ((g.turn self).alive p != g.alive p) = (g.touches self p || Life.changes eightAround g.alive p) := by
    rw [flips]
    cases g.alive p <;> cases g.touches self p || Life.changes eightAround g.alive p <;> rfl
  have drawn : (places.filter fun p => g.touches self p || Life.changes eightAround g.alive p).map
      (fun p => ledMessage self p (! g.alive p)) =
        (places.filter fun p => (g.turn self).alive p != g.alive p).map fun p => ledMessage self p ((g.turn self).alive p) := by
    have same : (places.filter fun p => g.touches self p || Life.changes eightAround g.alive p) =
        places.filter fun p => (g.turn self).alive p != g.alive p := List.filter_congr fun p _ => (changed p).symm
    rw [same]
    refine List.map_congr_left fun p member => ?_
    have marked := (List.mem_filter.mp member).2
    rw [changed] at marked
    rw [flips, marked, Bool.bne_true]
  have settled := next_cells_hold places last _ _ done
  simp only [decide_eq_true (places_whole.2 _), Bool.true_and, Bool.not_true, Bool.and_false, Bool.false_or, ← flips] at settled
  refine ⟨places.foldl nextCell last, ?_, settled⟩
  rw [lifeTurn, io_bind_ok _ _ _ _ _ took, io_bind_ok _ _ _ _ _ modded, drawn, List.append_assoc]
  rfl

-- What the other end of the line makes of the messages: a grid under the path
-- prefix.
def oscPicture (pathPrefix : String) (message : OscMessage) : Picture.Pic (Nat × Nat) Bool :=
  if message.path = pathPrefix ++ "/grid/led/set" ∧ message.types = "iii" then
    Picture.dot ((message.args.getD 0 0).toUInt32.toNat, (message.args.getD 1 0).toUInt32.toNat) (decide (message.args.getD 2 0 ≠ 0))
  else if message.path = pathPrefix ++ "/grid/led/all" ∧ message.types = "i" then
    Picture.flood (decide (message.args.getD 0 0 ≠ 0))
  else Picture.blank

def board (alive : Place → Bool) : Picture.Canvas (Nat × Nat) Bool := fun p =>
  if inside : p.1 < 16 ∧ p.2 < 16 then alive (⟨p.1, inside.1⟩, ⟨p.2, inside.2⟩) else false

theorem turns_played (turns : Nat) (g : Game) (enough : g.finds.length < fuel) (within : FindsKeys self g.finds)
    (world : LifeWorld) (holds : BoardOf world g.alive (Life.changes eightAround g.alive)) : ∃ world',
      lifeTurns self junk fuel turns g.tick (⟨g.finds, before ++ g.drawn⟩, world) =
        .ok ((true, ((Game.turn self)^[turns] g).tick),
          (⟨((Game.turn self)^[turns] g).finds, before ++ ((Game.turn self)^[turns] g).drawn⟩, world')) ∧
      BoardOf world' ((Game.turn self)^[turns] g).alive (Life.changes eightAround ((Game.turn self)^[turns] g).alive) := by
  induction turns generalizing g world with
  | zero => exact ⟨world, rfl, holds⟩
  | succ turns ih =>
      have rest := taken_suffix self g
      obtain ⟨middle, ran, now⟩ := turn_played self junk fuel before g enough within world holds
      obtain ⟨last, later, done⟩ := ih (g.turn self) (Nat.lt_of_le_of_lt rest.length_le enough)
        (fun packet member => within packet (rest.subset member)) middle now
      refine ⟨last, ?_, done⟩
      rw [lifeTurns, io_bind_ok _ _ _ _ _ ran, io_bind_ok _ _ _ _ _ later]
      rfl

end Runs

def deadGame (finds : List (Option (List OscMessage))) : Game := ⟨fun _ => false, finds, [], 0⟩

theorem init_holds : BoardOf initWorld (fun _ => false) (Life.changes eightAround fun _ => false) := by
  have cells (p : Place) : initWorld.cell p = ⟨0, 0, neighborsOf p, 0⟩ := by
    simp [initWorld, LifeWorld.cell, Vector.get_eq_getElem]
  refine ⟨fun p => ?_, fun p => ?_, fun p => ?_, fun p => ?_⟩
  · rw [cells]
  · rw [cells]
    rfl
  · rw [cells, Life.changes_bare]
    rfl
  · rw [cells]
    simp [Life.living]

section Lamps

open Picture

variable (parent : Monome) (pathPrefix : String)

theorem board_at (alive : Place → Bool) (p : Place) : board alive (p.1.val, p.2.val) = alive p :=
  dif_pos ⟨p.1.isLt, p.2.isLt⟩

theorem led_message_drawn (p : Place) (lit : Bool) :
    oscPicture pathPrefix (ledMessage (cacheOscPaths parent pathPrefix) p lit) = dot (p.1.val, p.2.val) lit := by
  have path : pathPrefix ++ "/" ++ "grid/led/set" = pathPrefix ++ "/grid/led/set" := by
    rw [String.append_assoc]
    rfl
  have place (i : Fin 16) : (UInt32.ofNat i.val).toInt32.toUInt32.toNat = i.val := by
    rw [UInt32.toUInt32_toInt32, UInt32.toNat_ofNat', Nat.mod_eq_of_lt (by omega)]
  simp only [oscPicture, ledMessage, cacheOscPaths, path, and_self, if_true, List.getD_cons_zero, List.getD_cons_succ, place]
  cases lit <;> rfl

theorem turn_drawn (alive alive' : Place → Bool) : paint (stack (((places.filter fun p => alive' p != alive p).map
    fun p => ledMessage (cacheOscPaths parent pathPrefix) p (alive' p)).map (oscPicture pathPrefix))) (board alive) =
      board alive' := by
  have dots : stack (((places.filter fun p => alive' p != alive p).map
      fun p => ledMessage (cacheOscPaths parent pathPrefix) p (alive' p)).map (oscPicture pathPrefix)) =
        dotted ((places.filter fun p => alive' p != alive p).map fun p => ((p.1.val, p.2.val), alive' p)) := by
    rw [dotted, List.map_map, List.map_map]
    exact congrArg stack (List.map_congr_left fun p _ => led_message_drawn parent pathPrefix p (alive' p))
  have sound : ∀ d ∈ (places.filter fun p => alive' p != alive p).map (fun p => ((p.1.val, p.2.val), alive' p)),
      some (board alive' d.1) = some d.2 := by
    intro d member
    obtain ⟨p, -, rfl⟩ := List.mem_map.mp member
    rw [board_at]
  funext q
  rw [paint, dots, dotted_agree (fun q => some (board alive' q)) _ sound q]
  by_cases listed : q ∈ ((places.filter fun p => alive' p != alive p).map fun p => ((p.1.val, p.2.val), alive' p)).map Prod.fst
  · rw [if_pos listed]
    rfl
  · rw [if_neg listed, Option.getD_none]
    by_cases inside : q.1 < 16 ∧ q.2 < 16
    · rw [board, board, dif_pos inside, dif_pos inside]
      by_contra differ
      apply listed
      rw [List.map_map]
      refine List.mem_map.mpr ⟨(⟨q.1, inside.1⟩, ⟨q.2, inside.2⟩), ?_, rfl⟩
      exact List.mem_filter.mpr ⟨places_whole.2 _, bne_iff_ne.mpr (Ne.symm differ)⟩
    · rw [board, board, dif_neg inside, dif_neg inside]

theorem turns_drawn (turns : Nat) (g : Game) (lamps : Canvas (Nat × Nat) Bool)
    (shown : paint (stack (g.drawn.map (oscPicture pathPrefix))) lamps = board g.alive) :
    paint (stack (((Game.turn (cacheOscPaths parent pathPrefix))^[turns] g).drawn.map (oscPicture pathPrefix))) lamps =
      board ((Game.turn (cacheOscPaths parent pathPrefix))^[turns] g).alive := by
  induction turns generalizing g with
  | zero => exact shown
  | succ turns ih =>
      apply ih (g.turn (cacheOscPaths parent pathPrefix))
      rw [Game.turn, List.map_append, stack_append, paint_atop, shown]
      exact turn_drawn parent pathPrefix g.alive _

-- life.c plays Conway's game on a board of sixteen by sixteen without an edge.
-- Whatever its calls find and whenever, after any number of turns its cells are
-- those of a game in which each turn touches the cells pressed and leaves the
-- others to the rule; its counts are right; and the lamps show the board, each
-- change drawn once.
theorem life_plays (junk : OscLine → MonomeEvent) (fuel turns : Nat) (finds : List (Option (List OscMessage)))
    (enough : finds.length < fuel) (within : FindsKeys (cacheOscPaths parent pathPrefix) finds) (world : LifeWorld)
    (lamps : Canvas (Nat × Nat) Bool) :
    let self := cacheOscPaths parent pathPrefix
    let game := fun n => (Game.turn self)^[n] (deadGame finds)
    ∃ world' sent, life self junk fuel turns (⟨finds, []⟩, world) =
        .ok ((true, (game turns).tick), (⟨(game turns).finds, sent⟩, world')) ∧
      sent = ⟨pathPrefix ++ "/grid/led/all", "i", [0]⟩ :: (game turns).drawn ∧
      BoardOf world' (game turns).alive (Life.changes eightAround (game turns).alive) ∧
      paint (stack (sent.map (oscPicture pathPrefix))) lamps = board (game turns).alive ∧
      ∀ n, ((game n).taken self).1 = [] → (game (n + 1)).alive = Life.next eightAround (game n).alive := by
  intro self game
  obtain ⟨world', ran, done⟩ := turns_played self junk fuel [⟨self.ledAllStr, "i", [0]⟩] turns (deadGame finds) enough within
    initWorld init_holds
  have path : self.ledAllStr = pathPrefix ++ "/grid/led/all" := by
    simp only [self, cacheOscPaths]
    rw [String.append_assoc]
    rfl
  refine ⟨world', _, ran, by rw [path]; rfl, done, ?_, fun n none => ?_⟩
  · have dark : paint (oscPicture pathPrefix ⟨self.ledAllStr, "i", [0]⟩) lamps = board fun _ => false := by
      have flooded : oscPicture pathPrefix ⟨self.ledAllStr, "i", [0]⟩ = flood false := by
        rw [oscPicture, if_neg fun set => absurd set.2 (by decide : ¬ "i" = "iii"), if_pos ⟨path, rfl⟩]
        rfl
      funext p
      rw [flooded, board]
      exact (dite_eq_right_iff.mpr fun _ => rfl).symm
    rw [List.singleton_append, List.map_cons, stack, paint_atop, dark]
    exact turns_drawn parent pathPrefix turns (deadGame finds) _ (paint_blank _)
  · have untouched : (game n).touches self = fun _ => false := by
      funext p
      rw [Game.touches, none]
      exact decide_eq_false List.not_mem_nil
    simp only [game] at untouched ⊢
    rw [Function.iterate_succ_apply', Game.turn, untouched]
    exact Life.touch_nothing eightAround _

def blinkerKeys : List (Option (List OscMessage)) :=
  [some [⟨"/monome/grid/key", "iii", [5, 5, 1]⟩], some [⟨"/monome/grid/key", "iii", [6, 5, 1]⟩],
    some [⟨"/monome/grid/key", "iii", [7, 5, 1]⟩]]

def blinkerOsc : MonomeOsc := cacheOscPaths ⟨0, 0, .rotate0, none, .unset⟩ "/monome"

theorem life_plays_blinker : ∃ world sent,
    life blinkerOsc (fun _ => keyEvent false 0 0) 4 4 (⟨blinkerKeys, []⟩, initWorld) = .ok ((true, 1), (⟨[], sent⟩, world)) ∧
    (world.cell (6, 4)).alive = 1 ∧ (world.cell (7, 5)).alive = 0 ∧ (world.cell (6, 5)).nnum = 2 ∧
    paint (stack (sent.map (oscPicture "/monome"))) (fun _ => true) (6, 6) = true ∧
    paint (stack (sent.map (oscPicture "/monome"))) (fun _ => true) (5, 5) = false := by
  have within : FindsKeys blinkerOsc blinkerKeys := by
    intro packet member key pressed
    simp only [blinkerKeys, List.mem_cons, Option.some.injEq, List.not_mem_nil, or_false] at member
    rcases member with rfl | rfl | rfl
    · have five : keyPressed "/monome" [⟨"/monome/grid/key", "iii", [5, 5, 1]⟩] = some (5, 5) := by decide
      cases five.symm.trans pressed
      decide
    · have six : keyPressed "/monome" [⟨"/monome/grid/key", "iii", [6, 5, 1]⟩] = some (6, 5) := by decide
      cases six.symm.trans pressed
      decide
    · have seven : keyPressed "/monome" [⟨"/monome/grid/key", "iii", [7, 5, 1]⟩] = some (7, 5) := by decide
      cases seven.symm.trans pressed
      decide
  obtain ⟨world, sent, ran, -, cells, shown, rule⟩ := life_plays ⟨0, 0, .rotate0, none, .unset⟩ "/monome"
    (fun _ => keyEvent false 0 0) 4 4 blinkerKeys (by decide) within initWorld fun _ => true
  have still : Life.next eightAround (fun _ => false) = fun _ => false := by
    funext p
    simpa [Life.changes] using Life.changes_bare eightAround p
  have one := (rule 0 (by decide)).trans still
  have two : ((Game.turn blinkerOsc)^[2] (deadGame blinkerKeys)).alive = fun _ => false :=
    (rule 1 (by decide)).trans ((congrArg (Life.next eightAround) one).trans still)
  have taken : (((Game.turn blinkerOsc)^[2] (deadGame blinkerKeys)).taken blinkerOsc).1 = [(5, 5), (6, 5), (7, 5)] := by decide
  have three : ((Game.turn blinkerOsc)^[3] (deadGame blinkerKeys)).alive =
      fun p => decide ((p.1.val, p.2.val) ∈ [(5, 5), (6, 5), (7, 5)]) := by
    funext p
    rw [Function.iterate_succ_apply', Game.turn]
    simp only [Life.touch, Game.touches, taken, two, still]
    cases decide ((p.1.val, p.2.val) ∈ [(5, 5), (6, 5), (7, 5)]) <;> rfl
  have four := (rule 3 (by decide)).trans (congrArg (Life.next eightAround) three)
  refine ⟨world, sent, ran, ?_, ?_, ?_, ?_, ?_⟩
  · rw [cells.lives, four]
    decide
  · rw [cells.lives, four]
    decide
  · rw [cells.counted, four]
    decide
  · rw [shown, four]
    decide
  · rw [shown, four]
    decide

end Lamps

end Turns

end Libmonome
