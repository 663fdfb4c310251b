import Libmonome.Mext.Levels
import Libmonome.Panel

set_option autoImplicit false

namespace Libmonome

open Picture BitMoves

variable {α : Type}

structure Shades (α : Type) where
  bit : Bool → α
  level : Nat → α

def mextPicture (shades : Shades α) (record : UInt8 × List UInt8) : Pic (Nat × Nat) α :=
  if record.1 = 0x12 ∨ record.1 = 0x13 then flood (shades.bit (decide (record.1 = 0x13)))
  else if record.1 = 0x19 then flood (shades.level ((record.2.getD 0 0).toNat % 16))
  else atop (tint shades.level (mextLevelPicture (Records.bytes record)))
    (tint shades.bit (mextBitPicture (Records.bytes record)))

def mextLamp (shades : Shades α) (C R : Nat) (record : UInt8 × List UInt8) : Pic (Nat × Nat) α :=
  clip (InGrid C R) (mextPicture shades record)

def OutputCall.picture (shades : Shades α) : OutputCall → Pic (Nat × Nat) α
  | .ledSet x y on => tint shades.bit (GridCall.set x y on).picture
  | .ledAll status => flood (shades.bit (decide (status ≠ 0)))
  | .ledMap xOff yOff data => tint shades.bit (GridCall.map xOff yOff data).picture
  | .ledRow xOff y count data => tint shades.bit (GridCall.row xOff y count data).picture
  | .ledCol x yOff count data => tint shades.bit (GridCall.col x yOff count data).picture
  | .ledLevelSet x y level => tint shades.level (LevelCall.set x y level).picture
  | .ledLevelAll level => flood (shades.level (level.toNat % 16))
  | .ledLevelMap xOff yOff data => tint shades.level (LevelCall.map xOff yOff data).picture
  | .ledLevelRow xOff row count data => tint shades.level (LevelCall.row xOff row count data).picture
  | .ledLevelCol col yOff count data => tint shades.level (LevelCall.col col yOff count data).picture
  | _ => blank

def GridCall.Valid (call : GridCall) : Prop := call.Aligned ∧ call.Supplied ∧ call.Addressed
def LevelCall.Valid (call : LevelCall) : Prop := call.Aligned ∧ call.Supplied ∧ call.Addressed

def OutputCall.Drawable : OutputCall → Prop
  | .ledSet x y on => (GridCall.set x y on).Valid
  | .ledMap xOff yOff data => (GridCall.map xOff yOff data).Valid
  | .ledRow xOff y count data => (GridCall.row xOff y count data).Valid
  | .ledCol x yOff count data => (GridCall.col x yOff count data).Valid
  | .ledLevelSet x y level => (LevelCall.set x y level).Valid
  | .ledLevelMap xOff yOff data => (LevelCall.map xOff yOff data).Valid
  | .ledLevelRow xOff row count data => (LevelCall.row xOff row count data).Valid
  | .ledLevelCol col yOff count data => (LevelCall.col col yOff count data).Valid
  | .ledRingMap _ levels => 64 ≤ levels.length
  | _ => True

theorem tint_seen {β : Type} (f : α → β) (r : MonomeRotate) (C R : Nat) (pic : Pic (Nat × Nat) α) :
    tint f (seen r C R pic) = seen r C R (tint f pic) := tint_clip f _ _

theorem bit_picture_other (header : UInt8) (payload : List UInt8)
    (other : header ∉ [0x10, 0x11, 0x14, 0x15, 0x16]) : mextBitPicture (header :: payload) = blank := by
  simp only [List.mem_cons, List.not_mem_nil, or_false, not_or] at other
  cases payload with
  | nil => rfl
  | cons x rest =>
      cases rest with
      | nil => rfl
      | cons y data => simp [mextBitPicture, other]

theorem level_picture_other (header : UInt8) (payload : List UInt8)
    (other : header ∉ [0x18, 0x1A, 0x1B, 0x1C]) : mextLevelPicture (header :: payload) = blank := by
  simp only [List.mem_cons, List.not_mem_nil, or_false, not_or] at other
  cases payload with
  | nil => rfl
  | cons x rest =>
      cases rest with
      | nil => rfl
      | cons y data => simp [mextLevelPicture, other]

theorem blank_atop (pic : Pic (Nat × Nat) α) : atop blank pic = pic := rfl

theorem atop_blank (pic : Pic (Nat × Nat) α) : atop pic blank = pic := by
  funext p
  simp [atop, blank]

set_option maxRecDepth 4000 in
theorem bit_headers_alone : ∀ header ∈ [0x10, 0x11, 0x14, 0x15, 0x16],
    ¬ (header = 0x12 ∨ header = 0x13) ∧ header ≠ 0x19 ∧ header ∉ ([0x18, 0x1A, 0x1B, 0x1C] : List UInt8) := by decide

set_option maxRecDepth 4000 in
theorem level_headers_alone : ∀ header ∈ [0x18, 0x1A, 0x1B, 0x1C],
    ¬ (header = 0x12 ∨ header = 0x13) ∧ header ≠ 0x19 ∧
      header ∉ ([0x10, 0x11, 0x14, 0x15, 0x16] : List UInt8) := by decide

section Frames

variable (shades : Shades α) (r : MonomeRotate) (C R : Nat)

abbrev MextDraws (stream : List UInt8) (pic : Pic (Nat × Nat) α) : Prop :=
  Draws recordLength (mextLamp shades C R) stream pic

theorem bit_frame_draws (header : UInt8) (payload : List UInt8) (pic : Pic (Nat × Nat) Bool)
    (listed : header ∈ [0x10, 0x11, 0x14, 0x15, 0x16]) (sized : payload.length = recordLength header)
    (shown : clip (InGrid C R) (mextBitPicture (header :: payload)) = seen r C R pic) :
    MextDraws shades C R (header :: payload) (seen r C R (tint shades.bit pic)) := by
  obtain ⟨some, all, other⟩ := bit_headers_alone header listed
  have lamp : mextLamp shades C R (header, payload) = seen r C R (tint shades.bit pic) := by
    rw [mextLamp, mextPicture, if_neg some, if_neg all, Records.bytes, level_picture_other header payload other,
      tint_blank, blank_atop, ← tint_clip, shown, tint_seen]
  rw [← lamp]
  exact draws_one _ _ (header, payload) sized

theorem level_frame_draws (header : UInt8) (payload : List UInt8) (pic : Pic (Nat × Nat) Nat)
    (listed : header ∈ [0x18, 0x1A, 0x1B, 0x1C]) (sized : payload.length = recordLength header)
    (shown : clip (InGrid C R) (mextLevelPicture (header :: payload)) = seen r C R pic) :
    MextDraws shades C R (header :: payload) (seen r C R (tint shades.level pic)) := by
  obtain ⟨some, all, other⟩ := level_headers_alone header listed
  have lamp : mextLamp shades C R (header, payload) = seen r C R (tint shades.level pic) := by
    rw [mextLamp, mextPicture, if_neg some, if_neg all, Records.bytes, bit_picture_other header payload other,
      tint_blank, atop_blank, ← tint_clip, shown, tint_seen]
  rw [← lamp]
  exact draws_one _ _ (header, payload) sized

end Frames

section Runs

variable {β : Type} (size : UInt8 → Nat) (picture : UInt8 × List UInt8 → Pic (Nat × Nat) α)
  (place : Pic (Nat × Nat) β → Pic (Nat × Nat) α) (shape : Nat → Nat → (Nat → β) → Pic (Nat × Nat) β)
  (value : List UInt8 → Nat → β) (width : Nat) (message : UInt32 → List UInt8 → Except Fault MextMsg)

structure RunMessages : Prop where
  placeBlank : place blank = blank
  placeAtop : ∀ top bottom, place (atop top bottom) = atop (place top) (place bottom)
  empty : ∀ off v, shape off 0 v = blank
  append : ∀ off a b v, shape off (a + b) v = atop (shape (off + a) b (fun i => v (a + i))) (shape off a v)
  later : ∀ data i, value data (8 + i) = value (data.drop width) i
  piece : ∀ off data, 8 ∣ off.toNat → off.toNat + 8 ≤ 256 → width ≤ data.length →
    ∃ msg, message off data = .ok msg ∧ Draws size picture msg.wire (place (shape off.toNat 8 (value data)))

theorem run_messages_draw (run : RunMessages size picture place shape value width message) (n : Nat) (off : UInt32)
    (data : List UInt8) (aligned : 8 ∣ off.toNat) (inside : n = 0 ∨ off.toNat + 8 * n ≤ 256)
    (supplied : width * n ≤ data.length) :
    ∃ msgs, chunkMessages message width n off data = .ok msgs ∧
      Draws size picture (msgs.map MextMsg.wire).flatten (place (shape off.toNat (8 * n) (value data))) := by
  induction n generalizing off data with
  | zero =>
      rw [Nat.mul_zero, run.empty, run.placeBlank]
      exact ⟨[], rfl, draws_nothing size picture⟩
  | succ n ih =>
      have next : (off + 8).toNat = off.toNat + 8 := by
        rw [UInt32.toNat_add, Nat.mod_eq_of_lt (by simp; omega)]
        rfl
      rw [Nat.mul_succ] at supplied
      have rest : width * n ≤ (data.drop width).length := by
        rw [List.length_drop]
        omega
      obtain ⟨msg, built, first⟩ := run.piece off data aligned (by omega) (by omega)
      obtain ⟨msgs, others, drawn⟩ := ih (off + 8) (data.drop width) (by omega) (by omega) rest
      refine ⟨msg :: msgs, by rw [chunkMessages, built, others]; rfl, ?_⟩
      have whole : shape off.toNat (8 * (n + 1)) (value data) =
          atop (shape (off + 8).toNat (8 * n) (value (data.drop width))) (shape off.toNat 8 (value data)) := by
        rw [Nat.mul_succ, Nat.add_comm, run.append, next]
        congr 2
        funext i
        exact run.later data i
      rw [whole, run.placeAtop, List.map_cons, List.flatten_cons]
      exact draws_append size picture _ _ _ _ first drawn

end Runs

theorem tinted_atop {β : Type} (C R : Nat) (f : β → α) (r : MonomeRotate) (top bottom : Pic (Nat × Nat) β) :
    seen r C R (tint f (atop top bottom)) = atop (seen r C R (tint f top)) (seen r C R (tint f bottom)) := by
  rw [tint_atop, seen_atop]

theorem set_header (lit : Prop) [Decidable lit] : (if lit then 0x11 else 0x10) ∈ ([0x10, 0x11, 0x14, 0x15, 0x16] : List UInt8) ∧
    2 = recordLength (if lit then 0x11 else 0x10) := by
  by_cases on : lit
  · rw [if_pos on]
    exact ⟨by decide, rfl⟩
  · rw [if_neg on]
    exact ⟨by decide, rfl⟩

theorem line_header (col : Bool) : (if col then 0x16 else 0x15) ∈ ([0x10, 0x11, 0x14, 0x15, 0x16] : List UInt8) ∧
    3 = recordLength (if col then 0x16 else 0x15) := by
  cases col <;> exact ⟨by decide, rfl⟩

theorem level_line_header (col : Bool) : (if col then 0x1C else 0x1B) ∈ ([0x18, 0x1A, 0x1B, 0x1C] : List UInt8) ∧
    6 = recordLength (if col then 0x1C else 0x1B) := by
  cases col <;> exact ⟨by decide, rfl⟩

section Messages

variable (t : Target) (shades : Shades α) (monome : Monome) (C R : Nat) (grid : BlockGrid C R)
  (has : HasGrid monome C R)
include grid has

theorem row_messages (y : UInt32) (ySmall : y.toNat < 256) :
    RunMessages recordLength (mextLamp shades C R) (fun pic => seen monome.rotation C R (tint shades.bit pic))
      (fun x n v => rowRun x y.toNat n v) runBit 1 (mextLedRowMessage monome y) where
  placeBlank := seen_blank _ C R
  placeAtop := tinted_atop C R shades.bit monome.rotation
  empty x v := row_run_none x y.toNat v
  append x a b v := row_run_append x y.toNat a b v
  later := run_bit_later
  piece off data aligned inside supplied := by
    cases data with
    | nil => simp at supplied
    | cons b rest =>
        have shown := row_frame_seen monome C R grid has off y b aligned (by omega) ySmall
        have wire := led_row_col_wire monome true off y (if hasFlag monome rowRevbits then reverseByte b else b)
        have header := line_header (true == monome.rotation.swaps)
        rw [if_pos rfl] at wire
        rw [wire] at shown
        rw [row_run_congr _ _ _ _ _ (run_bit_head b rest)]
        refine ⟨_, rfl, ?_⟩
        rw [wire]
        exact bit_frame_draws shades _ C R _ _ _ header.1 header.2 shown

theorem col_messages (x : UInt32) (xSmall : x.toNat < 256) :
    RunMessages recordLength (mextLamp shades C R) (fun pic => seen monome.rotation C R (tint shades.bit pic))
      (fun y n v => colRun x.toNat y n v) runBit 1 (mextLedColMessage monome x) where
  placeBlank := seen_blank _ C R
  placeAtop := tinted_atop C R shades.bit monome.rotation
  empty y v := col_run_none x.toNat y v
  append y a b v := col_run_append x.toNat y a b v
  later := run_bit_later
  piece off data aligned inside supplied := by
    cases data with
    | nil => simp at supplied
    | cons b rest =>
        have shown := col_frame_seen monome C R grid has x off b aligned xSmall (by omega)
        have wire := led_row_col_wire monome false x off (if hasFlag monome colRevbits then reverseByte b else b)
        have header := line_header (false == monome.rotation.swaps)
        rw [if_neg (by decide)] at wire
        rw [wire] at shown
        rw [col_run_congr _ _ _ _ _ (run_bit_head b rest)]
        refine ⟨_, rfl, ?_⟩
        rw [wire]
        exact bit_frame_draws shades _ C R _ _ _ header.1 header.2 shown

theorem level_row_messages (y : UInt32) (ySmall : y.toNat < 256) :
    RunMessages recordLength (mextLamp shades C R) (fun pic => seen monome.rotation C R (tint shades.level pic))
      (fun x n v => rowRun x y.toNat n v) runLevel 8 (mextLedLevelRowMessage monome y) where
  placeBlank := seen_blank _ C R
  placeAtop := tinted_atop C R shades.level monome.rotation
  empty x v := row_run_none x y.toNat v
  append x a b v := row_run_append x y.toNat a b v
  later := run_level_later
  piece off data aligned inside supplied := by
    have whole : (data.take 8).length = 8 := by
      rw [List.length_take]
      omega
    have shown := level_row_frame_seen monome C R grid has off y (data.take 8) whole aligned (by omega) ySmall
    have wire := led_level_row_col_wire monome true (hasFlag monome rowRevbits) off y (data.take 8) whole
    have header := level_line_header (true == monome.rotation.swaps)
    rw [if_pos rfl] at wire
    rw [wire] at shown
    rw [row_run_congr _ _ _ _ _ (fun i low => (run_level_copied data 8 i low).symm)]
    refine ⟨_, by rw [mextLedLevelRowMessage, copyOut, if_pos supplied]; rfl, ?_⟩
    rw [wire]
    refine level_frame_draws shades _ C R _ _ _ header.1 ?_ shown
    rw [List.length_cons, List.length_cons, packed_row_size, ← header.2]

theorem level_col_messages (x : UInt32) (xSmall : x.toNat < 256) :
    RunMessages recordLength (mextLamp shades C R) (fun pic => seen monome.rotation C R (tint shades.level pic))
      (fun y n v => colRun x.toNat y n v) runLevel 8 (mextLedLevelColMessage monome x) where
  placeBlank := seen_blank _ C R
  placeAtop := tinted_atop C R shades.level monome.rotation
  empty y v := col_run_none x.toNat y v
  append y a b v := col_run_append x.toNat y a b v
  later := run_level_later
  piece off data aligned inside supplied := by
    have whole : (data.take 8).length = 8 := by
      rw [List.length_take]
      omega
    have shown := level_col_frame_seen monome C R grid has x off (data.take 8) whole aligned xSmall (by omega)
    have wire := led_level_row_col_wire monome false (hasFlag monome colRevbits) x off (data.take 8) whole
    have header := level_line_header (false == monome.rotation.swaps)
    rw [if_neg (by decide)] at wire
    rw [wire] at shown
    rw [col_run_congr _ _ _ _ _ (fun i low => (run_level_copied data 8 i low).symm)]
    refine ⟨_, by rw [mextLedLevelColMessage, copyOut, if_pos supplied]; rfl, ?_⟩
    rw [wire]
    refine level_frame_draws shades _ C R _ _ _ header.1 ?_ shown
    rw [List.length_cons, List.length_cons, packed_row_size, ← header.2]

end Messages

def MextRecord.Quiet (record : MextRecord) : Prop := ¬ (record.addr = ssLedGrid ∧ record.cmd ≠ cmdLedIntensity)

set_option maxRecDepth 4000 in
theorem drawing_headers : ∀ header ∈ ([0x10, 0x11, 0x12, 0x13, 0x14, 0x15, 0x16, 0x18, 0x19, 0x1A, 0x1B, 0x1C] :
    List UInt8), header >>> 4 = ssLedGrid ∧ header &&& 0xF ≠ cmdLedIntensity := by decide

theorem quiet_blank (shades : Shades α) (C R : Nat) (record : UInt8 × List UInt8) (quiet : (readRecord record).Quiet) :
    mextLamp shades C R record = blank := by
  obtain ⟨header, payload⟩ := record
  have other : header ∉ ([0x10, 0x11, 0x12, 0x13, 0x14, 0x15, 0x16, 0x18, 0x19, 0x1A, 0x1B, 0x1C] : List UInt8) :=
    fun listed => quiet (drawing_headers header listed)
  simp only [List.mem_cons, List.not_mem_nil, or_false, not_or] at other
  rw [mextLamp, mextPicture, if_neg (by simp [other]), if_neg (by simp [other]), Records.bytes,
    level_picture_other header payload (by simp [other]), bit_picture_other header payload (by simp [other])]
  funext p
  simp [clip, atop, tint, blank]

theorem quiet_draws (shades : Shades α) (C R : Nat) (stream : List UInt8) (records : List MextRecord)
    (carries : Carries stream records) (quiet : ∀ record ∈ records, record.Quiet) :
    MextDraws shades C R stream blank := by
  obtain ⟨raw, rfl, sized, rfl⟩ := carries
  refine ⟨raw, rfl, sized, ?_⟩
  induction raw with
  | nil => rfl
  | cons record rest ih =>
      rw [List.map_cons, stack, quiet_blank shades C R record (quiet _ (by simp)),
        ih (fun r member => sized r (by simp [member])) (fun r member => quiet r (by simp [member]))]
      rfl

theorem all_bits_draws (shades : Shades α) (C R : Nat) (r : MonomeRotate) (lit : Bool) :
    MextDraws shades C R [if lit then 0x13 else 0x12] (seen r C R (flood (shades.bit lit))) := by
  have lamp : mextLamp shades C R (if lit then 0x13 else 0x12, []) = seen r C R (flood (shades.bit lit)) := by
    cases lit <;> rfl
  rw [← lamp]
  exact draws_one _ _ (_, []) (by cases lit <;> rfl)

theorem all_levels_draws (shades : Shades α) (C R : Nat) (r : MonomeRotate) (level : UInt32) :
    MextDraws shades C R [0x19, level.toUInt8] (seen r C R (flood (shades.level (level.toNat % 16)))) := by
  have kept : level.toUInt8.toNat % 16 = level.toNat % 16 := by
    rw [UInt32.toNat_toUInt8]
    omega
  have counted : recordLength 0x19 = 1 := by decide
  have sized : Records.Sized recordLength (0x19, [level.toUInt8]) := counted.symm
  rw [← kept]
  exact draws_one _ (mextLamp shades C R) _ sized

section Calls

variable (t : Target) (shades : Shades α) (monome : Monome) (C R : Nat) (grid : BlockGrid C R)
  (has : HasGrid monome C R)

theorem one_message_draws (msg : MextMsg) (pic : Pic (Nat × Nat) α) (draws : MextDraws shades C R msg.wire pic) :
    MextDraws shades C R ([msg].map MextMsg.wire).flatten pic := by
  rw [List.map_singleton, List.flatten_singleton]
  exact draws

theorem quiet_call_draws (call : OutputCall) (records : List MextRecord) (msgs : List MextMsg)
    (built : mextMessages t monome call = .ok msgs) (said : mextRecords t monome call = .ok records)
    (quiet : ∀ record ∈ records ++ call.stray, record.Quiet) :
    ∃ msgs, mextMessages t monome call = .ok msgs ∧ MextDraws shades C R (msgs.map MextMsg.wire).flatten
      (seen monome.rotation C R blank) := by
  obtain ⟨others, same, carries⟩ := call_carries t monome call msgs built
  rw [said] at same
  cases same
  rw [seen_blank]
  exact ⟨msgs, built, quiet_draws shades C R _ _ carries quiet⟩

include grid has

theorem bit_call_draws (x y on : UInt32) (xSmall : x.toNat < 256) (ySmall : y.toNat < 256) :
    MextDraws shades C R ((MextMsg.fresh ssLedGrid (if on ≠ 0 then cmdLedOn else cmdLedOff)).put 0
      [(rotateCoords monome x y).1.toUInt8, (rotateCoords monome x y).2.toUInt8]).wire
      (seen monome.rotation C R (tint shades.bit (GridCall.set x y on).picture)) := by
  have shown := set_frame_seen monome C R grid has x y on xSmall ySmall
  have header := set_header (on ≠ 0)
  rw [led_set_wire]
  exact bit_frame_draws shades _ C R _ _ _ header.1 header.2 shown

theorem map_call_draws (xOff yOff : UInt32) (data : List UInt8) (valid : (GridCall.map xOff yOff data).Valid) :
    MextDraws shades C R (mextLedMapMsg t monome xOff yOff (data.take 8)).wire
      (seen monome.rotation C R (tint shades.bit (GridCall.map xOff yOff data).picture)) := by
  obtain ⟨⟨xAligned, yAligned⟩, supplied, addressed⟩ := valid
  have supplied : 8 ≤ data.length := supplied
  have small := block_dots_small _ _ _ addressed
  have whole : (data.take 8).length = 8 := by
    rw [List.length_take]
    omega
  have shown := map_frame_seen t monome C R grid has xOff yOff _ whole xAligned yAligned small.1 small.2
  have sameBits : block xOff.toNat yOff.toNat 8 8 (mapBit data) = block xOff.toNat yOff.toNat 8 8 (mapBit (data.take 8)) :=
    block_congr _ _ _ _ _ _ fun i _ j low => (map_bit_taken data i j low).symm
  rw [led_map_wire t monome xOff yOff _ whole] at shown ⊢
  rw [GridCall.picture, sameBits]
  refine bit_frame_draws shades _ C R _ _ _ (by decide) ?_ shown
  rw [List.length_cons, List.length_cons, map_cb_length t _ whole]
  rfl

theorem level_set_draws (x y level : UInt32) (xSmall : x.toNat < 256) (ySmall : y.toNat < 256) :
    MextDraws shades C R (((MextMsg.fresh ssLedGrid cmdLedLevelSet).put 2 [level.toUInt8]).put 0
      [(rotateCoords monome x y).1.toUInt8, (rotateCoords monome x y).2.toUInt8]).wire
      (seen monome.rotation C R (tint shades.level (LevelCall.set x y level).picture)) := by
  have shown := level_set_frame_seen monome C R grid has x y level xSmall ySmall
  rw [led_level_set_wire]
  exact level_frame_draws shades _ C R _ _ _ (by decide) rfl shown

theorem level_map_call_draws (xOff yOff : UInt32) (data : List UInt8) (valid : (LevelCall.map xOff yOff data).Valid) :
    MextDraws shades C R (mextLedLevelMapMsg monome xOff yOff (data.take 64)).wire
      (seen monome.rotation C R (tint shades.level (LevelCall.map xOff yOff data).picture)) := by
  obtain ⟨⟨xAligned, yAligned⟩, supplied, addressed⟩ := valid
  have supplied : 64 ≤ data.length := supplied
  have small := block_dots_small _ _ _ addressed
  have whole : (data.take 64).length = 64 := by
    rw [List.length_take]
    omega
  have long := level_map_cb_length monome.rotation (List.replicate 64 0) (data.take 64) List.length_replicate whole
  have shown := level_map_frame_seen monome C R grid has xOff yOff _ whole xAligned yAligned small.1 small.2
  have sameLevels : block xOff.toNat yOff.toNat 8 8 (fun i j => runLevel data (8 * j + i)) =
      block xOff.toNat yOff.toNat 8 8 fun i j => runLevel (data.take 64) (8 * j + i) :=
    block_congr _ _ _ _ _ _ fun i left j low => (run_level_copied data 64 (8 * j + i) (by omega)).symm
  rw [led_level_map_wire monome xOff yOff _ whole] at shown ⊢
  rw [LevelCall.picture, sameLevels]
  refine level_frame_draws shades _ C R _ _ _ (by decide) ?_ shown
  rw [List.length_cons, List.length_cons, packed_length 32 _ (by omega)]
  rfl

theorem mext_call_draws (call : OutputCall) (drawable : call.Drawable) :
    ∃ msgs, mextMessages t monome call = .ok msgs ∧ MextDraws shades C R (msgs.map MextMsg.wire).flatten
      (seen monome.rotation C R (call.picture shades)) := by
  have quiet (addr cmd : UInt8) (fields : List (List UInt8)) (other : addr ≠ ssLedGrid) :
      ∀ record ∈ [(⟨addr, cmd, fields⟩ : MextRecord)], record.Quiet := by
    intro record member grids
    rw [List.mem_singleton.mp member] at grids
    exact other grids.1
  cases call with
  | ledSet x y on =>
      have small := drawable.2.2 _ (List.mem_singleton.mpr rfl)
      exact ⟨_, rfl, one_message_draws shades C R _ _ (bit_call_draws shades monome C R grid has x y on small.1 small.2)⟩
  | ledAll status =>
      refine ⟨_, rfl, one_message_draws shades C R _ _ ?_⟩
      have draws := all_bits_draws shades C R monome.rotation (decide (status ≠ 0))
      by_cases lit : status ≠ 0
      · simp only [if_pos lit, decide_eq_true lit, OutputCall.picture] at draws ⊢
        rw [wire_of _ ssLedGrid cmdLedAllOn 0x13 [] _ rfl rfl rfl (by decide) rfl]
        exact draws
      · simp only [if_neg lit, decide_eq_false lit, OutputCall.picture] at draws ⊢
        rw [wire_of _ ssLedGrid cmdLedAllOff 0x12 [] _ rfl rfl rfl (by decide) rfl]
        exact draws
  | ledMap xOff yOff data =>
      have supplied : 8 ≤ data.length := drawable.2.1
      refine ⟨[mextLedMapMsg t monome xOff yOff (data.take 8)], by rw [mextMessages, copyOut, if_pos supplied]; rfl, ?_⟩
      exact one_message_draws shades C R _ _ (map_call_draws t shades monome C R grid has xOff yOff data drawable)
  | ledRow xOff y count data =>
      obtain ⟨aligned, supplied, addressed⟩ := drawable
      have supplied : count ≤ data.length := supplied
      have small := fun some => row_dots_small xOff.toNat y.toNat (8 * count) (runBit data) some addressed
      rcases Nat.eq_zero_or_pos count with rfl | some
      · refine ⟨[], rfl, ?_⟩
        rw [OutputCall.picture, GridCall.picture, Nat.mul_zero, row_run_none, tint_blank, seen_blank]
        exact draws_nothing _ _
      · have inside := small (by omega)
        exact run_messages_draw _ _ _ _ _ _ _ (row_messages shades monome C R grid has y inside.2) count xOff data aligned
          (.inr inside.1) (by omega)
  | ledCol x yOff count data =>
      obtain ⟨aligned, supplied, addressed⟩ := drawable
      have supplied : count ≤ data.length := supplied
      have small := fun some => col_dots_small x.toNat yOff.toNat (8 * count) (runBit data) some addressed
      rcases Nat.eq_zero_or_pos count with rfl | some
      · refine ⟨[], rfl, ?_⟩
        rw [OutputCall.picture, GridCall.picture, Nat.mul_zero, col_run_none, tint_blank, seen_blank]
        exact draws_nothing _ _
      · have inside := small (by omega)
        exact run_messages_draw _ _ _ _ _ _ _ (col_messages shades monome C R grid has x inside.1) count yOff data aligned
          (.inr inside.2) (by omega)
  | ledIntensity brightness =>
      refine quiet_call_draws t shades monome C R _ _ _ rfl rfl fun record member => ?_
      rw [List.mem_singleton.mp member]
      exact fun grids => grids.2 rfl
  | ledLevelSet x y level =>
      have small := drawable.2.2 _ (List.mem_singleton.mpr rfl)
      exact ⟨_, rfl, one_message_draws shades C R _ _
        (level_set_draws shades monome C R grid has x y level small.1 small.2)⟩
  | ledLevelAll level =>
      refine ⟨_, rfl, one_message_draws shades C R _ _ ?_⟩
      rw [wire_of _ ssLedGrid cmdLedLevelAll 0x19 [level.toUInt8] (List.replicate 65 0) rfl rfl rfl (by decide) rfl]
      exact all_levels_draws shades C R monome.rotation level
  | ledLevelMap xOff yOff data =>
      have supplied : 64 ≤ data.length := drawable.2.1
      refine ⟨[mextLedLevelMapMsg monome xOff yOff (data.take 64)], by rw [mextMessages, copyOut, if_pos supplied]; rfl, ?_⟩
      exact one_message_draws shades C R _ _ (level_map_call_draws shades monome C R grid has xOff yOff data drawable)
  | ledLevelRow xOff row count data =>
      obtain ⟨aligned, supplied, addressed⟩ := drawable
      have supplied : 8 * (count / 8) ≤ data.length := supplied
      have small := fun some => row_dots_small xOff.toNat row.toNat (8 * (count / 8)) (runLevel data) some addressed
      rw [mextMessages, Nat.shiftRight_eq_div_pow]
      rcases Nat.eq_zero_or_pos (count / 8) with none | some
      · refine ⟨[], by rw [none]; rfl, ?_⟩
        rw [OutputCall.picture, LevelCall.picture, none, Nat.mul_zero, row_run_none, tint_blank, seen_blank]
        exact draws_nothing _ _
      · have inside := small (by omega)
        exact run_messages_draw _ _ _ _ _ _ _ (level_row_messages shades monome C R grid has row inside.2) (count / 8) xOff
          data aligned (.inr inside.1) supplied
  | ledLevelCol col yOff count data =>
      obtain ⟨aligned, supplied, addressed⟩ := drawable
      have supplied : 8 * (count / 8) ≤ data.length := supplied
      have small := fun some => col_dots_small col.toNat yOff.toNat (8 * (count / 8)) (runLevel data) some addressed
      rw [mextMessages, Nat.shiftRight_eq_div_pow]
      rcases Nat.eq_zero_or_pos (count / 8) with none | some
      · refine ⟨[], by rw [none]; rfl, ?_⟩
        rw [OutputCall.picture, LevelCall.picture, none, Nat.mul_zero, col_run_none, tint_blank, seen_blank]
        exact draws_nothing _ _
      · have inside := small (by omega)
        exact run_messages_draw _ _ _ _ _ _ _ (level_col_messages shades monome C R grid has col inside.1) (count / 8) yOff
          data aligned (.inr inside.2) supplied
  | ledRingMap ring levels =>
      have supplied : 64 ≤ levels.length := drawable
      have copied : copyOut 64 levels = .ok (levels.take 64) := if_pos supplied
      have built : ∃ msgs, mextMessages t monome (.ledRingMap ring levels) = .ok msgs := by
        rw [mextMessages, copied]
        exact ⟨_, rfl⟩
      obtain ⟨msgs, built⟩ := built
      refine quiet_call_draws t shades monome C R _ [_] msgs built ?_ (quiet ssLedRing cmdLedRingMap
        [[ring.toUInt8], levelValues 64 (levels.take 64)] (by decide))
      rw [mextRecords, copied]
      rfl
  | ledRingSet | ledRingAll | ledRingRange =>
      exact quiet_call_draws t shades monome C R _ _ _ rfl rfl (quiet ssLedRing _ _ (by decide))
  | ledRingIntensity brightness =>
      refine quiet_call_draws t shades monome C R _ _ _ rfl rfl fun record member => ?_
      rcases List.mem_append.mp member with one | stray
      · exact quiet ssLedRing _ _ (by decide) record one
      · exact quiet ssSystem _ _ (by decide) record stray
  | tiltEnable | tiltDisable =>
      exact quiet_call_draws t shades monome C R _ _ _ rfl rfl (quiet ssTilt _ _ (by decide))

end Calls

def MextGrid (C R : Nat) (device : Device) : Prop := ∃ self : Mext, device = .mext self ∧ HasGrid self.monome C R

theorem mext_drafts (t : Target) (shades : Shades α) (C R : Nat) (grid : BlockGrid C R) :
    Drafts t C R recordLength (mextLamp shades C R) (MextGrid C R) (fun _ call => call.Drawable)
      (fun _ => OutputCall.picture shades) where
  turned device rotation known := by
    obtain ⟨self, rfl, has⟩ := known
    exact ⟨_, rfl, has.cols, has.rows⟩
  draws device known call drawable := by
    obtain ⟨self, rfl, has⟩ := known
    obtain ⟨msgs, built, drawn⟩ := mext_call_draws t shades self.monome C R grid has call drawable
    refine ⟨msgs.map MextMsg.wire, ?_, drawn⟩
    rw [mext_frames, built]
    rfl

theorem proper_everywhere (drawable : OutputCall → Prop) (r : MonomeRotate) (program : List Command)
    (all : ∀ call, Command.call call ∈ program → drawable call) : Proper (fun _ call => drawable call) r program := by
  induction program generalizing r with
  | nil => trivial
  | cons command rest ih =>
      have later := fun r => ih r fun call member => all call (by simp [member])
      cases command with
      | rotate rotation => exact later _
      | call call => exact ⟨all call (by simp), later r⟩

theorem mext_program_shown (t : Target) (shades : Shades α) (self : Mext) (C R : Nat) (grid : BlockGrid C R)
    (has : HasGrid self.monome C R) (program : List Command)
    (drawable : ∀ call, Command.call call ∈ program → call.Drawable) (lamps : Canvas (Nat × Nat) α) :
    (Device.mext self).program t (panel recordLength (mextLamp shades C R)) program ⟨none, lamps⟩ =
      .ok ((), ⟨none, paint (programPicture (fun _ => OutputCall.picture shades) C R self.monome.rotation program) lamps⟩) :=
  program_shown t C R _ _ _ _ _ (mext_drafts t shades C R grid) (.mext self) ⟨self, rfl, has⟩ program
    (proper_everywhere _ _ program drawable) lamps

theorem mext_program_shown_turned : ∃ shown,
    (Device.mext { mextNew with monome := ⟨8, 16, .rotate0, none, .unset⟩ }).program ⟨true, false⟩
      (panel recordLength (mextLamp ⟨fun lit => if lit then 15 else 0, id⟩ 16 8))
      [.call (.ledRow 8 2 1 [0x81]), .call (.ledRingIntensity 7), .rotate 2, .call (.ledLevelSet 0 5 4)]
      ⟨none, fun _ => 1⟩ = .ok ((), ⟨none, shown⟩) ∧ shown (8, 2) = 15 ∧ shown (9, 2) = 0 ∧ shown (15, 2) = 4 ∧
      shown (0, 0) = 1 := by
  have grid : BlockGrid 16 8 := ⟨by decide, by decide, by decide, by decide⟩
  have ran := mext_program_shown ⟨true, false⟩ ⟨fun lit => if lit then 15 else 0, id⟩
    { mextNew with monome := ⟨8, 16, .rotate0, none, .unset⟩ } 16 8 grid ⟨by decide, by decide⟩
    [.call (.ledRow 8 2 1 [0x81]), .call (.ledRingIntensity 7), .rotate 2, .call (.ledLevelSet 0 5 4)] ?_ fun _ => 1
  · exact ⟨_, ran, by decide, by decide, by decide, by decide⟩
  · intro call member
    simp only [List.mem_cons, List.not_mem_nil, or_false, Command.call.injEq, reduceCtorEq, false_or] at member
    rcases member with rfl | rfl | rfl
    · exact ⟨(by decide : 8 ∣ 8), (by decide : 1 ≤ 1), by unfold GridCall.Addressed; decide⟩
    · trivial
    · exact ⟨trivial, trivial, by unfold LevelCall.Addressed; decide⟩

end Libmonome
