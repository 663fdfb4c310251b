import Libmonome.Cpp.Wrapper

set_option autoImplicit false

namespace Libmonome

variable {κ : Type}

def Owns (w : World κ) (x s h : Nat) : Prop := w.objects x = some ⟨some s, some h⟩

def slotFor (s : Nat) (callback : Option κ) : MonomeCallback :=
  if callback.isSome then ⟨some .handleEvent, some s⟩ else noHandler

structure Sound (w : World κ) : Prop where
  whole : ∀ x o, w.objects x = some o → o = ⟨none, none⟩ ∨ ∃ s h, o = ⟨some s, some h⟩
  tables : ∀ x s h, Owns w x s h → ∃ handlers state, w.handles h = some handlers ∧ w.states s = some state ∧
    (∀ type, handlers type = slotFor s (state.callbacks type)) ∧ state.failureCount = UInt64.ofNat (throwsOf w h)
  sole : ∀ x y s s' h h', Owns w x s h → Owns w y s' h' → s = s' ∨ h = h' → x = y
  owned : ∀ h, (w.handles h).isSome → ∃ x s, Owns w x s h
  numbered : ∀ h, w.closed.count h = if h < w.opened ∧ w.handles h = none then 1 else 0
  unopened : ∀ h, w.opened ≤ h → w.handles h = none ∧ throwsOf w h = 0
  unmade : ∀ s, w.made ≤ s → w.states s = none

theorem event_index_to_c (type : MonomeEventType) : eventIndex (toC type) = some type := by
  cases type <;> rfl

theorem sound_empty : Sound (World.empty : World κ) where
  whole _ _ there := by cases there
  tables _ _ _ owns := by cases owns
  sole _ _ _ _ _ _ owns := by cases owns
  owned _ there := by cases there
  numbered h := by simp [World.empty]
  unopened _ _ := ⟨rfl, rfl⟩
  unmade _ _ := rfl

section Steps

variable (w : World κ) (sound : Sound w)
include sound

theorem owner_bounds (x s h : Nat) (owns : Owns w x s h) : s < w.made ∧ h < w.opened := by
  obtain ⟨handlers, state, open_, there, -, -⟩ := sound.tables x s h owns
  constructor
  · by_contra late
    rw [sound.unmade s (Nat.le_of_not_lt late)] at there
    cases there
  · by_contra late
    rw [(sound.unopened h (Nat.le_of_not_lt late)).1] at open_
    cases open_

theorem sound_unmade : Sound { w with made := w.made + 1 } :=
  ⟨sound.whole, sound.tables, sound.sole, sound.owned, sound.numbered, sound.unopened,
    fun s late => sound.unmade s (Nat.le_of_succ_le late)⟩

theorem sound_renamed (objects : Nat → Option MonomeObject) (rename : Nat → Nat)
    (whole : ∀ x o, objects x = some o → o = ⟨none, none⟩ ∨ ∃ s h, o = ⟨some s, some h⟩)
    (stands : ∀ x s h, objects x = some ⟨some s, some h⟩ → Owns w (rename x) s h)
    (apart : ∀ x y s s' h h', objects x = some ⟨some s, some h⟩ → objects y = some ⟨some s', some h'⟩ →
      rename x = rename y → x = y)
    (all : ∀ x s h, Owns w x s h → ∃ y, objects y = some ⟨some s, some h⟩) : Sound { w with objects := objects } := by
  refine ⟨whole, fun x s h owns => sound.tables _ s h (stands x s h owns), fun x y s s' h h' first second shared => ?_,
    fun h open_ => ?_, sound.numbered, sound.unopened, sound.unmade⟩
  · exact apart x y s s' h h' first second (sound.sole _ _ s s' h h' (stands x s h first) (stands y s' h' second) shared)
  · obtain ⟨x, s, owns⟩ := sound.owned h open_
    obtain ⟨y, there⟩ := all x s h owns
    exact ⟨y, s, there⟩

theorem sound_forget (x : Nat) (empty : w.objects x = some ⟨none, none⟩) : Sound (w.setObject x none) := by
  have other (y : Nat) (o : MonomeObject) (there : Function.update w.objects x none y = some o) :
      y ≠ x ∧ w.objects y = some o := by
    rw [Function.update_apply] at there
    by_cases same : y = x
    · rw [if_pos same] at there
      cases there
    · rw [if_neg same] at there
      exact ⟨same, there⟩
  refine sound_renamed w sound _ id (fun y o there => sound.whole y o (other y o there).2)
    (fun y s h owns => (other y _ owns).2) (fun y z _ _ _ _ _ _ same => same) fun y s h owns => ⟨y, ?_⟩
  have apart : y ≠ x := by
    rintro rfl
    rw [Owns, empty] at owns
    cases owns
  rw [Function.update_of_ne apart]
  exact owns

omit sound in
theorem moved_owner (x other : Nat) (o : MonomeObject) (y s h : Nat)
    (owns : Function.update (Function.update w.objects x (some o)) other (some ⟨none, none⟩) y = some ⟨some s, some h⟩) :
    y ≠ other ∧ (if y = x then o = ⟨some s, some h⟩ else Owns w y s h) := by
  have notOther : y ≠ other := by
    rintro rfl
    rw [Function.update_self] at owns
    cases owns
  rw [Function.update_of_ne notOther, Function.update_apply] at owns
  refine ⟨notOther, ?_⟩
  by_cases isX : y = x
  · rw [if_pos isX] at owns ⊢
    exact Option.some.inj owns
  · rw [if_neg isX] at owns ⊢
    exact owns

theorem sound_transfer (x other : Nat) (o : MonomeObject) (apart : x ≠ other) (source : w.objects other = some o)
    (room : w.objects x = none ∨ w.objects x = some ⟨none, none⟩) :
    Sound ((w.setObject x (some o)).setObject other (some ⟨none, none⟩)) := by
  refine sound_renamed w sound (Function.update (Function.update w.objects x (some o)) other (some ⟨none, none⟩))
    (fun y => if y = x then other else y) ?_ ?_ ?_ ?_
  · intro y content there
    by_cases isOther : y = other
    · rw [isOther, Function.update_self] at there
      exact .inl (Option.some.inj there).symm
    · rw [Function.update_of_ne isOther] at there
      by_cases isX : y = x
      · rw [isX, Function.update_self, ← source] at there
        exact sound.whole other content there
      · rw [Function.update_of_ne isX] at there
        exact sound.whole y content there
  · intro y s h owns
    have before := (moved_owner w x other o y s h owns).2
    by_cases isX : y = x
    · rw [if_pos isX] at before
      simp only [if_pos isX]
      exact source.trans (congrArg some before)
    · rw [if_neg isX] at before
      simpa only [if_neg isX] using before
  · intro y z s s' h h' first second same
    have yOther := (moved_owner w x other o y s h first).1
    have zOther := (moved_owner w x other o z s' h' second).1
    by_cases firstX : y = x
    · by_cases secondX : z = x
      · exact firstX.trans secondX.symm
      · simp only [if_pos firstX, if_neg secondX] at same
        exact absurd same.symm zOther
    · by_cases secondX : z = x
      · simp only [if_neg firstX, if_pos secondX] at same
        exact absurd same yOther
      · simpa only [if_neg firstX, if_neg secondX] using same
  · intro y s h owns
    by_cases isOther : y = other
    · rw [Owns, isOther, source] at owns
      refine ⟨x, ?_⟩
      rw [Function.update_of_ne apart, Function.update_self]
      exact owns
    · have notX : y ≠ x := by
        rintro rfl
        rcases room with none | empty
        · rw [Owns, none] at owns
          cases owns
        · rw [Owns, empty] at owns
          cases owns
      refine ⟨y, ?_⟩
      rw [Function.update_of_ne isOther, Function.update_of_ne notX]
      exact owns

theorem sound_owner (x s h : Nat) (owns : Owns w x s h) (handlers : Handlers) (state : CallbackState κ)
    (runs : List (CallbackRun κ)) (agree : ∀ type, handlers type = slotFor s (state.callbacks type))
    (counted : state.failureCount = UInt64.ofNat (throwsOf { w with runs := runs } h))
    (others : ∀ k, k ≠ h → throwsOf { w with runs := runs } k = throwsOf w k) :
    Sound { w with handles := Function.update w.handles h (some handlers),
                   states := Function.update w.states s (some state), runs := runs } := by
  have bounds := owner_bounds w sound x s h owns
  have defined (k : Nat) : Function.update w.handles h (some handlers) k = none ↔ w.handles k = none := by
    rw [Function.update_apply]
    by_cases same : k = h
    · obtain ⟨old, _, open_, -⟩ := sound.tables x s h owns
      simp [same, open_]
    · rw [if_neg same]
  refine ⟨sound.whole, fun y s' h' held => ?_, sound.sole, fun k open_ => ?_, fun k => ?_, fun k late => ?_, fun k late => ?_⟩
  · by_cases same : s' = s ∨ h' = h
    · have isX := sound.sole y x s' s h' h held owns same
      subst isX
      have both : (⟨some s', some h'⟩ : MonomeObject) = ⟨some s, some h⟩ := Option.some.inj (held.symm.trans owns)
      cases both
      exact ⟨handlers, state, Function.update_self _ _ _, Function.update_self _ _ _, agree, counted⟩
    · rw [not_or] at same
      obtain ⟨others', state', open_, there, table, count⟩ := sound.tables y s' h' held
      refine ⟨others', state', ?_, ?_, table, ?_⟩
      · exact (Function.update_of_ne same.2 _ _).trans open_
      · exact (Function.update_of_ne same.1 _ _).trans there
      · exact count.trans (congrArg UInt64.ofNat (others h' same.2).symm)
  · refine sound.owned k ?_
    rw [← Option.ne_none_iff_isSome] at open_ ⊢
    exact fun none => open_ ((defined k).mpr none)
  · rw [sound.numbered k]
    simp only [defined]
  · have late' : w.opened ≤ k := late
    have apart : k ≠ h := by omega
    exact ⟨(defined k).mpr (sound.unopened k late').1, (others k apart).trans (sound.unopened k late').2⟩
  · have apart : k ≠ s := by
      have late' : w.made ≤ k := late
      omega
    exact (Function.update_of_ne apart _ _).trans (sound.unmade k late)

theorem sound_close (x s h : Nat) (owns : Owns w x s h) :
    Sound { w with objects := Function.update w.objects x (some ⟨none, none⟩), handles := Function.update w.handles h none,
                   states := Function.update w.states s none, closed := w.closed ++ [h] } := by
  have bounds := owner_bounds w sound x s h owns
  have before (y s' h' : Nat) (held : Function.update w.objects x (some ⟨none, none⟩) y = some ⟨some s', some h'⟩) :
      y ≠ x ∧ Owns w y s' h' := by
    rw [Function.update_apply] at held
    by_cases same : y = x
    · rw [if_pos same] at held
      cases held
    · rw [if_neg same] at held
      exact ⟨same, held⟩
  refine ⟨fun y o there => ?_, fun y s' h' held => ?_, fun y z s' t' h' k' first second shared => ?_, fun k open_ => ?_,
    fun k => ?_, fun k late => ?_, fun k late => ?_⟩
  · by_cases same : y = x
    · simp only [same, Function.update_self] at there
      exact .inl (Option.some.inj there).symm
    · simp only [Function.update_of_ne same] at there
      exact sound.whole y o there
  · obtain ⟨notX, was⟩ := before y s' h' held
    obtain ⟨handlers, state, open_, there, table, count⟩ := sound.tables y s' h' was
    have notS : s' ≠ s := fun same => notX (sound.sole y x s' s h' h was owns (.inl same))
    have notH : h' ≠ h := fun same => notX (sound.sole y x s' s h' h was owns (.inr same))
    exact ⟨handlers, state, (Function.update_of_ne notH _ _).trans open_, (Function.update_of_ne notS _ _).trans there,
      table, count⟩
  · exact sound.sole y z s' t' h' k' (before y s' h' first).2 (before z t' k' second).2 shared
  · have notH : k ≠ h := by
      rintro rfl
      simp only [Function.update_self] at open_
      cases open_
    simp only [Function.update_of_ne notH] at open_
    obtain ⟨y, s', was⟩ := sound.owned k open_
    have notX : y ≠ x := by
      rintro rfl
      have both := Option.some.inj (was.symm.trans owns)
      cases both
      exact notH rfl
    exact ⟨y, s', (Function.update_of_ne notX _ _).trans was⟩
  · obtain ⟨handlers, _, open_, -⟩ := sound.tables x s h owns
    dsimp only
    rw [List.count_append, sound.numbered k]
    by_cases same : k = h
    · simp [same, open_, bounds.2]
    · simp [Function.update_of_ne same, Ne.symm same]
  · have late' : w.opened ≤ k := late
    have apart : k ≠ h := by omega
    exact ⟨(Function.update_of_ne apart _ _).trans (sound.unopened k late').1, (sound.unopened k late').2⟩
  · have late' : w.made ≤ k := late
    have apart : k ≠ s := by omega
    exact (Function.update_of_ne apart _ _).trans (sound.unmade k late')

theorem sound_open (x : Nat) (free : w.objects x = none) :
    Sound { w with objects := Function.update w.objects x (some ⟨some w.made, some w.opened⟩),
                   handles := Function.update w.handles w.opened (some fun _ => noHandler),
                   states := Function.update w.states w.made (some ⟨fun _ => none, 0⟩),
                   opened := w.opened + 1, made := w.made + 1 } := by
  have before (y s h : Nat)
      (held : Function.update w.objects x (some ⟨some w.made, some w.opened⟩) y = some ⟨some s, some h⟩) :
      (y = x ∧ s = w.made ∧ h = w.opened) ∨ (Owns w y s h ∧ s < w.made ∧ h < w.opened) := by
    by_cases same : y = x
    · rw [same, Function.update_self] at held
      cases held
      exact .inl ⟨same, rfl, rfl⟩
    · rw [Function.update_of_ne same] at held
      exact .inr ⟨held, owner_bounds w sound y s h held⟩
  refine ⟨fun y o there => ?_, fun y s h held => ?_, fun y z s t h k first second shared => ?_, fun k open_ => ?_,
    fun k => ?_, fun k late => ?_, fun k late => ?_⟩
  · by_cases same : y = x
    · simp only [same, Function.update_self] at there
      exact .inr ⟨w.made, w.opened, (Option.some.inj there).symm⟩
    · simp only [Function.update_of_ne same] at there
      exact sound.whole y o there
  · rcases before y s h held with ⟨-, isMade, isOpened⟩ | ⟨was, old⟩
    · subst isMade isOpened
      refine ⟨fun _ => noHandler, ⟨fun _ => none, 0⟩, Function.update_self _ _ _, Function.update_self _ _ _,
        fun _ => rfl, ?_⟩
      exact (congrArg UInt64.ofNat (sound.unopened w.opened (Nat.le_refl _)).2).symm
    · obtain ⟨handlers, state, open_, there, table, count⟩ := sound.tables y s h was
      exact ⟨handlers, state, (Function.update_of_ne (Nat.ne_of_lt old.2) _ _).trans open_,
        (Function.update_of_ne (Nat.ne_of_lt old.1) _ _).trans there, table, count⟩
  · rcases before y s h first with ⟨isX, isMade, isOpened⟩ | ⟨was, old⟩
    · rcases before z t k second with ⟨isX', -⟩ | ⟨-, older⟩
      · exact isX.trans isX'.symm
      · omega
    · rcases before z t k second with ⟨-, isMade, isOpened⟩ | ⟨was', -⟩
      · omega
      · exact sound.sole y z s t h k was was' shared
  · by_cases new : k = w.opened
    · exact ⟨x, w.made, by rw [new]; exact Function.update_self _ _ _⟩
    · simp only [Function.update_of_ne new] at open_
      obtain ⟨y, s, was⟩ := sound.owned k open_
      have notX : y ≠ x := by
        rintro rfl
        rw [Owns, free] at was
        cases was
      exact ⟨y, s, (Function.update_of_ne notX _ _).trans was⟩
  · dsimp only
    rw [sound.numbered k]
    by_cases new : k = w.opened
    · simp [new]
    · have same : k < w.opened + 1 ↔ k < w.opened := by omega
      simp only [Function.update_of_ne new, same]
  · have late' : w.opened + 1 ≤ k := late
    have old := sound.unopened k (by omega)
    exact ⟨(Function.update_of_ne (by omega) _ _).trans old.1, old.2⟩
  · have late' : w.made + 1 ≤ k := late
    exact (Function.update_of_ne (by omega) _ _).trans (sound.unmade k (by omega))

end Steps

end Libmonome
