import Libmonome.Ownership
import Libmonome.Lib.Scan

set_option autoImplicit false

namespace Libmonome

open Scan

-- sscanf with one int to store into, as the C library has it.
def sscanfCount (strict : Bool) (serial pattern : String) : Int32 :=
  match sscanf strict serial.toList pattern.toList with
  | none => 0
  | some result => Int32.ofInt result.1

def storesInteger (strict : Bool) (serial pattern : String) : Bool :=
  match sscanf strict serial.toList pattern.toList with
  | none => false
  | some result => result.2 ≠ []

def deviceOf (strict : Bool) (serial : String) : Option MonomeDevmap :=
  mapping.find? fun m => storesInteger strict serial m.sermatch

structure Stem where
  name : List Char
  separator : Bool
deriving DecidableEq, Repr

def separatorOf (separator : Bool) : List Directive :=
  if separator then [.convert true (some 1) (.scanset [('-', '-'), ('_', '_')])] else []

def Stem.directives (stem : Stem) : List Directive :=
  stem.name.map .literal ++ (separatorOf stem.separator ++ [.convert false none .decimal])

def stems : List Stem := [
  ⟨['m', '6', '4'], true⟩,
  ⟨['m', '1', '2', '8'], true⟩,
  ⟨['m', '2', '5', '6'], true⟩,
  ⟨['m', 'k'], false⟩,
  ⟨['m', '4', '0', 'h'], false⟩,
  ⟨['a', '4', '0', 'h'], true⟩,
  ⟨['m'], false⟩,
  ⟨['M'], false⟩]

theorem mapping_stems :
    mapping.map (fun m => Scan.directives .plain m.sermatch.toList) = stems.map (fun stem => some stem.directives) := by
  decide

-- The rest of a serial behind the name, when it stops where the number should
-- come, with nothing or white space in its place. Behind a separator a library
-- that goes by the standard's letter has a conversion completed already.
def EndsBefore (strict separator : Bool) (rest : List Char) : Prop :=
  if separator then
    rest = [] ∨ (strict = false ∧ ∃ c blanks, (c = '-' ∨ c = '_') ∧ rest = c :: blanks ∧ ∀ b ∈ blanks, isSpace b)
  else ∀ b ∈ rest, isSpace b

def Stem.EndsInside (strict : Bool) (stem : Stem) (serial : List Char) : Prop :=
  (serial <+: stem.name ∧ serial ≠ stem.name) ∨ ∃ rest, serial = stem.name ++ rest ∧ EndsBefore strict stem.separator rest

theorem decimal_exhausted (input : List Char) :
    (Directive.convert false none .decimal).meet input = .exhausted ↔ ∀ c ∈ input, isSpace c := by
  rw [← List.dropWhile_eq_nil_iff]
  simp only [Directive.meet, Conversion.skipsSpace, if_true]
  by_cases blank : input.dropWhile isSpace = []
  · simp [blank]
  · rw [if_neg blank]
    cases Conversion.decimal.item (fieldOf none (input.dropWhile isSpace)) with
    | none => simp [blank]
    | some text => simp [blank]

theorem range_single (a c : Char) : (a ≤ c && c ≤ a) = decide (c = a) := by
  rw [Bool.eq_iff_iff, Bool.and_eq_true, decide_eq_true_iff, decide_eq_true_iff, decide_eq_true_iff]
  exact ⟨fun between => le_antisymm between.2 between.1, fun same => ⟨same.ge, same.le⟩⟩

theorem separator_meets (c : Char) (rest : List Char) :
    (Directive.convert true (some 1) (.scanset [('-', '-'), ('_', '_')])).meet (c :: rest) =
      if c = '-' ∨ c = '_' then .matched [c] rest else .mismatch := by
  have member : inRanges [('-', '-'), ('_', '_')] c = decide (c = '-' ∨ c = '_') := by
    simp only [inRanges, List.any_cons, List.any_nil, range_single, Bool.or_false, Bool.decide_or]
  by_cases found : c = '-' ∨ c = '_'
  · simp [Directive.meet, Conversion.skipsSpace, Conversion.item, fieldOf, member, found]
  · simp [Directive.meet, Conversion.skipsSpace, Conversion.item, fieldOf, member, found]

theorem number_eof (strict separator : Bool) (rest : List Char) :
    (scan strict (separatorOf separator ++ [.convert false none .decimal]) rest false []).1 = -1 ↔
      EndsBefore strict separator rest := by
  cases separator with
  | false =>
      refine (scan_last_eof strict _ rest false rfl).trans ?_
      rw [decimal_exhausted]
      simp [EndsBefore]
  | true =>
      cases rest with
      | nil => simp [separatorOf, scan, Directive.meet, Conversion.skipsSpace, EndsBefore]
      | cons c rest =>
          rw [separatorOf, if_pos rfl, List.singleton_append, scan, separator_meets, EndsBefore, if_pos rfl]
          by_cases found : c = '-' ∨ c = '_'
          · rw [if_pos found]
            refine (scan_last_eof strict _ rest _ rfl).trans ?_
            rw [decimal_exhausted]
            constructor
            · intro blank
              exact .inr ⟨by simpa [Directive.converts] using blank.2, c, rest, found, rfl, blank.1⟩
            · intro ends
              obtain ⟨loose, d, blanks, _, same, blank⟩ := ends.resolve_left (List.cons_ne_nil c rest)
              rw [(List.cons.inj same).2, loose]
              exact ⟨blank, by simp⟩
          · rw [if_neg found]
            refine iff_of_false (by simp) ?_
            intro ends
            obtain ⟨_, d, blanks, separator, same, _⟩ := ends.resolve_left (List.cons_ne_nil c rest)
            rw [← (List.cons.inj same).1] at separator
            exact found separator

theorem stem_eof (strict : Bool) (stem : Stem) (serial : List Char) :
    (scan strict stem.directives serial false []).1 = -1 ↔ stem.EndsInside strict serial := by
  rw [Stem.directives, scan_literals_eof, Stem.EndsInside]
  simp only [number_eof]

theorem stem_stores (strict : Bool) (stem : Stem) (serial : List Char)
    (stores : (scan strict stem.directives serial false []).2 ≠ []) : stem.name <+: serial :=
  scan_literals_assigns strict stem.name serial _ stores

def Stem.Apart (earlier later : Stem) : Prop :=
  ¬ earlier.name <+: later.name ∧
    ∀ c ∈ (earlier.name.drop later.name.length).head?, isSpace c = false ∧ c ≠ '-' ∧ c ≠ '_'

theorem stems_apart : stems.Pairwise Stem.Apart := by simp [stems, Stem.Apart, isSpace]

theorem ends_before_head (strict separator : Bool) (c : Char) (rest : List Char)
    (ends : EndsBefore strict separator (c :: rest)) : isSpace c = true ∨ c = '-' ∨ c = '_' := by
  cases separator with
  | false => exact .inl (ends c List.mem_cons_self)
  | true =>
      obtain ⟨_, d, blanks, found, same, _⟩ := ends.resolve_left (List.cons_ne_nil c rest)
      rw [(List.cons.inj same).1]
      exact .inr found

theorem apart_ends (strict : Bool) (earlier later : Stem) (serial : List Char) (apart : earlier.Apart later)
    (starts : earlier.name <+: serial) : ¬ later.EndsInside strict serial := by
  intro ends
  cases ends with
  | inl short => exact apart.1 (starts.trans short.1)
  | inr whole =>
      obtain ⟨rest, split, ends⟩ := whole
      subst split
      cases List.prefix_or_prefix_of_prefix starts (List.prefix_append later.name rest) with
      | inl inside => exact apart.1 inside
      | inr longer =>
          obtain ⟨more, same⟩ := longer
          rw [← same] at starts
          obtain ⟨behind, split⟩ := (List.prefix_append_right_inj later.name).mp starts
          cases more with
          | nil =>
              rw [List.append_nil] at same
              exact apart.1 (same ▸ List.prefix_rfl)
          | cons c more =>
              have next := apart.2 c (by rw [← same, List.drop_left]; rfl)
              rw [← split] at ends
              cases ends_before_head strict later.separator c _ ends with
              | inl space => rw [next.1] at space; cases space
              | inr found => exact found.elim next.2.1 next.2.2

theorem find_same_iff {α : Type} (loose exact extra : α → Bool) (entries : List α)
    (split : ∀ a ∈ entries, loose a = (exact a || extra a)) (apart : entries.Pairwise fun a b => exact a = true → extra b = false)
    (alone : ∀ a ∈ entries, exact a = true → extra a = false) :
    entries.find? loose = entries.find? exact ↔ ∀ a ∈ entries, extra a = false := by
  induction entries with
  | nil => simp
  | cons first rest ih =>
      have later := ih (fun a member => split a (List.mem_cons_of_mem first member)) (List.pairwise_cons.mp apart).2
        (fun a member => alone a (List.mem_cons_of_mem first member))
      have here := split first List.mem_cons_self
      cases found : exact first with
      | true =>
          rw [found, Bool.true_or] at here
          rw [List.find?_cons_of_pos here, List.find?_cons_of_pos found]
          refine iff_of_true rfl (List.forall_mem_cons.mpr ⟨alone first List.mem_cons_self found, ?_⟩)
          intro a member
          exact (List.pairwise_cons.mp apart).1 a member found
      | false =>
          have missed : ¬ exact first = true := by simp [found]
          rw [found, Bool.false_or] at here
          rw [List.find?_cons_of_neg missed, List.forall_mem_cons, ← here]
          cases loosely : loose first with
          | true =>
              rw [List.find?_cons_of_pos loosely]
              refine iff_of_false ?_ (by simp)
              intro same
              exact missed (List.find?_some same.symm)
          | false =>
              rw [List.find?_cons_of_neg (by simp [loosely]), later]
              simp

theorem stems_known (stem : Stem) (known : stem ∈ stems) :
    ∃ m ∈ mapping, Scan.directives .plain m.sermatch.toList = some stem.directives := by
  have listed := List.mem_map_of_mem (f := fun stem : Stem => some stem.directives) known
  rw [← mapping_stems] at listed
  exact List.mem_map.mp listed

theorem mapping_apart :
    mapping.Pairwise fun earlier later => ∃ before stem : Stem, before.Apart stem ∧
      Scan.directives .plain earlier.sermatch.toList = some before.directives ∧
        Scan.directives .plain later.sermatch.toList = some stem.directives := by
  have listed : (mapping.map fun m => Scan.directives .plain m.sermatch.toList).Pairwise fun first second =>
      ∃ before stem : Stem, before.Apart stem ∧ first = some before.directives ∧ second = some stem.directives := by
    rw [mapping_stems, List.pairwise_map]
    exact stems_apart.imp fun apart => ⟨_, _, apart, rfl, rfl⟩
  exact List.pairwise_map.mp listed

theorem stems_cover (m : MonomeDevmap) (member : m ∈ mapping) :
    ∃ stem ∈ stems, Scan.directives .plain m.sermatch.toList = some stem.directives := by
  have listed := List.mem_map_of_mem (f := fun m => Scan.directives .plain m.sermatch.toList) member
  rw [mapping_stems] at listed
  obtain ⟨stem, known, same⟩ := List.mem_map.mp listed
  exact ⟨stem, known, same.symm⟩

theorem stem_outcomes (strict : Bool) (stem : Stem) (serial : List Char) :
    ((scan strict stem.directives serial false []).1 = -1 ∧ (scan strict stem.directives serial false []).2 = []) ∨
      ((scan strict stem.directives serial false []).1 = 0 ∧ (scan strict stem.directives serial false []).2 = []) ∨
        ((scan strict stem.directives serial false []).1 = 1 ∧ (scan strict stem.directives serial false []).2 ≠ []) := by
  have most := scan_assigns_at_most strict stem.directives serial false []
  have one : stem.directives.countP Directive.assigns = 1 := by
    rw [Stem.directives, List.countP_append, List.countP_append, List.countP_map]
    cases stem.separator with
    | false => simp [separatorOf, Directive.assigns, Function.comp_def]
    | true => simp [separatorOf, Directive.assigns, Function.comp_def]
  rw [one] at most
  cases scan_count strict stem.directives serial false [] with
  | inl eof => exact .inl eof
  | inr counted =>
      generalize (scan strict stem.directives serial false []).2 = items at most counted
      rw [counted]
      cases items with
      | nil => exact .inr (.inl ⟨rfl, rfl⟩)
      | cons item items =>
          have last : items.length = 0 := by
            simp only [List.length_cons, List.length_nil] at most
            omega
          exact .inr (.inr ⟨by rw [List.length_cons, last]; rfl, List.cons_ne_nil item items⟩)

theorem sscanf_count_stem (strict : Bool) (serial pattern : String) (stem : Stem)
    (parsed : Scan.directives .plain pattern.toList = some stem.directives) :
    sscanfCount strict serial pattern = Int32.ofInt (scan strict stem.directives serial.toList false []).1 ∧
      storesInteger strict serial pattern = decide ((scan strict stem.directives serial.toList false []).2 ≠ []) := by
  rw [sscanfCount, storesInteger, sscanf, parsed]
  exact ⟨rfl, rfl⟩

theorem count_eof (strict : Bool) (serial pattern : String) (stem : Stem)
    (parsed : Scan.directives .plain pattern.toList = some stem.directives) :
    sscanfCount strict serial pattern = -1 ↔ stem.EndsInside strict serial.toList := by
  rw [(sscanf_count_stem strict serial pattern stem parsed).1, ← stem_eof]
  obtain eof | none | one := stem_outcomes strict stem serial.toList
  · rw [eof.1]
    decide
  · rw [none.1]
    decide
  · rw [one.1]
    decide

theorem entry_outcomes (strict : Bool) (serial : String) (m : MonomeDevmap) (member : m ∈ mapping) :
    (sscanfCount strict serial m.sermatch = -1 ∧ storesInteger strict serial m.sermatch = false) ∨
      (sscanfCount strict serial m.sermatch = 0 ∧ storesInteger strict serial m.sermatch = false) ∨
        (sscanfCount strict serial m.sermatch = 1 ∧ storesInteger strict serial m.sermatch = true) := by
  obtain ⟨stem, _, parsed⟩ := stems_cover m member
  obtain ⟨count, stores⟩ := sscanf_count_stem strict serial m.sermatch stem parsed
  rw [count, stores]
  obtain eof | none | one := stem_outcomes strict stem serial.toList
  · rw [eof.1, eof.2]
    exact .inl ⟨rfl, rfl⟩
  · rw [none.1, none.2]
    exact .inr (.inl ⟨rfl, rfl⟩)
  · rw [one.1, decide_eq_true one.2]
    exact .inr (.inr ⟨rfl, rfl⟩)

theorem map_serial_to_device_iff (o : Outcomes) (strict : Bool) (serial : String) :
    mapSerialToDevice { o with sscanf := sscanfCount strict } serial = deviceOf strict serial ↔
      ∀ stem ∈ stems, ¬ stem.EndsInside strict serial.toList := by
  rw [mapSerialToDevice, deviceOf, find_same_iff _ _ fun m => decide (sscanfCount strict serial m.sermatch = -1)]
  · constructor
    · intro never stem known
      obtain ⟨m, member, parsed⟩ := stems_known stem known
      have eof := never m member
      rw [decide_eq_false_iff_not, count_eof strict serial m.sermatch stem parsed] at eof
      exact eof
    · intro never m member
      obtain ⟨stem, known, parsed⟩ := stems_cover m member
      rw [decide_eq_false_iff_not, count_eof strict serial m.sermatch stem parsed]
      exact never stem known
  · intro m member
    obtain eof | none | one := entry_outcomes strict serial m member
    · simp only [eof.1, eof.2]
      decide
    · simp only [none.1, none.2]
      decide
    · simp only [one.1, one.2]
      decide
  · refine mapping_apart.imp ?_
    intro earlier later pair found
    obtain ⟨before, stem, apart, parsedBefore, parsed⟩ := pair
    rw [(sscanf_count_stem strict serial earlier.sermatch before parsedBefore).2, decide_eq_true_iff] at found
    rw [decide_eq_false_iff_not, count_eof strict serial later.sermatch stem parsed]
    exact apart_ends strict before stem serial.toList apart (stem_stores strict before serial.toList found)
  · intro m member found
    obtain eof | none | one := entry_outcomes strict serial m member
    · rw [eof.2] at found
      cases found
    · rw [none.2] at found
      cases found
    · rw [one.1]
      decide

-- m4 has a number behind the m of a monome i2c, and is opened as a 40h: with
-- the pattern of that entry sscanf runs out of input and answers EOF.
theorem m4_taken_for_40h :
    (mapSerialToDevice { socketless with sscanf := sscanfCount true } "m4").map MonomeDevmap.friendly = some "monome 40h" ∧
      (deviceOf true "m4").map MonomeDevmap.friendly = some "monome i2c" := by
  decide

end Libmonome
