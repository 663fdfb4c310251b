import Mathlib.Data.List.Basic

set_option autoImplicit false

namespace Scan

-- C's sscanf on a string, taken as its characters before the terminator: white
-- space and ordinary characters in the format, %d, %x and %[...], each with an
-- assignment suppressed by * or a field width.
def isSpace (c : Char) : Bool := c = ' ' || (9 ≤ c.toNat && c.toNat ≤ 13)

def isHex (c : Char) : Bool := c.isDigit || ('a' ≤ c && c ≤ 'f') || ('A' ≤ c && c ≤ 'F')

inductive Conversion where
  | decimal
  | hex
  | scanset (ranges : List (Char × Char))
deriving DecidableEq, Repr

inductive Directive where
  | space
  | literal (c : Char)
  | convert (suppress : Bool) (width : Option Nat) (conversion : Conversion)
deriving DecidableEq, Repr

-- Where the reading of a format is: between directives, behind a percent sign,
-- or inside the brackets of a scanset.
inductive Mode where
  | plain
  | percent (suppress : Bool) (width : Option Nat)
  | brackets (suppress : Bool) (width : Option Nat) (chars : List Char)

def setRanges : List Char → List (Char × Char)
  | low :: '-' :: high :: rest => (low, high) :: setRanges rest
  | c :: rest => (c, c) :: setRanges rest
  | [] => []

def inRanges (ranges : List (Char × Char)) (c : Char) : Bool := ranges.any fun range => range.1 ≤ c && c ≤ range.2

def directives : Mode → List Char → Option (List Directive)
  | .plain, [] => some []
  | _, [] => none
  | .plain, c :: rest =>
      if c = '%' then directives (.percent false none) rest
      else if isSpace c then (directives .plain rest).map fun later => .space :: later
      else (directives .plain rest).map fun later => .literal c :: later
  | .percent suppress width, c :: rest =>
      if c = '*' then directives (.percent true width) rest
      else if c.isDigit then directives (.percent suppress (some (10 * width.getD 0 + (c.toNat - 48)))) rest
      else if c = 'd' then (directives .plain rest).map fun later => .convert suppress width .decimal :: later
      else if c = 'x' then (directives .plain rest).map fun later => .convert suppress width .hex :: later
      else if c = '[' then directives (.brackets suppress width []) rest
      else none
  | .brackets suppress width chars, c :: rest =>
      if c = ']' ∧ chars ≠ [] then
        (directives .plain rest).map fun later => .convert suppress width (.scanset (setRanges chars)) :: later
      else if c = '^' ∧ chars = [] then none
      else directives (.brackets suppress width (chars ++ [c])) rest

def sign : List Char → List Char
  | c :: _ => if c = '+' ∨ c = '-' then [c] else []
  | [] => []

def radix : List Char → List Char
  | zero :: x :: _ => if zero = '0' ∧ (x = 'x' ∨ x = 'X') then [zero, x] else []
  | _ => []

-- The longest start of the field the conversion takes, none when that is no
-- item of its kind: a sign or a radix alone is not a number.
def Conversion.item : Conversion → List Char → Option (List Char)
  | .decimal, field =>
      let digits := (field.drop (sign field).length).takeWhile Char.isDigit
      if digits = [] then none else some (sign field ++ digits)
  | .hex, field =>
      let body := field.drop (sign field).length
      let digits := (body.drop (radix body).length).takeWhile isHex
      if digits = [] then none else some (sign field ++ radix body ++ digits)
  | .scanset ranges, field =>
      let text := field.takeWhile (inRanges ranges)
      if text = [] then none else some text

def Conversion.skipsSpace : Conversion → Bool
  | .scanset _ => false
  | _ => true

-- The three ways a directive comes out: executed, a matching failure, and an
-- input failure.
inductive Met where
  | matched (text rest : List Char)
  | mismatch
  | exhausted
deriving DecidableEq, Repr

def fieldOf (width : Option Nat) (input : List Char) : List Char :=
  match width with
  | none => input
  | some width => input.take width

def Directive.meet : Directive → List Char → Met
  | .space, input => .matched [] (input.dropWhile isSpace)
  | .literal _, [] => .exhausted
  | .literal c, d :: rest => if c = d then .matched [d] rest else .mismatch
  | .convert _ width conversion, input =>
      let input := if conversion.skipsSpace then input.dropWhile isSpace else input
      if input = [] then .exhausted
      else
        match conversion.item (fieldOf width input) with
        | none => .mismatch
        | some text => .matched text (input.drop text.length)

def Directive.converts : Directive → Bool
  | .convert _ _ _ => true
  | _ => false

def Directive.assigns : Directive → Bool
  | .convert suppress _ _ => !suppress
  | _ => false

-- The count returned and the items assigned. An input failure is EOF by the
-- standard's letter as long as no conversion has completed, in libraries that
-- count assignments as long as nothing has been assigned.
def scan (strict : Bool) : List Directive → List Char → (completed : Bool) → (items : List (List Char)) →
    Int × List (List Char)
  | [], _, _, items => (items.length, items)
  | directive :: rest, input, completed, items =>
      match directive.meet input with
      | .mismatch => (items.length, items)
      | .exhausted => (if items = [] ∧ ¬ (strict ∧ completed) then -1 else items.length, items)
      | .matched text input =>
          scan strict rest input (completed || directive.converts) (if directive.assigns then items ++ [text] else items)

def sscanf (strict : Bool) (input format : List Char) : Option (Int × List (List Char)) :=
  (directives .plain format).map fun parsed => scan strict parsed input false []

theorem scan_count (strict : Bool) (parsed : List Directive) (input : List Char) (completed : Bool)
    (items : List (List Char)) :
    ((scan strict parsed input completed items).1 = -1 ∧ (scan strict parsed input completed items).2 = []) ∨
      (scan strict parsed input completed items).1 = (scan strict parsed input completed items).2.length := by
  induction parsed generalizing input completed items with
  | nil => exact .inr rfl
  | cons directive rest ih =>
      rw [scan]
      cases directive.meet input with
      | mismatch => exact .inr rfl
      | exhausted =>
          by_cases eof : items = [] ∧ ¬ (strict ∧ completed)
          · rw [if_pos eof]
            exact .inl ⟨rfl, eof.1⟩
          · rw [if_neg eof]
            exact .inr rfl
      | matched text input => exact ih input _ _

theorem scan_assigns_at_most (strict : Bool) (parsed : List Directive) (input : List Char) (completed : Bool)
    (items : List (List Char)) :
    (scan strict parsed input completed items).2.length ≤ items.length + parsed.countP Directive.assigns := by
  induction parsed generalizing input completed items with
  | nil => exact Nat.le_refl _
  | cons directive rest ih =>
      rw [scan]
      cases directive.meet input with
      | mismatch => exact Nat.le_add_right _ _
      | exhausted => exact Nat.le_add_right _ _
      | matched text input =>
          refine Nat.le_trans (ih input _ _) ?_
          rw [List.countP_cons]
          by_cases assigned : directive.assigns = true
          · rw [if_pos assigned, if_pos assigned, List.length_append]
            simp only [List.length_singleton]
            omega
          · rw [if_neg assigned, if_neg assigned]
            exact Nat.le_refl _

theorem scan_literals_eof (strict : Bool) (text input : List Char) (parsed : List Directive) :
    (scan strict (text.map .literal ++ parsed) input false []).1 = -1 ↔
      (input <+: text ∧ input ≠ text) ∨ ∃ rest, input = text ++ rest ∧ (scan strict parsed rest false []).1 = -1 := by
  induction text generalizing input with
  | nil => simp
  | cons c text ih =>
      cases input with
      | nil => simp [scan, Directive.meet]
      | cons d input =>
          rw [List.map_cons, List.cons_append, scan, Directive.meet]
          by_cases same : c = d
          · subst same
            rw [if_pos rfl]
            refine (ih input).trans ?_
            simp [List.cons_prefix_cons]
          · rw [if_neg same]
            simp [List.cons_prefix_cons, Ne.symm same]

theorem scan_literals_assigns (strict : Bool) (text input : List Char) (parsed : List Directive)
    (assigned : (scan strict (text.map .literal ++ parsed) input false []).2 ≠ []) : text <+: input := by
  induction text generalizing input with
  | nil => exact List.nil_prefix
  | cons c text ih =>
      cases input with
      | nil => exact absurd rfl assigned
      | cons d input =>
          rw [List.map_cons, List.cons_append, scan, Directive.meet] at assigned
          by_cases same : c = d
          · rw [if_pos same] at assigned
            rw [same]
            exact List.cons_prefix_cons.mpr ⟨rfl, ih input assigned⟩
          · rw [if_neg same] at assigned
            exact absurd rfl assigned

theorem scan_last_eof (strict : Bool) (directive : Directive) (input : List Char) (completed : Bool)
    (assigns : directive.assigns = true) :
    (scan strict [directive] input completed []).1 = -1 ↔ directive.meet input = .exhausted ∧ ¬ (strict ∧ completed) := by
  rw [scan]
  cases directive.meet input with
  | mismatch => simp
  | exhausted => simp
  | matched text rest => simp [scan, assigns]

theorem scan_literals_past (strict : Bool) (text rest : List Char) (parsed : List Directive) (completed : Bool)
    (items : List (List Char)) :
    scan strict (text.map .literal ++ parsed) (text ++ rest) completed items = scan strict parsed rest completed items := by
  induction text with
  | nil => rfl
  | cons c text ih =>
      rw [List.map_cons, List.cons_append, List.cons_append, scan, Directive.meet, if_pos rfl]
      simpa [Directive.converts, Directive.assigns] using ih

theorem run_taken (p : Char → Bool) (run rest : List Char) (inside : ∀ c ∈ run, p c = true)
    (stop : ∀ c ∈ rest.head?, p c = false) : (run ++ rest).takeWhile p = run := by
  rw [List.takeWhile_append_of_pos inside]
  cases rest with
  | nil => simp
  | cons c rest => simp [stop c rfl]

theorem hex_visible (c : Char) (hex : isHex c = true) : isSpace c = false ∧ ¬ (c = '+' ∨ c = '-') ∧ ¬ (c = 'x' ∨ c = 'X') := by
  have inside : 48 ≤ c.toNat ∧ c.toNat ≤ 102 ∧ c.toNat ≠ 88 := by
    have ends : '0'.toNat = 48 ∧ '9'.toNat = 57 ∧ 'a'.toNat = 97 ∧ 'f'.toNat = 102 ∧ 'A'.toNat = 65 ∧ 'F'.toNat = 70 := by
      decide
    simp only [isHex, Char.isDigit, Bool.or_eq_true, Bool.and_eq_true, decide_eq_true_eq, Char.le_def,
      UInt32.le_iff_toNat_le, ge_iff_le, Char.toNat] at hex ends ⊢
    omega
  have apart : ∀ d : Char, d.toNat < 48 ∨ 102 < d.toNat ∨ d.toNat = 88 → c ≠ d := by
    intro d outside same
    subst same
    omega
  refine ⟨?_, fun found => ?_, fun found => ?_⟩
  · simp only [isSpace, apart ' ' (by decide), decide_false, Bool.false_or, Bool.and_eq_false_iff, decide_eq_false_iff_not]
    omega
  · exact found.elim (apart '+' (by decide)) (apart '-' (by decide))
  · exact found.elim (apart 'x' (by decide)) (apart 'X' (by decide))

theorem hex_meets (suppress : Bool) (digits rest : List Char) (some : digits ≠ []) (hex : ∀ c ∈ digits, isHex c = true)
    (stop : ∀ c ∈ rest.head?, isHex c = false ∧ ¬ (c = 'x' ∨ c = 'X')) :
    (Directive.convert suppress none .hex).meet (digits ++ rest) = .matched digits rest := by
  obtain ⟨first, more, rfl⟩ := List.exists_cons_of_ne_nil some
  obtain ⟨visible, unsigned, _⟩ := hex_visible first (hex first List.mem_cons_self)
  have noRadix : radix (first :: more ++ rest) = [] := by
    cases more with
    | nil =>
        cases rest with
        | nil => rfl
        | cons c rest =>
            have none : ¬ (first = '0' ∧ (c = 'x' ∨ c = 'X')) := fun both => (stop c rfl).2 both.2
            exact if_neg none
    | cons second more =>
        have none : ¬ (first = '0' ∧ (second = 'x' ∨ second = 'X')) :=
          fun both => (hex_visible second (hex second (by simp))).2.2 both.2
        exact if_neg none
  have noSign : sign (first :: more ++ rest) = [] := if_neg unsigned
  have taken := run_taken isHex (first :: more) rest hex fun c member => (stop c member).1
  have item : Conversion.hex.item (first :: more ++ rest) = .some (first :: more) := by
    simp only [Conversion.item, noSign, noRadix, List.length_nil, List.drop_zero, taken, List.nil_append]
    rw [if_neg some]
  have kept : (first :: more ++ rest).dropWhile isSpace = first :: more ++ rest := by
    rw [List.cons_append, List.dropWhile_cons_of_neg (by simp [visible])]
  simp only [Directive.meet, Conversion.skipsSpace, if_true, kept, fieldOf, item]
  rw [if_neg (by simp), List.drop_left]

theorem scanset_meets (suppress : Bool) (ranges : List (Char × Char)) (run rest : List Char) (some : run ≠ [])
    (inside : ∀ c ∈ run, inRanges ranges c = true) (stop : ∀ c ∈ rest.head?, inRanges ranges c = false) :
    (Directive.convert suppress none (.scanset ranges)).meet (run ++ rest) = .matched run rest := by
  have taken := run_taken (inRanges ranges) run rest inside stop
  have item : (Conversion.scanset ranges).item (run ++ rest) = .some run := by
    simp only [Conversion.item, taken]
    rw [if_neg some]
  have skips : (Conversion.scanset ranges).skipsSpace = false := rfl
  simp only [Directive.meet, skips, Bool.false_eq_true, if_false, fieldOf, item]
  rw [if_neg (by simp [some]), List.drop_left]

end Scan
