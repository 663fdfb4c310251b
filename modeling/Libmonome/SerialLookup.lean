import Libmonome.Serials
import Libmonome.Windows

set_option autoImplicit false

namespace Libmonome

open Scan

-- darwin.c.
def strstr : (haystack needle : List Char) → Option (List Char)
  | [], needle => if needle = [] then some [] else none
  | c :: rest, needle => if needle <+: c :: rest then some (c :: rest) else strstr rest needle

def strchr (s : List Char) (c : Char) : Option (List Char) :=
  match s.dropWhile fun d => d ≠ c with
  | [] => none
  | found => some found

def darwinGetDevSerial (memory : Bool) (path : String) : Option String :=
  match strstr path.toList "usbmodem".toList with
  | some serial => strdupOf memory ((serial.drop 7).drop 1)
  | none =>
      match strchr path.toList '-' with
      | none => none
      | some serial => strdupOf memory (serial.drop 1)

-- linux_sysfs.c: what glob answers for a pattern, and what one read finds in a
-- file, if it can be opened and read.
structure Sysfs where
  glob : List Char → List (List Char)
  contents : List Char → Option (List Char)

def ftdiPath : List Char := "/sys/bus/usb/drivers/ftdi_sio".toList
def usbDevices : List Char := "/sys/bus/usb/devices/".toList

-- Of an empty file strndup is to copy all but one byte: there is no end to that.
def getSerial (fs : Sysfs) (memory : Nat → Bool) (device : List Char) : Except Fault (Option String) :=
  if memory 1 then
    match fs.contents (usbDevices ++ (device ++ "/serial".toList)) with
    | none => .ok none
    | some [] => .error .outOfBounds
    | some file => .ok (strdupOf (memory 2) ((file.take 128).dropLast.takeWhile fun c => c ≠ '\x00'))
  else .ok none

-- A path without a second slash is one past NULL.
def sysfsGetDevSerial (fs : Sysfs) (memory : Nat → Bool) (path : String) : Except Fault (Option String) :=
  let path := if path.toList.head? = some '/' then path.toList.tail else path.toList
  match strchr path '/' with
  | none => .error .outOfBounds
  | some path =>
      if memory 0 then
        match fs.glob (ftdiPath ++ ("/*/".toList ++ path.tail)) with
        | [] => .ok none
        | entry :: _ =>
            let device := entry.drop (ftdiPath.length + 1)
            match strchr device ':' with
            | none => .ok none
            | some _ => getSerial fs memory (device.takeWhile fun c => c ≠ ':')
      else .ok none

-- linux_libudev.c: a character device udev knows, and its ID_SERIAL_SHORT.
def libudevGetDevSerial (memory : Bool) (dev : Option (Option (List Char))) : Option String :=
  dev.bind fun serial => serial.bind fun serial => strdupOf memory serial

-- The places a serial number is looked up in: the two forms of device path of
-- darwin.c, the two forms of instance id of windows.c, and the files and the
-- properties of the two for linux.
inductive Naming where
  | usbserial
  | usbmodem
  | ftdibus (vid pid : List Char)
  | usb (vid pid : List Char)
  | sysfs (fs : Sysfs) (bus interface tty : List Char)
  | libudev

def ftdibusHead : List Char := ['F', 'T', 'D', 'I', 'B', 'U', 'S', '\\']
def usbHead : List Char := ['U', 'S', 'B', '\\']
def vidHead : List Char := ['V', 'I', 'D', '_']
def pidHead : List Char := ['P', 'I', 'D', '_']
def portTail : List Char := ['\\', '0', '0', '0', '0']

def ftdibusId (vid pid serial : List Char) : List Char :=
  ftdibusHead ++ vidHead ++ (vid ++ (('+' :: pidHead) ++ (pid ++ (['+'] ++ (serial ++ ['A'] ++ portTail)))))

def usbId (vid pid serial : List Char) : List Char :=
  usbHead ++ vidHead ++ (vid ++ (('&' :: pidHead) ++ (pid ++ (['\\'] ++ serial))))

def Naming.devSerial (naming : Naming) (serial : List Char) : Except Fault (Option String) :=
  match naming with
  | .usbserial => .ok (darwinGetDevSerial true (String.ofList ("/dev/tty.usbserial-".toList ++ serial)))
  | .usbmodem => .ok (darwinGetDevSerial true (String.ofList ("/dev/tty.usbmodem".toList ++ serial)))
  | .ftdibus vid pid => .ok (mGetSerialFromInstanceId true (String.ofList (ftdibusId vid pid serial)))
  | .usb vid pid => .ok (mGetSerialFromInstanceId true (String.ofList (usbId vid pid serial)))
  | .sysfs fs _ _ tty => sysfsGetDevSerial fs (fun _ => true) (String.ofList ('/' :: 'd' :: 'e' :: 'v' :: '/' :: tty))
  | .libudev => .ok (libudevGetDevSerial true (some (some serial)))

def IsId (id : List Char) : Prop := id ≠ [] ∧ ∀ c ∈ id, isHex c = true

def Naming.Holds (naming : Naming) (serial : List Char) : Prop :=
  match naming with
  | .ftdibus vid pid | .usb vid pid => IsId vid ∧ IsId pid
  | .sysfs fs bus interface tty => ':' ∉ bus ∧ serial.length < 128 ∧
      (fs.glob (ftdiPath ++ ("/*/".toList ++ tty))).head? =
        some (ftdiPath ++ '/' :: (bus ++ ':' :: (interface ++ '/' :: tty))) ∧
      fs.contents (usbDevices ++ (bus ++ "/serial".toList)) = some (serial ++ ['\n'])
  | _ => True

-- A serial number as a pattern of the table has it. The pattern of the i2c
-- devices is the start of others, and its number has to be long enough to tell.
def Written (stem : Stem) (serial : List Char) : Prop :=
  ∃ separator number, serial = stem.name ++ (separator ++ number) ∧
    (if stem.separator then separator = ['-'] ∨ separator = ['_'] else separator = []) ∧ number ≠ [] ∧
    (∀ c ∈ number, c.isDigit = true) ∧ (stem.name = ['m'] → 4 ≤ number.length)

section Written

variable (stem : Stem) (serial : List Char) (known : stem ∈ stems) (written : Written stem serial)
include written

theorem written_last : ∃ start c, serial = start ++ [c] ∧ c.isDigit = true := by
  obtain ⟨separator, number, split, _, some, digits, _⟩ := written
  refine ⟨stem.name ++ (separator ++ number.dropLast), number.getLast some, ?_, digits _ (List.getLast_mem some)⟩
  rw [split, List.append_assoc, List.append_assoc, List.dropLast_append_getLast]

include known

theorem written_longer (other : Stem) (listed : other ∈ stems) : ¬ serial <+: other.name := by
  intro short
  obtain ⟨separator, number, split, _, some, _, long⟩ := written
  have positive := List.length_pos_of_ne_nil some
  have starts : stem.name <+: other.name := (split ▸ List.prefix_append stem.name (separator ++ number)).trans short
  have bound := short.length_le
  rw [split, List.length_append, List.length_append] at bound
  have table : ∀ stem ∈ stems, ∀ other ∈ stems, stem.name <+: other.name →
      other.name.length ≤ stem.name.length ∨ stem.name = ['m'] ∧ other.name.length ≤ 4 := by
    decide
  rcases table stem known other listed starts with same | ⟨i2c, brief⟩
  · omega
  · have four := long i2c
    rw [i2c] at bound
    simp only [List.length_singleton] at bound
    omega

theorem written_ends_outside (strict : Bool) (other : Stem) (listed : other ∈ stems) : ¬ other.EndsInside strict serial := by
  obtain ⟨start, c, last, digit⟩ := written_last stem serial written
  have visible : isSpace c = false ∧ ¬ (c = '+' ∨ c = '-') ∧ ¬ (c = 'x' ∨ c = 'X') :=
    hex_visible c (by rw [isHex, digit]; rfl)
  have longer := written_longer stem serial known written other listed
  rintro (⟨inside, _⟩ | ⟨rest, split, ends⟩)
  · exact longer inside
  · rcases List.eq_nil_or_concat rest with none | ⟨before, d, rfl⟩
    · rw [none, List.append_nil] at split
      exact longer (split ▸ List.prefix_rfl)
    · have same : d = c := by
        rw [last, List.concat_eq_append, ← List.append_assoc] at split
        exact (List.append_inj_right' split rfl |> List.cons.inj).1.symm
      rw [same, List.concat_eq_append] at ends
      have blank : isSpace c = true ∨ c = '-' ∨ c = '_' := by
        cases separator : other.separator with
        | false =>
            rw [separator] at ends
            exact .inl (ends c (by simp))
        | true =>
            rw [separator] at ends
            obtain ⟨_, e, blanks, found, cut, blank⟩ := ends.resolve_left (by simp)
            cases before with
            | nil =>
                rw [List.nil_append] at cut
                exact .inr ((List.cons.inj cut).1 ▸ found)
            | cons first before =>
                refine .inl (blank c ?_)
                rw [← (List.cons.inj cut).2]
                simp
      rw [visible.1] at blank
      rcases blank with space | dash | low
      · cases space
      · exact visible.2.1 (.inr dash)
      · rw [low] at digit
        exact absurd digit (by decide)

end Written

theorem map_serial_reads (o : Outcomes) (strict : Bool) (serial : String) :
    mapSerialToDevice { o with sscanf := sscanfCount strict } serial =
      mapping.find? fun m => decide (sscanfCount strict serial m.sermatch ≠ 0) := rfl

-- Where no pattern runs out of input, the truth test of map_serial_to_device
-- is the one that was meant.
theorem map_serial_whole (o : Outcomes) (strict : Bool) (serial : String)
    (outside : ∀ stem ∈ stems, ¬ stem.EndsInside strict serial.toList) :
    mapSerialToDevice { o with sscanf := sscanfCount strict } serial = deviceOf strict serial := by
  rw [map_serial_reads]
  refine List.find?_congr fun m member => ?_
  obtain ⟨stem, known, parsed⟩ := stems_cover m member
  have whole := (count_eof strict serial m.sermatch stem parsed).not.mpr (outside stem known)
  rcases entry_outcomes strict serial m member with eof | none | one
  · exact absurd eof.1 whole
  · rw [none.1, none.2]
    decide
  · rw [one.1, one.2]
    decide

theorem number_stored (strict separator : Bool) (gap number : List Char)
    (gapped : if separator then gap = ['-'] ∨ gap = ['_'] else gap = []) (some : number ≠ [])
    (digits : ∀ c ∈ number, c.isDigit = true) (completed : Bool) :
    (scan strict (separatorOf separator ++ [.convert false none .decimal]) (gap ++ number) completed []).2 = [number] := by
  obtain ⟨first, more, rfl⟩ := List.exists_cons_of_ne_nil some
  have visible : isSpace first = false ∧ ¬ (first = '+' ∨ first = '-') ∧ ¬ (first = 'x' ∨ first = 'X') :=
    hex_visible first (by rw [isHex, digits first List.mem_cons_self]; rfl)
  have run := run_taken Char.isDigit (first :: more) [] digits (by simp)
  rw [List.append_nil] at run
  have meets : (Directive.convert false none .decimal).meet (first :: more) = .matched (first :: more) [] := by
    have unsigned : sign (first :: more) = [] := if_neg visible.2.1
    have item : Conversion.decimal.item (first :: more) = .some (first :: more) := by
      simp only [Conversion.item, unsigned, List.length_nil, List.drop_zero, run, List.nil_append]
      exact if_neg (List.cons_ne_nil _ _)
    have kept : (first :: more).dropWhile isSpace = first :: more := List.dropWhile_cons_of_neg (by simp [visible.1])
    simp only [Directive.meet, Conversion.skipsSpace, if_true, kept, fieldOf, item]
    rw [if_neg (List.cons_ne_nil _ _), List.drop_length]
  have stored (completed : Bool) :
      (scan strict [.convert false none .decimal] (first :: more) completed []).2 = [first :: more] := by
    rw [scan, meets]
    rfl
  cases separator with
  | false =>
      have none : gap = [] := by simpa using gapped
      rw [none]
      exact stored completed
  | true =>
      have one : ∃ c, gap = [c] ∧ (c = '-' ∨ c = '_') := by
        rcases gapped with dash | low
        · exact ⟨'-', dash, .inl rfl⟩
        · exact ⟨'_', low, .inr rfl⟩
      obtain ⟨c, rfl, found⟩ := one
      rw [separatorOf, if_pos rfl, List.singleton_append, List.singleton_append, scan, separator_meets, if_pos found]
      exact stored _

theorem written_stores (strict : Bool) (stem : Stem) (serial : List Char) (written : Written stem serial) :
    (scan strict stem.directives serial false []).2 ≠ [] := by
  obtain ⟨gap, number, split, gapped, some, digits, _⟩ := written
  rw [split, Stem.directives, scan_literals_past, number_stored strict stem.separator gap number gapped some digits]
  exact List.cons_ne_nil _ _

theorem written_found (strict : Bool) (stem : Stem) (known : stem ∈ stems) (serial : List Char)
    (written : Written stem serial) : (deviceOf strict (String.ofList serial)).isSome := by
  obtain ⟨m, member, parsed⟩ := stems_known stem known
  rw [deviceOf, List.find?_isSome]
  refine ⟨m, member, ?_⟩
  rw [(sscanf_count_stem strict _ m.sermatch stem parsed).2, String.toList_ofList, decide_eq_true_iff]
  exact written_stores strict stem serial written

section Darwin

theorem strstr_absent (needle haystack : List Char) (first : Char) (rest : List Char) (same : needle = first :: rest)
    (without : first ∉ haystack) : strstr haystack needle = none := by
  induction haystack with
  | nil => rw [strstr, if_neg (by simp [same])]
  | cons c haystack ih =>
      have parts : ¬ needle <+: c :: haystack := by
        rw [same, List.cons_prefix_cons]
        exact fun both => without (by rw [both.1]; exact List.mem_cons_self)
      rw [strstr, if_neg parts]
      exact ih fun member => without (List.mem_cons_of_mem c member)

theorem written_letters (stem : Stem) (known : stem ∈ stems) (serial : List Char) (written : Written stem serial)
    (c : Char) (other : c = 'u' ∨ c = '\x00') : c ∉ serial := by
  obtain ⟨gap, number, split, gapped, _, digits, _⟩ := written
  have named : ∀ stem ∈ stems, 'u' ∉ stem.name ∧ '\x00' ∉ stem.name := by decide
  have apart : c ∉ stem.name ∧ c ≠ '-' ∧ c ≠ '_' ∧ c.isDigit = false := by
    rcases other with letter | ends
    · exact letter ▸ ⟨(named stem known).1, by decide, by decide, by decide⟩
    · exact ends ▸ ⟨(named stem known).2, by decide, by decide, by decide⟩
  rw [split, List.mem_append, List.mem_append]
  rintro (inName | inGap | inNumber)
  · exact apart.1 inName
  · split at gapped
    · rcases gapped with dash | low
      · rw [dash] at inGap
        exact apart.2.1 (List.mem_singleton.mp inGap)
      · rw [low] at inGap
        exact apart.2.2.1 (List.mem_singleton.mp inGap)
    · rw [gapped] at inGap
      cases inGap
  · exact absurd (digits c inNumber) (by simp [apart.2.2.2])

theorem usbserial_found (stem : Stem) (known : stem ∈ stems) (serial : List Char) (written : Written stem serial) :
    Naming.usbserial.devSerial serial = .ok (some (String.ofList serial)) := by
  have absent := strstr_absent "usbmodem".toList serial 'u' "sbmodem".toList rfl
    (written_letters stem known serial written 'u' (.inl rfl))
  have path : "/dev/tty.usbserial-".toList =
      ['/', 'd', 'e', 'v', '/', 't', 't', 'y', '.', 'u', 's', 'b', 's', 'e', 'r', 'i', 'a', 'l', '-'] := rfl
  have needle : "usbmodem".toList = ['u', 's', 'b', 'm', 'o', 'd', 'e', 'm'] := rfl
  rw [needle] at absent
  have none : strstr ("/dev/tty.usbserial-".toList ++ serial) "usbmodem".toList = none := by
    rw [path, needle]
    simp [strstr, absent]
  have dashed : strchr ("/dev/tty.usbserial-".toList ++ serial) '-' = some ('-' :: serial) := by
    rw [path]
    simp [strchr]
  rw [Naming.devSerial, darwinGetDevSerial, String.toList_ofList, none]
  simp only [dashed]
  rfl

theorem usbmodem_found (serial : List Char) : Naming.usbmodem.devSerial serial = .ok (some (String.ofList serial)) := by
  have path : "/dev/tty.usbmodem".toList =
      ['/', 'd', 'e', 'v', '/', 't', 't', 'y', '.', 'u', 's', 'b', 'm', 'o', 'd', 'e', 'm'] := rfl
  have needle : "usbmodem".toList = ['u', 's', 'b', 'm', 'o', 'd', 'e', 'm'] := rfl
  have found : strstr ("/dev/tty.usbmodem".toList ++ serial) "usbmodem".toList = some ("usbmodem".toList ++ serial) := by
    rw [path, needle]
    simp [strstr]
  rw [Naming.devSerial, darwinGetDevSerial, String.toList_ofList, found]
  rfl

end Darwin

section Windows

def alnum : List (Char × Char) := [('a', 'z'), ('A', 'Z'), ('0', '9')]

def idDirectives (bus middle last : List Char) : List Directive :=
  bus.map .literal ++ (.convert true none .hex :: (middle.map .literal ++ (.convert true none .hex ::
    (last.map .literal ++ [.convert false none (.scanset alnum), .literal 'm']))))

theorem id_patterns :
    Scan.directives .plain ftdibusPattern.toList = some (idDirectives (ftdibusHead ++ vidHead) ('+' :: pidHead) ['+']) ∧
    Scan.directives .plain usbPattern.toList = some (idDirectives (usbHead ++ vidHead) ('&' :: pidHead) ['\\']) := by
  decide

def Stops : List Char → Prop
  | [] => False
  | c :: _ => isHex c = false ∧ ¬ (c = 'x' ∨ c = 'X')

theorem stops_ahead (text rest : List Char) (stops : Stops text) :
    ∀ c ∈ (text ++ rest).head?, isHex c = false ∧ ¬ (c = 'x' ∨ c = 'X') := by
  cases text with
  | nil => cases stops
  | cons first text =>
      intro c member
      cases member
      exact stops

theorem scan_id (bus vid middle pid last run rest : List Char) (ids : IsId vid ∧ IsId pid)
    (middleStops : Stops middle) (lastStops : Stops last) (some : run ≠ [])
    (inside : ∀ c ∈ run, inRanges alnum c = true) (stop : ∀ c ∈ rest.head?, inRanges alnum c = false) :
    scan true (idDirectives bus middle last) (bus ++ (vid ++ (middle ++ (pid ++ (last ++ (run ++ rest)))))) false [] =
      (1, [run]) := by
  have first := hex_meets true vid (middle ++ (pid ++ (last ++ (run ++ rest)))) ids.1.1 ids.1.2
    (stops_ahead middle _ middleStops)
  have second := hex_meets true pid (last ++ (run ++ rest)) ids.2.1 ids.2.2
    (stops_ahead last _ lastStops)
  have third := scanset_meets false alnum run rest some inside stop
  rw [idDirectives, scan_literals_past, scan, first]
  simp only
  rw [scan_literals_past, scan, second]
  simp only
  rw [scan_literals_past, scan, third]
  simp only [Directive.assigns, Bool.not_true, Bool.not_false, Bool.false_eq_true, if_false, if_true, List.nil_append]
  rw [scan]
  cases (Directive.literal 'm').meet rest with
  | mismatch => rfl
  | exhausted => simp
  | matched text rest => rfl

theorem written_alnum (stem : Stem) (known : stem ∈ stems) (serial : List Char) (written : Written stem serial) :
    (∀ c ∈ stem.name, inRanges alnum c = true) ∧
      if stem.separator then ∃ gap rest, serial = stem.name ++ gap :: rest ∧ inRanges alnum gap = false
      else ∀ c ∈ serial, inRanges alnum c = true := by
  have table : ∀ stem ∈ stems, stem.name.all (inRanges alnum) = true := by decide
  have named : ∀ stem ∈ stems, ∀ c ∈ stem.name, inRanges alnum c = true :=
    fun stem known => List.all_eq_true.mp (table stem known)
  obtain ⟨gap, number, split, gapped, _, digits, _⟩ := written
  refine ⟨named stem known, ?_⟩
  by_cases separated : stem.separator = true
  · rw [if_pos separated] at gapped ⊢
    rcases gapped with dash | low
    · exact ⟨'-', number, by rw [split, dash]; rfl, by decide⟩
    · exact ⟨'_', number, by rw [split, low]; rfl, by decide⟩
  · rw [if_neg separated] at gapped ⊢
    rw [split, gapped, List.nil_append]
    intro c member
    rcases List.mem_append.mp member with inName | inNumber
    · exact named stem known c inName
    · have digit := digits c inNumber
      simp only [Char.isDigit, Bool.and_eq_true, decide_eq_true_eq, ge_iff_le] at digit
      have ends : '0' ≤ c ∧ c ≤ '9' := digit
      simp [inRanges, alnum, ends.1, ends.2]

theorem scan_serial_run (id pattern : String) (parsed : List Directive) (run : List Char)
    (read : Scan.directives .plain pattern.toList = some parsed) (scanned : scan true parsed id.toList false [] = (1, [run])) :
    scanSerial id pattern = some run := by
  rw [scanSerial, sscanf, read, Option.map_some, scanned]
  rfl

theorem ftdibus_run (vid pid serial run rest : List Char) (ids : IsId vid ∧ IsId pid)
    (split : serial ++ ['A'] ++ portTail = run ++ rest) (some : run ≠ []) (inside : ∀ c ∈ run, inRanges alnum c = true)
    (stop : ∀ c ∈ rest.head?, inRanges alnum c = false) :
    (Naming.ftdibus vid pid).devSerial serial = .ok (.some (String.ofList run.dropLast)) := by
  have text : (String.ofList (ftdibusId vid pid serial)).toList = ftdibusId vid pid serial := String.toList_ofList
  have start : ftdibusHead <+: ftdibusId vid pid serial := by
    rw [ftdibusId, List.append_assoc]
    exact List.prefix_append _ _
  have read : scanSerial (String.ofList (ftdibusId vid pid serial)) ftdibusPattern = .some run := by
    refine scan_serial_run _ _ _ run id_patterns.1 ?_
    rw [text, ftdibusId, split]
    exact scan_id _ vid _ pid _ run rest ids ⟨by decide, by decide⟩ ⟨by decide, by decide⟩ some inside stop
  have head : "FTDIBUS\\".toList = ftdibusHead := rfl
  rw [Naming.devSerial, mGetSerialFromInstanceId, text, head, if_pos start, read]
  rfl

theorem usb_run (vid pid run rest : List Char) (ids : IsId vid ∧ IsId pid) (some : run ≠ [])
    (inside : ∀ c ∈ run, inRanges alnum c = true) (stop : ∀ c ∈ rest.head?, inRanges alnum c = false) :
    (Naming.usb vid pid).devSerial (run ++ rest) = .ok (.some (String.ofList run)) := by
  have text : (String.ofList (usbId vid pid (run ++ rest))).toList = usbId vid pid (run ++ rest) := String.toList_ofList
  have start : usbHead <+: usbId vid pid (run ++ rest) := by
    rw [usbId, List.append_assoc]
    exact List.prefix_append _ _
  have other : ¬ ftdibusHead <+: usbId vid pid (run ++ rest) := by
    intro ftdi
    have apart : ¬ ftdibusHead <+: usbHead ∧ ¬ usbHead <+: ftdibusHead := by decide
    exact (List.prefix_or_prefix_of_prefix ftdi start).elim apart.1 apart.2
  have read : scanSerial (String.ofList (usbId vid pid (run ++ rest))) usbPattern = .some run := by
    refine scan_serial_run _ _ _ run id_patterns.2 ?_
    rw [text, usbId]
    exact scan_id _ vid _ pid _ run rest ids ⟨by decide, by decide⟩ ⟨by decide, by decide⟩ some inside stop
  have heads : "FTDIBUS\\".toList = ftdibusHead ∧ "USB\\".toList = usbHead := ⟨rfl, rfl⟩
  rw [Naming.devSerial, mGetSerialFromInstanceId, text, heads.1, heads.2, if_neg other, if_pos start, read]
  rfl

end Windows

section Linux

theorem strchr_found (before rest : List Char) (c : Char) (absent : c ∉ before) :
    strchr (before ++ c :: rest) c = some (c :: rest) ∧ (before ++ c :: rest).takeWhile (fun d => d ≠ c) = before := by
  have inside : ∀ d ∈ before, decide (d ≠ c) = true := fun d member => decide_eq_true fun same => absent (same ▸ member)
  have stop : decide (c ≠ c) = false := decide_eq_false fun differ => differ rfl
  constructor
  · rw [strchr, List.dropWhile_append_of_pos inside, List.dropWhile_cons_of_neg (by simp)]
  · rw [List.takeWhile_append_of_pos inside, List.takeWhile_cons_of_neg (by simp), List.append_nil]

theorem get_serial_line (fs : Sysfs) (bus serial : List Char) (short : serial.length < 128) (ends : '\x00' ∉ serial)
    (line : fs.contents (usbDevices ++ (bus ++ "/serial".toList)) = some (serial ++ ['\n'])) :
    getSerial fs (fun _ => true) bus = .ok (some (String.ofList serial)) := by
  have whole : (serial ++ ['\n']).take 128 = serial ++ ['\n'] := List.take_of_length_le (by simp; omega)
  have inside : ∀ c ∈ serial, decide (c ≠ '\x00') = true := fun c member => decide_eq_true fun same => ends (same ▸ member)
  have copied : ((serial ++ ['\n']).take 128).dropLast.takeWhile (fun c => c ≠ '\x00') = serial := by
    rw [whole, List.dropLast_concat, List.takeWhile_eq_self_iff.mpr inside]
  rw [getSerial, if_pos rfl, line]
  cases filled : serial ++ ['\n'] with
  | nil => exact absurd filled (List.append_ne_nil_of_right_ne_nil _ (List.cons_ne_nil _ _))
  | cons first rest =>
      rw [filled] at copied
      simp only [copied]
      rfl

theorem sysfs_found (fs : Sysfs) (bus interface tty serial : List Char) (holds : (Naming.sysfs fs bus interface tty).Holds serial)
    (ends : '\x00' ∉ serial) : (Naming.sysfs fs bus interface tty).devSerial serial = .ok (some (String.ofList serial)) := by
  obtain ⟨plain, short, driver, line⟩ := holds
  have slash := (strchr_found ['d', 'e', 'v'] tty '/' (by decide)).1
  have colon := strchr_found bus (interface ++ '/' :: tty) ':' plain
  obtain ⟨others, found⟩ := List.head?_eq_some_iff.mp driver
  have device : (ftdiPath ++ '/' :: (bus ++ ':' :: (interface ++ '/' :: tty))).drop (ftdiPath.length + 1) =
      bus ++ ':' :: (interface ++ '/' :: tty) := by
    rw [List.drop_append]
    simp
  have path : (String.ofList ('/' :: 'd' :: 'e' :: 'v' :: '/' :: tty)).toList = '/' :: (['d', 'e', 'v'] ++ '/' :: tty) :=
    String.toList_ofList
  rw [Naming.devSerial, sysfsGetDevSerial, path]
  simp only [List.head?_cons, List.tail_cons, if_true, slash, found, device, colon.1, colon.2]
  exact get_serial_line fs bus serial short ends line

end Linux

-- The serial number monome_open gets to see. windows.c stops at a separator,
-- and takes the last letter before it for the "A" that ends an FTDI serial.
def Naming.kept (naming : Naming) (stem : Stem) (serial : List Char) : List Char :=
  match naming with
  | .ftdibus _ _ => if stem.separator then stem.name.dropLast else serial
  | .usb _ _ => if stem.separator then stem.name else serial
  | _ => serial

theorem dev_serial_kept (naming : Naming) (serial : List Char) (holds : naming.Holds serial) (stem : Stem)
    (known : stem ∈ stems) (written : Written stem serial) :
    naming.devSerial serial = .ok (some (String.ofList (naming.kept stem serial))) := by
  obtain ⟨named, shape⟩ := written_alnum stem known serial written
  have some : stem.name ≠ [] := by
    have table : ∀ stem ∈ stems, stem.name ≠ [] := by decide
    exact table stem known
  have filled : serial ≠ [] := by
    obtain ⟨start, c, last, _⟩ := written_last stem serial written
    rw [last]
    exact List.append_ne_nil_of_right_ne_nil _ (List.cons_ne_nil _ _)
  cases naming with
  | usbserial => exact usbserial_found stem known serial written
  | usbmodem => exact usbmodem_found serial
  | sysfs fs bus interface tty =>
      exact sysfs_found fs bus interface tty serial holds (written_letters stem known serial written '\x00' (.inr rfl))
  | libudev => rfl
  | ftdibus vid pid =>
      cases separated : stem.separator with
      | true =>
          rw [separated, if_pos rfl] at shape
          obtain ⟨gap, rest, split, stops⟩ := shape
          rw [Naming.kept, separated, if_pos rfl]
          refine ftdibus_run vid pid serial stem.name (gap :: rest ++ ['A'] ++ portTail) holds ?_ some named ?_
          · rw [split, List.append_assoc, List.append_assoc, List.append_assoc]
          · intro c member
            cases member
            exact stops
      | false =>
          rw [separated, if_neg Bool.false_ne_true] at shape
          have inside : ∀ c ∈ serial ++ ['A'], inRanges alnum c = true := by
            intro c member
            rcases List.mem_append.mp member with inSerial | last
            · exact shape c inSerial
            · rw [List.mem_singleton.mp last]
              decide
          have stops : ∀ c ∈ portTail.head?, inRanges alnum c = false := by
            intro c member
            cases member
            decide
          have run := ftdibus_run vid pid serial (serial ++ ['A']) portTail holds rfl
            (List.append_ne_nil_of_right_ne_nil _ (List.cons_ne_nil _ _)) inside stops
          rw [List.dropLast_concat] at run
          rw [Naming.kept, separated]
          exact run
  | usb vid pid =>
      cases separated : stem.separator with
      | true =>
          rw [separated, if_pos rfl] at shape
          obtain ⟨gap, rest, split, stops⟩ := shape
          rw [Naming.kept, separated, if_pos rfl, split]
          refine usb_run vid pid stem.name (gap :: rest) holds some named fun c member => ?_
          cases member
          exact stops
      | false =>
          rw [separated, if_neg Bool.false_ne_true] at shape
          have run := usb_run vid pid serial [] holds filled shape fun c member => absurd member (Option.not_mem_none c)
          rw [List.append_nil] at run
          rw [Naming.kept, separated]
          exact run

-- Where a pattern has a separator, no earlier one has a name that goes with
-- its own.
def Stem.Alone (earlier later : Stem) : Prop :=
  later.separator = true → ¬ earlier.name <+: later.name ∧ ¬ later.name <+: earlier.name

theorem stems_alone : stems.Pairwise Stem.Alone := by simp [stems, Stem.Alone]

theorem zip_parsed (k : Nat) (inStems : k < stems.length) (inMapping : k < mapping.length) :
    Scan.directives .plain mapping[k].sermatch.toList = some stems[k].directives := by
  have same := congrArg (fun patterns => patterns[k]?) mapping_stems
  simp only [List.getElem?_map, List.getElem?_eq_getElem inStems, List.getElem?_eq_getElem inMapping, Option.map_some] at same
  exact Option.some.inj same

theorem written_device (strict : Bool) (stem : Stem) (m : MonomeDevmap) (paired : (stem, m) ∈ stems.zip mapping)
    (separated : stem.separator = true) (serial : List Char) (written : Written stem serial) :
    deviceOf strict (String.ofList serial) = some m := by
  obtain ⟨k, short, same⟩ := List.getElem_of_mem paired
  have sizes : stems.length = mapping.length := by decide
  have inMapping : k < mapping.length := by
    rw [List.length_zip] at short
    omega
  have inStems : k < stems.length := by omega
  rw [List.getElem_zip] at same
  obtain ⟨rfl, rfl⟩ := Prod.mk.inj same
  rw [deviceOf, List.find?_eq_some_iff_getElem]
  refine ⟨?_, k, inMapping, rfl, fun j before => ?_⟩
  · rw [(sscanf_count_stem strict _ _ _ (zip_parsed k inStems inMapping)).2, String.toList_ofList, decide_eq_true_iff]
    exact written_stores strict _ serial written
  · have parsed := zip_parsed j (before.trans inStems) (before.trans inMapping)
    rw [(sscanf_count_stem strict _ _ _ parsed).2, String.toList_ofList, Bool.not_eq_true', decide_eq_false_iff_not]
    intro stores
    have starts := stem_stores strict _ serial stores
    obtain ⟨gap, number, split, _⟩ := written
    have own : stems[k].name <+: serial := ⟨gap ++ number, split.symm⟩
    have alone := List.pairwise_iff_getElem.mp stems_alone j k (before.trans inStems) inStems before separated
    exact (List.prefix_or_prefix_of_prefix starts own).elim alone.1 alone.2

-- The letters alone run out inside their own pattern and inside no earlier
-- one; without the number they have none to store, and may have another's.
theorem letters_alone : ∀ strict : Bool, ∀ pair ∈ stems.zip mapping, pair.1.separator = true →
    ∀ letters ∈ [pair.1.name, pair.1.name.dropLast],
      mapping.find? (fun m => decide (sscanfCount strict (String.ofList letters) m.sermatch ≠ 0)) = some pair.2 ∧
        deviceOf strict (String.ofList letters) ≠ some pair.2 := by
  decide +kernel

theorem stem_entry (stem : Stem) (known : stem ∈ stems) : ∃ m, (stem, m) ∈ stems.zip mapping := by
  have sizes : stems.length = mapping.length := by decide
  obtain ⟨k, short, rfl⟩ := List.getElem_of_mem known
  refine ⟨mapping[k], List.mem_iff_getElem.mpr ⟨k, ?_, List.getElem_zip⟩⟩
  rw [List.length_zip]
  omega

theorem kept_letters (naming : Naming) (stem : Stem) (serial : List Char) (cut : naming.kept stem serial ≠ serial) :
    stem.separator = true ∧ naming.kept stem serial ∈ [stem.name, stem.name.dropLast] := by
  cases naming with
  | usbserial => exact absurd rfl cut
  | usbmodem => exact absurd rfl cut
  | sysfs fs bus interface tty => exact absurd rfl cut
  | libudev => exact absurd rfl cut
  | ftdibus vid pid =>
      cases separated : stem.separator with
      | true => simp [Naming.kept, separated]
      | false => simp [Naming.kept, separated] at cut
  | usb vid pid =>
      cases separated : stem.separator with
      | true => simp [Naming.kept, separated]
      | false => simp [Naming.kept, separated] at cut

-- Wherever the serial number is looked up the device is taken for what it is,
-- also where windows.c loses its number: then only because running out of
-- input counts as a match.
theorem serial_lookups_find_device (o : Outcomes) (strict : Bool) (naming : Naming) (serial : List Char)
    (holds : naming.Holds serial) (stem : Stem) (known : stem ∈ stems) (written : Written stem serial) :
    naming.devSerial serial = .ok (some (String.ofList (naming.kept stem serial))) ∧
      mapSerialToDevice { o with sscanf := sscanfCount strict } (String.ofList (naming.kept stem serial)) =
        deviceOf strict (String.ofList serial) ∧
      (deviceOf strict (String.ofList serial)).isSome ∧
      (deviceOf strict (String.ofList (naming.kept stem serial)) = deviceOf strict (String.ofList serial) ↔
        naming.kept stem serial = serial) := by
  have found := written_found strict stem known serial written
  refine ⟨dev_serial_kept naming serial holds stem known written, ?_, found, ?_⟩
  · by_cases whole : naming.kept stem serial = serial
    · rw [whole]
      apply map_serial_whole
      intro other listed
      rw [String.toList_ofList]
      exact written_ends_outside stem serial known written strict other listed
    · obtain ⟨separated, letters⟩ := kept_letters naming stem serial whole
      obtain ⟨m, paired⟩ := stem_entry stem known
      rw [map_serial_reads, written_device strict stem m paired separated serial written]
      exact (letters_alone strict (stem, m) paired separated _ letters).1
  · constructor
    · intro same
      by_contra whole
      obtain ⟨separated, letters⟩ := kept_letters naming stem serial whole
      obtain ⟨m, paired⟩ := stem_entry stem known
      rw [written_device strict stem m paired separated serial written] at same
      exact (letters_alone strict (stem, m) paired separated _ letters).2 same
    · intro whole
      rw [whole]

theorem serial_lookups_find_device_m64 :
    (Naming.ftdibus "0403".toList "6001".toList).devSerial "m64-0790".toList = .ok (some "m6") ∧
      (mapSerialToDevice { socketless with sscanf := sscanfCount true } "m6").map MonomeDevmap.friendly = some "monome 64" := by
  have written : Written ⟨"m64".toList, true⟩ "m64-0790".toList :=
    ⟨['-'], "0790".toList, rfl, .inl rfl, by decide, List.all_eq_true.mp (by decide), by decide⟩
  have lookup := serial_lookups_find_device socketless true (.ftdibus "0403".toList "6001".toList)
    "m64-0790".toList ⟨⟨by decide, List.all_eq_true.mp (by decide)⟩, by decide, List.all_eq_true.mp (by decide)⟩
    ⟨"m64".toList, true⟩ (by decide) written
  refine ⟨lookup.1, ?_⟩
  have device : (deviceOf true (String.ofList "m64-0790".toList)).map MonomeDevmap.friendly = some "monome 64" := by decide
  rw [← device, ← lookup.2.1]
  rfl

end Libmonome
