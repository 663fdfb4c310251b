import Libmonome.Lib.Scan

set_option autoImplicit false

namespace Libmonome

open Scan

-- A COM device as the lookups of windows.c see it: what the registry answers
-- for its PortName value, and SetupDiGetDeviceInstanceId for its instance id.
structure ComDevice where
  regStatus : Int32
  portName : String
  instanceIdFound : Bool
  instanceId : String
deriving DecidableEq, Repr

-- strdup hands out a copy, or NULL when there is no memory for one.
def strdupOf (memory : Bool) (text : List Char) : Option String := if memory then some (String.ofList text) else none

def ftdibusPattern : String := "FTDIBUS\\VID_%*x+PID_%*x+%[a-zA-Z0-9]m"
def usbPattern : String := "USB\\VID_%*x&PID_%*x\\%[a-zA-Z0-9]m"

-- sscanf(...) == 1, and the string it stored.
def scanSerial (instanceId pattern : String) : Option (List Char) :=
  match sscanf true instanceId.toList pattern.toList with
  | some (1, [serial]) => some serial
  | _ => none

def mGetSerialFromInstanceId (memory : Bool) (instanceId : String) : Option String :=
  if "FTDIBUS\\".toList <+: instanceId.toList then
    match scanSerial instanceId ftdibusPattern with
    | some serial => strdupOf memory serial.dropLast
    | none => none
  else if "USB\\".toList <+: instanceId.toList then
    match scanSerial instanceId usbPattern with
    | some serial => strdupOf memory serial
    | none => none
  else none

def mGetDevicePortName (devinfo : ComDevice) : Option String :=
  if devinfo.regStatus = 0 then some devinfo.portName else none

def setupDiGetDeviceInstanceId (devinfo : ComDevice) : Option String :=
  if devinfo.instanceIdFound then some devinfo.instanceId else none

-- The loop of monome_platform_get_dev_serial from index di on. A loop still
-- turning when its turns are used up has no result; both continues leave di
-- where it is.
def devSerialLoop (memory : Bool) (devices : List ComDevice) (path : String) : (fuel di : Nat) → Option (Option String)
  | 0, _ => none
  | fuel + 1, di =>
      match devices[di]? with
      | none => some none
      | some devinfo =>
          match mGetDevicePortName devinfo with
          | none => devSerialLoop memory devices path fuel di
          | some portName =>
              if portName = path then
                match setupDiGetDeviceInstanceId devinfo with
                | none => devSerialLoop memory devices path fuel di
                | some instanceId => some (mGetSerialFromInstanceId memory instanceId)
              else devSerialLoop memory devices path fuel (di + 1)

-- SetupDiGetClassDevs gives the devices, or an invalid handle.
def monomePlatformGetDevSerial (memory : Bool) (classDevs : Option (List ComDevice)) (path : String) (fuel : Nat) :
    Option (Option String) :=
  match classDevs with
  | none => some none
  | some devices => devSerialLoop memory devices path fuel 0

def AtPath (path : String) (devinfo : ComDevice) : Prop :=
  mGetDevicePortName devinfo = some path ∧ (setupDiGetDeviceInstanceId devinfo).isSome

instance (path : String) : DecidablePred (AtPath path) := fun devinfo =>
  inferInstanceAs (Decidable (mGetDevicePortName devinfo = some path ∧ (setupDiGetDeviceInstanceId devinfo).isSome))

def serialAtPath (memory : Bool) (devices : List ComDevice) (path : String) : Option String :=
  (devices.find? (AtPath path)).bind fun devinfo =>
    (setupDiGetDeviceInstanceId devinfo).bind (mGetSerialFromInstanceId memory)

def HoldsUp (path : String) (devinfo : ComDevice) : Prop :=
  mGetDevicePortName devinfo = none ∨ (mGetDevicePortName devinfo = some path ∧ setupDiGetDeviceInstanceId devinfo = none)

theorem dev_serial_found (memory : Bool) (devices : List ComDevice) (path : String) (fuel di : Nat) (devinfo : ComDevice)
    (here : devices[di]? = some devinfo) (found : AtPath path devinfo) :
    devSerialLoop memory devices path (fuel + 1) di =
      some ((setupDiGetDeviceInstanceId devinfo).bind (mGetSerialFromInstanceId memory)) := by
  obtain ⟨named, identified⟩ := found
  obtain ⟨instanceId, known⟩ := Option.isSome_iff_exists.mp identified
  simp only [devSerialLoop, here, named, known, if_true]
  rfl

theorem dev_serial_passed (memory : Bool) (devices : List ComDevice) (path : String) (fuel di : Nat) (devinfo : ComDevice)
    (here : devices[di]? = some devinfo) (other : ¬ AtPath path devinfo) (free : ¬ HoldsUp path devinfo) :
    devSerialLoop memory devices path (fuel + 1) di = devSerialLoop memory devices path fuel (di + 1) := by
  cases named : mGetDevicePortName devinfo with
  | none => exact absurd (.inl named) free
  | some portName =>
      by_cases same : portName = path
      · rw [same] at named
        cases known : setupDiGetDeviceInstanceId devinfo with
        | none => exact absurd (.inr ⟨named, known⟩) free
        | some instanceId => exact absurd ⟨named, by rw [known]; rfl⟩ other
      · simp only [devSerialLoop, here, named, if_neg same]

theorem dev_serial_held_up (memory : Bool) (devices : List ComDevice) (path : String) (fuel di : Nat) (devinfo : ComDevice)
    (here : devices[di]? = some devinfo) (stuck : HoldsUp path devinfo) :
    devSerialLoop memory devices path fuel di = none := by
  induction fuel with
  | zero => rfl
  | succ fuel ih =>
      cases stuck with
      | inl nameless =>
          simp only [devSerialLoop, here, nameless]
          exact ih
      | inr unidentified =>
          simp only [devSerialLoop, here, unidentified.1, unidentified.2, if_true]
          exact ih

def Passed (path : String) (devices : List ComDevice) : List ComDevice :=
  devices.takeWhile fun devinfo => ¬ AtPath path devinfo

section Search

variable (memory : Bool) (path : String) (before rest : List ComDevice)

theorem dev_serial_ends (free : ∀ devinfo ∈ Passed path rest, ¬ HoldsUp path devinfo) :
    devSerialLoop memory (before ++ rest) path (rest.length + 1) before.length = some (serialAtPath memory rest path) := by
  induction rest generalizing before with
  | nil =>
      have past : (before ++ [])[before.length]? = none := by simp
      simp only [devSerialLoop, past]
      rfl
  | cons devinfo rest ih =>
      have here : (before ++ devinfo :: rest)[before.length]? = some devinfo := by simp
      by_cases found : AtPath path devinfo
      · rw [dev_serial_found memory _ path _ _ devinfo here found, serialAtPath, List.find?_cons_of_pos (by simpa using found)]
        rfl
      · rw [Passed, List.takeWhile_cons_of_pos (by simpa using found)] at free
        have later := ih (before ++ [devinfo]) fun other member => free other (List.mem_cons_of_mem devinfo member)
        rw [List.length_cons, dev_serial_passed memory _ path _ _ devinfo here found (free devinfo List.mem_cons_self),
          serialAtPath, List.find?_cons_of_neg (by simpa using found)]
        rw [List.append_assoc, List.length_append] at later
        exact later

theorem dev_serial_hangs (devinfo : ComDevice) (passed : devinfo ∈ Passed path rest) (stuck : HoldsUp path devinfo)
    (fuel : Nat) : devSerialLoop memory (before ++ rest) path fuel before.length = none := by
  induction rest generalizing before fuel with
  | nil => cases passed
  | cons first rest ih =>
      have here : (before ++ first :: rest)[before.length]? = some first := by simp
      by_cases held : HoldsUp path first
      · exact dev_serial_held_up memory _ path fuel _ first here held
      · by_cases found : AtPath path first
        · rw [Passed, List.takeWhile_cons_of_neg (by simpa using found)] at passed
          cases passed
        · rw [Passed, List.takeWhile_cons_of_pos (by simpa using found)] at passed
          cases List.mem_cons.mp passed with
          | inl same =>
              rw [same] at stuck
              exact absurd stuck held
          | inr later =>
              cases fuel with
              | zero => rfl
              | succ fuel =>
                  have hangs := ih (before ++ [first]) later fuel
                  rw [List.append_assoc, List.length_append] at hangs
                  rw [dev_serial_passed memory _ path _ _ first here found held]
                  exact hangs

end Search

theorem get_dev_serial_iff (memory : Bool) (devices : List ComDevice) (path : String) :
    (∃ fuel, monomePlatformGetDevSerial memory (some devices) path fuel = some (serialAtPath memory devices path)) ↔
      ∀ devinfo ∈ Passed path devices, ¬ HoldsUp path devinfo := by
  constructor
  · intro ends devinfo passed stuck
    obtain ⟨fuel, returned⟩ := ends
    have hangs := dev_serial_hangs memory path [] devices devinfo passed stuck fuel
    exact absurd (returned.symm.trans hangs) (by simp)
  · intro free
    exact ⟨devices.length + 1, dev_serial_ends memory path [] devices free⟩

def namelessFirst : List ComDevice := [⟨2, "", true, ""⟩, ⟨0, "COM3", true, "USB\\VID_1234&PID_5678\\m1000123"⟩]

theorem nameless_device_hangs : serialAtPath true namelessFirst "COM3" = some "m1000123" ∧
    ¬ ∃ fuel, monomePlatformGetDevSerial true (some namelessFirst) "COM3" fuel =
      some (serialAtPath true namelessFirst "COM3") := by
  refine ⟨by decide, ?_⟩
  intro ends
  obtain ⟨fuel, returned⟩ := ends
  have hangs := dev_serial_held_up true namelessFirst "COM3" fuel 0 ⟨2, "", true, ""⟩ rfl (.inl rfl)
  exact absurd (returned.symm.trans hangs) (by simp)

end Libmonome
