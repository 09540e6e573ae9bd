import DeviceShell.Device.Property

/-!
# Settings

What the shell is configured with, and what is demanded of it beyond its form:
every device id can be typed on a line and means one device, and the secondary
lane has an extension to be told apart by.
-/

namespace DeviceShell

/-- Where scripts are and what they are called. -/
structure ScriptSettings where
  dir : String := "scripts"
  primaryExtension : String := "dsh"
  secondaryExtension : String := "rb"
  deriving DecidableEq, Repr

/-- A device to be registered at the start. -/
structure DeviceSettings where
  id : String
  description : String := ""
  attributes : Attributes := ∅

/-- Everything that can be set. -/
structure Settings where
  prompt : String := "devsh> "
  logLevel : String := "info"
  scripts : ScriptSettings := {}
  devices : List DeviceSettings := []

/-- The end of a script name that selects the secondary lane. -/
def ScriptSettings.secondarySuffix (s : ScriptSettings) : String :=
  "." ++ s.secondaryExtension

/-- Whether a text can be a device id: something without dots and blanks. -/
def validId (id : String) : Bool :=
  !id.isEmpty && id.toList.all fun c => c ≠ '.' ∧ !Text.isBlank c

namespace Settings

/-- The first thing that is wrong with the ids of some devices, given the ids
before them. -/
def checkIds (before : List String) : List DeviceSettings → Except Failure Unit
  | [] => .ok ()
  | d :: rest =>
    if !validId d.id then .error (.settings (.invalidId d.id))
    else if d.id ∈ before then .error (.settings (.duplicateId d.id))
    else checkIds (d.id :: before) rest

/-- Whether the settings can be used; if not, why. -/
def check (s : Settings) : Except Failure Unit :=
  if s.scripts.secondaryExtension.isEmpty then
    .error (.settings .emptySecondaryExtension)
  else checkIds [] s.devices

end Settings

/-- The device that a part of the settings describes. -/
def DeviceSettings.device (d : DeviceSettings) : PropertyDevice :=
  { id := d.id, description := d.description : PropertyDevice }.declareAll
    d.attributes.toList

end DeviceShell
