import DeviceShell.Session.Basic
import DeviceShell.Settings.Basic

/-!
# A session to start with

Before the first line is read, devices are registered: those in the settings in
the order in which they are given there, and a few to play with.
-/

namespace DeviceShell

namespace Session

/-- Registers a new device that nobody watches. -/
def install (s : Session) (d : Device) : Reply Handle :=
  let (s, h) := s.make d
  (s.register h).andThen fun s _ => ⟨s, [], h⟩

/-- Registers devices one after the other. -/
def installAll (s : Session) : List Device → Reply Unit
  | [] => ⟨s, [], ()⟩
  | d :: rest => (s.install d).andThen fun s _ => s.installAll rest

/-- Registers the devices in the settings. -/
def configure (s : Session) : List DeviceSettings → Reply Unit
  | [] => ⟨s, [], ()⟩
  | d :: rest =>
    let announced : Reply Unit :=
      ⟨s, [.deviceConfigured d.id d.attributes.size], ()⟩
    (announced.andThen fun s _ => s.install (.property d.device)).andThen
      fun s _ => s.configure rest

end Session

/-- Devices to play with. -/
def demoDevices : List Device :=
  [.property
      ({ id := "lamp", description := "Desk lamp" : PropertyDevice }.declareAll
        [("brightness", .integer 42), ("on", .bool false),
          ("color", .text "warm white")]), .property
      ({ id := "thermostat",
         description := "Hallway thermostat" : PropertyDevice }.declareAll
        [("target", .real 20.5), ("mode", .text "heat"),
          ("schedule", .list [.text "06:30", .text "22:00"])]),
    .property { id := "notes", description :=
      "Scratch store", openSchema := true }]

/-- The session with the devices of the settings and, if asked for, those to
play with. -/
def Settings.session (s : Settings) (demo : Bool) : Reply Unit :=
  (({} : Session).configure s.devices).andThen fun session _ =>
    session.installAll (if demo then demoDevices else [])

/-- The session that there is without settings, with the devices to
play with. -/
def Session.demo : Session :=
  (({} : Settings).session true).session

end DeviceShell
