import DeviceShell.Device.Property
import DeviceShell.Device.Script

/-!
# Devices

A device is a property device, a script task, or one of two kinds without
members. A plain device has an id and nothing else; a rig has in addition a
fixed readiness and fixed refusals to start and stop, and stands in where a
session is rehearsed without the real thing. The id of a device never changes:
every operation gives back a device with the id it was given.
-/

namespace DeviceShell

/-- A device without members whose readiness and refusals are fixed. -/
structure Rig where
  id : String
  ready : Bool := true
  startRefusal : Option String := none
  stopRefusal : Option String := none
  deriving DecidableEq, Repr

/-- Anything that can be registered. -/
inductive Device where
  | property (device : PropertyDevice)
  | script (task : ScriptTask)
  | plain (id : String)
  | rig (rig : Rig)

namespace Device

/-- The id under which a device is registered. -/
def id : Device → String
  | .property d => d.id
  | .script t => t.id
  | .plain id => id
  | .rig r => r.id

/-- One line about the device; its id if it has nothing else to say. -/
def describe : Device → String
  | .property d => d.describe
  | .script t => t.describe
  | .plain id => id
  | .rig r => r.id

/-- Whether the device has come up and may be stopped. -/
def ready : Device → Bool
  | .script t => t.ready
  | .rig r => r.ready
  | .property _ | .plain _ => true

/-- Starts the device. -/
def start : Device → Except Failure (Device × List Event)
  | .property d => .ok (.property { d with running := true }, [])
  | .script t =>
    let (task, event) := t.move .running; .ok (.script task, [event])
  | .plain id => .ok (.plain id, [])
  | .rig r =>
    match r.startRefusal with
    | some text => .error (.invocationFailed (.other text))
    | none => .ok (.rig r, [])

/-- Stops the device. -/
def stop : Device → Except Failure (Device × List Event)
  | .property d => .ok (.property { d with running := false }, [])
  | .script t =>
    let (task, event) := t.move .stopped; .ok (.script task, [event])
  | .plain id => .ok (.plain id, [])
  | .rig r =>
    match r.stopRefusal with
    | some text => .error (.invocationFailed (.other text))
    | none => .ok (.rig r, [])

/-- The value of an attribute. -/
def read (d : Device) (name : String) : Except Failure Value :=
  match d with
  | .property p => p.read name
  | .script t => t.read name
  | .plain _ | .rig _ => .error (.memberNotFound name (.noAttribute d.id))

/-- Assigns raw text to an attribute. Only property devices take
assignments. -/
def assign (d : Device) (name raw : String) : Except Failure Device :=
  match d with
  | .property p => (p.assign name raw).map .property
  | .script _ | .plain _ | .rig _ =>
    .error (.memberNotFound name (.noAttribute d.id))

/-- Calls a method; some methods give no value back. -/
def call (d : Device) (method : String) (args : List Literal) :
    Except Failure (Device × Option Value) :=
  match d with
  | .property p =>
    (p.call method args).map fun (device, value) => (.property device, value)
  | .script t => (t.call method args).map fun value => (d, some value)
  | .plain _ | .rig _ => .error (.memberNotFound method (.noMethod d.id))

end Device

end DeviceShell
