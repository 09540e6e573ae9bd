import Std.Data.ExtTreeMap
import DeviceShell.Failure
import DeviceShell.Literal
import DeviceShell.Value.Entry

/-!
# Property devices

A property device is a table of typed attributes with a few methods of its own.
The table it was declared with is kept beside the current one: `reset` puts it
back, and nothing else looks at it. Assigning to an attribute keeps the kind of
its value; a new attribute can appear only under an open schema. A refused
request leaves the device as it was, since the new device exists only in the
successful answer.
-/

namespace DeviceShell

/-- Attribute tables, in the order of their names. Tables with the same entries
are equal. -/
abbrev Attributes := Std.ExtTreeMap String Value

/-- A device that holds attributes. -/
structure PropertyDevice where
  id : String
  description : String := ""
  openSchema : Bool := false
  defaults : Attributes := ∅
  attributes : Attributes := ∅
  running : Bool := false

namespace PropertyDevice

/-- Declares an attribute: its value is the current one and the one that a
reset brings back. A second declaration of a name replaces the first. -/
def declare (d : PropertyDevice) (name : String)
    (value : Value) : PropertyDevice :=
  { d with
    defaults := d.defaults.insert name value
    attributes := d.attributes.insert name value }

/-- Declares attributes one after the other. -/
def declareAll (d : PropertyDevice)
    (declared : List (String × Value)) : PropertyDevice :=
  declared.foldl (fun device entry => device.declare entry.1 entry.2) d

/-- The names of the current attributes, in order. -/
def names (d : PropertyDevice) : List String :=
  d.attributes.keys

/-- One line about the device: what it is, its id, and its attribute names. -/
def describe (d : PropertyDevice) : String :=
  (if d.description.isEmpty then "device" else d.description) ++ " [" ++ d.id ++
    "] attributes: " ++ String.intercalate ", " d.names

/-- The failure of a request for an attribute that is not there. -/
def noAttribute (d : PropertyDevice) (name : String) : Failure :=
  .memberNotFound name (.noAttribute d.id)

/-- The value of an attribute. -/
def read (d : PropertyDevice) (name : String) : Except Failure Value :=
  match d.attributes[name]? with
  | some value => .ok value
  | none => .error (d.noAttribute name)

/-- Assigns raw text to an attribute. -/
def assign (d : PropertyDevice) (name raw : String) :
    Except Failure PropertyDevice :=
  match d.attributes[name]? with
  | some current =>
    match current.coerce? raw with
    | some next => .ok { d with attributes := d.attributes.insert name next }
    | none =>
      .error (.invocationFailed (.misfit (Text.trimmed raw) current.kind name))
  | none =>
    if d.openSchema then
      .ok { d with attributes := d.attributes.insert name (Value.infer raw) }
    else .error (d.noAttribute name)

/-- Flips a truth value and gives back the new one. -/
def toggle (d : PropertyDevice) (args : List Literal) :
    Except Failure (PropertyDevice × Option Value) :=
  match args with
  | [.text name] =>
    match d.attributes[name]? with
    | some (.bool b) =>
      .ok ({ d with attributes := d.attributes.insert name (.bool !b) },
        some (.bool !b))
    | some other => .error (.invocationFailed (.untoggleable other.kind name))
    | none => .error (d.noAttribute name)
  | _ => .error (.invocationFailed .toggleUsage)

/-- Gives the arguments back: nothing for none, the value for one, a list for
more. -/
def echo : List Literal → Option Value
  | [] => none
  | [single] => some single.toValue
  | many => some (.list (many.map Literal.toValue))

/-- The device with the attributes it was declared with. -/
def reset (d : PropertyDevice) : PropertyDevice :=
  { d with attributes := d.defaults }

/-- Calls a method. -/
def call (d : PropertyDevice) (method : String) (args : List Literal) :
    Except Failure (PropertyDevice × Option Value) :=
  if method = "keys" then .ok (d, some (.list (d.names.map .text)))
  else if method = "reset" then .ok (d.reset, none)
  else if method = "toggle" then d.toggle args
  else if method = "echo" then .ok (d, echo args)
  else .error (.memberNotFound method (.noMethod d.id))

end PropertyDevice

end DeviceShell
