import DeviceShell.Device.Basic

/-!
# Access to members

The shell reaches the members of a device in three ways: it reads, it assigns,
it calls. Reading is the one with a rule of its own. A name that is no
attribute is tried as a method without arguments, so that `lamp.keys` and
`lamp.keys()` agree; if there is no such method either, the answer is the first
one, that the attribute is missing.
-/

namespace DeviceShell

/-- The outcome of an access: what is worth noting, and the device afterwards
with the value given back, if any. -/
structure Access where
  events : List Event
  result : Except Failure (Device × Option Value)

namespace Device

/-- Reads a member. -/
def access (d : Device) (name : String) : Access :=
  match d.read name with
  | .ok value => ⟨[], .ok (d, some value)⟩
  | .error (.memberNotFound member reason) =>
    ⟨[.notAnAttribute d.id name],
      match d.call name [] with
      | .error (.memberNotFound ..) => .error (.memberNotFound member reason)
      | result => result⟩
  | .error failure => ⟨[], .error failure⟩

/-- Assigns to a member. -/
def accessAssign (d : Device) (name raw : String) : Access :=
  ⟨[.assigning d.id name raw],
    (d.assign name raw).map fun device => (device, none)⟩

/-- Calls a member. -/
def accessCall (d : Device) (method : String) (args : List Literal) : Access :=
  ⟨[.calling d.id method args.length], d.call method args⟩

end Device

end DeviceShell
