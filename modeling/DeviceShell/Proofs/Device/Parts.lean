import DeviceShell.Proofs.Device.Outcome

/-!
# The parts of a device

What can be said to have changed about a device is its attributes, or whether it
runs, or neither. These are two parts of a device, and the third is what it was
made with. `ext_parts` says that there is nothing besides: a statement about the
three parts is one about the device.

Orders move the activity and leave the other parts alone, and an access moves at
most the attributes. Which accesses do is a short list, and one of them is a
read: a device that has no attribute `reset` runs the method when it is read.
-/

namespace DeviceShell

/-- Whether a device runs, as far as it can. -/
inductive Activity where
  | flag (running : Bool)
  | state (state : TaskState)
  | none

namespace Device

/-- The attributes that can change. -/
def attributes : Device → Attributes
  | .property p => p.attributes
  | .script _ | .plain _ | .rig _ => ∅

/-- The part of a device that orders are about. -/
def activity : Device → Activity
  | .property p => .flag p.running
  | .script t => .state t.state
  | .plain _ | .rig _ => .none

/-- What the device was made with: all but its attributes and its activity. -/
def fixed : Device → Device
  | .property p => .property { p with attributes := ∅, running := false }
  | .script t => .script { t with state := .loaded }
  | .plain id => .plain id
  | .rig r => .rig r

/-- Devices with the same parts are the same. -/
theorem ext_parts {d e : Device} (hfixed : d.fixed = e.fixed)
    (hattributes : d.attributes = e.attributes)
    (hactivity : d.activity = e.activity) : d = e := by
  cases d with
  | property p =>
      cases e with
      | property q =>
          obtain ⟨id, description, openSchema, defaults, attributes, running⟩ :=
            p
          obtain ⟨id', description', openSchema', defaults', attributes',
            running'⟩ := q
          cases hfixed
          cases hattributes
          cases hactivity
          rfl
      | script | plain | rig => cases hfixed
  | script t =>
      cases e with
      | script u =>
          obtain ⟨id, path, args, source, state⟩ := t
          obtain ⟨id', path', args', source', state'⟩ := u
          cases hfixed
          cases hactivity
          rfl
      | property | plain | rig => cases hfixed
  | plain id =>
      cases e with
      | plain => exact hfixed
      | property | script | rig => cases hfixed
  | rig r =>
      cases e with
      | rig => exact hfixed
      | property | script | plain => cases hfixed

/-- What was made as a script is that script, in some state. -/
theorem eq_script_of_fixed_eq {d : Device} {t : ScriptTask}
    (h : d.fixed = (script t).fixed) :
    ∃ state, d = .script { t with state } := by
  cases d with
  | script u =>
      obtain ⟨id, path, args, source, state⟩ := u
      cases h
      exact ⟨state, rfl⟩
  | property | plain | rig => cases h

/-! ## What moves which part -/

theorem fixed_outcome (order : Lifecycle) (d : Device) :
    (order.outcome d).fixed = d.fixed := by
  cases d <;> cases order <;> rfl

theorem attributes_outcome (order : Lifecycle) (d : Device) :
    (order.outcome d).attributes = d.attributes := by
  cases d <;> cases order <;> rfl

theorem Served.fixed_eq {d d' : Device} (h : d.Served d') :
    d'.fixed = d.fixed := by
  cases h <;> rfl

theorem Served.activity_eq {d d' : Device} (h : d.Served d') :
    d'.activity = d.activity := by
  cases h <;> rfl

/-- The operations that can change the attributes of a device: an
assignment, and what runs `reset` or `toggle`. A read runs a method only
if there is no attribute of that name, and runs it without the argument
that `toggle` asks for. -/
inductive Mutates (d : Device) : Operation → Prop where
  | assign {name raw} : Mutates d (.set name raw)
  | reset {args} : Mutates d (.call "reset" args)
  | toggle {args} : Mutates d (.call "toggle" args)
  | readReset (habsent : d.attributes["reset"]? = none) :
      Mutates d (.get "reset")

theorem Changed.mutates {d d' : Device} {operation : Operation}
    (h : d.Changed operation d') (hne : d'.attributes ≠ d.attributes) :
    d.Mutates operation := by
  cases h with
  | unchanged => exact absurd rfl hne
  | assigned => exact .assign
  | called hcalled =>
      cases hcalled with
      | unchanged => exact absurd rfl hne
      | reset => exact .reset
      | toggled => exact .toggle
  | @read p name p' habsent hcalled =>
      generalize hargs : ([] : List Literal) = args at hcalled
      cases hcalled with
      | unchanged => exact absurd rfl hne
      | reset => exact .readReset habsent
      | toggled => cases hargs

end Device

end DeviceShell
