import DeviceShell.Device.Member

/-!
# What is left of a device

An order or an access reports a good deal and changes little. This file says
what is left of a device when the reports are taken away. Starting and stopping
are total here: a device that refuses stays as it was, so `started` and
`stopped` describe the refusals as well, and nobody who asks for the device
afterwards has to know whether it was willing.

What an access leaves is said twice. `Changed` says what each operation can do,
with what was checked before it is done. `Served` forgets the operation: an
access changes the attributes of a property device or nothing, and most
invariants of sessions need no more.
-/

namespace DeviceShell

theorem ok_of_map {α β : Type} {result : Except Failure α} {f : α → β} {b : β}
    (h : result.map f = .ok b) : ∃ a, result = .ok a ∧ f a = b := by
  cases result with
  | error => cases h
  | ok a =>
      cases h
      exact ⟨a, rfl, rfl⟩

theorem error_of_map {α β : Type} {result : Except Failure α} {f : α → β}
    {failure : Failure} (h : result.map f = .error failure) :
    result = .error failure := by
  cases result <;> cases h
  rfl

/-! ## Orders -/

/-- The device after an order to start. -/
def Device.started : Device → Device
  | .property d => .property { d with running := true }
  | .script t => .script { t with state := .running }
  | .plain id => .plain id
  | .rig r => .rig r

/-- The device after an order to stop. -/
def Device.stopped : Device → Device
  | .property d => .property { d with running := false }
  | .script t => .script { t with state := .stopped }
  | .plain id => .plain id
  | .rig r => .rig r

/-- The device after an order. -/
def Lifecycle.outcome : Lifecycle → Device → Device
  | .start, d => d.started
  | .stop, d => d.stopped
  | .restart, d => d.stopped.started

/-- What an access to a member can leave of a device: an access that changes
anything changes the attributes of a property device. -/
inductive Device.Served : Device → Device → Prop where
  | same {d} : Served d d
  | attributes {p table} :
      Served (.property p) (.property { p with attributes := table })

namespace Device

/-- How a device takes an order that would leave it as `outcome`. It obeys, and
at most a script says that it has moved; or it is a rig and refuses, and a rig
is the same whatever it is told. -/
inductive Takes (d outcome : Device) :
    Except Failure (Device × List Event) → Prop where
  | quietly : Takes d outcome (.ok (outcome, []))
  | moving (id : String) (before after : TaskState) :
      Takes d outcome (.ok (outcome, [.taskMoved id before after]))
  | refusing {r text} (hrig : d = .rig r) (hsame : outcome = .rig r) :
      Takes d outcome (.error (.invocationFailed (.other text)))

theorem takes_of_refusal (r : Rig) (refusal : Option String) :
    Takes (.rig r) (.rig r)
      (match refusal with
        | some text => .error (.invocationFailed (.other text))
        | none => .ok (.rig r, [])) := by
  cases refusal with
  | none => exact .quietly
  | some text => exact .refusing rfl rfl

theorem takes_start {d : Device} {result : Except Failure (Device × List Event)}
    (h : d.start = result) : d.Takes d.started result := by
  subst h
  cases d with
  | property | plain => exact .quietly
  | script t => exact .moving t.id t.state .running
  | rig r => exact takes_of_refusal r r.startRefusal

theorem takes_stop {d : Device} {result : Except Failure (Device × List Event)}
    (h : d.stop = result) : d.Takes d.stopped result := by
  subst h
  cases d with
  | property | plain => exact .quietly
  | script t => exact .moving t.id t.state .stopped
  | rig r => exact takes_of_refusal r r.stopRefusal

namespace Takes

variable {d d' outcome : Device} {events : List Event} {failure : Failure}

theorem moved (h : d.Takes outcome (.ok (d', events))) :
    ∀ e ∈ events, ∃ id before after, e = .taskMoved id before after := by
  cases h with
  | quietly => exact List.forall_mem_nil _
  | moving id before after =>
      exact List.forall_mem_singleton.mpr ⟨id, before, after, rfl⟩

theorem transcript_eq_nil (h : d.Takes outcome (.ok (d', events))) :
    Event.transcript events = [] := by
  refine List.filterMap_eq_nil_iff.mpr fun e he => ?_
  obtain ⟨id, before, after, rfl⟩ := h.moved e he
  rfl

theorem exists_rig (h : d.Takes outcome (.error failure)) :
    ∃ r text, d = .rig r ∧ outcome = .rig r ∧
      failure = .invocationFailed (.other text) := by
  cases h with
  | refusing hrig hsame => exact ⟨_, _, hrig, hsame, rfl⟩

end Takes

theorem id_started (d : Device) : d.started.id = d.id := by
  cases d <;> rfl

theorem id_stopped (d : Device) : d.stopped.id = d.id := by
  cases d <;> rfl

theorem id_outcome (order : Lifecycle) (d : Device) :
    (order.outcome d).id = d.id := by
  cases order with
  | start => exact id_started d
  | stop => exact id_stopped d
  | restart => exact (id_started _).trans (id_stopped d)

theorem Served.id_eq {d d' : Device} (h : Served d d') : d'.id = d.id := by
  cases h <;> rfl

end Device

/-! ## Members -/

/-- What an assignment that succeeds makes of a property device. -/
inductive PropertyDevice.Assigned (p : PropertyDevice) (name raw : String) :
    PropertyDevice → Prop where
  | updated {current next} (hcurrent : p.attributes[name]? = some current)
      (hnext : current.coerce? raw = some next) :
      Assigned p name raw { p with attributes := p.attributes.insert name next }
  | created (habsent : p.attributes[name]? = none)
      (hopen : p.openSchema = true) :
      Assigned p name raw { p with
        attributes := p.attributes.insert name (Value.infer raw) }

/-- What a call that succeeds makes of a property device. -/
inductive PropertyDevice.Called (p : PropertyDevice) :
    String → List Literal → PropertyDevice → Prop where
  | unchanged {method args} : Called p method args p
  | reset {args} : Called p "reset" args p.reset
  | toggled {name b} (hcurrent : p.attributes[name]? = some (.bool b)) :
      Called p "toggle" [.text name]
        { p with attributes := p.attributes.insert name (.bool !b) }

/-- What serving an operation makes of a device. A name is called when it is
read only if it is no attribute. -/
inductive Device.Changed : Device → Operation → Device → Prop where
  | unchanged {d operation} : Changed d operation d
  | assigned {p name raw p'} (hassigned : p.Assigned name raw p') :
      Changed (.property p) (.set name raw) (.property p')
  | called {p method args p'} (hcalled : p.Called method args p') :
      Changed (.property p) (.call method args) (.property p')
  | read {p name p'} (habsent : p.attributes[name]? = none)
      (hcalled : p.Called name [] p') :
      Changed (.property p) (.get name) (.property p')

namespace PropertyDevice

theorem absent_of_read {p : PropertyDevice} {name : String} {failure : Failure}
    (h : p.read name = .error failure) : p.attributes[name]? = none := by
  rw [read] at h
  split at h
  · cases h
  · assumption

theorem assigned_of_assign {p p' : PropertyDevice} {name raw : String}
    (h : p.assign name raw = .ok p') : p.Assigned name raw p' := by
  rw [assign] at h
  split at h
  · next current hcurrent =>
      split at h
      · next next hnext =>
          cases h
          exact .updated hcurrent hnext
      · cases h
  · next habsent =>
      split at h
      · next hopen =>
          cases h
          exact .created habsent hopen
      · cases h

theorem called_of_toggle {p p' : PropertyDevice} {args : List Literal}
    {value : Option Value} (h : p.toggle args = .ok (p', value)) :
    p.Called "toggle" args p' := by
  rw [toggle.eq_def] at h
  split at h
  · split at h
    · next hcurrent =>
        cases h
        exact .toggled hcurrent
    · cases h
    · cases h
  · cases h

theorem called_of_call {p p' : PropertyDevice} {method : String}
    {args : List Literal} {value : Option Value}
    (h : p.call method args = .ok (p', value)) :
    p.Called method args p' := by
  rw [call] at h
  split at h
  · cases h
    exact .unchanged
  · split at h
    · next hreset =>
        cases h
        subst hreset
        exact .reset
    · split at h
      · next htoggle =>
          subst htoggle
          exact called_of_toggle h
      · split at h
        · cases h
          exact .unchanged
        · cases h

end PropertyDevice

namespace Device

theorem Changed.served {d d' : Device} {operation : Operation}
    (h : d.Changed operation d') :
    d.Served d' := by
  have hcalled : ∀ {p p' : PropertyDevice} {method args},
    p.Called method args p' →
      Served (.property p) (.property p') := by
    rintro p p' method args (_ | _ | _)
    · exact .same
    · exact .attributes
    · exact .attributes
  cases h with
  | unchanged => exact .same
  | assigned hassigned => cases hassigned <;> exact .attributes
  | called h => exact hcalled h
  | read _ h => exact hcalled h

/-- Only a property device takes an assignment. -/
theorem assigned_of_assign {d d' : Device} {name raw : String}
    (h : d.assign name raw = .ok d') :
    ∃ p p', d = .property p ∧ d' = .property p' ∧ p.Assigned name raw p' := by
  cases d with
  | script | plain | rig => cases h
  | property p =>
      obtain ⟨p', hp, rfl⟩ := ok_of_map h
      exact ⟨p, p', rfl, rfl, PropertyDevice.assigned_of_assign hp⟩

theorem changed_of_assign {d d' : Device} {name raw : String}
    (h : d.assign name raw = .ok d') :
    d.Changed (.set name raw) d' := by
  obtain ⟨p, p', rfl, rfl, hassigned⟩ := assigned_of_assign h
  exact .assigned hassigned

/-- Only a property device is changed by a call. -/
theorem called_of_call {d d' : Device} {method : String} {args : List Literal}
    {value : Option Value} (h : d.call method args = .ok (d', value)) :
    d' = d ∨ ∃ p p', d = .property p ∧ d' = .property p' ∧
    p.Called method args p' := by
  cases d with
  | plain | rig => cases h
  | property p =>
      obtain ⟨⟨p', v⟩, hp, heq⟩ := ok_of_map h
      cases heq
      exact .inr ⟨p, p', rfl, rfl, PropertyDevice.called_of_call hp⟩
  | script t =>
      obtain ⟨v, -, heq⟩ := ok_of_map h
      cases heq
      exact .inl rfl

theorem changed_of_call {d d' : Device} {method : String} {args : List Literal}
    {value : Option Value} (h : d.call method args = .ok (d', value)) :
    d.Changed (.call method args) d' := by
  rcases called_of_call h with rfl | ⟨p, p', rfl, rfl, hcalled⟩
  · exact .unchanged
  · exact .called hcalled

theorem changed_of_access {d d' : Device} {name : String} {value : Option Value}
    (h : (d.access name).result = .ok (d', value)) :
    d.Changed (.get name) d' := by
  rw [access] at h
  split at h
  · cases h
    exact .unchanged
  · next hread =>
      simp only [] at h
      split at h
      · cases h
      · rcases called_of_call h with rfl | ⟨p, p', rfl, rfl, hcalled⟩
        · exact .unchanged
        · exact .read (PropertyDevice.absent_of_read hread) hcalled
  · cases h

/-- An assignment gives no value back. -/
theorem assign_of_accessAssign {d d' : Device} {name raw : String}
    {value : Option Value}
    (h : (d.accessAssign name raw).result = .ok (d', value)) :
    d.assign name raw = .ok d' ∧ value = none := by
  obtain ⟨e, hassign, heq⟩ := ok_of_map h
  cases heq
  exact ⟨hassign, rfl⟩

theorem changed_of_accessAssign {d d' : Device} {name raw : String}
    {value : Option Value}
    (h : (d.accessAssign name raw).result = .ok (d', value)) :
    d.Changed (.set name raw) d' :=
  changed_of_assign (assign_of_accessAssign h).1

end Device

end DeviceShell
