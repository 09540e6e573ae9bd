import Mathlib.Data.List.Induction
import DeviceShell.Proofs.Device.Outcome
import DeviceShell.Proofs.Text.Order

/-!
# What becomes of the attributes of a device

A device is asked for many things and grants some of them. However long that
goes on, the attributes it was declared with are all there, each of the kind it
was declared with, and only an open schema adds others to them.

The kind of an attribute is not written down anywhere: it is the kind of the
value that is there at the moment, and an assignment is fitted to that. So the
kinds have to be carried along. What carries them is `Conforms`, which compares
a device with the one that was declared, and the two ways in which a value ever
replaces another: a text fitted to the kind of the old value, and a truth value
flipped. A reset goes back to the table of the declaration, which nothing
changes.
-/

namespace DeviceShell

/-! ## Requests -/

/-- What a device can be asked for. -/
inductive Device.Request where
  | start
  | stop
  | read (name : String)
  | assign (name raw : String)
  | call (method : String) (args : List Literal)

/-- The device after a request, if that is granted. -/
def Device.grant (d : Device) : Request → Except Failure Device
  | .start => d.start.map (·.1)
  | .stop => d.stop.map (·.1)
  | .read name => (d.read name).map fun _ => d
  | .assign name raw => d.assign name raw
  | .call method args => (d.call method args).map (·.1)

/-- The device after a list of requests. One that is refused leaves it as it
was. -/
def Device.afterAll (d : Device) : List Request → Device
  | [] => d
  | request :: rest => ((d.grant request).toOption.getD d).afterAll rest

namespace PropertyDevice

/-! ## Declarations -/

theorem getElem?_insert (table : Attributes) (name other : String)
    (value : Value) :
    (table.insert name value)[other]? = if name = other then some value
      else table[other]? := by
  rw [Std.ExtTreeMap.getElem?_insert]
  simp only [Std.compare_eq_iff_eq]

/-- The value that a name was declared with: that of its last declaration. -/
def declaredValue? (declared : List (String × Value)) (name : String) :
    Option Value :=
  (declared.reverse.find? (·.1 = name)).map (·.2)

theorem declaredValue?_concat (declared : List (String × Value))
    (entry : String × Value) (name : String) :
    declaredValue? (declared ++ [entry]) name =
      if entry.1 = name then some entry.2
      else declaredValue? declared name := by
  rw [declaredValue?, List.reverse_concat, List.find?_cons]
  split
  · next heq =>
      rw [decide_eq_true_iff] at heq
      rw [if_pos heq, Option.map_some]
  · next hne =>
      rw [decide_eq_false_iff_not] at hne
      rw [if_neg hne, declaredValue?]

theorem declareAll_concat (d : PropertyDevice)
    (declared : List (String × Value)) (entry : String × Value) :
    d.declareAll (declared ++ [entry]) =
      (d.declareAll declared).declare entry.1 entry.2 :=
  List.foldl_concat ..

/-- The table of a device as it is declared holds the declared values. -/
theorem exists_declareAll (id description : String) (openSchema : Bool)
    (declared : List (String × Value)) :
    ∃ table : Attributes,
      declareAll { id, description, openSchema } declared =
        { id, description, openSchema, defaults := table,
          attributes := table } ∧
      ∀ name, table[name]? = declaredValue? declared name := by
  induction declared using List.reverseRecOn with
  | nil => exact ⟨∅, rfl, fun name => Std.ExtTreeMap.getElem?_empty⟩
  | append_singleton declared entry ih =>
      obtain ⟨table, hdevice, htable⟩ := ih
      refine ⟨table.insert entry.1 entry.2, ?_, fun name => ?_⟩
      · rw [declareAll_concat, hdevice]
        rfl
      · rw [declaredValue?_concat, ← htable, getElem?_insert]

/-! ## The invariant -/

/-- The device has been made from `origin` by requests: it has the attributes of
the declaration, each of its kind, and no others unless the schema is open. -/
structure Conforms (origin p : PropertyDevice) : Prop where
  fixed : p = { origin with attributes := p.attributes, running := p.running }
  present : ∀ {name : String} {value : Value},
    origin.defaults[name]? = some value →
    ∃ current, p.attributes[name]? = some current ∧ current.kind = value.kind
  closed : origin.openSchema = false → ∀ {name : String} {current : Value},
    p.attributes[name]? = some current → (origin.defaults[name]?).isSome

namespace Conforms

variable {origin p : PropertyDevice}

theorem of_declared (origin : PropertyDevice)
    (h : origin.attributes = origin.defaults) :
    origin.Conforms origin where
  fixed := rfl
  present hvalue := ⟨_, h ▸ hvalue, rfl⟩
  closed _ _ _ hcurrent := by
    rw [h] at hcurrent
    rw [hcurrent]
    rfl

theorem run (h : origin.Conforms p) (running : Bool) :
    origin.Conforms { p with running := running } where
  fixed := by rw [h.fixed]
  present := h.present
  closed := h.closed

/-- A value makes way for another of its kind. -/
theorem update {name : String} {current next : Value} (h : origin.Conforms p)
    (hcurrent : p.attributes[name]? = some current)
    (hkind : next.kind = current.kind) :
    origin.Conforms { p with attributes := p.attributes.insert name next } where
  fixed := by rw [h.fixed]
  present {other value} hvalue := by
    obtain ⟨old, hold, holdkind⟩ := h.present hvalue
    rw [getElem?_insert]
    split
    · next heq =>
        subst heq
        rw [hcurrent] at hold
        cases hold
        exact ⟨next, rfl, hkind.trans holdkind⟩
    · exact ⟨old, hold, holdkind⟩
  closed hclosed other value hvalue := by
    rw [getElem?_insert] at hvalue
    split at hvalue
    · next heq =>
        subst heq
        exact h.closed hclosed hcurrent
    · exact h.closed hclosed hvalue

theorem assigned {name raw : String} {p' : PropertyDevice}
    (h : origin.Conforms p) (hassigned : p.Assigned name raw p') :
    origin.Conforms p' := by
  cases hassigned with
  | updated hcurrent hnext =>
      exact h.update hcurrent (Value.kind_of_coerce? hnext)
  | created habsent hopen =>
      have hschema : origin.openSchema = true := by
        rw [h.fixed] at hopen
        exact hopen
      refine ⟨by rw [h.fixed], ?_, fun hclosed => ?_⟩
      · intro other value hvalue
        obtain ⟨old, hold, holdkind⟩ := h.present hvalue
        rw [getElem?_insert]
        split
        · next heq =>
            subst heq
            rw [habsent] at hold
            cases hold
        · exact ⟨old, hold, holdkind⟩
      · rw [hschema] at hclosed
        cases hclosed

theorem called {method : String} {args : List Literal} {p' : PropertyDevice}
    (h : origin.Conforms p) (hcalled : p.Called method args p') :
    origin.Conforms p' := by
  cases hcalled with
  | unchanged => exact h
  | toggled hcurrent => exact h.update hcurrent rfl
  | reset =>
      have hdefaults : p.defaults = origin.defaults := by rw [h.fixed]
      refine ⟨by rw [reset, h.fixed], ?_, fun _ => ?_⟩
      · intro name value hvalue
        rw [← hdefaults] at hvalue
        exact ⟨value, hvalue, rfl⟩
      · intro name current hcurrent
        change p.defaults[name]? = some current at hcurrent
        rw [← hdefaults, hcurrent]
        rfl

theorem changed {operation : Operation} {d : Device} (h : origin.Conforms p)
    (hchanged : Device.Changed (.property p) operation d) :
    ∃ p', d = .property p' ∧ origin.Conforms p' := by
  cases hchanged with
  | unchanged => exact ⟨p, rfl, h⟩
  | assigned hassigned => exact ⟨_, rfl, h.assigned hassigned⟩
  | called hcalled => exact ⟨_, rfl, h.called hcalled⟩
  | read _ hcalled => exact ⟨_, rfl, h.called hcalled⟩

/-- A request that is granted leaves a device that conforms, and one that is
refused leaves the device that there was. -/
theorem grant (h : origin.Conforms p) (request : Device.Request) :
    ∃ p', ((Device.property p).grant request).toOption.getD (.property p) =
      .property p' ∧
      origin.Conforms p' := by
  cases hgrant : (Device.property p).grant request with
  | error => exact ⟨p, rfl, h⟩
  | ok d =>
      cases request with
      | start =>
          cases hgrant
          exact ⟨_, rfl, h.run true⟩
      | stop =>
          cases hgrant
          exact ⟨_, rfl, h.run false⟩
      | read name =>
          obtain ⟨value, -, rfl⟩ := ok_of_map hgrant
          exact ⟨p, rfl, h⟩
      | assign name raw => exact h.changed (Device.changed_of_assign hgrant)
      | call method args =>
          obtain ⟨⟨d', value⟩, hcall, rfl⟩ := ok_of_map hgrant
          exact h.changed (Device.changed_of_call hcall)

theorem afterAll (h : origin.Conforms p) (requests : List Device.Request) :
    ∃ p', (Device.property p).afterAll requests = .property p' ∧
      origin.Conforms p' := by
  induction requests generalizing p with
  | nil => exact ⟨p, rfl, h⟩
  | cons request rest ih =>
      obtain ⟨p', hgranted, h'⟩ := h.grant request
      rw [Device.afterAll, hgranted]
      exact ih h'

end Conforms

/-! ## Every history of requests -/

/-- What holds of a property device whatever has been asked of it. Every
declared attribute is there and has its kind, and under a closed schema there is
no other. An assignment to an attribute that is there keeps its kind and touches
nothing else. The names that `keys` and the description list are those of the
attributes that are there, in the order of their bytes. -/
structure HasSchema (openSchema : Bool) (declared : List (String × Value))
    (p : PropertyDevice) : Prop where
  present : ∀ name value, declaredValue? declared name = some value →
    ∃ current, p.attributes[name]? = some current ∧ current.kind = value.kind
  closed : openSchema = false → ∀ name current,
    p.attributes[name]? = some current →
    ∃ value, declaredValue? declared name = some value
  kept : ∀ name raw p' current, p.attributes[name]? = some current →
    p.assign name raw = .ok p' → ∃ next, next.kind = current.kind ∧
      ∀ other, p'.attributes[other]? = if name = other then
        some next else p.attributes[other]?
  listed : ∃ names : List String,
    (∀ args, p.call "keys" args = .ok (p, some (.list (names.map .text)))) ∧
    p.describe = (if p.description.isEmpty then "device" else p.description) ++
      " [" ++ p.id ++ "] attributes: " ++ String.intercalate ", " names ∧
    names.Pairwise (Text.utf8 · < Text.utf8 ·) ∧
    ∀ name, name ∈ names ↔ ∃ current, p.attributes[name]? = some current

theorem kept_of_assign {p p' : PropertyDevice} {name raw : String}
    {current : Value} (hcurrent : p.attributes[name]? = some current)
    (h : p.assign name raw = .ok p') :
    ∃ next, next.kind = current.kind ∧ ∀ other, p'.attributes[other]? =
      if name = other then some next else p.attributes[other]? := by
  cases assigned_of_assign h with
  | @updated old next hold hnext =>
      rw [hcurrent] at hold
      cases hold
      exact ⟨next, Value.kind_of_coerce? hnext,
        fun other => getElem?_insert _ _ _ _⟩
  | created habsent =>
      rw [hcurrent] at habsent
      cases habsent

theorem mem_names_iff {p : PropertyDevice} {name : String} :
    name ∈ p.names ↔ ∃ current, p.attributes[name]? = some current := by
  rw [names, Std.ExtTreeMap.mem_keys, Std.ExtTreeMap.mem_iff_isSome_getElem?,
    Option.isSome_iff_exists]

end PropertyDevice

/-- A property device has the schema it was declared with after every list of
requests, granted or refused. -/
theorem Device.hasSchema_afterAll (id description : String) (openSchema : Bool)
    (declared : List (String × Value)) (requests : List Request) :
    ∃ p, (Device.property
        (PropertyDevice.declareAll { id, description, openSchema }
          declared)).afterAll requests =
          .property p ∧ p.HasSchema openSchema declared := by
  obtain ⟨table, hdevice, htable⟩ :=
    PropertyDevice.exists_declareAll id description openSchema declared
  rw [hdevice]
  have hdeclared := PropertyDevice.Conforms.of_declared
    { id, description, openSchema, defaults := table, attributes := table } rfl
  obtain ⟨p, hafter, hconforms⟩ := hdeclared.afterAll requests
  refine ⟨p, hafter, ?present, ?closed, ?kept, ?listed⟩
  case present =>
    intro name value hvalue
    exact hconforms.present ((htable name).trans hvalue)
  case closed =>
    intro hclosed name current hcurrent
    rw [← htable]
    exact Option.isSome_iff_exists.mp (hconforms.closed hclosed hcurrent)
  case kept =>
    intro name raw p' current hcurrent hassign
    exact PropertyDevice.kept_of_assign hcurrent hassign
  case listed =>
    exact ⟨p.names, fun _ => rfl, rfl, Text.pairwise_utf8_keys _,
      fun _ => PropertyDevice.mem_names_iff⟩

end DeviceShell
