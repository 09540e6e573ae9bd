import Std.Data.ExtTreeMap
import DeviceShell.Event
import DeviceShell.Text.Blank

/-!
# Registry

The registry says which instance an id means at the moment. It is a table from
ids to handles in the order of the ids, and a handle is always entered under
its own id.
-/

namespace DeviceShell

/-- The registered devices by id. -/
structure Registry where
  entries : Std.ExtTreeMap String Handle := ∅

namespace Registry

/-- The instance registered under an id. -/
def get? (r : Registry) (id : String) : Option Handle :=
  r.entries[id]?

/-- Whether something is registered under an id. -/
def contains (r : Registry) (id : String) : Bool :=
  r.entries.contains id

/-- Registers an instance under its id, in place of whatever was there. -/
def insert (r : Registry) (device : Handle) : Registry :=
  ⟨r.entries.insert device.id device⟩

/-- Forgets an id. -/
def erase (r : Registry) (id : String) : Registry :=
  ⟨r.entries.erase id⟩

/-- Forgets an id and gives back the instance that was registered under it. -/
def remove (r : Registry) (id : String) : Option Handle × Registry :=
  match r.get? id with
  | none => (none, r)
  | some device => (some device, r.erase id)

/-- The registered ids, in order. -/
def ids (r : Registry) : List String :=
  r.entries.keys

/-- The number of registered devices. -/
def size (r : Registry) : Nat :=
  r.entries.size

/-- A table of the registered devices: a heading with their number and a line
for each, or one line that says there are none. -/
def listing (describe : Handle → String) (r : Registry) : List String :=
  if r.size = 0 then ["(no devices)"]
  else
    ("Devices (" ++ Number.countText r.size ++ "):") ::
      r.entries.toList.map fun (id, device) =>
        "  " ++ Text.padRight 16 id ++ " " ++ describe device

@[simp] theorem get?_insert (r : Registry) (device : Handle) (id : String) :
    (r.insert device).get? id = if device.id = id then some device
      else r.get? id := by
  simp [insert, get?, Std.ExtTreeMap.getElem?_insert]

@[simp] theorem get?_erase (r : Registry) (erased id : String) :
    (r.erase erased).get? id = if erased = id then none else r.get? id := by
  simp [erase, get?, Std.ExtTreeMap.getElem?_erase]

theorem contains_eq_isSome (r : Registry) (id : String) :
    r.contains id = (r.get? id).isSome :=
  Std.ExtTreeMap.contains_eq_isSome_getElem?

theorem mem_ids_iff {r : Registry} {id : String} :
    id ∈ r.ids ↔ r.contains id = true :=
  Std.ExtTreeMap.mem_keys.trans Std.ExtTreeMap.mem_iff_contains

theorem length_ids (r : Registry) : r.ids.length = r.size :=
  Std.ExtTreeMap.length_keys

/-- Registries in which every id means the same are equal. -/
theorem ext_get? {r r' : Registry} (h : ∀ id, r.get? id = r'.get? id) :
    r = r' :=
  congrArg Registry.mk (Std.ExtTreeMap.ext_getElem? h)

theorem remove_eq (r : Registry) (id : String) :
    r.remove id = (r.get? id, r.erase id) := by
  rw [remove]
  cases hget : r.get? id with
  | some => rfl
  | none =>
    refine congrArg (Prod.mk none) (ext_get? fun other => ?_)
    rw [get?_erase]
    split
    · next heq => rw [← heq, hget]
    · rfl

end Registry

end DeviceShell
