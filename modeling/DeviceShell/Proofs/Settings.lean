import DeviceShell.Proofs.Command.Canonical
import DeviceShell.Proofs.Device.Schema
import DeviceShell.Settings.Decode

/-!
# What settings are accepted

The settings are checked device by device, with the ids that have been seen so
far. What comes of it can be said of all devices at once: every id can stand on
a line, and no two are the same.

A device is built from its settings by one declaration after the other. Since no
name is in a table twice, nothing is declared over, and the device has the table
that stands in the settings, now and to go back to.
-/

namespace DeviceShell

theorem validId_iff {id : String} :
    validId id = true ↔ Command.IsDeviceId id := by
  have hempty : (!id.isEmpty) = true ↔ id.toList ≠ [] := by
    rw [Bool.not_eq_true', ← Bool.not_eq_true, String.isEmpty_iff, ne_eq,
      String.toList_eq_nil_iff]
  simp only [validId, Command.IsDeviceId, Command.IsWord,
    Bool.and_eq_true, hempty, List.all_eq_true, decide_eq_true_eq,
    Bool.not_eq_true']
  constructor
  · rintro ⟨hne, hall⟩
    exact ⟨⟨hne, fun c hc => (hall c hc).2⟩, fun hdot => (hall '.' hdot).1 rfl⟩
  · rintro ⟨⟨hne, hblank⟩, hdot⟩
    exact ⟨hne, fun c hc => ⟨fun heq => hdot (heq ▸ hc), hblank c hc⟩⟩

namespace Settings

theorem checkIds_eq_ok_iff {before : List String}
    {devices : List DeviceSettings} :
    checkIds before devices = .ok () ↔
      (∀ d ∈ devices, Command.IsDeviceId d.id) ∧ (devices.map (·.id)).Nodup ∧
        ∀ d ∈ devices, d.id ∉ before := by
  induction devices generalizing before with
  | nil => simp [checkIds]
  | cons d rest ih =>
      rw [checkIds]
      split
      · next hinvalid =>
          refine ⟨nofun, fun ⟨hids, _⟩ => ?_⟩
          rw [validId_iff.mpr (hids d List.mem_cons_self)] at hinvalid
          cases hinvalid
      · next hvalid =>
          rw [Bool.not_eq_true, Bool.not_eq_false', validId_iff] at hvalid
          split
          · next hseen =>
              exact ⟨nofun, fun ⟨_, _, hnew⟩ =>
                absurd hseen (hnew d List.mem_cons_self)⟩
          · next hnew =>
              rw [ih, List.forall_mem_cons, List.forall_mem_cons, List.map_cons,
                List.nodup_cons]
              simp only [List.mem_map, List.mem_cons, not_or,
                not_exists, not_and]
              constructor
              · rintro ⟨hids, hnodup, hothers⟩
                exact ⟨⟨hvalid, hids⟩, ⟨fun e he => (hothers e he).1, hnodup⟩,
                  hnew, fun e he => (hothers e he).2⟩
              · rintro ⟨⟨-, hids⟩, ⟨hother, hnodup⟩, -, hothers⟩
                exact ⟨hids, hnodup, fun e he => ⟨hother e he, hothers e he⟩⟩

/-- Settings are accepted exactly if the secondary lane has an extension and
every device an id of its own that can stand on a line. -/
theorem check_eq_ok_iff {s : Settings} :
    s.check = .ok () ↔ s.scripts.secondaryExtension ≠ "" ∧
      (∀ d ∈ s.devices, Command.IsDeviceId d.id) ∧
      (s.devices.map (·.id)).Nodup := by
  rw [check]
  split
  · next hempty =>
      exact ⟨nofun, fun ⟨hne, _⟩ => absurd (String.isEmpty_iff.mp hempty) hne⟩
  · next hempty =>
      rw [String.isEmpty_iff] at hempty
      simp only [checkIds_eq_ok_iff, List.not_mem_nil, not_false_eq_true,
        implies_true, and_true, ne_eq, hempty, true_and]

theorem check_of_ofText {text : String} {s : Settings}
    (h : ofText text = .ok s) :
    s.check = .ok () := by
  rw [ofText] at h
  split at h
  · cases h
  · next settings _ =>
      cases hcheck : settings.check with
      | error failure =>
          rw [hcheck] at h
          cases h
      | ok =>
          rw [hcheck] at h
          cases h
          exact hcheck

theorem check_of_load {files : Files} {path : String} {s : Settings}
    {events : List Event} (h : load files path = .ok (s, events)) :
    s.check = .ok () := by
  rw [load] at h
  split at h
  · cases h
    decide
  · cases h
  · cases h
  · split at h
    · cases h
    · obtain ⟨loaded, hread, heq⟩ := ok_of_map h
      cases heq
      exact check_of_ofText hread

end Settings

/-! ## The device of some settings -/

/-- Declaring what a table lists gives the table back. -/
theorem PropertyDevice.declaredValue?_toList (table : Attributes)
    (name : String) :
    declaredValue? table.toList name = table[name]? := by
  rw [declaredValue?]
  cases hfind : table.toList.reverse.find? (·.1 = name) with
  | none =>
      rw [List.find?_eq_none] at hfind
      rw [Option.map_none, eq_comm, Option.eq_none_iff_forall_ne_some]
      intro value hvalue
      have hmem :=
        List.mem_reverse.mpr
          (Std.ExtTreeMap.mem_toList_iff_getElem?_eq_some.mpr hvalue)
      exact hfind _ hmem (decide_eq_true rfl)
  | some entry =>
      obtain ⟨key, value⟩ := entry
      have hmem := List.mem_reverse.mp (List.mem_of_find?_eq_some hfind)
      have hkey := List.find?_some hfind
      obtain rfl : key = name := of_decide_eq_true hkey
      exact (Std.ExtTreeMap.mem_toList_iff_getElem?_eq_some.mp hmem).symm

namespace DeviceSettings

theorem device_eq (d : DeviceSettings) :
    d.device =
      { id := d.id, description := d.description, defaults := d.attributes,
        attributes := d.attributes } := by
  obtain ⟨table, hdevice, htable⟩ :=
    PropertyDevice.exists_declareAll d.id d.description false
      d.attributes.toList
  have hsame : table = d.attributes := by
    refine Std.ExtTreeMap.ext_getElem? fun name => ?_
    rw [htable, PropertyDevice.declaredValue?_toList]
  rw [device, hdevice, hsame]

theorem id_device (d : DeviceSettings) :
    (Device.property d.device).id = d.id := by
  rw [Device.id, device_eq]

end DeviceSettings

end DeviceShell
