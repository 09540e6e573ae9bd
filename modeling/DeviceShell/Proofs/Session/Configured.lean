import DeviceShell.Proofs.Session.Agreement
import DeviceShell.Proofs.Session.Tells
import DeviceShell.Proofs.Settings
import DeviceShell.Settings.Scripts

/-!
# Nothing of the settings is lost

The devices of the settings are registered one after the other, and a
registration takes the place of what is there under the same id. So there is
something to lose: an entry under another of the same id, and an attribute under
a name that cannot be typed. Settings that are accepted lose no entry, since
their ids are distinct (`Fresh`), and every attribute that has a name of its own
on a line is found there with its value. An attribute comes first wherever a
name could be something else.
-/

namespace DeviceShell

namespace Session

/-! ## One device after the other -/

/-- The devices have ids of their own, and nothing is registered under them. -/
structure Fresh (s : Session) (devices : List DeviceSettings) : Prop where
  distinct : (devices.map (·.id)).Nodup
  unregistered : ∀ d ∈ devices, s.registry.contains d.id = false

section Devices

variable {s : Session} {d : DeviceSettings} {devices rest : List DeviceSettings}

theorem Fresh.ne_of_mem (h : s.Fresh (d :: rest)) : ∀ e ∈ rest, e.id ≠ d.id :=
  fun e he heq => (List.nodup_cons.mp h.distinct).1
    (List.mem_map.mpr ⟨e, he, heq⟩)

theorem Fresh.tail (h : s.Fresh (d :: rest)) :
    (s.install (.property d.device)).session.Fresh rest := by
  refine ⟨(List.nodup_cons.mp h.distinct).2, fun e he => ?_⟩
  rw [contains_install, d.id_device, decide_eq_false (h.ne_of_mem e he).symm,
    Bool.false_or]
  exact h.unregistered e (List.mem_cons_of_mem d he)

theorem find?_configure_of_forall_ne {id : String} (hs : s.Sound)
    (hne : ∀ d ∈ devices, d.id ≠ id) :
    (s.configure devices).session.find? id = s.find? id := by
  induction devices generalizing s with
  | nil => rfl
  | cons d rest ih =>
      obtain ⟨hd, hrest⟩ := List.forall_mem_cons.mp hne
      refine (ih (hs.install (.property d.device)) hrest).trans ?_
      rw [hs.find?_install, d.id_device, if_neg hd]

/-- Each of the devices is what its id leads to. -/
theorem Fresh.exists_find? (h : s.Fresh devices) (hs : s.Sound)
    (hd : d ∈ devices) :
    ∃ g, (s.configure devices).session.find? d.id =
      some (g, .property d.device) := by
  induction devices generalizing s with
  | nil => cases hd
  | cons e rest ih =>
      have hnext := hs.install (.property e.device)
      rcases List.mem_cons.mp hd with rfl | hmem
      · refine ⟨(s.make (.property d.device)).2,
          (find?_configure_of_forall_ne hnext h.ne_of_mem).trans ?_⟩
        rw [hs.find?_install, if_pos d.id_device]
      · exact ih h.tail hnext hmem

theorem Fresh.inserted (h : s.Fresh devices) (g : Handle) (replaced : Bool)
    (hmem : .registered g replaced ∈ (s.configure devices).events) :
    replaced = false := by
  induction devices generalizing s with
  | nil => cases hmem
  | cons d rest ih =>
      change _ ∈ .deviceConfigured d.id d.attributes.size ::
        .registered (s.make (.property d.device)).2
            (s.registry.contains (Device.property d.device).id) ::
          ((s.install (.property d.device)).session.configure rest).events
            at hmem
      rcases List.mem_cons.mp hmem with heq | hmem
      · cases heq
      · rcases List.mem_cons.mp hmem with heq | hmem
        · cases heq
          rw [d.id_device]
          exact h.unregistered d List.mem_cons_self
        · exact ih h.tail hmem

theorem Fresh.of_check {settings : Settings}
    (hcheck : settings.check = .ok ()) :
    ({} : Session).Fresh settings.devices := by
  obtain ⟨-, -, hdistinct⟩ := Settings.check_eq_ok_iff.mp hcheck
  exact ⟨hdistinct, fun _ _ => Std.ExtTreeMap.contains_empty⟩

end Devices

/-! ## What the operator finds -/

/-- The devices are registered under their ids and nothing else is, and no
entry has made way for another. Each lists the names of its attributes in the
order of their bytes, and has an attribute that can be typed read with the
value that it was given. -/
structure Configured (devices : List DeviceSettings)
    (r : Reply Unit) : Prop where
  ids : r.session.registry.ids.Perm (devices.map (·.id))
  size : r.session.registry.size = devices.length
  inserted : ∀ h replaced, .registered h replaced ∈ r.events → replaced = false
  described : ∀ d ∈ devices, ∃ h e names, r.session.find? d.id = some (h, e) ∧
    e.describe = (if d.description.isEmpty then "device" else d.description) ++
      " [" ++ d.id ++ "] attributes: " ++ String.intercalate ", " names ∧
    names.Pairwise (Text.utf8 · < Text.utf8 ·) ∧ ∀ name, name ∈ names ↔
    name ∈ d.attributes
  read : ∀ d ∈ devices, ∀ name value, d.attributes[name]? = some value →
    IsName name → '.' ∉ name.toList → '(' ∉ name.toList → '=' ∉ name.toList →
    ∀ loader, Tells loader r.session (d.id ++ "." ++ name)
      (.message, value.render)

theorem ids_perm_configure {devices : List DeviceSettings}
    (h : ({} : Session).Fresh devices) :
    (({} : Session).configure devices).session.registry.ids.Perm
      (devices.map (·.id)) := by
  have hsound : (({} : Session).configure devices).session.Sound :=
    (Initial.configure Initial.empty).sound
  refine (List.perm_ext_iff_of_nodup Std.ExtTreeMap.nodup_keys h.distinct).mpr
    fun id => ?_
  rw [← Registry.ids, Registry.mem_ids_iff, hsound.contains_eq_isSome,
    List.mem_map]
  constructor
  · intro hfound
    by_contra hnone
    rw [find?_configure_of_forall_ne Sound.empty fun d hd heq =>
      hnone ⟨d, hd, heq⟩] at hfound
    cases hfound
  · rintro ⟨d, hd, rfl⟩
    obtain ⟨g, hfind⟩ := h.exists_find? Sound.empty hd
    rw [hfind, Option.isSome_some]

/-- Settings that are accepted are all there when they have been
registered, and can be asked for. -/
theorem configured_of_check {settings : Settings}
    (hcheck : settings.check = .ok ()) :
    Configured settings.devices
      (({} : Session).configure settings.devices) := by
  have hfresh := Fresh.of_check hcheck
  have hids := ids_perm_configure hfresh
  obtain ⟨-, hvalid, -⟩ := Settings.check_eq_ok_iff.mp hcheck
  refine ⟨hids, ?size, hfresh.inserted, ?described, ?read⟩
  case size =>
    have hlength := hids.length_eq
    rw [List.length_map, Registry.ids, Std.ExtTreeMap.length_keys] at hlength
    exact hlength
  case described =>
    intro d hd
    obtain ⟨g, hfind⟩ := hfresh.exists_find? Sound.empty hd
    refine ⟨g, _, d.attributes.keys, hfind, ?_, Text.pairwise_utf8_keys _,
      fun _ => Std.ExtTreeMap.mem_keys⟩
    rw [Device.describe, d.device_eq]
    rfl
  case read =>
    intro d hd name value hvalue hname hdot hopen hequals loader
    obtain ⟨g, hfind⟩ := hfresh.exists_find? Sound.empty hd
    have hop : (Operation.get name).Writable := ⟨hname, hdot, hopen, hequals⟩
    have hattribute : d.device.attributes[name]? = some value := by
      rw [d.device_eq]
      exact hvalue
    have hanswer := PropertyDevice.answer_get hattribute
    exact tells_render loader (hvalid d hd) hop nofun hfind (by rw [hanswer])

/-- A device that is called like a command and one that is called like an order,
with attributes that are called like methods. -/
def namesakes : Settings :=
  { devices :=
      [{ id := "help",
         attributes := (∅ : Attributes).insert "reset" (.integer 3) },
         { id := "start", description := "Switch", attributes :=
            ((∅ : Attributes).insert "keys" (.text "two")).insert "echo"
              (.bool true) }] }

theorem configured_of_check_namesakes :
    namesakes.check = .ok () ∧
    Configured namesakes.devices (({} : Session).configure namesakes.devices) ∧
    ((({} : Session).configure namesakes.devices).session.interpret
      (namesakes.scripts.loader fun _ => none) "help.reset").transcript =
        [(.message, "3")] := by
  have hcheck : namesakes.check = .ok () := by decide +kernel
  exact ⟨hcheck, configured_of_check hcheck, by decide +kernel⟩

end Session

end DeviceShell
