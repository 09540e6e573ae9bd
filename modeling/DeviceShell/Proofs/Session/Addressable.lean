import DeviceShell.Proofs.Session.Described

/-!
# What is registered can be addressed

A device answers to the part of a line in front of the first dot, and orders go
to the second of two words. Neither would find a device whose id had a dot or a
blank in it, and nothing in the registry keeps such an id out. The ids come from
three places, each with a rule of its own, and from none of them can one get in
that could not be typed: `Typable.after` says so of every history, so what is
left here is to read off what an id that can be typed is good for.

This is not about the line that is the id alone (see `Described`): there
an id can still be a word of the shell's own. Behind an order and in
front of a dot it cannot.
-/

namespace DeviceShell

namespace Session

/-- The id is the id of the device that is registered under it, and lines can be
about that device: operations on what it has, and orders. -/
structure Addressable (s : Session) (id : String) : Prop where
  stored : ∃ h d, s.find? id = some (h, d) ∧ d.id = id
  ne_empty : id ≠ ""
  no_dot : '.' ∉ id.toList
  no_blank : ∀ c ∈ id.toList, Text.isBlank c = false
  leads : ∀ rest, Command.identifier (id ++ "." ++ rest) = id
  ordered : ∀ order, Command.classify (order.word ++ " " ++ id) =
    .ok (.lifecycle order id)

theorem Sound.addressable {s : Session} {id : String} (hs : s.Sound)
    (ht : s.Typable) (hregistered : id ∈ s.registry.ids) :
    s.Addressable id := by
  rw [Registry.mem_ids_iff, hs.contains_eq_isSome, Option.isSome_iff_exists]
    at hregistered
  obtain ⟨⟨h, d⟩, hfind⟩ := hregistered
  have hid : Command.IsDeviceId id := ht id h (find?_eq_some_iff.mp hfind).1
  exact {
    stored := ⟨h, d, hfind, (hs.id_of_find? hfind).2⟩
    ne_empty := by
      rintro rfl
      exact hid.1.1 rfl
    no_dot := hid.2
    no_blank := hid.1.2
    leads := Command.identifier_dotted hid
    ordered := Command.classify_order hid.1 }

/-- Whatever settings were loaded, and whatever has been typed while the
files were whatever they were: every registered id can be used to
address its device. -/
theorem addressable_after_load {files : Files} {path : String}
    {settings : Settings} {events : List Event}
    (hload : Settings.load files path = .ok (settings, events)) (demo : Bool)
    (folder : Lane → ScriptFolder) (suffix : String)
    (history : List (Files × String)) :
    ∀ id ∈ ((settings.session demo).session.after (.ofFolders folder suffix)
        history).registry.ids,
      ((settings.session demo).session.after (.ofFolders folder suffix)
        history).Addressable id := by
  have hsound := (Initial.ofSettings settings demo).sound.after
    (.ofFolders folder suffix) history
  have htypable :=
    (Typable.ofSettings (Settings.check_of_load hload) demo).after folder suffix
    history
  exact fun id hregistered => hsound.addressable htypable hregistered

/-- A script loaded by its name with the suffix, names that no folder takes for
the name of a script, and an order to a device that is called like it. -/
def hardNames : List (Files × String) :=
  let scripts :=
    (FileTree.ofEntries [("scripts/blink.rb", some "on\noff\n".toUTF8)]).view
  [(scripts, "load blink.rb"), (scripts, "load .rb"), (scripts, "load a.b.rb"),
    (fun _ => some (.file "".toUTF8), "load ../lamp"), (scripts, "start start")]

theorem addressable_after_load_hardNames :
    ∃ settings events,
      Settings.load (fun _ =>
        some (.file "[[devices]]\nid = \"start\"\n".toUTF8)) "devsh.toml" =
          .ok (settings, events) ∧
      ((settings.session true).session.after .standard
        hardNames).registry.ids =
          ["blink", "lamp", "notes", "start", "thermostat"] ∧
      ∀ id ∈ ["blink", "lamp", "notes", "start", "thermostat"],
        ((settings.session true).session.after .standard
          hardNames).Addressable id := by
  have hany : ((Settings.load (fun _ =>
      some (.file "[[devices]]\nid = \"start\"\n".toUTF8))
        "devsh.toml").toOption.any fun loaded =>
          ((loaded.1.session true).session.after .standard
            hardNames).registry.ids =
              ["blink", "lamp", "notes", "start", "thermostat"]) = true := by
    decide +kernel
  obtain ⟨⟨settings, events⟩, hload, hids⟩ := exists_ok_of_any hany
  have hids := of_decide_eq_true hids
  refine ⟨settings, events, hload, hids, ?_⟩
  rw [← hids]
  exact addressable_after_load hload true ({} : ScriptSettings).folder ".rb"
    hardNames

end Session

end DeviceShell
