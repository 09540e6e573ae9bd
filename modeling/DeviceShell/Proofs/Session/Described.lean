import DeviceShell.Proofs.ScriptFolder
import DeviceShell.Proofs.Session.Agreement
import DeviceShell.Proofs.Session.Tells
import DeviceShell.Proofs.Settings
import DeviceShell.Settings.Scripts

/-!
# What can be described by its id

Three places decide which ids there are. The settings are checked, the
devices to play with come with ids of their own, and a script folder
makes a task only of what it takes for a base name. They agree in one
thing: whatever gets registered can stand for a device on a line
(`Typable`), and no line undoes that.

So the id alone, typed as a line, asks for a description, unless the classifier
takes it for something else before it thinks of devices. That happens with five
words and no others. Nothing keeps a device from being called like one of them:
it obeys orders and shows its attributes like any other, and only the line that
should describe it does something else.
-/

namespace DeviceShell

namespace Session

/-- Whatever is registered can stand for a device on a line. -/
def Typable (s : Session) : Prop :=
  ∀ id h, s.registry.get? id = some h → Command.IsDeviceId id

namespace Typable

theorem empty : ({} : Session).Typable := by
  intro id h hget
  cases hget

theorem register {s : Session} {h : Handle} (ht : s.Typable)
    (hid : Command.IsDeviceId h.id) :
    (s.register h).session.Typable := by
  intro id g hget
  change (s.registry.insert h).get? id = some g at hget
  rw [Registry.get?_insert] at hget
  split at hget
  · next heq => exact heq ▸ hid
  · exact ht _ _ hget

theorem unregister {s : Session} (ht : s.Typable) (id : String) :
    (s.unregister id).session.Typable := by
  intro id' g hget
  rw [get?_unregister] at hget
  split at hget
  · cases hget
  · exact ht _ _ hget

theorem retired {s s' : Session} {base : String} (ht : s.Typable)
    (hretired : Retired s base s') :
    s'.Typable := by
  cases hretired with
  | absent => exact ht
  | unready | ready => exact Typable.unregister ht base

theorem adopt {s : Session} {d : Device} (ht : s.Typable)
    (hid : Command.IsDeviceId d.id) :
    (s.adopt d).session.Typable :=
  Typable.register (s := ((s.make d).1.watch (s.make d).2).session) ht hid

theorem step {folder : Lane → ScriptFolder} {suffix line : String}
    {files : Files} {s s' : Session} (ht : s.Typable)
    (hstep : Step (.ofFolders folder suffix files) s line s') :
    s'.Typable := by
  cases hstep with
  | unread => exact ht
  | read _ heffect =>
      cases heffect with
      | exit | devices | tasks | help | unrecognized | nameless | unheard
      | missing => exact ht
      | refused _ _ _ hretired => exact ht.retired hretired
      | loaded _ _ hcreate hretired =>
          obtain ⟨text, hscript, rfl⟩ :=
            Loader.create_ofFolders_eq_ok_iff.mp hcreate
          exact (ht.retired hretired).adopt hscript.1.isDeviceId
      | ordered | served => exact ht

theorem after {s : Session} (ht : s.Typable) (folder : Lane → ScriptFolder)
    (suffix : String) (history : List (Files × String)) :
    (s.after (.ofFolders folder suffix) history).Typable :=
  after_induction ht fun _ ht' hstep => ht'.step hstep

/-! ## Where a session starts -/

theorem install {s : Session} {d : Device} (ht : s.Typable)
    (hid : Command.IsDeviceId d.id) :
    (s.install d).session.Typable :=
  Typable.register (s := (s.make d).1) ht hid

theorem configure {s : Session} {devices : List DeviceSettings} (ht : s.Typable)
    (hids : ∀ d ∈ devices, Command.IsDeviceId d.id) :
    (s.configure devices).session.Typable := by
  refine configure_induction ht fun {s d} hd ht' => ht'.install ?_
  rw [d.id_device]
  exact hids d hd

theorem ofSettings {settings : Settings} (hcheck : settings.check = .ok ())
    (demo : Bool) :
    (settings.session demo).session.Typable := by
  obtain ⟨-, hids, -⟩ := Settings.check_eq_ok_iff.mp hcheck
  refine installAll_induction (configure empty hids) fun hd ht => ht.install ?_
  split at hd
  · rw [demoDevices, List.mem_cons, List.mem_cons, List.mem_singleton] at hd
    rcases hd with rfl | rfl | rfl <;> decide +kernel
  · cases hd

end Typable

/-! ## The description of every device -/

/-- Whatever settings have been accepted, and whatever has been typed: the id of
a registered device, typed as a line, is answered with its description, unless
it is one of the words that are commands by themselves. -/
theorem describes_after_check {settings : Settings}
    (hcheck : settings.check = .ok ()) (demo : Bool)
    (folder : Lane → ScriptFolder) (suffix : String)
    (history : List (Files × String)) {id : String}
    (hregistered : ((settings.session demo).session.after
      (.ofFolders folder suffix) history).registry.contains id = true)
    (hword : id ∉ Command.reservedWords) :
    ∃ h d, ((settings.session demo).session.after (.ofFolders folder suffix)
        history).find? id = some (h, d) ∧
      ∀ loader, Tells loader ((settings.session demo).session.after
        (.ofFolders folder suffix) history) id (.message, d.describe) := by
  have hsound := (Initial.ofSettings settings demo).sound.after
    (.ofFolders folder suffix) history
  have htypable := (Typable.ofSettings hcheck demo).after folder suffix history
  rw [hsound.contains_eq_isSome, Option.isSome_iff_exists] at hregistered
  obtain ⟨⟨h, d⟩, hfind⟩ := hregistered
  obtain ⟨hget, -⟩ := find?_eq_some_iff.mp hfind
  exact ⟨h, d, hfind,
    fun loader => tells_describe loader (htypable _ _ hget) hword hfind⟩

/-- A device that is called like an order. -/
def calledLikeOrder : Settings :=
  { devices := [{ id := "start" }] }

/-- It is described after that order was given to it. -/
theorem describes_after_check_order :
    calledLikeOrder.check = .ok () ∧
    ((calledLikeOrder.session true).session.after Loader.standard
      [(fun _ => none, "start start")]).registry.contains "start" = true ∧
    "start" ∉ Command.reservedWords ∧
    ∃ h d, ((calledLikeOrder.session true).session.after Loader.standard
        [(fun _ => none, "start start")]).find? "start" = some (h, d) ∧
      ∀ loader, Tells loader ((calledLikeOrder.session true).session.after
        Loader.standard [(fun _ => none, "start start")]) "start"
          (.message, d.describe) := by
  have hcheck : calledLikeOrder.check = .ok () := by decide +kernel
  have hregistered : ((calledLikeOrder.session true).session.after
      Loader.standard [(fun _ => none, "start start")]).registry.contains
        "start" = true := by
    decide +kernel
  have hword : "start" ∉ Command.reservedWords := by decide
  exact ⟨hcheck, hregistered, hword, describes_after_check hcheck true
    ({} : ScriptSettings).folder ".rb" _ hregistered hword⟩

theorem exists_ok_of_any {ε α : Type} {result : Except ε α} {p : α → Bool}
    (h : result.toOption.any p = true) : ∃ a, result = .ok a ∧ p a = true := by
  cases result with
  | error => cases h
  | ok a => exact ⟨a, rfl, h⟩

/-- Settings with a device for each of the words that are commands by
themselves. -/
def calledLikeCommands : String :=
  String.join (Command.reservedWords.map fun word => "[[devices]]\nid = \"" ++
    word ++ "\"\n")

/-- These settings are accepted, and none of the devices is described
when its id is typed. -/
theorem exists_undescribed :
    ∃ settings, Settings.ofText calledLikeCommands = .ok settings ∧
      ∀ id ∈ Command.reservedWords, ∃ h d,
        (settings.session false).session.find? id = some (h, d) ∧
          ¬ Tells (settings.scripts.loader fun _ => none)
            (settings.session false).session id (.message, d.describe) := by
  have hany : ((Settings.ofText calledLikeCommands).toOption.any fun settings =>
      Command.reservedWords.all fun id =>
        ((settings.session false).session.find? id).any fun found =>
          ((settings.session false).session.interpret
              (settings.scripts.loader fun _ => none)
            id).transcript ≠ [(.message, found.2.describe)]) = true := by
            decide +kernel
  obtain ⟨settings, hsettings, hall⟩ := exists_ok_of_any hany
  refine ⟨settings, hsettings, fun id hid => ?_⟩
  obtain ⟨⟨h, d⟩, hfind, htold⟩ :=
    (Option.any_eq_true _ _).mp (List.all_eq_true.mp hall id hid)
  exact ⟨h, d, hfind, fun htells => of_decide_eq_true htold htells.told⟩

end Session

end DeviceShell
