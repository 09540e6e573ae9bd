import DeviceShell.Proofs.Device.Schema
import DeviceShell.Proofs.Session.Displaced
import DeviceShell.Proofs.Session.Replacement

/-!
# The last order decides

Whether a device runs can be read off the lines: look for the last one that is
an order to it. Only the lines since the instance was registered count, and a
script that has been given no order is as it was loaded.

Two facts carry this. A line moves the activity of an instance only if it is an
order to it or a load of its id (`Frame`), and after a load of an id whatever is
registered there is a new instance (`registered_of_loads`). So as long as an
instance stays registered only orders have moved it, and the one that comes last
has left it as it is; once it has lost its place it never gets it back, so its
lines are one stretch of the history.
-/

namespace DeviceShell

/-! ## Orders -/

/-- The order that a line gives to the device with the given id. -/
def Command.order? (line id : String) : Option Lifecycle :=
  match wordsOf line with
  | [word, target] => if target = id then Lifecycle.ofWord? word else none
  | _ => none

theorem Command.order?_eq_some_iff {line id : String} {order : Lifecycle} :
    order? line id = some order ↔ wordsOf line = [order.word, id] := by
  rw [order?]
  constructor
  · intro horder
    split at horder
    · next word target hwords =>
        split at horder
        · next htarget =>
            rw [hwords, htarget, Lifecycle.of_ofWord? horder]
        · cases horder
    · cases horder
  · intro hwords
    rw [hwords]
    exact (if_pos rfl).trans (Lifecycle.ofWord?_word order)

theorem Command.not_orders_of_order? {line id : String}
    (hnone : order? line id = none) :
    ¬ Orders line id := by
  rintro ⟨order, hwords⟩
  rw [order?_eq_some_iff.mpr hwords] at hnone
  cases hnone

/-- The last order that some lines give to the device with the given id. -/
def lastOrder (id : String) (lines : List String) : Option Lifecycle :=
  (lines.filterMap fun line => Command.order? (Text.trimmed line) id).getLast?

theorem lastOrder_cons (id line : String) (rest : List String) :
    lastOrder id (line :: rest) =
      (lastOrder id rest).or (Command.order? (Text.trimmed line) id) := by
  rw [lastOrder, List.filterMap_cons]
  cases Command.order? (Text.trimmed line) id with
  | none => exact (Option.or_none).symm
  | some order =>
      simp only [List.getLast?_cons]
      rw [← lastOrder]
      cases lastOrder id rest <;> rfl

/-! ## What orders leave behind -/

/-- The state of a loaded script after the last order to it, if there
was one. -/
def TaskState.leftBy : Option Lifecycle → TaskState
  | none => .loaded
  | some .start | some .restart => .running
  | some .stop => .stopped

namespace Device

/-- The device is as the last order to it left it. A property device that has
been given none does not run. -/
def LeftBy (last : Option Lifecycle) : Device → Prop
  | .property p => p.running = (last.any fun order => order ≠ .stop)
  | .script t => t.state = .leftBy last
  | .plain _ | .rig _ => False

theorem LeftBy.outcome {d : Device} {last : Option Lifecycle}
    (h : d.LeftBy last) (order : Lifecycle) :
    (order.outcome d).LeftBy (some order) := by
  cases d with
  | property | script => cases order <;> rfl
  | plain | rig => cases h

theorem LeftBy.of_activity_eq {d d' : Device} {last : Option Lifecycle}
    (h : d.LeftBy last) (hactivity : d'.activity = d.activity) :
    d'.LeftBy last := by
  cases d with
  | property p =>
      cases d' with
      | property q =>
          have hrunning : q.running = p.running := Activity.flag.inj hactivity
          exact hrunning.trans h
      | script | plain | rig => cases hactivity
  | script t =>
      cases d' with
      | script u =>
          have hstate : u.state = t.state := Activity.state.inj hactivity
          exact hstate.trans h
      | property | plain | rig => cases hactivity
  | plain | rig => cases h

/-- The device is a property device that does not run. -/
def Idle : Device → Prop
  | .property p => p.running = false
  | .script _ | .plain _ | .rig _ => False

theorem Idle.leftBy {d : Device} (h : d.Idle) : d.LeftBy none := by
  cases d with
  | property => exact h
  | script | plain | rig => cases h

theorem Idle.canRun {d : Device} (h : d.Idle) : d.CanRun := by
  cases d with
  | property => exact trivial
  | script | plain | rig => cases h

end Device

namespace Session

/-! ## Loads -/

/-- What is registered under a base name after a load of it was not there
before, and is as it was made. -/
theorem registered_of_loads {s : Session} {folder : Lane → ScriptFolder}
    {suffix line base : String} {files : Files} {h : Handle} (hs : s.Sound)
    (hloads : (Loader.ofFolders folder suffix files).Loads
      (Text.trimmed line) base)
    (hget :
      (s.interpret (.ofFolders folder suffix files) line).session.registry.get?
        base = some h) :
    ¬ s.Holds h ∧ ∃ d,
    (s.interpret (.ofFolders folder suffix files) line).session.device? h =
      some d ∧ d.LeftBy none := by
  obtain ⟨name, args, lane, hread, hname, hselect⟩ := hloads.classify
  have hretired := retired_retire s base
  have hload : (s.interpret (.ofFolders folder suffix files) line).session =
      ((Loader.ofFolders folder suffix files).load s name args).session := by
    rw [interpret_of_read _ s hread]
    rfl
  rw [hload] at hget ⊢
  cases hcreate : (Loader.ofFolders folder suffix files).create lane
      base args with
  | error failure =>
      rw [load_of_create_error hname hselect hcreate,
        hretired.unregistered hs] at hget
      cases hget
  | ok made =>
      obtain ⟨text, -, rfl⟩ := Loader.create_ofFolders_eq_ok_iff.mp hcreate
      rw [load_of_create_ok hname hselect hcreate] at hget ⊢
      rw [get?_adopt] at hget
      obtain rfl := Option.some.inj ((if_pos rfl).symm.trans hget)
      refine ⟨?_, _, device?_make_self _ _, rfl⟩
      rintro ⟨d, hd, -⟩
      rw [hretired.device?_make_eq_none] at hd
      cases hd

/-! ## Lines -/

section Folders

variable {s : Session} {g : Handle} {d : Device} {last : Option Lifecycle}
  {folder : Lane → ScriptFolder} {suffix : String}

theorem leftBy_interpret {files : Files} {line : String} (hs : s.Sound)
    (hget : s.registry.get? g.id = some g) (hd : s.device? g = some d)
    (hleft : d.LeftBy last)
    (hkept :
      (s.interpret (.ofFolders folder suffix files) line).session.registry.get?
        g.id = some g) :
    ∃ d', (s.interpret (.ofFolders folder suffix files) line).session.device?
      g = some d' ∧
      d'.LeftBy ((Command.order? (Text.trimmed line) g.id).or last) := by
  cases horder : Command.order? (Text.trimmed line) g.id with
  | some order =>
      have hread := Command.classify_eq_lifecycle_iff.mpr
        (Command.order?_eq_some_iff.mp horder)
      have hfind : s.find? g.id = some (g, d) :=
        find?_eq_some_iff.mpr ⟨hget, hd⟩
      refine ⟨order.outcome d, ?_, hleft.outcome order⟩
      rw [interpret_of_read _ s hread]
      show (s.control order g.id).session.device? g = some (order.outcome d)
      rw [control_session order hfind, device?_put hd, if_pos rfl]
  | none =>
      obtain ⟨-, hheld⟩ := hs.registered hget
      have hframe :=
        frame_interpret hs (Loader.makesTasks_ofFolders folder suffix files)
          line
      obtain ⟨-, hid⟩ := hs.id_of_find? (find?_eq_some_iff.mpr ⟨hget, hd⟩)
      obtain ⟨d', hd', -, -, hactivity⟩ := hframe.devices g d hd hid
      refine ⟨d', hd', hleft.of_activity_eq (not_not.mp fun hne => ?_)⟩
      rcases (hactivity hne).2 with horders | hloads
      · exact Command.not_orders_of_order? horder horders
      · exact (registered_of_loads hs hloads hkept).1 hheld

theorem leftBy_after_of_registered {history : List (Files × String)}
    (hs : s.Sound) (ho : s.Operable) (hget : s.registry.get? g.id = some g)
    (hd : s.device? g = some d) (hleft : d.LeftBy last)
    (hkept : (s.after (.ofFolders folder suffix) history).registry.get? g.id =
      some g) :
    ∃ d', (s.after (.ofFolders folder suffix) history).device? g = some d' ∧
      d'.LeftBy ((lastOrder g.id (history.map (·.2))).or last) := by
  induction history generalizing s d last with
  | nil => exact ⟨d, hd, hleft⟩
  | cons entry rest ih =>
      obtain ⟨files, line⟩ := entry
      have hl := Loader.makesTasks_ofFolders folder suffix
      have hstep := step_interpret (.ofFolders folder suffix files) s line
      rcases hstep.registered_or_displaced hs ho (hl files) hget with
        hnext | hdisplaced
      · obtain ⟨d', hd', hleft'⟩ := leftBy_interpret hs hget hd hleft hnext
        rw [List.map_cons, lastOrder_cons, Option.or_assoc]
        exact ih (hs.step hstep) (ho.step hs (hl files) hstep) hnext hd'
          hleft' hkept
      · exact absurd hkept (hdisplaced.after (hs.step hstep) rest).displaced

end Folders

/-! ## Where a session starts -/

/-- Everything registered is a property device that does not run. -/
def Idle (s : Session) : Prop :=
  ∀ id h d, s.find? id = some (h, d) → d.Idle

theorem Idle.operable {s : Session} (hs : s.Idle) : s.Operable :=
  fun id h d hfind => (hs id h d hfind).canRun

theorem mem_devices_installAll {s : Session} {devices : List Device}
    {d : Device} (hd : d ∈ (s.installAll devices).session.devices) :
    d ∈ s.devices ∨ d ∈ devices := by
  refine installAll_induction (P := fun t => d ∈ t.devices → d ∈ s.devices ∨
      d ∈ devices) Or.inl (fun he ih hmem => ?_) hd
  rcases Array.mem_push.mp hmem with hold | rfl
  · exact ih hold
  · exact .inr he

theorem mem_devices_configure {s : Session} {devices : List DeviceSettings}
    {d : Device} (hd : d ∈ (s.configure devices).session.devices) :
    d ∈ s.devices ∨ ∃ settings ∈ devices, d = .property settings.device := by
  refine configure_induction (P := fun t => d ∈ t.devices →
    d ∈ s.devices ∨ ∃ settings ∈ devices, d = .property settings.device) Or.inl
    (fun he ih hmem => ?_) hd
  rcases Array.mem_push.mp hmem with hold | rfl
  · exact ih hold
  · exact .inr ⟨_, he, rfl⟩

/-- Every session that the settings describe starts with devices that
do not run. -/
theorem Idle.ofSettings (settings : Settings) (demo : Bool) :
    (settings.session demo).session.Idle := by
  intro id h d hfind
  rcases mem_devices_installAll (mem_devices_of_find? hfind) with hmem | hmem
  · rcases mem_devices_configure hmem with hmem | ⟨device, -, rfl⟩
    · exact absurd hmem (Array.not_mem_empty d)
    · obtain ⟨table, hdevice, -⟩ :=
        PropertyDevice.exists_declareAll device.id device.description
        false device.attributes.toList
      rw [DeviceSettings.device, hdevice]
      exact rfl
  · split at hmem
    · rw [demoDevices, List.mem_cons, List.mem_cons, List.mem_singleton] at hmem
      rcases hmem with rfl | rfl | rfl <;> exact rfl
    · cases hmem

/-! ## Histories -/

/-- The lines of a history since an instance was registered. -/
def linesSince (loader : Files → Loader) (g : Handle) (s : Session) :
    List (Files × String) → List String
  | [] => []
  | (files, line) :: rest =>
    if s.registry.get? g.id = some g then line :: rest.map (·.2)
    else linesSince loader g (s.interpret (loader files) line).session rest

theorem linesSince_of_registered {loader : Files → Loader} {g : Handle}
    {s : Session} (hget : s.registry.get? g.id = some g)
    (history : List (Files × String)) :
    linesSince loader g s history = history.map (·.2) := by
  cases history with
  | nil => rfl
  | cons entry rest => exact if_pos hget

theorem leftBy_after {s : Session} {g : Handle} {folder : Lane → ScriptFolder}
    {suffix : String} {history : List (Files × String)} (hs : s.Sound)
    (ho : s.Operable)
    (hstart : s.registry.get? g.id = some g → ∃ d, s.device? g = some d ∧
      d.LeftBy none)
    (hkept : (s.after (.ofFolders folder suffix) history).registry.get? g.id =
      some g) :
    ∃ d, (s.after (.ofFolders folder suffix) history).device? g = some d ∧
      d.LeftBy (lastOrder g.id
        (linesSince (.ofFolders folder suffix) g s history)) := by
  induction history generalizing s with
  | nil => exact hstart hkept
  | cons entry rest ih =>
      obtain ⟨files, line⟩ := entry
      by_cases hget : s.registry.get? g.id = some g
      · obtain ⟨d, hd, hleft⟩ := hstart hget
        rw [linesSince_of_registered hget, ← @Option.or_none _ (lastOrder _ _)]
        exact leftBy_after_of_registered hs ho hget hd hleft hkept
      · have hl := Loader.makesTasks_ofFolders folder suffix
        have hstep := step_interpret (.ofFolders folder suffix files) s line
        rw [linesSince, if_neg hget]
        refine ih (hs.step hstep) (ho.step hs (hl files) hstep)
          (fun hnext => ?_) hkept
        have hloads :=
          (frame_interpret hs (hl files) line).registry g.id fun heq =>
          hget (heq.symm.trans hnext)
        exact (registered_of_loads hs hloads hnext).2

/-- Whatever lines there were, and whatever happened to the files in
between, a registered device is as the last order to it since it was
registered has left it. -/
theorem leftBy_lastOrder {s : Session} (hs : s.Sound) (hidle : s.Idle)
    (folder : Lane → ScriptFolder) (suffix : String)
    (history : List (Files × String)) {id : String} {g : Handle} {d : Device}
    (hfind : (s.after (.ofFolders folder suffix) history).find? id =
      some (g, d)) :
    d.LeftBy (lastOrder id
      (linesSince (.ofFolders folder suffix) g s history)) := by
  have hstart : s.registry.get? g.id = some g → ∃ d, s.device? g = some d ∧
      d.LeftBy none := by
    intro hget
    obtain ⟨-, d, hd, -⟩ := hs.registered hget
    exact ⟨d, hd, (hidle _ _ _ (find?_eq_some_iff.mpr ⟨hget, hd⟩)).leftBy⟩
  obtain ⟨hget, hd⟩ := find?_eq_some_iff.mp hfind
  obtain ⟨rfl, -⟩ := (hs.after _ history).id_of_find? hfind
  obtain ⟨d', hd', hleft⟩ := leftBy_after hs hidle.operable hstart hget
  rw [hd] at hd'
  cases hd'
  exact hleft

/-- A device that is started, and the script that takes its place and is started
in another way; the other lines are not for it. -/
def relit : List (Files × String) :=
  [(fun _ => none, "start lamp"),
    (fun _ => some (.file "on".toUTF8), "load lamp"),
    (fun _ => none, " restart  lamp"), (fun _ => none, "stop thermostat"),
    (fun _ => none, "lamp.state = stopped"), (fun _ => none, "stop lamp now")]

theorem leftBy_lastOrder_relit :
    demo.Sound ∧ demo.Idle ∧
    lastOrder "lamp" (linesSince .standard ⟨"lamp", 3⟩ demo relit) =
      some .restart ∧
    ∃ d, (demo.after .standard relit).find? "lamp" =
        some (⟨"lamp", 3⟩, d) ∧
      d.LeftBy (some .restart) := by
  have hsound := initial_demo.sound
  have hidle : demo.Idle := .ofSettings {} true
  have hget : (demo.after .standard relit).registry.get? "lamp" =
      some ⟨"lamp", 3⟩ := by
    decide +kernel
  have hlast : lastOrder "lamp"
      (linesSince .standard ⟨"lamp", 3⟩ demo relit) = some .restart := by
    decide +kernel
  obtain ⟨-, d, hd, -⟩ := (hsound.after _ relit).registered hget
  have hfind := find?_eq_some_iff.mpr ⟨hget, hd⟩
  have hleft : d.LeftBy (lastOrder "lamp"
      (linesSince .standard ⟨"lamp", 3⟩ demo relit)) :=
    leftBy_lastOrder hsound hidle ({} : ScriptSettings).folder ".rb" relit
      hfind
  rw [hlast] at hleft
  exact ⟨hsound, hidle, hlast, d, hfind, hleft⟩

end Session

end DeviceShell
