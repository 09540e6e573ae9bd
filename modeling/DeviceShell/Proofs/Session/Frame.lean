import DeviceShell.Proofs.Command.Keywords
import DeviceShell.Proofs.Command.DeviceLines
import DeviceShell.Proofs.Device.Parts
import DeviceShell.Proofs.Session.Agreement
import DeviceShell.Proofs.Session.InOrder

/-!
# What a line leaves alone

A line names a device, or a script to load, or nothing, and all that it changes
is what it names. `Frame` says it part by part, and in the direction in which it
is of use: if this has changed then the line was of that form. It covers every
instance there has ever been and not only those that are registered, so a task
that has lost its registration and is still watched is safe as well.

A load does most. It takes an instance out of service, which stops it, and puts
another into its place, and all of that under one base name (`OnlyUnder`).
Everything else reaches one instance, through the registry.

What holds of one line holds of many: a device that no line of a history names
is the same device afterwards (`untouched_after`).
-/

namespace DeviceShell

/-! ## What a line names -/

/-- The line is an order to a device with the given id. -/
def Command.Orders (line id : String) : Prop :=
  ∃ order : Lifecycle, wordsOf line = [order.word, id]

/-- The line is a load of the given base name, whatever comes of it. -/
def Loader.Loads (l : Loader) (line base : String) : Prop :=
  ∃ name args, Command.wordsOf line = "load" :: name :: args ∧
    (l.select name).2 = base

theorem Loader.not_loads_of_wordsOf {l : Loader} {line word base : String}
    {rest : List String} (hwords : Command.wordsOf line = word :: rest)
    (hword : word ≠ "load") : ¬ l.Loads line base := by
  rintro ⟨name, args, hload, -⟩
  rw [hwords] at hload
  exact hword (List.cons.inj hload).1

theorem Loader.loads_of_classify {l : Loader} {line name : String}
    {args : List String} (hread : Command.classify line = .ok (.load name args))
    (hname : name ≠ "") :
    l.Loads line (l.select name).2 := by
  obtain ⟨rest, hwords, rfl, -⟩ := Command.classify_eq_load_iff.mp hread
  cases rest with
  | nil => exact absurd rfl hname
  | cons name args => exact ⟨name, args, hwords, rfl⟩

theorem Loader.Loads.classify {l : Loader} {line base : String}
    (h : l.Loads line base) :
    ∃ name args lane, Command.classify line = .ok (.load name args) ∧
      name ≠ "" ∧ l.select name = (lane, base) := by
  obtain ⟨name, args, hwords, rfl⟩ := h
  have hmem : name ∈ Command.wordsOf line := by
    rw [hwords]
    exact List.mem_cons_of_mem _ List.mem_cons_self
  exact ⟨name, args, _,
    Command.classify_eq_load_iff.mpr ⟨name :: args, hwords, rfl, rfl⟩,
    Command.ne_empty_of_mem_words hmem, rfl⟩

theorem Loader.Loads.base_eq {l : Loader} {line base base' : String}
    (h : l.Loads line base) (h' : l.Loads line base') : base = base' := by
  obtain ⟨name, args, hwords, rfl⟩ := h
  obtain ⟨name', args', hwords', rfl⟩ := h'
  rw [hwords] at hwords'
  cases hwords'
  rfl

namespace Session

/-- What a line changes of an instance, read from the change to the line. -/
structure DeviceFrame (loader : Loader) (s : Session) (line : String)
    (g : Handle) (d d' : Device) : Prop where
  fixed : d'.fixed = d.fixed
  attributes : d'.attributes ≠ d.attributes →
    s.registry.get? (Command.identifier line) = some g ∧
    ∃ operation, Command.classify line =
      .ok (.device (Command.identifier line) operation) ∧
      d.Mutates operation
  activity : d'.activity ≠ d.activity →
    s.registry.get? g.id = some g ∧
    (Command.Orders line g.id ∨ loader.Loads line g.id)

/-- What a line changes of a session. No instance is ever lost. -/
structure Frame (loader : Loader) (s : Session) (line : String)
    (s' : Session) : Prop where
  running : s'.running ≠ s.running → line = "exit"
  registry : ∀ id, s'.registry.get? id ≠ s.registry.get? id →
    loader.Loads line id
  monitor : s'.monitor ≠ s.monitor → ∃ base, loader.Loads line base
  tasks : ∀ base, loader.Loads line base →
    s'.monitor.tasks.filter (·.id ≠ base) = s.monitor.tasks.filter (·.id ≠ base)
  devices : ∀ g d, s.device? g = some d → d.id = g.id →
    ∃ d', s'.device? g = some d' ∧ DeviceFrame loader s line g d d'

/-! ## One device -/

theorem DeviceFrame.refl (loader : Loader) (s : Session) (line : String)
    (g : Handle) (d : Device) : DeviceFrame loader s line g d d :=
  ⟨rfl, fun hne => absurd rfl hne, fun hne => absurd rfl hne⟩

theorem Frame.refl (loader : Loader) (s : Session) (line : String) :
    Frame loader s line s where
  running hne := absurd rfl hne
  registry _ hne := absurd rfl hne
  monitor hne := absurd rfl hne
  tasks _ _ := rfl
  devices g d hd _ := ⟨d, hd, .refl loader s line g d⟩

/-- A line that changes one device, which is registered, frames all others. -/
theorem frame_put {loader : Loader} {s : Session} {line id : String}
    {h : Handle} {d d' : Device} (hs : s.Sound)
    (hfind : s.find? id = some (h, d)) (hfixed : d'.fixed = d.fixed)
    (hattributes : d'.attributes ≠ d.attributes → id = Command.identifier line ∧
      ∃ operation, Command.classify line = .ok (.device id operation) ∧
        d.Mutates operation)
    (hactivity : d'.activity ≠ d.activity → Command.Orders line id ∨
      loader.Loads line id) :
    Frame loader s line (s.put h d') where
  running hne := absurd rfl hne
  registry _ hne := absurd rfl hne
  monitor hne := absurd rfl hne
  tasks _ _ := rfl
  devices g e he hid := by
    obtain ⟨hget, -⟩ := find?_eq_some_iff.mp hfind
    rcases hs.device?_put_cases hfind he hid d' with hsame | ⟨rfl, rfl, hput⟩
    · exact ⟨e, hsame, .refl loader s line g e⟩
    · obtain ⟨rfl, -⟩ := hs.id_of_find? hfind
      refine ⟨d', hput, hfixed, fun hne => ?_, fun hne => ⟨hget, hactivity hne⟩⟩
      obtain ⟨hline, hmutates⟩ := hattributes hne
      rw [← hline]
      exact ⟨hget, hmutates⟩

/-! ## Loads -/

/-- The sessions differ in what there is under one id, and in the device that
was registered under it, which may have been stopped. -/
structure OnlyUnder (base : String) (s s' : Session) : Prop where
  running : s'.running = s.running
  registry : ∀ id, id ≠ base → s'.registry.get? id = s.registry.get? id
  tasks : s'.monitor.tasks.filter (·.id ≠ base) =
    s.monitor.tasks.filter (·.id ≠ base)
  devices : ∀ g d, s.device? g = some d → d.id = g.id → s'.device? g = some d ∨
    s.registry.get? base = some g ∧ s'.device? g = some d.stopped

theorem Retired.onlyUnder {s s' : Session} {base : String} (hs : s.Sound)
    (hretired : Retired s base s') : OnlyUnder base s s' := by
  cases hretired with
  | absent => exact ⟨rfl, fun _ _ => rfl, rfl, fun _ _ hd _ => .inl hd⟩
  | unready =>
      refine ⟨rfl, fun id hne => ?_, rfl, fun _ _ hd _ => .inl hd⟩
      rw [get?_unregister, if_neg hne.symm]
  | @ready h d hfind =>
      obtain ⟨hid, -⟩ := hs.id_of_find? hfind
      obtain ⟨hget, -⟩ := find?_eq_some_iff.mp hfind
      refine ⟨rfl, fun id hne => ?_, ?_, fun g e he hge => ?_⟩
      · rw [get?_unregister, if_neg hne.symm]
        rfl
      · rw [← hid]
        exact TaskMonitor.filter_unwatch s.monitor h.id
      · change (s.put h d.stopped).device? g = some e ∨
          _ ∧ (s.put h d.stopped).device? g = some e.stopped
        rcases hs.device?_put_cases hfind he hge d.stopped with
          hsame | ⟨rfl, rfl, hput⟩
        · exact .inl hsame
        · exact .inr ⟨hget, hput⟩

theorem OnlyUnder.adopt {s s' : Session} {base : String} {d : Device}
    (h : OnlyUnder base s s') (hid : d.id = base) :
    OnlyUnder base s (s'.adopt d).session where
  running := h.running
  registry id hne := by
    rw [get?_adopt, hid, if_neg hne.symm, h.registry id hne]
  tasks := by
    subst hid
    exact (TaskMonitor.filter_watch s'.monitor (s'.make d).2).trans h.tasks
  devices g e he hge := by
    rcases h.devices g e he hge with hsame | ⟨hget, hstopped⟩
    · exact .inl (device?_make hsame d)
    · exact .inr ⟨hget, device?_make hstopped d⟩

theorem OnlyUnder.frame {loader : Loader} {s s' : Session} {line base : String}
    (hs : s.Sound) (h : OnlyUnder base s s') (hloads : loader.Loads line base) :
    Frame loader s line s' where
  running hne := absurd h.running hne
  registry id hne := by
    by_cases hid : id = base
    · exact hid ▸ hloads
    · exact absurd (h.registry id hid) hne
  monitor _ := ⟨base, hloads⟩
  tasks base' hloads' := by
    rw [hloads'.base_eq hloads]
    exact h.tasks
  devices g d hd hid := by
    rcases h.devices g d hd hid with hsame | ⟨hget, hstopped⟩
    · exact ⟨d, hsame, .refl loader s line g d⟩
    · obtain ⟨hbase, -⟩ := hs.registered hget
      refine ⟨d.stopped, hstopped, Device.fixed_outcome .stop d,
        fun hne => absurd (Device.attributes_outcome .stop d) hne, fun _ => ?_⟩
      rw [hbase]
      exact ⟨hget, .inr hloads⟩

/-! ## Every line -/

theorem frame_of_execute {loader : Loader} {s : Session} {line : String}
    {command : Command} (hs : s.Sound) (hl : loader.MakesTasks)
    (hread : Command.classify line = .ok command) :
    Frame loader s line (s.execute loader command).session := by
  cases command with
  | devices | tasks | help | unrecognized => exact Frame.refl loader s line
  | exit =>
      refine ⟨fun _ => Command.classify_eq_exit_iff.mp hread, ?_, ?_, ?_, ?_⟩
      · exact (Frame.refl loader s line).registry
      · exact (Frame.refl loader s line).monitor
      · exact (Frame.refl loader s line).tasks
      · exact (Frame.refl loader s line).devices
  | load name args =>
      have heffect := effect_load loader s name args
      show Frame loader s line (loader.load s name args).session
      generalize (loader.load s name args).session = s' at heffect ⊢
      cases heffect with
      | nameless => exact Frame.refl loader s line
      | refused hname hselect _ hretired =>
          have hloads := Loader.loads_of_classify (l := loader) hread hname
          rw [hselect] at hloads
          exact (hretired.onlyUnder hs).frame hs hloads
      | loaded hname hselect hcreate hretired =>
          have hloads := Loader.loads_of_classify (l := loader) hread hname
          rw [hselect] at hloads
          obtain ⟨t, hmade, hid⟩ := hl hcreate
          refine ((hretired.onlyUnder hs).adopt ?_).frame hs hloads
          rw [hmade]
          exact hid
  | lifecycle order id =>
      show Frame loader s line (s.control order id).session
      cases hfind : s.find? id with
      | none =>
          rw [control, hfind]
          exact Frame.refl loader s line
      | some found =>
          obtain ⟨h, d⟩ := found
          rw [control_session order hfind]
          exact frame_put hs hfind (Device.fixed_outcome order d)
            (fun hne => absurd (Device.attributes_outcome order d) hne)
            (fun _ => .inl ⟨order, Command.classify_eq_lifecycle_iff.mp hread⟩)
  | device id operation =>
      show Frame loader s line (s.operate id operation).session
      cases hfind : s.find? id with
      | none =>
          rw [operate, hfind]
          exact Frame.refl loader s line
      | some found =>
          obtain ⟨h, d⟩ := found
          obtain ⟨d', hchanged, hsession⟩ := operate_session operation hfind
          rw [hsession]
          exact frame_put hs hfind hchanged.served.fixed_eq
            (fun hne => ⟨Command.identifier_of_classify hread, operation, hread,
              hchanged.mutates hne⟩)
            (fun hne => absurd hchanged.served.activity_eq hne)

theorem frame_interpret {loader : Loader} {s : Session} (hs : s.Sound)
    (hl : loader.MakesTasks) (line : String) :
    Frame loader s (Text.trimmed line) (s.interpret loader line).session := by
  rw [interpret]
  cases hread : Command.classify (Text.trimmed line) with
  | ok command => exact frame_of_execute hs hl hread
  | error failure =>
      simp only
      split
      · next heq => cases heq
      · rw [reportUnreadable_session]
        exact Frame.refl loader s _
      · exact Frame.refl loader s _

/-- Whatever the line, it changes what it names and nothing else, and what the
operator has been told before is not taken back. -/
theorem frame_interpret_ofFolders {s : Session} (hs : s.Sound)
    (folder : Lane → ScriptFolder) (suffix : String) (files : Files)
    (line : String) :
    Frame (.ofFolders folder suffix files) s (Text.trimmed line)
      (s.interpret (.ofFolders folder suffix files) line).session ∧
    ∀ (start : Session) (before : List String),
      (start.interpretAll (interpret (.ofFolders folder suffix files))
        before).session = s →
      (start.interpretAll (interpret (.ofFolders folder suffix files))
        (before ++ [line])).session =
          (s.interpret (.ofFolders folder suffix files) line).session ∧
        (start.interpretAll (interpret (.ofFolders folder suffix files))
            (before ++ [line])).transcript =
          (start.interpretAll (interpret (.ofFolders folder suffix files))
            before).transcript ++
            (s.interpret (.ofFolders folder suffix files) line).transcript := by
  refine ⟨frame_interpret hs
    (Loader.makesTasks_ofFolders folder suffix files) line, ?_⟩
  rintro start before rfl
  exact interpretAll_concat _ start before line

/-- A load that takes a device away and has nothing to put into its place. The
other devices are registered as before. -/
theorem frame_interpret_lostLamp :
    demo.Sound ∧
    Frame (.standard fun _ => none) demo (Text.trimmed " load lamp")
      (demo.interpret (.standard fun _ => none) " load lamp").session ∧
    (demo.interpret (.standard fun _ => none)
      " load lamp").session.registry.ids = ["notes", "thermostat"] := by
  have hsound := initial_demo.sound
  obtain ⟨hframe, -⟩ := frame_interpret_ofFolders hsound
    ({} : ScriptSettings).folder ".rb" (fun _ => none) " load lamp"
  exact ⟨hsound, hframe, by decide +kernel⟩

/-! ## Histories -/

/-- The line does not name a device with the given id in any way. -/
structure Unnamed (loader : Loader) (line id : String) : Prop where
  identifier : Command.identifier line ≠ id
  notOrdered : ¬ Command.Orders line id
  notLoaded : ¬ loader.Loads line id

/-- An instance is the same if the line is neither an operation on its id nor an
order to it nor a load of it. -/
theorem Frame.device?_eq {loader : Loader} {s s' : Session} {line : String}
    {g : Handle} (hframe : Frame loader s line s') (hs : s.Sound)
    (hg : s.Holds g)
    (hoperation : ∀ operation, Command.classify line ≠
      .ok (.device g.id operation)) (horder : ¬ Command.Orders line g.id)
    (hload : ¬ loader.Loads line g.id) :
    s'.device? g = s.device? g := by
  obtain ⟨d, hd, hid⟩ := hg
  obtain ⟨d', hd', hfixed, hattributes, hactivity⟩ := hframe.devices g d hd hid
  have hsame : d' = d := by
    refine Device.ext_parts hfixed (not_not.mp fun hne => ?_)
      (not_not.mp fun hne => ?_)
    · obtain ⟨hget, operation, hread, -⟩ := hattributes hne
      obtain ⟨hkey, -⟩ := hs.registered hget
      rw [← hkey] at hread
      exact hoperation operation hread
    · rcases (hactivity hne).2 with horders | hloads
      · exact horder horders
      · exact hload hloads
  rw [hd', hd, hsame]

theorem Frame.untouched {loader : Loader} {s s' : Session} {line : String}
    {g : Handle} (hframe : Frame loader s line s') (hs : s.Sound)
    (hg : s.Holds g) (hunnamed : Unnamed loader line g.id) :
    s'.registry.get? g.id = s.registry.get? g.id ∧
    s'.device? g = s.device? g := by
  refine ⟨not_not.mp fun hne => hunnamed.notLoaded (hframe.registry g.id hne),
    ?_⟩
  refine hframe.device?_eq hs hg (fun operation hread => ?_) hunnamed.notOrdered
    hunnamed.notLoaded
  exact hunnamed.identifier (Command.identifier_of_classify hread).symm

/-- A device that is not named by any line of a history is what it was, and
so is what its id means. -/
theorem untouched_after {loader : Files → Loader}
    (hl : ∀ files, (loader files).MakesTasks) {s : Session} {g : Handle}
    {history : List (Files × String)} (hs : s.Sound) (hg : s.Holds g)
    (hunnamed : ∀ entry ∈ history,
      Unnamed (loader entry.1) (Text.trimmed entry.2) g.id) :
    (s.after loader history).registry.get? g.id = s.registry.get? g.id ∧
      (s.after loader history).device? g = s.device? g := by
  induction history generalizing s with
  | nil => exact ⟨rfl, rfl⟩
  | cons entry rest ih =>
      obtain ⟨files, line⟩ := entry
      obtain ⟨hline, hrest⟩ := List.forall_mem_cons.mp hunnamed
      obtain ⟨hregistry, hdevice⟩ :=
        (frame_interpret hs (hl files) line).untouched hs hg hline
      have hholds : (s.interpret (loader files) line).session.Holds g := by
        obtain ⟨d, hd, hid⟩ := hg
        exact ⟨d, hdevice.trans hd, hid⟩
      obtain ⟨hregistry', hdevice'⟩ :=
        ih (hs.step (step_interpret (loader files) s line)) hholds hrest
      exact ⟨hregistry'.trans hregistry, hdevice'.trans hdevice⟩

/-- What an id leads to is the same device after a line that does not load it,
with all that it was made with. -/
theorem Frame.exists_find? {loader : Loader} {s s' : Session} {line id : String}
    {h : Handle} {d : Device} (hframe : Frame loader s line s') (hs : s.Sound)
    (hfind : s.find? id = some (h, d)) (hkept : ¬ loader.Loads line id) :
    ∃ d', s'.find? id = some (h, d') ∧ d'.fixed = d.fixed := by
  obtain ⟨hget, hd⟩ := find?_eq_some_iff.mp hfind
  obtain ⟨hkey, hid⟩ := hs.id_of_find? hfind
  obtain ⟨d', hd', hdevice⟩ := hframe.devices h d hd (hid.trans hkey.symm)
  have hregistry : s'.registry.get? id = s.registry.get? id :=
    not_not.mp fun hne => hkept (hframe.registry id hne)
  exact ⟨d', find?_eq_some_iff.mpr ⟨hregistry.trans hget, hd'⟩, hdevice.fixed⟩

theorem fixed_after {loader : Files → Loader}
    (hl : ∀ files, (loader files).MakesTasks) {s : Session} {id : String}
    {h : Handle} {d : Device} {history : List (Files × String)} (hs : s.Sound)
    (hfind : s.find? id = some (h, d))
    (hkept : ∀ entry ∈ history,
      ¬ (loader entry.1).Loads (Text.trimmed entry.2) id) :
    ∃ d', (s.after loader history).find? id = some (h, d') ∧
      d'.fixed = d.fixed := by
  induction history generalizing s d with
  | nil => exact ⟨d, hfind, rfl⟩
  | cons entry rest ih =>
      obtain ⟨files, line⟩ := entry
      obtain ⟨hline, hrest⟩ := List.forall_mem_cons.mp hkept
      obtain ⟨d', hfind', hfixed⟩ :=
        (frame_interpret hs (hl files) line).exists_find? hs hfind hline
      obtain ⟨e, hfinal, hfixed'⟩ :=
        ih (hs.step (step_interpret (loader files) s line)) hfind' hrest
      exact ⟨e, hfinal, hfixed'.trans hfixed⟩

end Session

end DeviceShell
