import DeviceShell.Proofs.Session.Answers
import DeviceShell.Proofs.Session.History
import DeviceShell.Proofs.Text.Columns

/-!
# The two tables that can be asked for

A line that says `devices` or `tasks` is answered with a table, and with nothing
else. The tables are made of what the registry and the monitor hold, which is
handles; what a line of a table says about a device is asked of the device when
the table is made. So there are two steps here. The tables have the right form
whatever the handles are said to stand for (`Registry.tabulates_listing`,
`TaskMonitor.tabulates_listing`), and a session in which they stand for devices
shows what these devices are at the moment.
-/

namespace DeviceShell

/-- The line of a registered id: the id in its column, and what the device says
about itself. -/
def Registry.ShowsDevice (r : Registry) (describe : Handle → String)
    (id line : String) : Prop :=
  ∃ h cell, r.get? id = some h ∧ Text.FillsColumn 16 id cell ∧
    line = "  " ++ cell ++ " " ++ describe h

theorem Registry.tabulates_listing (r : Registry)
    (describe : Handle → String) :
    Text.Tabulates "(no devices)" "Devices (" (r.ShowsDevice describe) r.ids
      (r.listing describe) := by
  have hlines : List.Forall₂ (r.ShowsDevice describe) r.ids
      (r.entries.toList.map fun entry =>
        "  " ++ Text.padRight 16 entry.1 ++ " " ++ describe entry.2) := by
    rw [ids, ← Std.ExtTreeMap.map_fst_toList_eq_keys,
      List.forall₂_map_left_iff, List.forall₂_map_right_iff, List.forall₂_same]
    intro entry hmem
    exact ⟨entry.2, _, Std.ExtTreeMap.mem_toList_iff_getElem?_eq_some.mp hmem,
      Text.fillsColumn_padRight 16 entry.1, rfl⟩
  rw [listing, ← length_ids]
  exact Text.tabulates_of_forall₂ hlines

/-- The line of a task: its id and its readiness, each in its column, and
what it says about itself. -/
def TaskMonitor.ShowsTask (ready : Handle → Bool) (describe : Handle → String)
    (task : Handle) (line : String) : Prop :=
  ∃ cell state, Text.FillsColumn 16 task.id cell ∧
    Text.FillsColumn 10 (if ready task then "ready" else "not ready") state ∧
    line = "  " ++ cell ++ " " ++ state ++ " " ++ describe task

theorem TaskMonitor.tabulates_listing (m : TaskMonitor) (ready : Handle → Bool)
    (describe : Handle → String) :
    Text.Tabulates "(no tasks)" "Tasks (" (ShowsTask ready describe) m.tasks
      (m.listing ready describe) := by
  have hlines : List.Forall₂ (ShowsTask ready describe) m.tasks
      (m.tasks.map fun task =>
        "  " ++ Text.padRight 16 task.id ++ " " ++
          Text.padRight 10 (if ready task then "ready" else "not ready") ++
          " " ++ describe task) := by
    rw [List.forall₂_map_right_iff, List.forall₂_same]
    intro task _
    exact ⟨_, _, Text.fillsColumn_padRight 16 task.id,
      Text.fillsColumn_padRight 10 _, rfl⟩
  simp only [listing, List.isEmpty_iff_length_eq_zero]
  exact Text.tabulates_of_forall₂ hlines

namespace Session

/-! ## What is told -/

/-- The line is handled, the operator is told the given lines, each as a
message, and nothing else, and the session is as it was. -/
structure Lists (loader : Loader) (s : Session) (line : String)
    (lines : List String) : Prop where
  handled : (s.interpret loader line).result = .ok true
  told : (s.interpret loader line).transcript =
    lines.map fun shown => (.message, shown)
  unchanged : (s.interpret loader line).session = s

variable {s : Session} {line : String} {lines : List String}

theorem transcript_map_said (lines : List String) :
    Event.transcript (lines.map (.said .message)) =
      lines.map fun shown => (.message, shown) := by
  rw [Event.transcript, List.filterMap_map]
  exact congrFun List.filterMap_eq_map lines

theorem lists_of_execute {command : Command} (loader : Loader)
    (hread : Command.classify (Text.trimmed line) = .ok command)
    (hdone : s.execute loader command =
      ⟨s, lines.map (.said .message), .ok true⟩) :
    s.Lists loader line lines := by
  have hinterpret := interpret_of_read loader s hread
  rw [hdone] at hinterpret
  refine ⟨by rw [hinterpret], ?_, by rw [hinterpret]⟩
  rw [hinterpret]
  exact transcript_map_said lines

theorem lists_deviceListing (loader : Loader)
    (hline : Text.trimmed line = "devices") :
    s.Lists loader line s.deviceListing := by
  have hread : Command.classify (Text.trimmed line) = .ok .devices := by
    rw [hline]
    rfl
  exact lists_of_execute loader hread rfl

theorem lists_taskListing (loader : Loader)
    (hline : Text.trimmed line = "tasks") :
    s.Lists loader line s.taskListing := by
  have hread : Command.classify (Text.trimmed line) = .ok .tasks := by
    rw [hline]
    rfl
  exact lists_of_execute loader hread rfl

/-! ## What is shown of a device -/

/-- The line of an id in a session: the id in its column, and what the device
that it leads to says about itself. -/
def ShowsDevice (s : Session) (id line : String) : Prop :=
  ∃ h d cell, s.find? id = some (h, d) ∧ Text.FillsColumn 16 id cell ∧
    line = "  " ++ cell ++ " " ++ d.describe

/-- The line of a task in a session: its id and whether its device is ready,
each in its column, and what the device says about itself. -/
def ShowsTask (s : Session) (task : Handle) (line : String) : Prop :=
  ∃ d cell state, s.device? task = some d ∧ Text.FillsColumn 16 task.id cell ∧
    Text.FillsColumn 10 (if d.ready then "ready" else "not ready") state ∧
    line = "  " ++ cell ++ " " ++ state ++ " " ++ d.describe

theorem describe_of_device? {h : Handle} {d : Device}
    (hd : s.device? h = some d) : s.describe h = d.describe := by
  rw [describe, hd]
  rfl

theorem ready_of_device? {h : Handle} {d : Device}
    (hd : s.device? h = some d) : s.ready h = d.ready := by
  rw [ready, hd]
  rfl

theorem tabulates_deviceListing
    (hheld : ∀ id h, s.registry.get? id = some h → s.Holds h) :
    Text.Tabulates "(no devices)" "Devices (" s.ShowsDevice s.registry.ids
      s.deviceListing := by
  refine (s.registry.tabulates_listing s.describe).imp ?_
  rintro id _ line ⟨h, cell, hget, hcell, rfl⟩
  obtain ⟨d, hd, -⟩ := hheld id h hget
  rw [describe_of_device? hd]
  exact ⟨h, d, cell, find?_eq_some_iff.mpr ⟨hget, hd⟩, hcell, rfl⟩

theorem tabulates_taskListing (hheld : ∀ h ∈ s.monitor.tasks, s.Holds h) :
    Text.Tabulates "(no tasks)" "Tasks (" s.ShowsTask s.monitor.tasks
      s.taskListing := by
  refine (s.monitor.tabulates_listing s.ready s.describe).imp ?_
  rintro task hmem line ⟨cell, state, hcell, hstate, rfl⟩
  obtain ⟨d, hd, -⟩ := hheld task hmem
  rw [ready_of_device? hd] at hstate
  rw [describe_of_device? hd]
  exact ⟨d, cell, state, hd, hcell, hstate, rfl⟩

end Session

end DeviceShell
