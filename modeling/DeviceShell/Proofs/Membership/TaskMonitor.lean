import DeviceShell.Proofs.Membership
import DeviceShell.Proofs.Session.Agreement
import DeviceShell.Proofs.Session.Listings
import DeviceShell.Proofs.TaskMonitor
import Mathlib.Data.List.Induction
import Mathlib.Data.List.Nodup

/-!
# What the monitor lists, and in which order

The monitor has no order of its own. A task that is watched goes to the end,
and whatever had its id before is taken out first; so the tasks come to stand
in the order in which they were last watched, although nothing in the monitor
says when that was. The order is stated with the times of the changes
(`pairwise_ofChanges`). It says in particular that no id is watched twice,
and with that a task that is taken out or put at the end leaves nothing
behind and nothing else moves.

Whether a task is ready and what it says about itself is not for the
monitor to know. So what is said of the table is said for all readings of
the tasks, and then of every session that has the monitor: there the lines
show how the tasks are at the moment.
-/

namespace DeviceShell.TaskMonitor

/-- The monitor after a change. Which instance an id leaves with makes
no difference. -/
def change (m : TaskMonitor) : Change → TaskMonitor
  | .enter task => m.watch task
  | .leave id => m.unwatch id

/-- The monitor after a list of changes. At first nothing is watched. -/
def ofChanges (changes : List Change) : TaskMonitor :=
  changes.foldl change {}

theorem ofChanges_concat (changes : List Change) (c : Change) :
    ofChanges (changes ++ [c]) = (ofChanges changes).change c := by
  rw [ofChanges, List.foldl_append]
  rfl

theorem mem_change_iff {m : TaskMonitor} {c : Change} {h : Handle} :
    h ∈ (m.change c).tasks ↔ h ∈ m.tasks ∧ c.id ≠ h.id ∨ c = .enter h := by
  cases c with
  | enter g =>
      rw [change, mem_watch, Change.id, Change.enter.injEq, ne_comm,
        eq_comm (a := h)]
  | leave id => rw [change, mem_unwatch, Change.id, ne_comm]; simp

/-- What is watched is what stays. -/
theorem mem_ofChanges {changes : List Change} {h : Handle} :
    h ∈ (ofChanges changes).tasks ↔ Stays changes h := by
  induction changes using List.reverseRecOn with
  | nil => exact iff_of_false (List.not_mem_nil) (not_stays_nil h)
  | append_singleton changes c ih =>
      rw [ofChanges_concat, mem_change_iff, ih, stays_concat]

/-- The tasks stand in the order in which they were last watched. -/
theorem pairwise_ofChanges (changes : List Change) :
    (ofChanges changes).tasks.Pairwise (StaysBefore changes) := by
  induction changes using List.reverseRecOn with
  | nil => exact List.Pairwise.nil
  | append_singleton changes c ih =>
      have hkept : ((ofChanges changes).unwatch c.id).tasks.Pairwise
          (StaysBefore (changes ++ [c])) := by
        refine List.Pairwise.imp_of_mem ?_ (ih.filter _)
        intro g h hg hh hbefore
        exact hbefore.concat (mem_unwatch.mp hg).2.symm
          (mem_unwatch.mp hh).2.symm
      rw [ofChanges_concat]
      cases c with
      | leave id => exact hkept
      | enter h =>
          rw [change, watch, List.pairwise_append]
          refine ⟨hkept, List.pairwise_singleton _ h, ?_⟩
          intro g hg h' hh'
          obtain rfl := List.mem_singleton.mp hh'
          obtain ⟨hmem, hid⟩ := mem_unwatch.mp hg
          exact (mem_ofChanges.mp hmem).before_concat hid.symm

theorem nodup_ids_ofChanges (changes : List Change) :
    (ofChanges changes).ids.Nodup :=
  List.pairwise_map.mpr ((pairwise_ofChanges changes).imp StaysBefore.id_ne)

/-! ## Taking a task out -/

theorem unwatch_of_tasks_eq {m : TaskMonitor} (hm : m.ids.Nodup)
    {before after : List Handle} {h : Handle}
    (htasks : m.tasks = before ++ h :: after) :
    (m.unwatch h.id).tasks = before ++ after := by
  have hothers : ∀ g ∈ before ++ after, g.id ≠ h.id := by
    rw [ids, htasks, List.map_append, List.map_cons, List.nodup_middle,
      ← List.map_append, List.nodup_cons] at hm
    intro g hg hid
    exact hm.1 (hid ▸ List.mem_map_of_mem hg)
  rw [unwatch, htasks, List.filter_append, List.filter_cons_of_neg (by simp),
    ← List.filter_append, List.filter_eq_self]
  exact fun g hg => decide_eq_true (hothers g hg)

theorem unwatch_of_not_mem {m : TaskMonitor} {id : String} (hid : id ∉ m.ids) :
    m.unwatch id = m := by
  have hothers : ∀ g ∈ m.tasks, g.id ≠ id :=
    fun g hg heq => hid (heq ▸ List.mem_map_of_mem hg)
  rw [unwatch, List.filter_eq_self.mpr fun g hg =>
    decide_eq_true (hothers g hg)]

/-! ## What can be found out -/

/-- What can be found out about a monitor, told from the changes that
have led to it. -/
structure Watches (m : TaskMonitor) (changes : List Change) : Prop where
  watched : ∀ h, h ∈ m.tasks ↔ Stays changes h
  listed : ∀ id, id ∈ m.ids ↔ ∃ h, Stays changes h ∧ h.id = id
  distinct : m.ids.Nodup
  inOrder : m.tasks.Pairwise (StaysBefore changes)
  ordered : m.ids.Pairwise fun a b => ∃ g h, StaysBefore changes g h ∧
    g.id = a ∧ h.id = b
  appended : ∀ g : Handle, g.id ∉ m.ids → (m.watch g).tasks = m.tasks ++ [g]
  moved : ∀ before (h : Handle) after (g : Handle),
    m.tasks = before ++ h :: after →
    g.id = h.id → (m.watch g).tasks = before ++ after ++ [g]
  removed : ∀ before (h : Handle) after (g : Handle),
    m.tasks = before ++ h :: after →
    g.id = h.id → (m.unwatch g.id).tasks = before ++ after
  untouched : ∀ g : Handle, g.id ∉ m.ids → m.unwatch g.id = m
  shown : ∀ ready describe,
    Text.Tabulates "(no tasks)" "Tasks (" (ShowsTask ready describe)
    m.tasks (m.listing ready describe)
  told : ∀ (s : Session) (loader : Loader) (line : String), s.monitor = m →
    (∀ h, Stays changes h → s.Holds h) → Text.trimmed line = "tasks" →
    ∃ lines, Text.Tabulates "(no tasks)" "Tasks (" s.ShowsTask m.tasks lines ∧
      s.Lists loader line lines

/-- Whatever tasks have been watched and whatever ids have gone, in whatever
order, the monitor lists each task that was watched last under its id and has
not gone since, in the order of those last times. -/
theorem watches_ofChanges (changes : List Change) :
    (ofChanges changes).Watches changes := by
  have hnodup := nodup_ids_ofChanges changes
  have hordered := pairwise_ofChanges changes
  refine ⟨fun _ => mem_ofChanges, ?listed, hnodup, hordered, ?ordered,
    ?appended, ?moved, ?removed, fun g => unwatch_of_not_mem,
    tabulates_listing _, ?told⟩
  case listed =>
    intro id
    rw [ids, List.mem_map]
    simp only [mem_ofChanges]
  case ordered =>
    exact List.pairwise_map.mpr
      (hordered.imp fun hbefore => ⟨_, _, hbefore, rfl, rfl⟩)
  case appended =>
    intro g hg
    rw [watch, unwatch_of_not_mem hg]
  case moved =>
    intro before h after g htasks hid
    rw [watch, hid, unwatch_of_tasks_eq hnodup htasks]
  case removed =>
    intro before h after g htasks hid
    rw [hid, unwatch_of_tasks_eq hnodup htasks]
  case told =>
    intro s loader line hmonitor hheld hline
    refine ⟨s.taskListing, ?_, Session.lists_taskListing loader hline⟩
    rw [← hmonitor]
    refine Session.tabulates_taskListing fun h hmem => hheld h ?_
    rw [hmonitor] at hmem
    exact mem_ofChanges.mp hmem

/-- Two scripts are loaded, and the first of them once more. -/
def blinkTwice : List (Files × String) :=
  let scripts : Files := fun _ => some (.file "on".toUTF8)
  [(scripts, "load blink"), (scripts, "load clock"), (scripts, "load blink")]

/-- How the monitor came by its tasks then. -/
def blinkChanges : List Change :=
  [.enter ⟨"blink", 3⟩, .enter ⟨"clock", 4⟩, .leave "blink",
    .enter ⟨"blink", 5⟩]

/-- A task that is watched again is shown last. -/
theorem watches_ofChanges_blinkTwice :
    (Session.demo.after .standard blinkTwice).monitor =
      ofChanges blinkChanges ∧
    (∀ h, Stays blinkChanges h →
      (Session.demo.after .standard blinkTwice).Holds h) ∧
    ∃ lines, Text.Tabulates "(no tasks)" "Tasks ("
        (Session.demo.after .standard blinkTwice).ShowsTask
        [⟨"clock", 4⟩, ⟨"blink", 5⟩] lines ∧
      (Session.demo.after .standard blinkTwice).Lists
        (.standard fun _ => none) "tasks" lines := by
  have htasks : (Session.demo.after .standard blinkTwice).monitor.tasks =
      [⟨"clock", 4⟩, ⟨"blink", 5⟩] := by decide +kernel
  have hchanges : (ofChanges blinkChanges).tasks =
      [⟨"clock", 4⟩, ⟨"blink", 5⟩] := by decide +kernel
  have hmonitor : (Session.demo.after .standard blinkTwice).monitor =
      ofChanges blinkChanges := congrArg mk (htasks.trans hchanges.symm)
  have hheld : ∀ h, Stays blinkChanges h →
      (Session.demo.after .standard blinkTwice).Holds h := by
    intro h hstays
    have hmem := mem_ofChanges.mpr hstays
    rw [← hmonitor] at hmem
    exact (Session.initial_demo.sound.after _ blinkTwice).watched hmem
  have htold := (watches_ofChanges blinkChanges).told _
    (.standard fun _ => none) "tasks" hmonitor hheld (by decide +kernel)
  rw [hchanges] at htold
  exact ⟨hmonitor, hheld, htold⟩

end DeviceShell.TaskMonitor
