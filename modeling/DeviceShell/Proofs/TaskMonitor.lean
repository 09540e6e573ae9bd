import DeviceShell.TaskMonitor

/-!
# What the monitor watches

Watching goes through unwatching, so an id is watched at most once whatever the
order of the requests. Everything a session needs to know about its monitor is
which handles are in it and that their ids are distinct.
-/

namespace DeviceShell.TaskMonitor

theorem mem_unwatch {m : TaskMonitor} {id : String} {g : Handle} :
    g ∈ (m.unwatch id).tasks ↔ g ∈ m.tasks ∧ g.id ≠ id := by
  rw [unwatch, List.mem_filter, decide_eq_true_iff]

theorem mem_watch {m : TaskMonitor} {h g : Handle} :
    g ∈ (m.watch h).tasks ↔ g ∈ m.tasks ∧ g.id ≠ h.id ∨ g = h := by
  rw [watch, List.mem_append, mem_unwatch, List.mem_singleton]

theorem filter_unwatch (m : TaskMonitor) (id : String) :
    (m.unwatch id).tasks.filter (·.id ≠ id) = m.tasks.filter (·.id ≠ id) := by
  rw [unwatch, List.filter_filter]
  simp only [Bool.and_self]

/-- Watching an instance leaves those with other ids in their order. -/
theorem filter_watch (m : TaskMonitor) (h : Handle) :
    (m.watch h).tasks.filter (·.id ≠ h.id) = m.tasks.filter (·.id ≠ h.id) := by
  rw [watch, List.filter_append, filter_unwatch,
    List.filter_cons_of_neg (by simp), List.filter_nil, List.append_nil]

theorem filter_unwatch_self (m : TaskMonitor) (id : String) :
    (m.unwatch id).tasks.filter (·.id = id) = [] := by
  rw [List.filter_eq_nil_iff]
  intro g hg
  simpa using (mem_unwatch.mp hg).2

/-- An instance that is watched is the only one with its id. -/
theorem filter_watch_self (m : TaskMonitor) (h : Handle) :
    (m.watch h).tasks.filter (·.id = h.id) = [h] := by
  rw [watch, List.filter_append, filter_unwatch_self, List.nil_append]
  exact List.filter_cons_of_pos (decide_eq_true rfl)

/-- What is watched under an id is among what is not watched under another. -/
theorem filter_eq_of_filter_ne {tasks tasks' : List Handle} {id base : String}
    (hne : id ≠ base)
    (h : tasks'.filter (·.id ≠ base) = tasks.filter (·.id ≠ base)) :
    tasks'.filter (·.id = id) = tasks.filter (·.id = id) := by
  have hwithin : ∀ tasks : List Handle, tasks.filter (·.id = id) =
      (tasks.filter (·.id ≠ base)).filter (·.id = id) := by
    intro tasks
    rw [List.filter_filter]
    refine List.filter_congr fun g _ => ?_
    by_cases hid : g.id = id
    · simp [hid, hne]
    · simp [hid]
  rw [hwithin, h, ← hwithin]

theorem nodup_ids_unwatch {m : TaskMonitor} (hm : m.ids.Nodup) (id : String) :
    (m.unwatch id).ids.Nodup := by
  have hsub : (m.unwatch id).ids.Sublist m.ids := List.filter_sublist.map _
  exact hm.sublist hsub

theorem nodup_ids_watch {m : TaskMonitor} (hm : m.ids.Nodup) (h : Handle) :
    (m.watch h).ids.Nodup := by
  have hrest := nodup_ids_unwatch hm h.id
  have hfresh : h.id ∉ (m.unwatch h.id).ids := by
    intro hmem
    obtain ⟨g, hg, hid⟩ := List.mem_map.mp hmem
    exact (mem_unwatch.mp hg).2 hid
  rw [ids, watch, List.map_append, List.map_singleton, List.nodup_append]
  refine ⟨hrest, List.pairwise_singleton _ _, ?_⟩
  intro a ha b hb hab
  rw [List.mem_singleton] at hb
  subst hab hb
  exact hfresh ha

end DeviceShell.TaskMonitor
