import DeviceShell.Proofs.ScriptFolder
import DeviceShell.Proofs.Session.History

/-!
# Watched tasks without a registration

A predecessor leaves the registry with every load of its id and the monitor
only if it was ready. So a task that had been stopped stays in the monitor, and
if no new one can be made then nothing has its id any more: it is an `Orphan`.
Nothing reaches a device but through the registry, so an orphan stays as it is
until a load puts another task in its place.

`Settled` is the invariant behind this, and it asks nothing of the registry a
session starts with: everything watched is a script, and it is the registered
instance of its id or an orphan. An unready script is a stopped one, which is
why a task that keeps its place in the monitor without its registration is
stopped.
-/

namespace DeviceShell

/-! ## Scripts -/

/-- The device is a script task. -/
def Device.IsScript (d : Device) : Prop :=
  ∃ t, d = .script t

theorem Device.Served.isScript_iff {d d' : Device} (h : d.Served d') :
    d'.IsScript ↔ d.IsScript := by
  cases h with
  | same => rfl
  | attributes => constructor <;> rintro ⟨t, ⟨⟩⟩

theorem Lifecycle.isScript_outcome (order : Lifecycle) (d : Device) :
    (order.outcome d).IsScript ↔ d.IsScript := by
  cases d with
  | script t => cases order <;> exact ⟨fun _ => ⟨t, rfl⟩, fun _ => ⟨_, rfl⟩⟩
  | property | plain | rig => cases order <;> constructor <;> rintro ⟨t, ⟨⟩⟩

theorem ScriptTask.stopped_of_not_ready {t : ScriptTask} (h : t.ready = false) :
    t.state = .stopped := by
  rw [ready] at h
  exact Decidable.of_not_not (of_decide_eq_false h)

namespace Loader

/-- Whatever the loader creates is a script task under its base name. -/
def MakesTasks (l : Loader) : Prop :=
  ∀ {lane base args made}, l.create lane base args = .ok made →
    ∃ t, made.device = .script t ∧ t.id = base

/-- A line is a load for which the loader has a device of the given
base name. -/
def Provides (l : Loader) (line base : String) : Prop :=
  ∃ name args lane made,
    Command.classify (Text.trimmed line) = .ok (.load name args) ∧
    name ≠ "" ∧ l.select name = (lane, base) ∧
    l.create lane base args = .ok made

theorem makesTasks_ofFolders (folder : Lane → ScriptFolder) (suffix : String)
    (files : Files) :
    (ofFolders folder suffix files).MakesTasks := by
  intro lane base args made hcreate
  obtain ⟨text, -, rfl⟩ := create_ofFolders_eq_ok_iff.mp hcreate
  exact ⟨_, rfl, rfl⟩

end Loader

namespace Session

/-! ## Orphans -/

/-- A watched task without a registration: it is stopped, and nothing else has
its id. -/
structure Orphan (s : Session) (g : Handle) : Prop where
  watched : g ∈ s.monitor.tasks
  unregistered : s.registry.get? g.id = none
  stopped : ∃ t, s.device? g = some (.script t) ∧ t.state = .stopped

namespace Orphan

/-- An orphan is not what an id in the registry leads to. -/
theorem ne_of_registered {s : Session} {g h : Handle} {id : String}
    (hg : s.Orphan g) (hs : s.Sound) (hget : s.registry.get? id = some h) :
    g ≠ h ∧ g.id ≠ id := by
  obtain ⟨hid, -⟩ := hs.registered hget
  have hne : g.id ≠ id := by
    rintro rfl
    rw [hg.unregistered] at hget
    cases hget
  refine ⟨?_, hne⟩
  rintro rfl
  exact hne hid

theorem put {s : Session} {g h : Handle} {d : Device} {id : String}
    (hg : s.Orphan g) (hs : s.Sound) (hfind : s.find? id = some (h, d))
    (d' : Device) : (s.put h d').Orphan g := by
  obtain ⟨hget, -⟩ := find?_eq_some_iff.mp hfind
  obtain ⟨hne, -⟩ := hg.ne_of_registered hs hget
  obtain ⟨t, ht, hstopped⟩ := hg.stopped
  refine ⟨hg.watched, hg.unregistered, t, ?_, hstopped⟩
  rw [hs.device?_put_of_ne hfind (hs.watched hg.watched) hne, ht]

theorem unregister {s : Session} {g : Handle} (hg : s.Orphan g) (id : String) :
    (s.unregister id).session.Orphan g := by
  refine ⟨hg.watched, ?_, hg.stopped⟩
  rw [get?_unregister, hg.unregistered, ite_self]

theorem unwatch {s : Session} {g : Handle} {id : String} (hg : s.Orphan g)
    (hne : g.id ≠ id) :
    (s.unwatch id).session.Orphan g :=
  ⟨TaskMonitor.mem_unwatch.mpr ⟨hg.watched, hne⟩, hg.unregistered, hg.stopped⟩

theorem adopt {s : Session} {g : Handle} {d : Device} (hg : s.Orphan g)
    (hne : g.id ≠ d.id) :
    (s.adopt d).session.Orphan g := by
  obtain ⟨t, ht, hstopped⟩ := hg.stopped
  refine ⟨mem_adopt.mpr (.inl ⟨hg.watched, hne⟩), ?_, t,
    device?_make ht d, hstopped⟩
  rw [get?_adopt, if_neg (Ne.symm hne), hg.unregistered]

theorem retired {s s' : Session} {g : Handle} {base : String} (hg : s.Orphan g)
    (hs : s.Sound) (hretired : Retired s base s') : s'.Orphan g := by
  cases hretired with
  | absent => exact hg
  | unready => exact hg.unregister base
  | @ready h d hfind =>
      obtain ⟨hget, -⟩ := find?_eq_some_iff.mp hfind
      obtain ⟨-, hne⟩ := hg.ne_of_registered hs hget
      rw [← (hs.id_of_find? hfind).1] at hne
      have hfind' : (s.unwatch h.id).session.find? base = some (h, d) := hfind
      have hsilent := (hg.unwatch hne).put (hs.unwatch h.id) hfind' d.stopped
      exact hsilent.unregister base

/-- An orphan stays one through every step that does not load its id. -/
theorem step {loader : Loader} {s s' : Session} {g : Handle} {line : String}
    (hg : s.Orphan g) (hs : s.Sound) (hl : loader.MakesTasks)
    (hnot : ¬ loader.Provides line g.id) (hstep : Step loader s line s') :
    s'.Orphan g := by
  cases hstep with
  | unread => exact hg
  | read hread heffect =>
      cases heffect with
      | exit => exact ⟨hg.watched, hg.unregistered, hg.stopped⟩
      | devices | tasks | help | unrecognized | nameless | unheard | missing =>
          exact hg
      | refused _ _ _ hretired => exact hg.retired hs hretired
      | @loaded name args lane base made _ hname hselect hcreate hretired =>
          obtain ⟨t, hmade, hid⟩ := hl hcreate
          have hne : g.id ≠ made.device.id := by
            rw [hmade]
            change g.id ≠ t.id
            rw [hid]
            rintro rfl
            exact hnot ⟨name, args, lane, made, hread, hname, hselect, hcreate⟩
          exact (hg.retired hs hretired).adopt hne
      | ordered hfind => exact hg.put hs hfind _
      | served hfind => exact hg.put hs hfind _

end Orphan

/-- An orphan stays one through every history in which its id is not loaded. -/
theorem Orphan.after {loader : Files → Loader} {s : Session} {g : Handle}
    {history : List (Files × String)} (hg : s.Orphan g) (hs : s.Sound)
    (hl : ∀ files, (loader files).MakesTasks)
    (hnot : ∀ entry ∈ history, ¬ (loader entry.1).Provides entry.2 g.id) :
    (s.after loader history).Orphan g := by
  refine hs.after_induction (P := fun s => s.Orphan g) hg ?_
  intro s s' files line hmem hs hg hstep
  exact hg.step hs (hl files) (hnot _ hmem) hstep

/-! ## What is watched -/

/-- Everything watched is a script, and it is what its id means or an orphan. -/
structure Settled (s : Session) : Prop where
  sound : s.Sound
  script : ∀ {g}, g ∈ s.monitor.tasks → ∃ t, s.device? g = some (.script t)
  settled : ∀ {g}, g ∈ s.monitor.tasks →
    s.registry.get? g.id = some g ∨ s.Orphan g

namespace Settled

/-- A session in which nothing is watched is settled whatever is registered. -/
theorem of_idle {s : Session} (hs : s.Sound) (hidle : s.monitor.tasks = []) :
    s.Settled := by
  have hnone : ∀ {g}, g ∉ s.monitor.tasks := by
    intro g hg
    rw [hidle] at hg
    cases hg
  exact ⟨hs, fun hg => absurd hg hnone, fun hg => absurd hg hnone⟩

theorem put {s : Session} {h : Handle} {d d' : Device} {id : String}
    (hs : s.Settled) (hfind : s.find? id = some (h, d)) (hid : d'.id = d.id)
    (hkind : d'.IsScript ↔ d.IsScript) :
    (s.put h d').Settled := by
  obtain ⟨-, hd⟩ := find?_eq_some_iff.mp hfind
  refine ⟨hs.sound.put hd hid, ?script, ?settled⟩
  case script =>
    intro g hg
    obtain ⟨t, ht⟩ := hs.script hg
    by_cases hne : g = h
    · subst hne
      rw [hd] at ht
      cases ht
      obtain ⟨t', rfl⟩ := hkind.mpr ⟨t, rfl⟩
      exact ⟨t', by rw [device?_put hd, if_pos rfl]⟩
    · exact ⟨t,
        by rw [hs.sound.device?_put_of_ne hfind (hs.sound.watched hg) hne, ht]⟩
  case settled =>
    intro g hg
    rcases hs.settled hg with hreg | horphan
    · exact .inl hreg
    · exact .inr (horphan.put hs.sound hfind d')

theorem unwatch {s : Session} (hs : s.Settled) (id : String) :
    (s.unwatch id).session.Settled := by
  refine ⟨hs.sound.unwatch id, ?script, ?settled⟩
  case script =>
    intro g hg
    exact hs.script (TaskMonitor.mem_unwatch.mp hg).1
  case settled =>
    intro g hg
    obtain ⟨hold, hne⟩ := TaskMonitor.mem_unwatch.mp hg
    rcases hs.settled hold with hreg | horphan
    · exact .inl hreg
    · exact .inr (horphan.unwatch hne)

/-- An id may be forgotten when the task watched under it, if there is one, has
been stopped. That task is an orphan from now on. -/
theorem unregister {s : Session} {base : String} (hs : s.Settled)
    (hstopped : ∀ {g}, g ∈ s.monitor.tasks → s.registry.get? base = some g →
      ∃ t, s.device? g = some (.script t) ∧ t.state = .stopped) :
    (s.unregister base).session.Settled := by
  refine ⟨hs.sound.unregister base, hs.script, ?_⟩
  intro g hg
  rcases hs.settled hg with hreg | horphan
  · by_cases hid : base = g.id
    · have hgone : (s.unregister base).session.registry.get? g.id = none := by
        rw [get?_unregister, if_pos hid]
      rw [← hid] at hreg
      exact .inr ⟨hg, hgone, hstopped hg hreg⟩
    · refine .inl ?_
      rw [get?_unregister, if_neg hid, hreg]
  · exact .inr (horphan.unregister base)

/-- A watched task that is registered and not ready has been stopped. -/
theorem stopped_of_not_ready {s : Session} {g h : Handle} {d : Device}
    {base : String} (hs : s.Settled) (hfind : s.find? base = some (h, d))
    (hready : d.ready = false) (hg : g ∈ s.monitor.tasks)
    (hget : s.registry.get? base = some g) :
    ∃ t, s.device? g = some (.script t) ∧ t.state = .stopped := by
  obtain ⟨hget', hd⟩ := find?_eq_some_iff.mp hfind
  rw [hget] at hget'
  cases hget'
  obtain ⟨t, ht⟩ := hs.script hg
  rw [hd] at ht
  cases ht
  exact ⟨t, hd, ScriptTask.stopped_of_not_ready hready⟩

theorem retired {s s' : Session} {base : String} (hs : s.Settled)
    (hretired : Retired s base s') : s'.Settled := by
  cases hretired with
  | absent => exact hs
  | unready hfind hready =>
      exact hs.unregister (hs.stopped_of_not_ready hfind hready)
  | @ready h d hfind =>
      have hfind' : (s.unwatch h.id).session.find? base = some (h, d) := hfind
      have hsilent :=
        (hs.unwatch h.id).put hfind' (Device.id_stopped d)
          (Lifecycle.stop.isScript_outcome d)
      refine hsilent.unregister ?_
      intro g hg hget
      obtain ⟨hget', -⟩ := find?_eq_some_iff.mp hfind
      have hsame : some g = some h := hget.symm.trans hget'
      have hunwatched : g.id ≠ h.id := (TaskMonitor.mem_unwatch.mp hg).2
      cases hsame
      exact absurd rfl hunwatched

theorem adopt {s : Session} (hs : s.Settled) (t : ScriptTask) :
    (s.adopt (.script t)).session.Settled := by
  refine ⟨hs.sound.adopt _, ?script, ?settled⟩
  case script =>
    intro g hg
    rcases mem_adopt.mp hg with ⟨hold, -⟩ | rfl
    · obtain ⟨t', ht'⟩ := hs.script hold
      exact ⟨t', device?_make ht' _⟩
    · exact ⟨t, device?_make_self s (.script t)⟩
  case settled =>
    intro g hg
    rcases mem_adopt.mp hg with ⟨hold, hne⟩ | rfl
    · rcases hs.settled hold with hreg | horphan
      · refine .inl ?_
        rw [get?_adopt, if_neg (Ne.symm hne), hreg]
      · exact .inr (horphan.adopt hne)
    · refine .inl ?_
      rw [get?_adopt]
      exact if_pos rfl

theorem step {loader : Loader} {s s' : Session} {line : String} (hs : s.Settled)
    (hl : loader.MakesTasks) (hstep : Step loader s line s') : s'.Settled := by
  cases hstep with
  | unread => exact hs
  | read _ heffect =>
      cases heffect with
      | exit =>
          refine ⟨⟨hs.sound.registered, hs.sound.watched⟩, hs.script, ?_⟩
          intro g hg
          rcases hs.settled hg with hreg | horphan
          · exact .inl hreg
          · exact .inr ⟨horphan.watched, horphan.unregistered, horphan.stopped⟩
      | devices | tasks | help | unrecognized | nameless | unheard | missing =>
          exact hs
      | refused _ _ _ hretired => exact hs.retired hretired
      | loaded _ _ hcreate hretired =>
          obtain ⟨t, hmade, -⟩ := hl hcreate
          rw [hmade]
          exact (hs.retired hretired).adopt t
      | @ordered order _ _ d hfind =>
          exact hs.put hfind (Device.id_outcome order d)
            (order.isScript_outcome d)
      | served hfind hserved =>
          exact hs.put hfind hserved.id_eq hserved.isScript_iff

end Settled

end Session

end DeviceShell
