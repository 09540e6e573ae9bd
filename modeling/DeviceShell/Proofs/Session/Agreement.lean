import DeviceShell.Files.Tree
import DeviceShell.Proofs.Session.Orphan
import DeviceShell.Settings.Scripts

/-!
# Registry and monitor agree

A load updates two stores with different conditions: the predecessor leaves the
monitor only if it was ready and leaves the registry always, and the file may
be missing after that. So a watched task can lose its registration, and the
stores do not hold the same tasks. What they do agree on is `Agreement`.

It is not an invariant as it stands. `Consistent` is: besides being settled,
which says what can be watched, the session watches every registered script,
and no id twice. The second half is lost if a script is registered from the
start and not watched, and a load never does that.
-/

namespace DeviceShell

namespace Session

/-! ## The invariant -/

/-- Everything watched is a script, and it is what its id means or an orphan;
every registered script is watched. -/
structure Consistent (s : Session) : Prop where
  sound : s.Sound
  distinct : s.monitor.ids.Nodup
  script : ∀ {g}, g ∈ s.monitor.tasks → ∃ t, s.device? g = some (.script t)
  watched : ∀ {id h t}, s.registry.get? id = some h →
    s.device? h = some (.script t) →
    h ∈ s.monitor.tasks
  settled : ∀ {g}, g ∈ s.monitor.tasks →
    s.registry.get? g.id = some g ∨ s.Orphan g

namespace Consistent

theorem toSettled {s : Session} (hs : s.Consistent) : s.Settled :=
  ⟨hs.sound, hs.script, hs.settled⟩

theorem of_settled {s : Session} (hs : s.Settled)
    (hdistinct : s.monitor.ids.Nodup)
    (hwatched : ∀ {id h t}, s.registry.get? id = some h →
      s.device? h = some (.script t) → h ∈ s.monitor.tasks) : s.Consistent :=
  ⟨hs.sound, hdistinct, hs.script, hwatched, hs.settled⟩

theorem put {s : Session} {h : Handle} {d d' : Device} {id : String}
    (hs : s.Consistent) (hfind : s.find? id = some (h, d)) (hid : d'.id = d.id)
    (hkind : d'.IsScript ↔ d.IsScript) :
    (s.put h d').Consistent := by
  obtain ⟨-, hd⟩ := find?_eq_some_iff.mp hfind
  refine of_settled (hs.toSettled.put hfind hid hkind) hs.distinct ?_
  intro id' g t hget' ht
  obtain ⟨-, hholds⟩ := hs.sound.registered hget'
  by_cases hne : g = h
  · subst hne
    rw [device?_put hd, if_pos rfl] at ht
    cases ht
    obtain ⟨t', rfl⟩ := hkind.mp ⟨t, rfl⟩
    exact hs.watched hget' hd
  · rw [hs.sound.device?_put_of_ne hfind hholds hne] at ht
    exact hs.watched hget' ht

theorem retired {s s' : Session} {base : String} (hs : s.Consistent)
    (hretired : Retired s base s') : s'.Consistent := by
  have hsettled := hs.toSettled.retired hretired
  cases hretired with
  | absent => exact hs
  | unready =>
      refine of_settled hsettled hs.distinct ?_
      intro id g t hget ht
      rw [get?_unregister] at hget
      split at hget
      · cases hget
      · exact hs.watched hget ht
  | @ready h d hfind =>
      refine of_settled hsettled
        (TaskMonitor.nodup_ids_unwatch hs.distinct h.id) ?_
      intro id g t hget ht
      rw [get?_unregister] at hget
      split at hget
      · cases hget
      · next hne =>
          obtain ⟨hid, -⟩ := hs.sound.id_of_find? hfind
          obtain ⟨hkey, hholds⟩ := hs.sound.registered hget
          have hother : g.id ≠ h.id := by
            rw [hkey, hid]
            exact Ne.symm hne
          have hfind' : (s.unwatch h.id).session.find? base = some (h, d) :=
            hfind
          have hsame := (hs.sound.unwatch h.id).device?_put_of_ne hfind' hholds
            (by rintro rfl; exact hother rfl) d.stopped
          exact TaskMonitor.mem_unwatch.mpr
            ⟨hs.watched hget (hsame.symm.trans ht), hother⟩

theorem adopt {s : Session} (hs : s.Consistent) (t : ScriptTask) :
    (s.adopt (.script t)).session.Consistent := by
  refine of_settled (hs.toSettled.adopt t)
    (TaskMonitor.nodup_ids_watch hs.distinct _) ?_
  intro id g t' hget ht'
  rw [get?_adopt] at hget
  split at hget
  · cases hget
    exact mem_adopt.mpr (.inr rfl)
  · next hne =>
      obtain ⟨hkey, e, he, -⟩ := hs.sound.registered hget
      have hsame : some e = some (.script t') :=
        (device?_make he _).symm.trans ht'
      cases hsame
      refine mem_adopt.mpr (.inl ⟨hs.watched hget he, ?_⟩)
      rw [hkey]
      exact Ne.symm hne

theorem step {loader : Loader} {s s' : Session} {line : String}
    (hs : s.Consistent) (hl : loader.MakesTasks)
    (hstep : Step loader s line s') : s'.Consistent := by
  have hsettled := hs.toSettled.step hl hstep
  cases hstep with
  | unread => exact hs
  | read _ heffect =>
      cases heffect with
      | exit => exact of_settled hsettled hs.distinct hs.watched
      | devices | tasks | help | unrecognized | nameless | unheard | missing =>
          exact hs
      | refused _ _ _ hretired => exact hs.retired hretired
      | loaded _ _ hcreate hretired =>
          obtain ⟨t, hmade, -⟩ := hl hcreate
          rw [hmade]
          exact (hs.retired hretired).adopt t
      | @ordered order _ _ d hfind =>
          exact hs.put hfind (Device.id_outcome order d)
            (order.isScript_outcome d)
      | served hfind hserved =>
          exact hs.put hfind hserved.id_eq hserved.isScript_iff

end Consistent

/-! ## Where a session starts -/

/-- What is kept by the registration of each of some devices holds when they
have all been registered. -/
theorem installAll_induction {P : Session → Prop} {s : Session}
    {devices : List Device} (hstart : P s)
    (hstep : ∀ {s d}, d ∈ devices → P s → P (s.install d).session) :
    P (s.installAll devices).session := by
  induction devices generalizing s with
  | nil => exact hstart
  | cons d rest ih =>
      exact ih (hstep List.mem_cons_self hstart) fun hd =>
        hstep (List.mem_cons_of_mem d hd)

theorem configure_induction {P : Session → Prop} {s : Session}
    {devices : List DeviceSettings} (hstart : P s)
    (hstep : ∀ {s d}, d ∈ devices → P s →
      P (s.install (.property d.device)).session) :
    P (s.configure devices).session := by
  induction devices generalizing s with
  | nil => exact hstart
  | cons d rest ih =>
      exact ih (hstep List.mem_cons_self hstart) fun hd =>
        hstep (List.mem_cons_of_mem d hd)

/-- A session before any script is loaded: no registered device is a script,
and nothing is watched. -/
structure Initial (s : Session) : Prop where
  sound : s.Sound
  scriptless : ∀ {id h d}, s.find? id = some (h, d) → ¬ d.IsScript
  idle : s.monitor.tasks = []

namespace Initial

theorem consistent {s : Session} (hs : s.Initial) : s.Consistent := by
  refine Consistent.of_settled (Settled.of_idle hs.sound hs.idle)
    ?distinct ?watched
  case distinct =>
    rw [TaskMonitor.ids, hs.idle]
    exact List.Pairwise.nil
  case watched =>
    intro id h t hget ht
    have hfind := find?_eq_some_iff.mpr ⟨hget, ht⟩
    exact absurd ⟨t, rfl⟩ (hs.scriptless hfind)

theorem empty : ({} : Session).Initial where
  sound := Sound.empty
  scriptless hfind := by
    cases hfind
  idle := rfl

theorem install {s : Session} {d : Device} (hs : s.Initial)
    (hd : ¬ d.IsScript) :
    (s.install d).session.Initial where
  sound := hs.sound.install d
  scriptless {id h e} hfind := by
    rw [hs.sound.find?_install] at hfind
    split at hfind
    · cases hfind
      exact hd
    · exact hs.scriptless hfind
  idle := hs.idle

theorem installAll {s : Session} {devices : List Device} (hs : s.Initial)
    (hdevices : ∀ d ∈ devices, ¬ d.IsScript) :
    (s.installAll devices).session.Initial :=
  installAll_induction hs fun hd hs' => hs'.install (hdevices _ hd)

theorem configure {s : Session} {devices : List DeviceSettings}
    (hs : s.Initial) :
    (s.configure devices).session.Initial :=
  configure_induction hs fun _ hs' => hs'.install (by rintro ⟨t, ⟨⟩⟩)

/-- Every session that the settings describe starts without scripts. -/
theorem ofSettings (settings : Settings) (demo : Bool) :
    (settings.session demo).session.Initial := by
  have hdemo : ∀ d ∈ (if demo then demoDevices else []), ¬ d.IsScript := by
    intro d hd
    split at hd
    · rw [demoDevices, List.mem_cons, List.mem_cons, List.mem_singleton] at hd
      rcases hd with rfl | rfl | rfl <;> rintro ⟨t, ⟨⟩⟩
    · cases hd
  exact (configure empty).installAll hdemo

end Initial

theorem initial_demo : demo.Initial :=
  .ofSettings {} true

/-! ## The agreement -/

/-- What registry and monitor agree on. Watched ids are distinct. A registered
script is watched, and nothing else with its id is, so that an order given
through the registry is visible in the monitor. What is watched under a
registered id is the registered instance. What is watched under any other id is
a stopped task, and is one until a load provides its id again. -/
structure Agreement (loader : Files → Loader) (s : Session) : Prop where
  distinct : s.monitor.ids.Nodup
  watched : ∀ id h t, s.registry.get? id = some h →
    s.device? h = some (.script t) →
    h ∈ s.monitor.tasks ∧ ∀ g ∈ s.monitor.tasks, g.id = id → g = h
  obeyed : ∀ order id h t, s.find? id = some (h, .script t) →
    h ∈ (s.control order id).session.monitor.tasks ∧
      (s.control order id).session.device? h = some (order.outcome (.script t))
  registered : ∀ g ∈ s.monitor.tasks, ∀ h, s.registry.get? g.id = some h → g = h
  orphaned : ∀ g ∈ s.monitor.tasks, s.registry.get? g.id = none →
    ∀ later, (∀ entry ∈ later, ¬ (loader entry.1).Provides entry.2 g.id) →
      (s.after loader later).Orphan g

theorem Consistent.after {loader : Files → Loader} {s : Session}
    (hs : s.Consistent) (hl : ∀ files, (loader files).MakesTasks)
    (history : List (Files × String)) :
    (s.after loader history).Consistent :=
  after_induction hs fun _ hs' hstep => hs'.step (hl _) hstep

theorem Consistent.agreement {loader : Files → Loader} {s : Session}
    (hs : s.Consistent) (hl : ∀ files, (loader files).MakesTasks) :
    s.Agreement loader := by
  have hregistered : ∀ g ∈ s.monitor.tasks, ∀ h,
      s.registry.get? g.id = some h → g = h := by
    intro g hg h hget
    rcases hs.settled hg with hreg | horphan
    · rw [hreg] at hget
      cases hget
      rfl
    · rw [horphan.unregistered] at hget
      cases hget
  refine ⟨hs.distinct, ?watched, ?obeyed, hregistered, ?orphaned⟩
  case watched =>
    intro id h t hget ht
    refine ⟨hs.watched hget ht, ?_⟩
    rintro g hg rfl
    exact hregistered g hg h hget
  case obeyed =>
    intro order id h t hfind
    obtain ⟨hget, ht⟩ := find?_eq_some_iff.mp hfind
    rw [control_session order hfind]
    refine ⟨hs.watched hget ht, ?_⟩
    rw [device?_put ht, if_pos rfl]
  case orphaned =>
    intro g hg hget later hnot
    rcases hs.settled hg with hreg | horphan
    · rw [hget] at hreg
      cases hreg
    · exact horphan.after hs.sound hl hnot

/-- Registry and monitor agree after every history that starts without scripts
and takes them from folders. -/
theorem agreement_after_ofFolders {s : Session} (hs : s.Initial)
    (folder : Lane → ScriptFolder) (suffix : String)
    (history : List (Files × String)) :
    (s.after (.ofFolders folder suffix) history).Agreement
      (.ofFolders folder suffix) := by
  have hl := Loader.makesTasks_ofFolders folder suffix
  exact (hs.consistent.after hl history).agreement hl

/-- A script that is loaded, stopped, and loaded again when its file is gone. -/
def lostReload : List (Files × String) :=
  let written :=
    FileTree.ofEntries [("scripts/echo.dsh", some "hello".toUTF8)]
  let deleted := written.delete "scripts/echo.dsh"
  [(written.view, "load echo"), (written.view, "stop echo"),
    (deleted.view, "load echo")]

/-- The task of a lost reload is an orphan. -/
theorem agreement_after_lostReload :
    (demo.after .standard lostReload).Agreement .standard ∧
    (demo.after .standard lostReload).Orphan ⟨"echo", 3⟩ := by
  have hafter : (demo.after .standard lostReload).Agreement .standard :=
    agreement_after_ofFolders initial_demo ({} : ScriptSettings).folder ".rb"
      lostReload
  have horphan := hafter.orphaned ⟨"echo", 3⟩ (by decide +kernel)
    (by decide +kernel) [] (List.forall_mem_nil _)
  rw [after] at horphan
  exact ⟨hafter, horphan⟩

end Session

end DeviceShell
