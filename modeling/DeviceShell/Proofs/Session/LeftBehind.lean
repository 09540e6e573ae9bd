import Mathlib.Data.List.Induction
import DeviceShell.Proofs.Session.Agreement

/-!
# Tasks left behind by a failed load

A load that fails has taken its predecessor out of service already. Whether the
monitor still shows the predecessor depends on one thing, whether it was ready
when the load came: a ready one is no longer watched, and one that had been
stopped keeps its place. So the list of tasks can hold an id that nothing is
registered under.

`LeftBehind` says how a task gets there and that it is the only way:
`registered_or_leftBehind` tells the tasks that are shown apart, for every
history and whatever was registered at its start. That nothing unregistered is
ever shown would be the simpler statement, and stopping a script before its file
is lost is enough to refute it.
-/

namespace DeviceShell

namespace Loader

/-- A line is a load of the given base name that the loader cannot fulfil. -/
def Refuses (l : Loader) (line base : String) : Prop :=
  ∃ name args lane failure,
    Command.classify (Text.trimmed line) = .ok (.load name args) ∧
    name ≠ "" ∧ l.select name = (lane, base) ∧
    l.create lane base args = .error failure

end Loader

namespace Session

/-! ## How a task comes to be shown without a registration -/

/-- What is still shown when a base name has been taken out of service is
registered, or was an orphan before, or is the stopped task of that name. -/
theorem Settled.of_retired {s s' : Session} {base : String} {g : Handle}
    (hs : s.Settled) (hretired : Retired s base s')
    (hg : g ∈ s'.monitor.tasks) :
    s'.registry.get? g.id = some g ∨ s.Orphan g ∨
      g.id = base ∧ ∃ t, s.find? g.id = some (g, .script t) ∧
      t.state = .stopped := by
  obtain ⟨hold, hunready⟩ := (hretired.mem_tasks hs.sound).mp hg
  rcases hs.settled hold with hreg | horphan
  · by_cases hid : g.id = base
    · obtain ⟨t, ht⟩ := hs.script hold
      have hfind := find?_eq_some_iff.mpr ⟨hreg, ht⟩
      have hready := hunready hid g _ (hid ▸ hfind)
      exact .inr (.inr ⟨hid, t, hfind, ScriptTask.stopped_of_not_ready hready⟩)
    · refine .inl ?_
      cases hretired with
      | absent => exact hreg
      | unready | ready =>
          rw [get?_unregister, if_neg (Ne.symm hid)]
          exact hreg
  · exact .inr (.inl horphan)

/-- How a task can come to be shown after a line: it is registered, or it was an
orphan before and the line provides nothing under its id, or it had been stopped
and the load of its id has just failed. -/
inductive Shown (loader : Loader) (s : Session) (line : String) (s' : Session)
    (g : Handle) : Prop where
  | registered (hreg : s'.registry.get? g.id = some g) :
      Shown loader s line s' g
  | orphan (horphan : s.Orphan g) (hnot : ¬ loader.Provides line g.id) :
      Shown loader s line s' g
  | lost {t} (hrefuses : loader.Refuses line g.id)
      (hfind : s.find? g.id = some (g, .script t))
      (hstopped : t.state = .stopped) : Shown loader s line s' g

/-- A line that leaves both stores as they were shows what was shown. -/
theorem Settled.shown_of_same {loader : Loader} {s s' : Session} {line : String}
    {g : Handle} (hs : s.Settled) (hg : g ∈ s.monitor.tasks)
    (hsame : s'.registry = s.registry) (hnot : ¬ loader.Provides line g.id) :
    Shown loader s line s' g := by
  rcases hs.settled hg with hreg | horphan
  · exact .registered (by rw [hsame, hreg])
  · exact .orphan horphan hnot

/-- A load for which there is a device ends with that device registered, and
with nothing else shown under its id. -/
theorem Step.registered_of_provides {loader : Loader} {s s' : Session}
    {line : String} {g : Handle} (hstep : Step loader s line s')
    (hl : loader.MakesTasks) (hprovides : loader.Provides line g.id)
    (hg : g ∈ s'.monitor.tasks) : s'.registry.get? g.id = some g := by
  obtain ⟨name, args, lane, made, hread, hname, hselect, hcreate⟩ := hprovides
  cases hstep with
  | unread hread' =>
      rw [hread] at hread'
      cases hread'
  | read hread' heffect =>
      rw [hread] at hread'
      cases hread'
      cases heffect with
      | nameless => exact absurd rfl hname
      | refused _ hselect' hcreate' =>
          rw [hselect] at hselect'
          cases hselect'
          rw [hcreate] at hcreate'
          cases hcreate'
      | loaded _ hselect' hcreate' =>
          rw [hselect] at hselect'
          cases hselect'
          rw [hcreate] at hcreate'
          cases hcreate'
          obtain ⟨t, hmade, hid⟩ := hl hcreate
          rw [hmade] at hg ⊢
          rcases mem_adopt.mp hg with ⟨-, hne⟩ | rfl
          · exact absurd hid.symm hne
          · rw [get?_adopt]
            exact if_pos rfl

theorem Settled.shown_step {loader : Loader} {s s' : Session} {line : String}
    {g : Handle} (hs : s.Settled) (hl : loader.MakesTasks)
    (hstep : Step loader s line s') (hg : g ∈ s'.monitor.tasks) :
    Shown loader s line s' g := by
  by_cases hprovides : loader.Provides line g.id
  · exact .registered (hstep.registered_of_provides hl hprovides hg)
  cases hstep with
  | unread => exact hs.shown_of_same hg rfl hprovides
  | read hread heffect =>
      cases heffect with
      | exit | devices | tasks | help | unrecognized | nameless | unheard
      | missing | ordered
      | served => exact hs.shown_of_same hg rfl hprovides
      | @refused name args lane _ failure _ hname hselect hcreate hretired =>
          rcases hs.of_retired hretired hg with
            hreg | horphan | ⟨rfl, t, hfind, hstopped⟩
          · exact .registered hreg
          · exact .orphan horphan hprovides
          · exact .lost ⟨name, args, lane, failure, hread, hname, hselect,
              hcreate⟩ hfind hstopped
      | @loaded name args lane base made s₁ hname hselect hcreate hretired =>
          obtain ⟨t, hmade, rfl⟩ := hl hcreate
          have hother : g.id ≠ t.id := by
            intro heq
            rw [heq] at hprovides
            exact hprovides ⟨name, args, lane, made, hread, hname,
              hselect, hcreate⟩
          rw [hmade] at hg ⊢
          rcases mem_adopt.mp hg with ⟨hold, -⟩ | rfl
          · rcases hs.of_retired hretired hold with hreg | horphan | ⟨heq, -⟩
            · refine .registered ?_
              rw [get?_adopt]
              exact (if_neg (Ne.symm hother)).trans hreg
            · exact .orphan horphan hprovides
            · exact absurd heq hother
          · exact absurd rfl hother

/-! ## Histories -/

/-- A history has left a task behind: its id led to it, and it had been stopped,
when a load of the id failed; and no load of the id has succeeded since. -/
structure LeftBehind (loader : Files → Loader) (s : Session)
    (history : List (Files × String)) (g : Handle) : Prop where
  orphan : (s.after loader history).Orphan g
  cause : ∃ earlier files line later,
    history = earlier ++ (files, line) :: later ∧
    (loader files).Refuses line g.id ∧
    (∃ t, (s.after loader earlier).find? g.id = some (g, .script t) ∧
      t.state = .stopped) ∧
    ∀ entry ∈ later, ¬ (loader entry.1).Provides entry.2 g.id

theorem Settled.after {loader : Files → Loader} {s : Session} (hs : s.Settled)
    (hl : ∀ files, (loader files).MakesTasks)
    (history : List (Files × String)) :
    (s.after loader history).Settled :=
  after_induction hs fun _ hs' hstep => hs'.step (hl _) hstep

/-- A task that has been left behind stays so until its id is provided. -/
theorem LeftBehind.concat {loader : Files → Loader} {s : Session} {g : Handle}
    {past : List (Files × String)} {files : Files} {line : String}
    (hleft : LeftBehind loader s past g)
    (horphan : (s.after loader (past ++ [(files, line)])).Orphan g)
    (hnot : ¬ (loader files).Provides line g.id) :
    LeftBehind loader s (past ++ [(files, line)]) g := by
  obtain ⟨earlier, files', line', later, rfl, hrefuses, hstopped, hlater⟩ :=
    hleft.cause
  refine ⟨horphan, earlier, files', line', later ++ [(files, line)], ?_,
    hrefuses, hstopped, ?_⟩
  · rw [List.append_assoc, List.cons_append]
  · intro entry hentry
    rcases List.mem_append.mp hentry with hold | hnew
    · exact hlater entry hold
    · rw [List.mem_singleton] at hnew
      subst hnew
      exact hnot

theorem registered_or_leftBehind {loader : Files → Loader} {s : Session}
    (hs : s.Sound) (hidle : s.monitor.tasks = [])
    (hl : ∀ files, (loader files).MakesTasks)
    (history : List (Files × String)) :
    ∀ g ∈ (s.after loader history).monitor.tasks,
      (s.after loader history).registry.get? g.id = some g ∨
      LeftBehind loader s history g := by
  have hsettled := (Settled.of_idle hs hidle).after hl
  induction history using List.reverseRecOn with
  | nil =>
      intro g hg
      rw [after, hidle] at hg
      cases hg
  | append_singleton past entry ih =>
      obtain ⟨files, line⟩ := entry
      intro g hg
      have hstep := step_after loader s past files line
      rcases (hsettled (past ++ [(files, line)])).settled hg with hreg | horphan
      · exact .inl hreg
      refine .inr ?_
      cases (hsettled past).shown_step (hl files) hstep hg with
      | registered hreg =>
          rw [horphan.unregistered] at hreg
          cases hreg
      | orphan hwas hnot =>
          rcases ih g hwas.watched with hreg | hleft
          · rw [hwas.unregistered] at hreg
            cases hreg
          · exact hleft.concat horphan hnot
      | lost hrefuses hfind hstopped =>
          exact ⟨horphan, past, files, line, [], rfl, hrefuses,
            ⟨_, hfind, hstopped⟩, List.forall_mem_nil _⟩

/-- What the tasks shown after a history have to do with the registry. A task
that is shown is the script its id leads to, or it has been left behind. A load
that fails then leaves its base name unregistered, and the name is shown
afterwards if it was before and nothing ready was registered under it. -/
structure Accounted (loader : Files → Loader) (s : Session)
    (history : List (Files × String)) : Prop where
  shown : ∀ g ∈ (s.after loader history).monitor.tasks,
    (∃ t, (s.after loader history).find? g.id = some (g, .script t)) ∨
      LeftBehind loader s history g
  failed : ∀ files name args lane base failure, name ≠ "" →
    (loader files).select name = (lane, base) →
    ((loader files).load (s.after loader history) name args).result =
      .error failure →
    ((loader files).load (s.after loader history) name
      args).session.registry.get? base = none ∧
      (base ∈
        ((loader files).load (s.after loader history) name
          args).session.monitor.ids ↔
        base ∈ (s.after loader history).monitor.ids ∧
          ∀ h d, (s.after loader history).find? base = some (h, d) →
            d.ready = false)

/-- Whatever is registered at the start, every task that is shown is accounted
for after every history that takes its scripts from folders. -/
theorem accounted_after_ofFolders {s : Session} (hs : s.Sound)
    (hidle : s.monitor.tasks = []) (folder : Lane → ScriptFolder)
    (suffix : String) (history : List (Files × String)) :
    s.Accounted (.ofFolders folder suffix) history := by
  have hl := Loader.makesTasks_ofFolders folder suffix
  have hsettled := (Settled.of_idle hs hidle).after hl history
  refine ⟨?shown, ?failed⟩
  case shown =>
    intro g hg
    rcases registered_or_leftBehind hs hidle hl history g hg with hreg | hleft
    · obtain ⟨t, ht⟩ := hsettled.script hg
      exact .inl ⟨t, find?_eq_some_iff.mpr ⟨hreg, ht⟩⟩
    · exact .inr hleft
  case failed =>
    intro files name args lane base failure hname hselect hfailed
    have hretired := retired_of_load hname hselect hfailed
    exact ⟨hretired.unregistered hsettled.sound,
      hretired.mem_ids hsettled.sound⟩

/-- The task of a lost reload is accounted for, as one that was left behind. -/
theorem accounted_after_lostReload :
    demo.Sound ∧ demo.monitor.tasks = [] ∧
    demo.Accounted .standard lostReload ∧
    LeftBehind .standard demo lostReload ⟨"echo", 3⟩ := by
  have hsound := initial_demo.sound
  have hall : demo.Accounted .standard lostReload :=
    accounted_after_ofFolders hsound rfl ({} : ScriptSettings).folder ".rb"
      lostReload
  refine ⟨hsound, rfl, hall, ?_⟩
  rcases hall.shown ⟨"echo", 3⟩ (by decide +kernel) with ⟨t, hfind⟩ | hleft
  · obtain ⟨hget, -⟩ := find?_eq_some_iff.mp hfind
    exact absurd hget (by decide +kernel)
  · exact hleft

/-- Not everything that is shown is registered, and a load that fails can leave
its base name shown: stopping a script before a reload that fails is enough. -/
theorem exists_shown_unregistered :
    (¬ ∀ (s : Session) (folder : Lane → ScriptFolder) (suffix : String)
        (history : List (Files × String)), s.Sound → s.monitor.tasks = [] →
      ∀ id ∈ (s.after (.ofFolders folder suffix) history).monitor.ids,
        (s.after (.ofFolders folder suffix) history).registry.contains id =
          true) ∧
    ¬ ∀ (s : Session) (folder : Lane → ScriptFolder) (suffix : String)
        (history : List (Files × String)) (files : Files) (name : String)
        (args : List String) (lane : Lane) (base : String) (failure : Failure),
      s.Sound → s.monitor.tasks = [] → name ≠ "" →
      (Loader.ofFolders folder suffix files).select name = (lane, base) →
      ((Loader.ofFolders folder suffix files).load
        (s.after (.ofFolders folder suffix) history) name args).result =
          .error failure →
      base ∉ ((Loader.ofFolders folder suffix files).load
        (s.after (.ofFolders folder suffix) history) name
          args).session.monitor.ids := by
  have hsound := initial_demo.sound
  constructor
  · intro hall
    have hregistered := hall demo ({} : ScriptSettings).folder ".rb" lostReload
      hsound rfl "echo" (by decide +kernel)
    exact absurd hregistered (by decide +kernel)
  · intro hall
    have hgone := hall demo ({} : ScriptSettings).folder ".rb"
      (lostReload.take 2) (fun _ => none) "echo" [] .primary "echo"
      (.script (.notFound "scripts/echo.dsh")) hsound rfl (by decide) rfl rfl
    exact absurd hgone (by decide +kernel)

end Session

end DeviceShell
