import DeviceShell.Proofs.ScriptFolder
import DeviceShell.Proofs.Session.Failures
import DeviceShell.Proofs.Session.Frame
import DeviceShell.Settings.Scripts

/-!
# What a load replaces

A load is two steps that are easily taken for one. The predecessor is taken out
of service, which touches the monitor only if it was ready and the registry in
any case; then a task is made, or not, and only a task that was made is watched
and registered. So what a load leaves depends on three things: whether something
is registered under the base name, whether that is ready, and whether there is a
script.

`Retiring` is the first step with everything that happens on the way, and
`load_of_create_ok` and `load_of_create_error` are the second. What comes of the
two together is said by where one looks: at the base name after a success
(`Installed`) and after a failure (`Vacated`), and at everything else
(`Superseded`).
-/

namespace DeviceShell

theorem Device.Ordinary.stops {d : Device} (hd : d.Ordinary)
    {failure : Failure} :
    d.stop ≠ .error failure := by
  intro hstop
  obtain ⟨r, -, rfl, -⟩ := (takes_stop hstop).exists_rig
  exact hd

namespace Session

/-! ## Taking the predecessor out of service -/

/-- What happens when the predecessor of a load is told to stop. -/
inductive Silencing (h : Handle) (d : Device) : List Event → Prop where
  | stopped {d' events} (hstop : d.stop = .ok (d', events)) :
      Silencing h d events
  | stuck {failure} (hstop : d.stop = .error failure) :
      Silencing h d
        [.said .warning ("Failed to stop previous " ++ h.id ++ ": " ++
          failure.message)]

/-- What taking a base name out of service comes to. -/
inductive Retiring (s : Session) (base : String) : Reply Unit → Prop where
  | absent (hfind : s.find? base = none) : Retiring s base ⟨s, [], ()⟩
  | unready {h d} (hfind : s.find? base = some (h, d))
      (hready : d.ready = false) :
      Retiring s base ⟨(s.unregister base).session, [.unregistered base], ()⟩
  | ready {h d events} (hfind : s.find? base = some (h, d))
      (hready : d.ready = true) (hsilencing : Silencing h d events) :
      Retiring s base
        ⟨(((s.unwatch h.id).session.put h d.stopped).unregister base).session,
          .unwatched h.id :: .toldToStop h :: events ++ [.unregistered base],
          ()⟩

theorem silencing_silence {s : Session} {h : Handle} {d : Device}
    (hd : s.device? h = some d) :
    ∃ events, Silencing h d events ∧
      Loader.silence s h =
        ⟨s.put h d.stopped, .toldToStop h :: events, ()⟩ := by
  have hsession := silence_session hd
  rw [Loader.silence, stop, order, hd] at hsession ⊢
  cases hstop : d.stop with
  | ok r =>
      obtain ⟨d', events⟩ := r
      simp only [hstop, Reply.andThen] at hsession ⊢
      exact ⟨events, .stopped hstop, by rw [hsession, List.append_nil]⟩
  | error failure =>
      simp only [hstop, Reply.andThen] at hsession ⊢
      rw [← hsession]
      exact ⟨_, .stuck hstop, rfl⟩

theorem retire_of_absent {s : Session} {base : String}
    (hfind : s.find? base = none) :
    Loader.retire s base = ⟨s, [], ()⟩ := by
  rw [Loader.retire, hfind]

theorem retire_of_unready {s : Session} {base : String} {h : Handle}
    {d : Device} (hfind : s.find? base = some (h, d))
    (hready : d.ready = false) :
    Loader.retire s base =
      ⟨(s.unregister base).session, [.unregistered base], ()⟩ := by
  rw [Loader.retire, hfind]
  simp only [hready]
  rfl

theorem retire_of_ready {s : Session} {base : String} {h : Handle} {d : Device}
    (hfind : s.find? base = some (h, d)) (hready : d.ready = true) :
    ∃ events, Silencing h d events ∧
      Loader.retire s base =
        ⟨(((s.unwatch h.id).session.put h d.stopped).unregister base).session,
          .unwatched h.id :: .toldToStop h :: events ++ [.unregistered base],
          ()⟩ := by
  obtain ⟨-, hd⟩ := find?_eq_some_iff.mp hfind
  have hunwatched : (s.unwatch h.id).session.device? h = some d := hd
  obtain ⟨events, hsilencing, hsilence⟩ := silencing_silence hunwatched
  refine ⟨events, hsilencing, ?_⟩
  rw [Loader.retire, hfind]
  simp only [hready, if_true, Reply.andThen, hsilence]
  rfl

theorem retiring_retire (s : Session) (base : String) :
    Retiring s base (Loader.retire s base) := by
  cases hfind : s.find? base with
  | none =>
      rw [retire_of_absent hfind]
      exact .absent hfind
  | some found =>
      obtain ⟨h, d⟩ := found
      cases hready : d.ready with
      | false =>
          rw [retire_of_unready hfind hready]
          exact .unready hfind hready
      | true =>
          obtain ⟨events, hsilencing, hretire⟩ := retire_of_ready hfind hready
          rw [hretire]
          exact .ready hfind hready hsilencing

theorem Silencing.registered_not_mem {h : Handle} {d : Device}
    {events : List Event} (hsilencing : Silencing h d events) (g : Handle)
    (replaced : Bool) :
    .registered g replaced ∉ events := by
  intro hmem
  cases hsilencing with
  | stopped hstop =>
      obtain ⟨id, before, after, heq⟩ := (Device.takes_stop hstop).moved _ hmem
      cases heq
  | stuck =>
      rw [List.mem_singleton] at hmem
      cases hmem

theorem Retiring.registered_not_mem {s : Session} {base : String}
    {r : Reply Unit} (hretiring : Retiring s base r) (g : Handle)
    (replaced : Bool) :
    .registered g replaced ∉ r.events := by
  cases hretiring with
  | absent => exact List.not_mem_nil
  | unready => simp
  | ready _ _ hsilencing => simp [hsilencing.registered_not_mem g replaced]

/-- Where no rig is registered the operator does not hear of it. -/
theorem Retiring.quiet {s : Session} {base : String} {r : Reply Unit}
    (hretiring : Retiring s base r) (ho : s.Ordinary) : r.transcript = [] := by
  cases hretiring with
  | absent | unready => rfl
  | @ready h d events hfind _ hsilencing =>
      cases hsilencing with
      | stuck hstop => exact absurd hstop (ho _ _ _ hfind).stops
      | stopped hstop =>
          show Event.transcript (events ++ [.unregistered base]) = []
          rw [Event.transcript_append,
            (Device.takes_stop hstop).transcript_eq_nil]
          rfl

theorem Retiring.toldToStop_mem {s : Session} {base : String} {r : Reply Unit}
    {h : Handle} {d : Device} (hretiring : Retiring s base r)
    (hfind : s.find? base = some (h, d)) (hready : d.ready = true) :
    .toldToStop h ∈ r.events := by
  cases hretiring with
  | absent hfind' =>
      rw [hfind] at hfind'
      cases hfind'
  | unready hfind' hready' =>
      rw [hfind] at hfind'
      cases hfind'
      rw [hready] at hready'
      cases hready'
  | ready hfind' =>
      rw [hfind] at hfind'
      cases hfind'
      simp

/-! ## What is left of the session -/

theorem Retired.size_eq {s s' : Session} {base : String}
    (hretired : Retired s base s') :
    s'.devices.size = s.devices.size := by
  cases hretired with
  | absent | unready => rfl
  | ready => exact Array.size_setIfInBounds

/-- A new place is behind all that there were. -/
theorem Retired.device?_make_eq_none {s s' : Session} {base : String}
    (hretired : Retired s base s') (d : Device) :
    s.device? (s'.make d).2 = none := by
  show s.devices[s'.devices.size]? = none
  rw [hretired.size_eq]
  exact Array.getElem?_eq_none (Nat.le_refl _)

theorem Retired.eq_of_ready {s s' : Session} {base : String} {h : Handle}
    {d : Device} (hretired : Retired s base s')
    (hfind : s.find? base = some (h, d)) (hready : d.ready = true) :
    s' =
      (((s.unwatch h.id).session.put h d.stopped).unregister base).session := by
  cases hretired with
  | absent hfind' =>
      rw [hfind] at hfind'
      cases hfind'
  | unready hfind' hready' =>
      rw [hfind] at hfind'
      cases hfind'
      rw [hready] at hready'
      cases hready'
  | ready hfind' =>
      rw [hfind] at hfind'
      cases hfind'
      rfl

theorem Retired.stopped_of_ready {s s' : Session} {base : String} {h : Handle}
    {d : Device} (hretired : Retired s base s')
    (hfind : s.find? base = some (h, d)) (hready : d.ready = true) :
    s'.device? h = some d.stopped := by
  obtain ⟨-, hd⟩ := find?_eq_some_iff.mp hfind
  have hunwatched : (s.unwatch h.id).session.device? h = some d := hd
  rw [hretired.eq_of_ready hfind hready]
  show ((s.unwatch h.id).session.put h d.stopped).device? h = some d.stopped
  rw [device?_put hunwatched, if_pos rfl]

theorem Retired.tasks_of_ready {s s' : Session} {base : String} {h : Handle}
    {d : Device} (hs : s.Sound) (hretired : Retired s base s')
    (hfind : s.find? base = some (h, d)) (hready : d.ready = true) :
    s'.monitor.tasks = s.monitor.tasks.filter (·.id ≠ base) := by
  obtain ⟨hid, -⟩ := hs.id_of_find? hfind
  rw [hretired.eq_of_ready hfind hready, ← hid]
  rfl

theorem Retired.monitor_of_unready {s s' : Session} {base : String}
    (hretired : Retired s base s')
    (hunready : ∀ h d, s.find? base = some (h, d) → d.ready = false) :
    s'.monitor = s.monitor := by
  cases hretired with
  | absent | unready => rfl
  | ready hfind hready =>
      rw [hunready _ _ hfind] at hready
      cases hready

theorem OnlyUnder.device?_eq {s s' : Session} {base : String} {g : Handle}
    (h : OnlyUnder base s s') (hs : s.Sound) (hg : s.Holds g)
    (hne : g.id ≠ base) :
    s'.device? g = s.device? g := by
  obtain ⟨d, hd, hid⟩ := hg
  rcases h.devices g d hd hid with hsame | ⟨hbase, -⟩
  · rw [hsame, hd]
  · have hid := (hs.registered hbase).1
    exact absurd hid hne

theorem OnlyUnder.find?_eq {s s' : Session} {base id : String}
    (h : OnlyUnder base s s') (hs : s.Sound) (hne : id ≠ base) :
    s'.find? id = s.find? id := by
  refine hs.find?_congr (h.registry id hne) ?_
  rintro g hg rfl
  exact h.device?_eq hs hg hne

theorem adopt_events (s : Session) (d : Device) :
    (s.adopt d).events =
      [.watched (s.make d).2,
        .registered (s.make d).2 (s.registry.contains d.id)] :=
  rfl

/-! ## The two outcomes -/

section Load

variable {loader : Loader} {name base : String} {lane : Lane}
  {args : List String}

theorem load_of_create_error {failure : Failure} (hname : name ≠ "")
    (hselect : loader.select name = (lane, base))
    (hcreate : loader.create lane base args = .error failure) (s : Session) :
    loader.load s name args =
      ⟨(Loader.retire s base).session,
        .loading name base args.length ::
          ((Loader.retire s base).events ++ [.requested lane base args]) ++
            [.said .error failure.message],
        .error failure⟩ := by
  rw [Loader.load, if_neg (by simpa using hname), hselect]
  simp only [Loader.replace, Reply.andThen, hcreate]

theorem load_of_create_ok {made : Creation} (hname : name ≠ "")
    (hselect : loader.select name = (lane, base))
    (hcreate : loader.create lane base args = .ok made) (s : Session) :
    loader.load s name args =
      ⟨((Loader.retire s base).session.adopt made.device).session,
        .loading name base args.length ::
          ((Loader.retire s base).events ++
            .requested lane base args ::
              ((made.file.map (.scriptRead base)).toList ++
              ((Loader.retire s base).session.adopt made.device).events)) ++
            [.said .message (" -- loaded script: " ++ base)],
        .ok ()⟩ := by
  rw [Loader.load, if_neg (by simpa using hname), hselect]
  simp only [Loader.replace, Reply.andThen, hcreate, List.cons_append]

/-- A load that makes a device registers that device. -/
theorem find?_load_of_create_ok {made : Creation} (hname : name ≠ "")
    (hselect : loader.select name = (lane, base))
    (hcreate : loader.create lane base args = .ok made)
    (hid : made.device.id = base) (s : Session) :
    (loader.load s name args).session.find? base =
      some (((Loader.retire s base).session.make made.device).2,
        made.device) := by
  rw [load_of_create_ok hname hselect hcreate]
  refine find?_eq_some_iff.mpr ⟨?_, device?_make_self _ _⟩
  rw [get?_adopt, if_pos hid]

theorem told_of_create_error {failure : Failure} (hname : name ≠ "")
    (hselect : loader.select name = (lane, base))
    (hcreate : loader.create lane base args = .error failure) (s : Session) :
    (loader.load s name args).transcript =
      (Loader.retire s base).transcript ++ [(.error, failure.message)] := by
  rw [load_of_create_error hname hselect hcreate]
  show Event.transcript
    ((Loader.retire s base).events ++ [.requested lane base args] ++
    [.said .error failure.message]) = _
  rw [Event.transcript_append, Event.transcript_append]
  exact congrArg (· ++ _) (List.append_nil _)

theorem told_of_create_ok {made : Creation} (hname : name ≠ "")
    (hselect : loader.select name = (lane, base))
    (hcreate : loader.create lane base args = .ok made) (s : Session) :
    (loader.load s name args).transcript =
      (Loader.retire s base).transcript ++
        [(.message, " -- loaded script: " ++ base)] := by
  have hread : Event.transcript (made.file.map (.scriptRead base)).toList =
      [] := by
    cases made.file <;> rfl
  rw [load_of_create_ok hname hselect hcreate]
  show Event.transcript
    ((Loader.retire s base).events ++ .requested lane base args ::
    ((made.file.map (.scriptRead base)).toList ++
      ((Loader.retire s base).session.adopt made.device).events) ++
      [.said .message (" -- loaded script: " ++ base)]) = _
  rw [Event.transcript_append, Event.transcript_append, ← List.singleton_append,
    Event.transcript_append, Event.transcript_append, hread]
  exact congrArg (· ++ _) (List.append_nil _)

end Load

/-- A task is registered under the base name that was not there before. It is
the only one watched under that name, and the last of all. -/
structure Installed (s : Session) (base : String) (task : ScriptTask)
    (r : Reply (Except Failure Unit)) : Prop where
  registered : ∃ h, h.id = base ∧ s.device? h = none ∧
    r.session.find? base = some (h, .script task) ∧
    r.session.monitor.tasks = s.monitor.tasks.filter (·.id ≠ base) ++ [h]
  told : r.transcript = [(.message, " -- loaded script: " ++ base)]

/-- Nothing is registered under the base name. What was watched under
it no longer is if there was something ready to be replaced, and still
is otherwise. -/
structure Vacated (s : Session) (base : String) (failure : Failure)
    (r : Reply (Except Failure Unit)) : Prop where
  unregistered : r.session.registry.get? base = none
  unwatched : ∀ h d, s.find? base = some (h, d) → d.ready = true →
    r.session.monitor.tasks = s.monitor.tasks.filter (·.id ≠ base)
  watched : (∀ h d, s.find? base = some (h, d) → d.ready = false) →
    r.session.monitor = s.monitor
  told : r.transcript = [(.error, failure.message)]

/-- What was registered under the base name has been stopped if it was ready,
whatever came of the load. No other entry has changed, the other tasks are
watched in their order, and no entry was overwritten. -/
structure Superseded (s : Session) (base : String)
    (r : Reply (Except Failure Unit)) : Prop where
  stopped : ∀ h d, s.find? base = some (h, d) → d.ready = true →
    .toldToStop h ∈ r.events ∧ r.session.device? h = some d.stopped
  others : ∀ id, id ≠ base → r.session.find? id = s.find? id
  order : r.session.monitor.tasks.filter (·.id ≠ base) =
    s.monitor.tasks.filter (·.id ≠ base)
  inserted : ∀ h replaced, .registered h replaced ∈ r.events → replaced = false

section Load

variable {loader : Loader} {s : Session} {name base : String} {lane : Lane}
  {args : List String}

theorem vacated_of_create_error {failure : Failure} (hs : s.Sound)
    (ho : s.Ordinary) (hname : name ≠ "")
    (hselect : loader.select name = (lane, base))
    (hcreate : loader.create lane base args = .error failure) :
    Vacated s base failure (loader.load s name args) ∧
      Superseded s base (loader.load s name args) := by
  have hretired := retired_retire s base
  have hretiring := retiring_retire s base
  have honly := hretired.onlyUnder hs
  have htold := told_of_create_error hname hselect hcreate s
  rw [hretiring.quiet ho] at htold
  rw [load_of_create_error hname hselect hcreate] at htold ⊢
  constructor
  · exact ⟨hretired.unregistered hs, fun h d => hretired.tasks_of_ready hs,
      hretired.monitor_of_unready, htold⟩
  · refine ⟨fun h d hfind hready =>
        ⟨?_, hretired.stopped_of_ready hfind hready⟩,
      fun id hne => honly.find?_eq hs hne, honly.tasks, ?_⟩
    · have hstop := hretiring.toldToStop_mem hfind hready
      simp [hstop]
    · intro h replaced hmem
      simp [hretiring.registered_not_mem h replaced] at hmem

/-- The predecessor has gone by the time the new device is registered, so no
entry makes way for it. -/
theorem inserted_of_create_ok {made : Creation} (hs : s.Sound)
    (hname : name ≠ "") (hselect : loader.select name = (lane, base))
    (hcreate : loader.create lane base args = .ok made)
    (hid : made.device.id = base) :
    ∀ h replaced, .registered h replaced ∈ (loader.load s name args).events →
      replaced = false := by
  intro h replaced hmem
  have hempty := (retired_retire s base).unregistered hs
  have habsent := (retiring_retire s base).registered_not_mem h replaced
  rw [load_of_create_ok hname hselect hcreate] at hmem
  obtain ⟨-, hregistered⟩ : h =
    ((Loader.retire s base).session.make made.device).2 ∧
      replaced = (Loader.retire s base).session.registry.contains
        made.device.id := by
    simpa [adopt_events, habsent] using hmem
  rw [hregistered, Registry.contains_eq_isSome, hid, hempty]
  rfl

theorem installed_of_create_ok {made : Creation} {t : ScriptTask} (hs : s.Sound)
    (ho : s.Ordinary) (hname : name ≠ "")
    (hselect : loader.select name = (lane, base))
    (hcreate : loader.create lane base args = .ok made)
    (hmade : made.device = .script t) (hid : t.id = base) :
    Installed s base t (loader.load s name args) ∧
      Superseded s base (loader.load s name args) := by
  have hretired := retired_retire s base
  have hretiring := retiring_retire s base
  have honly := hretired.onlyUnder hs
  have hinserted := inserted_of_create_ok hs hname hselect hcreate (hmade ▸ hid)
  have hfind := find?_load_of_create_ok hname hselect hcreate (hmade ▸ hid) s
  have htold := told_of_create_ok hname hselect hcreate s
  rw [hretiring.quiet ho] at htold
  rw [load_of_create_ok hname hselect hcreate, hmade] at hinserted hfind htold ⊢
  subst hid
  constructor
  · refine ⟨⟨((Loader.retire s t.id).session.make (.script t)).2, rfl, ?_,
      hfind, ?_⟩, htold⟩
    · exact hretired.device?_make_eq_none _
    · exact congrArg
        (· ++ [((Loader.retire s t.id).session.make (.script t)).2]) honly.tasks
  · have hadopted := honly.adopt (d := .script t) rfl
    refine ⟨fun h d hfind hready => ⟨?_, ?_⟩,
      fun id hne => hadopted.find?_eq hs hne, hadopted.tasks, hinserted⟩
    · have hstop := hretiring.toldToStop_mem hfind hready
      simp [hstop]
    · exact device?_make (hretired.stopped_of_ready hfind hready) _

end Load

/-- What a load of a name comes to, whatever is registered and whatever the
files are: it succeeds exactly if the folder of the lane has a script of the
base name, and it is clear in both cases what is left. -/
theorem load_ofFolders {s : Session} (hs : s.Sound) (ho : s.Ordinary)
    (folder : Lane → ScriptFolder) (suffix : String) (files : Files)
    {name base : String} {lane : Lane} (args : List String) (hname : name ≠ "")
    (hselects : Loader.Selects suffix name lane base) :
    (((Loader.ofFolders folder suffix files).load s name args).result = .ok () ↔
      ∃ text, (folder lane).HasScript files base text) ∧
    (∀ text, (folder lane).HasScript files base text →
      Installed s base
        { id := base, path := (folder lane).path base, args := args,
          source := Text.lines text, state := .loaded }
        ((Loader.ofFolders folder suffix files).load s name args)) ∧
    (∀ failure,
      ((Loader.ofFolders folder suffix files).load s name args).result =
        .error failure →
      Vacated s base failure
        ((Loader.ofFolders folder suffix files).load s name args)) ∧
    Superseded s base
      ((Loader.ofFolders folder suffix files).load s name args) := by
  have hselect :=
    Loader.select_eq_iff (l := .ofFolders folder suffix files).mpr hselects
  have hresult := load_result hname hselect s args
  cases hcreate : (Loader.ofFolders folder suffix files).create lane
      base args with
  | error failure =>
      obtain ⟨hvacated, hsuperseded⟩ :=
        vacated_of_create_error hs ho hname hselect hcreate
      have hnone : ∀ text, ¬ (folder lane).HasScript files base text := by
        intro text hscript
        rw [Loader.create_ofFolders_eq_ok_iff.mpr ⟨text, hscript, rfl⟩]
          at hcreate
        cases hcreate
      rw [hcreate] at hresult
      refine ⟨?_, fun text hscript => absurd hscript (hnone text), ?_,
        hsuperseded⟩
      · constructor
        · intro hok
          rw [hresult] at hok
          cases hok
        · rintro ⟨text, hscript⟩
          exact absurd hscript (hnone text)
      · intro failure' hfailed
        rw [hresult] at hfailed
        cases hfailed
        exact hvacated
  | ok made =>
      obtain ⟨text, hscript, hmade⟩ :=
        Loader.create_ofFolders_eq_ok_iff.mp hcreate
      rw [hcreate] at hresult
      have hdevice : made.device =
          .script (.ofText base ((folder lane).path base) args text) := by
        rw [hmade]
      obtain ⟨hinstalled, hsuperseded⟩ :=
        installed_of_create_ok hs ho hname hselect hcreate hdevice rfl
      refine ⟨⟨fun _ => ⟨text, hscript⟩, fun _ => hresult⟩, ?_, ?_, hsuperseded⟩
      · intro text' hscript'
        rw [hscript'.unique hscript]
        exact hinstalled
      · intro failure hfailed
        rw [hresult] at hfailed
        cases hfailed

/-- A script of the secondary lane that is called like a device. -/
def lampScript : Files :=
  (FileTree.ofEntries [("scripts/lamp.rb", some "on\r\noff\n".toUTF8)]).view

/-- The device makes way for it. -/
theorem load_ofFolders_lamp :
    demo.Sound ∧ demo.Ordinary ∧
    Loader.Selects ".rb" "lamp.rb" .secondary "lamp" ∧
    Installed demo "lamp"
      { id := "lamp", path := "scripts/lamp.rb", args := ["dim"],
        source := ["on", "off"], state := .loaded }
      ((Loader.standard lampScript).load demo "lamp.rb" ["dim"]) ∧
    Superseded demo "lamp"
      ((Loader.standard lampScript).load demo "lamp.rb" ["dim"]) := by
  have hsound := initial_demo.sound
  have hordinary : demo.Ordinary := .of_devices (by decide +kernel)
  have hselects : Loader.Selects ".rb" "lamp.rb" .secondary "lamp" :=
    .secondary (by decide) (by decide)
  obtain ⟨-, hinstalled, -, hsuperseded⟩ := load_ofFolders hsound hordinary
    ({} : ScriptSettings).folder ".rb" lampScript ["dim"] (by decide) hselects
  have hbase : ScriptFolder.IsBaseName "lamp" :=
    ScriptFolder.accepts_iff.mp (by decide +kernel)
  have hpath : (({} : ScriptSettings).folder .secondary).path "lamp" =
      "scripts/lamp.rb" := by decide +kernel
  have hlines : Text.lines "on\r\noff\n" = ["on", "off"] := by decide +kernel
  have hfile : lampScript ((({} : ScriptSettings).folder .secondary).path
      "lamp") = some (.file "on\r\noff\n".toUTF8) := by
    rw [hpath]
    rfl
  have htask := hinstalled "on\r\noff\n"
    ⟨hbase, "on\r\noff\n".toUTF8, hfile, by decide +kernel⟩
  rw [hpath, hlines] at htask
  exact ⟨hsound, hordinary, hselects, htask, hsuperseded⟩

end Session

end DeviceShell
