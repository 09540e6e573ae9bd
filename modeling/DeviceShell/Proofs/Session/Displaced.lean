import DeviceShell.Proofs.Session.Agreement

/-!
# Instances that have lost their registration

An id means one instance after another: a load puts a new one in the place of
the old, and a load that fails leaves the place empty. What was there before is
still in the inventory, and somebody else may still hold it. `Displaced` says
that it does no harm there: it does not run, and no line can start it again.

Two things carry this. An instance leaves the registry only with a load of its
id, which tells it to stop unless it is stopped already (`Retired`); and nothing
reaches a device but through the registry, where an instance that has been
displaced never comes back, since a load only registers what it has just made.
The devices have to be such as obey, so the statements are about sessions in
which everything registered can run (`Operable`).
-/

namespace DeviceShell

/-! ## Devices at rest -/

namespace Device

/-- The device is of a kind that is started and stopped. -/
def CanRun : Device → Prop
  | .property _ | .script _ => True
  | .plain _ | .rig _ => False

instance : DecidablePred CanRun
  | .property _ | .script _ => .isTrue trivial
  | .plain _ | .rig _ => .isFalse not_false

/-- The device can run and has been stopped, or was never started if it is a
property device. A script that was only loaded is not at rest. -/
def AtRest : Device → Prop
  | .property d => d.running = false
  | .script t => t.state = .stopped
  | .plain _ | .rig _ => False

theorem CanRun.atRest_stopped {d : Device} (h : d.CanRun) :
    d.stopped.AtRest := by
  cases d with
  | property | script => rfl
  | plain | rig => cases h

theorem CanRun.atRest_of_not_ready {d : Device} (h : d.CanRun)
    (hready : d.ready = false) :
    d.AtRest := by
  cases d with
  | property => cases hready
  | script => exact ScriptTask.stopped_of_not_ready hready
  | plain | rig => cases h

theorem canRun_outcome (order : Lifecycle) (d : Device) :
    (order.outcome d).CanRun ↔ d.CanRun := by
  cases d <;> cases order <;> rfl

theorem Served.canRun_iff {d d' : Device} (h : d.Served d') :
    d'.CanRun ↔ d.CanRun := by
  cases h <;> rfl

end Device

namespace Session

/-- The session has a device at the place of the handle, and it is at rest. -/
def AtRest (s : Session) (h : Handle) : Prop :=
  ∃ d, s.device? h = some d ∧ d.AtRest

/-- Everything registered can run. -/
def Operable (s : Session) : Prop :=
  ∀ id h d, s.find? id = some (h, d) → d.CanRun

namespace Operable

theorem of_devices {s : Session} (hs : ∀ d ∈ s.devices, d.CanRun) :
    s.Operable :=
  fun _ _ _ hfind => hs _ (mem_devices_of_find? hfind)

theorem put {s : Session} {id : String} {h : Handle} {d d' : Device}
    (ho : s.Operable) (hfind : s.find? id = some (h, d))
    (hkind : d'.CanRun ↔ d.CanRun) : (s.put h d').Operable := by
  intro id' g e hfind'
  obtain ⟨hget, he⟩ := find?_eq_some_iff.mp hfind'
  obtain ⟨-, hd⟩ := find?_eq_some_iff.mp hfind
  rw [device?_put hd] at he
  split at he
  · cases he
    exact hkind.mpr (ho id h d hfind)
  · exact ho id' g e (find?_eq_some_iff.mpr ⟨hget, he⟩)

theorem unregister {s : Session} (ho : s.Operable) (base : String) :
    (s.unregister base).session.Operable := by
  intro id h d hfind
  obtain ⟨hget, hd⟩ := find?_eq_some_iff.mp hfind
  rw [get?_unregister] at hget
  split at hget
  · cases hget
  · exact ho id h d (find?_eq_some_iff.mpr ⟨hget, hd⟩)

theorem retired {s s' : Session} {base : String} (ho : s.Operable)
    (hretired : Retired s base s') : s'.Operable := by
  cases hretired with
  | absent => exact ho
  | unready => exact ho.unregister base
  | @ready h d hfind =>
      have hunwatched : (s.unwatch h.id).session.Operable := ho
      have hfind' : (s.unwatch h.id).session.find? base = some (h, d) := hfind
      exact (hunwatched.put hfind' (Device.canRun_outcome .stop d)).unregister
        base

theorem adopt {s : Session} {d : Device} (ho : s.Operable) (hs : s.Sound)
    (hd : d.CanRun) :
    (s.adopt d).session.Operable := by
  intro id h e hfind
  obtain ⟨hget, he⟩ := find?_eq_some_iff.mp hfind
  rw [get?_adopt] at hget
  change (s.make d).1.device? h = some e at he
  split at hget
  · cases hget
    rw [device?_make_self] at he
    cases he
    exact hd
  · obtain ⟨-, e', he', -⟩ := hs.registered hget
    rw [device?_make he'] at he
    cases he
    exact ho id h e (find?_eq_some_iff.mpr ⟨hget, he'⟩)

theorem step {loader : Loader} {s s' : Session} {line : String}
    (ho : s.Operable) (hs : s.Sound) (hl : loader.MakesTasks)
    (hstep : Step loader s line s') : s'.Operable := by
  cases hstep with
  | unread => exact ho
  | read _ heffect =>
      cases heffect with
      | exit | devices | tasks | help | unrecognized | nameless | unheard
      | missing => exact ho
      | refused _ _ _ hretired => exact ho.retired hretired
      | loaded _ _ hcreate hretired =>
          obtain ⟨t, hmade, -⟩ := hl hcreate
          rw [hmade]
          exact (ho.retired hretired).adopt (hs.retired hretired) trivial
      | @ordered order _ _ d hfind =>
          exact ho.put hfind (Device.canRun_outcome order d)
      | served hfind hserved => exact ho.put hfind hserved.canRun_iff

end Operable

/-! ## Displaced instances -/

/-- An instance that is not what its id means: it is at rest. -/
structure Displaced (s : Session) (g : Handle) : Prop where
  displaced : s.registry.get? g.id ≠ some g
  held : s.Holds g
  atRest : s.AtRest g

/-- A new instance is none of those there were before. -/
theorem Holds.ne_make {s : Session} {g : Handle} (hg : s.Holds g) (d : Device) :
    g ≠ (s.make d).2 := by
  obtain ⟨e, he, -⟩ := hg
  have hlt := lt_of_device? he
  rintro rfl
  exact Nat.lt_irrefl _ hlt

namespace Displaced

theorem put {s : Session} {g h : Handle} {d d' : Device} {id : String}
    (hg : s.Displaced g) (hs : s.Sound) (hfind : s.find? id = some (h, d))
    (hid : d'.id = d.id) :
    (s.put h d').Displaced g := by
  obtain ⟨hget, hd⟩ := find?_eq_some_iff.mp hfind
  have hne : g ≠ h := by
    rintro rfl
    obtain ⟨hkey, -⟩ := hs.registered hget
    rw [← hkey] at hget
    exact hg.displaced hget
  obtain ⟨e, he, hrest⟩ := hg.atRest
  refine ⟨hg.displaced, hg.held.put hd hid, e, ?_, hrest⟩
  rw [hs.device?_put_of_ne hfind hg.held hne, he]

theorem unregister {s : Session} {g : Handle} (hg : s.Displaced g)
    (base : String) :
    (s.unregister base).session.Displaced g := by
  refine ⟨?_, hg.held, hg.atRest⟩
  rw [get?_unregister]
  split
  · exact (Option.some_ne_none g).symm
  · exact hg.displaced

theorem retired {s s' : Session} {g : Handle} {base : String}
    (hg : s.Displaced g) (hs : s.Sound) (hretired : Retired s base s') :
    s'.Displaced g := by
  cases hretired with
  | absent => exact hg
  | unready => exact hg.unregister base
  | @ready h d hfind =>
      have hunwatched : (s.unwatch h.id).session.Displaced g :=
        ⟨hg.displaced, hg.held, hg.atRest⟩
      have hfind' : (s.unwatch h.id).session.find? base = some (h, d) := hfind
      have hsilent :=
        hunwatched.put (hs.unwatch h.id) hfind' (Device.id_stopped d)
      exact hsilent.unregister base

theorem adopt {s : Session} {g : Handle} (hg : s.Displaced g) (d : Device) :
    (s.adopt d).session.Displaced g := by
  obtain ⟨e, he, hrest⟩ := hg.atRest
  refine ⟨?_, hg.held.make d, e, device?_make he d, hrest⟩
  rw [get?_adopt]
  split
  · intro heq
    exact hg.held.ne_make d (Option.some.inj heq).symm
  · exact hg.displaced

/-- Once displaced, always displaced: no line brings an instance back or starts
it. -/
theorem step {loader : Loader} {s s' : Session} {g : Handle} {line : String}
    (hg : s.Displaced g) (hs : s.Sound) (hstep : Step loader s line s') :
    s'.Displaced g := by
  cases hstep with
  | unread => exact hg
  | read _ heffect =>
      cases heffect with
      | exit => exact ⟨hg.displaced, hg.held, hg.atRest⟩
      | devices | tasks | help | unrecognized | nameless | unheard | missing =>
          exact hg
      | refused _ _ _ hretired => exact hg.retired hs hretired
      | loaded _ _ _ hretired => exact (hg.retired hs hretired).adopt _
      | @ordered order _ _ d hfind =>
          exact hg.put hs hfind (Device.id_outcome order d)
      | served hfind hserved => exact hg.put hs hfind hserved.id_eq

end Displaced

/-! ## How an instance is displaced -/

/-- Taking a base name out of service displaces the instance it meant and
leaves all others registered. -/
theorem Retired.registered_or_displaced {s s' : Session} {g : Handle}
    {base : String} (hretired : Retired s base s') (hs : s.Sound)
    (ho : s.Operable) (hreg : s.registry.get? g.id = some g) :
    s'.registry.get? g.id = some g ∨ s'.Displaced g := by
  obtain ⟨-, hheld⟩ := hs.registered hreg
  cases hretired with
  | absent => exact .inl hreg
  | @unready h d hfind hready =>
      obtain ⟨hget, hd⟩ := find?_eq_some_iff.mp hfind
      by_cases hid : base = g.id
      · subst hid
        rw [hreg] at hget
        cases hget
        refine .inr ⟨?_, hheld, d, hd,
          (ho _ _ _ hfind).atRest_of_not_ready hready⟩
        rw [get?_unregister, if_pos rfl]
        exact (Option.some_ne_none g).symm
      · refine .inl ?_
        rw [get?_unregister, if_neg hid, hreg]
  | @ready h d hfind hready =>
      obtain ⟨hget, hd⟩ := find?_eq_some_iff.mp hfind
      by_cases hid : base = g.id
      · subst hid
        rw [hreg] at hget
        cases hget
        have hd' : (s.unwatch g.id).session.device? g = some d := hd
        have hstopped : ((s.unwatch g.id).session.put g d.stopped).device? g =
            some d.stopped := by
          rw [device?_put hd', if_pos rfl]
        have hheld' : (s.unwatch g.id).session.Holds g := hheld
        refine .inr ⟨?_, hheld'.put hd' (Device.id_stopped d),
          d.stopped, hstopped, (ho _ _ _ hfind).atRest_stopped⟩
        rw [get?_unregister, if_pos rfl]
        exact (Option.some_ne_none g).symm
      · refine .inl ?_
        rw [get?_unregister, if_neg hid]
        exact hreg

/-- Whatever line is interpreted, a registered instance is still registered
afterwards or has been displaced. -/
theorem Step.registered_or_displaced {loader : Loader} {s s' : Session}
    {g : Handle} {line : String} (hstep : Step loader s line s') (hs : s.Sound)
    (ho : s.Operable) (hl : loader.MakesTasks)
    (hreg : s.registry.get? g.id = some g) :
    s'.registry.get? g.id = some g ∨ s'.Displaced g := by
  cases hstep with
  | unread => exact .inl hreg
  | read _ heffect =>
      cases heffect with
      | exit | devices | tasks | help | unrecognized | nameless | unheard
      | missing | ordered
      | served => exact .inl hreg
      | refused _ _ _ hretired =>
          exact hretired.registered_or_displaced hs ho hreg
      | loaded _ _ hcreate hretired =>
          obtain ⟨t, hmade, rfl⟩ := hl hcreate
          rw [hmade]
          rcases hretired.registered_or_displaced hs ho hreg with
            hkept | hdisplaced
          · have hne : t.id ≠ g.id := by
              intro heq
              have hnone := hretired.unregistered hs
              rw [heq, hkept] at hnone
              cases hnone
            refine .inl ?_
            rw [get?_adopt]
            exact (if_neg hne).trans hkept
          · exact .inr (hdisplaced.adopt _)

/-! ## Histories -/

/-- The instance was registered at some point of a history. -/
def Enrolled (loader : Files → Loader) (s : Session)
    (history : List (Files × String)) (g : Handle) : Prop :=
  ∃ earlier later, history = earlier ++ later ∧
    (s.after loader earlier).registry.get? g.id = some g

theorem Operable.after {loader : Files → Loader} {s : Session} (ho : s.Operable)
    (hs : s.Sound) (hl : ∀ files, (loader files).MakesTasks)
    (history : List (Files × String)) :
    (s.after loader history).Operable :=
  hs.after_induction ho fun _ hs' ho' hstep => ho'.step hs' (hl _) hstep

theorem Displaced.after {loader : Files → Loader} {s : Session} {g : Handle}
    (hg : s.Displaced g) (hs : s.Sound) (history : List (Files × String)) :
    (s.after loader history).Displaced g :=
  hs.after_induction (P := fun s => s.Displaced g) hg fun _ hs' hg' hstep =>
    hg'.step hs' hstep

theorem registered_or_displaced {loader : Files → Loader} {s : Session}
    {g : Handle} (hs : s.Sound) (ho : s.Operable)
    (hl : ∀ files, (loader files).MakesTasks)
    (hreg : s.registry.get? g.id = some g) (history : List (Files × String)) :
    (s.after loader history).registry.get? g.id = some g ∨
      (s.after loader history).Displaced g := by
  have hboth : (s.after loader history).Operable ∧
      ((s.after loader history).registry.get? g.id = some g ∨
        (s.after loader history).Displaced g) := by
    refine hs.after_induction (P := fun s => s.Operable ∧
      (s.registry.get? g.id = some g ∨ s.Displaced g)) ⟨ho, .inl hreg⟩ ?_
    rintro s s' files line - hs ⟨ho, hreg | hdisplaced⟩ hstep
    · exact ⟨ho.step hs (hl files) hstep,
        hstep.registered_or_displaced hs ho (hl files) hreg⟩
    · exact ⟨ho.step hs (hl files) hstep, .inr (hdisplaced.step hs hstep)⟩
  exact hboth.2

theorem Enrolled.registered_or_displaced {loader : Files → Loader} {s : Session}
    {g : Handle} {history : List (Files × String)}
    (hg : Enrolled loader s history g) (hs : s.Sound) (ho : s.Operable)
    (hl : ∀ files, (loader files).MakesTasks) :
    (s.after loader history).registry.get? g.id = some g ∨
      (s.after loader history).Displaced g := by
  obtain ⟨earlier, later, rfl, hreg⟩ := hg
  rw [after_append]
  exact Session.registered_or_displaced (hs.after loader earlier)
    (ho.after hs hl earlier) hl hreg later

/-- What has become of the instances that were registered in the course of a
history. One that is no longer what its id means is at rest and out of reach,
now and after everything that may follow. So of all that have ever had an id,
at most one is not at rest. -/
structure Succession (loader : Files → Loader) (s : Session)
    (history : List (Files × String)) : Prop where
  displaced : ∀ g, Enrolled loader s history g →
    (s.after loader history).registry.get? g.id ≠ some g →
    ∀ later, (s.after loader (history ++ later)).Displaced g
  unique : ∀ g h, Enrolled loader s history g → Enrolled loader s history h →
    g.id = h.id →
    ¬ (s.after loader history).AtRest g →
    ¬ (s.after loader history).AtRest h → g = h

theorem succession_after_ofFolders {s : Session} (hs : s.Sound)
    (ho : s.Operable) (folder : Lane → ScriptFolder) (suffix : String)
    (history : List (Files × String)) :
    s.Succession (.ofFolders folder suffix) history := by
  have hl := Loader.makesTasks_ofFolders folder suffix
  have hregistered : ∀ {g}, Enrolled (.ofFolders folder suffix) s history g →
      ¬ (s.after (.ofFolders folder suffix) history).AtRest g →
      (s.after (.ofFolders folder suffix) history).registry.get? g.id =
        some g := by
    intro g hg hrest
    rcases hg.registered_or_displaced hs ho hl with hreg | hdisplaced
    · exact hreg
    · exact absurd hdisplaced.atRest hrest
  refine ⟨?displaced, ?unique⟩
  case displaced =>
    intro g hg hgone later
    rcases hg.registered_or_displaced hs ho hl with hreg | hdisplaced
    · exact absurd hreg hgone
    · rw [after_append]
      exact hdisplaced.after (hs.after _ history) later
  case unique =>
    intro g h hg hh hid hgrest hhrest
    have hgreg := hregistered hg hgrest
    have hhreg := hregistered hh hhrest
    rw [hid, hhreg] at hgreg
    cases hgreg
    rfl

/-- A device that is started and then has to make way for a script of its id,
and the script, which is started and then lost to a load that fails. -/
def takenOver : List (Files × String) :=
  [(fun _ => none, "start lamp"),
    (fun _ => some (.file "hello".toUTF8), "load lamp"),
    (fun _ => none, "start lamp"), (fun _ => none, "load lamp")]

/-- Neither the device nor the script is what `lamp` means in the end, so both
are at rest whatever else is typed. -/
theorem succession_after_takenOver :
    demo.Sound ∧ demo.Operable ∧
    demo.Succession .standard takenOver ∧
    ∀ later,
      (demo.after .standard (takenOver ++ later)).Displaced ⟨"lamp", 0⟩ ∧
      (demo.after .standard (takenOver ++ later)).Displaced ⟨"lamp", 3⟩ := by
  have hsound := initial_demo.sound
  have hoperable : demo.Operable := .of_devices (by decide +kernel)
  have hall : demo.Succession .standard takenOver :=
    succession_after_ofFolders hsound hoperable ({} : ScriptSettings).folder
      ".rb" takenOver
  have hdevice : Enrolled .standard demo takenOver ⟨"lamp", 0⟩ :=
    ⟨[], takenOver, rfl, by decide +kernel⟩
  have hscript : Enrolled .standard demo takenOver ⟨"lamp", 3⟩ :=
    ⟨takenOver.take 3, takenOver.drop 3, rfl, by decide +kernel⟩
  refine ⟨hsound, hoperable, hall, fun later => ⟨?_, ?_⟩⟩
  · exact hall.displaced _ hdevice (by decide +kernel) later
  · exact hall.displaced _ hscript (by decide +kernel) later

end Session

end DeviceShell
