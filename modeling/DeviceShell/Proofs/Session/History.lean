import DeviceShell.Files.Basic
import DeviceShell.Proofs.Session.Effects
import DeviceShell.Proofs.TaskMonitor
import DeviceShell.Session.Startup

/-!
# Histories of a session

A handle is a place in the inventory together with the id of the device that is
there. Nothing in the types of a session says so, and nothing has to: devices
are never taken out and never change their ids, so a session that starts with
handles of its own devices has no others later. That is `Sound`, and every
statement about what the registry and the monitor refer to rests on it.

A history is a list of lines, each with the files there were when it was
interpreted. `after_induction` takes an invariant of steps to every history.
-/

namespace DeviceShell

namespace Session

/-- The session has a device at the place of the handle, under its id. -/
def Holds (s : Session) (h : Handle) : Prop :=
  ∃ d, s.device? h = some d ∧ d.id = h.id

/-- The registry enters handles of the session under their own ids, and the
monitor watches handles of the session. -/
structure Sound (s : Session) : Prop where
  registered : ∀ {id h}, s.registry.get? id = some h → h.id = id ∧ s.Holds h
  watched : ∀ {h}, h ∈ s.monitor.tasks → s.Holds h

theorem Holds.eq_of_serial_eq {s : Session} {g h : Handle} (hg : s.Holds g)
    (hh : s.Holds h) (hserial : g.serial = h.serial) : g = h := by
  obtain ⟨d, hd, hid⟩ := hg
  obtain ⟨e, he, hid'⟩ := hh
  rw [device?, hserial, ← device?, he] at hd
  cases hd
  obtain ⟨id, serial⟩ := g
  obtain ⟨id', serial'⟩ := h
  rw [Handle.mk.injEq]
  exact ⟨hid.symm.trans hid', hserial⟩

theorem Sound.id_of_find? {s : Session} {id : String} {h : Handle} {d : Device}
    (hs : s.Sound) (hfind : s.find? id = some (h, d)) :
    h.id = id ∧ d.id = id := by
  obtain ⟨hget, hd⟩ := find?_eq_some_iff.mp hfind
  obtain ⟨hid, e, he, hide⟩ := hs.registered hget
  rw [hd] at he
  cases he
  exact ⟨hid, hide.trans hid⟩

/-- An id is registered exactly if it leads to a device. -/
theorem Sound.contains_eq_isSome {s : Session} (hs : s.Sound) (id : String) :
    s.registry.contains id = (s.find? id).isSome := by
  rw [Registry.contains_eq_isSome, find?]
  cases hget : s.registry.get? id with
  | none => rfl
  | some g =>
      obtain ⟨-, d, hd, -⟩ := hs.registered hget
      rw [Option.bind_some, hd]
      rfl

theorem Sound.find?_congr {s s' : Session} {id : String} (hs : s.Sound)
    (hregistry : s'.registry.get? id = s.registry.get? id)
    (hdevices : ∀ g, s.Holds g → g.id = id → s'.device? g = s.device? g) :
    s'.find? id = s.find? id := by
  rw [find?, find?, hregistry]
  cases hget : s.registry.get? id with
  | none => rfl
  | some g =>
      obtain ⟨hid, hheld⟩ := hs.registered hget
      rw [Option.bind_some, Option.bind_some, hdevices g hheld hid]

/-- Changing the device that an id leads to leaves the devices of all other
handles. -/
theorem Sound.device?_put_of_ne {s : Session} {id : String} {g h : Handle}
    {d : Device} (hs : s.Sound) (hfind : s.find? id = some (h, d))
    (hg : s.Holds g) (hne : g ≠ h) (d' : Device) :
    (s.put h d').device? g = s.device? g := by
  obtain ⟨-, hd⟩ := find?_eq_some_iff.mp hfind
  obtain ⟨hid, hide⟩ := hs.id_of_find? hfind
  have hh : s.Holds h := ⟨d, hd, hide.trans hid.symm⟩
  rw [device?_put hd, if_neg]
  intro hserial
  exact hne (hg.eq_of_serial_eq hh hserial.symm)

/-- A device that is there when another state is put in somewhere is still
there, or is the one that makes way. -/
theorem Sound.device?_put_cases {s : Session} {id : String} {g h : Handle}
    {d e : Device} (hs : s.Sound) (hfind : s.find? id = some (h, d))
    (he : s.device? g = some e) (hid : e.id = g.id) (d' : Device) :
    (s.put h d').device? g = some e ∨ g = h ∧ e = d ∧
    (s.put h d').device? g = some d' := by
  obtain ⟨-, hd⟩ := find?_eq_some_iff.mp hfind
  by_cases hg : g = h
  · subst hg
    rw [hd] at he
    cases he
    exact .inr ⟨rfl, rfl, by rw [device?_put hd, if_pos rfl]⟩
  · exact .inl ((hs.device?_put_of_ne hfind ⟨e, he, hid⟩ hg d').trans he)

theorem Holds.put {s : Session} {g h : Handle} {d d' : Device} (hg : s.Holds g)
    (hd : s.device? h = some d) (hid : d'.id = d.id) :
    (s.put h d').Holds g := by
  obtain ⟨e, he, hide⟩ := hg
  by_cases hserial : h.serial = g.serial
  · refine ⟨d', ?_, ?_⟩
    · rw [device?_put hd, if_pos hserial]
    · rw [device?, ← hserial, ← device?, hd] at he
      cases he
      rw [hid, hide]
  · refine ⟨e, ?_, hide⟩
    rw [device?_put hd, if_neg hserial, he]

/-! ## New instances -/

theorem device?_make {s : Session} {g : Handle} {e : Device}
    (he : s.device? g = some e) (d : Device) :
    (s.make d).1.device? g = some e := by
  have hlt := lt_of_device? he
  rw [device?, make, Array.getElem?_push_lt hlt]
  exact (Array.getElem?_eq_getElem hlt).symm.trans he

theorem device?_make_self (s : Session) (d : Device) :
    (s.make d).1.device? (s.make d).2 = some d := by
  simp only [device?, make, Array.getElem?_push_size]

theorem Holds.make {s : Session} {g : Handle} (hg : s.Holds g) (d : Device) :
    (s.make d).1.Holds g := by
  obtain ⟨e, he, hid⟩ := hg
  exact ⟨e, device?_make he d, hid⟩

theorem holds_make_self (s : Session) (d : Device) :
    (s.make d).1.Holds (s.make d).2 :=
  ⟨d, device?_make_self s d, rfl⟩

theorem get?_adopt (s : Session) (d : Device) (id : String) :
    (s.adopt d).session.registry.get? id =
      if d.id = id then some (s.make d).2 else s.registry.get? id :=
  Registry.get?_insert s.registry (s.make d).2 id

theorem mem_adopt {s : Session} {d : Device} {g : Handle} :
    g ∈ (s.adopt d).session.monitor.tasks ↔
      g ∈ s.monitor.tasks ∧ g.id ≠ d.id ∨ g = (s.make d).2 :=
  TaskMonitor.mem_watch

theorem get?_unregister (s : Session) (id id' : String) :
    (s.unregister id).session.registry.get? id' =
      if id = id' then none else s.registry.get? id' :=
  Registry.get?_erase s.registry id id'

theorem get?_install (s : Session) (d : Device) (id : String) :
    (s.install d).session.registry.get? id =
      if d.id = id then some (s.make d).2 else s.registry.get? id :=
  Registry.get?_insert s.registry (s.make d).2 id

theorem contains_install (s : Session) (d : Device) (id : String) :
    (s.install d).session.registry.contains id =
      (decide (d.id = id) || s.registry.contains id) := by
  rw [Registry.contains_eq_isSome, Registry.contains_eq_isSome, get?_install]
  by_cases heq : d.id = id
  · rw [if_pos heq, decide_eq_true heq, Bool.true_or, Option.isSome_some]
  · rw [if_neg heq, decide_eq_false heq, Bool.false_or]

theorem Sound.find?_install {s : Session} (hs : s.Sound) (d : Device)
    (id : String) :
    (s.install d).session.find? id =
      if d.id = id then some ((s.make d).2, d) else s.find? id := by
  have hget := get?_install s d id
  split
  · next heq =>
      rw [if_pos heq] at hget
      exact find?_eq_some_iff.mpr ⟨hget, device?_make_self s d⟩
  · next hne =>
      rw [if_neg hne] at hget
      refine hs.find?_congr hget fun g ⟨e, he, _⟩ _ => ?_
      exact (device?_make he d).trans he.symm

namespace Sound

/-! ## Soundness of the operations -/

theorem empty : ({} : Session).Sound where
  registered h := by
    cases h
  watched h := by
    cases h

theorem make {s : Session} (hs : s.Sound) (d : Device) :
    (s.make d).1.Sound where
  registered hget := by
    obtain ⟨hid, hholds⟩ := hs.registered hget
    exact ⟨hid, hholds.make d⟩
  watched hmem := (hs.watched hmem).make d

theorem register {s : Session} (hs : s.Sound) {h : Handle} (hh : s.Holds h) :
    (s.register h).session.Sound where
  registered {id g} hget := by
    change (s.registry.insert h).get? id = some g at hget
    rw [Registry.get?_insert] at hget
    split at hget
    · next hid =>
        cases hget
        exact ⟨hid, hh⟩
    · exact hs.registered hget
  watched hmem := hs.watched hmem

theorem unregister {s : Session} (hs : s.Sound) (id : String) :
    (s.unregister id).session.Sound where
  registered {id' g} hget := by
    rw [get?_unregister] at hget
    split at hget
    · cases hget
    · exact hs.registered hget
  watched hmem := hs.watched hmem

theorem watch {s : Session} (hs : s.Sound) {h : Handle} (hh : s.Holds h) :
    (s.watch h).session.Sound where
  registered hget := hs.registered hget
  watched {g} hmem := by
    rcases TaskMonitor.mem_watch.mp hmem with ⟨hold, -⟩ | rfl
    · exact hs.watched hold
    · exact hh

theorem unwatch {s : Session} (hs : s.Sound) (id : String) :
    (s.unwatch id).session.Sound where
  registered hget := hs.registered hget
  watched hmem := hs.watched (TaskMonitor.mem_unwatch.mp hmem).1

theorem put {s : Session} (hs : s.Sound) {h : Handle} {d d' : Device}
    (hd : s.device? h = some d) (hid : d'.id = d.id) : (s.put h d').Sound where
  registered hget := by
    obtain ⟨hkey, hholds⟩ := hs.registered hget
    exact ⟨hkey, hholds.put hd hid⟩
  watched hmem := (hs.watched hmem).put hd hid

theorem adopt {s : Session} (hs : s.Sound) (d : Device) :
    (s.adopt d).session.Sound := by
  have hnew := holds_make_self s d
  have hwatched := (hs.make d).watch hnew
  exact hwatched.register hnew

theorem install {s : Session} (hs : s.Sound) (d : Device) :
    (s.install d).session.Sound :=
  (hs.make d).register (holds_make_self s d)

theorem retired {s s' : Session} {base : String} (hs : s.Sound)
    (hretired : Retired s base s') :
    s'.Sound := by
  cases hretired with
  | absent => exact hs
  | unready => exact hs.unregister base
  | @ready h d hfind =>
      obtain ⟨-, hd⟩ := find?_eq_some_iff.mp hfind
      have hsilent := (hs.unwatch h.id).put hd (Device.id_stopped d)
      exact hsilent.unregister base

theorem effect {loader : Loader} {s s' : Session} {command : Command}
    (hs : s.Sound) (heffect : Effect loader s command s') : s'.Sound := by
  cases heffect with
  | exit => exact ⟨hs.registered, hs.watched⟩
  | devices | tasks | help | unrecognized | nameless | unheard | missing =>
      exact hs
  | refused _ _ _ hretired => exact hs.retired hretired
  | loaded _ _ _ hretired => exact (hs.retired hretired).adopt _
  | @ordered order _ _ d hfind =>
      obtain ⟨-, hd⟩ := find?_eq_some_iff.mp hfind
      exact hs.put hd (Device.id_outcome order d)
  | served hfind hserved =>
      obtain ⟨-, hd⟩ := find?_eq_some_iff.mp hfind
      exact hs.put hd hserved.id_eq

theorem step {loader : Loader} {s s' : Session} {line : String} (hs : s.Sound)
    (hstep : Step loader s line s') : s'.Sound := by
  cases hstep with
  | unread => exact hs
  | read _ heffect => exact hs.effect heffect

end Sound

/-! ## What is left of a base name -/

theorem Retired.unregistered {s s' : Session} {base : String} (hs : s.Sound)
    (hretired : Retired s base s') : s'.registry.get? base = none := by
  cases hretired with
  | unready | ready => rw [get?_unregister, if_pos rfl]
  | absent hfind =>
      cases hget : s.registry.get? base with
      | none => rfl
      | some h =>
          obtain ⟨-, d, hd, -⟩ := hs.registered hget
          rw [find?_eq_some_iff.mpr ⟨hget, hd⟩] at hfind
          cases hfind

/-- Taking a base name out of service ends the watch over it if what was
registered under it was ready, and changes nothing else in the monitor. -/
theorem Retired.mem_tasks {s s' : Session} {base : String} (hs : s.Sound)
    (hretired : Retired s base s') {g : Handle} :
    g ∈ s'.monitor.tasks ↔ g ∈ s.monitor.tasks ∧
      (g.id = base → ∀ h d, s.find? base = some (h, d) → d.ready = false) := by
  cases hretired with
  | absent hfind =>
      refine ⟨fun hg => ⟨hg, ?_⟩, And.left⟩
      intro _ h d hfind'
      rw [hfind] at hfind'
      cases hfind'
  | @unready h d hfind hready =>
      refine ⟨fun hg => ⟨hg, ?_⟩, And.left⟩
      intro _ h' d' hfind'
      rw [hfind] at hfind'
      cases hfind'
      exact hready
  | @ready h d hfind hready =>
      obtain ⟨hid, -⟩ := hs.id_of_find? hfind
      refine TaskMonitor.mem_unwatch.trans (and_congr_right fun _ => ?_)
      rw [hid]
      refine ⟨fun hne heq => absurd heq hne, ?_⟩
      intro hunready heq
      rw [hunready heq h d hfind] at hready
      cases hready

theorem Retired.mem_ids {s s' : Session} {base : String} (hs : s.Sound)
    (hretired : Retired s base s') :
    base ∈ s'.monitor.ids ↔
      base ∈ s.monitor.ids ∧ ∀ h d, s.find? base = some (h, d) →
      d.ready = false := by
  constructor
  · intro hshown
    obtain ⟨g, hg, hid⟩ := List.mem_map.mp hshown
    obtain ⟨hold, hunready⟩ := (hretired.mem_tasks hs).mp hg
    exact ⟨List.mem_map.mpr ⟨g, hold, hid⟩, hunready hid⟩
  · rintro ⟨hshown, hunready⟩
    obtain ⟨g, hold, hid⟩ := List.mem_map.mp hshown
    have hg := (hretired.mem_tasks hs).mpr ⟨hold, fun _ => hunready⟩
    exact List.mem_map.mpr ⟨g, hg, hid⟩

/-! ## Histories -/

/-- The session after a history. -/
def after (loader : Files → Loader) (s : Session) :
    List (Files × String) → Session
  | [] => s
  | (files, line) :: rest =>
    (s.interpret (loader files) line).session.after loader rest

/-- What holds of a session and is kept by every step of a history holds after
it. -/
theorem after_induction {loader : Files → Loader} {P : Session → Prop}
    {s : Session} {history : List (Files × String)} (hstart : P s)
    (hstep : ∀ {s s' files line}, (files, line) ∈ history → P s →
      Step (loader files) s line s' → P s') : P (s.after loader history) := by
  induction history generalizing s with
  | nil => exact hstart
  | cons entry rest ih =>
      obtain ⟨files, line⟩ := entry
      have hnext :=
        hstep List.mem_cons_self hstart (step_interpret (loader files) s line)
      exact ih hnext fun hmem => hstep (List.mem_cons_of_mem _ hmem)

theorem after_append (loader : Files → Loader) (s : Session)
    (first later : List (Files × String)) :
    s.after loader (first ++ later) =
      (s.after loader first).after loader later := by
  induction first generalizing s with
  | nil => rfl
  | cons entry rest ih => exact ih _

/-- The last line of a history is a step from the session after the lines before
it. -/
theorem step_after (loader : Files → Loader) (s : Session)
    (past : List (Files × String)) (files : Files) (line : String) :
    Step (loader files) (s.after loader past) line
      (s.after loader (past ++ [(files, line)])) := by
  rw [after_append]
  exact step_interpret (loader files) (s.after loader past) line

theorem Sound.after {s : Session} (hs : s.Sound) (loader : Files → Loader)
    (history : List (Files × String)) : (s.after loader history).Sound :=
  after_induction hs fun _ hs' hstep => hs'.step hstep

/-- An invariant may rely on the soundness of the session. -/
theorem Sound.after_induction {loader : Files → Loader} {P : Session → Prop}
    {s : Session} {history : List (Files × String)} (hs : s.Sound)
    (hstart : P s)
    (hstep : ∀ {s s' files line}, (files, line) ∈ history → s.Sound → P s →
      Step (loader files) s line s' → P s') : P (s.after loader history) := by
  have hboth : (s.after loader history).Sound ∧ P (s.after loader history) := by
    refine Session.after_induction (P := fun s => s.Sound ∧ P s) ⟨hs, hstart⟩ ?_
    rintro s s' files line hmem ⟨hs, hp⟩ hline
    exact ⟨hs.step hline, hstep hmem hs hp hline⟩
  exact hboth.2

end Session

end DeviceShell
