import DeviceShell.Proofs.Session.Replacement

/-!
# The calls of a load, in order

A load works with four others: the monitor, the registry, the device that has to
go, and the lane that makes a new one. What it asks of them is told here as a
list, in the order in which it is asked. Most of the list is settled before
anything is asked: whether something is registered under the base name, and
whether that is ready, decide on what goes first, and the name decides on the
lane. The answer of the lane decides on the rest, and the answer of the old
device decides on nothing.

That last point is a statement about two loads and is made as one.
Where the device refuses to stop, everything is as it would have been
with one that stops, but for a warning that is told first and for the
device, which is left as it was.
-/

namespace DeviceShell

/-- What can be asked in the course of a load. -/
inductive Loader.Call where
  | unwatch (id : String)
  | stop (device : Handle)
  | start (device : Handle)
  | unregister (id : String)
  | create (lane : Lane) (base : String) (args : List String)
  | watch (task : Handle)
  | register (device : Handle)
  deriving DecidableEq

/-- What was asked, if the event is that something was asked. -/
def Event.call? : Event → Option Loader.Call
  | .unwatched id => some (.unwatch id)
  | .toldToStop h => some (.stop h)
  | .toldToStart h => some (.start h)
  | .unregistered id => some (.unregister id)
  | .requested lane base args => some (.create lane base args)
  | .watched h => some (.watch h)
  | .registered h _ => some (.register h)
  | _ => none

/-- What was asked, in order. -/
def Event.calls (events : List Event) : List Loader.Call :=
  events.filterMap Event.call?

theorem Event.calls_append (events more : List Event) :
    Event.calls (events ++ more) = Event.calls events ++ Event.calls more :=
  List.filterMap_append

namespace Session

/-- What is asked so that nothing is registered under the base name any more. -/
def partingCalls (s : Session) (base : String) : List Loader.Call :=
  match s.find? base with
  | none => []
  | some (h, d) =>
    (if d.ready then [.unwatch base, .stop h] else []) ++ [.unregister base]

/-- What the operator is told on that occasion: a ready device may
refuse to stop. -/
def partingWords (s : Session) (base : String) : List (Severity × String) :=
  match s.find? base with
  | none => []
  | some (_, d) =>
    if d.ready then
      match d.stop with
      | .ok _ => []
      | .error failure =>
        [(.warning, "Failed to stop previous " ++ base ++ ": " ++
          failure.message)]
    else []

/-- What is asked when the lane has answered: a new device is watched
and registered. -/
def arrivalCalls (s : Session) : Except Failure Creation → List Loader.Call
  | .ok made =>
    [.watch (s.make made.device).2, .register (s.make made.device).2]
  | .error _ => []

/-- What the operator is told in the end. -/
def closingWords (base : String) : Except Failure Creation → Severity × String
  | .ok _ => (.message, " -- loaded script: " ++ base)
  | .error failure => (.error, failure.message)

/-- The load of a base name from a lane that answers as given: what was
asked and what was told, each in order, the result, and the device
behind the new handle. -/
structure Transaction (s : Session) (lane : Lane) (base : String)
    (args : List String)
    (created : Except Failure Creation)
      (r : Reply (Except Failure Unit)) : Prop where
  calls : Event.calls r.events =
    s.partingCalls base ++ .create lane base args :: s.arrivalCalls created
  told : r.transcript = s.partingWords base ++ [closingWords base created]
  result : r.result = created.map fun _ => ()
  arrived : ∀ made, created = .ok made →
    r.session.device? (s.make made.device).2 = some made.device

/-- The reply is the other one with a warning told first, and with the device
behind the handle in the given state. -/
structure WarnsFirst (h : Handle) (d : Device) (warning : String)
    (r other : Reply (Except Failure Unit)) : Prop where
  calls : Event.calls r.events = Event.calls other.events
  told : r.transcript = (.warning, warning) :: other.transcript
  result : r.result = other.result
  session : r.session = other.session.put h d

/-! ## The old device -/

theorem Silencing.calls {h : Handle} {d : Device} {events : List Event}
    (hsilencing : Silencing h d events) : Event.calls events = [] := by
  cases hsilencing with
  | stopped hstop =>
      refine List.filterMap_eq_nil_iff.mpr fun e he => ?_
      obtain ⟨id, before, after, rfl⟩ := (Device.takes_stop hstop).moved e he
      rfl
  | stuck => rfl

section Parting

variable {s : Session} {base : String} {h : Handle} {d : Device}

theorem partingCalls_of_ready (hfind : s.find? base = some (h, d))
    (hready : d.ready = true) :
    s.partingCalls base = [.unwatch base, .stop h, .unregister base] := by
  rw [partingCalls, hfind]
  simp only [hready]
  rfl

theorem partingWords_of_stuck {failure : Failure}
    (hfind : s.find? base = some (h, d)) (hready : d.ready = true)
    (hstop : d.stop = .error failure) :
    s.partingWords base =
      [(.warning, "Failed to stop previous " ++ base ++ ": " ++
        failure.message)] := by
  rw [partingWords, hfind]
  simp only [hready, hstop, if_true]

theorem partingWords_of_stop {r : Device × List Event}
    (hfind : s.find? base = some (h, d)) (hstop : d.stop = .ok r) :
    s.partingWords base = [] := by
  rw [partingWords, hfind]
  simp only [hstop, ite_self]

theorem calls_retire (hs : s.Sound) (base : String) :
    Event.calls (Loader.retire s base).events = s.partingCalls base := by
  have hretiring := retiring_retire s base
  generalize Loader.retire s base = r at hretiring
  cases hretiring with
  | absent hfind =>
      rw [partingCalls, hfind]
      rfl
  | unready hfind hready =>
      rw [partingCalls, hfind]
      simp only [hready]
      rfl
  | @ready h d events hfind hready hsilencing =>
      obtain ⟨hid, -⟩ := hs.id_of_find? hfind
      rw [partingCalls_of_ready hfind hready, Event.calls_append, ← hid]
      show .unwatch h.id :: .stop h :: Event.calls events ++ _ = _
      rw [hsilencing.calls]
      rfl

theorem told_retire (hs : s.Sound) (base : String) :
    (Loader.retire s base).transcript = s.partingWords base := by
  have hretiring := retiring_retire s base
  generalize Loader.retire s base = r at hretiring
  cases hretiring with
  | absent hfind =>
      rw [partingWords, hfind]
      rfl
  | unready hfind hready =>
      rw [partingWords, hfind]
      simp only [hready]
      rfl
  | @ready h d events hfind hready hsilencing =>
      obtain ⟨hid, -⟩ := hs.id_of_find? hfind
      cases hsilencing with
      | stopped hstop =>
          rw [partingWords_of_stop hfind hstop]
          show Event.transcript (events ++ [.unregistered base]) = []
          rw [Event.transcript_append,
            (Device.takes_stop hstop).transcript_eq_nil]
          rfl
      | stuck hstop =>
          rw [partingWords_of_stuck hfind hready hstop, ← hid]
          rfl

end Parting

/-! ## The new device -/

section Load

variable {s : Session} {loader : Loader} {name base : String} {lane : Lane}
  {args : List String}

/-- The old device keeps its place, so the new one comes behind all
that there were. -/
theorem make_retire (s : Session) (base : String) (d : Device) :
    ((Loader.retire s base).session.make d).2 = (s.make d).2 := by
  show Handle.mk d.id (Loader.retire s base).session.devices.size =
    Handle.mk d.id s.devices.size
  rw [(retired_retire s base).size_eq]

theorem make_put (s : Session) (h : Handle) (d made : Device) :
    ((s.put h d).make made).2 = (s.make made).2 := by
  show Handle.mk made.id (s.devices.setIfInBounds h.serial d).size = _
  rw [Array.size_setIfInBounds]
  rfl

theorem arrivalCalls_put (s : Session) (h : Handle) (d : Device)
    (created : Except Failure Creation) :
    (s.put h d).arrivalCalls created = s.arrivalCalls created := by
  cases created with
  | error => rfl
  | ok made => rw [arrivalCalls, arrivalCalls, make_put]

theorem transaction_load (hs : s.Sound) (hname : name ≠ "")
    (hselect : loader.select name = (lane, base)) :
    Transaction s lane base args (loader.create lane base args)
      (loader.load s name args) := by
  have hparting := calls_retire hs base
  have hwords := told_retire hs base
  cases hcreate : loader.create lane base args with
  | error failure =>
      have htold := told_of_create_error hname hselect hcreate s
      rw [load_of_create_error hname hselect hcreate] at htold ⊢
      refine ⟨?_, by rw [htold, hwords]; rfl, rfl, by rintro made ⟨⟩⟩
      show Event.calls ((Loader.retire s base).events ++
          [.requested lane base args] ++ [.said .error failure.message]) = _
      rw [Event.calls_append, Event.calls_append, hparting]
      exact List.append_nil _
  | ok made =>
      have htold := told_of_create_ok hname hselect hcreate s
      rw [load_of_create_ok hname hselect hcreate] at htold ⊢
      refine ⟨?_, by rw [htold, hwords]; rfl, rfl, ?_⟩
      · have hread : Event.calls (made.file.map (.scriptRead base)).toList =
            [] := by
          cases made.file <;> rfl
        show Event.calls ((Loader.retire s base).events ++
            .requested lane base args ::
          ((made.file.map (.scriptRead base)).toList ++
            ((Loader.retire s base).session.adopt made.device).events) ++
            [.said .message (" -- loaded script: " ++ base)]) = _
        rw [← List.singleton_append, Event.calls_append, Event.calls_append,
          Event.calls_append, Event.calls_append, hparting, hread, adopt_events,
          make_retire]
        simp [Event.calls, Event.call?, arrivalCalls]
      · intro made' hmade
        cases hmade
        rw [← make_retire s base]
        exact device?_make_self _ _

end Load

/-! ## A device that refuses to stop -/

section Stuck

variable {s : Session} {loader : Loader} {name base : String} {lane : Lane}
  {args : List String}
variable {h : Handle} {d d' : Device}

/-- A change to a device that was there before and the arrival of a new one do
not get in each other's way. -/
theorem put_adopt {e : Device} (hd : s.device? h = some e) (d made : Device) :
    (s.adopt made).session.put h d = ((s.put h d).adopt made).session := by
  have hlt := lt_of_device? hd
  have hpush : (s.devices.push made).setIfInBounds h.serial d =
      (s.devices.setIfInBounds h.serial d).push made := by
    rw [Array.setIfInBounds, dif_pos (by rw [Array.size_push]; omega),
      Array.set_push, dif_pos hlt, Array.setIfInBounds, dif_pos hlt]
  show Session.mk ((s.devices.push made).setIfInBounds h.serial d)
      (s.registry.insert (s.make made).2)
        (s.monitor.watch (s.make made).2) s.running =
    Session.mk ((s.devices.setIfInBounds h.serial d).push made)
      (s.registry.insert ((s.put h d).make made).2)
        (s.monitor.watch ((s.put h d).make made).2) s.running
  rw [hpush, make_put]

theorem retire_of_stuck {failure : Failure} (hfind : s.find? base = some (h, d))
    (hready : d.ready = true) (hstop : d.stop = .error failure)
    (hready' : d'.ready = true) :
    (Loader.retire s base).session =
      (Loader.retire (s.put h d') base).session.put h d := by
  have hstuck : d.stopped = d := by
    obtain ⟨r, -, rfl, -⟩ := (Device.takes_stop hstop).exists_rig
    rfl
  rw [(retired_retire s base).eq_of_ready hfind hready, hstuck,
    (retired_retire (s.put h d') base).eq_of_ready
      (find?_put_self hfind d') hready']
  show (((s.unwatch h.id).session.put h d).unregister base).session =
    (((((s.unwatch h.id).session.put h d').put h d'.stopped).put h d).unregister
      base).session
  rw [put_put, put_put]

theorem session_load (hname : name ≠ "")
    (hselect : loader.select name = (lane, base)) (s : Session) :
    (loader.load s name args).session =
      match loader.create lane base args with
      | .ok made => ((Loader.retire s base).session.adopt made.device).session
      | .error _ => (Loader.retire s base).session := by
  cases hcreate : loader.create lane base args with
  | error => rw [load_of_create_error hname hselect hcreate]
  | ok => rw [load_of_create_ok hname hselect hcreate]

theorem warnsFirst_load {failure : Failure} {r : Device × List Event}
    (hs : s.Sound) (hname : name ≠ "")
    (hselect : loader.select name = (lane, base))
    (hfind : s.find? base = some (h, d)) (hready : d.ready = true)
    (hstop : d.stop = .error failure) (hid : d'.id = d.id)
    (hready' : d'.ready = true) (hstop' : d'.stop = .ok r) :
    WarnsFirst h d ("Failed to stop previous " ++ base ++ ": " ++
      failure.message)
      (loader.load s name args) (loader.load (s.put h d') name args) := by
  obtain ⟨-, hd⟩ := find?_eq_some_iff.mp hfind
  have hfind' := find?_put_self hfind d'
  have hstuck : Transaction s lane base args _ (loader.load s name args) :=
    transaction_load hs hname hselect
  have hother : Transaction (s.put h d') lane base args _
      (loader.load (s.put h d') name args) :=
    transaction_load (hs.put hd hid) hname hselect
  refine ⟨?calls, ?told, ?result, ?session⟩
  case calls =>
    rw [hstuck.calls, hother.calls, partingCalls_of_ready hfind hready,
      partingCalls_of_ready hfind' hready', arrivalCalls_put]
  case told =>
    rw [hstuck.told, hother.told, partingWords_of_stuck hfind hready hstop,
      partingWords_of_stop hfind' hstop']
    rfl
  case result => rw [hstuck.result, hother.result]
  case session =>
    have hretired :=
      (retired_retire (s.put h d') base).stopped_of_ready hfind' hready'
    rw [session_load hname hselect, session_load hname hselect,
      retire_of_stuck hfind hready hstop hready']
    cases loader.create lane base args with
    | error => rfl
    | ok made => exact (put_adopt hretired d made.device).symm

end Stuck

/-- What a load asks for, whatever is registered, whatever the name and the
arguments, and whatever the lanes answer. Without a name nothing is asked. With
one, what is registered under the base name goes first, then the lane of the
name is asked once, and a device that it makes comes last. A device that
refuses to stop is worth a warning in front of what is told in the end, and
makes no other difference. -/
theorem load_inOrder {s : Session} (hs : s.Sound) (loader : Loader)
    (args : List String) :
    loader.load s "" args =
      ⟨s, [.said .error Failure.emptyScriptName.message],
        .error .emptyScriptName⟩ ∧
    Event.calls (loader.load s "" args).events = [] ∧
    ∀ name, name ≠ "" → ∃ lane base,
    Loader.Selects loader.suffix name lane base ∧
      Transaction s lane base args (loader.create lane base args)
        (loader.load s name args) ∧
      ∀ h d d' failure r, s.find? base = some (h, d) → d.ready = true →
        d.stop = .error failure →
        d'.id = d.id → d'.ready = true → d'.stop = .ok r →
        WarnsFirst h d ("Failed to stop previous " ++ base ++ ": " ++
          failure.message)
          (loader.load s name args) (loader.load (s.put h d') name args) := by
  refine ⟨rfl, rfl, fun name hname => ?_⟩
  have hselect : loader.select name =
    ((loader.select name).1, (loader.select name).2) := rfl
  refine ⟨_, _, loader.selects_select name,
    transaction_load hs hname hselect, ?_⟩
  intro h d d' failure r hfind hready hstop hid hready' hstop'
  exact warnsFirst_load hs hname hselect hfind hready hstop hid hready' hstop'

/-- A device that refuses to stop makes way for one of the secondary lane. -/
theorem load_inOrder_stuck :
    (({} : Session).install
      (.rig { id := "blink", stopRefusal := some "stuck" })).session.Sound ∧
    ∃ r, r = Loader.load
        { suffix := ".rb", create := fun lane base _ =>
            if lane = .primary then .error (.script (.notFound base))
            else .ok { device := .plain base } }
        (({} : Session).install
          (.rig { id := "blink", stopRefusal := some "stuck" })).session
        "blink.rb" ["fast"] ∧
      Event.calls r.events =
        [.unwatch "blink", .stop ⟨"blink", 0⟩, .unregister "blink",
          .create .secondary "blink" ["fast"], .watch ⟨"blink", 1⟩,
          .register ⟨"blink", 1⟩] ∧
      r.transcript =
        [(.warning, "Failed to stop previous blink: invocation failed: stuck"),
          (.message, " -- loaded script: blink")] := by
  have hsound :=
    Sound.empty.install (.rig { id := "blink", stopRefusal := some "stuck" })
  obtain ⟨-, -, hload⟩ := load_inOrder hsound
    { suffix := ".rb", create := fun lane base _ =>
        if lane = .primary then .error (.script (.notFound base))
        else .ok { device := .plain base } } ["fast"]
  obtain ⟨lane, base, hselects, htransaction, -⟩ := hload "blink.rb" (by decide)
  have hblink : Loader.Selects ".rb" "blink.rb" .secondary "blink" :=
    .secondary (by decide) (by decide)
  obtain ⟨rfl, rfl⟩ := hselects.unique hblink
  refine ⟨hsound, _, rfl, ?_, ?_⟩
  · rw [htransaction.calls]
    decide +kernel
  · rw [htransaction.told]
    decide +kernel

end Session

end DeviceShell
