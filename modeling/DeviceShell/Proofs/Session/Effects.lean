import DeviceShell.Proofs.Device.Outcome
import DeviceShell.Session.Interpret

/-!
# What a line can do to a session

Interpreting a line is a chain of replies, most of which only report. `Effect`
lists the sessions that a command can lead to, one constructor for each thing
that can happen, with everything that was checked before it happened; `Step`
puts the reading of the line in front. An invariant of sessions is a case
analysis on these two, and none of them has to look at the interpreter again.
-/

namespace DeviceShell

namespace Session

/-! ## The devices of a session -/

theorem lt_of_device? {s : Session} {h : Handle} {d : Device}
    (hd : s.device? h = some d) :
    h.serial < s.devices.size := by
  obtain ⟨hlt, -⟩ := Array.getElem?_eq_some_iff.mp hd
  exact hlt

theorem device?_put {s : Session} {h : Handle} {d : Device}
    (hd : s.device? h = some d) (d' : Device) (g : Handle) :
    (s.put h d').device? g = if h.serial = g.serial then some d'
      else s.device? g := by
  have hlt := lt_of_device? hd
  rw [device?, put, Array.getElem?_setIfInBounds, if_pos hlt]
  rfl

theorem put_self {s : Session} {h : Handle} {d : Device}
    (hd : s.device? h = some d) :
    s.put h d = s := by
  obtain ⟨hlt, hget⟩ := Array.getElem?_eq_some_iff.mp hd
  have hset : s.devices.setIfInBounds h.serial d = s.devices := by
    rw [Array.setIfInBounds, dif_pos hlt, ← hget, Array.set_getElem_self]
  rw [put, hset]

theorem put_put (s : Session) (h : Handle) (d d' : Device) :
    (s.put h d).put h d' = s.put h d' := by
  rw [put, put, put, Array.setIfInBounds_setIfInBounds]

theorem find?_eq_some_iff {s : Session} {id : String} {h : Handle}
    {d : Device} :
    s.find? id = some (h, d) ↔ s.registry.get? id = some h ∧
    s.device? h = some d := by
  constructor
  · intro hfind
    obtain ⟨g, hget, hmap⟩ := Option.bind_eq_some_iff.mp hfind
    obtain ⟨e, hd, heq⟩ := Option.map_eq_some_iff.mp hmap
    cases heq
    exact ⟨hget, hd⟩
  · rintro ⟨hget, hd⟩
    rw [find?, hget, Option.bind_some, hd]
    rfl

/-- An id that is not registered leads to no device. -/
theorem find?_of_contains_eq_false {s : Session} {id : String}
    (habsent : s.registry.contains id = false) : s.find? id = none := by
  rw [Registry.contains_eq_isSome, Option.isSome_eq_false_iff,
    Option.isNone_iff_eq_none] at habsent
  rw [find?, habsent, Option.bind_none]

theorem find?_put_self {s : Session} {id : String} {h : Handle} {d : Device}
    (hfind : s.find? id = some (h, d)) (d' : Device) :
    (s.put h d').find? id = some (h, d') := by
  obtain ⟨hget, hd⟩ := find?_eq_some_iff.mp hfind
  refine find?_eq_some_iff.mpr ⟨hget, ?_⟩
  rw [device?_put hd, if_pos rfl]

theorem mem_devices_of_find? {s : Session} {id : String} {h : Handle}
    {d : Device} (hfind : s.find? id = some (h, d)) : d ∈ s.devices := by
  obtain ⟨-, hd⟩ := find?_eq_some_iff.mp hfind
  exact Array.mem_of_getElem? hd

/-! ## Orders and accesses -/

/-- An order leads to its outcome whether or not the device obeys. -/
theorem order_session {s : Session} {h : Handle} {d outcome : Device}
    {told : Event} {act : Device → Except Failure (Device × List Event)}
    (hd : s.device? h = some d) (htakes : d.Takes outcome (act d)) :
    (s.order h told act).session = s.put h outcome := by
  rw [order, hd]
  simp only
  generalize act d = result at htakes
  cases htakes with
  | quietly | moving => rfl
  | refusing hrig hsame =>
      rw [hsame, ← hrig]
      exact (put_self hd).symm

theorem start_session {s : Session} {h : Handle} {d : Device}
    (hd : s.device? h = some d) :
    (s.start h).session = s.put h d.started :=
  order_session hd (Device.takes_start rfl)

theorem stop_session {s : Session} {h : Handle} {d : Device}
    (hd : s.device? h = some d) :
    (s.stop h).session = s.put h d.stopped :=
  order_session hd (Device.takes_stop rfl)

/-- Only a rig refuses an order. -/
theorem order_failed {s : Session} {h : Handle} {told : Event}
    {failure : Failure} {act : Device → Except Failure (Device × List Event)}
    {outcome : Device → Device}
    (htakes : ∀ {d result}, act d = result → d.Takes (outcome d) result)
    (hresult : (s.order h told act).result = .error failure) :
    ∃ r text, s.device? h = some (.rig r) ∧
      failure = .invocationFailed (.other text) := by
  rw [order] at hresult
  split at hresult
  · cases hresult
  · next d hd =>
      split at hresult
      · cases hresult
      · next hact =>
          cases hresult
          obtain ⟨r, text, rfl, -, rfl⟩ := (htakes hact).exists_rig
          exact ⟨r, text, hd, rfl⟩

theorem start_failed {s : Session} {h : Handle} {failure : Failure}
    (hresult : (s.start h).result = .error failure) :
    ∃ r text, s.device? h = some (.rig r) ∧
      failure = .invocationFailed (.other text) :=
  order_failed Device.takes_start hresult

theorem stop_failed {s : Session} {h : Handle} {failure : Failure}
    (hresult : (s.stop h).result = .error failure) :
    ∃ r text, s.device? h = some (.rig r) ∧
      failure = .invocationFailed (.other text) :=
  order_failed Device.takes_stop hresult

/-- A rig that refuses to stop is not started again, and it is the same as one
that was. -/
theorem restart_session {s : Session} {h : Handle} {d : Device}
    (hd : s.device? h = some d) :
    (s.restart h).session = s.put h d.stopped.started := by
  rw [restart, Reply.andThen]
  cases hresult : (s.stop h).result with
  | ok =>
      have hstopped : (s.put h d.stopped).device? h = some d.stopped := by
        rw [device?_put hd, if_pos rfl]
      show ((s.stop h).session.start h).session = s.put h d.stopped.started
      rw [stop_session hd, start_session hstopped, put_put]
  | error failure =>
      obtain ⟨r, -, hrig, -⟩ := stop_failed hresult
      rw [hd] at hrig
      cases hrig
      exact stop_session hd

theorem control_session {s : Session} {id : String} {h : Handle} {d : Device}
    (order : Lifecycle) (hfind : s.find? id = some (h, d)) :
    (s.control order id).session = s.put h (order.outcome d) := by
  obtain ⟨-, hd⟩ := find?_eq_some_iff.mp hfind
  rw [control, hfind]
  cases order with
  | start => exact start_session hd
  | stop => exact stop_session hd
  | restart => exact restart_session hd

theorem conclude_session {s : Session} {h : Handle} {d : Device}
    {operation : Operation} {a : Access} (hd : s.device? h = some d)
    (hchanged : ∀ d' value, a.result = .ok (d', value) →
      d.Changed operation d') :
    ∃ d', d.Changed operation d' ∧ (s.conclude h a).session = s.put h d' := by
  rw [conclude]
  split
  · next d' value hresult => exact ⟨d', hchanged d' _ hresult, rfl⟩
  · next d' hresult => exact ⟨d', hchanged d' _ hresult, rfl⟩
  · exact ⟨d, .unchanged, (put_self hd).symm⟩
  · exact ⟨d, .unchanged, (put_self hd).symm⟩

theorem operate_session {s : Session} {id : String} {h : Handle} {d : Device}
    (operation : Operation) (hfind : s.find? id = some (h, d)) :
    ∃ d', d.Changed operation d' ∧
      (s.operate id operation).session = s.put h d' := by
  obtain ⟨-, hd⟩ := find?_eq_some_iff.mp hfind
  rw [operate, hfind]
  cases operation with
  | describe => exact ⟨d, .unchanged, (put_self hd).symm⟩
  | get name => exact conclude_session hd fun _ _ => Device.changed_of_access
  | set name raw =>
      exact conclude_session hd fun _ _ => Device.changed_of_accessAssign
  | call method args =>
      exact conclude_session hd fun _ _ => Device.changed_of_call

theorem reportUnreadable_session (s : Session) (id : String)
    (failure : Failure) :
    (s.reportUnreadable id failure).session = s := by
  rw [reportUnreadable]
  split <;> rfl

/-! ## Taking a predecessor out of service -/

/-- What is left of a session when a base name has been taken out of service. -/
inductive Retired (s : Session) (base : String) : Session → Prop where
  | absent (hfind : s.find? base = none) : Retired s base s
  | unready {h d} (hfind : s.find? base = some (h, d))
      (hready : d.ready = false) : Retired s base (s.unregister base).session
  | ready {h d} (hfind : s.find? base = some (h, d)) (hready : d.ready = true) :
      Retired s base
        (((s.unwatch h.id).session.put h d.stopped).unregister base).session

theorem silence_session {s : Session} {h : Handle} {d : Device}
    (hd : s.device? h = some d) :
    (Loader.silence s h).session = s.put h d.stopped := by
  rw [Loader.silence, Reply.andThen]
  cases hresult : (s.stop h).result <;> exact stop_session hd

theorem retired_retire (s : Session) (base : String) :
    Retired s base (Loader.retire s base).session := by
  rw [Loader.retire]
  cases hfind : s.find? base with
  | none => exact .absent hfind
  | some found =>
      obtain ⟨h, d⟩ := found
      cases hready : d.ready with
      | false =>
          simp only [hready]
          exact .unready hfind hready
      | true =>
          obtain ⟨-, hd⟩ := find?_eq_some_iff.mp hfind
          have hunwatched : (s.unwatch h.id).session.device? h = some d := hd
          have hretired := Retired.ready hfind hready
          rw [← silence_session hunwatched] at hretired
          simp only [hready]
          exact hretired

/-! ## Commands and lines -/

/-- What a command can make of a session. -/
inductive Effect (loader : Loader) (s : Session) :
    Command → Session → Prop where
  | exit : Effect loader s .exit { s with running := false }
  | devices : Effect loader s .devices s
  | tasks : Effect loader s .tasks s
  | help : Effect loader s .help s
  | unrecognized : Effect loader s .unrecognized s
  | nameless {args} : Effect loader s (.load "" args) s
  | refused {name args lane base failure s'} (hname : name ≠ "")
      (hselect : loader.select name = (lane, base))
      (hcreate : loader.create lane base args = .error failure)
        (hretired : Retired s base s') : Effect loader s (.load name args) s'
  | loaded {name args lane base made s'} (hname : name ≠ "")
      (hselect : loader.select name = (lane, base))
      (hcreate : loader.create lane base args = .ok made)
        (hretired : Retired s base s') :
      Effect loader s (.load name args) (s'.adopt made.device).session
  | unheard {order id} (hfind : s.find? id = none) :
      Effect loader s (.lifecycle order id) s
  | ordered {order id h d} (hfind : s.find? id = some (h, d)) :
      Effect loader s (.lifecycle order id) (s.put h (order.outcome d))
  | missing {id operation} (hfind : s.find? id = none) :
      Effect loader s (.device id operation) s
  | served {id operation h d d'} (hfind : s.find? id = some (h, d))
      (hserved : d.Served d') :
      Effect loader s (.device id operation) (s.put h d')

theorem effect_load (loader : Loader) (s : Session) (name : String)
    (args : List String) :
    Effect loader s (.load name args) (loader.load s name args).session := by
  rw [Loader.load]
  split
  · next hempty =>
      rw [String.isEmpty_iff] at hempty
      subst hempty
      exact .nameless
  · next hempty =>
      rw [String.isEmpty_iff] at hempty
      cases hselect : loader.select name with
      | mk lane base =>
          simp only [Loader.replace, Reply.andThen]
          cases hcreate : loader.create lane base args with
          | error failure =>
              exact .refused hempty hselect hcreate (retired_retire s base)
          | ok made =>
              exact .loaded hempty hselect hcreate (retired_retire s base)

/-- A load with a name ends as the lane of the name does. -/
theorem load_result {loader : Loader} {name base : String} {lane : Lane}
    (hname : name ≠ "") (hselect : loader.select name = (lane, base))
    (s : Session) (args : List String) :
    (loader.load s name args).result =
      (loader.create lane base args).map fun _ => () := by
  have hempty : ¬ name.isEmpty = true := by
    rw [String.isEmpty_iff]
    exact hname
  rw [Loader.load, if_neg hempty, hselect]
  simp only [Loader.replace, Reply.andThen]
  cases loader.create lane base args <;> rfl

/-- A load that fails has done nothing but take the predecessor out of
service. -/
theorem retired_of_load {loader : Loader} {name base : String} {lane : Lane}
    {failure : Failure} {s : Session} {args : List String} (hname : name ≠ "")
    (hselect : loader.select name = (lane, base))
    (hfailed : (loader.load s name args).result = .error failure) :
    Retired s base (loader.load s name args).session := by
  rw [load_result hname hselect] at hfailed
  have heffect := effect_load loader s name args
  generalize (loader.load s name args).session = s' at heffect
  cases heffect with
  | nameless => exact absurd rfl hname
  | refused _ hselect' _ hretired =>
      rw [hselect] at hselect'
      cases hselect'
      exact hretired
  | loaded _ hselect' hcreate =>
      rw [hselect] at hselect'
      cases hselect'
      rw [hcreate] at hfailed
      cases hfailed

/-- Every command has one of the effects listed. -/
theorem effect_execute (loader : Loader) (s : Session) (command : Command) :
    Effect loader s command (s.execute loader command).session := by
  cases command with
  | exit => exact .exit
  | devices => exact .devices
  | tasks => exact .tasks
  | help => exact .help
  | unrecognized => exact .unrecognized
  | load name args => exact effect_load loader s name args
  | lifecycle order id =>
      show Effect loader s _ (s.control order id).session
      cases hfind : s.find? id with
      | none =>
          rw [control, hfind]
          exact .unheard hfind
      | some found =>
          obtain ⟨h, d⟩ := found
          rw [control_session order hfind]
          exact .ordered hfind
  | device id operation =>
      show Effect loader s _ (s.operate id operation).session
      cases hfind : s.find? id with
      | none =>
          rw [operate, hfind]
          exact .missing hfind
      | some found =>
          obtain ⟨h, d⟩ := found
          obtain ⟨d', hchanged, hsession⟩ := operate_session operation hfind
          rw [hsession]
          exact .served hfind hchanged.served

/-- What a line can make of a session: nothing if it cannot be read, and
otherwise what its command can. -/
inductive Step (loader : Loader) (s : Session) (line : String) :
    Session → Prop where
  | unread {failure} (hread : Command.classify (Text.trimmed line) =
      .error failure) : Step loader s line s
  | read {command s'} (hread : Command.classify (Text.trimmed line) =
      .ok command)
      (heffect : Effect loader s command s') : Step loader s line s'

/-- Interpreting a line is a step. -/
theorem step_interpret (loader : Loader) (s : Session) (line : String) :
    Step loader s line (s.interpret loader line).session := by
  rw [interpret]
  cases hread : Command.classify (Text.trimmed line) with
  | ok command => exact .read hread (effect_execute loader s command)
  | error failure =>
      simp only
      split
      · next heq => cases heq
      · rw [reportUnreadable_session]
        exact .unread hread
      · exact .unread hread

end Session

end DeviceShell
