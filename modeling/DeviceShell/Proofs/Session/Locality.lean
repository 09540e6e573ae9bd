import DeviceShell.Proofs.Session.Replacement

/-!
# What a line looks at

A line about a device has one id for its target, which is the base name if it is
a load. It looks at what the session has under that id and at nothing else: two
sessions that have the same there give it the same answer, the same report and
the same change (`interpret_sameAt`). And what there is under any other id it
leaves alone (`Frame.part_eq`).

What a session has under an id is a `Part`: the device registered there and the
devices that are watched under that name, the registered one among them or not.
Places in the inventory are not part of it. A load takes the next one that is
free, so two loads in either order take each other's, and no one can tell who
does not know the handles.
-/

namespace DeviceShell

/-- The id that a line is about, if it is about a device or a load. -/
inductive Loader.Targets (suffix line : String) : String → Prop where
  | device {id operation}
      (hread : Command.classify line = .ok (.device id operation)) :
      Targets suffix line id
  | unreadable {failure} (hread : Command.classify line = .error failure) :
      Targets suffix line (Command.identifier line)
  | lifecycle {order id}
      (hread : Command.classify line = .ok (.lifecycle order id)) :
      Targets suffix line id
  | load {name args lane base}
      (hread : Command.classify line = .ok (.load name args))
      (hselects : Selects suffix name lane base) : Targets suffix line base

namespace Loader

theorem Targets.unique {suffix line a b : String} (ha : Targets suffix line a)
    (hb : Targets suffix line b) : a = b := by
  cases ha with
  | device hread =>
      cases hb with
      | device hread' =>
          rw [hread] at hread'
          cases hread'
          rfl
      | unreadable hread' | lifecycle hread' | load hread' =>
          rw [hread] at hread'
          cases hread'
  | unreadable hread =>
      cases hb with
      | unreadable => rfl
      | device hread' | lifecycle hread' | load hread' =>
          rw [hread] at hread'
          cases hread'
  | lifecycle hread =>
      cases hb with
      | lifecycle hread' =>
          rw [hread] at hread'
          cases hread'
          rfl
      | device hread' | unreadable hread' | load hread' =>
          rw [hread] at hread'
          cases hread'
  | load hread hselects =>
      cases hb with
      | load hread' hselects' =>
          rw [hread] at hread'
          cases hread'
          exact (hselects.unique hselects').2
      | device hread' | unreadable hread' | lifecycle hread' =>
          rw [hread] at hread'
          cases hread'

theorem Targets.of_orders {suffix line id : String}
    (h : Command.Orders line id) :
    Targets suffix line id := by
  obtain ⟨order, hwords⟩ := h
  exact .lifecycle (Command.classify_eq_lifecycle_iff.mpr hwords)

theorem Loads.targets {l : Loader} {line base : String}
    (h : l.Loads line base) :
    Targets l.suffix line base := by
  obtain ⟨name, args, lane, hread, -, hselect⟩ := h.classify
  exact .load hread (select_eq_iff.mp hselect)

end Loader

/-! ## What there is under an id -/

/-- What a session has under an id: the device registered, and the devices
watched, each with whether it is the one registered. -/
structure Part where
  registered : Option Device
  watched : List (Option Device × Bool)

namespace Part

/-- The part with another state of the device registered. -/
def put (p : Part) (d : Device) : Part :=
  ⟨some d, p.watched.map fun (e, current) =>
    (if current then some d else e, current)⟩

/-- The part with nothing registered. -/
def unregister (p : Part) : Part :=
  ⟨none, p.watched.map fun (e, _) => (e, false)⟩

end Part

namespace Session

/-- What the session has under an id. -/
def part (s : Session) (id : String) : Part where
  registered := (s.find? id).map (·.2)
  watched := (s.monitor.tasks.filter (·.id = id)).map fun g =>
    (s.device? g, decide (s.registry.get? id = some g))

theorem find?_of_part {s t : Session} {id : String}
    (hpart : s.part id = t.part id) :
    s.find? id = none ∧ t.find? id = none ∨
      ∃ h h' d, s.find? id = some (h, d) ∧ t.find? id = some (h', d) := by
  have hregistered : (s.find? id).map (·.2) = (t.find? id).map (·.2) :=
    congrArg Part.registered hpart
  cases hs : s.find? id with
  | none =>
      rw [hs, Option.map_none, eq_comm, Option.map_eq_none_iff] at hregistered
      exact .inl ⟨rfl, hregistered⟩
  | some found =>
      obtain ⟨h, d⟩ := found
      rw [hs, Option.map_some, eq_comm, Option.map_eq_some_iff] at hregistered
      obtain ⟨⟨h', d'⟩, ht, rfl⟩ := hregistered
      exact .inr ⟨h, h', d', rfl, ht⟩

theorem part_congr {s s' : Session} {id : String} (hs : s.Sound)
    (hregistry : s'.registry.get? id = s.registry.get? id)
    (htasks : s'.monitor.tasks.filter (·.id = id) =
      s.monitor.tasks.filter (·.id = id))
    (hdevices : ∀ g, s.Holds g → g.id = id → s'.device? g = s.device? g) :
    s'.part id = s.part id := by
  rw [part, part, hs.find?_congr hregistry hdevices, htasks, hregistry,
    Part.mk.injEq]
  refine ⟨rfl, List.map_congr_left fun g hg => ?_⟩
  obtain ⟨hmem, hid⟩ := List.mem_filter.mp hg
  rw [hdevices g (hs.watched hmem) (of_decide_eq_true hid)]

theorem part_put {s : Session} {id : String} {h : Handle} {d : Device}
    (hs : s.Sound) (hfind : s.find? id = some (h, d)) (d' : Device) :
    (s.put h d').part id = (s.part id).put d' := by
  obtain ⟨hget, hd⟩ := find?_eq_some_iff.mp hfind
  have hself : (s.put h d').device? h = some d' := by
    rw [device?_put hd, if_pos rfl]
  have hfind' : (s.put h d').find? id = some (h, d') :=
    find?_eq_some_iff.mpr ⟨hget, hself⟩
  rw [part, hfind', Part.put, part, List.map_map, Part.mk.injEq]
  refine ⟨rfl, List.map_congr_left fun g hg => ?_⟩
  obtain ⟨hmem, -⟩ := List.mem_filter.mp hg
  show ((s.put h d').device? g, decide (s.registry.get? id = some g)) =
    (if decide (s.registry.get? id = some g) = true then some d'
      else s.device? g, decide (s.registry.get? id = some g))
  rw [hget]
  by_cases hgh : g = h
  · rw [hgh, hself, decide_eq_true rfl, if_pos rfl]
  · have hother : ¬ some h = some g := fun heq => hgh (Option.some.inj heq).symm
    rw [hs.device?_put_of_ne hfind (hs.watched hmem) hgh,
      decide_eq_false hother, if_neg (by simp)]

theorem part_unregister (s : Session) (id : String) :
    (s.unregister id).session.part id = (s.part id).unregister := by
  have hget : (s.unregister id).session.registry.get? id = none := by
    rw [get?_unregister, if_pos rfl]
  rw [part, find?, hget, Part.unregister, part, List.map_map, Part.mk.injEq]
  exact ⟨rfl, List.map_congr_left fun g _ => rfl⟩

theorem part_unwatch_unregister {s : Session} {id : String} {h : Handle}
    (hid : h.id = id) (d : Device) :
    (((s.unwatch h.id).session.put h d).unregister id).session.part id =
      ⟨none, []⟩ := by
  subst hid
  have hnone :
      (((s.unwatch h.id).session.put h d).unregister
        h.id).session.registry.get? h.id = none := by
    rw [get?_unregister, if_pos rfl]
  rw [part, find?, hnone, Part.mk.injEq]
  exact ⟨rfl,
    congrArg (List.map _) (TaskMonitor.filter_unwatch_self s.monitor h.id)⟩

/-- What was there before does not matter to a new device. -/
theorem part_adopt (s : Session) (d : Device) :
    (s.adopt d).session.part d.id = ⟨some d, [(some d, true)]⟩ := by
  have hget : (s.adopt d).session.registry.get? d.id = some (s.make d).2 := by
    rw [get?_adopt, if_pos rfl]
  have hself : (s.adopt d).session.device? (s.make d).2 = some d :=
    device?_make_self s d
  have htasks : (s.adopt d).session.monitor.tasks.filter (·.id = d.id) =
      [(s.make d).2] :=
    TaskMonitor.filter_watch_self s.monitor (s.make d).2
  rw [part, find?, hget, htasks, Option.bind_some, hself,
    List.map_singleton, hself, decide_eq_true rfl]
  rfl

/-! ## What a line leaves alone -/

theorem Frame.part_eq {loader : Loader} {s s' : Session} {line a id : String}
    (hframe : Frame loader s line s') (hs : s.Sound)
    (htarget : Loader.Targets loader.suffix line a) (hne : id ≠ a) :
    s'.part id = s.part id := by
  have hunloaded : ¬ loader.Loads line id :=
    fun hloads => hne (hloads.targets.unique htarget)
  refine part_congr hs ?registry ?tasks ?devices
  case registry =>
    exact not_not.mp fun hchanged => hunloaded (hframe.registry id hchanged)
  case tasks =>
    by_cases hmonitor : s'.monitor = s.monitor
    · rw [hmonitor]
    · obtain ⟨base, hloads⟩ := hframe.monitor hmonitor
      obtain rfl := hloads.targets.unique htarget
      exact TaskMonitor.filter_eq_of_filter_ne hne (hframe.tasks base hloads)
  case devices =>
    rintro g hheld rfl
    refine hframe.device?_eq hs hheld (fun operation hread => ?_)
      (fun horders => ?_) hunloaded
    · exact hne ((Loader.Targets.device hread).unique htarget)
    · exact hne ((Loader.Targets.of_orders horders).unique htarget)

end Session

/-! ## Answers from a part -/

/-- The replies give the same answer and tell the operator the same, and their
sessions have the same under an id. -/
structure Reply.SameAt {α : Type} (id : String) (r r' : Reply α) : Prop where
  result : r.result = r'.result
  transcript : r.transcript = r'.transcript
  part : r.session.part id = r'.session.part id

/-- How a device answers an order. -/
def Lifecycle.answer : Lifecycle → Device → Except Failure Unit
  | .start, d => d.start.map fun _ => ()
  | .stop, d => d.stop.map fun _ => ()
  | .restart, d =>
    match d.stop with
    | .ok _ => d.stopped.start.map fun _ => ()
    | .error failure => .error failure

namespace Session

theorem order_told {s : Session} {h : Handle} {d outcome : Device}
    {told : Event} {act : Device → Except Failure (Device × List Event)}
    (hd : s.device? h = some d) (htold : told.told? = none)
    (htakes : d.Takes outcome (act d)) :
    (s.order h told act).transcript = [] ∧
      (s.order h told act).result = (act d).map fun _ => () := by
  rw [order, hd]
  cases hact : act d with
  | ok r =>
      rw [hact] at htakes
      simp only [hact]
      refine ⟨?_, rfl⟩
      show Event.transcript (told :: r.2) = []
      rw [Event.transcript, List.filterMap_cons_none htold]
      exact htakes.transcript_eq_nil
  | error failure =>
      simp only [hact]
      exact ⟨List.filterMap_cons_none htold, rfl⟩

theorem start_told {s : Session} {h : Handle} {d : Device}
    (hd : s.device? h = some d) :
    (s.start h).transcript = [] ∧
    (s.start h).result = Lifecycle.answer .start d :=
  order_told hd rfl (Device.takes_start rfl)

theorem stop_told {s : Session} {h : Handle} {d : Device}
    (hd : s.device? h = some d) :
    (s.stop h).transcript = [] ∧ (s.stop h).result = Lifecycle.answer .stop d :=
  order_told hd rfl (Device.takes_stop rfl)

theorem restart_told {s : Session} {h : Handle} {d : Device}
    (hd : s.device? h = some d) :
    (s.restart h).transcript = [] ∧
    (s.restart h).result = Lifecycle.answer .restart d := by
  have hstopped : (s.stop h).session.device? h = some d.stopped := by
    rw [stop_session hd, device?_put hd, if_pos rfl]
  obtain ⟨hquiet, hresult⟩ := stop_told hd
  obtain ⟨hquiet', hresult'⟩ := start_told hstopped
  rw [restart, Reply.andThen, hresult, Lifecycle.answer, Lifecycle.answer]
  cases hstop : d.stop with
  | error failure =>
      refine ⟨?_, rfl⟩
      show Event.transcript ((s.stop h).events ++ []) = []
      rw [List.append_nil]
      exact hquiet
  | ok r =>
      refine ⟨?_, hresult'⟩
      show Event.transcript
        ((s.stop h).events ++ ((s.stop h).session.start h).events) = []
      rw [Event.transcript_append]
      exact List.append_eq_nil_iff.mpr ⟨hquiet, hquiet'⟩

/-- Of an order to a device the operator is told that it is carried out, and
nothing of what the device makes of it. -/
theorem control_told {s : Session} {id : String} {h : Handle} {d : Device}
    (order : Lifecycle) (hfind : s.find? id = some (h, d)) :
    (s.control order id).transcript =
      [(.message, " -- " ++ order.verb ++ ": " ++ id)] ∧
      (s.control order id).result = (order.answer d).map fun _ => true := by
  obtain ⟨-, hd⟩ := find?_eq_some_iff.mp hfind
  have htold : ∀ told : Reply (Except Failure Unit),
      told.transcript = [] ∧ told.result = order.answer d →
      Event.transcript ([.said .message (" -- " ++ order.verb ++ ": " ++ id)] ++
        told.events) = [(.message, " -- " ++ order.verb ++ ": " ++ id)] ∧
        (told.result.map fun _ => true) =
          (order.answer d).map fun _ => true := by
    rintro told ⟨hquiet, hresult⟩
    rw [Event.transcript_append, hresult]
    exact ⟨congrArg (_ :: ·) hquiet, rfl⟩
  rw [control, hfind]
  cases order with
  | start => exact htold _ (start_told hd)
  | stop => exact htold _ (stop_told hd)
  | restart => exact htold _ (restart_told hd)

section SameAt

variable {s t : Session} {id : String}

theorem conclude_sameAt {h h' : Handle} {d : Device} (hs : s.Sound)
    (ht : t.Sound) (hpart : s.part id = t.part id)
    (hfind : s.find? id = some (h, d)) (hfind' : t.find? id = some (h', d))
    (a : Access) :
    (s.conclude h a).SameAt id (t.conclude h' a) := by
  obtain ⟨hid, -⟩ := hs.id_of_find? hfind
  obtain ⟨hid', -⟩ := ht.id_of_find? hfind'
  have hput : ∀ d', (s.put h d').part id = (t.put h' d').part id := by
    intro d'
    rw [part_put hs hfind, part_put ht hfind', hpart]
  rw [conclude, conclude, hid, hid']
  split
  · exact ⟨rfl, rfl, hput _⟩
  · exact ⟨rfl, rfl, hput _⟩
  · exact ⟨rfl, rfl, hpart⟩
  · exact ⟨rfl, rfl, hpart⟩

theorem operate_sameAt (hs : s.Sound) (ht : t.Sound)
    (hpart : s.part id = t.part id) (operation : Operation) :
    (s.operate id operation).SameAt id (t.operate id operation) := by
  rcases find?_of_part hpart with ⟨hnone, hnone'⟩ | ⟨h, h', d, hfind, hfind'⟩
  · rw [operate, operate, hnone, hnone']
    exact ⟨rfl, rfl, hpart⟩
  · rw [operate_eq_conclude operation hfind,
      operate_eq_conclude operation hfind']
    exact conclude_sameAt hs ht hpart hfind hfind' _

theorem reportUnreadable_sameAt (hs : s.Sound) (ht : t.Sound)
    (hpart : s.part id = t.part id) (failure : Failure) :
    (s.reportUnreadable id failure).SameAt id
      (t.reportUnreadable id failure) := by
  rw [reportUnreadable, reportUnreadable, hs.contains_eq_isSome,
    ht.contains_eq_isSome]
  rcases find?_of_part hpart with ⟨hnone, hnone'⟩ | ⟨h, h', d, hfind, hfind'⟩
  · rw [hnone, hnone']
    exact ⟨rfl, rfl, hpart⟩
  · rw [hfind, hfind']
    exact ⟨rfl, rfl, hpart⟩

theorem control_sameAt (hs : s.Sound) (ht : t.Sound)
    (hpart : s.part id = t.part id) (order : Lifecycle) :
    (s.control order id).SameAt id (t.control order id) := by
  rcases find?_of_part hpart with ⟨hnone, hnone'⟩ | ⟨h, h', d, hfind, hfind'⟩
  · rw [control, control, hnone, hnone']
    exact ⟨rfl, rfl, hpart⟩
  · obtain ⟨htold, hresult⟩ := control_told order hfind
    obtain ⟨htold', hresult'⟩ := control_told order hfind'
    refine ⟨hresult.trans hresult'.symm, htold.trans htold'.symm, ?_⟩
    rw [control_session order hfind, control_session order hfind',
      part_put hs hfind, part_put ht hfind', hpart]

/-! ## Loads -/

theorem Silencing.transcript_eq {h h' : Handle} {d : Device}
    {events events' : List Event} (hs : Silencing h d events)
    (ht : Silencing h' d events') (hid : h.id = h'.id) :
    Event.transcript events = Event.transcript events' := by
  cases hs with
  | stopped hstop =>
      cases ht with
      | stopped hstop' =>
          rw [(Device.takes_stop hstop).transcript_eq_nil,
            (Device.takes_stop hstop').transcript_eq_nil]
      | stuck hstop' =>
          rw [hstop] at hstop'
          cases hstop'
  | stuck hstop =>
      cases ht with
      | stopped hstop' =>
          rw [hstop] at hstop'
          cases hstop'
      | stuck hstop' =>
          rw [hstop] at hstop'
          cases hstop'
          rw [hid]

theorem retire_sameAt (hs : s.Sound) (ht : t.Sound)
    (hpart : s.part id = t.part id) :
    (Loader.retire s id).SameAt id (Loader.retire t id) := by
  rcases find?_of_part hpart with ⟨hnone, hnone'⟩ | ⟨h, h', d, hfind, hfind'⟩
  · rw [retire_of_absent hnone, retire_of_absent hnone']
    exact ⟨rfl, rfl, hpart⟩
  · cases hready : d.ready with
    | false =>
        rw [retire_of_unready hfind hready, retire_of_unready hfind' hready]
        exact ⟨rfl, rfl, by rw [part_unregister, part_unregister, hpart]⟩
    | true =>
        obtain ⟨hid, -⟩ := hs.id_of_find? hfind
        obtain ⟨hid', -⟩ := ht.id_of_find? hfind'
        obtain ⟨events, hsilencing, hretire⟩ := retire_of_ready hfind hready
        obtain ⟨events', hsilencing', hretire'⟩ := retire_of_ready hfind' hready
        rw [hretire, hretire']
        refine ⟨rfl, ?_, ?_⟩
        · have htold :=
            hsilencing.transcript_eq hsilencing' (hid.trans hid'.symm)
          show Event.transcript (events ++ [.unregistered id]) =
            Event.transcript (events' ++ [.unregistered id])
          rw [Event.transcript_append, Event.transcript_append, htold]
        · rw [part_unwatch_unregister hid, part_unwatch_unregister hid']

variable {loader : Loader} {name : String} {lane : Lane}

theorem load_sameAt (hs : s.Sound) (ht : t.Sound) (hl : loader.MakesTasks)
    (hselect : loader.select name = (lane, id)) (hpart : s.part id = t.part id)
    (args : List String) :
    (loader.load s name args).SameAt id (loader.load t name args) := by
  by_cases hname : name = ""
  · subst hname
    exact ⟨rfl, rfl, hpart⟩
  · obtain ⟨-, htold, hretired⟩ := retire_sameAt hs ht hpart
    cases hcreate : loader.create lane id args with
    | error failure =>
        refine ⟨?_, ?_, ?_⟩
        · rw [load_result hname hselect, load_result hname hselect]
        · rw [told_of_create_error hname hselect hcreate, htold,
            ← told_of_create_error hname hselect hcreate]
        · rw [load_of_create_error hname hselect hcreate,
            load_of_create_error hname hselect hcreate]
          exact hretired
    | ok made =>
        obtain ⟨task, hmade, rfl⟩ := hl hcreate
        refine ⟨?_, ?_, ?_⟩
        · rw [load_result hname hselect, load_result hname hselect]
        · rw [told_of_create_ok hname hselect hcreate, htold,
            ← told_of_create_ok hname hselect hcreate]
        · rw [load_of_create_ok hname hselect hcreate,
            load_of_create_ok hname hselect hcreate, hmade]
          exact (part_adopt _ (.script task)).trans
            (part_adopt _ (.script task)).symm

/-! ## Lines -/

theorem transcript_execute_load (loader : Loader) (s : Session) (name : String)
    (args : List String) :
    (s.execute loader (.load name args)).transcript =
      (loader.load s name args).transcript := by
  have hnote : Event.transcript
      (loadNote name (loader.load s name args).result) = [] := by
    cases (loader.load s name args).result <;> rfl
  show Event.transcript ((loader.load s name args).events ++ loadNote name _) =
    _
  rw [Event.transcript_append, hnote, List.append_nil]
  rfl

/-- What a line makes of the part of a session that it is about depends on that
part alone. -/
theorem interpret_sameAt {line : String} (hs : s.Sound) (ht : t.Sound)
    (hl : loader.MakesTasks)
    (htarget : Loader.Targets loader.suffix (Text.trimmed line) id)
    (hpart : s.part id = t.part id) :
    (s.interpret loader line).SameAt id (t.interpret loader line) := by
  cases htarget with
  | device hread =>
      obtain ⟨hresult, htold, hafter⟩ := operate_sameAt hs ht hpart _
      rw [interpret_of_read loader s hread, interpret_of_read loader t hread]
      exact ⟨hresult, htold, hafter⟩
  | unreadable hread =>
      obtain ⟨token, rfl⟩ := Command.ambiguous_of_classify hread
      rw [interpret_of_unreadable loader hread,
        interpret_of_unreadable loader hread]
      exact reportUnreadable_sameAt hs ht hpart _
  | lifecycle hread =>
      obtain ⟨hresult, htold, hafter⟩ := control_sameAt hs ht hpart _
      rw [interpret_of_read loader s hread, interpret_of_read loader t hread]
      exact ⟨hresult, htold, hafter⟩
  | @load name args lane _ hread hselects =>
      have hselect := Loader.select_eq_iff.mpr hselects
      obtain ⟨-, htold, hafter⟩ := load_sameAt hs ht hl hselect hpart args
      rw [← transcript_execute_load, ← transcript_execute_load] at htold
      rw [interpret_of_read loader s hread, interpret_of_read loader t hread]
      exact ⟨rfl, htold, hafter⟩

end SameAt

end Session

end DeviceShell
