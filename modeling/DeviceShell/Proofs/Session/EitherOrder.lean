import DeviceShell.Proofs.Session.Locality

/-!
# Two lines in either order

A line looks at one id and changes one id. So two lines about different ids find
the same whether or not the other has been there, and what each of them leaves
under its id is left alone by the other. Nothing more is needed for them to
change places, and `exit` is not among them.

The sessions at the end are not equal, since new instances have been given
different places, and tasks that are watched again move to the end of the list.
They are `Alike`, which is all that can be told without handles.
-/

namespace DeviceShell

/-- The ids are listed in their order, so the list depends on nothing else. -/
theorem Registry.ids_congr {r r' : Registry}
    (h : ∀ id, r.contains id = r'.contains id) :
    r.ids = r'.ids := by
  have hmem : ∀ id, id ∈ r.ids ↔ id ∈ r'.ids := by
    intro id
    rw [mem_ids_iff, mem_ids_iff, h]
  have hperm : r.ids.Perm r'.ids :=
    (List.perm_ext_iff_of_nodup Std.ExtTreeMap.nodup_keys
      Std.ExtTreeMap.nodup_keys).mpr hmem
  refine hperm.eq_of_pairwise ?_ Std.ExtTreeMap.ordered_keys
    Std.ExtTreeMap.ordered_keys
  intro a b _ _ hab hba
  exact absurd hba (Std.OrientedCmp.not_lt_of_lt hab)

namespace Session

/-- What is watched: each task by its id, with its device and whether it is what
the id means. -/
def watched (s : Session) : List (String × Option Device × Bool) :=
  s.monitor.tasks.map fun g =>
    (g.id, s.device? g, decide (s.registry.get? g.id = some g))

/-- The sessions go on or not, have the same devices registered under the same
ids, and watch the same tasks, in whatever order. -/
structure Alike (s t : Session) : Prop where
  running : s.running = t.running
  ids : s.registry.ids = t.registry.ids
  registered : ∀ id, (s.find? id).map (·.2) = (t.find? id).map (·.2)
  watched : s.watched.Perm t.watched

/-- Two lines give the same answers and tell the operator the same in either
order, and lead to sessions that are alike. -/
structure EitherOrder
    (interpret : Session → String → Reply (Except Failure Bool))
    (s : Session) (first second : String) : Prop where
  first_result : (interpret (interpret s second).session first).result =
    (interpret s first).result
  first_told :
    (interpret (interpret s second).session first).transcript =
      (interpret s first).transcript
  second_result :
    (interpret (interpret s first).session second).result =
      (interpret s second).result
  second_told :
    (interpret (interpret s first).session second).transcript =
      (interpret s second).transcript
  alike : Alike (interpret (interpret s first).session second).session
    (interpret (interpret s second).session first).session

theorem filter_watched (s : Session) (id : String) :
    s.watched.filter (·.1 = id) = (s.part id).watched.map (Prod.mk id) := by
  rw [watched, List.filter_map, part, List.map_map]
  refine List.map_congr_left fun g hg => ?_
  obtain ⟨-, hid⟩ := List.mem_filter.mp hg
  obtain rfl : g.id = id := of_decide_eq_true hid
  rfl

theorem perm_of_filter_eq {α : Type} {l l' : List (String × α)}
    (h : ∀ key, l.filter (·.1 = key) = l'.filter (·.1 = key)) : l.Perm l' := by
  classical
  rw [List.perm_iff_count]
  intro a
  have hkey : decide (a.1 = a.1) = true := decide_eq_true rfl
  rw [← List.count_filter (p := fun b : String × α => b.1 = a.1) hkey, h,
    List.count_filter (p := fun b : String × α => b.1 = a.1) hkey]

theorem alike_of_part {s t : Session} (hs : s.Sound) (ht : t.Sound)
    (hrunning : s.running = t.running) (hpart : ∀ id, s.part id = t.part id) :
    Alike s t where
  running := hrunning
  ids := by
    refine Registry.ids_congr fun id => ?_
    have hregistered :=
      congrArg (fun p : Part => p.registered.isSome) (hpart id)
    simp only [part, Option.isSome_map] at hregistered
    rw [hs.contains_eq_isSome, ht.contains_eq_isSome, hregistered]
  registered id := congrArg Part.registered (hpart id)
  watched := perm_of_filter_eq fun id => by
    rw [filter_watched, filter_watched, hpart]

/-- Each line finds what it is about as if the other had not been there. -/
theorem eitherOrder_of_targets {loader : Loader} {s : Session}
    {first second a b : String} (hs : s.Sound) (hl : loader.MakesTasks)
    (hfirst : Loader.Targets loader.suffix (Text.trimmed first) a)
    (hsecond : Loader.Targets loader.suffix (Text.trimmed second) b)
    (hne : a ≠ b) :
    s.EitherOrder (interpret loader) first second := by
  have hsound : ∀ line, (s.interpret loader line).session.Sound :=
    fun line => hs.step (step_interpret loader s line)
  have hkept : ∀ {t : Session} {line id' id : String}, t.Sound →
      Loader.Targets loader.suffix (Text.trimmed line) id' → id ≠ id' →
      (t.interpret loader line).session.part id = t.part id :=
    fun ht htarget hother => (frame_interpret ht hl _).part_eq ht htarget hother
  have hfirst' :=
    interpret_sameAt (hsound second) hs hl hfirst (hkept hs hsecond hne)
  have hsecond' :=
    interpret_sameAt (hsound first) hs hl hsecond (hkept hs hfirst hne.symm)
  refine ⟨hfirst'.result, hfirst'.transcript, hsecond'.result,
    hsecond'.transcript, ?_⟩
  refine alike_of_part ((hsound first).step (step_interpret loader _ second))
    ((hsound second).step (step_interpret loader _ first)) ?running fun id =>
      ?part
  case running =>
    rw [running_interpret, running_interpret, running_interpret,
      running_interpret]
    split <;> split <;> rfl
  case part =>
    by_cases ha : id = a
    · rw [hkept (hsound first) hsecond (ha ▸ hne), ha, hfirst'.part]
    · by_cases hb : id = b
      · rw [hkept (hsound second) hfirst ha, hb, hsecond'.part]
      · rw [hkept (hsound first) hsecond hb, hkept hs hfirst ha,
          hkept (hsound second) hfirst ha, hkept hs hsecond hb]

/-- Lines about different devices, loads among them, may change places. -/
theorem eitherOrder_ofFolders {s : Session} (hs : s.Sound)
    (folder : Lane → ScriptFolder) (suffix : String) (files : Files)
    {first second a b : String}
    (hfirst : Loader.Targets suffix (Text.trimmed first) a)
    (hsecond : Loader.Targets suffix (Text.trimmed second) b) (hne : a ≠ b) :
    s.EitherOrder (interpret (.ofFolders folder suffix files)) first second :=
  eitherOrder_of_targets hs (Loader.makesTasks_ofFolders folder suffix files)
    hfirst hsecond hne

/-- A device is replaced by a script, and another is lost to a load
that fails. -/
theorem eitherOrder_ofFolders_loads :
    demo.Sound ∧
    Loader.Targets ".rb" (Text.trimmed "load lamp.rb dim") "lamp" ∧
    Loader.Targets ".rb" (Text.trimmed "load thermostat") "thermostat" ∧
    "lamp" ≠ "thermostat" ∧
    demo.EitherOrder
      (interpret (.standard (FileTree.ofEntries
        [("scripts/lamp.rb", some "on".toUTF8)]).view))
      "load lamp.rb dim" "load thermostat" := by
  have hsound := initial_demo.sound
  have hlamp : Loader.Targets ".rb" (Text.trimmed "load lamp.rb dim")
      "lamp" := by
    have hread : Command.classify (Text.trimmed "load lamp.rb dim") =
        .ok (.load "lamp.rb" ["dim"]) := by decide +kernel
    exact .load hread (.secondary (by decide) (by decide))
  have hthermostat : Loader.Targets ".rb" (Text.trimmed "load thermostat")
      "thermostat" := by
    have hread : Command.classify (Text.trimmed "load thermostat") =
        .ok (.load "thermostat" []) := by decide +kernel
    have hselects :=
      (Loader.standard fun _ => none).selects_select "thermostat"
    exact .load hread hselects
  have hne : "lamp" ≠ "thermostat" := by decide
  exact ⟨hsound, hlamp, hthermostat, hne, eitherOrder_ofFolders hsound
    ({} : ScriptSettings).folder ".rb" _ hlamp hthermostat hne⟩

end Session

end DeviceShell
