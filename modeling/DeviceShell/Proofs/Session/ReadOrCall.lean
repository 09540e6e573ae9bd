import DeviceShell.Proofs.Session.History
import DeviceShell.Proofs.Session.Tells

/-!
# A member is read or called

The lines `lamp.keys` and `lamp.keys()` are read as two operations and go two
ways through the device, and an operator expects them to do the same. They do
unless there is an attribute of that name, which only the first of them sees.

A name that is no attribute is called without arguments, and what comes of that
comes of the line, be it a value, a change of the device or a refusal. The one
outcome that is not passed on is that there is no such method. Then the first
failure counts, so the two lines complain in different words, but of the same
member. The log notes which way was taken, and nobody else hears of it
(`answeredAlike_of_result`).

All this is about devices with a name. One without can be registered, but no
line leads to it (`not_tells_namelessLamp`).
-/

namespace DeviceShell

/-! ## The second attempt -/

/-- The device has no method of this name that could be called without
arguments. -/
def Device.LacksMethod (d : Device) (name : String) : Prop :=
  ∃ member reason, d.call name [] = .error (.memberNotFound member reason)

namespace Device

variable {d : Device} {name : String} {failure : Failure}

/-- A call without arguments misses nothing but the method. A toggle can miss an
attribute as well, but only one that it is given the name of. -/
theorem LacksMethod.missing (h : d.LacksMethod name) :
    ∃ reason, d.call name [] = .error (.memberNotFound name reason) := by
  obtain ⟨member, reason, hcall⟩ := h
  suffices hmember : member = name by
    subst hmember
    exact ⟨reason, hcall⟩
  cases d with
  | property p =>
      have hfailed : p.call name [] = .error (.memberNotFound member reason) :=
        error_of_map hcall
      rw [PropertyDevice.call] at hfailed
      repeat' split at hfailed
      all_goals cases hfailed
      rfl
  | script t =>
      have hfailed : t.call name [] = .error (.memberNotFound member reason) :=
        error_of_map hcall
      rw [ScriptTask.call.eq_def] at hfailed
      repeat' split at hfailed
      all_goals cases hfailed
      rfl
  | plain | rig =>
      cases hcall
      rfl

/-- A name that is no attribute is answered as a call is, if there is
such a method. -/
theorem answer_get_of_call (hread : d.read name = .error failure)
    (hmethod : ¬ d.LacksMethod name) :
    (d.answer (.get name)).result = (d.answer (.call name [])).result := by
  obtain ⟨reason, rfl⟩ := missing_of_read hread
  show (d.access name).result = d.call name []
  rw [access, hread]
  simp only []
  split
  · next hcall => exact absurd ⟨_, _, hcall⟩ hmethod
  · rfl

theorem answer_get_of_lacksMethod (hread : d.read name = .error failure)
    (hlacks : d.LacksMethod name) :
    (d.answer (.get name)).result = .error failure := by
  obtain ⟨reason, rfl⟩ := missing_of_read hread
  obtain ⟨other, hcall⟩ := hlacks.missing
  show (d.access name).result = _
  rw [access, hread, hcall]

end Device

/-! ## The two lines -/

theorem Operation.writable_call_nil {name : String}
    (hname : (Operation.get name).Writable) :
    (Operation.call name []).Writable :=
  ⟨hname.1, hname.2.2.1, hname.2.2.2, List.forall_mem_nil _,
    Command.shielded_of_not_mem 0 (by decide)⟩

theorem Operation.render_call_nil (id name : String) :
    (Operation.call name []).render id = id ++ "." ++ name ++ "()" := by
  show id ++ "." ++ name ++ "(" ++ "" ++ ")" = id ++ "." ++ name ++ "()"
  rw [String.append_empty, String.append_assoc]
  rfl

namespace Session

variable {s : Session} {line other id : String} {h : Handle} {d : Device}

/-- Two lines come to the same: they have the same result, the operator is told
the same, and the same session is left. -/
structure AnsweredAlike (loader : Loader) (s : Session)
    (line other : String) : Prop where
  result : (s.interpret loader line).result = (s.interpret loader other).result
  told : (s.interpret loader line).transcript =
    (s.interpret loader other).transcript
  session : (s.interpret loader line).session =
    (s.interpret loader other).session

theorem conclude_alike {a b : Access} (hresult : a.result = b.result)
    (ha : Event.transcript a.events = []) (hb : Event.transcript b.events = [])
    (s : Session) (h : Handle) :
    (s.conclude h a).result = (s.conclude h b).result ∧
    (s.conclude h a).transcript = (s.conclude h b).transcript ∧
    (s.conclude h a).session = (s.conclude h b).session := by
  have hquiet : ∀ events,
      Event.transcript (a.events ++ events) =
        Event.transcript (b.events ++ events) := by
    intro events
    rw [Event.transcript_append, Event.transcript_append, ha, hb]
  rw [conclude, conclude, hresult]
  split
  · exact ⟨rfl, hquiet _, rfl⟩
  · exact ⟨rfl, ha.trans hb.symm, rfl⟩
  · exact ⟨rfl, hquiet _, rfl⟩
  · exact ⟨rfl, ha.trans hb.symm, rfl⟩

/-- Operations that have the same result on a device are the same to
everybody. -/
theorem answeredAlike_of_result {first second : Operation} (loader : Loader)
    (hline : Command.classify (Text.trimmed line) = .ok (.device id first))
    (hother : Command.classify (Text.trimmed other) = .ok (.device id second))
    (hfind : s.find? id = some (h, d))
    (hresult : (d.answer first).result = (d.answer second).result) :
    AnsweredAlike loader s line other := by
  have hfirst := interpret_of_device (s := s) loader hline
  have hsecond := interpret_of_device (s := s) loader hother
  rw [operate_eq_conclude first hfind] at hfirst
  rw [operate_eq_conclude second hfind] at hsecond
  obtain ⟨hsame, htold, hsession⟩ :=
    conclude_alike hresult (d.transcript_answer first)
    (d.transcript_answer second) s h
  refine ⟨?_, ?_, ?_⟩
  · rw [hfirst, hsecond]
    exact hsame
  · rw [hfirst, hsecond]
    exact htold
  · rw [hfirst, hsecond]
    exact hsession

/-- The line that names a member shows the attribute of that name if there
is one, whatever else the device has. If there is none, it comes to the same
as the line that calls the method, failures included; and if there is no
such method either, both lines complain of the same member of the same
device and change nothing. -/
theorem read_or_call {s : Session} (hs : s.Sound) {id name : String}
    {h : Handle} {d : Device} (hid : Command.IsDeviceId id)
    (hname : (Operation.get name).Writable) (hfind : s.find? id = some (h, d))
    (loader : Loader) :
    (∀ value, d.read name = .ok value →
      Tells loader s (id ++ "." ++ name) (.message, value.render)) ∧
    (∀ failure, d.read name = .error failure → ¬ d.LacksMethod name →
      AnsweredAlike loader s (id ++ "." ++ name) (id ++ "." ++ name ++ "()")) ∧
    (∀ failure, d.read name = .error failure → d.LacksMethod name →
      ∃ noAttribute noMethod : Absence,
        Tells loader s (id ++ "." ++ name)
          (.error, id ++ ": missing member '" ++ name ++ "': " ++
            noAttribute.message name) ∧
        Tells loader s (id ++ "." ++ name ++ "()")
          (.error, id ++ ": missing member '" ++ name ++ "': " ++
            noMethod.message name)) := by
  have hread := Command.classify_trimmed_render hid hname (by rintro ⟨⟩)
  have hcall :=
    Command.classify_trimmed_render hid (Operation.writable_call_nil hname)
    (by rintro ⟨⟩)
  rw [Operation.render] at hread
  rw [Operation.render_call_nil] at hcall
  obtain ⟨rfl, -⟩ := hs.id_of_find? hfind
  refine ⟨?isAttribute, ?isMethod, ?isNeither⟩
  case isAttribute =>
    intro value hvalue
    refine tells_of_answer loader hread hfind ?_
    simp only [Device.answer, Device.access, hvalue]
  case isMethod =>
    intro failure habsent hmethod
    exact answeredAlike_of_result loader hread hcall hfind
      (Device.answer_get_of_call habsent hmethod)
  case isNeither =>
    intro failure habsent hlacks
    have hanswer := Device.answer_get_of_lacksMethod habsent hlacks
    obtain ⟨noAttribute, rfl⟩ := Device.missing_of_read habsent
    obtain ⟨noMethod, hmissing⟩ := hlacks.missing
    exact ⟨noAttribute, noMethod, tells_of_missing loader hread hfind hanswer,
      tells_of_missing loader hcall hfind hmissing⟩

/-- A lamp with an attribute that is called like a method. -/
def litLamp : Session :=
  (({} : Session).install (.property
    ({ id := "lamp" : PropertyDevice }.declareAll
      [("keys", .integer 3), ("on", .bool true)]))).session

/-- The attribute, a method that has to be called with an argument, and a name
that means nothing to the lamp. -/
theorem read_or_call_lamp :
    litLamp.Sound ∧ Command.IsDeviceId "lamp" ∧ ∀ loader,
      Tells loader litLamp "lamp.keys" (.message, "3") ∧
      AnsweredAlike loader litLamp "lamp.toggle" "lamp.toggle()" ∧
      ∃ noAttribute noMethod : Absence,
        Tells loader litLamp "lamp.desk height"
          (.error, "lamp: missing member 'desk height': " ++
            noAttribute.message "desk height") ∧
        Tells loader litLamp "lamp.desk height()"
          (.error, "lamp: missing member 'desk height': " ++
            noMethod.message "desk height") := by
  have hs : litLamp.Sound := Sound.empty.install _
  have hid : Command.IsDeviceId "lamp" := by decide
  have hkeys : (Operation.get "keys").Writable :=
    ⟨by decide, by decide, by decide, by decide⟩
  have htoggle : (Operation.get "toggle").Writable :=
    ⟨by decide, by decide, by decide, by decide⟩
  have hheight : (Operation.get "desk height").Writable :=
    ⟨by decide, by decide, by decide, by decide⟩
  have hfind : ∃ h d, litLamp.find? "lamp" = some (h, d) ∧
    d.read "keys" = .ok (.integer 3) ∧
      (d.read "toggle" =
        .error (.memberNotFound "toggle" (.noAttribute "lamp")) ∧
        d.call "toggle" [] = .error (.invocationFailed .toggleUsage)) ∧
      d.read "desk height" =
        .error (.memberNotFound "desk height" (.noAttribute "lamp")) ∧
      d.call "desk height" [] =
        .error (.memberNotFound "desk height" (.noMethod "lamp")) :=
    ⟨_, _, rfl, rfl, ⟨rfl, rfl⟩, rfl, rfl⟩
  obtain ⟨h, d, hfind, hvalue, ⟨hunread, hrefused⟩, habsent, hlacks⟩ := hfind
  have hmethod : ¬ d.LacksMethod "toggle" := by
    rintro ⟨member, reason, hcall⟩
    rw [hrefused] at hcall
    cases hcall
  refine ⟨hs, hid, fun loader => ⟨?_, ?_, ?_⟩⟩
  · exact (read_or_call hs hid hkeys hfind loader).1 _ hvalue
  · exact (read_or_call hs hid htoggle hfind loader).2.1 _ hunread hmethod
  · exact (read_or_call hs hid hheight hfind loader).2.2 _ habsent
      ⟨_, _, hlacks⟩

/-! ## A device without a name -/

/-- A session with a device whose id is empty. -/
def namelessLamp : Session :=
  (({} : Session).install (.property
    ({ id := "" : PropertyDevice }.declare "on" (.bool true)))).session

/-- The id of a device can be empty, which no dot and no blank in it rules out,
but a line that starts with a dot is not about any device. So an attribute that
is there is not shown. -/
theorem not_tells_namelessLamp :
    namelessLamp.Sound ∧ '.' ∉ "".toList ∧
    (∀ c ∈ "".toList, Text.isBlank c = false) ∧
    (Operation.get "on").Writable ∧
    (∃ h p, namelessLamp.find? "" = some (h, .property p) ∧
      p.read "on" = .ok (.bool true)) ∧
    ∀ loader, ¬ Tells loader namelessLamp ("" ++ "." ++ "on")
      (.message, (Value.bool true).render) := by
  refine ⟨Sound.empty.install _, by decide, List.forall_mem_nil _,
    ⟨by decide, by decide, by decide, by decide⟩, ⟨_, _, rfl, rfl⟩,
    fun loader htells => ?_⟩
  have hread : Command.classify (Text.trimmed ("" ++ "." ++ "on")) =
      .ok .unrecognized := by
    decide +kernel
  have hhandled := htells.handled
  rw [interpret_of_read loader namelessLamp hread] at hhandled
  cases hhandled

end Session

end DeviceShell
