import DeviceShell.Proofs.Command.Arguments
import DeviceShell.Proofs.Device.Refusal
import DeviceShell.Proofs.Session.Effects
import DeviceShell.Session.Startup
import DeviceShell.Settings.Scripts

/-!
# What comes of a line about a device

A line about a device can go wrong in many places: in the arguments of a call,
in the registry, in the device, and there in the second of two attempts when a
name is read. Whatever the place, one of three things comes of the line, and
`Answer` lists them. It is served, and then the device may have changed and the
operator is told a value at most. Something is reported in its place, which is
a `Complaint` about the line. Or the device refuses it, and then the line fails
and nobody is told but whoever runs the shell.

Two statements rest on this. A line that comes to nothing leaves the session as
it was, the registry, the tasks and every device in it included. And the lines
that fail are those a device refuses, and no others.
-/

namespace DeviceShell

theorem Event.transcript_append (events more : List Event) :
    Event.transcript (events ++ more) = Event.transcript events ++
      Event.transcript more :=
  List.filterMap_append

/-- An access tells the operator nothing by itself. -/
theorem Device.transcript_answer (d : Device) (operation : Operation) :
    Event.transcript (d.answer operation).events = [] := by
  cases operation with
  | describe | set | call => rfl
  | get name =>
      show Event.transcript (d.access name).events = []
      rw [access]
      split <;> rfl

namespace Session

/-- What is reported when a line about a device comes to nothing, and whether
the line counts as handled. -/
inductive Complaint (s : Session) (line : String) :
    Severity × String → Bool → Prop where
  | unknown (hfind : s.find? (Command.identifier line) = none) :
      Complaint s line (.warning,
        (Failure.deviceNotFound (Command.identifier line)).message) false
  | missing {operation h d member reason}
      (hread : Command.classify line =
        .ok (.device (Command.identifier line) operation))
      (hfind : s.find? (Command.identifier line) = some (h, d))
      (hmissing : (d.answer operation).result =
        .error (.memberNotFound member reason)) : Complaint s line
        (.error, h.id ++ ": missing member '" ++ member ++ "': " ++
          reason.message member) true
  | unreadable {token}
      (hread : Command.classify line = .error (.ambiguousParameter token))
      (hregistered : s.registry.contains (Command.identifier line) = true) :
      Complaint s line
        (.error, Command.identifier line ++ ": " ++
          (Failure.ambiguousParameter token).message) true

/-- What can come of a line about a device: the session afterwards, what the
operator was told, and the result. -/
inductive Answer (s : Session) (line : String) :
    Session → List (Severity × String) → Except Failure Bool → Prop where
  | served {operation h d d' value}
      (hread : Command.classify line =
        .ok (.device (Command.identifier line) operation))
      (hfind : s.find? (Command.identifier line) = some (h, d))
      (hserved : (d.answer operation).result = .ok (d', value)) :
      Answer s line (s.put h d')
        (value.toList.map fun v => (.message, v.render)) (.ok true)
  | reported {entry handled} (hcomplaint : Complaint s line entry handled) :
      Answer s line s [entry] (.ok handled)
  | refused {operation h d cause}
      (hread : Command.classify line =
        .ok (.device (Command.identifier line) operation))
      (hfind : s.find? (Command.identifier line) = some (h, d))
      (hrefuses : d.Refuses operation cause) :
      Answer s line s [] (.error (.invocationFailed cause))

/-! ## One equation for all operations -/

theorem operate_eq_conclude {s : Session} {id : String} {h : Handle}
    {d : Device} (operation : Operation) (hfind : s.find? id = some (h, d)) :
    s.operate id operation = s.conclude h (d.answer operation) := by
  obtain ⟨-, hd⟩ := find?_eq_some_iff.mp hfind
  rw [operate, hfind]
  cases operation with
  | describe =>
      show _ = Reply.mk (s.put h d) [.said .message d.describe] (Except.ok true)
      rw [put_self hd]
      rfl
  | get | set | call => rfl

theorem interpret_of_read {line : String} {command : Command} (loader : Loader)
    (s : Session) (hread : Command.classify (Text.trimmed line) = .ok command) :
    s.interpret loader line =
      { s.execute loader command with
        events := .understood (Text.trimmed line) command ::
            (s.execute loader command).events } := by
  rw [interpret, hread]

theorem interpret_of_device {s : Session} {line id : String}
    {operation : Operation} (loader : Loader)
    (hread : Command.classify (Text.trimmed line) =
      .ok (.device id operation)) :
    s.interpret loader line =
      { s.operate id operation with
        events := .understood (Text.trimmed line) (.device id operation) ::
          (s.operate id operation).events } :=
  interpret_of_read loader s hread

theorem interpret_of_unreadable {s : Session} {line token : String}
    (loader : Loader)
    (hread : Command.classify (Text.trimmed line) =
      .error (.ambiguousParameter token)) :
    s.interpret loader line =
      s.reportUnreadable (Command.identifier (Text.trimmed line))
        (.ambiguousParameter token) := by
  rw [interpret, hread]

theorem answer_conclude {s : Session} {line : String} {h : Handle} {d : Device}
    {operation : Operation}
    (hread : Command.classify line =
      .ok (.device (Command.identifier line) operation))
    (hfind : s.find? (Command.identifier line) = some (h, d)) :
    Answer s line (s.conclude h (d.answer operation)).session
      (s.conclude h (d.answer operation)).transcript
      (s.conclude h (d.answer operation)).result := by
  have hquiet := d.transcript_answer operation
  have hanswers := d.answers_answer operation
  generalize hresult : (d.answer operation).result = result at hanswers
  rw [conclude, hresult]
  cases hanswers with
  | @done outcome =>
      obtain ⟨d', value⟩ := outcome
      cases value with
      | none =>
          show Answer s line (s.put h d')
            (Event.transcript (d.answer operation).events) (.ok true)
          rw [hquiet]
          exact .served hread hfind hresult
      | some value =>
          show Answer s line (s.put h d')
            (Event.transcript ((d.answer operation).events ++
              [.said .message value.render])) (.ok true)
          rw [Event.transcript_append, hquiet]
          exact .served hread hfind hresult
  | @missing member reason =>
      show Answer s line s
        (Event.transcript ((d.answer operation).events ++ [.said .error
          (h.id ++ ": missing member '" ++ member ++ "': " ++
            reason.message member)])) (.ok true)
      rw [Event.transcript_append, hquiet]
      exact .reported (.missing hread hfind hresult)
  | refused hrefuses =>
      show Answer s line s (Event.transcript (d.answer operation).events) _
      rw [hquiet]
      exact .refused hread hfind hrefuses

/-- One of the three things listed comes of every line about a device. -/
theorem answer_interpret (s : Session) (loader : Loader) {line : String}
    (hline : Command.AboutDevice (Text.trimmed line)) :
    Answer s (Text.trimmed line) (s.interpret loader line).session
      (s.interpret loader line).transcript
        (s.interpret loader line).result := by
  rcases hline with ⟨id, operation, hread⟩ | ⟨failure, hread⟩
  · rw [interpret_of_device loader hread]
    obtain rfl := Command.identifier_of_classify hread
    cases hfind : s.find? (Command.identifier (Text.trimmed line)) with
    | none =>
        rw [operate, hfind]
        exact .reported (.unknown hfind)
    | some found =>
        obtain ⟨h, d⟩ := found
        rw [operate_eq_conclude operation hfind]
        exact answer_conclude hread hfind
  · obtain ⟨token, rfl⟩ := Command.ambiguous_of_classify hread
    rw [interpret_of_unreadable loader hread, reportUnreadable]
    split
    · next hregistered => exact .reported (.unreadable hread hregistered)
    · next habsent =>
        have hfind :=
          find?_of_contains_eq_false (Bool.eq_false_of_not_eq_true habsent)
        exact .reported (.unknown hfind)

/-! ## Lines that come to nothing -/

/-- The line failed, or it was not handled, or the operator was told of an
error. -/
def ComesToNothing (reply : Reply (Except Failure Bool)) : Prop :=
  (∃ failure, reply.result = .error failure) ∨ reply.result = .ok false ∨
    ∃ text, (.error, text) ∈ reply.transcript

/-- A line about a device that comes to nothing leaves the session as it was. If
it failed the operator was told nothing, and otherwise it is one complaint. -/
theorem unchanged_of_comesToNothing {s : Session} {loader : Loader}
    {line : String} (hline : Command.AboutDevice (Text.trimmed line))
    (hnothing : ComesToNothing (s.interpret loader line)) :
    (s.interpret loader line).session = s ∧
    ((∃ failure, (s.interpret loader line).result = .error failure) →
      (s.interpret loader line).transcript = []) ∧
    ∀ handled, (s.interpret loader line).result = .ok handled →
      ∃ entry, (s.interpret loader line).transcript = [entry] ∧
        Complaint s (Text.trimmed line) entry handled := by
  have hanswer := answer_interpret s loader hline
  rw [ComesToNothing] at hnothing
  generalize (s.interpret loader line).session = s' at *
  generalize (s.interpret loader line).transcript = transcript at *
  generalize (s.interpret loader line).result = result at *
  cases hanswer with
  | served =>
      rcases hnothing with ⟨failure, hfailed⟩ | hfalse | ⟨text, hmem⟩
      · cases hfailed
      · cases hfalse
      · obtain ⟨value, -, heq⟩ := List.mem_map.mp hmem
        cases heq
  | @reported entry _ hcomplaint =>
      refine ⟨rfl, ?_, ?_⟩
      · rintro ⟨failure, hfailed⟩
        cases hfailed
      · intro handled hresult
        cases hresult
        exact ⟨entry, rfl, hcomplaint⟩
  | refused =>
      refine ⟨rfl, fun _ => rfl, ?_⟩
      intro handled hresult
      cases hresult

/-- Reading a method that has to be called with an argument fails in the second
attempt, and leaves everything as it was. -/
theorem unchanged_of_readToggle :
    Command.AboutDevice (Text.trimmed "lamp.toggle") ∧
    ComesToNothing
      (demo.interpret (.standard fun _ => none) "lamp.toggle") ∧
    (demo.interpret (.standard fun _ => none) "lamp.toggle").session = demo ∧
    (demo.interpret (.standard fun _ => none) "lamp.toggle").transcript =
      [] := by
  have hline : Command.AboutDevice (Text.trimmed "lamp.toggle") :=
    .inl ⟨"lamp", .get "toggle", by decide +kernel⟩
  have hfailed : ∃ failure,
      (demo.interpret (.standard fun _ => none) "lamp.toggle").result =
        .error failure :=
    ⟨.invocationFailed .toggleUsage, rfl⟩
  obtain ⟨hsession, hquiet, -⟩ := unchanged_of_comesToNothing hline
    (.inl hfailed)
  exact ⟨hline, .inl hfailed, hsession, hquiet hfailed⟩

end Session

end DeviceShell
