import DeviceShell.Proofs.Command.Canonical
import DeviceShell.Proofs.Session.Answers

/-!
# Lines that are answered and change nothing

Most of what is typed asks for something. The line is handled, the operator is
told one thing, and the session is as it was: that is the whole of the reply,
and `Tells` says so in one word. A member that is not there is answered in the
same way, with an error in the place of the value.

What a device has to say to an operation is `Device.answer`. The lemmas here
take it to the line, and what is left to show about a line is how it is read
and what the device answers.
-/

namespace DeviceShell.Session

/-- The line is handled, the operator is told the entry and nothing else, and
the session is as it was. -/
structure Tells (loader : Loader) (s : Session) (line : String)
    (entry : Severity × String) : Prop where
  handled : (s.interpret loader line).result = .ok true
  told : (s.interpret loader line).transcript = [entry]
  unchanged : (s.interpret loader line).session = s

variable {s : Session} {line id : String} {operation : Operation} {h : Handle}
  {d : Device}

/-- A device that answers with a value and is as it was before. -/
theorem tells_of_answer {value : Value} (loader : Loader)
    (hread : Command.classify (Text.trimmed line) = .ok (.device id operation))
    (hfind : s.find? id = some (h, d))
    (hanswer : (d.answer operation).result = .ok (d, some value)) :
    Tells loader s line (.message, value.render) := by
  obtain ⟨-, hd⟩ := find?_eq_some_iff.mp hfind
  have hinterpret := interpret_of_device (s := s) loader hread
  rw [operate_eq_conclude operation hfind, conclude, hanswer] at hinterpret
  refine ⟨by rw [hinterpret], ?_, ?_⟩
  · rw [hinterpret]
    show Event.transcript
      ((d.answer operation).events ++ [.said .message value.render]) = _
    rw [Event.transcript_append, d.transcript_answer operation]
    rfl
  · rw [hinterpret]
    exact put_self hd

/-- The same of an operation as it is written. -/
theorem tells_render {value : Value} (loader : Loader)
    (hid : Command.IsDeviceId id) (hop : operation.Writable)
    (hmember : operation ≠ .describe) (hfind : s.find? id = some (h, d))
    (hanswer : (d.answer operation).result = .ok (d, some value)) :
    Tells loader s (operation.render id) (.message, value.render) :=
  tells_of_answer loader (Command.classify_trimmed_render hid hop hmember)
    hfind hanswer

/-- A device that has no such member. -/
theorem tells_of_missing {member : String} {reason : Absence} (loader : Loader)
    (hread : Command.classify (Text.trimmed line) = .ok (.device id operation))
    (hfind : s.find? id = some (h, d))
    (hmissing : (d.answer operation).result =
      .error (.memberNotFound member reason)) :
    Tells loader s line
      (.error, h.id ++ ": missing member '" ++ member ++ "': " ++
        reason.message member) := by
  have hinterpret := interpret_of_device (s := s) loader hread
  rw [operate_eq_conclude operation hfind, conclude, hmissing] at hinterpret
  refine ⟨by rw [hinterpret], ?_, by rw [hinterpret]⟩
  rw [hinterpret]
  show Event.transcript ((d.answer operation).events ++ [.said .error
    (h.id ++ ": missing member '" ++ member ++ "': " ++
      reason.message member)]) = _
  rw [Event.transcript_append, d.transcript_answer operation]
  rfl

/-- The name of a device asks for its description. -/
theorem tells_describe (loader : Loader) (hid : Command.IsDeviceId id)
    (hword : id ∉ Command.reservedWords) (hfind : s.find? id = some (h, d)) :
    Tells loader s id (.message, d.describe) := by
  have hread : Command.classify (Text.trimmed id) =
      .ok (.device id .describe) := by
    rw [hid.1.trimmed_eq]
    exact Command.classify_of_isDeviceId hid hword
  have htells : Tells loader s id (.message, (Value.text d.describe).render) :=
    tells_of_answer loader hread hfind rfl
  exact htells

end DeviceShell.Session
