import DeviceShell.Proofs.Session.Agreement
import DeviceShell.Proofs.Session.Tells
import DeviceShell.Settings.Scripts

/-!
# Which lines are not handled

A line is not handled for one of two reasons: it is no command at all, or it is
about a device that is not registered. Everything else is handled or fails, an
order to a device that is not registered among it, and a load that goes wrong.

Whether the device is there is asked in two places. A line that can be read
leads to the device itself, and one with an argument that is no literal is never
so far: the name of the device is taken from the front of the line, and only the
question remains whether something is registered under it. The front of a line
is the device of every line that can be read, and what is registered in a sound
session is one of its devices; so the two places agree, and a device that is
missing is reported before anything that is wrong behind its name.
-/

namespace DeviceShell.Session

variable {s s' : Session} {line : String}
  {transcript : List (Severity × String)} {result : Except Failure Bool}

/-- The line is about a device, and nothing is registered under the name that it
begins with. -/
def AsksUnknown (s : Session) (line : String) : Prop :=
  Command.AboutDevice line ∧
    s.registry.contains (Command.identifier line) = false

/-! ## Lines about a device -/

theorem Answer.of_unknown (h : Answer s line s' transcript result)
    (habsent : s.registry.contains (Command.identifier line) = false) :
    s' = s ∧ result = .ok false ∧
      transcript =
        [(.warning, "Device not found: " ++ Command.identifier line)] := by
  have hnone := find?_of_contains_eq_false habsent
  cases h with
  | served _ hfind | refused _ hfind =>
      rw [hnone] at hfind
      cases hfind
  | reported hcomplaint =>
      cases hcomplaint with
      | unknown => exact ⟨rfl, rfl, rfl⟩
      | missing _ hfind =>
          rw [hnone] at hfind
          cases hfind
      | unreadable _ hregistered =>
          rw [habsent] at hregistered
          cases hregistered

/-- A line about a device that is registered is handled, unless it fails. -/
theorem Answer.ne_unhandled (h : Answer s line s' transcript result)
    {found : Handle × Device}
    (hfind : s.find? (Command.identifier line) = some found) :
    result ≠ .ok false := by
  cases h with
  | served => rintro ⟨⟩
  | refused => rintro ⟨⟩
  | reported hcomplaint =>
      cases hcomplaint with
      | unknown hfind' =>
          rw [hfind] at hfind'
          cases hfind'
      | missing | unreadable => rintro ⟨⟩

/-! ## Every line -/

/-- An order is handled or fails, whether or not there is a device to
obey it. -/
theorem control_ne_unhandled (s : Session) (order : Lifecycle) (id : String) :
    (s.control order id).result ≠ .ok false := by
  intro hresult
  rw [control] at hresult
  split at hresult
  · cases hresult
  · obtain ⟨-, -, heq⟩ := ok_of_map hresult
    cases heq

theorem about_of_unhandled {loader : Loader}
    (hresult : (s.interpret loader line).result = .ok false) :
    Command.classify (Text.trimmed line) = .ok .unrecognized ∨
      Command.AboutDevice (Text.trimmed line) := by
  cases hread : Command.classify (Text.trimmed line) with
  | error failure => exact .inr (.inr ⟨failure, hread⟩)
  | ok command =>
      rw [interpret_of_read loader s hread] at hresult
      cases command with
      | unrecognized => exact .inl rfl
      | device id operation => exact .inr (.inl ⟨id, operation, hread⟩)
      | lifecycle order id =>
          exact absurd hresult (control_ne_unhandled s order id)
      | exit | devices | tasks | help | load => cases hresult

/-- What a session makes of a line that it does not handle, and of one that it
cannot read. A line that is no command is passed over in silence. One about a
device that is not registered is worth a warning that names the device, whatever
is asked of it and whether or not that can be read. An argument that cannot be
read is reported only where there is a device, and nothing is asked of that. -/
structure Sorts (loader : Loader) (s : Session) (line : String) : Prop where
  unhandled : (s.interpret loader line).result = .ok false ↔
    Command.classify (Text.trimmed line) = .ok .unrecognized ∨
    s.AsksUnknown (Text.trimmed line)
  unrecognized : Command.classify (Text.trimmed line) = .ok .unrecognized →
    (s.interpret loader line).transcript = [] ∧
    (s.interpret loader line).session = s
  unknown : s.AsksUnknown (Text.trimmed line) →
    (s.interpret loader line).transcript =
        [(.warning, "Device not found: " ++
          Command.identifier (Text.trimmed line))] ∧
      (s.interpret loader line).session = s
  unreadable : ∀ token,
    Command.classify (Text.trimmed line) = .error (.ambiguousParameter token) →
    s.registry.contains (Command.identifier (Text.trimmed line)) = true →
    Tells loader s line (.error,
      Command.identifier (Text.trimmed line) ++ ": " ++
        ("ambiguous parameter type: " ++ token)) ∧
      ∀ event ∈ (s.interpret loader line).events, event.told?.isSome

/-- Whatever the session and the line, a line is passed over exactly if it is no
command or asks for a device that is not there. -/
theorem sorts_interpret (hs : s.Sound) (loader : Loader) (line : String) :
    s.Sorts loader line := by
  have hnothing : Command.classify (Text.trimmed line) = .ok .unrecognized →
      s.interpret loader line =
        ⟨s, [.understood (Text.trimmed line) .unrecognized], .ok false⟩ :=
    fun hread => interpret_of_read loader s hread
  have hunknown : s.AsksUnknown (Text.trimmed line) →
      (s.interpret loader line).session = s ∧
      (s.interpret loader line).result = .ok false ∧
        (s.interpret loader line).transcript =
          [(.warning, "Device not found: " ++
            Command.identifier (Text.trimmed line))] := by
    rintro ⟨habout, habsent⟩
    exact (answer_interpret s loader habout).of_unknown habsent
  refine ⟨⟨?mp, ?mpr⟩, ?unrecognized, ?unknown, ?unreadable⟩
  case mp =>
    intro hresult
    refine (about_of_unhandled hresult).imp_right fun habout => ⟨habout, ?_⟩
    rw [hs.contains_eq_isSome, Option.isSome_eq_false_iff,
      Option.isNone_iff_eq_none]
    cases hfind : s.find? (Command.identifier (Text.trimmed line)) with
    | none => rfl
    | some found =>
        exact absurd hresult
          ((answer_interpret s loader habout).ne_unhandled hfind)
  case mpr =>
    rintro (hread | hasks)
    · rw [hnothing hread]
    · exact (hunknown hasks).2.1
  case unrecognized =>
    intro hread
    rw [hnothing hread]
    exact ⟨rfl, rfl⟩
  case unknown =>
    intro hasks
    obtain ⟨hsession, -, htold⟩ := hunknown hasks
    exact ⟨htold, hsession⟩
  case unreadable =>
    intro token hread hpresent
    have hinterpret := interpret_of_unreadable (s := s) loader hread
    rw [reportUnreadable, if_pos hpresent] at hinterpret
    refine ⟨⟨by rw [hinterpret]; rfl, ?_, by rw [hinterpret]; rfl⟩, ?_⟩
    · rw [hinterpret]
      rfl
    · rw [hinterpret]
      exact List.forall_mem_singleton.mpr rfl

/-- There is no device of that name, and the argument is no literal. -/
theorem sorts_interpret_missingDesk :
    demo.Sound ∧
    demo.Sorts (.standard fun _ => none) " desk . raise(high)" ∧
    (demo.interpret (.standard fun _ => none)
      " desk . raise(high)").transcript =
        [(.warning, "Device not found: desk")] := by
  have hsound := initial_demo.sound
  have hsorts := sorts_interpret hsound (.standard fun _ => none)
    " desk . raise(high)"
  exact ⟨hsound, hsorts, by decide +kernel⟩

end DeviceShell.Session
