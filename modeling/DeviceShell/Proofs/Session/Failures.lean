import DeviceShell.Proofs.Session.RunLog
import DeviceShell.Session.Startup
import DeviceShell.Settings.Scripts

/-!
# Which lines fail

A failure of an access or of an order is the failure of the line; everything
else that can go wrong is reported, and then the line has not failed. Of the two
kinds of failure only a rig knows the second. Where no rig is registered, the
lines that fail are those that a device refuses (`Device.Refuses`): no built-in
word, no load and no order among them, and no line that cannot be read.

Whatever is registered, every failure is a refused invocation, and none of these
is recoverable. So the reader of lines never counts a failure as unhandled.
-/

namespace DeviceShell

/-- The device is not a rig: it is a property device or a script, or it has
nothing but what all devices have. -/
def Device.Ordinary : Device → Prop
  | .property _ | .script _ | .plain _ => True
  | .rig _ => False

instance : DecidablePred Device.Ordinary
  | .property _ | .script _ | .plain _ => .isTrue trivial
  | .rig _ => .isFalse not_false

namespace Session

/-- No rig is registered. -/
def Ordinary (s : Session) : Prop :=
  ∀ id h d, s.find? id = some (h, d) → d.Ordinary

theorem Ordinary.of_devices {s : Session} (hs : ∀ d ∈ s.devices, d.Ordinary) :
    s.Ordinary :=
  fun _ _ _ hfind => hs _ (mem_devices_of_find? hfind)

/-! ## Orders -/

/-- A device that was told to stop is a rig only if it was this rig before. -/
theorem device?_of_stop_rig {s : Session} {h : Handle} {r : Rig}
    (hrig : (s.stop h).session.device? h = some (.rig r)) :
    s.device? h = some (.rig r) := by
  cases hd : s.device? h with
  | none =>
      rw [stop, order, hd] at hrig
      exact hd.symm.trans hrig
  | some d =>
      rw [stop_session hd, device?_put hd, if_pos rfl] at hrig
      cases d with
      | rig => exact hrig
      | property | script | plain => cases hrig

theorem restart_failed {s : Session} {h : Handle} {failure : Failure}
    (hresult : (s.restart h).result = .error failure) :
    ∃ r text, s.device? h = some (.rig r) ∧
      failure = .invocationFailed (.other text) := by
  rw [restart, Reply.andThen] at hresult
  cases hstop : (s.stop h).result with
  | error refusal =>
      rw [hstop] at hresult
      cases hresult
      exact stop_failed hstop
  | ok =>
      rw [hstop] at hresult
      obtain ⟨r, text, hrig, rfl⟩ := start_failed hresult
      exact ⟨r, text, device?_of_stop_rig hrig, rfl⟩

/-- An order fails only where a rig refuses it. -/
theorem control_failed {s : Session} {order : Lifecycle} {id : String}
    {failure : Failure}
    (hresult : (s.control order id).result = .error failure) :
    ∃ h r text, s.find? id = some (h, .rig r) ∧
      failure = .invocationFailed (.other text) := by
  cases hfind : s.find? id with
  | none =>
      rw [control, hfind] at hresult
      cases hresult
  | some found =>
      obtain ⟨h, d⟩ := found
      obtain ⟨-, hd⟩ := find?_eq_some_iff.mp hfind
      have htold : ∃ r text, s.device? h = some (.rig r) ∧
          failure = .invocationFailed (.other text) := by
        rw [control, hfind] at hresult
        cases order with
        | start => exact start_failed (error_of_map hresult)
        | stop => exact stop_failed (error_of_map hresult)
        | restart => exact restart_failed (error_of_map hresult)
      obtain ⟨r, text, hrig, rfl⟩ := htold
      cases hd.symm.trans hrig
      exact ⟨h, r, text, rfl, rfl⟩

/-! ## Lines -/

/-- A line that fails is refused by a device, and it is an operation on the
device or an order to a rig. -/
inductive Fails (s : Session) (line : String) : Failure → Prop where
  | refused {id operation h d cause}
      (hread : Command.classify line = .ok (.device id operation))
      (hfind : s.find? id = some (h, d))
        (hrefuses : d.Refuses operation cause) :
      Fails s line (.invocationFailed cause)
  | disobeyed {order id h r text}
      (hread : Command.classify line = .ok (.lifecycle order id))
      (hfind : s.find? id = some (h, .rig r)) :
      Fails s line (.invocationFailed (.other text))

theorem Answer.fails {s s' : Session} {line : String}
    {transcript : List (Severity × String)} {failure : Failure}
    (h : Answer s line s' transcript (.error failure)) :
    Fails s line failure := by
  cases h with
  | refused hread hfind hrefuses => exact .refused hread hfind hrefuses

theorem fails_of_interpret {s : Session} {loader : Loader} {line : String}
    {failure : Failure}
    (hresult : (s.interpret loader line).result = .error failure) :
    Fails s (Text.trimmed line) failure := by
  cases hread : Command.classify (Text.trimmed line) with
  | error unread =>
      have hanswer := answer_interpret s loader (.inr ⟨unread, hread⟩)
      rw [hresult] at hanswer
      exact hanswer.fails
  | ok command =>
      cases command with
      | device id operation =>
          have hanswer :=
            answer_interpret s loader (.inl ⟨id, operation, hread⟩)
          rw [hresult] at hanswer
          exact hanswer.fails
      | lifecycle order id =>
          rw [interpret, hread] at hresult
          obtain ⟨h, r, text, hfind, rfl⟩ := control_failed hresult
          exact .disobeyed hread hfind
      | exit | devices | tasks | help | load | unrecognized =>
          rw [interpret, hread] at hresult
          cases hresult

theorem interpret_of_refuses {s : Session} {loader : Loader} {line id : String}
    {operation : Operation} {h : Handle} {d : Device} {cause : Refusal}
    (hread : Command.classify (Text.trimmed line) = .ok (.device id operation))
    (hfind : s.find? id = some (h, d)) (hrefuses : d.Refuses operation cause) :
    (s.interpret loader line).result = .error (.invocationFailed cause) := by
  rw [interpret_of_device loader hread,
    operate_eq_conclude operation hfind, conclude,
    Device.answer_of_refuses hrefuses]

theorem Fails.recoverable_eq_false {s : Session} {line : String}
    {failure : Failure} (h : Fails s line failure) :
    failure.recoverable = false := by
  cases h <;> rfl

/-- Where no rig is registered, exactly those lines fail that ask a device for
what it refuses; and no run lists a failure that is recoverable. -/
theorem interpret_fails_iff {s : Session} (hs : s.Ordinary) (loader : Loader) :
    (∀ line failure, (s.interpret loader line).result = .error failure ↔
      ∃ id operation h d cause,
        Command.classify (Text.trimmed line) = .ok (.device id operation) ∧
        s.find? id = some (h, d) ∧ d.Refuses operation cause ∧
        failure = .invocationFailed cause) ∧
    ∀ prompt lines line failure,
      .lineFailed line failure ∈
        (s.run (interpret loader) prompt lines).events →
        failure.recoverable = false := by
  refine ⟨fun line failure => ⟨?fails, ?refuses⟩, ?listed⟩
  case fails =>
    intro hresult
    cases fails_of_interpret hresult with
    | refused hread hfind hrefuses =>
        exact ⟨_, _, _, _, _, hread, hfind, hrefuses, rfl⟩
    | disobeyed _ hfind => exact (hs _ _ _ hfind).elim
  case refuses =>
    rintro ⟨id, operation, h, d, cause, hread, hfind, hrefuses, rfl⟩
    exact interpret_of_refuses hread hfind hrefuses
  case listed =>
    intro prompt lines line failure hmem
    obtain ⟨-, s', hresult⟩ :=
      lineFailed_of_run (unjudged_interpret loader) hmem
    exact (fails_of_interpret hresult).recoverable_eq_false

/-- A number that is assigned a word. -/
theorem interpret_fails_misfit :
    demo.Ordinary ∧
    (demo.interpret (.standard fun _ => none)
      " lamp.brightness = dim ").result =
        .error (.invocationFailed (.misfit "dim" .integer "brightness")) ∧
    ∀ prompt lines line failure,
      .lineFailed line failure ∈ (demo.run
        (interpret (.standard fun _ => none)) prompt lines).events →
      failure.recoverable = false := by
  have hordinary : demo.Ordinary := .of_devices (by decide +kernel)
  obtain ⟨hfails, hlisted⟩ := interpret_fails_iff hordinary
    (.standard fun _ => none)
  have hcurrent : ({ id := "lamp", description := "Desk lamp"
        : PropertyDevice }.declareAll
      [("brightness", .integer 42), ("on", .bool false),
        ("color", .text "warm white")]).attributes["brightness"]? =
          some (.integer 42) :=
    rfl
  refine ⟨hordinary, (hfails _ _).mpr ?_, hlisted⟩
  exact ⟨"lamp", .set "brightness" "dim", ⟨"lamp", 0⟩, _, _, rfl, rfl,
    .misfit hcurrent rfl, rfl⟩

end Session

end DeviceShell
