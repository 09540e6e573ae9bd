import DeviceShell.Proofs.Command.OuterBlanks
import DeviceShell.Proofs.Session.Answers

/-!
# Calls with arguments that cannot be read

Arguments are read before the device is looked for, and all of them before any
is used. So a call either reaches its device with every argument in its place,
or it does not reach the device at all: there is no call with some of its
arguments. What is reported then is the first token that is no literal, and this
is the only way in which reading a line can fail.
-/

namespace DeviceShell

namespace Session

/-- No device hears of the line: whatever the session, it is as it was, and
nothing has happened but that the operator was told something. -/
def ReachesNoDevice (line : String) : Prop :=
  ∀ (loader : Loader) (s : Session), (s.interpret loader line).session = s ∧
    ∃ severity text, (s.interpret loader line).events = [.said severity text]

theorem reachesNoDevice_of_error {line token : String}
    (hread : Command.classify (Text.trimmed line) =
      .error (.ambiguousParameter token)) :
    ReachesNoDevice line := by
  intro loader s
  rw [interpret_of_unreadable loader hread, reportUnreadable]
  split
  · exact ⟨rfl, _, _, rfl⟩
  · exact ⟨rfl, _, _, rfl⟩

/-- A call has the arguments that its tokens spell, one for each and in their
order, if all of them are literals. Otherwise the first token that is none is
the failure of the line, and no device hears of it. There is no other
failure, whatever the line. -/
theorem classify_arguments :
    (∀ line id name text, Command.CallLine line id name text →
      ((∀ t ∈ Command.tokensOf text, Command.IsLiteral t) →
        ∃ args, (Command.tokensOf text).map Literal.read = args.map .ok ∧
          Command.classify line =
            .ok (.device (String.ofList (Text.trim id))
              (.call (String.ofList (Text.trim name)) args))) ∧
      ((¬ ∀ t ∈ Command.tokensOf text, Command.IsLiteral t) →
        ∃ j token, Command.FirstAmbiguous (Command.tokensOf text) j token ∧
          Command.classify line = .error (.ambiguousParameter token) ∧
          ReachesNoDevice line)) ∧
    ∀ line failure, Command.classify line = .error failure →
      ∃ id name text j token, Command.CallLine line id name text ∧
        Command.FirstAmbiguous (Command.tokensOf text) j token ∧
        failure = .ambiguousParameter token := by
  constructor
  · intro line id name text hcall
    have hclassify := Command.classify_of_callLine hcall
    rcases Command.readArguments_cases text with
      ⟨args, hargs, hread⟩ | ⟨j, token, hfirst, hread⟩
    · rw [hread] at hclassify
      exact ⟨fun _ => ⟨args, hargs, hclassify⟩,
        fun hsome => absurd (Command.isLiteral_of_map_read hargs) hsome⟩
    · rw [hread] at hclassify
      have htrimmed :=
        (Command.classify_trimmed_of_dot hcall.dot_mem).trans hclassify
      exact ⟨fun hall => absurd hall hfirst.not_forall,
        fun _ => ⟨j, token, hfirst, hclassify,
          reachesNoDevice_of_error htrimmed⟩⟩
  · intro line failure hfailed
    obtain ⟨id, name, text, hcall, hread⟩ :=
      Command.exists_callLine_of_error hfailed
    rcases Command.readArguments_cases text with
      ⟨args, -, hok⟩ | ⟨j, token, hfirst, herror⟩
    · rw [hok] at hread
      cases hread
    · rw [herror] at hread
      cases hread
      exact ⟨id, name, text, j, token, hcall, hfirst, rfl⟩

/-- An empty token is skipped, and a comma cuts a text in two, of which the
first half is to blame for all that follows. -/
theorem classify_arguments_say :
    Command.CallLine "lamp.say( 7 ,, \"on\" )" "lamp".toList "say".toList
      " 7 ,, \"on\" ".toList ∧
    (∀ t ∈ Command.tokensOf " 7 ,, \"on\" ".toList, Command.IsLiteral t) ∧
    Command.classify "lamp.say( 7 ,, \"on\" )" =
      .ok (.device "lamp" (.call "say" [.integer 7, .text "on"])) ∧
    Command.CallLine "lamp.say(1,, \"a,b\", x)" "lamp".toList "say".toList
      "1,, \"a,b\", x".toList ∧
    (¬ ∀ t ∈ Command.tokensOf "1,, \"a,b\", x".toList,
      Command.IsLiteral t) ∧
    (∃ j, Command.FirstAmbiguous
      (Command.tokensOf "1,, \"a,b\", x".toList) j "\"a") ∧
    ReachesNoDevice "lamp.say(1,, \"a,b\", x)" := by
  have hgood : Command.CallLine "lamp.say( 7 ,, \"on\" )" "lamp".toList
      "say".toList " 7 ,, \"on\" ".toList :=
    Command.callLine_of_closed (by decide) (by decide +kernel) (by decide)
      (by decide) (by decide) (by decide) (by decide)
  have hread : (Command.tokensOf " 7 ,, \"on\" ".toList).map Literal.read =
      [Literal.integer 7, .text "on"].map .ok := by
    decide +kernel
  have hall := Command.isLiteral_of_map_read hread
  have hbad : Command.CallLine "lamp.say(1,, \"a,b\", x)" "lamp".toList
      "say".toList "1,, \"a,b\", x".toList :=
    Command.callLine_of_closed (by decide) (by decide +kernel) (by decide)
      (by decide) (by decide) (by decide) (by decide)
  have hclassify : Command.classify "lamp.say(1,, \"a,b\", x)" =
      .error (.ambiguousParameter "\"a") := by
    decide +kernel
  have hsome : ¬ ∀ t ∈ Command.tokensOf "1,, \"a,b\", x".toList,
      Command.IsLiteral t := by
    intro hliteral
    obtain ⟨literal, hhalf⟩ := hliteral "\"a" (by decide +kernel)
    have hrefused : Literal.read "\"a" =
        .error (.ambiguousParameter "\"a") := by
      decide +kernel
    rw [hrefused] at hhalf
    cases hhalf
  obtain ⟨args, hargs, hcall⟩ := (classify_arguments.1 _ _ _ _ hgood).1 hall
  obtain ⟨j, token, hfirst, herror, hreaches⟩ :=
    (classify_arguments.1 _ _ _ _ hbad).2 hsome
  rw [hread] at hargs
  obtain rfl := List.map_injective_iff.mpr (fun _ _ => Except.ok.inj) hargs
  rw [hclassify] at herror
  cases herror
  exact ⟨hgood, hall, hcall, hbad, hsome, ⟨j, hfirst⟩, hreaches⟩

end Session

end DeviceShell
