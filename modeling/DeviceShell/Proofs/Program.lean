import DeviceShell.Program
import DeviceShell.Proofs.Options
import DeviceShell.Proofs.Session.Agreement
import DeviceShell.Proofs.Session.InOrder
import DeviceShell.Proofs.Text.Encoding

/-!
# Commands are an input

A run with commands and a run that finds the same lines on its input differ in
two places: where the bytes come from, and what the exit code is made of.
Everything else is one loop over one list of lines, so the log and the session
at the end are the same, whatever the commands are: a command may be blank or
hold several lines, or be the `exit` after which the others are not heard.

The exit code looks at the summary, and the summary counts the answers to the
lines that were read. A command is text, so no run over commands ends on bytes
that are none (`byteLines_toUTF8`). What is left that can go wrong is a line
that is lost before the run has come to an `exit`. `LosesLine` says so of the
lines alone, and the induction over them is the loop of the run.
-/

namespace DeviceShell

/-! ## Counting the lines that are lost -/

theorem Verdict.ofAnswer_eq_failed_iff {answer : Except Failure Bool} :
    ofAnswer answer = .failed ↔
      ∃ failure, answer = .error failure ∧ failure.recoverable = false := by
  cases answer with
  | ok handled => cases handled <;> simp [ofAnswer]
  | error failure =>
      cases hrecoverable : failure.recoverable <;> simp [ofAnswer, hrecoverable]

theorem Summary.failed_add_pos_iff {summary : Summary} {verdict : Verdict} :
    0 < (summary.add verdict).failed ↔ verdict = .failed ∨
    0 < summary.failed := by
  cases verdict <;> simp [add]

namespace Session

/-- A line fails that is not behind an `exit`, and not in a way that the shell
recovers from. -/
def LosesLine (loader : Loader) (s : Session) (lines : List String) : Prop :=
  ∃ before line later failure, lines = before ++ line :: later ∧
    (∀ earlier ∈ before, Text.trimmed earlier ≠ "exit") ∧
    ((s.interpretAll (interpret loader) before).session.interpret loader
      line).result = .error failure ∧ failure.recoverable = false

section Lost

variable {loader : Loader} {s : Session} {line : String} {rest : List String}

theorem not_losesLine_nil : ¬ s.LosesLine loader [] := by
  rintro ⟨before, line, later, failure, hlines, -⟩
  cases before <;> cases hlines

theorem losesLine_cons :
    s.LosesLine loader (line :: rest) ↔
      Verdict.ofAnswer (s.interpret loader line).result = .failed ∨
        Text.trimmed line ≠ "exit" ∧
        (s.interpret loader line).session.LosesLine loader rest := by
  rw [Verdict.ofAnswer_eq_failed_iff]
  constructor
  · rintro ⟨before, lost, later, failure, hlines, hbefore, hfailed, hlost⟩
    cases before with
    | nil =>
        obtain ⟨rfl, -⟩ := List.cons.inj hlines
        exact .inl ⟨failure, hfailed, hlost⟩
    | cons first others =>
        obtain ⟨rfl, rfl⟩ := List.cons.inj hlines
        obtain ⟨hfirst, hothers⟩ := List.forall_mem_cons.mp hbefore
        exact .inr ⟨hfirst, others, lost, later, failure, rfl, hothers,
          hfailed, hlost⟩
  · rintro (⟨failure, hfailed, hlost⟩ | ⟨hline, before, lost, later, failure,
      rfl, hbefore, hrest⟩)
    · exact ⟨[], line, rest, failure, rfl, List.forall_mem_nil _,
        hfailed, hlost⟩
    · exact ⟨line :: before, lost, later, failure, rfl,
        List.forall_mem_cons.mpr ⟨hline, hbefore⟩, hrest⟩

/-- The loop passes over a blank line, and nothing comes of one that
is interpreted. -/
theorem interpret_of_blank (hblank : (Text.trim line.toList).isEmpty = true) :
    (s.interpret loader line).session = s ∧
    (s.interpret loader line).result = .ok false := by
  have htrimmed : Text.trimmed line = "" := by
    rw [Text.trimmed, List.isEmpty_iff.mp hblank]
  have hread : Command.classify (Text.trimmed line) = .ok .unrecognized := by
    rw [htrimmed]
    rfl
  rw [interpret_of_read loader s hread]
  exact ⟨rfl, rfl⟩

/-- A run over texts comes to its end, and its summary counts a failed line
exactly if one is lost. -/
theorem exists_summary {prompt : Option String} (hs : s.running = true)
    (lines : List String) :
    ∃ summary, (s.run (interpret loader) prompt (lines.map some)).result =
      .ok summary ∧
      (0 < summary.failed ↔ s.LosesLine loader lines) := by
  induction lines generalizing s with
  | nil => exact ⟨{}, rfl, iff_of_false (Nat.lt_irrefl 0) not_losesLine_nil⟩
  | cons line rest ih =>
      rw [List.map_cons, run_cons hs]
      by_cases hblank : (Text.trim line.toList).isEmpty = true
      · obtain ⟨hsame, hanswer⟩ := @interpret_of_blank loader s line hblank
        obtain ⟨summary, hresult, hlost⟩ := ih hs
        have hline : Text.trimmed line ≠ "exit" :=
          fun hexit => not_blank_of_exit hexit hblank
        rw [takeLine_of_blank hblank]
        refine ⟨summary.add .skipped, by rw [Run.after, hresult]; rfl, ?_⟩
        rw [losesLine_cons, hsame, hanswer, ← hlost]
        simp [Summary.add, Verdict.ofAnswer, hline]
      · obtain ⟨hsame, -, hverdict⟩ :=
          @takeLine_of_not_blank (interpret loader) line hblank s
        rw [hsame, hverdict]
        have hflag := running_interpret loader s line
        by_cases hexit : Text.trimmed line = "exit"
        · rw [if_pos hexit] at hflag
          rw [run_of_stopped hflag]
          refine ⟨_, rfl, ?_⟩
          rw [Summary.failed_add_pos_iff, losesLine_cons]
          simp [hexit]
        · rw [if_neg hexit, hs] at hflag
          obtain ⟨summary, hresult, hlost⟩ := ih hflag
          refine ⟨_, by rw [Run.after, hresult]; rfl, ?_⟩
          rw [Summary.failed_add_pos_iff, losesLine_cons, hlost]
          simp [hexit]

end Lost

theorem running_session (settings : Settings) (demo : Bool) :
    (settings.session demo).session.running = true :=
  installAll_induction (P := fun s => s.running = true)
    (configure_induction (P := fun s => s.running = true) rfl fun _ hs => hs)
      fun _ hs => hs

end Session

namespace Program

section Runs

variable {options : Options} {files : Files}
  {environment : Option String} {s : Start}

theorem running_of_start (h : start options files environment = .ok s) :
    s.session.running = true := by
  rw [start] at h
  obtain ⟨loaded, -, rfl⟩ := ok_of_map h
  exact Session.running_session _ _

theorem start_eq_error_iff {failure : Failure} :
    start options files environment = .error failure ↔
      Settings.load files options.config = .error failure := by
  rw [start]
  constructor
  · exact error_of_map
  · intro hload
    rw [hload]
    rfl

theorem verdict_ok (options : Options) (summary : Summary) :
    (verdict options (.ok summary)).2 ≤ 1 ∧
      ((verdict options (.ok summary)).2 = 1 ↔ options.commands ≠ [] ∧
        0 < summary.failed) := by
  have hcommands : (!options.commands.isEmpty) = true ↔
    options.commands ≠ [] := by simp
  rw [verdict]
  split
  · next hfailed =>
      exact ⟨Nat.le_refl 1, iff_of_true rfl ⟨hcommands.mp hfailed.2, hfailed.1⟩⟩
  · next hfine =>
      refine ⟨Nat.zero_le 1, iff_of_false Nat.zero_ne_one ?_⟩
      exact fun ⟨hgiven, hfailed⟩ => hfine ⟨hfailed, hcommands.mpr hgiven⟩

/-- A run over a text exits with 1 if there are commands and a line of the text
is lost, and with 0 otherwise. -/
theorem exitCode_of_start {stdin : ByteArray} {text : String}
    (hstart : start options files environment = .ok s)
    (hinput : input options stdin = text.toUTF8) :
    (runWith options files stdin environment).exitCode ≤ 1 ∧
      ((runWith options files stdin environment).exitCode = 1 ↔
        options.commands ≠ [] ∧
        s.session.LosesLine (s.settings.scripts.loader files)
          (Text.lines text)) := by
  obtain ⟨summary, hresult, hlost⟩ :=
    @Session.exists_summary (s.settings.scripts.loader files)
    s.session none (running_of_start hstart) (Text.lines text)
  have hcode : (runWith options files stdin environment).exitCode =
      (verdict options (.ok summary)).2 := by
    rw [← Text.byteLines_toUTF8, ← hinput] at hresult
    rw [runWith, hstart, ← hresult]
  rw [hcode, ← hlost]
  exact verdict_ok options summary

/-- What is written and the session at the end depend on the commands
only through the input. -/
theorem runWith_congr {commands : List String} {stdin stdin' : ByteArray}
    (hinput : input { options with commands } stdin' = input options stdin) :
    (runWith { options with commands } files stdin' environment).output =
        (runWith options files stdin environment).output ∧
      (runWith { options with commands } files stdin' environment).session =
        (runWith options files stdin environment).session := by
  have hstart : start { options with commands } files environment =
      start options files environment := rfl
  rw [runWith, runWith, hstart, hinput]
  cases start options files environment <;> exact ⟨rfl, rfl⟩

end Runs

/-- What is read from a command line without its commands can be read from
another, and a run over that one whose input is the commands, a line end
between each two of them, writes the same and ends in the same session. With
the commands, the run exits with 1 exactly if there are no settings to be had
or one of the lines in the commands is lost; over the input, it exits with 0
whenever there are settings. -/
theorem commands_agree_with_input {words : List String} {options : Options}
    (hread : Options.read words = .run options)
    (hcommands : options.commands ≠ []) (files : Files) (stdin : ByteArray)
    (environment : Option String) :
    (∃ words', Options.read words' = .run { options with commands := [] }) ∧
    ∀ words', Options.read words' = .run { options with commands := [] } →
      (run words' files (String.intercalate "\n" options.commands).toUTF8
        environment).output = (run words files stdin environment).output ∧
      (run words' files (String.intercalate "\n" options.commands).toUTF8
        environment).session = (run words files stdin environment).session ∧
      ((run words files stdin environment).exitCode = 1 ↔
        (∃ failure, Settings.load files options.config = .error failure) ∨
        ∃ s, start options files environment = .ok s ∧
          s.session.LosesLine (s.settings.scripts.loader files)
            (Text.lines (String.intercalate "\n" options.commands))) ∧
      ((∃ loaded, Settings.load files options.config = .ok loaded) →
        (run words' files (String.intercalate "\n" options.commands).toUTF8
          environment).exitCode = 0) := by
  have husable : options.Usable := Options.exists_read_iff.mp ⟨words, hread⟩
  refine ⟨Options.exists_read_iff.mpr husable, fun words' hread' => ?_⟩
  have hgiven : input options stdin =
      (String.intercalate "\n" options.commands).toUTF8 := by
    rw [input, if_neg (by simpa using hcommands)]
  obtain ⟨houtput, hsession⟩ :=
    @runWith_congr options files environment [] stdin
    (String.intercalate "\n" options.commands).toUTF8 hgiven.symm
  simp only [run, hread, hread']
  refine ⟨houtput, hsession, ?_, ?_⟩
  · cases hstart : start options files environment with
    | error failure =>
        refine iff_of_true ?_ (.inl ⟨failure, start_eq_error_iff.mp hstart⟩)
        rw [runWith, hstart]
    | ok s =>
        have hload : ¬ ∃ failure, Settings.load files options.config =
            .error failure := by
          rintro ⟨failure, hload⟩
          rw [start_eq_error_iff.mpr hload] at hstart
          cases hstart
        rw [(exitCode_of_start hstart hgiven).2, or_iff_right hload,
          and_iff_right hcommands]
        simp only [Except.ok.injEq, exists_eq_left']
  · rintro ⟨loaded, hload⟩
    have hstart : ∃ s, start { options with commands := [] } files environment =
        .ok s := by
      rw [start, hload]
      exact ⟨_, rfl⟩
    obtain ⟨s, hstart⟩ := hstart
    have hpiped : input { options with commands := [] }
        (String.intercalate "\n" options.commands).toUTF8 =
          (String.intercalate "\n" options.commands).toUTF8 := rfl
    obtain ⟨hle, hone⟩ := exitCode_of_start hstart hpiped
    refine Nat.le_zero.mp
      (Nat.le_of_lt_succ (Nat.lt_of_le_of_ne hle fun heq => ?_))
    exact (hone.mp heq).1 rfl

/-- An empty command, a blank one, one of two lines with a value that does not
fit, an `exit` with blanks around it, and one that is not heard. -/
def mixedCommands : List String :=
  ["--demo", "-c", "", "-c \t", "-vclamp.on = 7\nlamp", "--command= exit ",
    "-c", "lamp.on = 8"]

theorem commands_agree_with_input_mixed :
    Options.read mixedCommands = .run
      { commands := ["", " \t", "lamp.on = 7\nlamp", " exit ", "lamp.on = 8"],
        demo := true, verbosity := 1 } ∧
    ["", " \t", "lamp.on = 7\nlamp", " exit ", "lamp.on = 8"] ≠
      ([] : List String) ∧
    (run mixedCommands (fun _ => none) .empty none).exitCode = 1 ∧
    (run ["--demo", "-v"] (fun _ => none)
      "\n \t\nlamp.on = 7\nlamp\n exit \nlamp.on = 8".toUTF8 none).output =
        (run mixedCommands (fun _ => none) .empty none).output := by
  have hread : Options.read mixedCommands = .run
      { commands := ["", " \t", "lamp.on = 7\nlamp", " exit ", "lamp.on = 8"],
        demo := true, verbosity := 1 } := by decide +kernel
  have hcommands : ["", " \t", "lamp.on = 7\nlamp", " exit ", "lamp.on = 8"] ≠
      ([] : List String) :=
    List.cons_ne_nil _ _
  have hread' : Options.read ["--demo", "-v"] =
      .run { demo := true, verbosity := 1 } := by
    decide +kernel
  obtain ⟨houtput, -⟩ :=
    (commands_agree_with_input hread hcommands (fun _ => none) .empty none).2 _
      hread'
  exact ⟨hread, hcommands, by decide +kernel, houtput⟩

end Program

end DeviceShell
