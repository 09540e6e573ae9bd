import DeviceShell.Proofs.Command.Keywords
import DeviceShell.Proofs.Session.Answers
import DeviceShell.Proofs.Text.Lines
import DeviceShell.Session.Run
import DeviceShell.Session.Startup

/-!
# A run is its lines in order

A run is a loop around a flag that is cleared somewhere else, in the middle of
interpreting a line. From the outside nothing of that can be seen: a run reads
its input up to the first line that is `exit` or is no text, interprets what it
has read and is not blank, one line after the other, and counts the answers.
`ReadUpTo` says which lines those are and looks at nothing but the lines.

The flag is the point where the two meet. Interpreting a line clears it if the
line is `exit` and leaves it alone otherwise (`running_interpret`), whatever
devices there are and whatever becomes of the line. The induction over the lines
uses no more of the interpreter than that.
-/

namespace DeviceShell

/-! ## What is read -/

/-- Why a run reads no further. -/
inductive Stop where
  | inputEnded
  | exit
  | notText
  deriving DecidableEq, Repr

/-- The line is text, and it is not the one that ends a run. -/
def GoesOn (line : Option String) : Prop :=
  ∃ text, line = some text ∧ Text.trimmed text ≠ "exit"

/-- The lines of an input that are read, and why no more are. The line that
makes a run stop has been read itself. -/
inductive ReadUpTo :
    List (Option String) → List (Option String) → Stop → Prop where
  | inputEnded {lines} : (∀ line ∈ lines, GoesOn line) →
      ReadUpTo lines lines .inputEnded
  | exit {before text later} : (∀ line ∈ before, GoesOn line) →
      Text.trimmed text = "exit" →
      ReadUpTo (before ++ some text :: later) (before ++ [some text]) .exit
  | notText {before later} : (∀ line ∈ before, GoesOn line) →
      ReadUpTo (before ++ none :: later) (before ++ [none]) .notText

theorem ReadUpTo.cons {line : Option String} {lines read : List (Option String)}
    {stop : Stop} (hline : GoesOn line) (h : ReadUpTo lines read stop) :
    ReadUpTo (line :: lines) (line :: read) stop := by
  cases h with
  | inputEnded hlines =>
      exact .inputEnded (List.forall_mem_cons.mpr ⟨hline, hlines⟩)
  | exit hbefore hexit =>
      exact .exit (List.forall_mem_cons.mpr ⟨hline, hbefore⟩) hexit
  | notText hbefore =>
      exact .notText (List.forall_mem_cons.mpr ⟨hline, hbefore⟩)

/-- The lines that are interpreted, of those that were read: the texts that are
not blank. -/
def heard (read : List (Option String)) : List String :=
  (read.filterMap id).filter fun text => !(Text.trim text.toList).isEmpty

theorem heard_cons_of_blank {text : String}
    (hblank : (Text.trim text.toList).isEmpty = true)
    (read : List (Option String)) : heard (some text :: read) = heard read := by
  rw [heard, List.filterMap_cons_some (f := id) rfl,
    List.filter_cons_of_neg (by simp [hblank]), heard]

theorem heard_cons_of_not_blank {text : String}
    (hblank : ¬ (Text.trim text.toList).isEmpty = true)
    (read : List (Option String)) :
    heard (some text :: read) = text :: heard read := by
  rw [heard, List.filterMap_cons_some (f := id) rfl,
    List.filter_cons_of_pos (by simpa using hblank), heard]

/-! ## What is counted -/

/-- What the answer to a line counts as. -/
def Verdict.ofAnswer : Except Failure Bool → Verdict
  | .ok true => .handled
  | .ok false => .unhandled
  | .error failure => if failure.recoverable then .unhandled else .failed

/-- How many answers count as handled, as unhandled and as failed. -/
def Summary.ofAnswers (answers : List (Except Failure Bool)) : Summary where
  handled := (answers.map Verdict.ofAnswer).count .handled
  unhandled := (answers.map Verdict.ofAnswer).count .unhandled
  failed := (answers.map Verdict.ofAnswer).count .failed

theorem Verdict.ofAnswer_ne_skipped (answer : Except Failure Bool) :
    ofAnswer answer ≠ .skipped := by
  rw [ofAnswer.eq_def]
  repeat' split
  all_goals exact Verdict.noConfusion

theorem Summary.ofAnswers_cons (answer : Except Failure Bool)
    (answers : List (Except Failure Bool)) :
    ofAnswers (answer :: answers) =
      (ofAnswers answers).add (.ofAnswer answer) := by
  have hskipped := Verdict.ofAnswer_ne_skipped answer
  rw [ofAnswers, List.map_cons]
  cases hverdict : Verdict.ofAnswer answer with
  | skipped => exact absurd hverdict hskipped
  | handled | unhandled | failed => simp [add, ofAnswers]

/-- Every answer is counted once. -/
theorem Summary.total_ofAnswers (answers : List (Except Failure Bool)) :
    (ofAnswers answers).handled + (ofAnswers answers).unhandled +
      (ofAnswers answers).failed = answers.length := by
  induction answers with
  | nil => rfl
  | cons answer answers ih =>
      have hskipped := Verdict.ofAnswer_ne_skipped answer
      rw [ofAnswers_cons, List.length_cons, ← ih]
      cases hverdict : Verdict.ofAnswer answer with
      | skipped => exact absurd hverdict hskipped
      | handled | unhandled | failed => simp only [add]; omega

namespace Session

/-! ## One line after the other -/

/-- Interprets lines one after the other: the session afterwards, everything
that happened on the way, and the answer to each line. -/
def interpretAll (interpret : Session → String → Reply (Except Failure Bool))
    (s : Session) : List String → Reply (List (Except Failure Bool))
  | [] => ⟨s, [], []⟩
  | line :: rest =>
    (interpret s line).andThen fun s answer =>
      let later := interpretAll interpret s rest
      { later with result := answer :: later.result }

theorem length_result_interpretAll
    (interpret : Session → String → Reply (Except Failure Bool)) (s : Session)
    (lines : List String) :
    (s.interpretAll interpret lines).result.length = lines.length := by
  induction lines generalizing s with
  | nil => rfl
  | cons line rest ih => exact congrArg (· + 1) (ih _)

/-- One more line is interpreted after the others, and what it has to say comes
after what has been said. -/
theorem interpretAll_concat
    (interpret : Session → String → Reply (Except Failure Bool)) (s : Session)
    (lines : List String) (line : String) :
    (s.interpretAll interpret (lines ++ [line])).session =
        (interpret (s.interpretAll interpret lines).session line).session ∧
      (s.interpretAll interpret (lines ++ [line])).transcript =
        (s.interpretAll interpret lines).transcript ++
          (interpret (s.interpretAll interpret lines).session
            line).transcript := by
  induction lines generalizing s with
  | nil =>
      refine ⟨rfl, ?_⟩
      show Event.transcript ((interpret s line).events ++ []) = _
      rw [List.append_nil]
      rfl
  | cons first rest ih =>
      obtain ⟨hsession, htold⟩ := ih (interpret s first).session
      refine ⟨hsession, ?_⟩
      show Event.transcript ((interpret s first).events ++ _) =
        Event.transcript ((interpret s first).events ++ _) ++ _
      rw [Event.transcript_append, Event.transcript_append, List.append_assoc]
      exact congrArg (Event.transcript (interpret s first).events ++ ·) htold

/-! ## The flag -/

theorem Retired.running_eq {s s' : Session} {base : String}
    (h : Retired s base s') :
    s'.running = s.running := by
  cases h <;> rfl

theorem Effect.running_eq {loader : Loader} {s s' : Session} {command : Command}
    (h : Effect loader s command s') (hcommand : command ≠ .exit) :
    s'.running = s.running := by
  cases h with
  | exit => exact absurd rfl hcommand
  | devices | tasks | help | unrecognized | nameless | unheard | missing => rfl
  | ordered | served => rfl
  | refused _ _ _ hretired => exact hretired.running_eq
  | loaded _ _ _ hretired => exact hretired.running_eq

/-- A line clears the flag if it is `exit` and leaves it alone otherwise. -/
theorem running_interpret (loader : Loader) (s : Session) (line : String) :
    (s.interpret loader line).session.running =
      if Text.trimmed line = "exit" then false else s.running := by
  have hstep := step_interpret loader s line
  generalize (s.interpret loader line).session = s' at hstep
  split
  · next hexit =>
      cases hstep with
      | unread hread =>
          rw [Command.classify_eq_exit_iff.mpr hexit] at hread
          cases hread
      | read hread heffect =>
          rw [Command.classify_eq_exit_iff.mpr hexit] at hread
          cases hread
          cases heffect
          rfl
  · next hexit =>
      cases hstep with
      | unread => rfl
      | read hread heffect =>
          refine heffect.running_eq ?_
          rintro rfl
          exact hexit (Command.classify_eq_exit_iff.mp hread)

/-! ## Runs -/

section Run

variable {interpret : Session → String → Reply (Except Failure Bool)}
  {prompt : Option String}

/-- A run and the lines that it has read, done one after the other: the
same session, the same told to the operator, a prompt for every line
and one more if the input had no more lines, and the answers counted
unless a line was no text. -/
structure InOrder (prompt : Option String) (r : Run)
    (all : Reply (List (Except Failure Bool)))
    (read : List (Option String)) (stop : Stop) : Prop where
  session : r.session = all.session
  transcript : Event.transcript r.events = all.transcript
  written : r.written = String.join
    (List.replicate (read.length + if stop = .inputEnded then 1 else 0)
      (prompt.getD ""))
  result : r.result =
    if stop = .notText then .error (.input .notText)
    else .ok (.ofAnswers all.result)

/-- A session that does not go on reads nothing. -/
theorem run_of_stopped {s : Session} (hs : s.running = false)
    (lines : List (Option String)) :
    s.run interpret prompt lines = ⟨s, [], "", .ok {}⟩ := by
  cases lines with
  | nil => simp [run, hs]
  | cons line rest => simp [run, hs]

theorem run_cons {s : Session} (hs : s.running = true) (text : String)
    (rest : List (Option String)) :
    s.run interpret prompt (some text :: rest) =
      ((takeLine interpret s text).session.run interpret prompt rest).after
        (takeLine interpret s text).events (prompt.getD "")
          (takeLine interpret s text).result := by
  rw [run, if_pos hs]

theorem takeLine_of_blank {text : String}
    (hblank : (Text.trim text.toList).isEmpty = true) (s : Session) :
    takeLine interpret s text = ⟨s, [], .skipped⟩ :=
  if_pos hblank

theorem takeLine_of_not_blank {text : String}
    (hblank : ¬ (Text.trim text.toList).isEmpty = true) (s : Session) :
    (takeLine interpret s text).session = (interpret s text).session ∧
      (takeLine interpret s text).transcript = (interpret s text).transcript ∧
      (takeLine interpret s text).result =
        .ofAnswer (interpret s text).result := by
  have hnote : ∀ events note, Event.told? note = none →
      Event.transcript (events ++ [note]) = Event.transcript events := by
    intro events note hnote
    have hnothing : Event.transcript [note] = [] :=
      List.filterMap_cons_none hnote
    rw [Event.transcript_append, hnothing, List.append_nil]
  rw [takeLine, if_neg hblank]
  simp only []
  split
  · next hanswer => exact ⟨rfl, rfl, by rw [hanswer]; rfl⟩
  · next hanswer => exact ⟨rfl, hnote _ _ rfl, by rw [hanswer]; rfl⟩
  · next hanswer => exact ⟨rfl, hnote _ _ rfl, by rw [hanswer]; rfl⟩

theorem not_blank_of_exit {text : String} (hexit : Text.trimmed text = "exit") :
    ¬ (Text.trim text.toList).isEmpty = true := by
  intro hblank
  rw [Text.trimmed, List.isEmpty_iff.mp hblank] at hexit
  exact absurd hexit (by decide)

/-- One more line in front of a run is one more line to interpret, unless it is
blank; it is read in any case. -/
theorem InOrder.after {s : Session} {text : String} {r : Run}
    {read : List (Option String)} {stop : Stop}
    (h : InOrder prompt r
      ((takeLine interpret s text).session.interpretAll interpret (heard read))
        read stop) :
    InOrder prompt
      (r.after (takeLine interpret s text).events (prompt.getD "")
        (takeLine interpret s text).result)
      (s.interpretAll interpret (heard (some text :: read)))
        (some text :: read) stop := by
  obtain ⟨hsession, htranscript, hwritten, hresult⟩ := h
  have hprompts : prompt.getD "" ++ r.written = String.join
      (List.replicate ((some text :: read).length + if stop = .inputEnded then 1
        else 0) (prompt.getD "")) := by
    rw [hwritten, List.length_cons, Nat.add_right_comm, List.replicate_succ,
      String.join_cons]
  by_cases hblank : (Text.trim text.toList).isEmpty = true
  · rw [takeLine_of_blank hblank] at hsession htranscript hresult
    rw [takeLine_of_blank hblank, heard_cons_of_blank hblank]
    refine ⟨hsession, htranscript, hprompts, ?_⟩
    show r.result.map (·.add .skipped) = _
    rw [hresult]
    split <;> rfl
  · obtain ⟨hsame, htold, hverdict⟩ :=
      @takeLine_of_not_blank interpret text hblank s
    rw [hsame] at hsession htranscript hresult
    rw [heard_cons_of_not_blank hblank, hverdict]
    refine ⟨hsession, ?_, hprompts, ?_⟩
    · show Event.transcript ((takeLine interpret s text).events ++ r.events) =
        Event.transcript ((interpret s text).events ++ _)
      rw [Event.transcript_append, Event.transcript_append, htranscript]
      exact congrArg (· ++ _) htold
    · have hcounted : (s.interpretAll interpret (text :: heard read)).result =
          (interpret s text).result ::
            ((interpret s text).session.interpretAll interpret
              (heard read)).result :=
        rfl
      rw [Run.after, hresult, hcounted, Summary.ofAnswers_cons]
      split <;> rfl

/-- Whatever is read is read up to the first line that stops the run,
and done in order. -/
theorem exists_inOrder
    (hflag : ∀ s line, (interpret s line).session.running =
      if Text.trimmed line = "exit" then false else s.running) {s : Session}
    (hs : s.running = true) (lines : List (Option String)) :
    ∃ read stop, ReadUpTo lines read stop ∧
      InOrder prompt (s.run interpret prompt lines)
        (s.interpretAll interpret (heard read)) read stop := by
  induction lines generalizing s with
  | nil =>
      refine ⟨[], .inputEnded, .inputEnded (List.forall_mem_nil _), rfl,
        rfl, ?_, rfl⟩
      rw [run, if_pos hs]
      simp
  | cons line rest ih =>
      cases line with
      | none =>
          refine ⟨[none], .notText, .notText (List.forall_mem_nil _), ?_⟩
          rw [run, if_pos hs]
          exact ⟨rfl, rfl, by simp, rfl⟩
      | some text =>
          rw [run_cons hs]
          by_cases hexit : Text.trimmed text = "exit"
          · have hstopped : (takeLine interpret s text).session.running =
                false := by
              rw [(takeLine_of_not_blank (not_blank_of_exit hexit) s).1, hflag,
                if_pos hexit]
            have hrest : InOrder prompt
                ((takeLine interpret s text).session.run interpret prompt rest)
                ((takeLine interpret s text).session.interpretAll interpret
                  (heard [])) [] .exit := by
              rw [run_of_stopped hstopped]
              exact ⟨rfl, rfl, rfl, rfl⟩
            exact ⟨[some text], .exit, .exit (List.forall_mem_nil _) hexit,
              hrest.after⟩
          · have hrunning : (takeLine interpret s text).session.running =
                true := by
              by_cases hblank : (Text.trim text.toList).isEmpty = true
              · rw [takeLine_of_blank hblank]
                exact hs
              · rw [(takeLine_of_not_blank hblank s).1, hflag, if_neg hexit]
                exact hs
            obtain ⟨read, stop, hread, hrest⟩ := ih hrunning
            exact ⟨some text :: read, stop, hread.cons ⟨text, rfl, hexit⟩,
              hrest.after⟩

end Run

/-- A run over bytes reads the lines in them up to the first that is `exit` or
no text, and is what those lines are when they are interpreted in order. Unless
it ended on a line that was no text, every line interpreted is counted once. A
session that does not go on reads nothing. -/
theorem run_inOrder (loader : Loader) (s : Session) (prompt : Option String)
    (bytes : ByteArray) :
    (s.running = true → ∃ lines read stop,
      Text.CutIntoLines 10 13 bytes.data.toList lines ∧
      ReadUpTo (lines.map fun line => String.fromUTF8? ⟨line.toArray⟩) read
        stop ∧
      InOrder prompt (s.run (interpret loader) prompt (Text.byteLines bytes))
        (s.interpretAll (interpret loader) (heard read)) read stop ∧
      ∀ summary,
      (s.run (interpret loader) prompt (Text.byteLines bytes)).result =
        .ok summary →
        summary.handled + summary.unhandled + summary.failed =
          (heard read).length) ∧
    (s.running = false →
      s.run (interpret loader) prompt (Text.byteLines bytes) =
        ⟨s, [], "", .ok {}⟩) := by
  refine ⟨fun hs => ?_, fun hs => run_of_stopped hs _⟩
  have hcut := (Text.linesBy_eq_iff (by decide)).mp
    (rfl : Text.linesBy 10 13 bytes.data.toList = _)
  obtain ⟨read, stop, hread, hrun⟩ :=
    @exists_inOrder _ prompt (running_interpret loader) s hs
      (Text.byteLines bytes)
  refine ⟨_, read, stop, hcut, hread, hrun, ?_⟩
  intro summary hresult
  rw [hrun.result] at hresult
  split at hresult
  · cases hresult
  · cases hresult
    rw [Summary.total_ofAnswers, length_result_interpretAll]

/-- A line that is answered, a blank one, an unknown device, a value that does
not fit, and the end of the run; bytes that are no text come too late. -/
def mixedInput : ByteArray :=
  "lamp\r\n \n ghost\nlamp.on = 7\n exit \nlamp\n".toUTF8 ++ ⟨#[255, 10]⟩

theorem run_inOrder_mixedInput :
    demo.running = true ∧
    (∃ lines read stop,
      Text.CutIntoLines 10 13 mixedInput.data.toList lines ∧
      ReadUpTo (lines.map fun line => String.fromUTF8? ⟨line.toArray⟩)
        read stop ∧
      InOrder (some "> ")
        (demo.run (interpret (.standard fun _ => none)) (some "> ")
          (Text.byteLines mixedInput))
        (demo.interpretAll (interpret (.standard fun _ => none)) (heard read))
        read stop) ∧
    (demo.run (interpret (.standard fun _ => none)) (some "> ")
      (Text.byteLines mixedInput)).written = "> > > > > " ∧
    (demo.run (interpret (.standard fun _ => none)) (some "> ")
      (Text.byteLines mixedInput)).result =
        .ok { handled := 2, unhandled := 1, failed := 1 } := by
  have hs : demo.running = true := rfl
  obtain ⟨lines, read, stop, hlines, hread, hrun, -⟩ := (run_inOrder
    (.standard fun _ => none) _ (some "> ") mixedInput).1 hs
  exact ⟨hs, ⟨lines, read, stop, hlines, hread, hrun⟩, by decide +kernel,
    by decide +kernel⟩

end Session

end DeviceShell
