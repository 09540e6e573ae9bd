import DeviceShell.Session.Interpret
import DeviceShell.Text.Lines

/-!
# Reading lines until the end

A run takes lines from an input while the shell goes on. The prompt is written
before every attempt to read, so it is written once more when the input ends
than there are lines; blank lines cost a prompt and nothing else. Bytes that
are no text end the run with a failure, after everything before them has had
its effect. A line that fails is logged, and the run goes on.
-/

namespace DeviceShell

/-- What became of a line. -/
inductive Verdict where
  | skipped
  | handled
  | unhandled
  | failed
  deriving DecidableEq, Repr

/-- How many lines had which verdict; skipped lines are not counted. -/
structure Summary where
  handled : Nat := 0
  unhandled : Nat := 0
  failed : Nat := 0
  deriving DecidableEq, Repr

/-- One verdict more. -/
def Summary.add (s : Summary) : Verdict → Summary
  | .skipped => s
  | .handled => { s with handled := s.handled + 1 }
  | .unhandled => { s with unhandled := s.unhandled + 1 }
  | .failed => { s with failed := s.failed + 1 }

/-- What is logged about a run that came to its end. -/
def Summary.events (s : Summary) : List Event :=
  [.finished s.handled s.unhandled s.failed]

/-- The outcome of a run: besides the session and the events, what was written
to the output, and the summary unless the input failed. -/
structure Run where
  session : Session
  events : List Event
  written : String
  result : Except Failure Summary

/-- The run with a line before it: what happened on that line, what was written
before it was read, and its verdict. -/
def Run.after (r : Run) (events : List Event) (written : String)
    (verdict : Verdict) : Run where
  session := r.session
  events := events ++ r.events
  written := written ++ r.written
  result := r.result.map (·.add verdict)

namespace Session

/-- Takes one line: skips it if it is blank, and otherwise interprets it and
judges the answer. -/
def takeLine (interpret : Session → String → Reply (Except Failure Bool))
    (s : Session) (line : String) : Reply Verdict :=
  if (Text.trim line.toList).isEmpty then ⟨s, [], .skipped⟩
  else
    let reply := interpret s line
    match reply.result with
    | .ok true => ⟨reply.session, reply.events, .handled⟩
    | .ok false =>
      ⟨reply.session, reply.events ++ [.unhandled line], .unhandled⟩
    | .error failure =>
      ⟨reply.session, reply.events ++ [.lineFailed line failure],
        if failure.recoverable then .unhandled else .failed⟩

/-- Runs over the lines of an input, `none` standing for a line that is not
text. -/
def run (interpret : Session → String → Reply (Except Failure Bool))
    (prompt : Option String) (s : Session) : List (Option String) → Run
  | [] => ⟨s, [], if s.running then prompt.getD "" else "", .ok {}⟩
  | line :: rest =>
    if s.running then
      match line with
      | none => ⟨s, [], prompt.getD "", .error (.input .notText)⟩
      | some line =>
        let reply := takeLine interpret s line
        (run interpret prompt reply.session rest).after reply.events
          (prompt.getD "") reply.result
    else ⟨s, [], "", .ok {}⟩

end Session

end DeviceShell
