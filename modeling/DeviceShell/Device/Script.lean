import DeviceShell.Event
import DeviceShell.Literal
import DeviceShell.Text.Lines

/-!
# Script tasks

A loaded script is a snapshot of a file: the path, the arguments and the lines
are fixed when it is made, and only its state moves. It answers questions about
itself and refuses every assignment.
-/

namespace DeviceShell

/-- A loaded script. -/
structure ScriptTask where
  id : String
  path : String
  args : List String
  source : List String
  state : TaskState := .loaded
  deriving DecidableEq, Repr

namespace ScriptTask

/-- A fresh task for a script text. -/
def ofText (id path : String) (args : List String) (text : String) :
    ScriptTask :=
  { id, path, args, source := Text.lines text }

/-- One line about the task. -/
def describe (t : ScriptTask) : String :=
  "script " ++ t.path ++ " (" ++ t.state.word ++ ")"

/-- A task is ready until it is stopped, and again once it is started. -/
def ready (t : ScriptTask) : Bool :=
  t.state ≠ .stopped

/-- The task in another state, and the event that says so; it is reported also
when the state was that one before. -/
def move (t : ScriptTask) (next : TaskState) : ScriptTask × Event :=
  ({ t with state := next }, .taskMoved t.id t.state next)

/-- The script as one text: its lines with line feeds between them. -/
def text (t : ScriptTask) : String :=
  String.intercalate "\n" t.source

/-- The value of an attribute. -/
def read (t : ScriptTask) (name : String) : Except Failure Value :=
  if name = "path" then .ok (.text t.path)
  else if name = "args" then .ok (.list (t.args.map .text))
  else if name = "state" then .ok (.text t.state.word)
  else if name = "lines" then .ok (.integer (Int64.ofNat t.source.length))
  else .error (.memberNotFound name (.noAttribute ("script " ++ t.id)))

/-- The line with the given number, counted from one. -/
def line? (t : ScriptTask) (n : Int64) : Option String :=
  if 1 ≤ n.toInt then t.source[n.toInt.toNat - 1]? else none

/-- Calls a method. -/
def call (t : ScriptTask) (method : String) (args : List Literal) :
    Except Failure Value :=
  if method = "source" ∧ args = [] then .ok (.text t.text)
  else if method = "line" then
    match args with
    | [.integer n] =>
      match t.line? n with
      | some line => .ok (.text line)
      | none => .error (.invocationFailed (.lineOutOfRange n t.source.length))
    | _ => .error (.invocationFailed .lineUsage)
  else .error (.memberNotFound method (.noMethod ("script " ++ t.id)))

end ScriptTask

end DeviceShell
