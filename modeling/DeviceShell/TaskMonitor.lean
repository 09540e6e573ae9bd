import DeviceShell.Event
import DeviceShell.Text.Blank

/-!
# Task monitor

The monitor keeps the tasks that are watched, each id once. Watching an id
again puts it at the end, whether or not it is the same instance; so the order
is that of the latest request.
-/

namespace DeviceShell

/-- The watched tasks, oldest request first. -/
structure TaskMonitor where
  tasks : List Handle := []
  deriving DecidableEq, Repr

namespace TaskMonitor

/-- Stops watching whatever has the given id. -/
def unwatch (m : TaskMonitor) (id : String) : TaskMonitor :=
  ⟨m.tasks.filter (·.id ≠ id)⟩

/-- Watches an instance, in place of any other with its id. -/
def watch (m : TaskMonitor) (task : Handle) : TaskMonitor :=
  ⟨(m.unwatch task.id).tasks ++ [task]⟩

/-- The watched ids, in order. -/
def ids (m : TaskMonitor) : List String :=
  m.tasks.map (·.id)

/-- A table of the watched tasks: a heading with their number and a line for
each, or one line that says there are none. -/
def listing (ready : Handle → Bool) (describe : Handle → String)
    (m : TaskMonitor) : List String :=
  if m.tasks.isEmpty then ["(no tasks)"]
  else
    ("Tasks (" ++ Number.countText m.tasks.length ++ "):") ::
      m.tasks.map fun task =>
        "  " ++ Text.padRight 16 task.id ++ " " ++
          Text.padRight 10 (if ready task then "ready" else "not ready") ++
            " " ++ describe task

end TaskMonitor

end DeviceShell
