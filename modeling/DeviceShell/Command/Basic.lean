import DeviceShell.Literal

/-!
# Commands

What a line can mean. A device operation keeps the value of an assignment as
raw text, because only the device knows what kind of value the attribute holds;
arguments of a call are typed by their own spelling.
-/

namespace DeviceShell

/-- What is done with one device. -/
inductive Operation where
  | describe
  | get (name : String)
  | set (name raw : String)
  | call (method : String) (args : List Literal)
  deriving DecidableEq, Repr

/-- The three lifecycle orders. -/
inductive Lifecycle where
  | start
  | stop
  | restart
  deriving DecidableEq, Repr

/-- A line that has been read. -/
inductive Command where
  | exit
  | devices
  | tasks
  | help
  | load (name : String) (args : List String)
  | lifecycle (order : Lifecycle) (id : String)
  | device (id : String) (operation : Operation)
  | unrecognized
  deriving DecidableEq, Repr

namespace Lifecycle

/-- The keyword of an order. -/
def word : Lifecycle → String
  | .start => "start"
  | .stop => "stop"
  | .restart => "restart"

/-- What the shell says it is doing. -/
def verb : Lifecycle → String
  | .start => "starting"
  | .stop => "stopping"
  | .restart => "restarting"

/-- The order with the given keyword. -/
def ofWord? (w : String) : Option Lifecycle :=
  if w = "start" then some .start
  else if w = "stop" then some .stop
  else if w = "restart" then some .restart
  else none

/-- Each order is found by its keyword. -/
theorem ofWord?_word (order : Lifecycle) : ofWord? order.word = some order := by
  cases order <;> decide

end Lifecycle

/-- The command overview. -/
def Command.helpLines : List String :=
  ["Commands:",
    "  devices                   list registered devices",
    "  tasks                     list monitored tasks",
    "  load <script> [args...]   load or reload a script",
    "  start|stop|restart <id>   control a device's lifecycle",
    "  <id>                      describe a device",
    "  <id>.<attr>               read an attribute",
    "  <id>.<attr> = <value>     assign an attribute",
    "  <id>.<method>(args...)    call a method (args: \"text\" or integers)",
    "  exit                      leave the shell"]

end DeviceShell
