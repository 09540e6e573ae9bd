import DeviceShell.Command.Spelling
import DeviceShell.Failure
import DeviceShell.Number.Whole

/-!
# Events and their log records

Whatever the shell does besides changing state, it reports as an event: what it
tells the operator, what it asks of the registry, the task monitor and the
devices, and the steps worth a line in the log. Events are kept apart from
their wording. `Event.records` is the only place that knows how an event reads
in the log, and the order of events is the order in which things happened, so
a statement about "what was called before what" is a statement about a list.
-/

namespace DeviceShell

/-- How a message to the operator is meant. -/
inductive Severity where
  | message
  | warning
  | error
  deriving DecidableEq, Repr

/-- The levels of the log, most urgent first. -/
inductive LogLevel where
  | error
  | warn
  | info
  | debug
  | trace
  deriving DecidableEq, Repr

/-- One entry of the log. `origin` names the part of the program it comes
from. -/
structure Record where
  level : LogLevel
  origin : String
  text : String
  deriving DecidableEq, Repr

/-- A device instance: its id and its place in the inventory of all devices
ever made. Two instances may share an id and never share a serial number. -/
structure Handle where
  id : String
  serial : Nat
  deriving DecidableEq, Repr

/-- The life of a script task. -/
inductive TaskState where
  | loaded
  | running
  | stopped
  deriving DecidableEq, Repr

/-- The two sources of scripts. -/
inductive Lane where
  | primary
  | secondary
  deriving DecidableEq, Repr

/-- Something the shell did. -/
inductive Event where
  | said (severity : Severity) (text : String)
  | registered (device : Handle) (replaced : Bool)
  | unregistered (id : String)
  | watched (task : Handle)
  | unwatched (id : String)
  | toldToStart (device : Handle)
  | toldToStop (device : Handle)
  | requested (lane : Lane) (base : String) (args : List String)
  | loading (name base : String) (argCount : Nat)
  | scriptRead (base path : String)
  | taskMoved (id : String) (before after : TaskState)
  | notAnAttribute (id name : String)
  | assigning (id name raw : String)
  | calling (id method : String) (argCount : Nat)
  | stopRequested
  | deviceConfigured (id : String) (attributeCount : Nat)
  | settingsAbsent (path : String)
  | settingsTaken (spelled : String)
  | started (deviceCount : Nat) (scriptDir : String)
  | understood (line : String) (command : Command)
  | loadFailed (name : String) (failure : Failure)
  | unhandled (line : String)
  | lineFailed (line : String) (failure : Failure)
  | finished (done missed lost : Nat)
  deriving DecidableEq, Repr

/-- The name of a severity. -/
def Severity.word : Severity → String
  | .message => "message"
  | .warning => "warning"
  | .error => "error"

/-- The log level at which a message to the operator is logged. -/
def Severity.level : Severity → LogLevel
  | .message => .info
  | .warning => .warn
  | .error => .error

/-- The name of a log level. -/
def LogLevel.word : LogLevel → String
  | .error => "ERROR"
  | .warn => "WARN"
  | .info => "INFO"
  | .debug => "DEBUG"
  | .trace => "TRACE"

/-- Urgency as a number: the more urgent, the smaller. -/
def LogLevel.rank : LogLevel → Nat
  | .error => 1
  | .warn => 2
  | .info => 3
  | .debug => 4
  | .trace => 5

/-- The word for a task state. -/
def TaskState.word : TaskState → String
  | .loaded => "loaded"
  | .running => "running"
  | .stopped => "stopped"

namespace Record

/-- The origin of what the operator is told, and of the program's own lines. -/
def outputOrigin : String := "devsh"

/-- The version the program reports of itself. -/
def version : String := "0.1.0"

end Record

/-- The log records of an event, in the order in which they are written. -/
def Event.records : Event → List Record
  | .said severity text => [⟨severity.level, Record.outputOrigin, text⟩]
  | .registered device replaced =>
    ⟨.debug, "devsh_platform::memory", "registry: add " ++ device.id⟩ ::
      if replaced then
        [⟨.warn, "devsh_platform::memory",
          "registry: replaced existing entry " ++ device.id⟩]
      else []
  | .unregistered id =>
    [⟨.debug, "devsh_platform::memory", "registry: remove " ++ id⟩]
  | .watched task =>
    [⟨.debug, "devsh_platform::memory", "monitor: add " ++ task.id⟩]
  | .unwatched id =>
    [⟨.debug, "devsh_platform::memory", "monitor: remove " ++ id⟩]
  | .toldToStart _ | .toldToStop _ | .requested .. => []
  | .loading name base argCount =>
    [⟨.debug, "devsh_terminal::loader",
      "load: " ++ name ++ " -> base '" ++ base ++ "', " ++
        Number.countText argCount ++ " arg(s)"⟩]
  | .scriptRead base path =>
    [⟨.info, "devsh_platform::script",
      "loaded script " ++ base ++ " from " ++ path⟩]
  | .taskMoved id before after =>
    [⟨.debug, "devsh_platform::script",
      "script " ++ id ++ ": " ++ before.word ++ " -> " ++ after.word⟩]
  | .notAnAttribute id name =>
    [⟨.trace, "devsh_platform::invoker",
      id ++ ": '" ++ name ++ "' is not an attribute, trying a method"⟩]
  | .assigning id name raw =>
    [⟨.trace, "devsh_platform::invoker",
      id ++ ": set " ++ name ++ " = " ++ raw⟩]
  | .calling id method argCount =>
    [⟨.trace, "devsh_platform::invoker",
      id ++ ": call " ++ method ++ " with " ++ Number.countText argCount ++
        " param(s)"⟩]
  | .stopRequested =>
    [⟨.debug, "devsh_platform::run_loop", "run loop: stop requested"⟩]
  | .deviceConfigured id attributeCount =>
    [⟨.debug, "devsh::setup",
      "registering " ++ id ++ " (" ++ Number.countText attributeCount ++
        " attributes)"⟩]
  | .settingsAbsent path =>
    [⟨.debug, "devsh_types::config",
      "no config at " ++ path ++ ", using defaults"⟩]
  | .settingsTaken spelled =>
    [⟨.debug, Record.outputOrigin, "config: " ++ spelled⟩]
  | .started deviceCount scriptDir =>
    [⟨.info, Record.outputOrigin,
      "devsh " ++ Record.version ++ ": " ++ Number.countText deviceCount ++
        " device(s), scripts in " ++ scriptDir⟩]
  | .understood line command =>
    [⟨.debug, "devsh_terminal::interpreter",
      "interpret: " ++ Text.quoted line ++ " -> " ++ command.spelled⟩]
  | .loadFailed name failure =>
    [⟨.debug, "devsh_terminal::interpreter",
      "load " ++ Text.quoted name ++ " failed: " ++ failure.message⟩]
  | .unhandled line => [⟨.debug, "devsh::repl", "not handled: " ++ line⟩]
  | .lineFailed line failure =>
    [⟨if failure.recoverable then .warn else .error, "devsh::repl",
      Text.trimmed line ++ ": " ++ failure.message⟩]
  | .finished done missed lost =>
    [⟨.debug, Record.outputOrigin,
      "session: " ++ spelledParts "Summary"
        [("handled", Number.countText done),
          ("unhandled", Number.countText missed),
          ("failed", Number.countText lost)]⟩]

/-- What the operator was told, if that is what happened. -/
def Event.told? : Event → Option (Severity × String)
  | .said severity text => some (severity, text)
  | _ => none

/-- What the operator was told, in order. -/
def Event.transcript (events : List Event) : List (Severity × String) :=
  events.filterMap Event.told?

/-- The log records of a list of events, without what the operator was told. -/
def Event.diagnostics (events : List Event) : List Record :=
  (events.filter fun event => event.told?.isNone).flatMap Event.records

end DeviceShell
