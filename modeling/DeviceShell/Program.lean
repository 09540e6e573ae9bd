import DeviceShell.LogFilter
import DeviceShell.Options
import DeviceShell.Session.Run
import DeviceShell.Settings.Decode
import DeviceShell.Settings.Scripts
import DeviceShell.Settings.Spelling
import DeviceShell.Session.Startup
import DeviceShell.Text.Plain

/-!
# The program

The program reads its settings, sets up a session, and runs over its commands
or its standard input; commands are nothing but an input given on the command
line. It writes the log to standard output, and a single complaint to standard
error. Everything it does is a function of the command line, the files, the
input and the log filter in its environment.

A run can fail in three ways: the settings cannot be loaded, the input is no
text, or it had commands and one of them failed.
-/

namespace DeviceShell.Program

/-- The first line of the version text. -/
def versionLine : String := "devsh-app " ++ Record.version

/-- A program that is ready to take lines. -/
structure Start where
  settings : Settings
  session : Session
  events : List Event
  filter : LogFilter
  warning : Option String

/-- The text that says what is logged: the one in the environment, or the level
that the options or else the settings ask for. -/
def filterText (options : Options) (settings : Settings)
    (environment : Option String) : String :=
  environment.getD
    (if options.verbosity = 0 then settings.logLevel
      else if options.verbosity = 1 then "debug"
      else "trace")

/-- The settings with what the options change in them. -/
def adjust (options : Options) (settings : Settings) : Settings :=
  match options.scriptDir with
  | some dir => { settings with scripts := { settings.scripts with dir } }
  | none => settings

/-- Sets everything up. The log is not open yet while the settings are loaded;
the first thing in it is what they have come to be. -/
def start (options : Options) (files : Files) (environment : Option String) :
    Except Failure Start :=
  (Settings.load files options.config).map fun (loaded, _) =>
    let settings := adjust options loaded
    let (filter, warning) :=
      LogFilter.ofText (filterText options settings environment)
    let ready := settings.session (options.demo || settings.devices.isEmpty)
    { settings
      session := ready.session
      events := .settingsTaken settings.spelled :: ready.events ++
        [.started ready.session.registry.size settings.scripts.dir]
      filter
      warning }

/-- The entries of the log for some events. -/
def logEntries (filter : LogFilter) (events : List Event) : List String :=
  ((events.flatMap Event.records).filter filter.passes).map fun r =>
    r.line ++ "\n"

/-- The log as it is written where there is no terminal. An entry is made plain
by itself, its line end included. -/
def logText (filter : LogFilter) (events : List Event) : String :=
  String.join ((logEntries filter events).map Text.plain)

/-- The input of a run: the commands, one line each, if there are any. -/
def input (options : Options) (stdin : ByteArray) : ByteArray :=
  if options.commands.isEmpty then stdin
  else (String.intercalate "\n" options.commands).toUTF8

/-- What is logged at the end: the summary, unless the input failed. -/
def closing : Except Failure Summary → List Event
  | .ok summary => summary.events
  | .error _ => []

/-- The complaint about a run and its exit code. -/
def verdict (options : Options) : Except Failure Summary → Option String × Nat
  | .error (.input fault) => (some ("Error: " ++ fault.message), 1)
  | .error failure => (some ("Error: " ++ failure.message), 1)
  | .ok summary =>
    if summary.failed > 0 ∧ !options.commands.isEmpty then
      (some ("Error: " ++ Number.countText summary.failed ++
        " command(s) failed"), 1)
    else (none, 0)

/-- The outcome of the program: its exit code, what it wrote to standard output,
its complaints, and the last session if there was one. -/
structure Outcome where
  exitCode : Nat
  output : String
  complaints : List String
  session : Option Session

/-- Runs with options. -/
def runWith (options : Options) (files : Files) (stdin : ByteArray)
    (environment : Option String) : Outcome :=
  match start options files environment with
  | .error _ => ⟨1, "", ["Error: loading " ++ options.config], none⟩
  | .ok s =>
    let loader := s.settings.scripts.loader files
    let ran := s.session.run (Session.interpret loader) none
      (Text.byteLines (input options stdin))
    let (complaint, exitCode) := verdict options ran.result
    { exitCode
      output := logText s.filter (s.events ++ ran.events ++ closing ran.result)
      complaints :=
        (s.warning.map fun text => "warning: " ++ text ++
            ", ignoring it").toList ++ complaint.toList
      session := some ran.session }

/-- The overview of the options. -/
def usage : String :=
  String.join ([
    "Usage: devsh [OPTIONS]",
    "",
    "Options:",
    "      --config <PATH>      Config file",
    "      --script-dir <DIR>   Override the script directory from the config",
    "  -c, --command <LINE>     Run these commands and exit instead of reading stdin",
    "      --demo               Register the demo devices in any case",
    "  -v, --verbose...         More logging (-v debug, -vv trace)",
    "  -h, --help               Print help",
    "  -V, --version            Print version"].map (· ++ "\n"))

/-- What a command line gets that asks for no run. -/
def settled : Request → Outcome
  | .version => ⟨0, versionLine ++ "\n", [], none⟩
  | .help => ⟨0, usage, [], none⟩
  | _ => ⟨2, "", ["error: the command line cannot be read"], none⟩

/-- Runs with the words of a command line. -/
def run (words : List String) (files : Files) (stdin : ByteArray)
    (environment : Option String) : Outcome :=
  match Options.read words with
  | .run options => runWith options files stdin environment
  | request => settled request

end DeviceShell.Program
