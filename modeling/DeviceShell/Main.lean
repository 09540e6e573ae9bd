import DeviceShell.Program

/-!
# The command

Reads the files and the lines that the program asks for, and writes what it has
to say. A line is read when the shell is ready for it, and the file that a line
names is read when the line has been; so files may change while the shell runs.
-/

namespace DeviceShell.Command

/-- Whether there is anything at a path. -/
def isPresent (path : String) : IO Bool := do
  try
    discard <| IO.FS.realPath path
    return true
  catch _ => return false

/-- What stands at a path now. A path that leads through a file is not there,
and fails when it is opened; a directory fails when it is read. Whatever else
fails is there and cannot be read, unless the way to it is barred. -/
def nodeAt (path : String) : IO (Option FileNode) := do
  try
    let content ← IO.FS.readBinFile path
    return some (.file content)
  catch
    | .noFileOrDirectory .. | .inappropriateType (some _) .. => return none
    | .inappropriateType none .. => return some .directory
    | _ => return if ← isPresent path then some .unreadable else none

/-- A view of the files in which one path is known. -/
def viewAt (path : String) : IO Files := do
  let node ← nodeAt path
  return fun asked => if asked = path then node else none

/-- Reads the bytes of a line, its end included. -/
partial def readLine (stream : IO.FS.Stream) (line : ByteArray) :
    IO ByteArray := do
  let next ← stream.read 1
  let line := line ++ next
  if next.isEmpty || next.toList = [10] then return line
  else readLine stream line

/-- Writes what a filter lets through of some events. A terminal gets it as it
is. -/
def writeLog (filter : LogFilter) (events : List Event) : IO Unit := do
  let stdout ← IO.getStdout
  if ← stdout.isTty then
    stdout.putStr (String.join (Program.logEntries filter events))
  else stdout.putStr (Program.logText filter events)
  stdout.flush

/-- Takes lines until there are no more or the shell stops. -/
partial def loop (start : Program.Start) (prompt : Option String)
    (nextLine : IO ByteArray) (session : Session) (summary : Summary) :
    IO (Except Failure Summary) := do
  if !session.running then return .ok summary
  if let some text := prompt then
    IO.print text
    (← IO.getStdout).flush
  let bytes ← nextLine
  if bytes.isEmpty then return .ok summary
  match (Text.byteLines bytes).head? with
  | some (some line) =>
    let files ←
      match start.settings.scripts.pathOf? line with
      | some path => viewAt path
      | none => pure fun _ => none
    let reply := session.takeLine
      (Session.interpret (start.settings.scripts.loader files)) line
    writeLog start.filter reply.events
    loop start prompt nextLine reply.session (summary.add reply.result)
  | _ => return .error (.input .notText)

/-- Hands out the given bytes line by line. -/
def lineSource (bytes : ByteArray) : IO (IO ByteArray) := do
  let left ← IO.mkRef bytes
  return do
    let bytes ← left.get
    let size := (bytes.toList.takeWhile (· ≠ 10)).length + 1
    left.set (bytes.extract size bytes.size)
    return bytes.extract 0 size

/-- Runs with options. -/
def runWith (options : Options) : IO UInt32 := do
  let files ← viewAt options.config
  match Program.start options files (← IO.getEnv "RUST_LOG") with
  | .error failure =>
    IO.eprintln ("Error: loading " ++ options.config)
    IO.eprintln ("\nCaused by:\n    " ++ failure.message)
    return 1
  | .ok start =>
    if let some warning := start.warning then
      IO.eprintln ("warning: " ++ warning ++ ", ignoring it")
    writeLog start.filter start.events
    let result ←
      if options.commands.isEmpty then do
        let stdin ← IO.getStdin
        let prompt := if (← stdin.isTty) then
          some start.settings.prompt else none
        loop start prompt (readLine stdin .empty) start.session {}
      else do
        loop start none (← lineSource (Program.input options .empty))
          start.session {}
    writeLog start.filter (Program.closing result)
    let (complaint, exitCode) := Program.verdict options result
    if let some text := complaint then
      IO.eprintln text
    return exitCode.toUInt32

end DeviceShell.Command

open DeviceShell in
/-- Runs the program on the words of a command line. -/
def main (words : List String) : IO UInt32 := do
  match Options.read words with
  | .run options => Command.runWith options
  | request =>
    let outcome := Program.settled request
    IO.print outcome.output
    outcome.complaints.forM fun line => IO.eprintln line
    return outcome.exitCode.toUInt32
