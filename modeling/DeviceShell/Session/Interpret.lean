import DeviceShell.Command.Reader
import DeviceShell.Loader

/-!
# Interpreting lines

One line is classified, carried out and reported on; how it was understood goes
into the log first. The answer says whether
the line was handled: it was not if it is no command at all, or if it is about
a device that is not registered. An unknown device is reported before anything
else can be wrong with its line, bad arguments included. A missing member is
reported and the line counts as handled; any other refusal of a device is the
failure of the line.
-/

namespace DeviceShell.Session

/-- Tells the operator something. -/
def say (s : Session) (severity : Severity) (text : String) {α : Type}
    (result : α) : Reply α :=
  ⟨s, [.said severity text], result⟩

/-- Reports a device that is not registered; the line is not handled. -/
def reportMissing (s : Session) (id : String) : Reply (Except Failure Bool) :=
  s.say .warning (Failure.deviceNotFound id).message (.ok false)

/-- Reports arguments that cannot be read. The device is not touched. -/
def reportUnreadable (s : Session) (id : String) (failure : Failure) :
    Reply (Except Failure Bool) :=
  if s.registry.contains id then
    s.say .error (id ++ ": " ++ failure.message) (.ok true)
  else s.reportMissing id

/-- Takes over the outcome of an access to a device and reports it. -/
def conclude (s : Session) (h : Handle) (a : Access) :
    Reply (Except Failure Bool) :=
  match a.result with
  | .ok (d, some value) =>
    ⟨s.put h d, a.events ++ [.said .message value.render], .ok true⟩
  | .ok (d, none) => ⟨s.put h d, a.events, .ok true⟩
  | .error (.memberNotFound member reason) =>
    ⟨s, a.events ++ [.said .error
      (h.id ++ ": missing member '" ++ member ++ "': " ++
        reason.message member)], .ok true⟩
  | .error failure => ⟨s, a.events, .error failure⟩

/-- Carries out an operation on a device. -/
def operate (s : Session) (id : String) (operation : Operation) :
    Reply (Except Failure Bool) :=
  match s.find? id with
  | none => s.reportMissing id
  | some (h, d) =>
    match operation with
    | .describe => s.say .message d.describe (.ok true)
    | .get name => s.conclude h (d.access name)
    | .set name raw => s.conclude h (d.accessAssign name raw)
    | .call method args => s.conclude h (d.accessCall method args)

/-- Carries out a lifecycle order. An unknown id is worth a warning. -/
def control (s : Session) (order : Lifecycle) (id : String) :
    Reply (Except Failure Bool) :=
  match s.find? id with
  | none => s.say .warning ("No device named: " ++ id) (.ok true)
  | some (h, _) =>
    (s.say .message (" -- " ++ order.verb ++ ": " ++ id) ()).andThen fun s _ =>
      let told :=
        match order with
        | .start => s.start h
        | .stop => s.stop h
        | .restart => s.restart h
      { told with result := told.result.map fun _ => true }

/-- What is left to note about a load: one that fails has been reported already,
and the failure is logged once more. -/
def loadNote (name : String) : Except Failure Unit → List Event
  | .ok () => []
  | .error failure => [.loadFailed name failure]

/-- Carries out a command. -/
def execute (loader : Loader) (s : Session) :
    Command → Reply (Except Failure Bool)
  | .exit => ⟨{ s with running := false }, [.stopRequested], .ok true⟩
  | .devices => ⟨s, s.deviceListing.map (.said .message), .ok true⟩
  | .tasks => ⟨s, s.taskListing.map (.said .message), .ok true⟩
  | .help =>
    s.say .message (String.intercalate "\n" Command.helpLines) (.ok true)
  | .load name args =>
    let loaded := loader.load s name args
    ⟨loaded.session, loaded.events ++ loadNote name loaded.result, .ok true⟩
  | .lifecycle order id => s.control order id
  | .device id operation => s.operate id operation
  | .unrecognized => ⟨s, [], .ok false⟩

/-- Interprets one line. -/
def interpret (loader : Loader) (s : Session) (line : String) :
    Reply (Except Failure Bool) :=
  let line := Text.trimmed line
  match Command.classify line with
  | .ok command =>
    let done := s.execute loader command
    { done with events := .understood line command :: done.events }
  | .error (.ambiguousParameter token) =>
    s.reportUnreadable (Command.identifier line) (.ambiguousParameter token)
  | .error failure => ⟨s, [], .error failure⟩

end DeviceShell.Session
