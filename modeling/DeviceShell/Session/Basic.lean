import DeviceShell.Device.Member
import DeviceShell.Registry
import DeviceShell.TaskMonitor

/-!
# Sessions

The state of a shell: every device instance there has ever been, which of them
the ids mean now, which tasks are watched, and whether the shell goes on. The
instances are kept in the order they were made and are never taken out, so a
task that has lost its registration and is still watched keeps its state, and
so does one that nobody can reach any more.

Every operation answers with a `Reply`: the session afterwards, what happened on
the way, and a result. A failure is a result like any other; what was done
before it stays done.
-/

namespace DeviceShell

/-- The state of a shell. -/
structure Session where
  devices : Array Device := #[]
  registry : Registry := {}
  monitor : TaskMonitor := {}
  running : Bool := true

/-- The outcome of an operation on a session. -/
structure Reply (α : Type) where
  session : Session
  events : List Event
  result : α

namespace Reply

/-- Goes on with the session and the result of a first operation. -/
def andThen {α β : Type} (r : Reply α) (next : Session → α → Reply β) :
    Reply β :=
  let second := next r.session r.result
  ⟨second.session, r.events ++ second.events, second.result⟩

/-- What the operator was told. -/
def transcript {α : Type} (r : Reply α) : List (Severity × String) :=
  Event.transcript r.events

end Reply

namespace Session

/-- The device that a handle stands for. -/
def device? (s : Session) (h : Handle) : Option Device :=
  s.devices[h.serial]?

/-- The instance registered under an id, with its device. -/
def find? (s : Session) (id : String) : Option (Handle × Device) :=
  (s.registry.get? id).bind fun h => (s.device? h).map fun d => (h, d)

/-- The session with another state of the device that a handle stands for. -/
def put (s : Session) (h : Handle) (d : Device) : Session :=
  { s with devices := s.devices.setIfInBounds h.serial d }

/-- A new instance. It is neither registered nor watched. -/
def make (s : Session) (d : Device) : Session × Handle :=
  ({ s with devices := s.devices.push d }, ⟨d.id, s.devices.size⟩)

/-- Registers an instance. -/
def register (s : Session) (h : Handle) : Reply Unit :=
  ⟨{ s with registry := s.registry.insert h },
    [.registered h (s.registry.contains h.id)], ()⟩

/-- Forgets an id. -/
def unregister (s : Session) (id : String) : Reply Unit :=
  ⟨{ s with registry := s.registry.erase id }, [.unregistered id], ()⟩

/-- Watches an instance. -/
def watch (s : Session) (h : Handle) : Reply Unit :=
  ⟨{ s with monitor := s.monitor.watch h }, [.watched h], ()⟩

/-- Stops watching an id. -/
def unwatch (s : Session) (id : String) : Reply Unit :=
  ⟨{ s with monitor := s.monitor.unwatch id }, [.unwatched id], ()⟩

/-- Makes an instance of a device, watches it and registers it. -/
def adopt (s : Session) (d : Device) : Reply Handle :=
  let (s, h) := s.make d
  (s.watch h).andThen fun s _ => (s.register h).andThen fun s _ => ⟨s, [], h⟩

/-- Gives an order to the device that a handle stands for. -/
def order (s : Session) (h : Handle) (told : Event)
    (act : Device → Except Failure (Device × List Event)) :
      Reply (Except Failure Unit) :=
  match s.device? h with
  | none => ⟨s, [], .ok ()⟩
  | some d =>
    match act d with
    | .ok (d, events) => ⟨s.put h d, told :: events, .ok ()⟩
    | .error failure => ⟨s, [told], .error failure⟩

/-- Starts a device. -/
def start (s : Session) (h : Handle) : Reply (Except Failure Unit) :=
  s.order h (.toldToStart h) Device.start

/-- Stops a device. -/
def stop (s : Session) (h : Handle) : Reply (Except Failure Unit) :=
  s.order h (.toldToStop h) Device.stop

/-- Stops a device and, unless that fails, starts it again. -/
def restart (s : Session) (h : Handle) : Reply (Except Failure Unit) :=
  (s.stop h).andThen fun s stopped =>
    match stopped with
    | .ok () => s.start h
    | .error failure => ⟨s, [], .error failure⟩

/-- What the device behind a handle says about itself. -/
def describe (s : Session) (h : Handle) : String :=
  ((s.device? h).map Device.describe).getD h.id

/-- Whether the device behind a handle is ready. -/
def ready (s : Session) (h : Handle) : Bool :=
  ((s.device? h).map Device.ready).getD true

/-- The table of registered devices. -/
def deviceListing (s : Session) : List String :=
  s.registry.listing s.describe

/-- The table of watched tasks. -/
def taskListing (s : Session) : List String :=
  s.monitor.listing s.ready s.describe

end Session

end DeviceShell
