import DeviceShell.Session.Basic

/-!
# Loading scripts

A load replaces whatever is registered under the base name of a script. The
predecessor goes first: a ready one is no longer watched and is told to stop,
and then the name is forgotten. Only after that is the new device asked for, so
a load that fails at that point leaves the name without a device. A predecessor
that refuses to stop is worth a warning and nothing more.

A name with the secondary suffix belongs to the secondary lane, which is given
the name without it; a name that is nothing but the suffix does not.
-/

namespace DeviceShell

/-- What a lane makes: a device, and the path of the file it was read from, if
it comes from a file. -/
structure Creation where
  device : Device
  file : Option String := none

/-- What a load depends on: the suffix that selects the secondary lane, and
what each lane makes of a base name and arguments. -/
structure Loader where
  suffix : String
  create : Lane → String → List String → Except Failure Creation

namespace Loader

/-- The lane for a name and the base name it is given. -/
def select (l : Loader) (name : String) : Lane × String :=
  let chars := name.toList
  let tail := l.suffix.toList
  if tail.isSuffixOf chars ∧ tail.length < chars.length then
    (.secondary, String.ofList (chars.take (chars.length - tail.length)))
  else (.primary, name)

/-- Stops the predecessor of a load; a refusal becomes a warning. -/
def silence (s : Session) (h : Handle) : Reply Unit :=
  (s.stop h).andThen fun s stopped =>
    match stopped with
    | .ok () => ⟨s, [], ()⟩
    | .error failure =>
      ⟨s, [.said .warning ("Failed to stop previous " ++ h.id ++ ": " ++
        failure.message)], ()⟩

/-- Takes the predecessor of a load out of service, if there is one. -/
def retire (s : Session) (base : String) : Reply Unit :=
  match s.find? base with
  | none => ⟨s, [], ()⟩
  | some (h, d) =>
    let silenced : Reply Unit :=
      if d.ready then (s.unwatch h.id).andThen fun s _ => silence s h
      else ⟨s, [], ()⟩
    silenced.andThen fun s _ => s.unregister base

/-- Puts a new device into service under its id. -/
def replace (l : Loader) (s : Session) (lane : Lane) (base : String)
    (args : List String) : Reply (Except Failure Unit) :=
  (retire s base).andThen fun s _ =>
    match l.create lane base args with
    | .error failure => ⟨s, [.requested lane base args], .error failure⟩
    | .ok made =>
      let adopted := s.adopt made.device
      ⟨adopted.session,
        .requested lane base args ::
          (made.file.map (.scriptRead base)).toList ++ adopted.events, .ok ()⟩

/-- Loads or reloads a script and tells the operator how it went. -/
def load (l : Loader) (s : Session) (name : String) (args : List String) :
    Reply (Except Failure Unit) :=
  if name.isEmpty then
    ⟨s, [.said .error Failure.emptyScriptName.message], .error .emptyScriptName⟩
  else
    let (lane, base) := l.select name
    let replaced := l.replace s lane base args
    let report : Event :=
      match replaced.result with
      | .ok () => .said .message (" -- loaded script: " ++ base)
      | .error failure => .said .error failure.message
    ⟨replaced.session, .loading name base args.length ::
        replaced.events ++ [report], replaced.result⟩

end Loader

end DeviceShell
