import DeviceShell.Event
import DeviceShell.Files.Basic
import DeviceShell.Settings.Basic
import DeviceShell.Toml.Document

/-!
# Settings from a document

The fields of a record are given by name in a table, or by position in an
array; fields that are not given have their defaults, names that mean nothing
are ignored, and a datum of the wrong kind is an error. Attributes hold what a
value can hold: no tables and no moments.

A moment stands for a record with one field, whose name no record here has. So
it leaves every field at its default; and where any name is welcome, as among
attributes, it is one attribute that holds its text.
-/

namespace DeviceShell

namespace Toml.Datum

/-- The one name of a moment seen as a table. -/
def momentName : String := "$__toml_private_datetime"

/-- The fields of a record: what is given by a name and for a position. -/
def fields? : Datum → Option (String → Nat → Option Datum)
  | .table entries => some fun name _ => entries.lookup name
  | .array ds => some fun _ position => ds[position]?
  | .moment _ => some fun _ _ => none
  | _ => none

/-- The named data of a table. -/
def entries? : Datum → Option (List (String × Datum))
  | .table entries => some entries
  | .moment m => some [(momentName, .text m.text)]
  | _ => none

/-- The text of a datum that is text. -/
def text? : Datum → Option String
  | .text s => some s
  | _ => none

/-- The members of an array. -/
def members? : Datum → Option (List Datum)
  | .array ds => some ds
  | _ => none

mutual

/-- The value that a datum stands for. -/
def value? : Datum → Option Value
  | .text s => some (.text s)
  | .integer n => some (.integer n)
  | .real x => some (.real x)
  | .bool b => some (.bool b)
  | .array ds => (values? ds).map .list
  | .moment _ | .table _ => none

/-- The values that some data stand for. -/
def values? : List Datum → Option (List Value)
  | [] => some []
  | d :: rest => (value? d).bind fun v => (values? rest).map (v :: ·)

end

end Toml.Datum

open Toml (Datum)

/-- A field that has a default: what is given, if it is of the right kind. -/
def field {α : Type} (read : Datum → Option α) (default : α) :
    Option Datum → Option α
  | none => some default
  | some d => read d

/-- The attributes in a table. -/
def Attributes.ofDatum? (d : Datum) : Option Attributes :=
  d.entries?.bind fun entries =>
    entries.foldlM (fun (made : Attributes) (name, d) =>
      d.value?.map (made.insert name)) ∅

/-- The script settings in a record. -/
def ScriptSettings.ofDatum? (d : Datum) : Option ScriptSettings := do
  let given ← d.fields?
  let dir ← field Datum.text? ({} : ScriptSettings).dir (given "dir" 0)
  let primaryExtension ← field Datum.text?
    ({} : ScriptSettings).primaryExtension (given "primary_extension" 1)
  let secondaryExtension ← field Datum.text?
    ({} : ScriptSettings).secondaryExtension (given "secondary_extension" 2)
  some { dir, primaryExtension, secondaryExtension }

/-- The device settings in a record; the id has to be given. -/
def DeviceSettings.ofDatum? (d : Datum) : Option DeviceSettings := do
  let given ← d.fields?
  let id ← (given "id" 0).bind Datum.text?
  let description ← field Datum.text? "" (given "description" 1)
  let attributes ← field Attributes.ofDatum? ∅ (given "attributes" 2)
  some { id, description, attributes }

namespace Settings

/-- The settings in a record. -/
def ofDatum? (d : Datum) : Option Settings := do
  let given ← d.fields?
  let prompt ← field Datum.text? ({} : Settings).prompt (given "prompt" 0)
  let logLevel ← field Datum.text? ({} : Settings).logLevel
    (given "log_level" 1)
  let scripts ← field ScriptSettings.ofDatum? {} (given "scripts" 2)
  let devices ← field
    (fun d => d.members?.bind (·.mapM DeviceSettings.ofDatum?)) []
    (given "devices" 3)
  some { prompt, logLevel, scripts, devices }

/-- Reads settings and checks them. -/
def ofText (text : String) : Except Failure Settings :=
  match (Toml.Document.read? text).bind ofDatum? with
  | none => .error .malformedSettings
  | some settings => settings.check.map fun _ => settings

/-- Reads the settings in a file. Without a file there are the default
settings, which is worth an event. -/
def load (files : Files) (path : String) :
    Except Failure (Settings × List Event) :=
  match files path with
  | none => .ok ({}, [.settingsAbsent path])
  | some .directory | some .unreadable => .error (.input .unreadable)
  | some (.file content) =>
    match String.fromUTF8? content with
    | none => .error (.input .notText)
    | some text => (ofText text).map fun settings => (settings, [])

end Settings

end DeviceShell
