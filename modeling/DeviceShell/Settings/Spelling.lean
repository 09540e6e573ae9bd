import DeviceShell.Command.Spelling
import DeviceShell.Settings.Basic

/-!
# Spelling out settings

What the shell has been configured with stands in the log in one line, in the
same form as a command: the kind of a record with its parts by name, and a
value under the name of its kind.
-/

namespace DeviceShell

namespace Value

mutual

/-- A value, spelled out. -/
def spelled : Value → String
  | .bool b => "Bool(" ++ boolText b ++ ")"
  | .integer n => "Int(" ++ String.ofList (Number.wordText n) ++ ")"
  | .real x => "Float(" ++ Number.realSpelled x ++ ")"
  | .text s => "Text(" ++ Text.quoted s ++ ")"
  | .list items => "List(" ++ spelledList (spelledItems items) ++ ")"

/-- The items of a list, each spelled out. -/
def spelledItems : List Value → List String
  | [] => []
  | item :: rest => spelled item :: spelledItems rest

end

end Value

/-- The attributes of a device, spelled out. -/
def Attributes.spelled (attributes : Attributes) : String :=
  "\x7b" ++ String.intercalate ", "
    (attributes.toList.map fun (name, value) =>
      Text.quoted name ++ ": " ++ value.spelled) ++ "\x7d"

/-- The script settings, spelled out. -/
def ScriptSettings.spelled (s : ScriptSettings) : String :=
  spelledParts "ScriptConfig"
    [("dir", Text.quotedPath s.dir),
      ("primary_extension", Text.quoted s.primaryExtension),
      ("secondary_extension", Text.quoted s.secondaryExtension)]

/-- The settings of a device, spelled out. -/
def DeviceSettings.spelled (d : DeviceSettings) : String :=
  spelledParts "DeviceConfig"
    [("id", Text.quoted d.id), ("description", Text.quoted d.description),
      ("attributes", d.attributes.spelled)]

/-- Everything that is set, spelled out. -/
def Settings.spelled (s : Settings) : String :=
  spelledParts "ShellConfig"
    [("prompt", Text.quoted s.prompt), ("log_level", Text.quoted s.logLevel),
      ("scripts", s.scripts.spelled),
      ("devices", spelledList (s.devices.map DeviceSettings.spelled))]

end DeviceShell
