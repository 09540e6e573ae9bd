import DeviceShell.Command.Basic
import DeviceShell.Text.Quoted

/-!
# Spelling out commands

The log shows how a line was understood: the kind of its command, and the parts
of the command by name. Texts are quoted, so the whole stays on one line.
-/

namespace DeviceShell

/-- Items in brackets. -/
def spelledList (items : List String) : String :=
  "[" ++ String.intercalate ", " items ++ "]"

/-- A kind with its parts by name. -/
def spelledParts (kind : String) (parts : List (String × String)) : String :=
  kind ++ " \x7b " ++ String.intercalate ", "
    (parts.map fun (name, part) => name ++ ": " ++ part) ++ " \x7d"

/-- An argument, spelled out. -/
def Literal.spelled : Literal → String
  | .text s => "Str(" ++ Text.quoted s ++ ")"
  | .integer n => "Int(" ++ String.ofList (Number.wordText n) ++ ")"

/-- An operation on a device, spelled out. -/
def Operation.spelled : Operation → String
  | .describe => "Describe"
  | .get name => spelledParts "GetAttribute" [("name", Text.quoted name)]
  | .set name raw =>
    spelledParts "SetAttribute" [("name", Text.quoted name),
      ("raw_value", Text.quoted raw)]
  | .call method args =>
    spelledParts "InvokeMethod"
      [("name", Text.quoted method),
        ("params", spelledList (args.map Literal.spelled))]

/-- A lifecycle order, spelled out. -/
def Lifecycle.spelled : Lifecycle → String
  | .start => "Start"
  | .stop => "Stop"
  | .restart => "Restart"

/-- A command, spelled out. -/
def Command.spelled : Command → String
  | .exit => "Exit"
  | .devices => "ListDevices"
  | .tasks => "ListTasks"
  | .help => "Help"
  | .load name args =>
    spelledParts "LoadScript"
      [("name", Text.quoted name), ("args", spelledList (args.map Text.quoted))]
  | .lifecycle order id =>
    spelledParts "Lifecycle" [("action", order.spelled),
      ("device_id", Text.quoted id)]
  | .device id operation =>
    spelledParts "DeviceInteraction"
      [("device_id", Text.quoted id), ("operation", operation.spelled)]
  | .unrecognized => "Unrecognized"

end DeviceShell
