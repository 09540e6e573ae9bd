import DeviceShell.Command.Basic

/-!
# Writing device lines

The canonical spelling of an operation on a device: one blank on both sides of
an equals sign, a comma and a blank between arguments, and no other blanks.
-/

namespace DeviceShell

/-- Arguments as they stand between the parentheses. -/
def Literal.renderArguments (args : List Literal) : String :=
  String.intercalate ", " (args.map Literal.render)

/-- An operation on the device `id`, as a line. -/
def Operation.render (id : String) : Operation → String
  | .describe => id
  | .get name => id ++ "." ++ name
  | .set name raw => id ++ "." ++ name ++ " = " ++ raw
  | .call method args =>
    id ++ "." ++ method ++ "(" ++ Literal.renderArguments args ++ ")"

end DeviceShell
