import DeviceShell.Failure
import DeviceShell.Number.Whole
import DeviceShell.Text.Blank
import DeviceShell.Value.Basic

/-!
# Literals

An argument of a method call is text in double quotes or a decimal integer.
There is no escape and no other type: a token that is neither is ambiguous, and
the failure names the whole token. A quote inside the quotes makes a token
ambiguous as well, so the written form of a literal is unique for text; for
integers leading zeros are the only freedom.
-/

namespace DeviceShell

/-- A typed argument. -/
inductive Literal where
  | text (s : String)
  | integer (n : Int64)
  deriving DecidableEq, Repr

namespace Literal

/-- The literal a token spells, if it spells one. -/
def ofChars? (cs : List Char) : Option Literal :=
  match cs with
  | '"' :: rest =>
    (Text.stripEnd? '"' rest).bind fun inner =>
      if '"' ∈ inner then none else some (.text (String.ofList inner))
  | _ => (Number.plainWord? cs).map .integer

/-- Reads one argument token. -/
def read (token : String) : Except Failure Literal :=
  match ofChars? token.toList with
  | some literal => .ok literal
  | none => .error (.ambiguousParameter token)

/-- The written form. Text is put between quotes as it is. -/
def render : Literal → String
  | .text s => "\"" ++ s ++ "\""
  | .integer n => String.ofList (Number.wordText n)

/-- The text of a text literal. -/
def text? : Literal → Option String
  | .text s => some s
  | .integer _ => none

/-- The number of an integer literal. -/
def integer? : Literal → Option Int64
  | .text _ => none
  | .integer n => some n

/-- The value a literal stands for. -/
def toValue : Literal → Value
  | .text s => .text s
  | .integer n => .integer n

end Literal

end DeviceShell
