import DeviceShell.Number.Whole
import DeviceShell.Text.Blank
import DeviceShell.Value.Basic

/-!
# Failures

A failure is a cause, and its wording is written once, in `Failure.message`.
The operator is told about the first four kinds and the shell goes on; every
other kind is a failure of a device or of the surroundings and is handed to
whoever runs the shell. Each family of causes ends in a constructor that holds
text alone, for collaborators that bring a cause of their own.
-/

namespace DeviceShell

/-- Why a device has no such member. -/
inductive Absence where
  | noAttribute (owner : String)
  | noMethod (owner : String)
  | other (text : String)
  deriving DecidableEq, Repr

/-- Why a device refuses to do what it was asked. -/
inductive Refusal where
  | misfit (raw : String) (kind : Kind) (name : String)
  | toggleUsage
  | untoggleable (kind : Kind) (name : String)
  | lineUsage
  | lineOutOfRange (line : Int64) (count : Nat)
  | other (text : String)
  deriving DecidableEq, Repr

/-- Why a script cannot be loaded. -/
inductive ScriptFault where
  | invalidName (base : String)
  | notFound (path : String)
  | other (text : String)
  deriving DecidableEq, Repr

/-- Why well-formed settings are not accepted. -/
inductive SettingsFault where
  | emptySecondaryExtension
  | invalidId (id : String)
  | duplicateId (id : String)
  | other (text : String)
  deriving DecidableEq, Repr

/-- Why a file or a stream cannot be read. -/
inductive InputFault where
  | notText
  | unreadable
  | other (text : String)
  deriving DecidableEq, Repr

/-- Everything that can go wrong. -/
inductive Failure where
  | deviceNotFound (id : String)
  | memberNotFound (member : String) (reason : Absence)
  | ambiguousParameter (token : String)
  | emptyScriptName
  | invocationFailed (cause : Refusal)
  | script (fault : ScriptFault)
  | settings (fault : SettingsFault)
  | input (fault : InputFault)
  | malformedSettings
  deriving DecidableEq, Repr

/-- What the absence of `member` reads like. -/
def Absence.message (member : String) : Absence → String
  | .noAttribute owner => owner ++ " has no attribute '" ++ member ++ "'"
  | .noMethod owner => owner ++ " has no method '" ++ member ++ "'"
  | .other text => text

/-- What a refusal reads like. -/
def Refusal.message : Refusal → String
  | .misfit raw kind name =>
    "cannot assign '" ++ raw ++ "' to " ++ kind.word ++
      " attribute '" ++ name ++ "'"
  | .toggleUsage => "usage: toggle(\"attribute\")"
  | .untoggleable kind name =>
    "cannot toggle " ++ kind.word ++ " attribute '" ++ name ++ "'"
  | .lineUsage => "usage: line(<number>)"
  | .lineOutOfRange line count =>
    "line " ++ String.ofList (Number.wordText line) ++ " out of range 1..=" ++
      Number.countText count
  | .other text => text

/-- What a script fault reads like. -/
def ScriptFault.message : ScriptFault → String
  | .invalidName base => "invalid script name: '" ++ base ++ "'"
  | .notFound path => "script not found: " ++ path
  | .other text => text

/-- What a settings fault reads like. -/
def SettingsFault.message : SettingsFault → String
  | .emptySecondaryExtension => "scripts.secondary_extension must not be empty"
  | .invalidId id => "invalid device id: '" ++ id ++ "'"
  | .duplicateId id => "duplicate device id: " ++ id
  | .other text => text

/-- What an input fault reads like. -/
def InputFault.message : InputFault → String
  | .notText => "stream did not contain valid UTF-8"
  | .unreadable => "the file cannot be read"
  | .other text => text

/-- What a failure reads like. -/
def Failure.message : Failure → String
  | .deviceNotFound id => "Device not found: " ++ id
  | .memberNotFound member reason =>
    "member not found: " ++ member ++ ": " ++ reason.message member
  | .ambiguousParameter token => "ambiguous parameter type: " ++ token
  | .emptyScriptName => "No script name specified"
  | .invocationFailed cause => "invocation failed: " ++ cause.message
  | .script fault => "script error: " ++ fault.message
  | .settings fault => "config error: " ++ fault.message
  | .input fault => "I/O error: " ++ fault.message
  | .malformedSettings => "TOML parse error"

/-- Whether the shell reports the failure itself and goes on. -/
def Failure.recoverable : Failure → Bool
  | .deviceNotFound _ | .memberNotFound .. | .ambiguousParameter _
  | .emptyScriptName => true
  | _ => false

end DeviceShell
