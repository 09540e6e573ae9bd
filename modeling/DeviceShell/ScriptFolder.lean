import DeviceShell.Files.Basic
import DeviceShell.Loader

/-!
# Script folders

A lane takes its scripts from one directory and gives them one extension. The
base name is checked before any file is looked at: it may not hold a dot, a
separator or a blank, so whatever is typed after `load` names a direct child of
the directory as long as the extension holds no separator. Exactly one path is
looked at.
-/

namespace DeviceShell

/-- Where a lane finds its scripts. -/
structure ScriptFolder where
  dir : String
  suffix : String
  deriving DecidableEq, Repr

namespace ScriptFolder

/-- The path of the script with the given base name. -/
def path (f : ScriptFolder) (base : String) : String :=
  Files.join f.dir (base ++ "." ++ f.suffix)

/-- Whether a text can be the base name of a script. -/
def accepts (base : String) : Bool :=
  !base.isEmpty &&
    base.toList.all fun c => c ≠ '.' ∧ c ≠ '/' ∧ c ≠ '\\' ∧ !Text.isBlank c

/-- Makes a task of the script with the given base name. -/
def create (f : ScriptFolder) (files : Files) (base : String)
    (args : List String) : Except Failure ScriptTask :=
  if !accepts base then .error (.script (.invalidName base))
  else
    match files (f.path base) with
    | some (.file content) =>
      match String.fromUTF8? content with
      | some text => .ok (.ofText base (f.path base) args text)
      | none => .error (.input .notText)
    | some .unreadable => .error (.input .unreadable)
    | _ => .error (.script (.notFound (f.path base)))

end ScriptFolder

/-- The loader whose lanes take their scripts from folders. -/
def Loader.ofFolders (folder : Lane → ScriptFolder) (suffix : String)
    (files : Files) : Loader where
  suffix := suffix
  create lane base args :=
    ((folder lane).create files base args).map fun task =>
      { device := .script task, file := some task.path }

end DeviceShell
