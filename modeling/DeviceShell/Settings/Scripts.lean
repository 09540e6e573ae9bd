import DeviceShell.Command.Reader
import DeviceShell.ScriptFolder
import DeviceShell.Settings.Basic

/-!
# Scripts under the settings

The settings name one directory and two extensions, so they describe a folder
for each lane and with them a loader. Of all the files there are, a line makes
the shell look at one at most, and which one is known before any is read.
-/

namespace DeviceShell

namespace ScriptSettings

/-- The folder of a lane. -/
def folder (s : ScriptSettings) : Lane → ScriptFolder
  | .primary => ⟨s.dir, s.primaryExtension⟩
  | .secondary => ⟨s.dir, s.secondaryExtension⟩

/-- The loader on a view of the files. -/
def loader (s : ScriptSettings) (files : Files) : Loader :=
  .ofFolders s.folder s.secondarySuffix files

/-- The path at which a line makes the shell look, if there is one. -/
def pathOf? (s : ScriptSettings) (line : String) : Option String :=
  match Command.classify (Text.trimmed line) with
  | .ok (.load name _) =>
    let (lane, base) := (s.loader fun _ => none).select name
    if ScriptFolder.accepts base then some ((s.folder lane).path base) else none
  | _ => none

end ScriptSettings

/-- The loader that there is without settings. -/
def Loader.standard : Files → Loader :=
  .ofFolders ({} : ScriptSettings).folder ".rb"

end DeviceShell
