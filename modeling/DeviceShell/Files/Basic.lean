import DeviceShell.Text.Blank

/-!
# Files

The shell sees files through one question: what stands at this path? A view of
the files is the function that answers it, so a statement about what a load
reads is a statement about where two such functions have to agree. Paths are
joined as text; a path that starts at the root replaces what it is joined to.
-/

namespace DeviceShell

/-- What can stand at a path: a file with its bytes, a directory, or a file
that is there and cannot be read. -/
inductive FileNode where
  | file (content : ByteArray)
  | directory
  | unreadable

/-- A view of the files: what stands at each path, if anything does. -/
abbrev Files := String → Option FileNode

/-- The path of `name` inside the directory `dir`. -/
def Files.join (dir name : String) : String :=
  if name.toList.head? = some '/' then name
  else if dir.isEmpty ∨ dir.toList.getLast? = some '/' then dir ++ name
  else dir ++ "/" ++ name

end DeviceShell
