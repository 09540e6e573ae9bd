import DeviceShell.Files.Basic

/-!
# File trees

A tree of files below one directory, and the view of it from that directory.
Paths are followed step by step: an empty step and `.` stay where they are,
`..` goes up, and each of the three needs a directory to stand on. What is
above the tree, and where absolute paths start, are directories too; nothing
else that is in them is visible.
-/

namespace DeviceShell

/-- Files and directories by the steps that lead to them. The directory the
tree hangs from is not listed. -/
structure FileTree where
  nodes : List (List String × FileNode) := []

namespace FileTree

/-- What the given steps lead to. -/
def find? (t : FileTree) (steps : List String) : Option FileNode :=
  if steps.isEmpty then some .directory
  else (t.nodes.find? (·.1 = steps)).map (·.2)

/-- Whether the steps lead to a directory. -/
def isDirectory (t : FileTree) (steps : List String) : Bool :=
  match t.find? steps with
  | some .directory => true
  | _ => false

/-- Where a path can lead: above the tree, or to steps below its root. -/
inductive Spot where
  | above
  | below (steps : List String)
  deriving DecidableEq, Repr

/-- Where `..` leads from a directory below the root or from the root. -/
def parent (steps : List String) : Spot :=
  if steps.isEmpty then .above else .below steps.dropLast

/-- Follows the steps of a path from a spot. -/
def follow (t : FileTree) : Spot → List String → Option Spot
  | here, [] => some here
  | .above, step :: rest =>
    if step ∈ ["", ".", ".."] then t.follow .above rest else none
  | .below here, step :: rest =>
    if !t.isDirectory here then none
    else if step = "" ∨ step = "." then t.follow (.below here) rest
    else if step = ".." then t.follow (parent here) rest
    else t.follow (.below (here ++ [step])) rest

/-- The steps of a path. -/
def steps (path : String) : List String :=
  (Text.pieces (· == '/') path.toList).map String.ofList

/-- The view of the tree. -/
def view (t : FileTree) : Files := fun path =>
  if path.isEmpty then none
  else
    match t.follow (if path.toList.head? = some '/' then .above else .below [])
        (steps path) with
    | some .above => some .directory
    | some (.below found) => t.find? found
    | none => none

/-! ## Changes of a tree -/

/-- Puts a node in its place, in place of what was there. -/
def place (t : FileTree) (at_ : List String) (node : FileNode) : FileTree :=
  ⟨(at_, node) :: t.nodes.filter (·.1 ≠ at_)⟩

/-- Follows steps from a place and makes the directories on the way that are
missing; the tree afterwards and where the steps lead, if that is below the
root. -/
def makeWay (t : FileTree) (here : List String) :
    List String → FileTree × Option (List String)
  | [] => (t, some here)
  | step :: rest =>
    if step = "" ∨ step = "." then t.makeWay here rest
    else if step = ".." then
      if here.isEmpty then (t, none) else t.makeWay here.dropLast rest
    else
      let next := here ++ [step]
      (if (t.find? next).isSome then t else t.place next .directory).makeWay
        next rest

/-- Writes a file, or makes a directory where no content is given. -/
def write (t : FileTree) (path : String) (content : Option ByteArray) :
    FileTree :=
  let steps := steps path
  match content with
  | none => (t.makeWay [] steps).1
  | some bytes =>
    match t.makeWay [] steps.dropLast with
    | (t, some here) => t.place (here ++ steps.getLast?.toList) (.file bytes)
    | (t, none) => t

/-- Deletes a file, if there is one. -/
def delete (t : FileTree) (path : String) : FileTree :=
  match t.follow (.below []) (steps path) with
  | some (.below found) =>
    match t.find? found with
    | some (.file _) => ⟨t.nodes.filter (·.1 ≠ found)⟩
    | _ => t
  | _ => t

/-- The tree of the given files and directories. -/
def ofEntries (entries : List (String × Option ByteArray)) : FileTree :=
  entries.foldl (fun t (path, content) => t.write path content) {}

end FileTree

end DeviceShell
