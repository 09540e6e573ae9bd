import DeviceShell.Files.Tree
import DeviceShell.Proofs.Text.Pieces

/-!
# What is directly inside a directory

A path is a text, and what it leads to depends on a tree. `IsChild` says of a
path that it leads directly inside a directory, in both ways: it is the path of
the directory with one name behind it, and in every tree it leads to what that
directory holds under the name. Of the name no more is asked than that it is one
step and leads on (`IsStep`).

The steps of a joined path are those of the directory and one more, and a walk
along them is the walk to the directory and one step (`follow_append`). Only the
separator at the end of a directory is a step of its own, which leads nowhere
(`follow_empty_inside?`).
-/

namespace DeviceShell

/-- The name is one step, and it leads on from a directory. -/
def Files.IsStep (name : String) : Prop :=
  name ∉ ["", ".", ".."] ∧ '/' ∉ name.toList

theorem Files.IsStep.head?_ne {name : String} (hname : IsStep name) :
    name.toList.head? ≠ some '/' := by
  intro hhead
  exact hname.2 (List.mem_of_mem_head? hhead)

namespace FileTree

/-- Where a view starts to follow a path. -/
def start (path : String) : Spot :=
  if path.toList.head? = some '/' then .above else .below []

/-- What stands at a spot. -/
def at? (t : FileTree) : Spot → Option FileNode
  | .above => some .directory
  | .below found => t.find? found

/-- What a spot holds under a name, if it is a directory in the tree. -/
def inside? (t : FileTree) (name : String) : Spot → Option FileNode
  | .above => none
  | .below here => if t.isDirectory here then t.find? (here ++ [name]) else none

/-- What a directory, given by its path, holds under a name. -/
def entry? (t : FileTree) (dir name : String) : Option FileNode :=
  (t.follow (start dir) (steps dir)).bind (t.inside? name)

/-! ## Walks -/

theorem view_eq {path : String} (hpath : path ≠ "") (t : FileTree) :
    t.view path = (t.follow (start path) (steps path)).bind t.at? := by
  rw [view, if_neg (by simpa using hpath), start]
  generalize t.follow _ (steps path) = there
  cases there with
  | none => rfl
  | some spot => cases spot <;> rfl

theorem follow_append (t : FileTree) (here : Spot) (front back : List String) :
    t.follow here (front ++ back) =
      (t.follow here front).bind fun there => t.follow there back := by
  induction front generalizing here with
  | nil =>
      rw [List.nil_append]
      cases here <;> rfl
  | cons step rest ih =>
      cases here with
      | above =>
          rw [List.cons_append, follow, follow, ih]
          split <;> rfl
      | below here =>
          rw [List.cons_append, follow, follow, ih, ih, ih]
          repeat' split
          all_goals rfl

theorem follow_isStep {name : String} (hname : Files.IsStep name) (t : FileTree)
    (here : Spot) :
    (t.follow here [name]).bind t.at? = t.inside? name here := by
  obtain ⟨hstep, -⟩ := hname
  simp only [List.mem_cons, List.not_mem_nil, or_false, not_or] at hstep
  obtain ⟨hempty, hdot, hdots⟩ := hstep
  cases here with
  | above => simp [follow, inside?, hempty, hdot, hdots]
  | below here =>
      cases hdir : t.isDirectory here with
      | false => simp [follow, inside?, hdir]
      | true => simp [follow, inside?, hdir, hempty, hdot, hdots, at?]

theorem follow_empty_inside? (t : FileTree) (name : String) (here : Spot) :
    (t.follow here [""]).bind (t.inside? name) = t.inside? name here := by
  cases here with
  | above => rfl
  | below here =>
      cases hdir : t.isDirectory here <;> simp [follow, inside?, hdir]

/-! ## The steps of a joined path -/

theorem pieces_of_not_mem {name : List Char} (hname : '/' ∉ name) :
    Text.pieces (· == '/') name = [name] := by
  have hfree : ∀ c ∈ name, (c == '/') = false := by
    intro c hc
    rw [beq_eq_false_iff_ne]
    rintro rfl
    exact hname hc
  have hpieces := Text.pieces_append hfree []
  rw [List.append_nil] at hpieces
  rw [hpieces, Text.pieces]
  simp

theorem pieces_append_cons (front back : List Char) :
    Text.pieces (· == '/') (front ++ '/' :: back) =
      Text.pieces (· == '/') front ++ Text.pieces (· == '/') back := by
  induction front with
  | nil => rfl
  | cons c front ih =>
      rw [List.cons_append, Text.pieces, Text.pieces, ih]
      split
      · rfl
      · cases hfront : Text.pieces (· == '/') front with
        | nil => exact absurd hfront (Text.pieces_ne_nil _ front)
        | cons => rfl

theorem steps_append (front back : String) :
    steps (front ++ "/" ++ back) = steps front ++ steps back := by
  have hchars : (front ++ "/" ++ back).toList = front.toList ++ '/' ::
    back.toList := by simp
  rw [steps, steps, steps, hchars, pieces_append_cons, List.map_append]

theorem steps_of_isStep {name : String} (hname : Files.IsStep name) :
    steps name = [name] := by
  rw [steps, pieces_of_not_mem hname.2, List.map_singleton,
    String.ofList_toList]

theorem start_append {front : String} (hfront : front ≠ "") (back : String) :
    start (front ++ back) = start front := by
  have hhead : (front ++ back).toList.head? = front.toList.head? := by
    rw [String.toList_append, List.head?_append_of_ne_nil]
    simpa using hfront
  rw [start, start, hhead]

theorem view_child {dir name : String} (hdir : dir ≠ "")
    (hname : Files.IsStep name) (t : FileTree) :
    t.view (dir ++ "/" ++ name) = t.entry? dir name := by
  have hpath : dir ++ "/" ++ name ≠ "" := by simp
  rw [view_eq hpath, steps_append, steps_of_isStep hname, String.append_assoc,
    start_append hdir, follow_append, Option.bind_assoc, entry?]
  simp only [follow_isStep hname]

theorem view_child_of_separator {front name : String}
    (hname : Files.IsStep name) (t : FileTree) :
    t.view (front ++ "/" ++ name) = t.entry? (front ++ "/") name := by
  have hdir : front ++ "/" ≠ "" := by simp
  have hpath : front ++ "/" ++ name ≠ "" := by simp
  have hsteps : steps (front ++ "/") = steps front ++ [""] := by
    have happend := steps_append front ""
    rw [String.append_empty] at happend
    exact happend
  rw [view_eq hpath, steps_append, steps_of_isStep hname, start_append hdir,
    follow_append, Option.bind_assoc, entry?, hsteps, follow_append,
    Option.bind_assoc]
  simp only [follow_isStep hname, follow_empty_inside?]

theorem view_step {name : String} (hname : Files.IsStep name) (t : FileTree) :
    t.view name = t.entry? "" name := by
  have hne : name ≠ "" := by
    rintro rfl
    exact hname.1 List.mem_cons_self
  have hstart : start name = .below [] := if_neg hname.head?_ne
  rw [view_eq hne, steps_of_isStep hname, hstart, follow_isStep hname]
  exact (follow_empty_inside? t name (.below [])).symm

end FileTree

namespace Files

/-- The path leads directly inside the directory: it is the path of the
directory with one step behind it, and in every tree it leads to what the
directory holds under that name. -/
def IsChild (dir path : String) : Prop :=
  ∃ name, IsStep name ∧
    (path = dir ++ "/" ++ name ∨ path = dir ++ name ∧
      (dir = "" ∨ ∃ front, dir = front ++ "/")) ∧
    ∀ tree : FileTree, tree.view path = tree.entry? dir name

theorem isChild_join {name : String} (hname : IsStep name) (dir : String) :
    IsChild dir (join dir name) := by
  refine ⟨name, hname, ?_⟩
  rw [join, if_neg hname.head?_ne]
  split
  · next hdir =>
      rcases hdir with hempty | hlast
      · rw [String.isEmpty_iff] at hempty
        subst hempty
        rw [String.empty_append]
        exact ⟨.inr ⟨rfl, .inl rfl⟩, FileTree.view_step hname⟩
      · obtain ⟨front, hfront⟩ := List.getLast?_eq_some_iff.mp hlast
        have hseparator : dir = String.ofList front ++ "/" := by
          rw [← String.toList_inj, hfront]
          simp
        subst hseparator
        exact ⟨.inr ⟨rfl, .inr ⟨_, rfl⟩⟩,
          FileTree.view_child_of_separator hname⟩
  · next hdir =>
      rw [not_or, String.isEmpty_iff] at hdir
      exact ⟨.inl rfl, FileTree.view_child hdir.1 hname⟩

end Files

end DeviceShell
