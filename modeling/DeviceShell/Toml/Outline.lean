import DeviceShell.Toml.Datum

/-!
# Building tables

A table of a document can come into being in three ways: under a header of its
own, as a step of a longer header, or as a step of a dotted key. How it came
into being decides who may still add to it. A header opens a table once; a
table that so far was only a step of longer headers may still get its own
header, and a table made by dotted keys only grows by dotted keys of the same
section. A step that names an array of tables means its last member, and one
that names a finished datum is an error.

An outline is a document while it is being built. It becomes a datum when
nobody can add to it any more.
-/

namespace DeviceShell.Toml

/-- How a table came into being. -/
inductive Origin where
  | header
  | headerStep
  | dottedKey
  deriving DecidableEq, Repr

mutual

/-- A table under construction. -/
inductive Outline where
  | mk (origin : Origin) (entries : List (String × Branch))

/-- What a name leads to: a finished datum, a table, or an array of tables in
reverse order. -/
inductive Branch where
  | datum (d : Datum)
  | table (t : Outline)
  | tables (latestFirst : List Outline)

end

/-- A name with its datum; the steps before the last one lead to its table. -/
structure Assignment where
  path : List String
  name : String
  datum : Datum

/-- The part of a document under one header. -/
structure Section where
  array : Bool
  path : List String
  name : String
  assignments : List Assignment

namespace Outline

/-- How the table came into being. -/
def origin : Outline → Origin
  | mk origin _ => origin

/-- The entries so far. -/
def entries : Outline → List (String × Branch)
  | mk _ entries => entries

/-- A table without entries. -/
def empty (origin : Origin) : Outline :=
  mk origin []

/-- What a name leads to. -/
def get? (t : Outline) (name : String) : Option Branch :=
  t.entries.lookup name

/-- The table with something else under a name. -/
def set (t : Outline) (name : String) (b : Branch) : Outline :=
  mk t.origin ((name, b) :: t.entries.filter (·.1 ≠ name))

/-- Changes the table that the steps lead to; missing ones are made. Dotted keys
may not pass through a table that has a header. -/
def within (dotted : Bool) (change : Outline → Option Outline) :
    List String → Outline → Option Outline
  | [], t => change t
  | step :: rest, t =>
    match t.get? step with
    | none =>
      (within dotted change rest
          (empty (if dotted then .dottedKey else .headerStep))).map
        fun made => t.set step (.table made)
    | some (.datum _) => none
    | some (.table inner) =>
      if dotted ∧ inner.origin = .header then none
      else (within dotted change rest inner).map fun changed =>
        t.set step (.table changed)
    | some (.tables []) => none
    | some (.tables (latest :: earlier)) =>
      (within dotted change rest latest).map fun changed =>
        t.set step (.tables (changed :: earlier))

/-- Adds one name. Dotted keys end in a table that dotted keys made, and a name
is given once. -/
def assign (t : Outline) (a : Assignment) : Option Outline :=
  within true (fun target =>
    if !a.path.isEmpty && target.origin ≠ .dottedKey then none
    else
      match target.get? a.name with
      | some _ => none
      | none => some (target.set a.name (.datum a.datum))) a.path t

/-- Adds names one after the other. -/
def assignAll (t : Outline) (as : List Assignment) : Option Outline :=
  as.foldlM assign t

/-- Adds a section: a table under its own header, or one more member of an array
of tables. -/
def addSection (t : Outline) (s : Section) : Option Outline :=
  within false (fun parent =>
    match s.array, parent.get? s.name with
    | true, none =>
      ((empty .header).assignAll s.assignments).map fun made =>
        parent.set s.name (.tables [made])
    | true, some (.tables earlier) =>
      ((empty .header).assignAll s.assignments).map fun made =>
        parent.set s.name (.tables (made :: earlier))
    | false, none =>
      ((empty .header).assignAll s.assignments).map fun made =>
        parent.set s.name (.table made)
    | false, some (.table (mk .headerStep entries)) =>
      ((mk .header entries).assignAll s.assignments).map fun made =>
        parent.set s.name (.table made)
    | _, some _ => none) s.path t

end Outline

mutual

/-- The finished table. -/
def Outline.finish : Outline → Datum
  | .mk _ entries => .table (Branch.finishEntries entries)

/-- The finished entries of a table. -/
def Branch.finishEntries : List (String × Branch) → List (String × Datum)
  | [] => []
  | (name, b) :: rest => (name, b.finish) :: Branch.finishEntries rest

/-- The finished datum under a name. -/
def Branch.finish : Branch → Datum
  | .datum d => d
  | .table t => t.finish
  | .tables latestFirst => .array (Outline.finishMembers latestFirst [])

/-- The finished members of an array of tables, put in front of later ones. -/
def Outline.finishMembers : List Outline → List Datum → List Datum
  | [], later => later
  | latest :: earlier, later =>
    Outline.finishMembers earlier (latest.finish :: later)

end

/-- The datum of a document: the assignments before the first header, then its
sections. -/
def Datum.ofDocument? (top : List Assignment) (sections : List Section) :
    Option Datum :=
  (((Outline.empty .header).assignAll top).bind fun root =>
    sections.foldlM Outline.addSection root).map Outline.finish

/-- The datum of a table written on one line. -/
def Datum.ofInline? (assignments : List Assignment) : Option Datum :=
  ((Outline.empty .header).assignAll assignments).map Outline.finish

end DeviceShell.Toml
