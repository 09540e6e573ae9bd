import Std.Data.ExtTreeMap
import DeviceShell.Pattern.Encoding

/-!
# Laying out machines

The machine that searches a text for a pattern reads bytes. It is laid out
without being built: only its states are counted, 32 bytes each, and the room
for their ways, which is eight bytes for each range of bytes and four for each
way of a choice. The count stops as soon as it is too high.

A set of characters beyond ASCII is laid out so that states whose ways are the
same are shared. How many are shared depends on the numbers of states, for which
states are found again depends on where a small table keeps them.
-/

namespace DeviceShell

/-- The states laid out so far, and the room that their ways take. -/
structure Layout where
  states : Nat := 0
  ways : Nat := 0
  deriving DecidableEq, Repr

namespace Layout

/-- The most that a machine may weigh. -/
def weightLimit : Nat := 10485760

/-- What a layout weighs. -/
def weight (l : Layout) : Nat :=
  32 * l.states + l.ways

/-- The layout with more states and ways, unless that is too heavy. -/
def grow? (l : Layout) (states ways : Nat) : Option Layout :=
  let grown : Layout := ⟨l.states + states, l.ways + ways⟩
  if weightLimit < grown.weight then none else some grown

/-- Something laid out some number of times. -/
def times? (lay : Layout → Option Layout) : Nat → Layout → Option Layout
  | 0, l => some l
  | n + 1, l =>
    match lay l with
    | some l => times? lay n l
    | none => none

end Layout

/-- States by what is known of them. A table has a fixed number of places, and a
state takes the place that its description is hashed to from whatever was
there. -/
structure StateTable where
  size : Nat
  entries : Std.ExtTreeMap Nat (List Nat × Nat) := ∅

namespace StateTable

/-- The FNV-1a hash of some numbers. -/
def hash (ns : List Nat) : UInt64 :=
  ns.foldl (fun h n => (h ^^^ n.toUInt64) * 1099511628211) 14695981039346656037

/-- The place for a description. -/
def place (t : StateTable) (key : List Nat) : Nat :=
  (hash key).toNat % t.size

/-- The state with a description, if it is still in its place. -/
def find? (t : StateTable) (key : List Nat) : Option Nat :=
  t.entries[t.place key]?.bind fun (known, state) => if known = key then
    some state else none

/-- With a state in the place for its description. -/
def enter (t : StateTable) (key : List Nat) (state : Nat) : StateTable :=
  { t with entries := t.entries.insert (t.place key) (key, state) }

end StateTable

/-- A layout in which states with the same description are shared. -/
structure SharedLayout where
  layout : Layout
  table : StateTable

/-- The state with a description, which is a new one if none is known. -/
def SharedLayout.state? (s : SharedLayout) (key : List Nat) (ways : Nat) :
    Option (Nat × SharedLayout) :=
  match s.table.find? key with
  | some state => some (state, s)
  | none =>
    (s.layout.grow? 1 ways).map fun l =>
      (s.layout.states, ⟨l, s.table.enter key s.layout.states⟩)

namespace Layout

/-- Rows of byte ranges by their first range, rows with the same one being next
to each other. -/
def byFirst :
    List (List (Nat × Nat)) → List ((Nat × Nat) × List (List (Nat × Nat)))
  | [] => []
  | [] :: rows => byFirst rows
  | (range :: tail) :: rows =>
    match byFirst rows with
    | (first, tails) :: groups =>
      if range = first then (first, tail :: tails) :: groups
      else (range, [tail]) :: (first, tails) :: groups
    | [] => [(range, [tail])]

/-- Lays out rows of byte ranges up to some length that lead to a state: one
state for each way to go on. -/
def layRows? (target : Nat) :
    Nat → List (List (Nat × Nat)) → SharedLayout → Option (Nat × SharedLayout)
  | 0, _, s => some (target, s)
  | length + 1, rows, s =>
    if rows.any List.isEmpty then some (target, s)
    else do
      let (ways, s) ← (byFirst rows).foldlM (fun (ways, s) (range, tails) => do
        let (next, s) ← layRows? target length tails s
        some (ways ++ [range.1, range.2, next], s)) ([], s)
      s.state? ways (8 * (byFirst rows).length)

/-- Lays out rows of byte ranges that are read backward: a choice between the
rows, and a state for each range. -/
def layRowsBackward? (rows : List (List (Nat × Nat))) (l : Layout) :
    Option Layout := do
  let grown ← l.grow? 2 0
  let shared ← rows.foldlM (fun s row => do
    let (_, s) ← row.foldlM
      (fun (next, s) (low, high) => s.state? [next, low, high] 0)
      (l.states + 1, s)
    let layout ← s.layout.grow? 0 4
    some { s with layout }) (⟨grown, ⟨1000, ∅⟩⟩ : SharedLayout)
  some shared.layout

/-- Lays out a set. -/
def laySet? (l : Layout) (backward : Bool) (set : CharSet) : Option Layout :=
  if set.isAscii then l.grow? 2 (8 * set.ranges.length)
  else if backward then layRowsBackward? set.rows l
  else do
    let grown ← l.grow? 1 0
    let (_, s) ← layRows? l.states 4 set.rows ⟨grown, ⟨10000, ∅⟩⟩
    some s.layout

end Layout

end DeviceShell
