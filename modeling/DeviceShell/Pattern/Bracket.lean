import DeviceShell.Pattern.Escape

/-!
# Sets in brackets

A set lists its members: characters, ranges, shorthands, and sets by name or in
brackets of their own. Sets are combined by operators between their members:
`&&` keeps what is in both, `--` takes away and `~~` keeps what is in one of
the two only. The combinations associate to the left. A closing bracket that
comes first is a member, and so are hyphens at either end.
-/

namespace DeviceShell.Pattern

/-- The set of the members from one character to another. -/
def Mode.range? (m : Mode) (low high : Char) : Option CharSet :=
  if high < low then none
  else if !m.scripts && 0x80 ≤ high.toNat then none
  else some ⟨[(low.toNat, high.toNat)]⟩

/-- A member of a set: one character, or what an escape stands for. -/
def member? (m : Mode) : List Char → Option (Escape × List Char)
  | '\\' :: rest => escape? m rest
  | c :: rest => some (.char c false, rest)
  | [] => none

/-- The character that decides whether a hyphen makes a range: the next one
that counts. -/
def Mode.afterHyphen? (m : Mode) (cs : List Char) : Option Char :=
  if m.spaced then
    match cs.dropWhile Text.isBlank with
    | '#' :: rest => (rest.dropWhile Text.isBlank).head?
    | rest => rest.head?
  else cs.head?

/-- One member of a set, or a range of them. -/
def members? (m : Mode) (cs : List Char) : Option (CharSet × List Char) := do
  let (first, rest) ← member? m cs
  let alone : Option CharSet :=
    match first with
    | .char c _ => m.range? c c
    | .set set => some set
    | .anchor _ => none
  match m.skip rest with
  | [] => none
  | '-' :: rest' =>
    if m.afterHyphen? rest' ∈ [some ']', some '-'] then
      alone.map fun set => (set, '-' :: rest')
    else
      let (last, rest) ← member? m (m.skip rest')
      match first, last with
      | .char low _, .char high _ =>
        (m.range? low high).map fun set => (set, rest)
      | _, _ => none
  | rest => alone.map fun set => (set, rest)

/-- The name of a set of ASCII characters between colons, after its opening
bracket, and whether its complement is meant. -/
def named? (cs : List Char) : Option (Bool × CharSet × List Char) :=
  match cs with
  | ':' :: rest =>
    let (negated, rest) :=
      match rest with
      | '^' :: rest => (true, rest)
      | _ => (false, rest)
    match rest.dropWhile (· ≠ ':') with
    | ':' :: ']' :: after =>
      (CharSet.named? (String.ofList (rest.takeWhile (· ≠ ':')))).map fun set =>
        (negated, set, after)
    | _ => none
  | _ => none

/-- A way to combine two sets. -/
inductive SetOp where
  | inter
  | diff
  | symmDiff
  deriving DecidableEq, Repr

/-- The combination of two sets. -/
def SetOp.apply : SetOp → CharSet → CharSet → CharSet
  | .inter, s, t => s.inter t
  | .diff, s, t => s.diff t
  | .symmDiff, s, t => s.symmDiff t

/-- The members read since the last operator: their ranges, whether those are
known to have both cases of their letters if case is disregarded, the number of
members, and how deep the deepest of them is nested. -/
structure Members where
  ranges : List (Nat × Nat) := []
  folded : Bool := true
  count : Nat := 0
  depth : Nat := 0

namespace Members

/-- With one more, that is no set in brackets. -/
def add (ms : Members) (set : CharSet) : Members :=
  { ms with ranges := set.ranges ++ ms.ranges, folded := false, count :=
    ms.count + 1 }

/-- With a set in brackets, which has both cases of its letters already. -/
def addSet (ms : Members) (set : CharSet) (depth : Nat) : Members :=
  { ms with
    ranges := set.ranges ++ ms.ranges, count := ms.count + 1, depth :=
      max ms.depth depth }

/-- The set of the members. -/
def set (ms : Members) : CharSet :=
  .ofRanges ms.ranges

/-- How deep the members are nested together. -/
def nesting (ms : Members) : Nat :=
  if ms.count ≤ 1 then ms.depth else ms.depth + 1

end Members

/-- A set that has been read: whether it is known to have both cases of its
letters if case is disregarded, and how deep it is nested. -/
structure Operand where
  set : CharSet
  folded : Bool
  depth : Nat

/-- A combination whose second operand is being read. -/
structure Pending where
  first : Operand
  op : SetOp

/-- The combination with its second operand. -/
def combined? (m : Mode) (pending : Option Pending) (ms : Members) :
    Option Operand :=
  match pending with
  | none => some ⟨ms.set, ms.folded, ms.nesting⟩
  | some p => do
    let second ← m.folded? ms.set ms.folded
    let first ← m.folded? p.first.set p.first.folded
    some ⟨p.op.apply first second, true, max p.first.depth ms.nesting + 1⟩

/-- Hyphens at the start are members. -/
def openingHyphens (m : Mode) : Nat → Members → List Char → Members × List Char
  | 0, ms, cs => (ms, cs)
  | fuel + 1, ms, cs =>
    match cs with
    | '-' :: rest => openingHyphens m fuel (ms.add (.single '-')) (m.skip rest)
    | _ => (ms, cs)

/-- The start of a set, after its opening bracket: whether its complement is
meant, and the hyphens or the bracket that are members because they come
first. -/
def opening (m : Mode) (fuel : Nat) (cs : List Char) :
    Bool × Members × List Char :=
  let cs := m.skip cs
  let (negated, cs) :=
    match cs with
    | '^' :: rest => (true, m.skip rest)
    | _ => (false, cs)
  let (ms, cs) := openingHyphens m fuel {} cs
  match cs with
  | ']' :: rest =>
    if ms.count = 0 then (negated, ms.add (.single ']'), m.skip rest)
    else (negated, ms, cs)
  | _ => (negated, ms, cs)

/-- The rest of a set, after its start: what it stands for and how deep it is
nested. Every turn takes a character, so `fuel` above their number is
enough. -/
def closing? (m : Mode) : Nat → Bool → Option Pending → Members → List Char →
    Option (CharSet × Nat × List Char)
  | 0, _, _, _, _ => none
  | fuel + 1, negated, pending, ms, cs =>
    let operator (op : SetOp) (rest : List Char) := do
      let first ← combined? m pending ms
      closing? m fuel negated (some ⟨first, op⟩) {} rest
    match m.skip cs with
    | '[' :: rest =>
      match named? rest with
      | some (complement, set, rest) => do
        let set ← m.settled? complement set false
        closing? m fuel negated pending (ms.addSet set 0) rest
      | none => do
        let (complement, inner, rest) := opening m fuel rest
        let (set, depth, rest) ← closing? m fuel complement none inner rest
        closing? m fuel negated pending (ms.addSet set depth) rest
    | ']' :: rest => do
      let whole ← combined? m pending ms
      let set ← m.settled? negated whole.set whole.folded
      some (set, whole.depth + 1, rest)
    | '&' :: '&' :: rest => operator .inter rest
    | '-' :: '-' :: rest => operator .diff rest
    | '~' :: '~' :: rest => operator .symmDiff rest
    | cs => do
      let (set, rest) ← members? m cs
      closing? m fuel negated pending (ms.add set) rest

/-- Reads a set, after its opening bracket: what it stands for, how deep it is
nested, and the rest. -/
def bracket? (m : Mode) (cs : List Char) : Option (CharSet × Nat × List Char) :=
  let (negated, ms, rest) := opening m cs.length cs
  closing? m (cs.length + 1) negated none ms rest

end DeviceShell.Pattern
