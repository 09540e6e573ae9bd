import DeviceShell.Pattern.Bracket
import DeviceShell.Pattern.Machine
import DeviceShell.Pattern.Words
import DeviceShell.Text.Letter

/-!
# Reading patterns

A pattern is read from left to right. Open groups wait on a stack with what
came before them, so that a mode that is set in a group ends with it; up to
there it holds for everything that follows, in later alternatives too. Of each
part it is known how deep it is nested, and a pattern that is nested too deep
is refused, like one that is malformed.

A pattern can be well-formed and still be refused: because it weighs too much,
or because it asks for words of every script.
-/

namespace DeviceShell.Pattern

/-- A part of a pattern: what it means, how deep it is nested, and whether it
can be repeated. -/
structure Part where
  pattern : Pattern
  depth : Nat := 0
  repeatable : Bool := true

namespace Part

/-- How deep several parts together are nested: one deeper than the deepest,
unless there is only one. -/
def nesting (parts : List Part) : Nat :=
  let deepest := (parts.map (·.depth)).foldr max 0
  if parts.length ≤ 1 then deepest else deepest + 1

/-- Parts in a row, the last one first. -/
def row (reversed : List Part) : Part where
  pattern := sequence (reversed.reverse.map (·.pattern))
  depth := nesting reversed

/-- Alternatives, the last one first. -/
def choice (last : Part) (reversed : List Part) : Part where
  pattern := alternatives ((last :: reversed).reverse.map (·.pattern))
  depth := nesting (last :: reversed)

end Part

/-- What waits for a group to be closed: the alternatives and the parts before
it, the last one first, and the mode outside. -/
structure Outer where
  mode : Mode
  branches : List Part
  parts : List Part
  index : Option Nat

/-- A pattern that is being read: the mode, the alternatives and the parts of
the innermost group, the last one first, what is around it, and the number and
the names of the groups so far. -/
structure Reading where
  mode : Mode := {}
  branches : List Part := []
  parts : List Part := []
  outer : List Outer := []
  groups : Nat := 0
  names : List (List Char) := []

/-- Settings of the mode: letters, and whether each is turned on. What comes
after a hyphen is turned off. No letter may stand twice, and the hyphen must not
be the last. -/
def settings? (letters : List Char) : Option (List (Char × Bool)) := do
  let on := letters.takeWhile (· ≠ '-')
  let off ←
    match letters.dropWhile (· ≠ '-') with
    | [] => some []
    | [_] => none
    | _ :: off => some off
  if (on ++ off).all (· ∈ ['i', 'm', 's', 'U', 'u', 'R', 'x']) &&
      decide (on ++ off).Nodup then
    some (on.map (·, true) ++ off.map (·, false))
  else none

/-- The mode with a setting. -/
def Mode.set (m : Mode) : Char × Bool → Mode
  | ('i', b) => { m with disregardCase := b }
  | ('m', b) => { m with lines := b }
  | ('s', b) => { m with dotAll := b }
  | ('u', b) => { m with scripts := b }
  | ('R', b) => { m with returns := b }
  | ('x', b) => { m with spaced := b }
  | ('U', b) => { m with swapped := b }
  | _ => m

/-- The name of a group, after its opening bracket. It starts with a letter or
`_`. -/
def groupName? (cs : List Char) : Option (List Char × List Char) :=
  match cs.dropWhile (· ≠ '>') with
  | _ :: rest =>
    match cs.takeWhile (· ≠ '>') with
    | [] => none
    | c :: name =>
      if (c = '_' || Text.isLetter c) &&
          name.all fun c => c ∈ ['_', '.', '[', ']'] ||
            Text.isLetterOrNumber c then
        some (c :: name, rest)
      else none
  | [] => none

/-- The bounds of a repetition, after the opening brace: a count, or one or
two bounds with a comma. -/
def bounds? (m : Mode) (cs : List Char) :
    Option ((Nat × Option Nat) × List Char) := do
  let (inside, rest) ← m.braced? cs
  let number? (cs : List Char) : Option Nat :=
    let digits := Text.trim cs
    if digits.isEmpty || !digits.all Char.isDigit then none
    else
      let n := Nat.ofDigitChars 10 digits 0
      if n < 0x100000000 then some n else none
  let bounds ←
    match Text.pieces (· == ',') inside with
    | [n] => (number? n).map fun n => (n, some n)
    | [n, []] => (number? n).map fun n => (n, none)
    | [n, most] => do
      let n ← number? n
      let most ← number? most
      if n ≤ most then some (n, some most) else none
    | _ => none
  some (bounds, rest)

/-- Whether more times are preferred to fewer, which a question mark turns
around, and the rest. -/
def Mode.greed (m : Mode) : List Char → Bool × List Char
  | '?' :: rest => (m.swapped, rest)
  | cs => (!m.swapped, cs)

/-- A character that stands for itself. -/
def literal? (m : Mode) (c : Char) (isByte : Bool) : Option Pattern :=
  if m.scripts then if m.disregardCase then none else some (.text [c])
  else if isByte && 0x80 ≤ c.toNat then none
  else if m.disregardCase then
    some (ofSet (CharSet.single c).disregardCase false)
  else some (.text [c])

/-- Any character, but none that ends a line unless the mode says so. -/
def dot? (m : Mode) : Option Pattern :=
  if !m.scripts then none
  else if m.dotAll then some (.char .all true)
  else if m.returns then
    some (.char (CharSet.ofRanges [(0x0A, 0x0A), (0x0D, 0x0D)]).compl true)
  else some (.char (CharSet.single '\n').compl true)

namespace Reading

/-- With one more part. -/
def push (r : Reading) (pattern : Pattern) (depth : Nat) : Reading :=
  { r with parts := { pattern, depth } :: r.parts }

/-- With the last part repeated. -/
def repeat? (r : Reading) (least : Nat) (most : Option Nat) (greedy : Bool) :
    Option Reading :=
  match r.parts with
  | part :: parts =>
    if part.repeatable then
      let pattern := repetition part.pattern least most greedy
      some { r with parts := ⟨pattern, part.depth + 1, true⟩ :: parts }
    else none
  | [] => none

/-- With brackets opened. -/
def openBrackets (r : Reading) (mode : Mode) (index : Option Nat) : Reading :=
  { r with mode, branches := [], parts := []
           outer := ⟨r.mode, r.branches, r.parts, index⟩ :: r.outer }

/-- With a group opened. -/
def openGroup (r : Reading) : Reading :=
  { r.openBrackets r.mode (some (r.groups + 1)) with groups := r.groups + 1 }

/-- What the innermost group, or the pattern, consists of. -/
def content (r : Reading) : Part :=
  Part.choice (Part.row r.parts) r.branches

/-- With the innermost group closed. -/
def closeGroup? (r : Reading) : Option Reading :=
  match r.outer with
  | [] => none
  | o :: outer =>
    let content := r.content
    let pattern :=
      match o.index with
      | some index => .group index content.pattern
      | none => content.pattern
    some { r with mode := o.mode, branches := o.branches, outer
                  parts := { pattern, depth := content.depth + 1 } :: o.parts }

/-- Reads what comes after an opening parenthesis: a named group, a mode that
is set for what follows or for a group, or a group. -/
def parenthesis? (r : Reading) (cs : List Char) :
    Option (Reading × List Char) :=
  let named (cs : List Char) := do
    let (name, rest) ← groupName? cs
    if name ∈ r.names then none
    else some ({ r.openGroup with names := name :: r.names }, rest)
  match r.mode.skip cs with
  | '?' :: 'P' :: '<' :: rest => named rest
  | '?' :: '<' :: rest =>
    match rest with
    | '=' :: _ | '!' :: _ => none
    | _ => named rest
  | '?' :: rest => do
    let isEnd (c : Char) := c == ':' || c == ')'
    let settings ← settings? (rest.takeWhile (!isEnd ·))
    let mode := settings.foldl Mode.set r.mode
    match rest.dropWhile (!isEnd ·) with
    | ':' :: rest => some (r.openBrackets mode none, rest)
    | _ :: rest =>
      if settings.isEmpty then none
      else some ({ r with mode, parts := ⟨.empty, 0, false⟩ :: r.parts }, rest)
    | [] => none
  | rest => some (r.openGroup, rest)

/-- Reads one part, or the beginning or end of a group. -/
def step? (r : Reading) : List Char → Option (Reading × List Char)
  | [] => none
  | c :: rest =>
    let repeated (least : Nat) (most : Option Nat) (rest : List Char) :=
      let (greedy, rest) := r.mode.greed rest
      (r.repeat? least most greedy).map (·, rest)
    match c with
    | '(' => r.parenthesis? rest
    | ')' => r.closeGroup?.map (·, rest)
    | '|' =>
      some ({ r with branches := Part.row r.parts :: r.branches, parts := [] },
        rest)
    | '[' => do
      let (set, depth, rest) ← bracket? r.mode rest
      some (r.push (ofSet set r.mode.scripts) depth, rest)
    | '?' => repeated 0 (some 1) rest
    | '*' => repeated 0 none rest
    | '+' => repeated 1 none rest
    | '\x7b' => do
      let ((least, most), rest) ← bounds? r.mode rest
      repeated least most (r.mode.skip rest)
    | '\\' => do
      let (escape, rest) ← escape? r.mode rest
      let pattern ←
        match escape with
        | .char c isByte => literal? r.mode c isByte
        | .set set => some (ofSet set r.mode.scripts)
        | .anchor a => some (.anchor a)
      some (r.push pattern 0, rest)
    | '.' => (dot? r.mode).map fun p => (r.push p 0, rest)
    | '^' =>
      let a := if r.mode.lines then Anchor.lineStart r.mode.returns
        else .textStart
      some (r.push (.anchor a) 0, rest)
    | '$' =>
      let a := if r.mode.lines then Anchor.lineEnd r.mode.returns else .textEnd
      some (r.push (.anchor a) 0, rest)
    | c => (literal? r.mode c false).map fun p => (r.push p 0, rest)

/-- Reads up to the end. Every step takes a character, so `fuel` above their
number is enough. -/
def finish? : Nat → Reading → List Char → Option Part
  | 0, _, _ => none
  | fuel + 1, r, cs =>
    match r.mode.skip cs with
    | [] => if r.outer.isEmpty then some r.content else none
    | cs => (r.step? cs).bind fun (r, rest) => finish? fuel r rest

end Reading

/-- How deep a pattern may be nested. -/
def depthLimit : Nat := 250

/-- What is wrong with a pattern. -/
inductive Fault where
  | malformed
  | tooHeavy
  | unknownWords
  deriving DecidableEq, Repr

/-- The pattern, unless it is too heavy or asks for unknown words. One that is
searched for by its words has no weight. -/
def checked (p : Pattern) : Except Fault Pattern :=
  if p.isWords then .ok p
  else if p.forward?.isNone then .error .tooHeavy
  else if !p.isKnown then .error .unknownWords
  else if p.backward?.isNone then .error .tooHeavy
  else .ok p

/-- Reads a pattern from its whole text. -/
def read (text : String) : Except Fault Pattern :=
  match Reading.finish? (text.toList.length + 1) {} text.toList with
  | none => .error .malformed
  | some part =>
    if depthLimit < part.depth then .error .malformed
    else part.pattern.checked

end DeviceShell.Pattern
