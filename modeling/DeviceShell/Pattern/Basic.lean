import DeviceShell.Pattern.CharSet

/-!
# Patterns

A pattern says what a part of a text has to look like: characters, or characters
from sets, in a row, alternatives, repetitions, and anchors, which take no
character and hold at some places only. Words are known for ASCII. An anchor
that would have to know the words of every script is `unknown`; a pattern may
say so, but no text can be searched for it.

Patterns are put together with `ofSet`, `sequence`, `alternatives` and
`repetition`, which leave out what has no effect and give what is alike one
form: characters in a row are one text, characters and sets to choose from are
one set, and what all alternatives begin with stands before them. How much a
pattern weighs depends on that form. Rows and alternatives are chains: the first
of a `both` is no `both` and not empty, the first of an `either` is no `either`,
and a row has no two texts next to each other.
-/

namespace DeviceShell

/-- Where a place is with respect to words. The halves look to one side. -/
inductive WordEdge where
  | start
  | finish
  | either
  | neither
  | startHalf
  | finishHalf
  deriving DecidableEq, Repr

/-- A condition on a place in a text. Lines end at line feeds, or with
`returns` at carriage returns as well, the two together being one end. -/
inductive Anchor where
  | textStart
  | textEnd
  | lineStart (returns : Bool)
  | lineEnd (returns : Bool)
  | word (edge : WordEdge)
  | unknown (edge : WordEdge)
  deriving DecidableEq, Repr

/-- A pattern. A set is one of all scripts or of ASCII alone, a repetition
prefers more or fewer times, and a group has a number; none of that makes a
difference to whether a text matches. -/
inductive Pattern where
  | empty
  | text (chars : List Char)
  | char (set : CharSet) (scripts : Bool)
  | anchor (anchor : Anchor)
  | both (first second : Pattern)
  | either (first second : Pattern)
  | repeated (body : Pattern) (least : Nat) (most : Option Nat) (greedy : Bool)
  | group (index : Nat) (body : Pattern)
  deriving DecidableEq, Repr

namespace Pattern

/-- The pattern that never matches. -/
def nothing : Pattern := .char .empty false

/-- The number of bytes that encode some characters. -/
def encodedSize (chars : List Char) : Nat :=
  (chars.map Char.utf8Size).foldl (· + ·) 0

/-- A number of bytes that no match is shorter than; none if the pattern
contains one that never matches. -/
def shortest? : Pattern → Option Nat
  | .empty | .anchor _ => some 0
  | .text chars => some (encodedSize chars)
  | .char set _ => if set.ranges.isEmpty then none else some 1
  | .both p q => p.shortest?.bind fun m => q.shortest?.map fun n => m + n
  | .either p q => p.shortest?.bind fun m => q.shortest?.map fun n => min m n
  | .repeated body least _ _ => body.shortest?.map fun n => n * least
  | .group _ body => body.shortest?

/-- Whether the pattern never takes a character. -/
def takesNothing : Pattern → Bool
  | .empty | .anchor _ => true
  | .text chars => chars.isEmpty
  | .char .. => false
  | .both p q | .either p q => p.takesNothing && q.takesNothing
  | .repeated body _ most _ => body.takesNothing || most = some 0
  | .group _ body => body.takesNothing

/-- Whether all anchors of the pattern are known. -/
def isKnown : Pattern → Bool
  | .anchor (.unknown _) => false
  | .empty | .text _ | .char .. | .anchor _ => true
  | .both p q | .either p q => p.isKnown && q.isKnown
  | .repeated body _ _ _ | .group _ body => body.isKnown

/-- A character from a set, which stands for itself if it is the only one. -/
def ofSet (set : CharSet) (scripts : Bool) : Pattern :=
  match set.ranges with
  | [] => nothing
  | [(low, high)] =>
    if low = high then .text [Char.ofNat low] else .char set scripts
  | _ => .char set scripts

/-- A pattern at least and at most some number of times. What takes no
character has its full effect the first time. -/
def repetition (body : Pattern) (least : Nat) (most : Option Nat)
    (greedy : Bool) : Pattern :=
  let (least, most) :=
    if body.takesNothing then (min least 1, some (min (most.getD 1) 1))
    else (least, most)
  if least = 0 ∧ most = some 0 then .empty
  else if least = 1 ∧ most = some 1 then body
  else .repeated body least most greedy

/-- The members of a row. -/
def parts : Pattern → List Pattern
  | .empty => []
  | .both p q => p :: q.parts
  | p => [p]

/-- Some patterns with the texts joined that are next to each other. -/
def joinTexts : List Pattern → List Pattern
  | [] => []
  | .text cs :: rest =>
    match joinTexts rest with
    | .text ds :: rest => .text (cs ++ ds) :: rest
    | rest => .text cs :: rest
  | p :: rest => p :: joinTexts rest

/-- Some patterns as a chain of `both`. -/
def row : List Pattern → Pattern
  | [] => .empty
  | [p] => p
  | p :: rest => .both p (row rest)

/-- One pattern after the other. -/
def sequence (ps : List Pattern) : Pattern :=
  row (joinTexts (ps.flatMap parts))

/-- The alternatives of a pattern. -/
def choices : Pattern → List Pattern
  | .either p q => p :: q.choices
  | p => [p]

/-- Some patterns as a chain of `either`. -/
def choice : List Pattern → Pattern
  | [] => nothing
  | [p] => p
  | p :: rest => .either p (choice rest)

/-- The one character that a pattern stands for. -/
def char? : Pattern → Option Char
  | .text [c] => some c
  | _ => none

/-- The set that a pattern stands for. -/
def set? : Pattern → Option CharSet
  | .char set _ => some set
  | _ => none

/-- One of some patterns, which become one set if all are characters or all are
sets. -/
def oneOf (ps : List Pattern) : Pattern :=
  match ps with
  | [p] => p
  | ps =>
    match ps.mapM char?, ps.mapM set? with
    | some cs, _ => ofSet (.ofRanges (cs.map fun c => (c.toNat, c.toNat))) true
    | none, some sets => ofSet (sets.foldl .union .empty) true
    | none, none => choice ps

/-- What two lists begin with in common. -/
def commonStart : List Pattern → List Pattern → List Pattern
  | p :: ps, q :: qs => if p = q then p :: commonStart ps qs else []
  | _, _ => []

/-- What the rows among some patterns begin with in common, if all are rows. -/
def commonParts : List Pattern → List Pattern
  | [] => []
  | p :: rest =>
    if (p :: rest).all fun q => decide (1 < q.parts.length) then
      rest.foldl (fun start q => commonStart start q.parts) p.parts
    else []

/-- One of some patterns. What all of them begin with comes first, and then one
of the ways to go on. -/
def alternatives (ps : List Pattern) : Pattern :=
  match ps.flatMap choices with
  | [p] => p
  | ps =>
    match commonParts ps with
    | [] => oneOf ps
    | start =>
      sequence (start ++
        [oneOf
          ((ps.map fun p => sequence (p.parts.drop start.length)).flatMap
            choices)])

end Pattern

end DeviceShell
