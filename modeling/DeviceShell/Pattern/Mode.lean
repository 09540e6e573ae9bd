import DeviceShell.Pattern.Basic
import DeviceShell.Text.Blank

/-!
# Modes of reading

How a pattern is read depends on the mode: whether blanks and comments may
stand between its parts, whether letter case counts, where lines end, whether
repetitions prefer fewer times where they would prefer more, and whether its
sets and words are those of all scripts or of ASCII. For all
scripts only what needs no tables is known: single characters and ranges, and
sets of ASCII characters that go by name. Shorthands, words, and disregarding
case are there for ASCII alone, and in return a set for ASCII alone cannot be
turned into its complement.
-/

namespace DeviceShell.Pattern

/-- How a pattern is read and what its parts mean. -/
structure Mode where
  disregardCase : Bool := false
  lines : Bool := false
  dotAll : Bool := false
  returns : Bool := false
  scripts : Bool := true
  spaced : Bool := false
  swapped : Bool := false
  deriving DecidableEq, Repr

namespace Mode

/-- What comes after the blanks and the comments at the start. -/
def skipFrom : (inComment : Bool) → List Char → List Char
  | _, [] => []
  | true, c :: rest => skipFrom (c ≠ '\n') rest
  | false, c :: rest =>
    if Text.isBlank c then skipFrom false rest
    else if c = '#' then skipFrom true rest
    else c :: rest

/-- What comes after that which does not count. -/
def skip (m : Mode) (cs : List Char) : List Char :=
  if m.spaced then skipFrom false cs else cs

/-- The characters that count up to a closing brace, and the rest. -/
def bracedFrom? (m : Mode) :
    (inComment : Bool) → List Char → Option (List Char × List Char)
  | _, [] => none
  | true, c :: rest => bracedFrom? m (c ≠ '\n') rest
  | false, '\x7d' :: rest => some ([], rest)
  | false, c :: rest =>
    if m.spaced && Text.isBlank c then bracedFrom? m false rest
    else if m.spaced && c = '#' then bracedFrom? m true rest
    else (bracedFrom? m false rest).map fun (inside, rest) =>
      (c :: inside, rest)

/-- What stands in braces, after the opening one. -/
def braced? (m : Mode) (cs : List Char) : Option (List Char × List Char) :=
  m.bracedFrom? false cs

/-- The set with both cases of its letters, if case is disregarded. With
`folded` it is known to have them. -/
def folded? (m : Mode) (set : CharSet) (folded : Bool) : Option CharSet :=
  if !m.disregardCase || folded then some set
  else if !m.scripts then some set.disregardCase
  else none

/-- What a set in brackets stands for. -/
def settled? (m : Mode) (negated : Bool) (set : CharSet) (folded : Bool) :
    Option CharSet := do
  let set ← m.folded? set folded
  if !negated then some set
  else if m.scripts then some set.compl
  else none

/-- What a shorthand stands for. -/
def shorthand? (m : Mode) (negated : Bool) (set : CharSet) : Option CharSet :=
  if m.scripts || negated then none else some set

/-- The anchor for a place in or at a word. -/
def wordAnchor (m : Mode) (edge : WordEdge) : Anchor :=
  if m.scripts then .unknown edge else .word edge

end Mode

end DeviceShell.Pattern
