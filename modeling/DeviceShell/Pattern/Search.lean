import DeviceShell.Pattern.Basic

/-!
# Searching a text for a pattern

A search walks over the text once and keeps marks in the pattern: a set of
characters is marked when the character read last can have been taken by it.
Whether a match ends here, and which sets can take the next character, then
follows from the marks by recursion on the pattern. Anchors are looked up where
the walk stands, so they need the character before and the one after, and
nothing else.

Bounded repetitions are laid out before the walk. A body that is followed more
often than the text is long has to stay in place at least once, and from there
on can do so as often as it likes; so one copy more than there are characters
stands for any greater number.
-/

namespace DeviceShell

/-- A place in a text: the characters around it. -/
structure Place where
  before : Option Char
  after : Option Char
  deriving DecidableEq, Repr

/-- Whether a word goes on at one side of a place. -/
def Place.inWord (side : Option Char) : Bool :=
  side.any CharSet.wordChars.contains

/-- Whether the place is as the anchor says. -/
def Anchor.holds (place : Place) : Anchor → Bool
  | .textStart => place.before.isNone
  | .textEnd => place.after.isNone
  | .lineStart returns =>
    place.before.isNone || place.before == some '\n' ||
      returns && place.before == some '\r' && place.after != some '\n'
  | .lineEnd returns =>
    place.after.isNone ||
      if returns then
        place.after == some '\r' || place.after == some '\n' &&
          place.before != some '\r'
      else place.after == some '\n'
  | .word edge =>
    let before := Place.inWord place.before
    let after := Place.inWord place.after
    match edge with
    | .start => !before && after
    | .finish => before && !after
    | .either => before != after
    | .neither => before == after
    | .startHalf => !before
    | .finishHalf => !after
  | .unknown _ => false

/-- A pattern laid out for a search, with its marks. -/
inductive Trail where
  | empty
  | anchor (anchor : Anchor)
  | char (set : CharSet) (marked : Bool)
  | both (first second : Trail)
  | either (first second : Trail)
  | many (body : Trail)
  deriving DecidableEq, Repr

namespace Trail

/-- Some copies in a row. -/
def copies (t : Trail) : Nat → Trail
  | 0 => .empty
  | n + 1 => .both t (copies t n)

/-- Whether a match can pass without taking a character. -/
def passable (place : Place) : Trail → Bool
  | .empty | .many _ => true
  | .anchor a => a.holds place
  | .char _ _ => false
  | .both t u => t.passable place && u.passable place
  | .either t u => t.passable place || u.passable place

/-- Whether a match that took the last character can end here. -/
def arrived (place : Place) : Trail → Bool
  | .empty | .anchor _ => false
  | .char _ marked => marked
  | .both t u => t.arrived place && u.passable place || u.arrived place
  | .either t u => t.arrived place || u.arrived place
  | .many body => body.arrived place

/-- The marks after one more character. With `fresh`, a match may start
here. -/
def step (place : Place) (c : Char) (fresh : Bool) : Trail → Trail
  | .empty => .empty
  | .anchor a => .anchor a
  | .char set _ => .char set (fresh && set.contains c)
  | .both t u =>
    .both (t.step place c fresh)
      (u.step place c (fresh && t.passable place || t.arrived place))
  | .either t u => .either (t.step place c fresh) (u.step place c fresh)
  | .many body => .many (body.step place c (fresh || body.arrived place))

/-- Whether a match ends at some place from here on. -/
def walk (before : Option Char) (t : Trail) : List Char → Bool
  | [] => t.passable ⟨before, none⟩ || t.arrived ⟨before, none⟩
  | c :: rest =>
    let place : Place := ⟨before, some c⟩
    t.passable place || t.arrived place ||
      walk (some c) (t.step place c true) rest

end Trail

namespace Pattern

/-- The pattern laid out for a text of some length. -/
def trail (length : Nat) : Pattern → Trail
  | .empty => .empty
  | .text chars =>
    chars.foldr (fun c t => .both (.char (.single c) false) t) .empty
  | .char set _ => .char set false
  | .anchor a => .anchor a
  | .both p q => .both (p.trail length) (q.trail length)
  | .either p q => .either (p.trail length) (q.trail length)
  | .repeated body least most _ =>
    let t := body.trail length
    .both (t.copies (min least (length + 1)))
      (match most with
        | none => .many t
        | some most =>
          (Trail.either .empty t).copies (min (most - least) (length + 1)))
  | .group _ body => body.trail length

/-- Whether some part of a text matches. None does if the text has
fewer bytes than any match. -/
def found (p : Pattern) (text : String) : Bool :=
  p.shortest?.all (· ≤ text.utf8ByteSize) &&
    (p.trail text.toList.length).walk none text.toList

end Pattern

end DeviceShell
