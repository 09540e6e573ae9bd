import DeviceShell.Pattern.Basic
import DeviceShell.Pattern.WordTree

/-!
# How much a pattern weighs

A pattern is refused if the machine that searches for it takes too much room.
There are two machines: one that reads forward and notes where groups begin and
end, and one that reads backward. Repetitions are laid out in full, and that is
where the weight comes from.
-/

namespace DeviceShell.Pattern

/-- The bytes of a text. -/
def textBytes (chars : List Char) : List Nat :=
  chars.flatMap fun c => CharSet.encoding c.toNat

/-- The alternatives of a pattern, if all of them are texts. -/
def texts? : Pattern → Option (List (List Char))
  | .text chars => some [chars]
  | .either (.text chars) q => q.texts?.map (chars :: ·)
  | _ => none

/-- Lays out alternatives that are texts. -/
def layTexts? (backward : Bool) (texts : List (List Char)) (l : Layout) :
    Option Layout :=
  l.layWords? (texts.map fun chars =>
    if backward then (textBytes chars).reverse else textBytes chars)

/-- Joins an alternative to those before it in its choice: the second one brings
the choice and the join with it. -/
def join? (earlier : Nat) (l : Layout) : Option Layout :=
  if earlier = 0 then some l
  else if earlier = 1 then l.grow? 2 8
  else l.grow? 0 4

/-- Lays out a body between its least and its greatest number of times. -/
def layTimes? (lay : Layout → Option Layout) (mayBeEmpty : Bool) (least : Nat)
    (most : Option Nat) (l : Layout) : Option Layout :=
  match least, most with
  | 0, some 1 => do
    let l ← l.grow? 1 8
    let l ← lay l
    l.grow? 1 0
  | 0, none =>
    if mayBeEmpty then do
      let l ← lay l
      l.grow? 3 16
    else do
      let l ← l.grow? 1 8
      lay l
  | least, none => do
    let l ← Layout.times? lay least l
    l.grow? 1 8
  | least, some most => do
    let l ← if least = 0 then l.grow? 1 0 else Layout.times? lay least l
    if most = least then some l
    else
      let l ← l.grow? 1 0
      Layout.times? (fun l => do
        let l ← l.grow? 1 8
        lay l) (most - least) l

/-- Lays out a pattern that has some alternatives before it in its choice. Read
backward, rows are laid out from their ends, and groups leave no trace. -/
def lay? (backward : Bool) : Pattern → (earlier : Nat) → Layout → Option Layout
  | .empty, earlier, l | .anchor _, earlier, l =>
    (l.grow? 1 0).bind (join? earlier)
  | .text chars, earlier, l =>
    (l.grow? (encodedSize chars) 0).bind (join? earlier)
  | .char set _, earlier, l => (l.laySet? backward set).bind (join? earlier)
  | .both p q, earlier, l => do
    let l ← if backward then q.lay? backward 0 l else p.lay? backward 0 l
    let l ← if backward then p.lay? backward 0 l else q.lay? backward 0 l
    join? earlier l
  | .either p q, earlier, l =>
    match if earlier = 0 then texts? (.either p q) else none with
    | some texts => layTexts? backward texts l
    | none => do
      let l ← p.lay? backward 0 l
      let l ← join? earlier l
      q.lay? backward (earlier + 1) l
  | .repeated body least most _, earlier, l => do
    let mayBeEmpty := !body.shortest?.any (0 < ·)
    let l ← layTimes? (body.lay? backward 0) mayBeEmpty least most l
    join? earlier l
  | .group _ body, earlier, l => do
    let l ← if backward then some l else l.grow? 1 0
    let l ← body.lay? backward 0 l
    let l ← if backward then some l else l.grow? 1 0
    join? earlier l

/-- Whether every match, read from one end, begins with an anchor. -/
def beginsWith (anchor : Anchor) (backward : Bool) : Pattern → Bool
  | .anchor a => a = anchor
  | .empty | .text _ | .char .. => false
  | .both p q =>
    let first := if backward then q.beginsWith anchor backward
      else p.beginsWith anchor backward
    let second := if backward then p.beginsWith anchor backward
      else q.beginsWith anchor backward
    first || (if backward then q else p).takesNothing && second
  | .either p q => p.beginsWith anchor backward && q.beginsWith anchor backward
  | .repeated body least _ _ => 0 < least && body.beginsWith anchor backward
  | .group _ body => body.beginsWith anchor backward

/-- Lays out what leads up to a match: any bytes, unless every match begins at
the end that is read first. -/
def layLead? (anchored : Bool) : Option Layout :=
  if anchored then Layout.grow? {} 1 0 else Layout.grow? {} 3 16

/-- The machine that reads forward, unless it is too heavy. The whole pattern is
a group, and a match is a state. -/
def forward? (p : Pattern) : Option Layout := do
  let l ← layLead? (p.beginsWith .textStart false)
  let l ← l.grow? 1 0
  let l ← p.lay? false 0 l
  l.grow? 2 0

/-- The machine that reads backward, unless it is too heavy. -/
def backward? (p : Pattern) : Option Layout := do
  let l ← layLead? (p.beginsWith .textEnd true)
  let l ← p.lay? true 0 l
  l.grow? 1 0

end DeviceShell.Pattern
