import DeviceShell.Pattern.Basic
import DeviceShell.Pattern.Encoding

/-!
# Patterns that are words

A pattern that matches some words and nothing else is searched for without a
machine, so it cannot be too heavy: what is heavy in it stands beside a set
without characters and never matches. Words are gathered from the start of what
can match. A word is whole if a match ends with it, and only begins one if there
were too many ways to go on. The pattern is searched for by its words if all of
them are whole and it is not better to look for how they begin.
-/

namespace DeviceShell.Pattern

/-- A word in bytes, and whether it is all that is matched. -/
structure Word where
  bytes : List Nat
  whole : Bool
  deriving DecidableEq, Repr

namespace Word

/-- The word as one that only begins a match. -/
def opened (w : Word) : Word :=
  { w with whole := false }

/-- The word up to a number of bytes. -/
def cut (w : Word) (size : Nat) : Word :=
  if w.bytes.length ≤ size then w else ⟨w.bytes.take size, false⟩

/-- Two words in a row. -/
def append (v w : Word) : Word :=
  ⟨v.bytes ++ w.bytes, w.whole⟩

/-- Words of which those next to each other differ. -/
def distinct : List Word → List Word
  | [] => []
  | v :: rest =>
    match distinct rest with
    | w :: rest =>
      if v.bytes = w.bytes then ⟨v.bytes, v.whole && w.whole⟩ :: rest
      else v :: w :: rest
    | [] => [v]

/-- Words without those that begin with an earlier one, some words coming before
all of them. -/
def preferredAfter (before : List Word) : List Word → List Word
  | [] => []
  | w :: rest =>
    if before.any fun v => v.bytes.isPrefixOf w.bytes then
      preferredAfter before rest
    else w :: preferredAfter (w :: before) rest

/-- Words without those that begin with an earlier one. -/
def preferred (ws : List Word) : List Word :=
  preferredAfter [] ws

/-- The length of what two rows of bytes begin with in common. -/
def commonLength : List Nat → List Nat → Nat
  | a :: as, b :: bs => if a = b then commonLength as bs + 1 else 0
  | _, _ => 0

end Word

/-- The words that can begin a match; none if there are too many. -/
abbrev Words := Option (List Word)

namespace Words

/-- The most words that are gathered. -/
def limit : Nat := 250

/-- The empty word alone. -/
def start : Words := some [⟨[], true⟩]

/-- No word. -/
def empty : Words := some []

/-- The words as ones that only begin a match. -/
def opened (ws : Words) : Words :=
  ws.map fun ws => ws.map Word.opened

/-- The words up to a number of bytes. -/
def cut (ws : Words) (size : Nat) : Words :=
  ws.map fun ws => ws.map (·.cut size)

/-- Whether no word is whole, so that nothing can be added to them. -/
def areOpen (ws : Words) : Bool :=
  ws.all fun ws => ws.all (!·.whole)

/-- Whether there are too many words together. -/
def tooMany (vs ws : Words) (count : Nat → Nat → Nat) : Bool :=
  match vs, ws with
  | some vs, some ws => limit < count vs.length ws.length
  | _, _ => false

/-- The words of either. If there are too many, only their first four bytes are
kept. -/
def either (vs ws : Words) : Words :=
  let shorten (ws : Words) : Words := (ws.cut 4).map Word.distinct
  let (vs, ws) := if tooMany vs ws (· + ·) then (shorten vs, shorten ws)
    else (vs, ws)
  if tooMany vs ws (· + ·) then none
  else
    match vs, ws with
    | some vs, some ws => some (Word.distinct (vs ++ ws))
    | _, _ => none

/-- The words with others after them. -/
def both (vs ws : Words) : Words :=
  match vs, if tooMany vs ws (· * ·) then none else ws with
  | some vs, some ws =>
    cut (some (Word.distinct (vs.flatMap fun v => if v.whole then
      ws.map v.append else [v]))) 100
  | some vs, none =>
    if vs.any (·.bytes.isEmpty) then none else cut (opened (some vs)) 100
  | none, _ => none

/-- A number of copies of the words in a row, ten at most. -/
def times (ws : Words) (n : Nat) : Words :=
  let repeated := (List.range (min n 10)).foldl
    (fun vs _ => if vs.areOpen then vs else both vs ws) start
  if 10 < n then repeated.opened else repeated

/-- The words for a set. -/
def ofSet (set : CharSet) : Words :=
  let size := (set.ranges.map fun (low, high) => high + 1 - low).foldl (· + ·) 0
  if 10 < size then none
  else
    some (set.ranges.flatMap fun (low, high) =>
      (List.range (high + 1 - low)).map fun n =>
        ⟨CharSet.encoding (low + n), true⟩)

/-- The words for repetitions. -/
def repeated (ws : Words) (least : Nat) (most : Option Nat) (greedy : Bool) :
    Words :=
  if least = 0 then
    let ws := if most = some 1 then ws else ws.opened
    if greedy then either ws start else either start ws
  else if most = some least then times ws least
  else (times ws least).opened

end Words

/-- Where the words of a pattern go: after others in a row, or to others in a
choice. -/
inductive Gathering where
  | row (before : Words)
  | choice (before : Words)

/-- What is gathered with some more words. -/
def Gathering.with : Gathering → Words → Words
  | .row before, ws => if before.areOpen then before else before.both ws
  | .choice before, ws => if before.isNone then before else before.either ws

/-- Gathers the words of a pattern. -/
def gather : Pattern → Gathering → Words
  | .empty, g | .anchor _, g => g.with .start
  | .text chars, g =>
    g.with (Words.cut
      (some [⟨chars.flatMap fun c => CharSet.encoding c.toNat, true⟩]) 100)
  | .char set _, g => g.with (.ofSet set)
  | .both p q, g =>
    match g with
    | .row _ => q.gather (.row (p.gather g))
    | .choice _ => g.with (q.gather (.row (p.gather (.row .start))))
  | .either p q, g =>
    match g with
    | .choice _ => q.gather (.choice (p.gather g))
    | .row _ => g.with (q.gather (.choice (p.gather (.choice .empty))))
  | .repeated body least most greedy, g =>
    g.with ((body.gather (.row .start)).repeated least most greedy)
  | .group _ body, g => g.with (body.gather (.row .start))

/-- Whether the pattern has neither anchors nor groups. -/
def isPlain : Pattern → Bool
  | .anchor _ | .group .. => false
  | .empty | .text _ | .char .. => true
  | .both p q | .either p q => p.isPlain && q.isPlain
  | .repeated body _ _ _ => body.isPlain

/-- The bytes that are common in texts. -/
def commonBytes : List Nat :=
  ("\n\r (),-./0129:_abcdefghilmnoprstuvxy|".toList.map Char.toNat)

/-- Whether words are better looked for by how they begin: by one byte that all
begin with and that is not common, or by more bytes that all begin with. -/
def haveGoodStart (count : Nat) (ws : List Word) : Bool :=
  match ws with
  | [] => false
  | w :: rest =>
    let size :=
      rest.foldl (fun size v => min size (Word.commonLength w.bytes v.bytes))
      w.bytes.length
    if 1 < count ∧ 1 ≤ size ∧ size ≤ 3 ∧ w.bytes.headD 0 < 0x80 ∧
        w.bytes.headD 0 ∉ commonBytes then
      ws.any (1 < ·.bytes.length)
    else (4 < size || 1 < size && 16 < ws.length) &&
      ws.any (size < ·.bytes.length)

/-- Words made shorter as long as there are more of them than wanted. -/
def shortened (ws : List Word) : List (Nat × Nat) → List Word
  | [] => ws
  | (size, count) :: rest =>
    if ws.length ≤ count then ws
    else shortened (Word.preferred (ws.map (·.cut size))) rest

/-- Whether words are better looked for by how they begin because there
are fewer ways to begin. -/
def haveFewStarts (ws : List Word) : Bool :=
  let starts := shortened ws [(5, 10), (4, 10), (3, 64), (2, 64), (1, 10)]
  starts.all (2 < ·.bytes.length) && starts.length ≤ 64 && starts.any (!·.whole)

/-- Whether the pattern is searched for by its words. -/
def isWords (p : Pattern) : Bool :=
  p.isPlain &&
    match p.gather (.choice .empty) with
    | some ws =>
      let kept := Word.preferred ws
      !ws.isEmpty && ws.all (fun w => w.whole && !w.bytes.isEmpty) &&
        !haveGoodStart ws.length kept && !haveFewStarts kept
    | none => false

end DeviceShell.Pattern
