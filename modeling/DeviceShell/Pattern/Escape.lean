import DeviceShell.Pattern.Mode

/-!
# Escapes

After a backslash comes a character by its code point, one of the control
characters that have a letter, a shorthand for a set, an anchor, or a character
that stands for itself. Letters and digits without a meaning are refused, and
so are the properties of characters, which would need tables.
-/

namespace DeviceShell.Pattern

/-- What an escape stands for. A character that is given as a byte is one only
up to the end of ASCII, or else where all scripts are meant. -/
inductive Escape where
  | char (c : Char) (isByte : Bool)
  | set (set : CharSet)
  | anchor (anchor : Anchor)
  deriving DecidableEq, Repr

/-- The number that hexadecimal digits stand for. -/
def hexNumber? (digits : List Char) : Option Nat :=
  digits.foldlM (fun n c =>
    if c.isDigit then some (16 * n + (c.toNat - 0x30))
    else if 'a' ≤ c ∧ c ≤ 'f' then some (16 * n + (c.toNat - 0x57))
    else if 'A' ≤ c ∧ c ≤ 'F' then some (16 * n + (c.toNat - 0x37))
    else none) 0

/-- The character with a code point. -/
def codePoint? (n : Nat) : Option Char :=
  if h : n.isValidChar then some (Char.ofNatAux n h) else none

/-- A number of characters that count, and the rest. -/
def takeCounted? (m : Mode) : Nat → List Char → Option (List Char × List Char)
  | 0, cs => some ([], cs)
  | n + 1, cs =>
    match cs with
    | [] => none
    | c :: rest =>
      (takeCounted? m n (m.skip rest)).map fun (cs, rest) => (c :: cs, rest)

/-- A character given by its code point, after the letter that says with how
many digits. -/
def hexEscape? (m : Mode) (size : Nat) (cs : List Char) :
    Option (Escape × List Char) :=
  match m.skip cs with
  | '\x7b' :: rest => do
    let (digits, rest) ← m.braced? rest
    if digits.isEmpty then none
    let c ← (hexNumber? digits).bind codePoint?
    some (.char c false, m.skip rest)
  | cs => do
    let (digits, rest) ← takeCounted? m size cs
    let c ← (hexNumber? digits).bind codePoint?
    some (.char c (size = 2), rest)

/-- The edge of a word, after its letter; which one can be said in braces. What
else may stand in braces there is a count of repetitions. -/
def edgeEscape? (m : Mode) (cs : List Char) : Option (Escape × List Char) :=
  let plain := some (Escape.anchor (m.wordAnchor .either), cs)
  match cs with
  | '\x7b' :: rest =>
    match m.skip rest with
    | [] => none
    | c :: _ =>
      if !(c.isAlpha || c = '-') then plain
      else do
        let (name, rest) ← m.braced? rest
        let edge ←
          match String.ofList name with
          | "start" => some WordEdge.start
          | "end" => some .finish
          | "start-half" => some .startHalf
          | "end-half" => some .finishHalf
          | _ => none
        some (.anchor (m.wordAnchor edge), rest)
  | _ => plain

/-- Reads an escape, after its backslash. Any other ASCII character than a
letter or a digit stands for itself. -/
def escape? (m : Mode) : List Char → Option (Escape × List Char)
  | [] => none
  | c :: rest =>
    let char (c : Char) := some (Escape.char c false, rest)
    let anchor (a : Anchor) := some (Escape.anchor a, rest)
    let shorthand (negated : Bool) (set : CharSet) :=
      (m.shorthand? negated set).map fun set => (Escape.set set, rest)
    match c with
    | 'x' => hexEscape? m 2 rest
    | 'u' => hexEscape? m 4 rest
    | 'U' => hexEscape? m 8 rest
    | 'd' => shorthand false .digits
    | 'D' => shorthand true .digits
    | 's' => shorthand false .spaces
    | 'S' => shorthand true .spaces
    | 'w' => shorthand false .wordChars
    | 'W' => shorthand true .wordChars
    | 'a' => char '\x07'
    | 'f' => char '\x0c'
    | 't' => char '\t'
    | 'n' => char '\n'
    | 'r' => char '\r'
    | 'v' => char '\x0b'
    | 'A' => anchor .textStart
    | 'z' => anchor .textEnd
    | 'b' => edgeEscape? m rest
    | 'B' => anchor (m.wordAnchor .neither)
    | '<' => anchor (m.wordAnchor .start)
    | '>' => anchor (m.wordAnchor .finish)
    | c => if c.isAlphanum || 0x80 ≤ c.toNat then none else char c

end DeviceShell.Pattern
