/-!
# Text without control sequences

The log holds text only. Control characters are dropped, but for the white
space that shapes a text, and so are the sequences that tell a terminal what to
do, from their escape character to wherever they end. A sequence that does not
end swallows the rest, line ends in strings included.

Only the characters that decide where a sequence ends matter. Within an escape
or a control sequence, white space is written and ASCII text right after it is
written as well; the sequence goes on at the next control character.
-/

namespace DeviceShell.Text

/-- How far a control sequence has come. A device control has a head of its
own; after that, and in the other strings but those for the operating system,
a string terminator ends the sequence. -/
inductive SequenceState where
  | ground
  | escape
  | escapeTail
  | control
  | deviceHead
  | deviceNumbers
  | deviceTail
  | string
  | systemString
  deriving DecidableEq, Repr

namespace SequenceState

/-- Whether the bytes of a character include the one that ends a string. -/
def holdsTerminator (c : Char) : Bool :=
  (String.utf8EncodeChar c).contains 0x9C

/-- The state after a character. -/
def next (s : SequenceState) (c : Char) : SequenceState :=
  let n := c.toNat
  if n = 0x1B then .escape
  else if n = 0x18 ∨ n = 0x1A then .ground
  else
    match s with
    | .ground => .ground
    | .escape =>
      if n < 0x20 ∨ 0x7F ≤ n then .escape
      else if n ≤ 0x2F then .escapeTail
      else if c = '[' then .control
      else if c = ']' then .systemString
      else if c = 'P' then .deviceHead
      else if c = 'X' ∨ c = '^' ∨ c = '_' then .string
      else .ground
    | .escapeTail => if 0x30 ≤ n ∧ n ≤ 0x7E then .ground else .escapeTail
    | .control => if 0x40 ≤ n ∧ n ≤ 0x7E then .ground else .control
    | .deviceHead =>
      if n < 0x20 ∨ 0x7F ≤ n then .deviceHead
      else if n ≤ 0x2F then .deviceTail
      else if n ≤ 0x3F then .deviceNumbers
      else .string
    | .deviceNumbers =>
      if n < 0x20 ∨ 0x7F ≤ n then .deviceNumbers
      else if n ≤ 0x2F then .deviceTail
      else if n ≤ 0x3B then .deviceNumbers
      else .string
    | .deviceTail => if n < 0x30 ∨ 0x7F ≤ n then .deviceTail else .string
    | .string => if 0x80 ≤ n ∧ holdsTerminator c then .ground else .string
    | .systemString => if n = 0x07 then .ground else .systemString

/-- Whether a character is written. White space is, where a sequence is not a
string. -/
def writes (s : SequenceState) (c : Char) : Bool :=
  match s with
  | .ground =>
    (0x20 ≤ c.toNat && c.toNat ≠ 0x7F) || c ∈ ['\t', '\n', '\x0c', '\r']
  | .escape | .escapeTail | .control => c ∈ ['\t', '\n', '\x0c', '\r']
  | _ => false

end SequenceState

/-- The characters that are written. While `writing`, a sequence that has not
ended is left aside. -/
def plainFrom (s : SequenceState) (writing : Bool) : List Char → List Char
  | [] => []
  | c :: rest =>
    let here := if writing then SequenceState.ground else s
    if here.writes c then
      c :: plainFrom (if 0x80 ≤ c.toNat then .ground else s) true rest
    else plainFrom (s.next c) false rest

/-- A text without control characters and control sequences. -/
def plain (s : String) : String :=
  String.ofList (plainFrom .ground false s.toList)

end DeviceShell.Text
