/-!
# Layout of a document

Between the parts of a document stand blanks, line ends and comments. Within a
line only spaces and tabs count as blank; a carriage return is part of a line
end and is an error anywhere else. A comment runs to the end of its line and
may hold anything but control characters.
-/

namespace DeviceShell.Toml

/-- A reader takes something off the front of a text, if the text starts with
it, and leaves the rest. -/
abbrev Reader (α : Type) := List Char → Option (α × List Char)

/-- A blank within a line. -/
def isGap (c : Char) : Bool :=
  c == ' ' || c == '\t'

/-- The text without the blanks it starts with. -/
def skipGap (cs : List Char) : List Char :=
  cs.dropWhile isGap

/-- A character that may stand in a comment or in a quoted text: a tab, or
anything that is no control character. -/
def isPlain (c : Char) : Bool :=
  c == '\t' || (0x20 ≤ c.toNat && c.toNat ≠ 0x7F)

/-- Skips blanks, line ends and comments; none if one of them is malformed.
`inComment` says whether the text starts inside a comment. -/
def skipLayout (inComment : Bool) : List Char → Option (List Char)
  | [] => some []
  | '\n' :: rest => skipLayout false rest
  | '\r' :: '\n' :: rest => skipLayout false rest
  | c :: rest =>
    if inComment then if isPlain c then skipLayout true rest else none
    else if isGap c then skipLayout false rest
    else if c = '#' then skipLayout true rest
    else some (c :: rest)

/-- Takes the rest of a line that holds nothing more than blanks and a
comment. -/
def lineEnd (cs : List Char) : Option (List Char) :=
  let cs := skipGap cs
  let cs :=
    match cs with
    | '#' :: rest => rest.dropWhile isPlain
    | _ => cs
  match cs with
  | [] => some []
  | '\n' :: rest | '\r' :: '\n' :: rest => some rest
  | _ => none

end DeviceShell.Toml
