import DeviceShell.Toml.Layout

/-!
# Quoted text

Text comes in double quotes, where a backslash starts an escape, or in single
quotes, where every character stands for itself; and either on one line or,
between three quotes, on several. Three rules make the several-line forms
harder than they look. A line end directly after the opening quotes is dropped.
Up to two quotes may stand anywhere inside, also right before the closing
three, so the closing run has three to five quotes. And a backslash at the end
of a line swallows the blanks and line ends up to the next other character.
-/

namespace DeviceShell.Toml.Quoted

/-- The character with the given code, if it is a scalar value. -/
def scalar? (code : Nat) : Option Char :=
  if code < 0xD800 ∨ (0xDFFF < code ∧ code < 0x110000) then
    some (Char.ofNat code) else none

/-- The value of a hexadecimal digit. -/
def hexDigit? (c : Char) : Option Nat :=
  if '0' ≤ c ∧ c ≤ '9' then some (c.toNat - '0'.toNat)
  else if 'a' ≤ c ∧ c ≤ 'f' then some (c.toNat - 'a'.toNat + 10)
  else if 'A' ≤ c ∧ c ≤ 'F' then some (c.toNat - 'A'.toNat + 10)
  else none

/-- The value of a run of hexadecimal digits. -/
def hex? (cs : List Char) : Option Nat :=
  cs.foldlM (fun n c => (hexDigit? c).map fun d => 16 * n + d) 0

/-- The character that a one-letter escape stands for. -/
def escape? (c : Char) : Option Char :=
  if c = 'b' then some '\x08'
  else if c = 't' then some '\t'
  else if c = 'n' then some '\n'
  else if c = 'f' then some '\x0c'
  else if c = 'r' then some '\r'
  else if c = '"' then some '"'
  else if c = '\\' then some '\\'
  else none

/-- An escape, after its backslash. -/
def escape : Reader Char
  | 'u' :: a :: b :: c :: d :: rest =>
    ((hex? [a, b, c, d]).bind scalar?).map fun x => (x, rest)
  | 'U' :: a :: b :: c :: d :: e :: f :: g :: h :: rest =>
    ((hex? [a, b, c, d, e, f, g, h]).bind scalar?).map fun x => (x, rest)
  | c :: rest => (escape? c).map fun x => (x, rest)
  | [] => none

/-- Puts a character in front of what a reader found. -/
def onto (c : Char) (found : Option (List Char × List Char)) :
    Option (List Char × List Char) :=
  found.map fun (text, rest) => (c :: text, rest)

/-- The rest of a text in double quotes on one line. `fuel` bounds the number of
characters. -/
def double : Nat → Reader (List Char)
  | 0, _ => none
  | _, [] => none
  | fuel + 1, c :: rest =>
    if c = '"' then some ([], rest)
    else if c = '\\' then (escape rest).bind fun (x, rest) =>
      onto x (double fuel rest)
    else if isPlain c then onto c (double fuel rest)
    else none

/-- The rest of a text in single quotes on one line. -/
def single : Reader (List Char)
  | [] => none
  | c :: rest =>
    if c = '\'' then some ([], rest)
    else if isPlain c then onto c (single rest)
    else none

/-- A run of three to five quotes: the quotes beyond three are text. -/
def closing (quote : Char) : Reader (List Char)
  | a :: b :: c :: rest =>
    if a = quote ∧ b = quote ∧ c = quote then
      let extra := (rest.take 2).takeWhile (· == quote)
      some (extra, rest.drop extra.length)
    else none
  | _ => none

/-- A line end, after a backslash and blanks. -/
def foldedEnd (cs : List Char) : Option (List Char) :=
  match skipGap cs with
  | '\n' :: rest | '\r' :: '\n' :: rest => some rest
  | _ => none

/-- The text without the blanks and line ends it starts with. -/
def skipFolded : List Char → List Char
  | [] => []
  | '\r' :: '\n' :: rest => skipFolded rest
  | c :: rest => if isGap c || c == '\n' then skipFolded rest else c :: rest

/-- The rest of a text of several lines. Escapes are read only if `escapes` is
set. `fuel` bounds the number of characters. -/
def multiline (quote : Char) (escapes : Bool) : Nat → Reader (List Char)
  | 0, _ => none
  | _, [] => none
  | fuel + 1, c :: rest =>
    match closing quote (c :: rest) with
    | some found => some found
    | none =>
      if c = '\\' ∧ escapes then
        match foldedEnd rest with
        | some rest => multiline quote escapes fuel (skipFolded rest)
        | none =>
          (escape rest).bind fun (x, rest) =>
            onto x (multiline quote escapes fuel rest)
      else if c = '\n' then onto '\n' (multiline quote escapes fuel rest)
      else if c = '\r' then
        match rest with
        | '\n' :: rest => onto '\n' (multiline quote escapes fuel rest)
        | _ => none
      else if isPlain c then onto c (multiline quote escapes fuel rest)
      else none

/-- The text without a line end that it starts with. -/
def dropFirstEnd : List Char → List Char
  | '\n' :: rest | '\r' :: '\n' :: rest => rest
  | cs => cs

/-- A text in quotes on one line, quotes included. -/
def line : Reader String
  | '"' :: rest =>
    (double rest.length rest).map fun (text, rest) => (String.ofList text, rest)
  | '\'' :: rest =>
    (single rest).map fun (text, rest) => (String.ofList text, rest)
  | _ => none

/-- A text in quotes of any form, quotes included. -/
def text : Reader String
  | '"' :: '"' :: '"' :: rest =>
    (multiline '"' true rest.length (dropFirstEnd rest)).map
      fun (text, rest) => (String.ofList text, rest)
  | '\'' :: '\'' :: '\'' :: rest =>
    (multiline '\'' false rest.length (dropFirstEnd rest)).map
      fun (text, rest) => (String.ofList text, rest)
  | cs => line cs

end DeviceShell.Toml.Quoted
