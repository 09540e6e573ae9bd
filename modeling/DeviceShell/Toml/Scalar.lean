import DeviceShell.Number.Real
import DeviceShell.Toml.Datum
import DeviceShell.Toml.Layout
import DeviceShell.Toml.Quoted

/-!
# Words for numbers, truth values and moments

Everything that is not quoted and not bracketed is one word, and the whole word
decides what it is. Only a date may go on after a space, with a time.

Decimal numbers have no leading zeros, and an underscore may stand between two
digits. A number with a point has digits on both sides of it. Integers outside
64 bits are errors, and so is a decimal that is too large for a double; one
that is too far below zero reads as negative infinity.
-/

namespace DeviceShell.Toml.Scalar

/-- The characters of which a word is made. -/
def isWordChar (c : Char) : Bool :=
  c.isAlphanum || c == '+' || c == '-' || c == '.' || c == ':' || c == '_'

/-- The digits of a run in which single underscores stand between digits. -/
def grouped? (isDigit : Char → Bool) : List Char → Option (List Char)
  | [] => none
  | [c] => if isDigit c then some [c] else none
  | c :: '_' :: rest =>
    if isDigit c then (grouped? isDigit rest).map (c :: ·) else none
  | c :: rest =>
    if isDigit c then (grouped? isDigit rest).map (c :: ·) else none

/-- The digits of a decimal whole number: grouped, and a zero comes first only
if it is alone. -/
def whole? (cs : List Char) : Option (List Char) :=
  (grouped? Char.isDigit cs).bind fun ds =>
    if ds.head? = some '0' ∧ ds ≠ ['0'] then none else some ds

/-- A sign, if there is one, and the rest: whether the number is negative. -/
def sign : List Char → Bool × List Char
  | '-' :: rest => (true, rest)
  | '+' :: rest => (false, rest)
  | cs => (false, cs)

/-- The value of digits in a base, none of them out of place. -/
def valueIn (base : Nat) (ds : List Char) : Nat :=
  ds.foldl (fun n c => base * n + (Quoted.hexDigit? c).getD 0) 0

/-- Whether a character is a digit of a base. -/
def isDigitOf (base : Nat) (c : Char) : Bool :=
  match Quoted.hexDigit? c with
  | some d => d < base
  | none => false

/-- An unsigned integer after the mark of its base. -/
def based? (base : Nat) (cs : List Char) : Option Int64 :=
  (grouped? (isDigitOf base) cs).bind fun ds => Number.word? (valueIn base ds)

/-- A decimal integer. -/
def decimal? (cs : List Char) : Option Int64 :=
  let (negative, body) := sign cs
  (whole? body).bind fun ds =>
    let n : Int := Nat.ofDigitChars 10 ds 0
    Number.word? (if negative then -n else n)

/-- An integer. -/
def integer? : List Char → Option Int64
  | '0' :: 'x' :: rest => based? 16 rest
  | '0' :: 'o' :: rest => based? 8 rest
  | '0' :: 'b' :: rest => based? 2 rest
  | cs => decimal? cs

/-- An exponent, after its letter: grouped digits with an optional sign. -/
def exponent? (cs : List Char) : Option Int :=
  let (negative, body) := sign cs
  (grouped? Char.isDigit body).map fun ds =>
    let n : Int := Nat.ofDigitChars 10 ds 0
    if negative then -n else n

/-- What follows the whole part of a decimal with a point or an exponent: the
places and the exponent. -/
def tail? (cs : List Char) : Option (List Char × Int) :=
  let isMark (c : Char) : Bool := c == 'e' || c == 'E'
  match cs with
  | '.' :: rest =>
    let places := rest.takeWhile fun c => !isMark c
    (grouped? Char.isDigit places).bind fun ds =>
      match rest.dropWhile fun c => !isMark c with
      | [] => some (ds, 0)
      | _ :: power => (exponent? power).map fun e => (ds, e)
  | mark :: power =>
    if isMark mark then (exponent? power).map fun e => ([], e) else none
  | [] => none

/-- The double that a sign and digits spell; none if it is too large. -/
def bounded? (negative : Bool) (ds places : List Char) (e : Int) :
    Option Float :=
  let x := Number.nearestDecimal negative (Nat.ofDigitChars 10 (ds ++ places) 0)
    (e - places.length)
  match Number.Binary64.read x.toBits.toNat with
  | .infinite false => none
  | _ => some x

/-- A double. -/
def real? (cs : List Char) : Option Float :=
  let (negative, body) := sign cs
  if body = "inf".toList then
    some (Number.ofSizeBits negative Number.Binary64.infinityBits)
  else if body = "nan".toList then
    some (Number.ofSizeBits negative Number.Binary64.notANumberBits)
  else
    let isWhole (c : Char) : Bool := c.isDigit || c == '_'
    (whole? (body.takeWhile isWhole)).bind fun ds =>
      (tail? (body.dropWhile isWhole)).bind fun (places, e) =>
        bounded? negative ds places e

/-- What a word means. -/
def ofWord? (cs : List Char) : Option Datum :=
  if cs = "true".toList then some (.bool true)
  else if cs = "false".toList then some (.bool false)
  else
    ((Moment.ofChars? cs).map .moment).or
      (((integer? cs).map .integer).or ((real? cs).map .real))

/-- The word a text starts with. A date takes the time after it along, if a
digit follows the space. -/
def word (cs : List Char) : List Char × List Char :=
  let (first, rest) := cs.span isWordChar
  match Moment.date? first, rest with
  | some (_, []), ' ' :: c :: more =>
    if c.isDigit then
      let (second, rest) := (c :: more).span isWordChar
      (first ++ ' ' :: second, rest)
    else (first, rest)
  | _, _ => (first, rest)

/-- A datum that is neither quoted nor bracketed. -/
def read : Reader Datum := fun cs =>
  let (spelling, rest) := word cs
  (ofWord? spelling).map fun datum => (datum, rest)

end DeviceShell.Toml.Scalar
