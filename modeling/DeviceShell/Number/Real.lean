import DeviceShell.Number.Shortest
import DeviceShell.Number.Whole

/-!
# Doubles in decimal

Doubles are written positionally whatever their size: the shortest digits that
read back, zeros up to the decimal point, and never an exponent. A whole number
has no point. They are read from any ordinary notation, an exponent included,
and from the words for infinity and not-a-number in any case.
-/

namespace DeviceShell.Number

/-- The positional text of a decimal, its trailing zeros already removed or
harmless: a point is written only if digits follow it. -/
def positional (d : Decimal) : List Char :=
  let digits := Nat.toDigits 10 d.digits
  if 0 ≤ d.exponent then digits ++ List.replicate d.exponent.natAbs '0'
  else
    let places := d.exponent.natAbs
    let padded := List.replicate (places + 1 - digits.length) '0' ++ digits
    let whole := padded.take (padded.length - places)
    let fraction := padded.drop (padded.length - places)
    let kept := (fraction.reverse.dropWhile (· == '0')).reverse
    if kept.isEmpty then whole else whole ++ '.' :: kept

/-- The text of a double. -/
def realText (x : Float) : String :=
  match Binary64.read x.toBits.toNat with
  | .notANumber => "NaN"
  | .infinite negative => if negative then "-inf" else "inf"
  | .finite negative size =>
    let body := if size.significand = 0 then ['0']
      else positional (shortest size)
    String.ofList (if negative then '-' :: body else body)

/-- The power of ten that the first digit of a decimal stands for. -/
def Decimal.order (d : Decimal) : Int :=
  d.exponent + (Nat.toDigits 10 d.digits).length - 1

/-- The text of a decimal with an exponent: one digit before the point, and a
point only if other digits than zeros follow it. -/
def scientific (d : Decimal) : List Char :=
  let digits := Nat.toDigits 10 d.digits
  let kept := (digits.tail.reverse.dropWhile (· == '0')).reverse
  let places := if kept.isEmpty then [] else '.' :: kept
  let sign := if d.order < 0 then ['-'] else []
  digits.take 1 ++ places ++ 'e' :: sign ++ Nat.toDigits 10 d.order.natAbs

/-- The text of a decimal that shows that it is no integer: with an exponent if
it is very large or very small, and otherwise with a place after the point. -/
def spelledDecimal (d : Decimal) : List Char :=
  if 16 ≤ d.order ∨ d.order < -4 then scientific d
  else
    let body := positional d
    if body.contains '.' then body else body ++ ['.', '0']

/-- The text of a double where its kind has to be seen. -/
def realSpelled (x : Float) : String :=
  match Binary64.read x.toBits.toNat with
  | .finite negative size =>
    let body := if size.significand = 0 then ['0', '.', '0']
      else spelledDecimal (shortest size)
    String.ofList (if negative then '-' :: body else body)
  | _ => realText x

/-- An exponent: the letter, an optional sign and digits. Nothing at all is the
exponent zero. -/
def exponent? : List Char → Option Int
  | [] => some 0
  | c :: rest =>
    if c = 'e' ∨ c = 'E' then
      match rest with
      | '-' :: ds => (digits? ds).map fun n => -(n : Int)
      | '+' :: ds => (digits? ds).map fun n => (n : Int)
      | ds => (digits? ds).map fun n => (n : Int)
    else none

/-- The digits after the point, if there is one, and the text after them. -/
def fraction (cs : List Char) : List Char × List Char :=
  match cs with
  | '.' :: rest => rest.span Char.isDigit
  | _ => ([], cs)

/-- An unsigned decimal with an optional point and exponent; at least one digit
stands before or after the point. -/
def unsignedReal? (negative : Bool) (cs : List Char) : Option Float :=
  let (whole, rest) := cs.span Char.isDigit
  let (places, tail) := fraction rest
  if whole.isEmpty && places.isEmpty then none
  else
    (exponent? tail).map fun e =>
      nearestDecimal negative (Nat.ofDigitChars 10 (whole ++ places) 0)
        (e - places.length)

/-- The doubles that have a name instead of digits. -/
def namedReal? (negative : Bool) (cs : List Char) : Option Float :=
  let word := String.ofList (cs.map Char.toLower)
  if word = "inf" ∨ word = "infinity" then
    some (ofSizeBits negative Binary64.infinityBits)
  else if word = "nan" then some (ofSizeBits negative Binary64.notANumberBits)
  else none

/-- Reads a double from its whole text. -/
def real? (cs : List Char) : Option Float :=
  let (negative, body) :=
    match cs with
    | '-' :: rest => (true, rest)
    | '+' :: rest => (false, rest)
    | _ => (false, cs)
  (namedReal? negative body).or (unsignedReal? negative body)

end DeviceShell.Number
