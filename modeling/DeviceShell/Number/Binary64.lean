/-!
# Binary64 as an integer times a power of two

A finite double is `m · 2^q` for one natural number `m` and one exponent `q`,
and every question the shell asks of a double (which one is nearest to a
written decimal, which decimals read back as it) is answered on that pair in
exact arithmetic. Nothing here rounds twice.
-/

namespace DeviceShell.Number

/-- The size of a finite double: `significand · 2 ^ exponent`. -/
structure Magnitude where
  significand : Nat
  exponent : Int
  deriving DecidableEq, Repr

/-- A double by what it denotes. -/
inductive Reading where
  | finite (negative : Bool) (size : Magnitude)
  | infinite (negative : Bool)
  | notANumber
  deriving DecidableEq, Repr

namespace Binary64

/-- The exponent of the least positive double. -/
def leastExponent : Int := -1074

/-- The part of a significand that is not written in the bits of a normal
double: its leading one. -/
def leadingOne : Nat := 0x10000000000000

/-- The bits of positive infinity. -/
def infinityBits : Nat := 0x7FF0000000000000

/-- The bits of a value that is not a number. -/
def notANumberBits : Nat := 0x7FF8000000000000

/-- The bits of the sign. -/
def signBit : Nat := 0x8000000000000000

/-- What the bits of a double denote. -/
def read (bits : Nat) : Reading :=
  let negative := decide (signBit ≤ bits)
  let rest := bits % signBit
  let field : Nat := rest / leadingOne
  let fraction := rest % leadingOne
  if field = 0x7FF then
    if fraction = 0 then .infinite negative else .notANumber
  else if field = 0 then .finite negative ⟨fraction, leastExponent⟩
  else .finite negative ⟨fraction + leadingOne, (field : Int) - 1075⟩

/-- `num / den` rounded to the nearest natural number, a half going to the even
neighbour. -/
def roundHalfEven (num den : Nat) : Nat :=
  let floor := num / den
  let twice := 2 * (num % den)
  if twice < den then floor
  else if den < twice then floor + 1
  else if floor % 2 = 0 then floor else floor + 1

/-- The greatest `k` with `2 ^ k ≤ num / den`, for positive numbers. -/
def floorLog2 (num den : Nat) : Int :=
  let guess : Int := (num.log2 : Int) - (den.log2 : Int)
  let fits := if guess < 0 then den ≤ num * Nat.pow 2 guess.natAbs
    else den * Nat.pow 2 guess.natAbs ≤ num
  if fits then guess else guess - 1

/-- The bits of the double nearest to `num / den`, a tie going to the even
significand; too large a value gives infinity. The significand is rounded on
the grid of its own binade, or on that of the least exponent below it. -/
def nearestBits (num den : Nat) : Nat :=
  if num = 0 then 0
  else
    let exponent := max (floorLog2 num den - 52) leastExponent
    let significand :=
      if exponent < 0 then roundHalfEven (num * Nat.pow 2 exponent.natAbs) den
      else roundHalfEven num (den * Nat.pow 2 exponent.natAbs)
    min infinityBits ((exponent - leastExponent).natAbs * leadingOne +
      significand)

end Binary64

/-- The double with the given sign and the bits of its size. -/
def ofSizeBits (negative : Bool) (bits : Nat) : Float :=
  Float.ofBits (UInt64.ofNat (bits + if negative then Binary64.signBit else 0))

/-- The double nearest to `± significand · 10 ^ exponent`. Exponents far outside
the range of doubles are answered at once, so that no power of ten is formed
that the text merely names. -/
def nearestDecimal (negative : Bool) (significand : Nat) (exponent : Int) :
    Float :=
  let top := exponent + (Nat.toDigits 10 significand).length
  if significand = 0 ∨ top < -400 then ofSizeBits negative 0
  else if 400 < top then ofSizeBits negative Binary64.infinityBits
  else if exponent < 0 then
    ofSizeBits negative
      (Binary64.nearestBits significand (Nat.pow 10 exponent.natAbs))
  else ofSizeBits negative
    (Binary64.nearestBits (significand * Nat.pow 10 exponent.natAbs) 1)

end DeviceShell.Number
