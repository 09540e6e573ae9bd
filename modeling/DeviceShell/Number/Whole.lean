/-!
# Signed 64-bit numbers in decimal

Integers are machine words, and their text is the ordinary one: ASCII digits
after an optional sign, leading zeros allowed, the value in range. Two readers
differ only in whether a plus sign may be written. Digits of other scripts are
not digits here.
-/

namespace DeviceShell.Number

/-- The value of a non-empty run of ASCII digits. -/
def digits? (cs : List Char) : Option Nat :=
  if !cs.isEmpty && cs.all Char.isDigit then
    some (Nat.ofDigitChars 10 cs 0) else none

/-- The least number that is too large for a machine word. -/
def wordBound : Int := 0x8000000000000000

/-- An integer as a machine word, if it is one. -/
def word? (n : Int) : Option Int64 :=
  if -wordBound ≤ n ∧ n < wordBound then some (Int64.ofInt n) else none

/-- Reads digits with an optional minus sign. -/
def plainWord? : List Char → Option Int64
  | '-' :: rest => (digits? rest).bind fun n => word? (-n)
  | cs => (digits? cs).bind fun n => word? n

/-- Reads digits with an optional sign of either kind. -/
def signedWord? : List Char → Option Int64
  | '+' :: rest => (digits? rest).bind fun n => word? n
  | cs => plainWord? cs

/-- The decimal text of a machine word: no plus sign and no leading zero. -/
def wordText (n : Int64) : List Char :=
  match n.toInt with
  | .ofNat k => Nat.toDigits 10 k
  | .negSucc k => '-' :: Nat.toDigits 10 (k + 1)

/-- The decimal text of a count. -/
def countText (n : Nat) : String :=
  String.ofList (Nat.toDigits 10 n)

end DeviceShell.Number
