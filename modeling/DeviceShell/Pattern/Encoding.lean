import DeviceShell.Pattern.CharSet

/-!
# Sets as rows of bytes

Texts are read byte by byte, so a set of characters is read as rows of byte
ranges: a character of the set is encoded by bytes in the ranges of one of the
rows. A range of code points gives one row if only the trailing bytes differ and
take all their values, and is cut up until that is so.
-/

namespace DeviceShell.CharSet

/-- The bytes that encode a code point. -/
def encoding (n : Nat) : List Nat :=
  if n < 0x80 then [n]
  else if n < 0x800 then [0xC0 + n / 0x40, 0x80 + n % 0x40]
  else if n < 0x10000 then
    [0xE0 + n / 0x1000, 0x80 + n / 0x40 % 0x40, 0x80 + n % 0x40]
  else
    [0xF0 + n / 0x40000, 0x80 + n / 0x1000 % 0x40, 0x80 + n / 0x40 % 0x40,
      0x80 + n % 0x40]

/-- A range without the surrogates in it. -/
def withoutSurrogates (range : Nat × Nat) : List (Nat × Nat) :=
  if range.1 < 0xE000 ∧ 0xD7FF < range.2 then
    [(range.1, 0xD7FF), (0xE000, range.2)] else [range]

/-- Where a range has to be cut, so that the encodings of what comes before are
of one size and have full trailing bytes. -/
def cut? (low high : Nat) : Option Nat :=
  match [0x7F, 0x7FF, 0xFFFF].find? fun n => low ≤ n && n < high with
  | some n => some n
  | none =>
    if high < 0x80 then none
    else
      [0x40, 0x1000, 0x40000].findSome? fun block =>
        if low / block = high / block then none
        else if low % block ≠ 0 then some (low / block * block + block - 1)
        else if high % block ≠ block - 1 then some (high / block * block - 1)
        else none

/-- A range cut up. Each block size leads to two cuts at most, so
`fuel` need not be large. -/
def stretches : Nat → Nat × Nat → List (Nat × Nat)
  | 0, range => [range]
  | fuel + 1, (low, high) =>
    match cut? low high with
    | some n => stretches fuel (low, n) ++ stretches fuel (n + 1, high)
    | none => [(low, high)]

/-- The rows of byte ranges for a set, in order. -/
def rows (s : CharSet) : List (List (Nat × Nat)) :=
  ((s.ranges.flatMap withoutSurrogates).flatMap (stretches 16)).map
      fun (low, high) =>
    (encoding low).zip (encoding high)

end DeviceShell.CharSet
