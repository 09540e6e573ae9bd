/-!
# Sets of characters

A set of characters is a list of ranges of code points, in order and apart from
each other. The operations are those of sets, and `disregardCase` adds to a set
the other case of each ASCII letter in it. Surrogates are no characters: a range
may run across all of them and starts and ends beside them at most.
-/

namespace DeviceShell

/-- A set of characters: those whose code points are in one of the ranges. -/
structure CharSet where
  ranges : List (Nat × Nat)
  deriving DecidableEq, Repr

namespace CharSet

/-- Whether a character is in the set. -/
def contains (s : CharSet) (c : Char) : Bool :=
  s.ranges.any fun (low, high) => low ≤ c.toNat && c.toNat ≤ high

/-- Joins ranges in order that overlap or touch, with a range before them. -/
def joinFrom (low high : Nat) : List (Nat × Nat) → List (Nat × Nat)
  | [] => [(low, high)]
  | (a, b) :: rest =>
    if a ≤ high + 1 then joinFrom low (max high b) rest
    else (low, high) :: joinFrom a b rest

/-- The set of the characters in some ranges. -/
def ofRanges (ranges : List (Nat × Nat)) : CharSet :=
  match ranges.mergeSort fun a b => decide (a.1 ≤ b.1) with
  | [] => ⟨[]⟩
  | (a, b) :: rest => ⟨joinFrom a b rest⟩

/-- The set without characters. -/
def empty : CharSet := ⟨[]⟩

/-- The set of one character. -/
def single (c : Char) : CharSet := ⟨[(c.toNat, c.toNat)]⟩

/-- The set of all characters. -/
def all : CharSet := ⟨[(0, 0x10FFFF)]⟩

/-- The next character's code point. -/
def above (n : Nat) : Nat :=
  if n = 0xD7FF then 0xE000 else n + 1

/-- The code point of the character before. -/
def below (n : Nat) : Nat :=
  if n = 0xE000 then 0xD7FF else n - 1

/-- The characters of either set. -/
def union (s t : CharSet) : CharSet :=
  ofRanges (s.ranges ++ t.ranges)

/-- The characters of both sets. -/
def inter (s t : CharSet) : CharSet :=
  ofRanges (s.ranges.flatMap fun (a, b) => t.ranges.filterMap fun (c, d) =>
    if max a c ≤ min b d then some (max a c, min b d) else none)

/-- What one range leaves of another. -/
def without (range taken : Nat × Nat) : List (Nat × Nat) :=
  (if range.1 < taken.1 then [(range.1, min range.2 (below taken.1))]
      else []) ++
    if taken.2 < range.2 then [(max range.1 (above taken.2), range.2)] else []

/-- The characters of the first set that are not in the second. -/
def diff (s t : CharSet) : CharSet :=
  ⟨t.ranges.foldl (fun ranges taken => ranges.flatMap (without · taken))
    s.ranges⟩

/-- The characters of exactly one of the sets. -/
def symmDiff (s t : CharSet) : CharSet :=
  (s.union t).diff (s.inter t)

/-- What lies between ranges in order, the first of which comes after
`high`, and after the last one. Ranges that end and start beside the
surrogates have no character between them; what is taken for their gap then
is the two characters beside it. -/
def gapsFrom (high : Nat) : List (Nat × Nat) → List (Nat × Nat)
  | [] => if high < 0x10FFFF then [(above high, 0x10FFFF)] else []
  | (a, b) :: rest =>
    (min (above high) (below a), max (above high) (below a)) :: gapsFrom b rest

/-- The characters that are not in the set. -/
def compl (s : CharSet) : CharSet :=
  match s.ranges with
  | [] => all
  | (a, b) :: rest =>
    ⟨(if 0 < a then [(0, below a)] else []) ++ gapsFrom b rest⟩

/-- The set with both cases of each ASCII letter that it has in one. -/
def disregardCase (s : CharSet) : CharSet :=
  let upper := (s.inter ⟨[(0x41, 0x5A)]⟩).ranges
  let lower := (s.inter ⟨[(0x61, 0x7A)]⟩).ranges
  ofRanges (s.ranges ++ upper.map (fun (a, b) => (a + 32, b + 32)) ++
    lower.map fun (a, b) => (a - 32, b - 32))

/-- Whether all characters of the set are ASCII. -/
def isAscii (s : CharSet) : Bool :=
  s.ranges.all fun (_, high) => high < 0x80

/-- Decimal digits. -/
def digits : CharSet := ⟨[(0x30, 0x39)]⟩

/-- The ASCII characters that words are made of: letters, digits and `_`. -/
def wordChars : CharSet :=
  ⟨[(0x30, 0x39), (0x41, 0x5A), (0x5F, 0x5F), (0x61, 0x7A)]⟩

/-- ASCII white space. -/
def spaces : CharSet := ⟨[(0x09, 0x0D), (0x20, 0x20)]⟩

/-- The sets of ASCII characters that go by a name. -/
def named? (name : String) : Option CharSet :=
  match name with
  | "alnum" => some ⟨[(0x30, 0x39), (0x41, 0x5A), (0x61, 0x7A)]⟩
  | "alpha" => some ⟨[(0x41, 0x5A), (0x61, 0x7A)]⟩
  | "ascii" => some ⟨[(0x00, 0x7F)]⟩
  | "blank" => some ⟨[(0x09, 0x09), (0x20, 0x20)]⟩
  | "cntrl" => some ⟨[(0x00, 0x1F), (0x7F, 0x7F)]⟩
  | "digit" => some digits
  | "graph" => some ⟨[(0x21, 0x7E)]⟩
  | "lower" => some ⟨[(0x61, 0x7A)]⟩
  | "print" => some ⟨[(0x20, 0x7E)]⟩
  | "punct" => some ⟨[(0x21, 0x2F), (0x3A, 0x40), (0x5B, 0x60), (0x7B, 0x7E)]⟩
  | "space" => some spaces
  | "upper" => some ⟨[(0x41, 0x5A)]⟩
  | "word" => some wordChars
  | "xdigit" => some ⟨[(0x30, 0x39), (0x41, 0x46), (0x61, 0x66)]⟩
  | _ => none

end CharSet

end DeviceShell
