import DeviceShell.Number.Binary64

/-!
# The fewest digits that read back

A double is printed with the shortest decimal that reads back as the same
double, and of several such decimals with the one nearest to it. The reals that
read back as `m · 2^q` form an interval around it, whose ends belong to it
exactly when `m` is even, since a tie goes to the even significand. If a
decimal grid has a point in that interval, then one of the two grid points next
to the value is in it: so one grid after another is tried, coarse to fine, and
two candidates on each are enough. Seventeen digits always do.
-/

namespace DeviceShell.Number

/-- A decimal `digits · 10 ^ exponent`. -/
structure Decimal where
  digits : Nat
  exponent : Int
  deriving DecidableEq, Repr

namespace Shortest

/-- The interval that rounds to a double, in units of `1 / scale`: the value,
the distances to both ends, and whether the ends belong to it. -/
structure Interval where
  value : Nat
  below : Nat
  above : Nat
  closed : Bool
  scale : Nat

/-- The interval of a double. The neighbour below a power of two is only half
as far away as the one above. -/
def interval (x : Magnitude) : Interval :=
  let quarter := x.exponent - 2
  let up := if quarter < 0 then 1 else Nat.pow 2 quarter.natAbs
  { value := 4 * x.significand * up
    below :=
      (if x.significand = Binary64.leadingOne ∧
        x.exponent ≠ Binary64.leastExponent then 1 else 2) * up
    above := 2 * up
    closed := x.significand % 2 = 0
    scale := if quarter < 0 then Nat.pow 2 quarter.natAbs else 1 }

/-- Whether `num / den` lies in the interval. -/
def Interval.contains (i : Interval) (num den : Nat) : Bool :=
  let point := num * i.scale
  let low := (i.value - i.below) * den
  let high := (i.value + i.above) * den
  if i.closed then low ≤ point && point ≤ high else low < point && point < high

/-- The better of the two points of the grid `10 ^ exponent` that enclose the
value, if one of them reads back; an exact tie goes to the upper one. -/
def onGrid (i : Interval) (exponent : Int) : Option Decimal :=
  let num := if exponent < 0 then i.value * Nat.pow 10 exponent.natAbs
    else i.value
  let den := if exponent < 0 then i.scale
    else i.scale * Nat.pow 10 exponent.natAbs
  let floor := num / den
  let reads (d : Nat) : Bool :=
    if exponent < 0 then i.contains d (Nat.pow 10 exponent.natAbs)
    else i.contains (d * Nat.pow 10 exponent.natAbs) 1
  let lower := if reads floor then some (Decimal.mk floor exponent) else none
  let upper := if reads (floor + 1) then
    some (Decimal.mk (floor + 1) exponent) else none
  match lower, upper with
  | some l, some u => if 2 * (num % den) < den then some l else some u
  | some l, none => some l
  | none, u => u

/-- The number of digits before the decimal point of `num / den`; not positive
when the first digit comes after it. Found by stepping down from a bound, so
`fuel` only has to exceed the number of steps. -/
def leading (num den : Nat) : Nat → Int → Int
  | 0, k => k
  | fuel + 1, k =>
    let reached := if k - 1 < 0 then den ≤ num * Nat.pow 10 (k - 1).natAbs
      else den * Nat.pow 10 (k - 1).natAbs ≤ num
    if reached then k else leading num den fuel (k - 1)

/-- Tries the grids with `count`, `count + 1`, … digits. -/
def search (i : Interval) (top : Int) : Nat → Nat → Decimal
  | 0, count => ⟨i.value / i.scale, top - count⟩
  | fuel + 1, count =>
    match onGrid i (top - count) with
    | some d => d
    | none => search i top fuel (count + 1)

end Shortest

/-- The shortest decimal that reads back as the double, nearest to it among
those of its length. -/
def shortest (x : Magnitude) : Decimal :=
  let i := Shortest.interval x
  let guess : Int := ((i.value.log2 : Int) - (i.scale.log2 : Int)) *
    30103 / 100000 + 3
  let top := Shortest.leading i.value i.scale 8 guess
  Shortest.search i top 20 1

end DeviceShell.Number
