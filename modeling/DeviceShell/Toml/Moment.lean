import DeviceShell.Number.Whole

/-!
# Dates and times

A moment is a date, a time of day, or both, and only a moment with both may
have an offset. Reading checks what can be checked without a clock: the length
of the month, a sixtieth second at most. Writing uses one spelling: a capital
`T` and `Z`, and no more digits of a second than are needed.
-/

namespace DeviceShell.Toml

/-- A calendar date. -/
structure Date where
  year : Nat
  month : Nat
  day : Nat
  deriving DecidableEq, Repr

/-- A time of day, to the nanosecond. -/
structure Clock where
  hour : Nat
  minute : Nat
  second : Nat
  nanosecond : Nat
  deriving DecidableEq, Repr

/-- A distance from universal time: none at all, or hours and minutes. -/
inductive Offset where
  | universal
  | shifted (west : Bool) (hours minutes : Nat)
  deriving DecidableEq, Repr

/-- A date, a time, or a date with a time and perhaps an offset. -/
structure Moment where
  date : Option Date := none
  clock : Option Clock := none
  offset : Option Offset := none
  deriving DecidableEq, Repr

namespace Moment

/-- Whether a year has a leap day. -/
def isLeap (year : Nat) : Bool :=
  year % 4 = 0 ∧ (year % 100 ≠ 0 ∨ year % 400 = 0)

/-- The number of days in a month. -/
def daysIn (year month : Nat) : Nat :=
  if month = 2 then if isLeap year then 29 else 28
  else if month = 4 ∨ month = 6 ∨ month = 9 ∨ month = 11 then 30
  else 31

/-- A number of exactly two digits, no greater than `limit`. -/
def twoDigits? (limit : Nat) (a b : Char) : Option Nat :=
  (Number.digits? [a, b]).bind fun n => if n ≤ limit then some n else none

/-- A date at the beginning of a text, and what follows it. -/
def date? : List Char → Option (Date × List Char)
  | y1 :: y2 :: y3 :: y4 :: '-' :: m1 :: m2 :: '-' :: d1 :: d2 :: rest => do
    let year ← Number.digits? [y1, y2, y3, y4]
    let month ← twoDigits? 12 m1 m2
    let day ← twoDigits? 31 d1 d2
    if 1 ≤ month ∧ 1 ≤ day ∧ day ≤ daysIn year month then
      some (⟨year, month, day⟩, rest)
    else none
  | _ => none

/-- The value of the first nine places of a second. -/
def nanoseconds (places : List Char) : Nat :=
  Nat.ofDigitChars 10 ((places ++ List.replicate 9 '0').take 9) 0

/-- A fraction of a second in nanoseconds, further places cut off, and what
follows it. Without a point it is zero. -/
def fraction? : List Char → Option (Nat × List Char)
  | '.' :: rest =>
    let (places, tail) := rest.span Char.isDigit
    if places.isEmpty then none else some (nanoseconds places, tail)
  | cs => some (0, cs)

/-- A time of day at the beginning of a text, and what follows it. -/
def clock? : List Char → Option (Clock × List Char)
  | h1 :: h2 :: ':' :: m1 :: m2 :: ':' :: s1 :: s2 :: rest => do
    let hour ← twoDigits? 23 h1 h2
    let minute ← twoDigits? 59 m1 m2
    let second ← twoDigits? 60 s1 s2
    let (nanosecond, tail) ← fraction? rest
    some (⟨hour, minute, second, nanosecond⟩, tail)
  | _ => none

/-- An offset that is the whole text; an empty text is no offset. -/
def offset? : List Char → Option (Option Offset)
  | [] => some none
  | ['Z'] | ['z'] => some (some .universal)
  | [sign, h1, h2, ':', m1, m2] => do
    let hours ← twoDigits? 23 h1 h2
    let minutes ← twoDigits? 59 m1 m2
    if sign = '+' then some (some (.shifted false hours minutes))
    else if sign = '-' then some (some (.shifted true hours minutes))
    else none
  | _ => none

/-- Reads a moment from its whole text. -/
def ofChars? (cs : List Char) : Option Moment :=
  match date? cs with
  | some (date, []) => some { date := some date }
  | some (date, separator :: rest) =>
    if separator = 'T' ∨ separator = 't' ∨ separator = ' ' then do
      let (clock, tail) ← clock? rest
      let offset ← offset? tail
      some { date := some date, clock := some clock, offset }
    else none
  | none =>
    match clock? cs with
    | some (clock, []) => some { clock := some clock }
    | _ => none

/-- A number with zeros in front up to a width. -/
def padded (width n : Nat) : List Char :=
  let digits := Nat.toDigits 10 n
  List.replicate (width - digits.length) '0' ++ digits

/-- The text of a fraction of a second. -/
def fractionText (nanosecond : Nat) : List Char :=
  if nanosecond = 0 then []
  else '.' :: ((padded 9 nanosecond).reverse.dropWhile (· == '0')).reverse

/-- The text of a date. -/
def dateText (d : Date) : List Char :=
  padded 4 d.year ++ '-' :: padded 2 d.month ++ '-' :: padded 2 d.day

/-- The text of a time of day. -/
def clockText (c : Clock) : List Char :=
  padded 2 c.hour ++ ':' :: padded 2 c.minute ++ ':' :: padded 2 c.second ++
    fractionText c.nanosecond

/-- The text of an offset; one of zero minutes is written with a plus sign. -/
def offsetText : Offset → List Char
  | .universal => ['Z']
  | .shifted west hours minutes =>
    (if west ∧ hours + minutes ≠ 0 then '-' else '+') :: padded 2 hours ++
      ':' :: padded 2 minutes

/-- The text of a moment. -/
def text (m : Moment) : String :=
  let date := (m.date.map dateText).getD []
  let clock := (m.clock.map clockText).getD []
  let separator := if m.date.isSome ∧ m.clock.isSome then ['T'] else []
  String.ofList (date ++ separator ++ clock ++
    (m.offset.map offsetText).getD [])

end Moment

end DeviceShell.Toml
