/-!
# Shortest decimals

The decimal with the fewest digits that reads back as a given floating-point number, and of those the nearest. A
finite number is `m · 2^q`. All decimals strictly between the halfway points to its two neighbours read back as it, and
the halfway points themselves do if `m` is even.
-/

namespace AsyncLint

/-- The decimal `digits · 10^exponent`. -/
structure Decimal where
  digits : Nat
  exponent : Int
deriving DecidableEq, Repr

namespace Decimal

/-- A positive fraction. -/
structure Fraction where
  num : Nat
  den : Nat
deriving DecidableEq, Repr

namespace Fraction

/-- `n · 2^q`. -/
def ofBinary (n : Nat) (q : Int) : Fraction :=
  if 0 ≤ q then { num := n * Nat.pow 2 q.toNat, den := 1 } else { num := n, den := Nat.pow 2 (-q).toNat }

/-- `x · 10^k`. -/
def shift (x : Fraction) (k : Int) : Fraction :=
  if 0 ≤ k then { x with num := x.num * Nat.pow 10 k.toNat } else { x with den := x.den * Nat.pow 10 (-k).toNat }

def floor (x : Fraction) : Nat :=
  x.num / x.den

/-- Whether `x` is below the whole number `n`. -/
def below (x : Fraction) (n : Nat) : Bool :=
  x.num < n * x.den

/-- Whether `x` is above the whole number `n`. -/
def above (x : Fraction) (n : Nat) : Bool :=
  n * x.den < x.num

end Fraction

/-- The reals that read back as one number. -/
structure Interval where
  low : Fraction
  value : Fraction
  high : Fraction
  /-- Whether both ends belong to it. -/
  closed : Bool

namespace Interval

/-- The interval of `m · 2^q`. Where `atPower`, the neighbour below is only half as far away. -/
def of (m : Nat) (q : Int) (atPower : Bool) : Interval :=
  { low := .ofBinary (4 * m - if atPower then 1 else 2) (q - 2)
    value := .ofBinary (4 * m) (q - 2)
    high := .ofBinary (4 * m + 2) (q - 2)
    closed := m % 2 = 0 }

/-- All reals of the interval, each times `10^k`. -/
def shift (i : Interval) (k : Int) : Interval :=
  { i with low := i.low.shift k, value := i.value.shift k, high := i.high.shift k }

def contains (i : Interval) (n : Nat) : Bool :=
  if i.closed then !i.low.above n && !i.high.below n else i.low.below n && i.high.above n

/-- The whole number of the interval that is nearest to its value, the even one of two. -/
def nearest? (i : Interval) : Option Nat :=
  let n := i.value.floor
  match i.contains n, i.contains (n + 1) with
  | false, false => none
  | true, false => some n
  | false, true => some (n + 1)
  | true, true =>
    match compare (2 * i.value.num) ((2 * n + 1) * i.value.den) with
    | .lt => some n
    | .gt => some (n + 1)
    | .eq => some (if n % 2 = 0 then n else n + 1)

/-- The decimal exponent of the first digit of a value, found within `fuel` steps from `e` on. -/
def leadingExponent (x : Fraction) : Nat → Int → Int
  | 0, e => e
  | fuel + 1, e => if (x.shift (-e)).floor = 0 then leadingExponent x fuel (e - 1) else e

/-- The first grid, from that of `k` digits on, that has a number of the interval. -/
def firstGrid (i : Interval) (e : Int) : Nat → Nat → Decimal
  | 0, k => { digits := (i.value.shift (k - e - 1)).floor, exponent := e + 1 - k }
  | fuel + 1, k =>
    match (i.shift (k - e - 1)).nearest? with
    | some n => { digits := n, exponent := e + 1 - k }
    | none => firstGrid i e fuel (k + 1)

/-- The shortest decimal of the interval. -/
def shortest (i : Interval) : Decimal :=
  firstGrid i (leadingExponent i.value 700 310) 17 1

end Interval

/-- The shortest decimal of a positive finite number, given by its bits without the sign. -/
def shortestOfBits (bits : Nat) : Decimal :=
  let fraction := bits % Nat.pow 2 52
  let exponent : Nat := bits / Nat.pow 2 52
  if exponent = 0 then (Interval.of fraction (-1074) false).shortest
  else (Interval.of (Nat.pow 2 52 + fraction) ((exponent : Int) - 1075) (fraction = 0 && 1 < exponent)).shortest

end Decimal

end AsyncLint
