import AsyncLint.Decimal.Shortest

/-!
# Writing decimals

A decimal is written with a point if its first digit is not too far from it, and with an exponent otherwise.
-/

namespace AsyncLint.Decimal

/-- How decimals are written. -/
structure Style where
  /-- The least and the greatest exponent of the first digit that are written with a point only. -/
  least : Int
  greatest : Int
  /-- The least number of digits of an exponent. -/
  exponentWidth : Nat
deriving DecidableEq, Repr

/-- The digits of `n`, at least `width` of them. -/
def paddedDigits (n width : Nat) : List Char :=
  let digits := Nat.toDigits 10 n
  List.replicate (width - digits.length) '0' ++ digits

namespace Style

/-- Digits with a point behind the first `n` of them, and at least one digit on each side. -/
def pointed (digits : List Char) (n : Nat) : List Char :=
  let digits := digits ++ List.replicate (n + 1 - digits.length) '0'
  digits.take n ++ '.' :: digits.drop n

/-- An exponent with its sign. -/
def exponent (w : Style) (e : Int) : List Char :=
  'e' :: (if e < 0 then '-' else '+') :: paddedDigits e.natAbs w.exponentWidth

/-- The text of a decimal. Zeros at the end of its digits do not show. -/
def write (w : Style) (d : Decimal) : List Char :=
  let all := Nat.toDigits 10 d.digits
  let digits := (all.reverse.dropWhile (· = '0')).reverse
  let first : Int := d.exponent + all.length - 1
  if d.digits = 0 then "0.0".toList
  else if w.least ≤ first && first ≤ w.greatest then
    if 0 ≤ first then pointed digits (first.toNat + 1)
    else pointed (List.replicate (-first).toNat '0' ++ digits) 1
  else
    match digits with
    | [d] => d :: w.exponent first
    | ds => pointed ds 1 ++ w.exponent first

end Style

end AsyncLint.Decimal
