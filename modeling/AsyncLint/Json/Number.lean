import AsyncLint.Decimal.Style
import AsyncLint.Json.Cursor

/-!
# Numbers

Integers of 64 bits are read exactly. All other numbers become floating-point numbers: a significand of at most 64
bits, further digits being dropped, is scaled by a power of ten, in one rounding step for each factor.
-/

namespace AsyncLint.Json

open Decimal

/-- A number as read. -/
inductive Number where
  | integer (n : Int)
  | float (x : Float)

/-- Floating-point numbers show a point, or an exponent with a sign and two digits where the first digit stands more
than five places behind the point or sixteen before it. -/
def floatStyle : Style :=
  { least := -5, greatest := 15, exponentWidth := 2 }

/-- The text of a finite floating-point number. -/
def floatText (x : Float) : String :=
  let bits := x.toBits.toNat
  let text := floatStyle.write (shortestOfBits (bits % Nat.pow 2 63))
  String.ofList (if Nat.pow 2 63 ≤ bits then '-' :: text else text)

def Number.found : Number → Found
  | .integer n => .integer n
  | .float x => .float (floatText x)

def digitValue (c : Char) : Nat :=
  c.toNat - '0'.toNat

/-- Appends digits to `n` as long as the result stays within `limit`; the digits that are left. -/
def appendDigits (limit : Nat) (n : Nat) : List Char → Nat × List Char
  | [] => (n, [])
  | d :: ds =>
    let next := n * 10 + digitValue d
    if next ≤ limit then appendDigits limit next ds else (n, d :: ds)

/-- The greatest number of 64 bits. -/
def maxSignificand : Nat := Nat.pow 2 64 - 1

/-- The greatest exponent that is looked at. -/
def maxExponent : Nat := Nat.pow 2 31 - 1

/-- The digits that come next. -/
def upcomingDigits : Reading (List Char) := do
  return (← get).rest.takeWhile Char.isDigit

/-- Reads digits, possibly none. -/
def readDigits : Reading (List Char) := do
  let digits ← upcomingDigits
  eat digits.length
  return digits

def powerOfTen (k : Nat) : Float :=
  Float.ofScientific 1 false k

/-- The greatest power of ten that is a floating-point number. -/
def maxPower : Nat := 308

/-- `x / 10^k`, dividing by the greatest power as often as needed. -/
def divideByPower : Nat → Float → Nat → Float
  | 0, x, _ => x
  | fuel + 1, x, k =>
    if k ≤ maxPower then x / powerOfTen k
    else if x == 0.0 then x
    else divideByPower fuel (x / powerOfTen maxPower) (k - maxPower)

/-- `significand · 10^exponent`, unless it is too great. -/
def scale? (significand : Nat) (exponent : Int) : Option Float :=
  let x := significand.toUInt64.toFloat
  if exponent < 0 then
    some (divideByPower exponent.natAbs x exponent.natAbs)
  else if exponent.natAbs ≤ maxPower then
    let y := x * powerOfTen exponent.natAbs
    if y.isInf then none else some y
  else if x == 0.0 then some x
  else none

/-- The number `significand · 10^exponent` with its sign. -/
def makeFloat (positive : Bool) (significand : Nat) (exponent : Int) : Reading Number :=
  match scale? significand exponent with
  | some x => return .float (if positive then x else -x)
  | none => failHere .numberOutOfRange

/-- Reads the rest of a number from the letter before its exponent on. -/
def readExponent (positive : Bool) (significand : Nat) (exponent : Int) : Reading Number := do
  eat
  let sign ← peek
  if sign = some '+' || sign = some '-' then
    eat
  let digits ← upcomingDigits
  if digits.isEmpty then
    match ← peek with
    | none => failHere (.breaksOff .value)
    | some _ => failAhead .invalidNumber
  let (e, excess) := appendDigits maxExponent 0 digits
  if excess.isEmpty then
    eat digits.length
    makeFloat positive significand (if sign = some '-' then exponent - e else exponent + e)
  else if significand ≠ 0 && sign ≠ some '-' then
    eat (digits.length - excess.length + 1)
    failHere .numberOutOfRange
  else
    eat digits.length
    makeFloat positive 0 0

/-- Reads the rest of a number from the point on. -/
def readFraction (positive : Bool) (significand : Nat) (exponent : Int) : Reading Number := do
  eat
  let digits ← readDigits
  if digits.isEmpty then
    match ← peek with
    | none => failAhead (.breaksOff .value)
    | some _ => failAhead .invalidNumber
  let (significand, excess) := appendDigits maxSignificand significand digits
  let exponent := exponent - (digits.length - excess.length : Nat)
  match ← peek with
  | some 'e' | some 'E' => readExponent positive significand exponent
  | _ => makeFloat positive significand exponent

/-- The integer with this sign, or a floating-point number where there is no such integer of 64 bits. -/
def makeInteger (positive : Bool) (significand : Nat) : Number :=
  if positive then .integer significand
  else if significand = 0 || Nat.pow 2 63 < significand then .float (-significand.toUInt64.toFloat)
  else .integer (-significand)

/-- Reads a number whose sign has been read. -/
def readNumber (positive : Bool) : Reading Number := do
  let digits ← upcomingDigits
  match digits with
  | [] =>
    match ← peek with
    | none => failHere (.breaksOff .value)
    | some _ => failAhead .invalidNumber
  | '0' :: _ :: _ =>
    eat
    failAhead .invalidNumber
  | _ =>
    eat digits.length
    let (significand, excess) := appendDigits maxSignificand 0 digits
    match ← peek with
    | some '.' => readFraction positive significand excess.length
    | some 'e' | some 'E' => readExponent positive significand excess.length
    | _ =>
      if excess.isEmpty then return makeInteger positive significand
      else makeFloat positive significand excess.length

/-- Skips the digits of an exponent from its letter on. -/
def skipExponent : Reading Unit := do
  eat
  let sign ← peek
  if sign = some '+' || sign = some '-' then
    eat
  if (← readDigits).isEmpty then
    failAhead .invalidNumber

/-- Skips a number whose sign has been read. -/
def skipNumber : Reading Unit := do
  let digits ← upcomingDigits
  match digits with
  | [] => failAhead .invalidNumber
  | '0' :: _ :: _ =>
    eat
    failAhead .invalidNumber
  | _ =>
    eat digits.length
    if (← peek) = some '.' then
      eat
      if (← readDigits).isEmpty then
        failAhead .invalidNumber
    match ← peek with
    | some 'e' | some 'E' => skipExponent
    | _ => pure ()

end AsyncLint.Json
