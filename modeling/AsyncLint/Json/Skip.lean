import AsyncLint.Json.Number
import AsyncLint.Json.Text

/-!
# Skipping values

A value that nobody asked for still has to be well formed. The brackets that are open are kept as a list, innermost
first.
-/

namespace AsyncLint.Json

/-- An open bracket. -/
inductive Frame where
  | list
  | object
deriving DecidableEq, Repr

namespace Frame

def closing : Frame → Char
  | .list => ']'
  | .object => '}'

def inside : Frame → Inside
  | .list => .list
  | .object => .object

def expectedNext : Frame → Complaint
  | .list => .expectedCommaOrBracket
  | .object => .expectedCommaOrBrace

end Frame

/-- Closes what ends at the cursor. If another value follows, the brackets around it come out; with `comma`, it stands
behind a comma. -/
def skipClosing : Nat → Bool → List Frame → Reading (List Frame)
  | _, _, [] => return []
  | 0, _, f :: _ => failAhead (.breaksOff f.inside)
  | fuel + 1, comma, f :: outer => do
    match ← skipBlanks with
    | none => failAhead (.breaksOff f.inside)
    | some c =>
      if c = ',' && comma then
        eat
        return f :: outer
      else if c = f.closing then
        eat
        skipClosing fuel true outer
      else if comma then
        failAhead f.expectedNext
      else
        return f :: outer

/-- Skips the key and the colon before a value of an object. -/
def skipKey : Reading Unit := do
  match ← skipBlanks with
  | none => failAhead (.breaksOff .object)
  | some '"' =>
    eat
    skipText
  | some _ => failAhead .keyIsNoString
  match ← skipBlanks with
  | none => failAhead (.breaksOff .object)
  | some ':' => eat
  | some _ => failAhead .expectedColon

/-- Skips a scalar, or only the opening bracket of another value, which comes out. -/
def skipStart : Reading (Option Frame) := do
  match ← skipBlanks with
  | none => failAhead (.breaksOff .value)
  | some c =>
    if c = '[' then
      eat
      return some .list
    else if c = '{' then
      eat
      return some .object
    else
      if c = 'n' then
        eat
        readWord "ull".toList
      else if c = 't' then
        eat
        readWord "rue".toList
      else if c = 'f' then
        eat
        readWord "alse".toList
      else if c = '-' then
        eat
        skipNumber
      else if c.isDigit then
        skipNumber
      else if c = '"' then
        eat
        skipText
      else
        failAhead .expectedValue
      return none

/-- Skips a value inside open brackets, and then on to the end of the outermost one. -/
def skipValues : Nat → List Frame → Reading Unit
  | 0, _ => failAhead (.breaksOff .value)
  | fuel + 1, outer => do
    let bracket ← skipStart
    match ← skipClosing fuel bracket.isNone (bracket.toList ++ outer) with
    | [] => pure ()
    | f :: outer =>
      if f = .object then
        skipKey
      skipValues fuel (f :: outer)

/-- Skips a value. -/
def skipValue : Reading Unit := do
  skipValues ((← get).rest.length + 2) []

end AsyncLint.Json
