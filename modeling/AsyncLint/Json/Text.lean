import AsyncLint.Json.Cursor
import AsyncLint.Text.Position

/-!
# Strings

Reading strings from behind their opening quote on. A character outside the first plane is escaped as a pair of
surrogates. A string that is skipped need not have proper pairs.
-/

namespace AsyncLint.Json

def hexValue? (c : Char) : Option Nat :=
  if c.isDigit then some (c.toNat - '0'.toNat)
  else if 'a' ≤ c && c ≤ 'f' then some (c.toNat - 'a'.toNat + 10)
  else if 'A' ≤ c && c ≤ 'F' then some (c.toNat - 'A'.toNat + 10)
  else none

/-- Number of bytes that are still to be read, as far as it is below `limit`. -/
def bytesLeft (limit : Nat) (c : Cursor) : Nat :=
  Text.byteLength (c.rest.take limit)

/-- Reads the four digits of an escape. If four bytes are left that are not all digits, the complaint points behind
them. -/
def readHex : Reading Nat := do
  let cursor ← get
  if bytesLeft 4 cursor < 4 then
    eat cursor.rest.length
    failHere (.breaksOff .string)
  match (cursor.rest.take 4).mapM hexValue? with
  | some [a, b, c, d] =>
    eat 4
    return ((a * 16 + b) * 16 + c) * 16 + d
  | _ => throw { complaint := .invalidEscape, place := Cursor.placeBehind 4 cursor.place cursor.rest }

/-- Reads the character `c`, which has to come next between the two escapes of a pair. -/
def readPairSign (c : Char) : Reading Unit := do
  match ← peek with
  | none => failHere (.breaksOff .string)
  | some x => if x = c then eat else failAhead .unfinishedSurrogatePair

/-- Reads the rest of an escape by code point. -/
def readCodePoint : Reading Char := do
  let first ← readHex
  if 0xDC00 ≤ first && first ≤ 0xDFFF then
    failHere .loneSurrogate
  else if first < 0xD800 || 0xDBFF < first then
    return Char.ofNat first
  else
    readPairSign '\\'
    readPairSign 'u'
    let second ← readHex
    if second < 0xDC00 || 0xDFFF < second then
      failHere .loneSurrogate
    else
      return Char.ofNat (0x10000 + (first - 0xD800) * 0x400 + (second - 0xDC00))

/-- What the letter after a backslash stands for. -/
def shortEscape? : Char → Option Char
  | '"' => some '"'
  | '\\' => some '\\'
  | '/' => some '/'
  | 'b' => some '\x08'
  | 'f' => some '\x0c'
  | 'n' => some '\n'
  | 'r' => some '\r'
  | 't' => some '\t'
  | _ => none

/-- Reads an escape from behind the backslash on; `codePoint` reads what follows the letter `u`. -/
def readEscape {α : Type} (short : Char → α) (codePoint : Reading α) : Reading α := do
  match ← peek with
  | none => failHere (.breaksOff .string)
  | some 'u' =>
    eat
    codePoint
  | some c =>
    match shortEscape? c with
    | some x =>
      eat
      return short x
    | none => failAhead .invalidEscape

/-- Reads the rest of a string behind what has been read, which comes in reverse. -/
def readChars : Nat → List Char → Reading String
  | 0, _ => failHere (.breaksOff .string)
  | fuel + 1, done => do
    match ← peek with
    | none => failHere (.breaksOff .string)
    | some '"' =>
      eat
      return String.ofList done.reverse
    | some '\\' =>
      eat
      let c ← readEscape id readCodePoint
      readChars fuel (c :: done)
    | some c =>
      if c.toNat < 32 then
        failAhead .controlCharacter
      else
        eat
        readChars fuel (c :: done)

/-- Reads a string from behind its opening quote on. -/
def readText : Reading String := do
  readChars ((← get).rest.length + 1) []

/-- Skips the rest of a string. -/
def skipChars : Nat → Reading Unit
  | 0 => failHere (.breaksOff .string)
  | fuel + 1 => do
    match ← peek with
    | none => failHere (.breaksOff .string)
    | some '"' => eat
    | some '\\' =>
      eat
      readEscape (fun _ => ()) (do let _ ← readHex)
      skipChars fuel
    | some c =>
      if c.toNat < 32 then
        failHere .controlCharacter
      else
        eat
        skipChars fuel

/-- Skips a string from behind its opening quote on. -/
def skipText : Reading Unit := do
  skipChars ((← get).rest.length + 1)

end AsyncLint.Json
