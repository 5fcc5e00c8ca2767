import AsyncLint.Json.Skip
import AsyncLint.Text.Quoted

/-!
# Values of a certain form

Readers for values whose form is known. A record is an object, whose unknown keys are ignored, or a list of its fields
in order; fields that are missing keep what they have.
-/

namespace AsyncLint.Json

/-- Complains that the next value does not have the form that was expected. The value is read if it is a scalar, so a
scalar that is not well formed is complained about instead. -/
def wrongForm {α : Type} (expected : String) : Reading α := do
  let found : Found ← do
    match ← peek with
    | some 'n' =>
      eat
      readWord "ull".toList
      pure .null
    | some 't' =>
      eat
      readWord "rue".toList
      pure (.bool true)
    | some 'f' =>
      eat
      readWord "alse".toList
      pure (.bool false)
    | some '-' =>
      eat
      pure (← readNumber false).found
    | some '"' =>
      eat
      pure (.string (Text.quoted (← readText)))
    | some '[' => pure .list
    | some '{' => pure .object
    | some c => if c.isDigit then pure (← readNumber true).found else failAhead .expectedValue
    | none => failAhead .expectedValue
  failHere (.wrongForm found expected)

/-- The first character of a value. -/
def valueStart : Reading Char := do
  match ← skipBlanks with
  | some c => return c
  | none => failAhead (.breaksOff .value)

def readBool : Reading Bool := do
  match ← valueStart with
  | 't' =>
    eat
    readWord "rue".toList
    return true
  | 'f' =>
    eat
    readWord "alse".toList
    return false
  | _ => wrongForm "a boolean"

def readNull : Reading Unit := do
  match ← valueStart with
  | 'n' =>
    eat
    readWord "ull".toList
  | _ => wrongForm "unit"

/-- Reads a string; `expected` says what it is for. -/
def readStringAs (expected : String) : Reading String := do
  match ← valueStart with
  | '"' =>
    eat
    readText
  | _ => wrongForm expected

def readString : Reading String :=
  readStringAs "a string"

/-- Whether a list goes on with another element; `first` says that none has been read yet. -/
def nextElement (first : Bool) : Reading Bool := do
  match ← skipBlanks with
  | none => failAhead (.breaksOff .list)
  | some ']' => return false
  | some c =>
    if first then
      return true
    else if c = ',' then
      eat
      match ← skipBlanks with
      | none => failAhead (.breaksOff .value)
      | some ']' => failAhead .trailingComma
      | some _ => return true
    else
      failAhead .expectedCommaOrBracket

/-- Reads the end of a list. -/
def closeList : Reading Unit := do
  match ← skipBlanks with
  | none => failAhead (.breaksOff .list)
  | some ']' => eat
  | some ',' =>
    eat
    match ← skipBlanks with
    | some ']' => failAhead .trailingComma
    | _ => failAhead .trailingCharacters
  | some _ => failAhead .trailingCharacters

/-- Reads the elements of a list that are left. -/
def readElements {α : Type} (element : Reading α) : Nat → Bool → Reading (List α)
  | 0, _ => return []
  | fuel + 1, first => do
    if ← nextElement first then
      let a ← element
      return a :: (← readElements element fuel false)
    else
      return []

/-- Reads a list of values of one form. -/
def readList {α : Type} (element : Reading α) : Reading (List α) := do
  match ← valueStart with
  | '[' =>
    eat
    let elements ← readElements element ((← get).rest.length + 1) true
    closeList
    return elements
  | _ => wrongForm "a sequence"

/-- Whether an object goes on with another key; `first` says that none has been read yet. -/
def nextKey (first : Bool) : Reading Bool := do
  match ← skipBlanks with
  | none => failAhead (.breaksOff .object)
  | some '}' => return false
  | some c =>
    if first then
      if c = '"' then return true else failAhead .keyIsNoString
    else if c = ',' then
      eat
      match ← skipBlanks with
      | none => failAhead (.breaksOff .value)
      | some '"' => return true
      | some '}' => failAhead .trailingComma
      | some _ => failAhead .keyIsNoString
    else
      failAhead .expectedCommaOrBrace

def readColon : Reading Unit := do
  match ← skipBlanks with
  | none => failAhead (.breaksOff .object)
  | some ':' => eat
  | some _ => failAhead .expectedColon

/-- Reads the end of an object. -/
def closeObject : Reading Unit := do
  match ← skipBlanks with
  | none => failAhead (.breaksOff .object)
  | some '}' => eat
  | some ',' => failAhead .trailingComma
  | some _ => failAhead .trailingCharacters

/-- A field of a record: its key, and how its value changes the record. -/
structure Member (σ : Type) where
  key : String
  read : σ → Reading σ

/-- Reads the fields of an object that are left. A key that comes again is complained about behind the end of the
object, if that follows at once. -/
def readFields {σ : Type} (fields : List (Member σ)) : Nat → List String → Bool → σ → Reading σ
  | 0, _, _, s => return s
  | fuel + 1, seen, first, s => do
    if ← nextKey first then
      eat
      let key ← readText
      match fields.find? (·.key == key) with
      | none =>
        readColon
        skipValue
        readFields fields fuel seen false s
      | some field =>
        if seen.contains key then
          try closeObject catch _ => pure ()
          failHere (.duplicateField key)
        readColon
        let s ← field.read s
        readFields fields fuel (key :: seen) false s
    else
      return s

/-- Reads the fields of a record that is written as a list. -/
def readInOrder {σ : Type} : List (Member σ) → Bool → σ → Reading σ
  | [], _, s => return s
  | field :: fields, first, s => do
    if ← nextElement first then
      let s ← field.read s
      readInOrder fields false s
    else
      return s

/-- Reads a record, starting from `s`. -/
def readRecord {σ : Type} (expected : String) (fields : List (Member σ)) (s : σ) : Reading σ := do
  match ← valueStart with
  | '[' =>
    eat
    let s ← readInOrder fields true s
    closeList
    return s
  | '{' =>
    eat
    let s ← readFields fields ((← get).rest.length + 1) [] true s
    closeObject
    return s
  | _ => wrongForm expected

/-- Reads one of a few names. -/
def readName {α : Type} (names : List (String × α)) : Reading α := do
  let name ← readStringAs "variant identifier"
  match names.lookup name with
  | some a => return a
  | none => failHere (.unknownVariant name (names.map (·.1)))

/-- Reads one of a few names, as a string or as the only key of an object with the value null. -/
def readChoice {α : Type} (names : List (String × α)) : Reading α := do
  match ← valueStart with
  | '"' => readName names
  | '{' =>
    eat
    let a ← readName names
    readColon
    readNull
    match ← skipBlanks with
    | some '}' =>
      eat
      return a
    | some _ => failHere .expectedValue
    | none => failHere (.breaksOff .object)
  | _ => failAhead .expectedValue

/-- Reads a whole text as one value. -/
def readWhole {α : Type} (value : Reading α) (text : String) : Except ReadError α :=
  let reading : Reading α := do
    let a ← value
    match ← skipBlanks with
    | none => return a
    | some _ => failAhead .trailingCharacters
  (reading.run.run { rest := text.toList }).1

end AsyncLint.Json
