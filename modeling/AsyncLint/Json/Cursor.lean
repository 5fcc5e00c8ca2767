import AsyncLint.Json.Error

/-!
# Reading a text from left to right

A cursor stands between two characters of a text. A complaint points either at the cursor or, if the next byte is to
blame, behind that byte.
-/

namespace AsyncLint.Json

/-- What is still to be read, and the place where it starts. -/
structure Cursor where
  rest : List Char
  place : Place := {}
deriving DecidableEq, Repr

namespace Cursor

/-- The cursor behind the next `n` characters. -/
def advance : Nat → Cursor → Cursor
  | 0, c => c
  | n + 1, c =>
    match c.rest with
    | [] => c
    | x :: rest => advance n { rest, place := c.place.after x }

/-- The place behind the next byte, or the end of the text. -/
def ahead (c : Cursor) : Place :=
  match c.rest with
  | [] => c.place
  | x :: _ => c.place.into x

/-- The place behind the next `n` bytes of `cs`. -/
def placeBehind : Nat → Place → List Char → Place
  | 0, p, _ => p
  | _, p, [] => p
  | n + 1, p, c :: cs => if c.utf8Size ≤ n + 1 then placeBehind (n + 1 - c.utf8Size) (p.after c) cs
      else { p with column := p.column + (n + 1) }
termination_by _ _ cs => cs

end Cursor

/-- A computation that reads from a text and can end in a complaint. The cursor stays where it was then. -/
abbrev Reading := ExceptT ReadError (StateM Cursor)

/-- The next character. -/
def peek : Reading (Option Char) := do
  return (← get).rest.head?

/-- Goes on behind the next `n` characters. -/
def eat (n : Nat := 1) : Reading Unit :=
  modify (Cursor.advance n)

/-- A complaint that points at the cursor. -/
def failHere {α : Type} (complaint : Complaint) : Reading α := do
  throw { complaint, place := (← get).place }

/-- A complaint that points behind the next byte. -/
def failAhead {α : Type} (complaint : Complaint) : Reading α := do
  throw { complaint, place := (← get).ahead }

/-- Whether a character may stand between two values. -/
def isBlank (c : Char) : Bool :=
  c = ' ' || c = '\n' || c = '\t' || c = '\r'

/-- Skips blanks; the next character. -/
def skipBlanks : Reading (Option Char) := do
  eat ((← get).rest.takeWhile isBlank).length
  peek

/-- Reads the rest of `true`, `false` or `null`. -/
def readWord : List Char → Reading Unit
  | [] => pure ()
  | w :: word => do
    match ← peek with
    | none => failHere (.breaksOff .value)
    | some c =>
      if c = w then
        eat
        readWord word
      else
        failAhead .expectedWord

end AsyncLint.Json
