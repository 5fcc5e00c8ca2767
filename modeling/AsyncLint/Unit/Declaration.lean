import AsyncLint.Files.Path
import AsyncLint.Unit.Expression

/-!
# Function declarations

What a unit knows about one function, and where the function stands.
-/

namespace AsyncLint

/-- A place in a file. Lines and columns count from one. -/
structure Location where
  file : String
  line : Nat
  column : Nat
deriving DecidableEq, Repr

namespace Location

/-- By file, then line, then column. -/
protected def compare (a b : Location) : Ordering :=
  (Path.compare a.file b.file).then ((compare a.line b.line).then (compare a.column b.column))

protected def toString (l : Location) : String :=
  l.file ++ ":" ++ toString l.line ++ ":" ++ toString l.column

end Location

/-- How far a function can be seen. -/
inductive Visibility where
  | exported
  /-- Visible beyond its own scope, yet not exported. -/
  | restricted
  | hidden
deriving DecidableEq, Repr

/-- A function as the analysis sees it. -/
structure Declaration where
  name : String
  location : Location
  visibility : Visibility := .exported
  /-- Another body may stand in for this one. -/
  overridable : Bool := false
  /-- Carries the async marker. -/
  isAsync : Bool := false
  /-- Run by generated code or a language protocol, never by a call that can be seen. -/
  implicitProtocol : Bool := false
  enclosingType : Option String := none
  /-- Missing where there is no body to look at. -/
  body : Option Expression := some (.block [])

/-- The name behind its enclosing type, if there is one. -/
def Declaration.qualifiedName (d : Declaration) : String :=
  match d.enclosingType with
  | some type => type ++ "::" ++ d.name
  | none => d.name

end AsyncLint
