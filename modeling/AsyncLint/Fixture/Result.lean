import AsyncLint.Text.Pieces

/-!
# Results of test cases
-/

namespace AsyncLint

open Text

/-- What is wrong on a line. -/
inductive FailureKind where
  /-- A finding was expected. -/
  | missing
  /-- A finding was not expected. -/
  | unexpected (declaration : String)
deriving DecidableEq, Repr

protected def FailureKind.toString : FailureKind → String
  | .missing => "expected a finding, none reported"
  | .unexpected declaration => "unexpected finding for `" ++ declaration ++ "`"

/-- A line on which findings and expectations differ. -/
structure Failure where
  /-- The test case around the line; empty if there is none. -/
  case : String := ""
  line : Nat
  kind : FailureKind
  sourceLine : String
deriving DecidableEq, Repr

protected def Failure.toString (f : Failure) : String :=
  "line " ++ toString f.line ++ ": " ++ f.kind.toString ++
    "\n          | " ++ String.ofList (trim f.sourceLine.toList)

structure CaseResult where
  name : String
  failures : List Failure := []
deriving DecidableEq, Repr

namespace CaseResult

def passed (r : CaseResult) : Bool :=
  r.failures.isEmpty

protected def toString (r : CaseResult) : String :=
  if r.passed then "  ✓ " ++ r.name ++ "\n"
  else "  ✗ " ++ r.name ++ "\n" ++ String.join (r.failures.map fun f => "      " ++ f.toString ++ "\n")

end CaseResult

/-- The results of all test cases of a fixture. -/
structure FixtureResult where
  path : String
  cases : List CaseResult
deriving DecidableEq, Repr

namespace FixtureResult

def passed (r : FixtureResult) : Bool :=
  r.cases.all (·.passed)

def passCount (r : FixtureResult) : Nat :=
  r.cases.countP (·.passed)

def failCount (r : FixtureResult) : Nat :=
  r.cases.countP fun c => !c.passed

protected def toString (r : FixtureResult) : String :=
  r.path ++ "\n" ++ String.join (r.cases.map (·.toString))

/-- The results with their numbers below. -/
def format (r : FixtureResult) : String :=
  r.toString ++ "\n" ++ toString r.passCount ++ " passed, " ++ toString r.failCount ++ " failed\n"

end FixtureResult

end AsyncLint
