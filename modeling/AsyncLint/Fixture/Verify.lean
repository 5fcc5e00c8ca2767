import AsyncLint.Config.Read
import AsyncLint.Fixture.Case
import AsyncLint.Fixture.Expectation
import AsyncLint.Fixture.Result
import AsyncLint.Lowering.Unit

/-!
# Checking fixtures

A fixture passes if findings are reported on exactly the lines on which they are expected.
-/

namespace AsyncLint

open Source Text

namespace Fixture

/-- How a line with a part of the configuration starts. -/
def configOpening : List Char := "//! config:".toList

/-- The configuration inside a fixture. -/
def config (source : String) : Except Json.ReadError Config :=
  let parts := (lines source.toList).filterMap fun line => dropLeading? configOpening (trimStart line)
  let text := List.intercalate [' '] parts
  if trim text = [] then .ok {} else Config.ofJson (String.ofList text)

/-- The first finding of each line. -/
def firstByLine (findings : List Finding) : LineMap Finding :=
  findings.foldl (fun m f => m.insertIfNew f.location.line f) []

/-- A line of a source, counted from one, or nothing. -/
def sourceLine (source : String) (line : Nat) : String :=
  String.ofList ((lines source.toList)[line - 1]?.getD [])

/-- The lines on which findings and expectations differ, in order. -/
def failures (source : String) (expectations : LineMap Expectation) (findings : List Finding) : List Failure :=
  let reported := firstByLine findings
  let missing := (Expectation.reportedLines expectations).filterMap fun line =>
    if (reported.get? line).isSome then none
    else some { line, kind := .missing, sourceLine := sourceLine source line : Failure }
  let unexpected := reported.filterMap fun (line, finding) =>
    if (expectations.get? line).any fun e => !e.negated then none
    else some { line, kind := .unexpected finding.declaration, sourceLine := sourceLine source line : Failure }
  (missing ++ unexpected).mergeSort fun a b => a.line ≤ b.line

/-- Sorts failures into the first test case around each; each of the others makes a case of its own behind them. -/
def assign (cases : List TestCase) (failures : List Failure) : List CaseResult :=
  let home (f : Failure) := cases.findIdx? (·.covers f.line)
  (cases.zipIdx.map fun (c, i) =>
    { name := c.name
      failures := (failures.filter fun f => home f == some i).map fun f => { f with case := c.name } }) ++
    (failures.filter fun f => (home f).isNone).map fun f =>
      { name := "line " ++ toString f.line, failures := [f] }

/-- The results of the test cases of a source. -/
def compare (source : String) (file : SyntaxTree) (expectations : LineMap Expectation) (findings : List Finding) :
    List CaseResult :=
  assign (TestCase.ofTree file) (failures source expectations findings)

/-- Why a fixture does not pass. -/
inductive Problem where
  | malformed (errors : List ExpectationError)
  | badConfig (error : Json.ReadError)
  | doesNotParse (path : String)
  /-- The rule met a declaration that is not there. -/
  | broken (fault : Fault)
  | failed (result : FixtureResult)

def Problem.message : Problem → String
  | .malformed errors => "malformed expectations: " ++ String.intercalate "; " (errors.map (·.message))
  | .badConfig error => "invalid fixture config: " ++ error.message
  | .doesNotParse path => path ++ " does not parse"
  | .broken _ => "missing declaration"
  | .failed result => result.toString

/-- Checks a fixture. -/
def verify (path source : String) : Except Problem FixtureResult := do
  let (expectations, errors) := Expectation.ofSource source
  unless errors.isEmpty do
    throw (.malformed errors)
  let config ← (config source).mapError .badConfig
  let some file := parse? source | throw (.doesNotParse path)
  let findings ← (config.rule.run (unitOfTree path source file config.rust)).mapError .broken
  let result : FixtureResult := { path, cases := compare source file expectations findings }
  if result.passed then return result else throw (.failed result)

end Fixture

end AsyncLint
