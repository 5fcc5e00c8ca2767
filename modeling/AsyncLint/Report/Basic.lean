import AsyncLint.Analysis.Finding
import AsyncLint.Text.Pieces

/-!
# Reports

What is shown at the end: the findings of every file that was looked at, in order.
-/

namespace AsyncLint

/-- The findings of one file, and its text if that is known. -/
structure FileReport where
  path : String
  source : Option String := none
  findings : List Finding

/-- A line of the file, counted from one. -/
def FileReport.line? (f : FileReport) (line : Nat) : Option (List Char) :=
  if line = 0 then none else f.source.bind fun source => (Text.lines source.toList)[line - 1]?

/-- The findings of all files, and how to show them. -/
structure Report where
  files : List FileReport
  /-- Quote the line that a finding points at. -/
  showSource : Bool := true
  /-- End with the number of findings. -/
  summary : Bool := true

namespace Report

def findings (r : Report) : List Finding :=
  r.files.flatMap (·.findings)

def findingCount (r : Report) : Nat :=
  r.findings.length

/-- Number of files with at least one finding. -/
def filesWithFindings (r : Report) : Nat :=
  r.files.countP fun f => !f.findings.isEmpty

end Report

end AsyncLint
