import AsyncLint.Report.Basic

/-!
# Reports as text

A finding is shown as its message, its place, and the line it points at with a caret below the column.
-/

namespace AsyncLint

namespace Report

/-- A text behind blanks, at least `width` characters wide. -/
def alignRight (width : Nat) (cs : List Char) : List Char :=
  List.replicate (width - cs.length) ' ' ++ cs

/-- The quoted line of a finding and the caret below it. -/
def quoteLines (finding : Finding) (width : Nat) (text : List Char) : List Char :=
  alignRight width [] ++ " |\n".toList ++
    alignRight width (Nat.toDigits 10 finding.location.line) ++ " | ".toList ++ text ++ ['\n'] ++
    alignRight width [] ++ " | ".toList ++ List.replicate (finding.location.column - 1) ' ' ++ "^\n".toList

/-- One finding of a file. -/
def findingText (showSource : Bool) (file : FileReport) (finding : Finding) : List Char :=
  let line := finding.location.line
  let width := max (Nat.toDigits 10 line).length 2
  let quote := if showSource then file.line? line else none
  (finding.severity.toString ++ "[" ++ finding.ruleId ++ "]: " ++ finding.message ++ "\n").toList ++
    alignRight width [] ++ ("--> " ++ finding.location.toString ++ "\n").toList ++
    (quote.elim [] (quoteLines finding width)) ++ ['\n']

/-- An ending for all numbers but one. -/
def plural (n : Nat) : String :=
  if n = 1 then "" else "s"

/-- The line with the number of findings. -/
def summaryText (r : Report) : String :=
  if r.findingCount = 0 then
    "no redundant async functions in " ++ toString r.files.length ++ " file(s)\n"
  else
    toString r.findingCount ++ " redundant async function" ++ plural r.findingCount ++
      " in " ++ toString r.filesWithFindings ++ " file" ++ plural r.filesWithFindings ++ "\n"

/-- The report as text. -/
def toText (r : Report) : String :=
  String.ofList (r.files.flatMap fun f => f.findings.flatMap (findingText r.showSource f)) ++
    if r.summary then r.summaryText else ""

end Report

end AsyncLint
