import AsyncLint.Json.Value
import AsyncLint.Report.Basic

/-!
# Reports as JSON

One object with all findings, the number of files and the number of findings.
-/

namespace AsyncLint

open Json

def Location.toJson (l : Location) : Value :=
  .object [("file", .string l.file), ("line", .number l.line), ("column", .number l.column)]

def Finding.toJson (f : Finding) : Value :=
  .object
    [("rule_id", .string f.ruleId), ("declaration", .string f.declaration), ("location", f.location.toJson),
     ("message", .string f.message), ("severity", .string f.severity.toString)]

namespace Report

/-- The report as a value. -/
def toValue (r : Report) : Value :=
  .object
    [("findings", .list (r.findings.map Finding.toJson)), ("files", .number r.files.length),
     ("finding_count", .number r.findingCount)]

/-- The report as JSON text. -/
def toJson (r : Report) : String :=
  r.toValue.toString ++ "\n"

end Report

end AsyncLint
