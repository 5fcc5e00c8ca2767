import AsyncLint.Unit.Declaration

/-!
# Findings
-/

namespace AsyncLint

/-- How serious a finding is. -/
inductive Severity where
  | info
  | warning
  | error
deriving DecidableEq, Repr

protected def Severity.toString : Severity → String
  | .info => "info"
  | .warning => "warning"
  | .error => "error"

/-- The name under which the rule reports. -/
def ruleId : String := "redundant-async"

/-- One reported declaration. -/
structure Finding where
  ruleId : String
  /-- Qualified name of the declaration. -/
  declaration : String
  location : Location
  message : String
  severity : Severity
deriving DecidableEq, Repr

namespace Finding

/-- The finding for a declaration whose async marker is not needed. -/
def of (severity : Severity) (d : Declaration) : Finding :=
  { ruleId := AsyncLint.ruleId
    declaration := d.qualifiedName
    location := d.location
    message := "`" ++ d.qualifiedName ++
      "` is marked async but never suspends; the async marker is unnecessary"
    severity }

/-- The finding on one line. -/
protected def toString (f : Finding) : String :=
  f.location.toString ++ ": " ++ f.severity.toString ++ "[" ++ f.ruleId ++ "]: " ++ f.message

end Finding

end AsyncLint
