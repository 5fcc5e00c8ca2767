import AsyncLint.Config
import AsyncLint.Json.Form

/-!
# Configurations as JSON
-/

namespace AsyncLint

open Json

namespace RuleConfig

def fields : List (Member RuleConfig) :=
  [{ key := "active", read := fun c => return { c with active := ← readBool } },
   { key := "report_non_public", read := fun c => return { c with reportNonPublic := ← readBool } },
   { key := "severity",
     read := fun c => return { c with
       severity := ← readChoice ([.info, .warning, .error].map fun s => (Severity.toString s, s)) } }]

/-- Reads the settings of the rule. -/
def read : Reading RuleConfig :=
  readRecord "struct RuleConfig" fields {}

end RuleConfig

namespace LoweringConfig

def fields : List (Member LoweringConfig) :=
  [{ key := "implicit_protocol_attributes",
     read := fun c => return { c with implicitProtocolAttributes := ← readList readString } },
   { key := "suspending_macros", read := fun c => return { c with suspendingMacros := ← readList readString } }]

/-- Reads the settings for reading sources. -/
def read : Reading LoweringConfig :=
  readRecord "struct LoweringConfig" fields {}

end LoweringConfig

namespace Config

def fields : List (Member Config) :=
  [{ key := "rule", read := fun c => return { c with rule := ← RuleConfig.read } },
   { key := "rust", read := fun c => return { c with rust := ← LoweringConfig.read } }]

/-- The configuration that a text describes. What it leaves out has its default. -/
def ofJson (text : String) : Except ReadError Config :=
  readWhole (readRecord "struct Config" fields {}) text

end Config

end AsyncLint
