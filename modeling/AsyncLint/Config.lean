import AsyncLint.Analysis.Rule
import AsyncLint.Text.Pieces

/-!
# Configuration
-/

namespace AsyncLint

open Text

/-- Settings for reading sources. -/
structure LoweringConfig where
  /-- Paths of attributes that mark functions run by generated code. -/
  implicitProtocolAttributes : List String :=
    ["tokio::main", "tokio::test", "async_std::main", "async_std::test", "actix_web::main", "actix_rt::test"]
  /-- Names of macros that await. -/
  suspendingMacros : List String := ["join", "try_join", "select", "pending"]
deriving DecidableEq, Repr

namespace LoweringConfig

/-- Whether an attribute path, as written, marks a function run by generated code. Blanks do not matter. -/
def isImplicitProtocolAttribute (c : LoweringConfig) (path : String) : Bool :=
  c.implicitProtocolAttributes.contains (String.ofList (squeeze path.toList))

/-- Whether a macro path, as written, names a macro that awaits. Only its last segment matters. -/
def isSuspendingMacro (c : LoweringConfig) (path : String) : Bool :=
  c.suspendingMacros.contains (String.ofList (trim (afterLast [':', ':'] path.toList)))

end LoweringConfig

/-- All settings. -/
structure Config where
  rule : RuleConfig := {}
  rust : LoweringConfig := {}
deriving DecidableEq, Repr

end AsyncLint
