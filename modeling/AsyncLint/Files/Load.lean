import AsyncLint.Config.Read
import AsyncLint.Files.Entry
import AsyncLint.Fixture.Verify
import AsyncLint.Lowering.Unit

/-!
# Configurations, units and fixtures from files
-/

namespace AsyncLint

/-- An error, and what caused it. -/
structure LoadError where
  message : String
  cause : Option String := none
deriving DecidableEq, Repr

/-- Why there is no configuration. -/
inductive ConfigError where
  | unreadable (path : String) (error : SystemError)
  | invalid (path : String) (error : Json.ReadError)

def ConfigError.describe : ConfigError → LoadError
  | .unreadable path e => { message := "cannot read config " ++ path ++ ": " ++ e.message, cause := e.message }
  | .invalid path e => { message := "invalid config " ++ path ++ ": " ++ e.message, cause := e.message }

/-- The configuration in a file. -/
def Config.load (disk : Disk) (path : String) : Except ConfigError Config := do
  let text ← (disk.readText path).mapError (.unreadable path)
  (Config.ofJson text).mapError (.invalid path)

/-- Why there is no unit. -/
inductive UnitError where
  | unreadable (path : String) (error : SystemError)
  | doesNotParse (path : String)

def UnitError.describe : UnitError → LoadError
  | .unreadable path e => { message := "cannot read " ++ path ++ ": " ++ e.message, cause := e.message }
  | .doesNotParse path => { message := path ++ " does not parse" }

/-- The text and the unit of a file. -/
def unitOfFile (disk : Disk) (path : String) (config : LoweringConfig) : Except UnitError (String × CompileUnit) := do
  let source ← (disk.readText path).mapError (.unreadable path)
  match unitOfSource? path source config with
  | some unit => return (source, unit)
  | none => throw (.doesNotParse path)

namespace Fixture

/-- Why a fixture in a file does not pass. -/
inductive FileProblem where
  | unreadable (path : String) (error : SystemError)
  | problem (problem : Problem)

def FileProblem.message : FileProblem → String
  | .unreadable path e => "cannot read fixture " ++ path ++ ": " ++ e.message
  | .problem p => p.message

/-- Checks the fixture in a file. -/
def verifyFile (disk : Disk) (path : String) : Except FileProblem FixtureResult := do
  let source ← (disk.readText path).mapError (.unreadable path)
  (verify path source).mapError .problem

end Fixture

end AsyncLint
