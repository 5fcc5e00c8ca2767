import AsyncLint.CommandLine.Help
import AsyncLint.CommandLine.Request
import AsyncLint.Files.Load
import AsyncLint.Files.Sources

/-!
# Running a command line

What the program prints and returns for a command line, given what is on the disk.
-/

namespace AsyncLint.CommandLine

/-- What a run leaves behind. -/
structure Outcome where
  code : Nat
  stdout : String := ""
  stderr : String := ""
deriving DecidableEq, Repr

/-- Why a check does not come to an end. -/
inductive CheckError where
  | config (error : ConfigError)
  | missingPath (path : String)
  | noSources
  | unit (error : UnitError)
  /-- The rule met a declaration that is not there. -/
  | broken (fault : Fault)

namespace CheckError

def describe : CheckError → LoadError
  | .config e => e.describe
  | .missingPath path => { message := path ++ " does not exist" }
  | .noSources => { message := "no .rs files found" }
  | .unit e => e.describe
  | .broken _ => { message := "missing declaration" }

/-- What is printed about an error. A file that does not parse ends the output at once. -/
def text (e : CheckError) : String :=
  let details := e.describe
  let cause := details.cause.elim "" fun c => "\n\nCaused by:\n    " ++ c
  let stop := match e with
    | .unit (.doesNotParse _) => ""
    | _ => "\n"
  "Error: " ++ details.message ++ cause ++ stop

end CheckError

/-- The files that a path stands for: the sources below a directory, or the file itself. -/
def expand (disk : Disk) (path : String) : Except CheckError (List String) :=
  match disk path with
  | .ok (.directory entries) => .ok (Entry.sourcesBelow path entries)
  | .ok (.file _) => .ok [path]
  | .error _ => .error (.missingPath path)

/-- Checks the files asked for, with as many workers. -/
def check (disk : Disk) (workers : Nat) (o : CheckOptions) : Except CheckError Report := do
  let config : Config ← match o.config with
    | some path => (Config.load disk path).mapError .config
    | none => pure {}
  let rule := if o.publicOnly then { config.rule with reportNonPublic := false } else config.rule
  let files := (← o.paths.mapM (expand disk)).flatten
  if files.isEmpty then
    throw .noSources
  let units ← files.mapM fun path => (unitOfFile disk path config.rust).mapError .unit
  let findings ← (rule.runAll workers (units.map (·.2))).mapError .broken
  let reports := (files.zip (units.zip findings)).map fun (path, (source, _), findings) =>
    { path, findings, source := if o.noSource || findings.isEmpty then none else some source : FileReport }
  return { files := reports, showSource := !o.noSource }

/-- Runs a command line. -/
def run (disk : Disk) (workers : Nat) : Request → Outcome
  | .help => { code := 0, stdout := helpText }
  | .version => { code := 0, stdout := versionText }
  | .checkHelp => { code := 0, stdout := checkHelpText }
  | .misuse => { code := 2, stderr := unlines [checkUsage] }
  | .check o =>
    match check disk workers o with
    | .error e => { code := 1, stderr := e.text }
    | .ok report => { code := if 0 < report.findingCount then 1 else 0, stdout := report.render o.format }

end AsyncLint.CommandLine
