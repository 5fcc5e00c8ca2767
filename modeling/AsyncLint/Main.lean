import AsyncLint.CommandLine.Run

/-!
# The program

Looks at the paths that the command line names, then runs it on what was found.
-/

namespace AsyncLint.CommandLine

/-- What the system's error stands for. -/
def systemErrorOf : IO.Error → SystemError
  | .noFileOrDirectory .. => .notFound
  | .inappropriateType .. => .notDirectory
  | e => .other (toString e)

/-- The file or directory at a path, with everything below it that a check looks at. -/
partial def loadEntry (path : String) : IO Entry := do
  let real ← IO.FS.realPath path
  if ← real.isDir then
    let mut entries := []
    for e in ← real.readDir do
      let below := Path.join path e.fileName
      if ← e.path.isDir then
        if !Entry.skippedNames.contains e.fileName then
          entries := (e.fileName, ← loadEntry below) :: entries
      else if Entry.isSource below then
        entries := (e.fileName, ← loadEntry below) :: entries
    return .directory entries
  else
    return .file (← IO.FS.readBinFile path)

/-- What a path stands for. -/
def load (path : String) : IO (Except SystemError Entry) := do
  try
    return .ok (← loadEntry path)
  catch e =>
    return .error (systemErrorOf e)

/-- The paths that a request looks at. -/
def Request.paths : Request → List String
  | .check o => o.config.toList ++ o.paths
  | _ => []

end AsyncLint.CommandLine

open AsyncLint CommandLine in
/-- Runs the command line. -/
def main (words : List String) : IO UInt32 := do
  let request := Request.ofWords words
  let loaded ← request.paths.mapM fun path => do return (path, ← load path)
  let outcome := run (Entry.mount loaded) 1 request
  (← IO.getStdout).putStr outcome.stdout
  (← IO.getStderr).putStr outcome.stderr
  return outcome.code.toUInt32
