/-!
# Help texts
-/

namespace AsyncLint.CommandLine

/-- Lines, each with its end. -/
def unlines (lines : List String) : String :=
  String.join (lines.map (· ++ "\n"))

def helpText : String :=
  unlines
    ["Finds async functions that never suspend",
     "An async fn whose body never awaits anything that can actually suspend pays for a state machine it",
     "does not need. Trait methods, runtime entry points and functions handed to other code as values are",
     "never reported.",
     "",
     "Usage: redundant-async COMMAND ...",
     "",
     "Available options:",
     "    -h, --help     Prints help information",
     "    -V, --version  Prints version information",
     "",
     "Available commands:",
     "    check          Check Rust source files"]

def checkUsage : String :=
  "Usage: redundant-async check [-f=FORMAT] [-c=FILE] [--public-only] [--no-source] PATH..."

def checkHelpText : String :=
  unlines
    ["Check Rust source files",
     "",
     checkUsage,
     "",
     "Available positional items:",
     "    PATH                 Files or directories to check",
     "",
     "Available options:",
     "    -f, --format=FORMAT  Output format [text (default), json]",
     "    -c, --config=FILE    JSON configuration file",
     "        --public-only    Only report publicly visible functions",
     "        --no-source      Do not quote source lines in text output",
     "    -h, --help           Prints help information"]

def versionText : String :=
  unlines ["Version: 0.1.0"]

end AsyncLint.CommandLine
