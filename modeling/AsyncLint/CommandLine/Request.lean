import AsyncLint.CommandLine.Argument
import AsyncLint.Report.Format

/-!
# What a command line asks for
-/

namespace AsyncLint.CommandLine

/-- What to check, and how. -/
structure CheckOptions where
  format : OutputFormat := .text
  config : Option String := none
  publicOnly : Bool := false
  noSource : Bool := false
  paths : List String
deriving DecidableEq, Repr

/-- A request. -/
inductive Request where
  | help
  | version
  | checkHelp
  | check (options : CheckOptions)
  /-- A command line that makes no sense. -/
  | misuse
deriving DecidableEq, Repr

/-- The name of an option. -/
structure OptionName where
  short : Option Char := none
  long : String

namespace OptionName

def names (o : OptionName) : Argument → Bool
  | .short c => o.short == some c
  | .long name => o.long == name
  | _ => false

end OptionName

def helpOption : OptionName := { short := 'h', long := "help" }
def versionOption : OptionName := { short := 'V', long := "version" }
def formatOption : OptionName := { short := 'f', long := "format" }
def configOption : OptionName := { short := 'c', long := "config" }
def publicOnlyOption : OptionName := { long := "public-only" }
def noSourceOption : OptionName := { long := "no-source" }

/-- The letters of all options. -/
def letters : Letters :=
  { flags := ['h', 'V'], valued := ['f', 'c'] }

/-- Takes an option and its value out of the arguments, if it is there. There is nothing if its value is missing. -/
def takeValue? (o : OptionName) : List Argument → Option (Option String × List Argument)
  | [] => some (none, [])
  | a :: rest =>
    if o.names a then
      match rest with
      | .value text :: rest | .word text :: rest => some (some text, rest)
      | _ => none
    else (takeValue? o rest).map fun (v, rest) => (v, a :: rest)

/-- Takes a flag out of the arguments, if it is there. -/
def takeFlag (o : OptionName) : List Argument → Bool × List Argument
  | [] => (false, [])
  | a :: rest =>
    if o.names a then (true, rest)
    else
      let (found, rest) := takeFlag o rest
      (found, a :: rest)

/-- The words among arguments, in order. -/
def wordsOf : List Argument → List String
  | [] => []
  | .word text :: rest | .plain text :: rest => text :: wordsOf rest
  | _ :: rest => wordsOf rest

/-- Whether an argument is a word, or stands for none. -/
def isWord : Argument → Bool
  | .word _ | .plain _ | .ending => true
  | _ => false

/-- The options of the check command. There are none if something is missing, wrong or left over. -/
def checkOptions? (arguments : List Argument) : Option CheckOptions := do
  let (format, arguments) ← takeValue? formatOption arguments
  let (config, arguments) ← takeValue? configOption arguments
  let (publicOnly, arguments) := takeFlag publicOnlyOption arguments
  let (noSource, arguments) := takeFlag noSourceOption arguments
  guard (arguments.all isWord)
  let paths := wordsOf arguments
  guard (!paths.isEmpty)
  let format ← match format with
    | none => some .text
    | some name => OutputFormat.ofName? name
  return { format, config, publicOnly, noSource, paths }

/-- The request of a command line. A call for help counts wherever it stands, if the rest makes no sense by itself. -/
def Request.ofWords (words : List String) : Request :=
  match Argument.ofWords letters words with
  | [] => .help
  | .word "check" :: arguments =>
    match checkOptions? arguments with
    | some options => .check options
    | none => if arguments.any helpOption.names then .checkHelp else .misuse
  | arguments =>
    match arguments.find? fun a => helpOption.names a || versionOption.names a with
    | some a => if helpOption.names a then .help else .version
    | none => .misuse

end AsyncLint.CommandLine
