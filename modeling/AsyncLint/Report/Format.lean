import AsyncLint.Report.Json
import AsyncLint.Report.Text

/-!
# Output formats
-/

namespace AsyncLint

/-- How a report is written. -/
inductive OutputFormat where
  | text
  | json
deriving DecidableEq, Repr

namespace OutputFormat

/-- The format that a name stands for. Case does not matter, and no letter beyond `a` to `z` has one of these names as
its lower case. -/
def ofName? (name : String) : Option OutputFormat :=
  match name.map Char.toLower with
  | "text" | "human" | "rustc" => some .text
  | "json" => some .json
  | _ => none

/-- The complaint about a name that is no format. -/
def unknownMessage (name : String) : String :=
  "unknown format '" ++ name ++ "'; expected: text, json"

end OutputFormat

/-- The report in the format asked for. -/
def Report.render (r : Report) : OutputFormat → String
  | .text => r.toText
  | .json => r.toJson

end AsyncLint
