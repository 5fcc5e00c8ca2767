/-!
# Paths

A path is kept as it was written. Paths are ordered by their components, so that spellings which differ
only in repeated slashes, a trailing slash or an inner `.` compare as equal. A path is a text: one that is not valid
UTF-8 cannot be represented.
-/

namespace AsyncLint

namespace Path

/-- One step of a path. The constructors stand in the order in which components compare. -/
inductive Component where
  | root
  | here
  | parent
  | name (text : String)
deriving DecidableEq, Ord, Repr

/-- The parts of `path` between slashes, empty ones included. -/
def parts (path : String) : List (List Char) :=
  path.toList.splitOn '/'

/-- The component that a part after the first stands for, if any. -/
def Component.ofPart? (part : List Char) : Option Component :=
  if part = [] ∨ part = ['.'] then none
  else if part = ['.', '.'] then some .parent
  else some (.name (String.ofList part))

/-- The components of `path`. A `.` counts only where the path starts with it. -/
def components (path : String) : List Component :=
  match parts path with
  | [] => []
  | [] :: rest => if rest = [] then [] else .root :: rest.filterMap Component.ofPart?
  | ['.'] :: rest => .here :: rest.filterMap Component.ofPart?
  | first :: rest => (first :: rest).filterMap Component.ofPart?

/-- Component by component; a path that starts another one comes first. -/
protected def compare (a b : String) : Ordering :=
  compare (components a) (components b)

/-- `name` inside the directory `dir`. -/
def join (dir name : String) : String :=
  if dir = "" ∨ dir.endsWith "/" then dir ++ name else dir ++ "/" ++ name

/-- The last component, if it is a name. -/
def fileName? (path : String) : Option String :=
  match (components path).getLast? with
  | some (.name text) => some text
  | _ => none

/-- What follows the last dot of a file name, unless that dot is the only one and comes first. -/
def extension? (path : String) : Option String :=
  (fileName? path).bind fun text =>
    let reversed := text.toList.reverse
    match reversed.dropWhile (· != '.') with
    | '.' :: _ :: _ => some (String.ofList (reversed.takeWhile (· != '.')).reverse)
    | _ => none

end Path

end AsyncLint
