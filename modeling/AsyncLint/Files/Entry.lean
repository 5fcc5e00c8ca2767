import AsyncLint.Files.Path
import AsyncLint.Text.Pieces

/-!
# Files and directories

A directory tree as a value, and what the system says about paths into it. Names are texts, so an entry whose name is
not valid UTF-8 cannot be represented, while the content of a file is any bytes.
-/

namespace AsyncLint

/-- Why a path cannot be used. -/
inductive SystemError where
  | notFound
  | notDirectory
  | isDirectory
  | nameTooLong
  | nulInName
  | invalidText
  | other (text : String)
deriving DecidableEq, Repr

def SystemError.message : SystemError → String
  | .notFound => "No such file or directory (os error 2)"
  | .notDirectory => "Not a directory (os error 20)"
  | .isDirectory => "Is a directory (os error 21)"
  | .nameTooLong => "File name too long (os error 36)"
  | .nulInName => "file name contained an unexpected NUL byte"
  | .invalidText => "stream did not contain valid UTF-8"
  | .other text => text

/-- A file, or a directory with its entries by name. -/
inductive Entry where
  | file (content : ByteArray)
  | directory (entries : List (String × Entry))

/-- What each path stands for. -/
abbrev Disk := String → Except SystemError Entry

/-- The text of the file at a path. -/
def Disk.readText (disk : Disk) (path : String) : Except SystemError String := do
  match ← disk path with
  | .directory _ => throw .isDirectory
  | .file content =>
    match String.fromUTF8? content with
    | some text => return text
    | none => throw .invalidText

namespace Entry

/-- The greatest number of bytes in a name. -/
def maxName : Nat := 255

/-- What a path leads to from `here`, going on from part to part; `above` holds the directories around, innermost
first. -/
def follow (above : List Entry) (here : Entry) : List String → Except SystemError Entry
  | [] => .ok here
  | part :: parts =>
    match here with
    | .file _ => .error .notDirectory
    | .directory entries =>
      if part = "" ∨ part = "." then follow above here parts
      else if part = ".." then
        match above with
        | [] => .error .notFound
        | outer :: above => follow above outer parts
      else if maxName < part.utf8ByteSize then .error .nameTooLong
      else
        match entries.lookup part with
        | none => .error .notFound
        | some entry => follow (here :: above) entry parts

/-- The disk that has `root` as the directory at hand, and nothing outside. -/
def toDisk (root : Entry) : Disk := fun path =>
  if path.toList.contains (Char.ofNat 0) then .error .nulInName
  else if path = "" ∨ path.startsWith "/" then .error .notFound
  else follow [] root ((Path.parts path).map String.ofList)

/-- What a path stands for on a disk of which some paths are known, with everything below them. -/
def mount (known : List (String × Except SystemError Entry)) : Disk := fun path =>
  match known.lookup path with
  | some result => result
  | none =>
    known.findSome? (fun (dir, result) => do
      let entry ← result.toOption
      let rest ← Text.dropLeading? (Path.join dir "").toList path.toList
      return follow [] entry ((Path.parts (String.ofList rest)).map String.ofList)) |>.getD (.error .notFound)

mutual

/-- Puts an entry where the names lead to, making the directories on the way. A directory that is already there
stays. -/
def put (names : List String) (new : Entry) (here : Entry) : Entry :=
  match names, here with
  | [], .directory es =>
    match new with
    | .directory _ => .directory es
    | .file content => .file content
  | [], .file _ => new
  | name :: names, .directory es => .directory (putIn name names new es)
  | name :: names, .file _ => .directory (putIn name names new [])
termination_by (names.length, 0)

/-- Puts an entry below the one called `name` among `es`. -/
def putIn (name : String) (names : List String) (new : Entry) (es : List (String × Entry)) : List (String × Entry) :=
  match es with
  | [] => [(name, put names new (.directory []))]
  | (n, e) :: es => if n = name then (n, put names new e) :: es else (n, e) :: putIn name names new es
termination_by (names.length, es.length + 1)

end

/-- Puts an entry at a path. -/
def putAt (path : String) (new root : Entry) : Entry :=
  root.put (((Path.parts path).filter fun part => part ≠ [] && part ≠ ['.']).map String.ofList) new

end Entry

end AsyncLint
