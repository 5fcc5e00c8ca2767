import AsyncLint.Files.Entry

/-!
# Finding sources

The sources below a directory are the files whose extension is `rs`, in the order of their paths. Directories of build
results and of version control are left out.
-/

namespace AsyncLint

namespace Entry

/-- Names of directories that are left out. -/
def skippedNames : List String := ["target", ".git"]

/-- Whether a file is a source, by its path. -/
def isSource (path : String) : Bool :=
  Path.extension? path == some "rs"

/-- What was found at each of several paths, in the order of the paths. -/
def inOrder (found : List (String × List String)) : List String :=
  (found.mergeSort fun a b => Path.compare a.1 b.1 != .gt).flatMap (·.2)

/-- The paths of the entries of directory `dir`, each with the sources found there. -/
def sourcesByPath (dir : String) : List (String × Entry) → List (String × List String)
  | [] => []
  | (name, .file _) :: rest =>
    let path := Path.join dir name
    (path, if isSource path then [path] else []) :: sourcesByPath dir rest
  | (name, .directory entries) :: rest =>
    let path := Path.join dir name
    (path, if skippedNames.contains name then [] else inOrder (sourcesByPath path entries)) :: sourcesByPath dir rest

/-- The sources below directory `dir`, which has these entries. -/
def sourcesBelow (dir : String) (entries : List (String × Entry)) : List String :=
  inOrder (sourcesByPath dir entries)

end Entry

end AsyncLint
