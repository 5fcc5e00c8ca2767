import AsyncLint.Lowering.Registry

/-!
# Test cases

Every function, trait, module and implementation at the top of a fixture is a test case.
-/

namespace AsyncLint

open Source

/-- A test case and the lines it covers, both included. -/
structure TestCase where
  name : String
  first : Nat
  last : Nat
deriving DecidableEq, Repr

namespace TestCase

def covers (c : TestCase) (line : Nat) : Bool :=
  c.first ≤ line && line ≤ c.last

/-- The name under which an item is a test case. -/
def nameOf? (item : SyntaxTree) : Option String :=
  match item.kind? with
  | some .fn | some .trait | some .module => item.name?
  | some .impl =>
    match item.implTypes with
    | (some traitType, some selfType) => some ("impl " ++ traitType.text ++ " for " ++ selfType.text)
    | (none, some selfType) => some ("impl " ++ selfType.text)
    | _ => none
  | _ => none

/-- The test cases among trees that stand side by side from `line` on. -/
def ofTrees (line : Nat) : List SyntaxTree → List TestCase
  | [] => []
  | t :: ts =>
    let last := line + t.text.toList.count '\n'
    ((nameOf? t).map fun name => { name, first := line, last }).toList ++ ofTrees last ts

/-- The test cases of a source. -/
def ofTree (file : SyntaxTree) : List TestCase :=
  ofTrees 1 file.children

end TestCase

end AsyncLint
