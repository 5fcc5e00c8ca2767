/-!
# Values by line

A map from line numbers, kept in the order of the lines.
-/

namespace AsyncLint

/-- Lines with their values, in increasing order. -/
abbrev LineMap (α : Type) := List (Nat × α)

namespace LineMap

variable {α : Type}

/-- Puts `a` on a line, in place of what is there. -/
def insert (line : Nat) (a : α) : LineMap α → LineMap α
  | [] => [(line, a)]
  | (l, b) :: rest =>
    if line < l then (line, a) :: (l, b) :: rest
    else if line = l then (line, a) :: rest
    else (l, b) :: insert line a rest

/-- What is on a line. -/
def get? (m : LineMap α) (line : Nat) : Option α :=
  List.lookup line m

/-- Puts `a` on a line unless there is something already. -/
def insertIfNew (line : Nat) (a : α) (m : LineMap α) : LineMap α :=
  if (m.get? line).isSome then m else m.insert line a

end LineMap

end AsyncLint
