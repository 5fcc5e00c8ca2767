/-!
# Sets of characters by their turning points

A set of code points that consists of few runs is written as the ascending list of the points at which
membership turns: the first point starts a run, the second ends it, and so on.
-/

namespace AsyncLint.Text

/-- Whether `n` lies in the set with these turning points: an odd number of them is at most `n`. -/
def inRuns (n : Nat) : List Nat → Bool
  | [] => false
  | point :: rest => if n < point then false else !inRuns n rest

end AsyncLint.Text
