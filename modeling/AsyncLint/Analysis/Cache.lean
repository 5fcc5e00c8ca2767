import AsyncLint.Unit.Expression

/-!
# The visit cache

Per declaration the cache keeps how far its classification has come and the number under which it was last
entered. Declarations that wait for the entry point of their cycle are kept in the order in which they began
to wait, so that a whole cycle can be settled at once.
-/

namespace AsyncLint

/-- How far the classification of a declaration has come. -/
inductive VisitState where
  | unvisited
  /-- On the current path. Meeting it again closes a cycle. -/
  | inProgress
  /-- Walked without meeting a suspension, but on a cycle whose entry point is still open. -/
  | pending
  | suspends
  | doesNotSuspend
deriving DecidableEq, Repr

/-- The verdict, once there is one. -/
def VisitState.verdict? : VisitState → Option Bool
  | .suspends => some true
  | .doesNotSuspend => some false
  | .unvisited | .inProgress | .pending => none

/-- What the cache knows about one declaration. -/
structure Visit where
  state : VisitState := .unvisited
  /-- Entry number; it has a meaning only while the declaration is open. -/
  number : Nat := 0
deriving DecidableEq, Repr

/-- Verdicts and open declarations of one analysis pass. -/
structure Cache where
  visits : Array Visit := #[]
  /-- How many declarations have been entered since the cache was new or cleared. -/
  entered : Nat := 0
  /-- The pending declarations, longest waiting first. -/
  pending : List DeclId := []
deriving Repr

namespace Cache

/-- A cache with room for `size` declarations. -/
def sized (size : Nat) : Cache :=
  { visits := Array.replicate size {} }

def state (c : Cache) (id : DeclId) : VisitState :=
  (c.visits[id]?.getD {}).state

def number (c : Cache) (id : DeclId) : Nat :=
  (c.visits[id]?.getD {}).number

/-- Makes room for declaration `id`. -/
def grow (c : Cache) (id : DeclId) : Cache :=
  { c with visits := c.visits ++ Array.replicate (id + 1 - c.visits.size) {} }

def setState (c : Cache) (id : DeclId) (s : VisitState) : Cache :=
  { c.grow id with visits := (c.grow id).visits.modify id fun v => { v with state := s } }

/-- Opens declaration `id` under the next entry number. -/
def enter (c : Cache) (id : DeclId) : Cache :=
  { c.grow id with
    visits := (c.grow id).visits.modify id fun _ => { state := .inProgress, number := c.entered }
    entered := c.entered + 1 }

/-- Lets declaration `id` wait for the entry point of its cycle. -/
def suspendJudgement (c : Cache) (id : DeclId) : Cache :=
  { c.setState id .pending with pending := c.pending ++ [id] }

/-- Gives every declaration that began to wait after the first `mark` the state `s`. -/
def settlePending (c : Cache) (mark : Nat) (s : VisitState) : Cache :=
  (c.pending.drop mark).foldl (fun c id => c.setState id s) { c with pending := c.pending.take mark }

/-- Number of declarations with a verdict. -/
def resolved (c : Cache) : Nat :=
  c.visits.countP (·.state.verdict?.isSome)

/-- Forgets all states. The table keeps its length and its old entry numbers. -/
def clear (c : Cache) : Cache :=
  { visits := c.visits.map fun v => { v with state := .unvisited } }

end Cache

end AsyncLint
