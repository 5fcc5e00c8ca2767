import AsyncLint.Analysis.Cache
import AsyncLint.Analysis.Exemption

/-!
# Classification

Decides whether running a declaration can reach a suspension. Calls of async declarations are followed, all
other calls are not.

Cycles are settled as strongly connected components. Declarations are numbered as they are entered. Meeting an
open one again counts as "does not suspend", with its number as the low link. A declaration that ends without a
suspension and with a low link below its own number waits; when the entry point of its cycle ends, all that have
waited since the entry get the verdict of the entry point. So each body is walked at most once per pass.
-/

namespace AsyncLint

/-- A low link: the least number of an open declaration that a result depends on, if there is one. -/
abbrev LowLink := Option Nat

/-- The lower of two low links. -/
def LowLink.min : LowLink → LowLink → LowLink
  | none, low | low, none => low
  | some m, some n => some (Nat.min m n)

/-- What a walk has found. -/
inductive Outcome where
  | suspends
  /-- No suspension so far; final unless it depends on an open declaration. -/
  | quiet (low : LowLink)
deriving DecidableEq, Repr

def Outcome.isSuspends : Outcome → Bool
  | .suspends => true
  | .quiet _ => false

/-- Why a classification stops without a verdict. -/
inductive Fault where
  /-- A call leads to a declaration that the unit does not have. -/
  | noDeclaration (id : DeclId)
deriving DecidableEq, Repr

/-- A step of the classification. The cache it has reached stays also if the step fails. -/
abbrev Visiting := ExceptT Fault (StateM Cache)

namespace Visiting

/-- Goes on with `next` unless a suspension has been found. -/
def andThen (first next : Visiting Outcome) : Visiting Outcome := do
  match ← first with
  | .suspends => pure .suspends
  | .quiet low =>
    match ← next with
    | .suspends => pure .suspends
    | .quiet low' => pure (.quiet (low.min low'))

end Visiting

section Walk

variable (u : CompileUnit) (g : Guard) (visit : DeclId → Visiting Outcome)

/-- What the callee of a call contributes. An exempt callee has no verdict to rely on. -/
def visitTarget (target : CallTarget) : Visiting Outcome :=
  match target with
  | .suspension => pure .suspends
  | .asyncDecl callee => if g.isExempt callee then pure .suspends else visit callee
  | .syncDecl _ | .unknown => pure (.quiet none)

mutual

/-- Walks an expression up to the first suspension. A lambda runs here only if its parameter is async. -/
def walk : Expression → Visiting Outcome
  | .call id arguments => (visitTarget g visit (u.callTarget id)).andThen (walkList arguments)
  | .block items => walkList items
  | .conditional c t e => (walk c).andThen ((walk t).andThen (walkOption e))
  | .tryCatch b hs f => (walk b).andThen ((walkList hs).andThen (walkOption f))
  | .loop header body => (walkList header).andThen (walk body)
  | .lambda slot body => if u.slotIsAsync slot then walk body else pure (.quiet none)
  | .reference _ _ | .inert => pure (.quiet none)

/-- Walks expressions in turn. -/
def walkList : List Expression → Visiting Outcome
  | [] => pure (.quiet none)
  | e :: es => (walk e).andThen (walkList es)

/-- Walks an expression that may be missing. -/
def walkOption : Option Expression → Visiting Outcome
  | none => pure (.quiet none)
  | some e => walk e

end

end Walk

/-- Closes declaration `id`, entered under `number` when `mark` declarations were pending. -/
def settle (id : DeclId) (number mark : Nat) (outcome : Outcome) : Visiting Outcome :=
  match outcome with
  | .suspends => do
    modify fun c => (c.setState id .suspends).settlePending mark .suspends
    pure .suspends
  | .quiet low => do
    if low.all (number ≤ ·) then
      modify fun c => (c.setState id .doesNotSuspend).settlePending mark .doesNotSuspend
      pure (.quiet none)
    else
      modify (·.suspendJudgement id)
      pure (.quiet low)

/-- Classifies declaration `id`. At most `budget` declarations can still be opened: a declaration is opened at
most once on a path, so the number of declarations of the unit always suffices. -/
def visit (u : CompileUnit) (g : Guard) (budget : Nat) (id : DeclId) : Visiting Outcome := do
  let cache ← get
  match cache.state id with
  | .suspends => pure .suspends
  | .doesNotSuspend => pure (.quiet none)
  | .inProgress | .pending => pure (.quiet (some (cache.number id)))
  | .unvisited =>
    set (cache.enter id)
    match u.declaration? id, budget with
    | some d, budget + 1 =>
      let outcome ←
        match d.body with
        | some body => walk u g (visit u g budget) body
        | none => pure .suspends
      settle id cache.entered cache.pending.length outcome
    | _, _ => throw (.noDeclaration id)

/-- Whether declaration `id` can suspend. -/
def classify (u : CompileUnit) (g : Guard) (id : DeclId) : Visiting Bool := do
  return (← visit u g u.size id).isSuspends

end AsyncLint
