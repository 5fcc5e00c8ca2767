import AsyncLint.Analysis.Classifier
import AsyncLint.Analysis.Finding

/-!
# The rule

Reports every async declaration that is not exempt and cannot suspend, ordered by place.
-/

namespace AsyncLint

/-- Settings of the rule. -/
structure RuleConfig where
  /-- An inactive rule reports nothing. -/
  active : Bool := true
  /-- Report also what is not exported. -/
  reportNonPublic : Bool := true
  severity : Severity := .warning
deriving DecidableEq, Repr

namespace RuleConfig

/-- The finding for declaration `id`, if there is one. A declaration that is not reported for its visibility is
classified all the same. -/
def judge (rule : RuleConfig) (u : CompileUnit) (g : Guard) (id : DeclId) : Visiting (Option Finding) := do
  match u.declaration? id with
  | none => throw (.noDeclaration id)
  | some d =>
    if g.isExempt id then
      return none
    if ← classify u g id then
      return none
    if !rule.reportNonPublic && d.visibility ≠ .exported then
      return none
    return some (.of rule.severity d)

/-- Findings by place; findings at one place keep their order. -/
def sortFindings (findings : List Finding) : List Finding :=
  findings.mergeSort fun a b => a.location.compare b.location != .gt

/-- The findings of a unit, going on from what the cache already knows about it. -/
def runCached (rule : RuleConfig) (u : CompileUnit) : Visiting (List Finding) := do
  if rule.active then
    let g := Guard.of u
    return sortFindings ((← u.asyncIds.mapM (rule.judge u g)).filterMap id)
  else
    return []

/-- The findings of a unit. -/
def run (rule : RuleConfig) (u : CompileUnit) : Except Fault (List Finding) :=
  ((rule.runCached u).run.run (Cache.sized u.size)).1

/-- Cuts a list into pieces of `n` elements, the last one possibly shorter. -/
def chunks {α : Type} (n : Nat) (hn : 0 < n) (xs : List α) : List (List α) :=
  match xs with
  | [] => []
  | x :: rest => (x :: rest).take n :: chunks n hn ((x :: rest).drop n)
termination_by xs.length
decreasing_by simp only [List.length_drop, List.length_cons]; omega

/-- How many of `count` units a worker gets when they are shared out evenly, rounded up. -/
def pieceSize (count workers : Nat) : Nat :=
  (count + workers - 1) / workers

theorem pieceSize_pos {count workers : Nat} (hcount : 0 < count) (hworkers : 0 < workers) :
    0 < pieceSize count workers :=
  Nat.div_pos (by omega) hworkers

/-- The findings of independent units, shared out in even pieces among at most `workers` workers. -/
def runAll (rule : RuleConfig) (workers : Nat) (units : List CompileUnit) :
    Except Fault (List (List Finding)) :=
  let team := min workers units.length
  if h : team ≤ 1 then
    units.mapM rule.run
  else do
    let pieces := chunks (pieceSize units.length team) (pieceSize_pos (by omega) (by omega)) units
    return (← pieces.mapM fun piece => piece.mapM rule.run).flatten

end RuleConfig

end AsyncLint
