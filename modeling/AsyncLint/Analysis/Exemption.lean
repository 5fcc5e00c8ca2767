import AsyncLint.Unit.Basic

/-!
# Exemptions

A verdict on a declaration is only sound if each of its runs is a visible, ordinary call of exactly the body
at hand. An exemption names a way in which that fails; an exempt declaration is neither judged nor trusted.
-/

namespace AsyncLint

/-- Why a declaration is exempt. -/
inductive Exemption where
  /-- Another body may stand in for this one. -/
  | overridable
  /-- Run through a protocol and not by a call that can be seen. -/
  | implicitProtocol
  /-- Handed to a parameter that is not async, or handing a suspending lambda to one. -/
  | delegateBoundary
deriving DecidableEq, Repr

protected def Exemption.toString : Exemption → String
  | .overridable => "overridable"
  | .implicitProtocol => "implicit protocol"
  | .delegateBoundary => "delegate boundary"

/-- The declaration that `e` hands to a parameter that is not async, if `e` does so. -/
def Expression.escapingTarget? (u : CompileUnit) : Expression → Option DeclId
  | .reference slot target => if u.slotIsAsync slot then none else some target
  | _ => none

/-- Whether `e` is a call that may suspend by what it resolves to. -/
def Expression.isSuspendingCall (u : CompileUnit) : Expression → Bool
  | .call id _ =>
    match u.callTarget id with
    | .asyncDecl _ | .suspension => true
    | .syncDecl _ | .unknown => false
  | _ => false

/-- Whether `e` is a lambda behind a parameter that is not async, with a suspending call anywhere inside. -/
def Expression.isSuspendingDelegate (u : CompileUnit) : Expression → Bool
  | .lambda slot body => !u.slotIsAsync slot && body.descendants.any (·.isSuspendingCall u)
  | _ => false

namespace CompileUnit

/-- The declarations handed anywhere in the unit to a parameter that is not async. -/
def escaping (u : CompileUnit) : List DeclId :=
  u.bodies.flatMap fun body => body.descendants.filterMap (·.escapingTarget? u)

/-- Whether the body of `d` hands a suspending lambda to a parameter that is not async. -/
def hidesSuspension (u : CompileUnit) (d : Declaration) : Bool :=
  d.body.any fun body => body.descendants.any (·.isSuspendingDelegate u)

/-- The first exemption that applies to declaration `id`, given the escaping declarations. -/
def exemptionAmong? (u : CompileUnit) (escaping : List DeclId) (id : DeclId) : Option Exemption :=
  (u.declaration? id).bind fun d =>
    if d.overridable then some .overridable
    else if d.implicitProtocol then some .implicitProtocol
    else if escaping.contains id || u.hidesSuspension d then some .delegateBoundary
    else none

end CompileUnit

/-- The exemptions of all declarations of a unit, worked out once. -/
structure Guard where
  exemptions : Array (Option Exemption)

namespace Guard

def of (u : CompileUnit) : Guard :=
  let escaping := u.escaping
  { exemptions := (u.ids.map (u.exemptionAmong? escaping)).toArray }

/-- The exemption of declaration `id`; a number outside the unit has none. -/
def exemption? (g : Guard) (id : DeclId) : Option Exemption :=
  g.exemptions[id]?.join

def isExempt (g : Guard) (id : DeclId) : Bool :=
  (g.exemption? id).isSome

end Guard

end AsyncLint
