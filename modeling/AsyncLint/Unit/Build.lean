import AsyncLint.Unit.Basic

/-!
# Building units

A unit grows by declarations, calls and function values. Each new call and each new function value takes
the next free number of its table, after the numbers of everything inside it.
-/

namespace AsyncLint

/-- A computation that extends a unit. -/
abbrev Building := StateM CompileUnit

namespace CompileUnit

/-- Where a declaration stands if nothing else is said: a line of its own per declaration. -/
def nextLocation (u : CompileUnit) : Location :=
  { file := u.name, line := u.size + 1, column := 1 }

/-- Adds a declaration under the next number. -/
def push (u : CompileUnit) (d : Declaration) : DeclId × CompileUnit :=
  (u.size, { u with declarations := u.declarations.push d })

/-- Changes one declaration; nothing comes out if there is none under `id`. -/
def edit? (u : CompileUnit) (id : DeclId) (f : Declaration → Declaration) : Option CompileUnit :=
  if id < u.size then some { u with declarations := u.declarations.modify id f } else none

/-- Gives a declaration a body. -/
def setBody? (u : CompileUnit) (id : DeclId) (body : Expression) : Option CompileUnit :=
  u.edit? id fun d => { d with body := some body }

end CompileUnit

namespace Expression

/-- A call that resolves to `target`. -/
def mkCall (target : CallTarget) (arguments : List Expression) : Building Expression :=
  fun u => (.call u.callTargets.size arguments, { u with callTargets := u.callTargets.push target })

/-- A call of a construct that suspends. -/
def mkSuspend : Building Expression :=
  mkCall .suspension []

/-- A lambda bound to a parameter that is async or not. -/
def mkLambda (slotIsAsync : Bool) (body : Expression) : Building Expression :=
  fun u => (.lambda u.asyncSlots.size body, { u with asyncSlots := u.asyncSlots.push slotIsAsync })

/-- The declaration `target` as a value, bound to a parameter that is async or not. -/
def mkReference (target : DeclId) (slotIsAsync : Bool) : Building Expression :=
  fun u => (.reference u.asyncSlots.size target, { u with asyncSlots := u.asyncSlots.push slotIsAsync })

end Expression

end AsyncLint
