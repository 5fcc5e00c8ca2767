import AsyncLint.Unit.Declaration

/-!
# Compile units

A unit holds the declarations of one source, and two tables: what each call resolves to, and whether the
parameter behind each function value is async. Calls and values outside the tables are unknown.
-/

namespace AsyncLint

/-- What a call resolves to. -/
inductive CallTarget where
  /-- An async declaration, whose body runs as part of the call. -/
  | asyncDecl (callee : DeclId)
  /-- An ordinary declaration. -/
  | syncDecl (callee : DeclId)
  /-- A construct that suspends by itself. -/
  | suspension
  /-- A callee that is foreign or not resolved. -/
  | unknown
deriving DecidableEq, Repr

/-- The declarations of one source, with the tables for its calls and function values. -/
structure CompileUnit where
  name : String
  declarations : Array Declaration := #[]
  callTargets : Array CallTarget := #[]
  asyncSlots : Array Bool := #[]

namespace CompileUnit

/-- Number of declarations. -/
def size (u : CompileUnit) : Nat :=
  u.declarations.size

def declaration? (u : CompileUnit) (id : DeclId) : Option Declaration :=
  u.declarations[id]?

/-- All declaration numbers, in order. -/
def ids (u : CompileUnit) : List DeclId :=
  List.range u.size

/-- The numbers of the declarations that carry the async marker, in order. -/
def asyncIds (u : CompileUnit) : List DeclId :=
  u.ids.filter fun id => (u.declaration? id).any (·.isAsync)

/-- The first declaration with this name, qualified or not. -/
def find? (u : CompileUnit) (name : String) : Option DeclId :=
  u.declarations.findIdx? fun d => d.name == name || d.qualifiedName == name

def callTarget (u : CompileUnit) (call : CallId) : CallTarget :=
  u.callTargets[call]?.getD .unknown

/-- Whether the parameter behind a function value is async. -/
def slotIsAsync (u : CompileUnit) (slot : SlotId) : Bool :=
  u.asyncSlots[slot]?.getD false

/-- The bodies of all declarations that have one. -/
def bodies (u : CompileUnit) : List Expression :=
  u.declarations.toList.filterMap (·.body)

end CompileUnit

end AsyncLint
