import AsyncLint.Lowering.Registry
import AsyncLint.Text.Upper

/-!
# Resolving names

Names are resolved by their spelling alone. A name without path is a free function of the current module. A path leads
along the modules of the source and from there to a free function or, behind a name that starts with an upper-case
letter, to a method. Everything else is not resolved.
-/

namespace AsyncLint

open Source Text

/-- What names are resolved against: the functions of the source, and where the function at hand is declared. -/
structure Context where
  registry : Registry
  config : LoweringConfig
  /-- The type or trait around the function. -/
  scope : Option String
  module : List String

/-- The name in the text of a path segment, without the double colon before it and without generic arguments. -/
def segmentText? (text : String) : Option String :=
  let cs := (dropCopies [':', ':'] text.toList).takeWhile (· != '<')
  let name := trim (dropTrailingCopies [':', ':'] cs)
  if name = [] then none else some (String.ofList name)

mutual

/-- The names of the segments of a path. There are none if a segment is a type in angle brackets. -/
def segments? : SyntaxTree → Option (List String)
  | .token _ _ => none
  | .node _ children => do
    let before ← leadingSegments? children
    let segment ← children.find? (·.isNode .pathSegment)
    return before ++ [← segmentText? segment.text]

/-- The names of the segments of the path among some children, if there is a path. -/
def leadingSegments? : List SyntaxTree → Option (List String)
  | [] => some []
  | t :: ts => if t.isNode .path then segments? t else leadingSegments? ts

end

namespace Context

/-- Goes along `segments` from `module`: up at `super`, else down. -/
def follow? (module : List String) : List String → Option (List String)
  | [] => some module
  | segment :: rest =>
    if segment = "super" then if module = [] then none else follow? module.dropLast rest
    else if segment = "self" ∨ segment = "crate" then none
    else follow? (module ++ [segment]) rest

/-- The module of the source that `segments` lead to from the current one. -/
def modulePath? (ctx : Context) (segments : List String) : Option (List String) := do
  let module ←
    match segments with
    | "crate" :: rest => follow? [] rest
    | "self" :: rest => follow? ctx.module rest
    | _ => follow? ctx.module segments
  guard (ctx.registry.hasModule module)
  return module

/-- The function that `name` stands for behind the path `segments`. -/
def resolveBehind? (ctx : Context) (segments : List String) (name : String) : Option DeclId := do
  let last ← segments.getLast?
  if last = "Self" ∧ segments.length = 1 then
    ctx.registry.method? (← ctx.scope) name
  else if last.toList.head?.any isUpper then
    ctx.registry.methodIn? (← ctx.modulePath? segments.dropLast) last name
  else
    ctx.registry.freeFunction? (← ctx.modulePath? segments) name

/-- The function that a path expression stands for. -/
def resolve? (ctx : Context) (pathExpr : SyntaxTree) : Option DeclId := do
  let path ← pathExpr.child? .path
  let segment ← path.child? .pathSegment
  let name := (← segment.child? .nameRef).firstToken
  match path.child? .path with
  | none => ctx.registry.freeFunction? ctx.module name
  | some qualifier => ctx.resolveBehind? (← segments? qualifier) name

/-- The function that is called, if its name is called directly. -/
def callee? (ctx : Context) (call : SyntaxTree) : Option DeclId := do
  let callee ← call.exprs.head?
  guard (callee.isNode .pathExpr)
  ctx.resolve? callee

/-- The method that is called, if it is called on `self`. The type of any other receiver is not known. -/
def method? (ctx : Context) (call : SyntaxTree) : Option DeclId := do
  let receiver ← call.exprs.head?
  guard (receiver.text = "self")
  let name := (← call.child? .nameRef).firstToken
  ctx.registry.method? (← ctx.scope) name

/-- Whether declaration `id` carries the async marker. -/
def isAsync (ctx : Context) (id : DeclId) : Bool :=
  (ctx.registry.entries[id]?).any (·.isAsync)

end Context

end AsyncLint
