import AsyncLint.Lowering.Body
import AsyncLint.Source.File

/-!
# From sources to units

Every function of a source becomes a declaration, in the order of the text. Then the bodies are lowered, in the same
order.
-/

namespace AsyncLint

open Source

namespace FnEntry

/-- The declaration of a function, still without a body. -/
def declaration (e : FnEntry) (path : String) : Declaration :=
  { name := e.name
    location := { file := path, line := e.line, column := e.column }
    visibility := e.visibility
    overridable := e.owner.isOverridable
    isAsync := e.isAsync
    implicitProtocol := e.implicitProtocol
    enclosingType := e.owner.scope?
    body := none }

/-- What names mean inside a function. -/
def context (e : FnEntry) (registry : Registry) (config : LoweringConfig) : Context :=
  { registry, config, scope := e.owner.scope?, module := e.module }

/-- Lowers the body of a function, if it has one, and stores it with its declaration. -/
def lowerBody (e : FnEntry) (id : DeclId) (registry : Registry) (config : LoweringConfig) : Building Unit :=
  match e.body with
  | none => pure ()
  | some body => do
    let body ← lower (e.context registry config) body
    modify fun u => (u.setBody? id body).getD u

end FnEntry

/-- The unit of a source whose tree is known. -/
def unitOfTree (path source : String) (tree : SyntaxTree) (config : LoweringConfig) : CompileUnit :=
  let registry := Registry.of source tree config
  let declarations := registry.entries.map (·.declaration path)
  let build := registry.entries.zipIdx.forM fun (e, id) => e.lowerBody id registry config
  (build.run { name := path, declarations := declarations.toArray }).2

/-- The unit of a source, if the source parses. -/
def unitOfSource? (path source : String) (config : LoweringConfig) : Option CompileUnit :=
  (parse? source).map fun tree => unitOfTree path source tree config

end AsyncLint
