import AsyncLint.Config
import AsyncLint.Source.SyntaxTree
import AsyncLint.Text.Position

/-!
# The functions of a source

Every function of a source, in the order of the text, with the place where it is declared. A function is found by
name only if there is exactly one that fits.
-/

namespace AsyncLint

open Source Text

/-- What a function is declared in. -/
inductive Owner where
  | free
  | inherent (selfType : String)
  | traitImpl (traitName selfType : String)
  | traitDef (name : String)
deriving DecidableEq, Repr

namespace Owner

/-- The name under which methods are found from inside. -/
def scope? : Owner → Option String
  | .free => none
  | .inherent selfType | .traitImpl _ selfType => some selfType
  | .traitDef name => some name

/-- Whether another body may stand in for the function. -/
def isOverridable : Owner → Bool
  | .free | .inherent _ => false
  | .traitImpl _ _ | .traitDef _ => true

end Owner

/-- The name of a type without its generic arguments, the path before it, and references around it. -/
def baseTypeName (text : String) : String :=
  let name := afterLast [':', ':'] (text.toList.takeWhile (· != '<'))
  String.ofList (trim (dropCopies "mut ".toList (dropCopies ['&'] name)))

/-- The visibility that the text of a marker stands for. -/
def visibilityOfText (text : String) : Visibility :=
  let text := String.ofList (squeeze text.toList)
  if text = "pub" then .exported
  else if text = "pub(self)" then .hidden
  else .restricted

/-- Where a node stands: the owner of functions directly in it, and the modules around it, outermost first. -/
structure Surroundings where
  owner : Owner := .free
  module : List String := []

namespace Source.SyntaxTree

/-- The name that a node declares. -/
def name? (t : SyntaxTree) : Option String :=
  (t.child? .name).map (·.firstToken)

/-- The trait and the type of an implementation. -/
def implTypes (t : SyntaxTree) : Option SyntaxTree × Option SyntaxTree :=
  match t.types with
  | traitType :: selfType :: _ => (some traitType, some selfType)
  | [selfType] => (none, some selfType)
  | [] => (none, none)

/-- The owner of the functions directly in an implementation. -/
def implOwner (t : SyntaxTree) : Owner :=
  let selfType := (t.implTypes.2.map fun ty => baseTypeName ty.text).getD ""
  match t.implTypes.1 with
  | some traitType => .traitImpl (baseTypeName traitType.text) selfType
  | none => .inherent selfType

/-- What surrounds the children of `t`. -/
def surroundingsBelow (t : SyntaxTree) (s : Surroundings) : Surroundings :=
  match t.kind? with
  | some .fn => { s with owner := .free }
  | some .impl => { s with owner := t.implOwner }
  | some .trait => { s with owner := .traitDef (t.name?.getD "") }
  | some .module => { s with module := s.module ++ t.name?.toList }
  | _ => s

mutual

/-- Number of bytes of the text below a tree. -/
def byteSize : SyntaxTree → Nat
  | .token _ text => text.utf8ByteSize
  | .node _ children => byteSizeOf children

/-- Number of bytes of the text below trees that stand side by side. -/
def byteSizeOf : List SyntaxTree → Nat
  | [] => 0
  | t :: ts => t.byteSize + byteSizeOf ts

end

/-- The attribute paths of an item, as written. -/
def attributePaths (t : SyntaxTree) : List String :=
  t.children.filterMap fun c =>
    if c.isNode .attr then ((c.child? .attrMeta).bind (·.child? .path)).map (·.text) else none

end Source.SyntaxTree

/-- A function node and where it is. -/
structure FnSite where
  surroundings : Surroundings
  /-- Where the node starts, in bytes. -/
  offset : Nat
  node : SyntaxTree

mutual

/-- All functions below a tree that starts at `offset`. -/
def fnSites (s : Surroundings) (offset : Nat) : SyntaxTree → List FnSite
  | .token _ _ => []
  | .node kind children =>
    let below := fnSitesOf ((SyntaxTree.node kind children).surroundingsBelow s) offset children
    if kind = .fn then { surroundings := s, offset, node := .node kind children } :: below else below

/-- All functions below trees that stand side by side from `offset` on. -/
def fnSitesOf (s : Surroundings) (offset : Nat) : List SyntaxTree → List FnSite
  | [] => []
  | t :: ts => fnSites s offset t ++ fnSitesOf s (offset + t.byteSize) ts

end

mutual

/-- The paths of all modules below a tree. -/
def modulePaths (s : Surroundings) : SyntaxTree → List (List String)
  | .token _ _ => []
  | .node kind children =>
    let inside := (SyntaxTree.node kind children).surroundingsBelow s
    let below := modulePathsOf inside children
    if kind = .module then inside.module :: below else below

/-- The paths of all modules below trees that stand side by side. -/
def modulePathsOf (s : Surroundings) : List SyntaxTree → List (List String)
  | [] => []
  | t :: ts => modulePaths s t ++ modulePathsOf s ts

end

/-- A function of a source. -/
structure FnEntry where
  name : String
  owner : Owner
  /-- The modules around it, outermost first. -/
  module : List String
  isAsync : Bool
  visibility : Visibility
  implicitProtocol : Bool
  /-- Line and column of the name, counted from one. -/
  line : Nat
  column : Nat
  body : Option SyntaxTree

/-- Where the name of a function starts, in bytes. -/
def FnSite.nameOffset (site : FnSite) : Nat :=
  site.offset + SyntaxTree.byteSizeOf (site.node.children.takeWhile fun c => !c.isNode .name)

/-- What is known about a function. -/
def FnSite.describe? (site : FnSite) (source : String) (config : LoweringConfig) : Option FnEntry :=
  site.node.name?.map fun name =>
    let position := positionAt source site.nameOffset
    { name
      owner := site.surroundings.owner
      module := site.surroundings.module
      isAsync := site.node.hasToken "async"
      visibility := ((site.node.child? .visibility).map fun v => visibilityOfText v.text).getD .hidden
      implicitProtocol := site.node.attributePaths.any config.isImplicitProtocolAttribute
      line := position.line + 1
      column := position.column + 1
      body := site.node.child? .blockExpr }

/-- All functions and modules of a source. -/
structure Registry where
  entries : List FnEntry
  modules : List (List String)

namespace Registry

def of (source : String) (tree : SyntaxTree) (config : LoweringConfig) : Registry :=
  { entries := (fnSites {} 0 tree).filterMap (·.describe? source config)
    modules := [] :: modulePaths {} tree }

/-- Whether `path` is the root or a module of the source. -/
def hasModule (r : Registry) (path : List String) : Bool :=
  r.modules.contains path

/-- The number of the only entry that fits, if there is exactly one. -/
def unique? (r : Registry) (fits : FnEntry → Bool) : Option DeclId :=
  match (r.entries.zipIdx.filter fun (e, _) => fits e) with
  | [(_, i)] => some i
  | _ => none

/-- The only free function of a module with this name. -/
def freeFunction? (r : Registry) (module : List String) (name : String) : Option DeclId :=
  r.unique? fun e => e.owner == .free && e.module == module && e.name == name

/-- The only method with this name in the scope of a type or trait. -/
def method? (r : Registry) (scope name : String) : Option DeclId :=
  r.unique? fun e => e.owner.scope? == some scope && e.name == name

/-- The only method with this name in the scope of a type or trait, among those in one module. -/
def methodIn? (r : Registry) (module : List String) (scope name : String) : Option DeclId :=
  r.unique? fun e => e.owner.scope? == some scope && e.module == module && e.name == name

end Registry

end AsyncLint
