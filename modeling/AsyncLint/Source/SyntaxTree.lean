import AsyncLint.Source.Token

/-!
# Trees

The tree of a source keeps every token, blanks and comments included, so that the text of the tree is the source.
-/

namespace AsyncLint.Source

/-- What a node of the tree stands for. -/
inductive NodeKind where
  | sourceFile
  -- names and paths
  | name | nameRef | lifetime | path | pathSegment | genericArgList | typeArg | constArg | lifetimeArg | assocTypeArg
  | parenArgList | returnTypeArg | rename
  -- attributes, visibility, token trees
  | attr | attrMeta | visibility | tokenTree | abi
  -- items
  | fn | const | static | struct | union | enum | trait | traitAlias | impl | typeAlias | module | use | externCrate
  | externBlock | macroCall | macroRules | macroDef
  | itemList | externItemList | assocItemList | useTree | useTreeList | recordFieldList | recordField | tupleFieldList
  | tupleField | variantList | variant
  -- generics and parameters
  | genericParamList | lifetimeParam | typeParam | constParam | typeBoundList | typeBound | useBoundList | whereClause
  | wherePred | paramList | param | selfParam | retType
  -- types
  | parenType | tupleType | neverType | ptrType | arrayType | sliceType | refType | inferType | fnPtrType | forType
  | implTraitType | dynTraitType | pathType | macroType
  -- patterns
  | orPat | rangePat | restPat | identPat | boxPat | constBlockPat | pathPat | tupleStructPat | recordPat
  | recordPatFieldList | recordPatField | macroPat | literalPat | wildcardPat | refPat | tuplePat | parenPat | slicePat
  -- statements
  | stmtList | exprStmt | letStmt | letElse
  -- expressions
  | literal | pathExpr | recordExpr | recordExprFieldList | recordExprField | macroExpr | tupleExpr | parenExpr
  | arrayExpr | closureExpr | closureBinder | ifExpr | letExpr | underscoreExpr | loopExpr | whileExpr | forExpr
  | matchExpr | matchArmList | matchArm | matchGuard | blockExpr | returnExpr | becomeExpr | yieldExpr | yeetExpr
  | continueExpr | breakExpr | awaitExpr | callExpr | methodCallExpr | fieldExpr | indexExpr | tryExpr | castExpr
  | refExpr | prefixExpr | binExpr | rangeExpr | argList | label
deriving DecidableEq, Repr

namespace NodeKind

/-- Whether nodes of this kind are expressions. -/
def isExpr : NodeKind → Bool
  | .literal | .pathExpr | .recordExpr | .macroExpr | .tupleExpr | .parenExpr | .arrayExpr | .closureExpr | .ifExpr
  | .letExpr | .underscoreExpr | .loopExpr | .whileExpr | .forExpr | .matchExpr | .blockExpr | .returnExpr
  | .becomeExpr | .yieldExpr | .yeetExpr | .continueExpr | .breakExpr | .awaitExpr | .callExpr | .methodCallExpr
  | .fieldExpr | .indexExpr | .tryExpr | .castExpr | .refExpr | .prefixExpr | .binExpr | .rangeExpr => true
  | _ => false

/-- Whether nodes of this kind are items. -/
def isItem : NodeKind → Bool
  | .fn | .const | .static | .struct | .union | .enum | .trait | .traitAlias | .impl | .typeAlias | .module | .use
  | .externCrate | .externBlock | .macroCall | .macroRules | .macroDef => true
  | _ => false

/-- Whether nodes of this kind are types. -/
def isType : NodeKind → Bool
  | .parenType | .tupleType | .neverType | .ptrType | .arrayType | .sliceType | .refType | .inferType | .fnPtrType
  | .forType | .implTraitType | .dynTraitType | .pathType | .macroType => true
  | _ => false

/-- Whether comments directly before a node of this kind belong to it. -/
def takesComments : NodeKind → Bool
  | .const | .enum | .fn | .impl | .macroCall | .macroDef | .macroRules | .module | .recordField | .static | .struct
  | .trait | .tupleField | .typeAlias | .union | .use | .variant | .externCrate => true
  | _ => false

end NodeKind

/-- A tree over tokens. -/
inductive SyntaxTree where
  | token (kind : TokenKind) (text : String)
  | node (kind : NodeKind) (children : List SyntaxTree)

namespace SyntaxTree

instance : Inhabited SyntaxTree := ⟨.token .unknown ""⟩

mutual

/-- The source text below a tree. -/
def text : SyntaxTree → String
  | .token _ text => text
  | .node _ children => textOf children

/-- The source text below trees that stand side by side. -/
def textOf : List SyntaxTree → String
  | [] => ""
  | t :: ts => t.text ++ textOf ts

end

/-- The kind of a node. -/
def kind? : SyntaxTree → Option NodeKind
  | .token _ _ => none
  | .node k _ => some k

/-- Whether the tree is a node of kind `k`. -/
def isNode (k : NodeKind) (t : SyntaxTree) : Bool :=
  t.kind? == some k

def isExpr (t : SyntaxTree) : Bool :=
  t.kind?.any NodeKind.isExpr

def isItem (t : SyntaxTree) : Bool :=
  t.kind?.any NodeKind.isItem

def isType (t : SyntaxTree) : Bool :=
  t.kind?.any NodeKind.isType

/-- Whether the tree is the token `text` of the grammar. -/
def isToken (text : String) : SyntaxTree → Bool
  | .token k t => !k.isTrivia && t == text
  | .node _ _ => false

def children : SyntaxTree → List SyntaxTree
  | .token _ _ => []
  | .node _ children => children

/-- The first child of kind `k`. -/
def child? (t : SyntaxTree) (k : NodeKind) : Option SyntaxTree :=
  t.children.find? (·.isNode k)

/-- Whether the token `text` is a child. -/
def hasToken (t : SyntaxTree) (text : String) : Bool :=
  t.children.any (·.isToken text)

/-- The children that are expressions. -/
def exprs (t : SyntaxTree) : List SyntaxTree :=
  t.children.filter (·.isExpr)

/-- The children that are types. -/
def types (t : SyntaxTree) : List SyntaxTree :=
  t.children.filter (·.isType)

/-- The text of the first token below a tree. -/
def firstToken : SyntaxTree → String
  | .token _ text => text
  | .node _ (.token _ text :: _) => text
  | .node _ _ => ""

end SyntaxTree

end AsyncLint.Source
