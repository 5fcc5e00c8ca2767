import AsyncLint.Source.SyntaxTree

/-!
# Conditions beyond the grammar

Some sources follow the grammar and are refused all the same: for instance where a word is only allowed at the start
of a path, or where an attribute or a condition stands in the wrong place.
-/

namespace AsyncLint.Source

/-- Where a node stands, as far as the conditions depend on it. -/
structure Place where
  /-- What the node stands in. -/
  parent : Option NodeKind := none
  /-- Whether a `let` can stand here as a condition. -/
  letAllowed : Bool := false
  /-- Whether the import around has a path before its list. -/
  usePath : Bool := false
  /-- Whether the node belongs to the list of an import behind a path. -/
  belowUsePath : Bool := false

namespace SyntaxTree

/-- Whether the operator of an expression is a conjunction. -/
def isConjunction (t : SyntaxTree) : Bool :=
  t.isNode .binExpr && t.hasToken "&&"

/-- Where the children of `t` stand, if `t` stands at `place`. -/
def placeBelow (t : SyntaxTree) (place : Place) : Place :=
  { parent := t.kind?
    letAllowed :=
      t.isNode .ifExpr || t.isNode .whileExpr || t.isNode .matchGuard ||
        ((t.isNode .parenExpr || t.isConjunction) && place.letAllowed)
    usePath := t.isNode .useTree && (t.child? .path).isSome
    belowUsePath :=
      match t.kind? with
      | some .useTree | some .path => place.belowUsePath
      | some .useTreeList => place.belowUsePath || place.usePath
      | _ => false }

/-- An index names a field by digits alone. -/
def fieldNameOk (t : SyntaxTree) : Bool :=
  (t.child? .nameRef).all fun n =>
    match n.children with
    | [.token .int text] => text.toList.all Char.isDigit
    | _ => true

/-- Whether a visibility names a single identifier without `in`. -/
def visibilityOk (t : SyntaxTree) : Bool :=
  t.hasToken "in" ||
    (t.child? .path).all fun p =>
      (p.child? .path).isSome ||
        ((p.child? .pathSegment).bind (·.child? .nameRef)).all fun n =>
          match n.children with
          | [.token .ident _] => false
          | _ => true

/-- In the implementation of a trait the members have no visibility of their own. An attribute may change the
implementation, so nothing is required then. -/
def implOk (t : SyntaxTree) : Bool :=
  t.types.length < 2 || (t.child? .attr).isSome ||
    (t.child? .assocItemList).all fun items =>
      items.children.all fun item =>
        !((item.isNode .fn || item.isNode .const || item.isNode .typeAlias) && (item.child? .visibility).isSome)

/-- The words `self` and `crate` stand only at the start of a path. -/
def pathOk (t : SyntaxTree) (place : Place) : Bool :=
  (t.child? .pathSegment).all fun segment =>
    let atStart := !segment.hasToken "::" && (t.child? .path).isNone
    (segment.child? .nameRef).all fun n =>
      if n.hasToken "self" then atStart
      else if n.hasToken "crate" then atStart && !place.belowUsePath
      else true

/-- A range that includes its end has one. -/
def rangeOk (t : SyntaxTree) : Bool :=
  !t.hasToken "..=" || ((t.children.dropWhile fun c => !c.isToken "..=").any (·.isExpr))

/-- Number of bounds of a type. -/
def boundCount (t : SyntaxTree) : Nat :=
  ((t.child? .typeBoundList).map fun l => l.children.countP (·.isNode .typeBound)).getD 0

/-- Several bounds after `dyn` need parentheses where a type is part of a larger one. -/
def innerTypeOk (t : SyntaxTree) : Bool :=
  t.types.head?.all fun inner => !(inner.isNode .dynTraitType && inner.hasToken "dyn" && inner.boundCount > 1)

/-- A type given by bounds has a bound that is a trait. -/
def traitTypeOk (t : SyntaxTree) : Bool :=
  (t.child? .typeBoundList).all fun l => l.children.any fun b => b.isNode .typeBound && b.types ≠ []

/-- Inner attributes stand only in the blocks of functions and statements. -/
def blockOk (t : SyntaxTree) (place : Place) : Bool :=
  match place.parent with
  | some .fn | some .exprStmt | some .stmtList => true
  | _ => (t.child? .stmtList).all fun l => !(l.children.any fun c => c.isNode .attr && c.hasToken "!")

/-- Whether the node itself meets its conditions. -/
def nodeOk (t : SyntaxTree) (place : Place) : Bool :=
  match t.kind? with
  | some .const => !t.hasToken "mut"
  | some .blockExpr => t.blockOk place
  | some .fieldExpr | some .recordExprField => t.fieldNameOk
  | some .visibility => t.visibilityOk
  | some .impl => t.implOk
  | some .rangeExpr => t.rangeOk
  | some .path => t.pathOk place
  | some .refType | some .ptrType => t.innerTypeOk
  | some .fnPtrType => (t.child? .retType).all (·.innerTypeOk)
  | some .macroRules => (t.child? .visibility).isNone
  | some .letExpr => place.letAllowed
  | some .dynTraitType | some .implTraitType => t.traitTypeOk
  | _ => true

mutual

/-- Whether a tree meets the conditions beyond the grammar. -/
def isValid (place : Place) : SyntaxTree → Bool
  | .token _ _ => true
  | .node kind children =>
    nodeOk (.node kind children) place && areValid (placeBelow (.node kind children) place) children

/-- Whether trees that stand side by side meet the conditions. -/
def areValid (place : Place) : List SyntaxTree → Bool
  | [] => true
  | t :: ts => t.isValid place && areValid place ts

end

end SyntaxTree

end AsyncLint.Source
