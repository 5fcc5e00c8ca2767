import AsyncLint.Lowering.Resolution
import AsyncLint.Unit.Build

/-!
# What expressions mean

The form of an expression node says what kind of expression of the model it becomes and which nodes below it become
the parts of that expression, in order. Nodes that are neither expressions nor macro calls count only by the
expressions and macro calls nearest below them; items inside a body do not count at all.
-/

namespace AsyncLint

open Source Text

namespace Source.SyntaxTree

theorem sizeOf_lt_of_mem_children {c t : SyntaxTree} (h : c ∈ t.children) : sizeOf c < sizeOf t := by
  cases t with
  | token kind text => simp [children] at h
  | node kind cs =>
    have := List.sizeOf_lt_of_mem (show c ∈ cs from h)
    simp only [node.sizeOf_spec]
    omega

mutual

/-- The nearest expressions and macro calls at or below a tree. -/
def nearest : SyntaxTree → List SyntaxTree
  | .token _ _ => []
  | .node kind children =>
    if kind = .macroCall then [.node kind children]
    else if kind.isItem then []
    else if kind.isExpr then [.node kind children]
    else nearestOf children

/-- The nearest expressions and macro calls at or below trees that stand side by side. -/
def nearestOf : List SyntaxTree → List SyntaxTree
  | [] => []
  | t :: ts => t.nearest ++ nearestOf ts

end

mutual

theorem sizeOf_le_of_mem_nearest {c : SyntaxTree} : (t : SyntaxTree) → c ∈ t.nearest → sizeOf c ≤ sizeOf t
  | .token _ _, h => by simp [nearest] at h
  | .node kind children, h => by
    simp only [nearest] at h
    split at h
    · simp_all
    · split at h
      · simp at h
      · split at h
        · simp_all
        · have := sizeOf_lt_of_mem_nearestOf children h
          simp only [node.sizeOf_spec]
          omega

theorem sizeOf_lt_of_mem_nearestOf {c : SyntaxTree} :
    (ts : List SyntaxTree) → c ∈ nearestOf ts → sizeOf c < sizeOf ts
  | [], h => by simp [nearestOf] at h
  | t :: ts, h => by
    simp only [nearestOf, List.mem_append] at h
    simp only [List.cons.sizeOf_spec]
    rcases h with h | h
    · have := sizeOf_le_of_mem_nearest t h; omega
    · have := sizeOf_lt_of_mem_nearestOf ts h; omega

end

/-- The nearest expressions and macro calls below a tree. -/
def nearestBelow (t : SyntaxTree) : List SyntaxTree :=
  nearestOf t.children

theorem sizeOf_lt_of_mem_nearestBelow {c t : SyntaxTree} (h : c ∈ t.nearestBelow) : sizeOf c < sizeOf t := by
  cases t with
  | token kind text => simp [nearestBelow, children, nearestOf] at h
  | node kind cs =>
    have := sizeOf_lt_of_mem_nearestOf cs h
    simp only [node.sizeOf_spec]
    omega

/-- The arguments of a call in parentheses. -/
def callArguments (t : SyntaxTree) : List SyntaxTree :=
  (t.child? .argList).elim [] (·.exprs)

end Source.SyntaxTree

/-- What an expression is, apart from its parts. -/
inductive Head where
  | call (target : CallTarget)
  /-- A closure; its part is its body. -/
  | closure
  /-- A block that runs later; its parts are its contents. -/
  | deferred
  | block
  /-- Its parts are the condition and the branches. -/
  | conditional
  /-- Its last part is the body. -/
  | loop
  | reference (target : DeclId)
  | inert
deriving DecidableEq

/-- What an expression is, and the nodes that become its parts. -/
structure Form where
  head : Head
  parts : List SyntaxTree := []

namespace Context

/-- What a call of something resolves to, if the result is not awaited. -/
def plainTarget (callee : Option DeclId) : CallTarget :=
  match callee with
  | some id => .syncDecl id
  | none => .unknown

/-- The parts of a call: what is called, unless it is a plain path, and the arguments. -/
def callParts (call : SyntaxTree) : List SyntaxTree :=
  (call.exprs.head?.filter fun callee => !callee.isNode .pathExpr).toList ++ call.callArguments

/-- The parts of a method call: the receiver and the arguments. -/
def methodParts (call : SyntaxTree) : List SyntaxTree :=
  call.exprs.head?.toList ++ call.callArguments

/-- An await. If it awaits a call of an async function of the source, both are one call. -/
def awaitForm (ctx : Context) (t : SyntaxTree) : Form :=
  match t.exprs.head? with
  | none => { head := .call .suspension }
  | some operand =>
    let callee :=
      if operand.isNode .callExpr then ctx.callee? operand
      else if operand.isNode .methodCallExpr then ctx.method? operand
      else none
    match callee.filter ctx.isAsync with
    | some id =>
      { head := .call (.asyncDecl id)
        parts := if operand.isNode .callExpr then callParts operand else methodParts operand }
    | none => { head := .call .suspension, parts := [operand] }

/-- A macro call. It suspends if its name is known for it or its tokens show an await. -/
def macroForm (ctx : Context) (t : SyntaxTree) : Form :=
  let awaits := (t.child? .tokenTree).any fun tokens => hasPart ".await".toList tokens.text.toList
  let path := ((t.child? .path).map (·.text)).getD ""
  if awaits || ctx.config.isSuspendingMacro path then { head := .call .suspension } else { head := .inert }

/-- The condition before a block, which can be a block itself. -/
def conditionOf (t : SyntaxTree) : List SyntaxTree :=
  match t.exprs with
  | first :: rest => if first.isNode .blockExpr && rest.isEmpty then [] else [first]
  | [] => []

/-- The body of a loop: the second block if there are two. -/
def loopBody (t : SyntaxTree) : List SyntaxTree :=
  match t.exprs.filter (·.isNode .blockExpr) with
  | _ :: body :: _ => [body]
  | [body] => [body]
  | [] => []

/-- The form of an expression or macro call. -/
def form (ctx : Context) (t : SyntaxTree) : Form :=
  match t.kind? with
  | some .awaitExpr => ctx.awaitForm t
  | some .callExpr => { head := .call (plainTarget (ctx.callee? t)), parts := callParts t }
  | some .methodCallExpr => { head := .call (plainTarget (ctx.method? t)), parts := methodParts t }
  | some .closureExpr => { head := .closure, parts := t.exprs.head?.toList }
  | some .blockExpr => { head := if t.hasToken "async" then .deferred else .block, parts := t.nearestBelow }
  | some .ifExpr => { head := .conditional, parts := t.exprs.take 3 }
  | some .loopExpr => { head := .loop, parts := loopBody t }
  | some .whileExpr | some .forExpr => { head := .loop, parts := conditionOf t ++ loopBody t }
  | some .pathExpr =>
    match ctx.resolve? t with
    | some id => { head := .reference id }
    | none => { head := .inert }
  | some .macroExpr => (t.child? .macroCall).elim { head := .inert } ctx.macroForm
  | some .macroCall => ctx.macroForm t
  | some .literal => { head := .inert }
  | _ => if t.nearestBelow.isEmpty then { head := .inert } else { head := .block, parts := t.nearestBelow }

end Context

end AsyncLint
