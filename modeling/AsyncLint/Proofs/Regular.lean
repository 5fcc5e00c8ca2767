import Mathlib.Data.List.ReduceOption
import AsyncLint.Source.File

/-!
# Regular trees

Nodes of some kinds have children of certain kinds only, in a certain order. In a regular tree all nodes do. A shape
that is regular stays so when it is filled with the tokens of a source.
-/

namespace AsyncLint.Source

namespace NodeKind

/-- Whether nodes of this kind are patterns. -/
def isPattern : NodeKind → Bool
  | .orPat | .rangePat | .restPat | .identPat | .boxPat | .constBlockPat | .pathPat | .tupleStructPat | .recordPat
  | .macroPat | .literalPat | .wildcardPat | .refPat | .tuplePat | .parenPat | .slicePat => true
  | _ => false

/-- Whether nodes of this kind can have a label. -/
def isLoop : NodeKind → Bool
  | .loopExpr | .whileExpr | .forExpr => true
  | _ => false

/-- Whether nothing is demanded of the children of nodes of this kind. -/
def isFree : NodeKind → Bool
  | .literal | .lifetime | .nameRef | .label | .pathExpr | .macroExpr | .argList | .awaitExpr | .callExpr
  | .methodCallExpr | .closureExpr | .ifExpr | .loopExpr | .whileExpr | .forExpr => false
  | _ => true

/-- A node can have child nodes of the kinds given, in this order. -/
inductive Admits : NodeKind → List NodeKind → Prop where
  | free {k : NodeKind} {ks : List NodeKind} (h : k.isFree = true) : Admits k ks
  | attr {k : NodeKind} {ks : List NodeKind} (hk : k.isExpr = true) (h : Admits k ks) : Admits k (.attr :: ks)
  | literal : Admits .literal []
  | lifetime : Admits .lifetime []
  | nameRef : Admits .nameRef []
  | label : Admits .label [.lifetime]
  | pathExpr : Admits .pathExpr [.path]
  | macroExpr : Admits .macroExpr [.macroCall]
  | argList {ks : List NodeKind} (h : ∀ k ∈ ks, k.isExpr = true) : Admits .argList ks
  | await {e : NodeKind} (h : e.isExpr = true) : Admits .awaitExpr [e]
  | call {e : NodeKind} (h : e.isExpr = true) : Admits .callExpr [e, .argList]
  | methodCall {e : NodeKind} (h : e.isExpr = true) : Admits .methodCallExpr [e, .nameRef, .argList]
  | genericCall {e : NodeKind} (h : e.isExpr = true) :
      Admits .methodCallExpr [e, .nameRef, .genericArgList, .argList]
  | binder {ks : List NodeKind} (h : Admits .closureExpr ks) : Admits .closureExpr (.closureBinder :: ks)
  | closure {e : NodeKind} (h : e.isExpr = true) : Admits .closureExpr [.paramList, e]
  | typedClosure {e : NodeKind} (h : e.isExpr = true) : Admits .closureExpr [.paramList, .retType, e]
  | ifThen {c : NodeKind} (h : c.isExpr = true) : Admits .ifExpr [c, .blockExpr]
  | ifElse {c : NodeKind} (h : c.isExpr = true) : Admits .ifExpr [c, .blockExpr, .blockExpr]
  | ifElseIf {c : NodeKind} (h : c.isExpr = true) : Admits .ifExpr [c, .blockExpr, .ifExpr]
  | labelled {k : NodeKind} {ks : List NodeKind} (hk : k.isLoop = true) (h : Admits k ks) : Admits k (.label :: ks)
  | loop : Admits .loopExpr [.blockExpr]
  | whileLoop {c : NodeKind} (h : c.isExpr = true) : Admits .whileExpr [c, .blockExpr]
  | forLoop {p c : NodeKind} (hp : p.isPattern = true) (h : c.isExpr = true) : Admits .forExpr [p, c, .blockExpr]

attribute [simp] Admits.free Admits.literal Admits.lifetime Admits.nameRef Admits.label Admits.pathExpr
  Admits.macroExpr Admits.argList Admits.await Admits.call Admits.methodCall Admits.genericCall Admits.binder
  Admits.closure Admits.typedClosure Admits.ifThen Admits.ifElse Admits.ifElseIf Admits.labelled Admits.loop
  Admits.whileLoop Admits.forLoop

section

variable {c : Prop} [Decidable c] {k k' : NodeKind}

@[simp]
theorem isExpr_ite (h : k.isExpr = true) (h' : k'.isExpr = true) : (if c then k else k').isExpr = true := by
  split <;> assumption

@[simp]
theorem isPattern_ite (h : k.isPattern = true) (h' : k'.isPattern = true) :
    (if c then k else k').isPattern = true := by
  split <;> assumption

@[simp]
theorem isFree_ite (h : k.isFree = true) (h' : k'.isFree = true) : (if c then k else k').isFree = true := by
  split <;> assumption

@[simp]
theorem ite_ne_name (h : k ≠ .name) (h' : k' ≠ .name) : (if c then k else k') ≠ .name := by
  split <;> assumption

end

end NodeKind

/-- A tree in which every node has children of kinds that it can have. -/
inductive SyntaxTree.Regular : SyntaxTree → Prop where
  | token (kind : TokenKind) (text : String) : Regular (.token kind text)
  | node {kind : NodeKind} {children : List SyntaxTree}
      (admits : kind.Admits (children.filterMap SyntaxTree.kind?)) (below : ∀ c ∈ children, c.Regular) :
      Regular (.node kind children)

namespace Shape

/-- The kind of a node. -/
def kind? : Shape → Option NodeKind
  | .node kind _ => some kind
  | .tokens _ | .part _ _ => none

/-- A shape in which every node has children of kinds that it can have. -/
inductive Regular : Shape → Prop where
  | tokens (count : Nat) : Regular (.tokens count)
  | part (kind : TokenKind) (length : Nat) : Regular (.part kind length)
  | node {kind : NodeKind} {children : List Shape} (admits : kind.Admits (children.filterMap kind?))
      (below : ∀ c ∈ children, c.Regular) : Regular (.node kind children)

end Shape

/-! ## Filling a shape -/

theorem SyntaxTree.regular_of_kind?_eq_none {t : SyntaxTree} (h : t.kind? = none) : t.Regular := by
  cases t with
  | token kind text => exact .token kind text
  | node kind children => cases h

theorem regular_of_kinds_eq_nil {ts : List SyntaxTree} (h : ts.filterMap SyntaxTree.kind? = []) :
    ∀ t ∈ ts, t.Regular :=
  fun t ht => SyntaxTree.regular_of_kind?_eq_none (List.filterMap_eq_nil_iff.mp h t ht)

theorem kinds_tokens (ts : List Token) : (ts.map (·.tree)).filterMap SyntaxTree.kind? = [] := by
  rw [List.filterMap_map, List.filterMap_eq_nil_iff]
  exact fun _ _ => rfl

theorem kinds_gluedTree (ts : List Token) (count : Nat) : (gluedTree ts count).filterMap SyntaxTree.kind? = [] := by
  unfold gluedTree
  split <;> rfl

theorem kinds_cutToken (kind : TokenKind) (length : Nat) (ts : List Token) :
    (cutToken kind length ts).1.filterMap SyntaxTree.kind? = [] := by
  cases ts <;> rfl

namespace Shape

theorem kinds_fill (s : Shape) (input : List Token) :
    (s.fill input).1.filterMap SyntaxTree.kind? = s.kind?.toList := by
  cases s with
  | tokens count => simp only [fill, List.filterMap_append, kinds_tokens, kinds_gluedTree]; rfl
  | part kind length => simp only [fill, List.filterMap_append, kinds_tokens, kinds_cutToken]; rfl
  | node kind children => simp only [fill, List.filterMap_append, kinds_tokens]; rfl

theorem kinds_fillAll (ss : List Shape) (input : List Token) :
    (fillAll ss input).1.filterMap SyntaxTree.kind? = ss.filterMap kind? := by
  induction ss generalizing input with
  | nil => simp [fillAll]
  | cons s ss ih =>
      simp only [fillAll, List.filterMap_append, kinds_fill, ih]
      cases h : s.kind? <;> simp [h]

theorem fillAll_regular {ss : List Shape} (h : ∀ s ∈ ss, ∀ input, ∀ t ∈ (s.fill input).1, t.Regular)
    (input : List Token) : ∀ t ∈ (fillAll ss input).1, t.Regular := by
  induction ss generalizing input with
  | nil => simp [fillAll]
  | cons s ss ih =>
      intro t ht
      simp only [fillAll, List.mem_append] at ht
      rcases ht with ht | ht
      · exact h s List.mem_cons_self input t ht
      · exact ih (fun s hs => h s (List.mem_cons_of_mem _ hs)) _ t ht

theorem Regular.fill {s : Shape} (h : s.Regular) (input : List Token) : ∀ t ∈ (s.fill input).1, t.Regular := by
  induction h generalizing input with
  | tokens count => exact regular_of_kinds_eq_nil (kinds_fill (.tokens count) input)
  | part kind length => exact regular_of_kinds_eq_nil (kinds_fill (.part kind length) input)
  | @node kind children admits _ ih =>
      intro t ht
      simp only [Shape.fill, List.mem_append, List.mem_singleton] at ht
      rcases ht with ht | rfl
      · exact regular_of_kinds_eq_nil (kinds_tokens _) t ht
      · refine .node ?_ fun c hc => ?_
        · rw [List.filterMap_append, kinds_tokens, kinds_fillAll]
          exact admits
        · rcases List.mem_append.mp hc with hc | hc
          · exact regular_of_kinds_eq_nil (kinds_tokens _) c hc
          · exact fillAll_regular ih _ c hc

end Shape

theorem fillFile_regular {ss : List Shape} (h : ∀ s ∈ ss, s.Regular) (tokens : List Token) :
    (fillFile ss tokens).Regular := by
  refine .node (.free rfl) fun c hc => ?_
  rcases List.mem_append.mp hc with hc | hc
  · exact Shape.fillAll_regular (fun s hs => (h s hs).fill) tokens c hc
  · exact regular_of_kinds_eq_nil (kinds_tokens _) c hc

end AsyncLint.Source
