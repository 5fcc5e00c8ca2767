import AsyncLint.Lowering.Form

/-!
# From bodies to expressions

The parts of an expression are built first, in order; then the expression itself takes the next free number.
-/

namespace AsyncLint

open Source

namespace Source.SyntaxTree

theorem mem_children_of_mem_exprs {c t : SyntaxTree} (h : c ∈ t.exprs) : c ∈ t.children :=
  (List.mem_filter.1 h).1

theorem mem_children_of_child? {c t : SyntaxTree} {k : NodeKind} (h : t.child? k = some c) : c ∈ t.children :=
  List.mem_of_find?_eq_some h

theorem sizeOf_lt_of_mem_exprs {c t : SyntaxTree} (h : c ∈ t.exprs) : sizeOf c < sizeOf t :=
  sizeOf_lt_of_mem_children (mem_children_of_mem_exprs h)

theorem sizeOf_lt_of_mem_head? {c t : SyntaxTree} (h : t.exprs.head? = some c) : sizeOf c < sizeOf t :=
  sizeOf_lt_of_mem_exprs (List.mem_of_mem_head? h)

theorem sizeOf_lt_of_mem_callArguments {c t : SyntaxTree} (h : c ∈ t.callArguments) : sizeOf c < sizeOf t := by
  unfold callArguments at h
  cases ha : t.child? .argList with
  | none => simp [ha] at h
  | some list =>
    rw [ha] at h
    have h1 := sizeOf_lt_of_mem_exprs (show c ∈ list.exprs from h)
    have h2 := sizeOf_lt_of_mem_children (mem_children_of_child? ha)
    omega

end Source.SyntaxTree

namespace Context

theorem sizeOf_lt_of_mem_callParts {c t : SyntaxTree} (h : c ∈ callParts t) : sizeOf c < sizeOf t := by
  simp only [callParts, List.mem_append, Option.mem_toList, Option.filter_eq_some_iff] at h
  rcases h with h | h
  · exact SyntaxTree.sizeOf_lt_of_mem_head? h.1
  · exact SyntaxTree.sizeOf_lt_of_mem_callArguments h

theorem sizeOf_lt_of_mem_methodParts {c t : SyntaxTree} (h : c ∈ methodParts t) : sizeOf c < sizeOf t := by
  simp only [methodParts, List.mem_append, Option.mem_toList] at h
  rcases h with h | h
  · exact SyntaxTree.sizeOf_lt_of_mem_head? h
  · exact SyntaxTree.sizeOf_lt_of_mem_callArguments h

theorem sizeOf_lt_of_mem_awaitForm {ctx : Context} {c t : SyntaxTree} (h : c ∈ (ctx.awaitForm t).parts) :
    sizeOf c < sizeOf t := by
  unfold awaitForm at h
  cases ho : t.exprs.head? with
  | none => simp [ho] at h
  | some operand =>
    have hs := SyntaxTree.sizeOf_lt_of_mem_head? ho
    rw [ho] at h
    simp only at h
    split at h
    · split at h
      · have := sizeOf_lt_of_mem_callParts h; omega
      · have := sizeOf_lt_of_mem_methodParts h; omega
    · obtain rfl : c = operand := by simpa using h
      exact hs

theorem macroForm_parts (ctx : Context) (t : SyntaxTree) : (ctx.macroForm t).parts = [] := by
  simp only [macroForm]
  split <;> rfl

theorem mem_exprs_of_mem_conditionOf {c t : SyntaxTree} (h : c ∈ conditionOf t) : c ∈ t.exprs := by
  unfold conditionOf at h
  split at h
  · rename_i first rest he
    split at h
    · simp at h
    · obtain rfl : c = first := by simpa using h
      simp [he]
  · simp at h

theorem mem_exprs_of_mem_loopBody {c t : SyntaxTree} (h : c ∈ loopBody t) : c ∈ t.exprs := by
  have key : ∀ {bs : List SyntaxTree}, t.exprs.filter (·.isNode .blockExpr) = bs → c ∈ bs → c ∈ t.exprs := by
    intro bs hb hc
    exact (List.mem_filter.1 (hb ▸ hc)).1
  unfold loopBody at h
  split at h
  · rename_i first body rest he
    exact key he (by simp_all)
  · rename_i body he
    exact key he (by simp_all)
  · simp at h

/-- The parts of a form lie strictly below the node. -/
theorem sizeOf_lt_of_mem_form {ctx : Context} {c t : SyntaxTree} (h : c ∈ (ctx.form t).parts) :
    sizeOf c < sizeOf t := by
  unfold form at h
  split at h
  · exact sizeOf_lt_of_mem_awaitForm h
  · exact sizeOf_lt_of_mem_callParts h
  · exact sizeOf_lt_of_mem_methodParts h
  · exact SyntaxTree.sizeOf_lt_of_mem_head? (by simpa using h)
  · exact SyntaxTree.sizeOf_lt_of_mem_nearestBelow h
  · exact SyntaxTree.sizeOf_lt_of_mem_exprs (List.mem_of_mem_take h)
  · exact SyntaxTree.sizeOf_lt_of_mem_exprs (mem_exprs_of_mem_loopBody h)
  · rcases List.mem_append.1 h with h | h
    · exact SyntaxTree.sizeOf_lt_of_mem_exprs (mem_exprs_of_mem_conditionOf h)
    · exact SyntaxTree.sizeOf_lt_of_mem_exprs (mem_exprs_of_mem_loopBody h)
  · rcases List.mem_append.1 h with h | h
    · exact SyntaxTree.sizeOf_lt_of_mem_exprs (mem_exprs_of_mem_conditionOf h)
    · exact SyntaxTree.sizeOf_lt_of_mem_exprs (mem_exprs_of_mem_loopBody h)
  · split at h <;> simp at h
  · cases hm : t.child? .macroCall with
    | none => simp [hm] at h
    | some m => simp [hm, macroForm_parts] at h
  · simp [macroForm_parts] at h
  · simp at h
  · split at h
    · simp at h
    · exact SyntaxTree.sizeOf_lt_of_mem_nearestBelow h

end Context

/-- Builds an expression from its parts. -/
def Head.build : Head → List Expression → Building Expression
  | .call target, parts => Expression.mkCall target parts
  | .closure, parts => Expression.mkLambda false (parts.headD .inert)
  | .deferred, parts => Expression.mkLambda false (.block parts)
  | .block, parts => pure (.block parts)
  | .conditional, c :: t :: rest => pure (.conditional c t rest.head?)
  | .conditional, parts => pure (.conditional (parts.headD .inert) .inert none)
  | .loop, parts => pure (.loop parts.dropLast (parts.getLast?.getD .inert))
  | .reference target, _ => Expression.mkReference target false
  | .inert, _ => pure .inert

/-- The expression that a node stands for. -/
def lower (ctx : Context) (t : SyntaxTree) : Building Expression := do
  let parts ← (ctx.form t).parts.attach.mapM fun ⟨part, _⟩ => lower ctx part
  (ctx.form t).head.build parts
termination_by sizeOf t
decreasing_by exact Context.sizeOf_lt_of_mem_form (by assumption)

end AsyncLint
