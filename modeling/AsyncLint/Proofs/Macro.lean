import AsyncLint.Proofs.Correspondence

/-!
# Awaits in macro calls

The tokens of a macro call are not parsed. Whether they await something is read off their text, blanks and comments
included: a dot directly before `await` is found at any depth, a dot with a gap behind it is not.
-/

namespace AsyncLint

open Source Text

namespace Source.SyntaxTree

mutual

/-- The tokens at or below a tree, blanks and comments included. -/
def leaves : SyntaxTree → List (TokenKind × String)
  | .token kind text => [(kind, text)]
  | .node _ children => leavesOf children

/-- The tokens at or below trees that stand side by side. -/
def leavesOf : List SyntaxTree → List (TokenKind × String)
  | [] => []
  | t :: ts => t.leaves ++ leavesOf ts

end

mutual

theorem toList_text_eq_leaves : (t : SyntaxTree) → t.text.toList = t.leaves.flatMap (·.2.toList)
  | .token kind text => by simp [SyntaxTree.text, leaves]
  | .node kind children => by rw [SyntaxTree.text, leaves, toList_textOf_eq_leavesOf children]

theorem toList_textOf_eq_leavesOf : (ts : List SyntaxTree) →
    (textOf ts).toList = (leavesOf ts).flatMap (·.2.toList)
  | [] => rfl
  | t :: ts => by
      rw [textOf, leavesOf, String.toList_append, List.flatMap_append, toList_text_eq_leaves t,
        toList_textOf_eq_leavesOf ts]

end

/-- Among the tokens of the tree are a dot and the keyword, and between them stands `gap`. -/
def AwaitsAcross (gap : List (TokenKind × String)) (t : SyntaxTree) : Prop :=
  (TokenKind.punct, ".") :: gap ++ [(TokenKind.keyword, "await")] <:+: t.leaves

instance (gap : List (TokenKind × String)) (t : SyntaxTree) : Decidable (t.AwaitsAcross gap) :=
  inferInstanceAs (Decidable (_ <:+: _))

theorem AwaitsAcross.text {t : SyntaxTree} (h : t.AwaitsAcross []) : ".await".toList <:+: t.text.toList := by
  obtain ⟨before, after, hleaves⟩ := h
  rw [toList_text_eq_leaves, ← hleaves]
  exact ⟨before.flatMap (·.2.toList), after.flatMap (·.2.toList), by simp⟩

end Source.SyntaxTree

namespace Context

variable {ctx : Context} {m tokens : SyntaxTree}

/-- Lowering makes a call out of the node that takes no arguments and suspends. -/
def Suspends (ctx : Context) (m : SyntaxTree) : Prop :=
  ∀ u, ∃ id v, (lower ctx m).run u = (.call id [], v) ∧ v.callTarget id = .suspension

theorem lower_of_macroCall (hm : m.isNode .macroCall = true) : lower ctx m =
    (if m.isSuspendingMacro ctx.config then Expression.mkSuspend else pure .inert) := by
  rw [lower_eq, form_of_macroCall ctx hm, macroForm_eq]
  split <;> rfl

theorem suspends_iff (hm : m.isNode .macroCall = true) : ctx.Suspends m ↔ m.isSuspendingMacro ctx.config = true := by
  unfold Suspends
  rw [lower_of_macroCall hm]
  constructor
  · intro h
    obtain ⟨id, v, hrun, _⟩ := h { name := "" }
    by_contra hs
    rw [if_neg hs] at hrun
    cases hrun
  · intro hs u
    rw [if_pos hs]
    exact ⟨u.callTargets.size, _, rfl, by simp [CompileUnit.callTarget]⟩

/-- A macro call suspends by its name or by its text. -/
theorem isSuspendingMacro_iff {config : LoweringConfig} (htokens : m.child? .tokenTree = some tokens) :
    m.isSuspendingMacro config = true ↔ config.isSuspendingMacro (((m.child? .path).map (·.text)).getD "") = true ∨
      ".await".toList <:+: tokens.leaves.flatMap (·.2.toList) := by
  rw [SyntaxTree.isSuspendingMacro, htokens, Bool.or_eq_true, Option.any_some, decide_eq_true_eq,
    SyntaxTree.toList_text_eq_leaves]

end Context

/-- A macro call inside the body of a function becomes a call that suspends if among its tokens, at whatever depth, a
dot stands directly before `await`. In general it does so exactly if its name is known for it or the text of all tokens
together shows `.await`. -/
theorem macro_await_suspends (path source : String) (config : LoweringConfig) (tree : SyntaxTree)
    (htree : parse? source = some tree) (id : DeclId) (e : FnEntry) (body : SyntaxTree)
    (he : (Registry.of source tree config).entries[id]? = some e) (hb : e.body = some body) (ctx : Context)
    (hctx : ctx = e.context (Registry.of source tree config) config) (m tokens : SyntaxTree) (hm : body.Holds m)
    (hk : m.isNode .macroCall = true) (htokens : m.child? .tokenTree = some tokens) :
    (tokens.AwaitsAcross [] → ctx.Suspends m) ∧
    (ctx.Suspends m → ∃ u d lowered call arguments, unitOfSource? path source config = some u ∧
      u.declaration? id = some d ∧ d.body = some lowered ∧ .call call arguments ∈ lowered.preorder ∧
      u.callTarget call = .suspension) ∧
    (ctx.Suspends m ↔ config.isSuspendingMacro (((m.child? .path).map (·.text)).getD "") = true ∨
      ".await".toList <:+: tokens.leaves.flatMap (·.2.toList)) := by
  subst hctx
  have hiff : (e.context (Registry.of source tree config) config).Suspends m ↔ _ :=
    (Context.suspends_iff hk).trans (Context.isSuspendingMacro_iff htokens)
  refine ⟨fun hawaits => hiff.mpr (Or.inr ?_), fun hsuspends => ?_, hiff⟩
  · rw [← SyntaxTree.toList_text_eq_leaves]
    exact hawaits.text
  · obtain ⟨lowered, hd, hbecomes⟩ := declaration?_unitOfTree path he
    unfold FnEntry.Becomes at hbecomes
    rw [hb] at hbecomes
    cases hbecomes with
    | some hresolves =>
        have htarget : ((e.context (Registry.of source tree config) config).form m).head.target? = some .suspension := by
          rw [Context.form_of_macroCall _ hk, Context.macroForm_eq, if_pos ((Context.suspends_iff hk).mp hsuspends)]
          rfl
        have hemitted := Context.mem_emitted_of_holds hm (SyntaxTree.isCall_of_isNode hk) htarget
        obtain ⟨call, arguments, hcall, hsuspension⟩ := hresolves.exists_call hemitted
        exact ⟨_, _, _, call, arguments, by rw [unitOfSource?, htree]; rfl, hd, rfl, hcall, hsuspension⟩

/-- A macro call with an await deep among its tokens. -/
def brackets : String :=
  braced "async fn f()" ["log!(a, [x /* b */.await]);"]

theorem macro_await_suspends_brackets : ∃ tree e body m tokens u d lowered call arguments,
    parse? brackets = some tree ∧ (Registry.of brackets tree {}).entries[0]? = some e ∧ e.body = some body ∧
    body.Holds m ∧ m.isNode .macroCall = true ∧ m.child? .tokenTree = some tokens ∧ tokens.AwaitsAcross [] ∧
    (e.context (Registry.of brackets tree {}) {}).Suspends m ∧ unitOfSource? "test.rs" brackets {} = some u ∧
    u.declaration? 0 = some d ∧ d.body = some lowered ∧ .call call arguments ∈ lowered.preorder ∧
    u.callTarget call = .suspension := by
  have hsome : ((parse? brackets).any fun tree => ((Registry.of brackets tree {}).entries[0]?).any fun e =>
      e.body.any fun body => body.operands.head?.any fun t => t.operands.head?.any fun m =>
        m.isNode .macroCall && (m.child? .tokenTree).any fun tokens => decide (tokens.AwaitsAcross [])) = true := by
    decide +kernel
  simp only [Option.any_eq_true, Bool.and_eq_true, decide_eq_true_eq] at hsome
  obtain ⟨tree, htree, e, he, body, hb, t, ht, m, hm, hk, tokens, htokens, hawaits⟩ := hsome
  have hholds : body.Holds m := .operand (List.mem_of_mem_head? ht) (.operand (List.mem_of_mem_head? hm) .here)
  obtain ⟨hfound, hunit, _⟩ :=
    macro_await_suspends "test.rs" brackets {} tree htree 0 e body he hb _ rfl m tokens hholds hk htokens
  obtain ⟨u, d, lowered, call, arguments, hu⟩ := hunit (hfound hawaits)
  exact ⟨tree, e, body, m, tokens, u, d, lowered, call, arguments, htree, he, hb, hholds, hk, htokens, hawaits,
    hfound hawaits, hu⟩

/-- The first function of a source has a macro call in its body that awaits something across `gap`, blanks and comments,
and no call comes of it. -/
def Overlooks (source : String) (gap : List (TokenKind × String)) : Prop :=
  ∃ (tree : SyntaxTree) (e : FnEntry) (body m tokens : SyntaxTree), parse? source = some tree ∧
    (Registry.of source tree {}).entries[0]? = some e ∧ e.body = some body ∧ body.Holds m ∧
    m.isNode .macroCall = true ∧ m.child? .tokenTree = some tokens ∧ (∀ x ∈ gap, x.1.isTrivia = true) ∧
    tokens.AwaitsAcross gap ∧ ¬ (e.context (Registry.of source tree {}) {}).Suspends m ∧
    (unitOfTree "test.rs" source tree {}).callTargets = #[]

theorem overlooks_of_any {source : String} {gap : List (TokenKind × String)} (h : (gap.all (·.1.isTrivia) &&
      (parse? source).any fun tree => ((Registry.of source tree {}).entries[0]?).any fun e =>
        e.body.any fun body => body.operands.head?.any fun t => t.operands.head?.any fun m =>
          m.isNode .macroCall && !m.isSuspendingMacro {} &&
          decide ((unitOfTree "test.rs" source tree {}).callTargets = #[]) &&
          (m.child? .tokenTree).any fun tokens => decide (tokens.AwaitsAcross gap)) = true) : Overlooks source gap := by
  simp only [Option.any_eq_true, Bool.and_eq_true, decide_eq_true_eq, List.all_eq_true, Bool.not_eq_true'] at h
  obtain ⟨hgap, tree, htree, e, he, body, hb, t, ht, m, hm, ⟨⟨hk, hs⟩, hcalls⟩, tokens, htokens, hawaits⟩ := h
  refine ⟨tree, e, body, m, tokens, htree, he, hb,
    .operand (List.mem_of_mem_head? ht) (.operand (List.mem_of_mem_head? hm) .here), hk, htokens, hgap, hawaits,
    fun h => ?_, hcalls⟩
  rw [Context.suspends_iff hk] at h
  exact absurd (hs.symm.trans h) Bool.false_ne_true

/-- An await is overlooked if a blank, a line break or a comment stands behind its dot. -/
theorem overlooks_gaps :
    Overlooks (braced "async fn f(x: X)" ["log!(x. await);"]) [(.whitespace, " ")] ∧
    Overlooks (braced "async fn f(x: X)" ["log!(x.\n  await);"]) [(.whitespace, "\n  ")] ∧
    Overlooks (braced "async fn f(x: X)" ["log!(x./* a */await);"]) [(.comment, "/* a */")] :=
  ⟨overlooks_of_any (by decide +kernel), overlooks_of_any (by decide +kernel), overlooks_of_any (by decide +kernel)⟩

end AsyncLint
