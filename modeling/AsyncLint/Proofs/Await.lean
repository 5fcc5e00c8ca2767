import AsyncLint.Proofs.Exemption
import AsyncLint.Proofs.Findings
import AsyncLint.Proofs.Lowering

/-!
# Awaits in reported functions

A reported function awaits nothing but calls of functions that are reported as well, and no macro in it suspends. So
the async markers of all reported functions can be removed together.
-/

namespace AsyncLint

open Source

/-! ## What an expression is made of -/

namespace Source.SyntaxTree

/-- The expressions and macro calls directly in an expression, at whatever depth below other nodes. Items, the tokens
of macros, and what stands in paths and literals do not count. -/
def operands (t : SyntaxTree) : List SyntaxTree :=
  match t.kind? with
  -- the callee or receiver, then the arguments
  | some .callExpr | some .methodCallExpr => t.exprs.head?.toList ++ t.callArguments
  | some .awaitExpr | some .closureExpr => t.exprs.head?.toList
  -- the condition and the branches
  | some .ifExpr => t.exprs.take 3
  | some .loopExpr => Context.loopBody t
  | some .whileExpr | some .forExpr => Context.conditionOf t ++ Context.loopBody t
  | some .macroExpr => (t.child? .macroCall).toList
  | some .macroCall | some .pathExpr | some .literal => []
  -- blocks, matches and everything else
  | _ => t.nearestBelow

/-- Expression `t` is made of expressions down to `n`. -/
inductive Holds : SyntaxTree → SyntaxTree → Prop where
  | here {t : SyntaxTree} : Holds t t
  | operand {t c n : SyntaxTree} (hc : c ∈ t.operands) (h : Holds c n) : Holds t n

def isCall (t : SyntaxTree) : Bool :=
  t.isNode .callExpr || t.isNode .methodCallExpr

theorem isNode_iff {t : SyntaxTree} {k : NodeKind} : t.isNode k = true ↔ t.kind? = some k :=
  beq_iff_eq

theorem isCall_of_isNode {t : SyntaxTree} {k : NodeKind} (h : t.isNode k = true) :
    t.isCall = (k == .callExpr || k == .methodCallExpr) := by
  rw [isCall, isNode, isNode, isNode_iff.mp h]
  rfl

end Source.SyntaxTree

namespace Context

variable {ctx : Context} {t c n : SyntaxTree} {callee : DeclId} {target : CallTarget}

/-- Expression `t` calls the declaration `callee`, by its name or as a method of `self`. -/
def Calls (ctx : Context) (t : SyntaxTree) (callee : DeclId) : Prop :=
  t.isNode .callExpr = true ∧ ctx.callee? t = some callee ∨ t.isNode .methodCallExpr = true ∧ ctx.method? t = some callee

theorem Calls.isCall (h : ctx.Calls t callee) : t.isCall = true := by
  rcases h with ⟨h, _⟩ | ⟨h, _⟩ <;> simp [SyntaxTree.isCall, h]

/-- An await is a suspension, unless it awaits a call of an async function. -/
theorem form_of_await (ctx : Context) (h : t.isNode .awaitExpr = true) :
    ctx.form t = { head := .call .suspension, parts := t.exprs.head?.toList } ∨
    ∃ operand callee, t.exprs.head? = some operand ∧ ctx.Calls operand callee ∧ ctx.isAsync callee = true ∧
      ctx.form t = { head := .call (.asyncDecl callee), parts := (ctx.form operand).parts } := by
  simp only [form, SyntaxTree.isNode_iff.mp h, awaitForm]
  cases ho : t.exprs.head? with
  | none => exact Or.inl rfl
  | some operand =>
      cases hc : operand.isNode .callExpr with
      | true =>
          simp only [hc, if_true]
          cases hf : (ctx.callee? operand).filter ctx.isAsync with
          | none => exact Or.inl rfl
          | some callee =>
              obtain ⟨hr, ha⟩ := Option.filter_eq_some_iff.mp hf
              exact Or.inr ⟨operand, callee, rfl, Or.inl ⟨hc, hr⟩, ha, by simp only [SyntaxTree.isNode_iff.mp hc]⟩
      | false =>
          cases hm : operand.isNode .methodCallExpr with
          | true =>
              simp only [hc, hm, if_true, Bool.false_eq_true, if_false]
              cases hf : (ctx.method? operand).filter ctx.isAsync with
              | none => exact Or.inl rfl
              | some callee =>
                  obtain ⟨hr, ha⟩ := Option.filter_eq_some_iff.mp hf
                  exact Or.inr ⟨operand, callee, rfl, Or.inr ⟨hm, hr⟩, ha, by simp only [SyntaxTree.isNode_iff.mp hm]⟩
          | false =>
              simp only [hc, hm, Bool.false_eq_true, if_false]
              exact Or.inl rfl

theorem form_of_macroCall (ctx : Context) (h : t.isNode .macroCall = true) : ctx.form t = ctx.macroForm t := by
  simp only [form, SyntaxTree.isNode_iff.mp h]

theorem form_of_path (ctx : Context) (h : t.isNode .pathExpr = true) :
    (ctx.form t).head.target? = none ∧ (ctx.form t).parts = [] := by
  simp only [form, SyntaxTree.isNode_iff.mp h]
  split <;> exact ⟨rfl, rfl⟩

/-- Every operand is lowered as a part, except for three: the path of a function that is called by its name, the call
that an await is one with, and the macro call that an expression consists of. -/
theorem operand_cases (ctx : Context) (hc : c ∈ t.operands) :
    c ∈ (ctx.form t).parts ∨ c.isNode .pathExpr = true ∨
      (c.isCall = true ∧ (ctx.form c).parts = (ctx.form t).parts) ∨ (t.isCall = false ∧ ctx.form t = ctx.form c) := by
  unfold SyntaxTree.operands at hc
  split at hc
  · rename_i hk
    simp only [form, hk, callParts, List.mem_append, Option.mem_toList, Option.filter_eq_some_iff] at hc ⊢
    cases hp : c.isNode .pathExpr with
    | true => exact Or.inr (Or.inl rfl)
    | false => exact Or.inl (hc.imp_left fun h => ⟨h, rfl⟩)
  · rename_i hk
    exact Or.inl (by simpa only [form, hk, methodParts] using hc)
  · rename_i hk
    rcases ctx.form_of_await (SyntaxTree.isNode_iff.mpr hk) with h | ⟨operand, callee, ho, hcalls, _, h⟩
    · exact Or.inl (by rwa [h])
    · obtain rfl : c = operand := by simpa [ho] using hc
      exact Or.inr (Or.inr (Or.inl ⟨hcalls.isCall, by rw [h]⟩))
  · rename_i hk
    exact Or.inl (by simpa only [form, hk] using hc)
  · rename_i hk
    exact Or.inl (by simpa only [form, hk] using hc)
  · rename_i hk
    exact Or.inl (by simpa only [form, hk] using hc)
  · rename_i hk
    exact Or.inl (by simpa only [form, hk] using hc)
  · rename_i hk
    exact Or.inl (by simpa only [form, hk] using hc)
  · rename_i hk
    have hm : t.child? .macroCall = some c := by simpa using hc
    refine Or.inr (Or.inr (Or.inr ⟨SyntaxTree.isCall_of_isNode (SyntaxTree.isNode_iff.mpr hk), ?_⟩))
    rw [ctx.form_of_macroCall (List.find?_some hm)]
    simp only [form, hk, hm, Option.elim_some]
  · simp at hc
  · simp at hc
  · simp at hc
  · -- of the kinds with a form of their own only blocks are left, and their form has the same parts
    refine Or.inl ?_
    unfold form
    split <;> simp_all
    rwa [if_neg (List.ne_nil_of_mem hc)]

/-! ## What is lowered -/

theorem mem_emitted_iff : target ∈ ctx.emitted t ↔
    (∃ part ∈ (ctx.form t).parts, target ∈ ctx.emitted part) ∨ (ctx.form t).head.target? = some target := by
  rw [ctx.emitted_eq, List.mem_append, List.mem_flatMap, Option.mem_toList]

/-- Awaits and macro calls inside an expression are among the calls that it is lowered to. -/
theorem mem_emitted_of_holds (h : t.Holds n) (hn : n.isCall = false) (ht : (ctx.form n).head.target? = some target) :
    target ∈ ctx.emitted t := by
  -- a call loses its own entry in an await, so its parts are followed apart from it
  have key : (t.isCall = false ∧ (ctx.form t).head.target? = some target) ∨
      ∃ part ∈ (ctx.form t).parts, target ∈ ctx.emitted part := by
    induction h with
    | here => exact Or.inl ⟨hn, ht⟩
    | @operand t c n hc _ ih =>
        have ih := ih hn ht
        have hmem : target ∈ ctx.emitted c := mem_emitted_iff.mpr (ih.symm.imp_right And.right)
        rcases ctx.operand_cases hc with hp | hp | ⟨hcall, hparts⟩ | ⟨hcall, hform⟩
        · exact Or.inr ⟨c, hp, hmem⟩
        · obtain ⟨hhead, hparts⟩ := ctx.form_of_path hp
          rcases ih with ⟨_, h⟩ | ⟨part, h, _⟩
          · rw [hhead] at h; cases h
          · rw [hparts] at h; cases h
        · rcases ih with ⟨h, _⟩ | h
          · rw [hcall] at h; cases h
          · exact Or.inr (hparts ▸ h)
        · rw [hform]
          exact ih.imp_left fun h => ⟨hcall, h.2⟩
  exact mem_emitted_iff.mpr (key.symm.imp_right And.right)

/-- What an expression can be as far as it names declarations. -/
theorem head_cases (ctx : Context) (t : SyntaxTree) :
    (∃ callee, (ctx.form t).head = .call (.asyncDecl callee) ∧ ctx.isAsync callee = true) ∨
    (ctx.form t).head = .call .suspension ∨
    (∃ callee, (callee = ctx.callee? t ∨ callee = ctx.method? t) ∧ (ctx.form t).head = .call (plainTarget callee)) ∨
    (∃ target, ctx.resolve? t = some target ∧ (ctx.form t).head = .reference target) ∨
    (ctx.form t).head ∈ [.closure, .deferred, .block, .conditional, .loop, .inert] := by
  have hmac : ∀ m, (ctx.macroForm m).head = .call .suspension ∨
      (ctx.macroForm m).head ∈ [.closure, .deferred, .block, .conditional, .loop, .inert] := fun m =>
    (ctx.macroForm_head m).imp_right fun h => by simp [h]
  by_cases hawait : t.isNode .awaitExpr = true
  · rcases ctx.form_of_await hawait with hf | ⟨_, callee, _, _, ha, hf⟩
    · exact Or.inr (Or.inl (by rw [hf]))
    · exact Or.inl ⟨callee, by rw [hf], ha⟩
  · refine Or.inr ?_
    unfold form
    split
    · rename_i hk
      exact absurd (SyntaxTree.isNode_iff.mpr hk) hawait
    · exact Or.inr (Or.inl ⟨_, Or.inl rfl, rfl⟩)
    · exact Or.inr (Or.inl ⟨_, Or.inr rfl, rfl⟩)
    · simp
    · cases t.hasToken "async" <;> simp
    · simp
    · simp
    · simp
    · simp
    · split
      · rename_i target htarget
        exact Or.inr (Or.inr (Or.inl ⟨target, htarget, rfl⟩))
      · simp
    · cases t.child? .macroCall with
      | none => simp
      | some m => exact (hmac m).imp_right fun h => Or.inr (Or.inr h)
    · exact (hmac t).imp_right fun h => Or.inr (Or.inr h)
    · simp
    · split <;> simp

theorem isAsync_of_head (h : (ctx.form t).head.target? = some (.asyncDecl callee)) : ctx.isAsync callee = true := by
  rcases ctx.head_cases t with ⟨callee', hh, ha⟩ | hh | ⟨o, _, hh⟩ | ⟨target, _, hh⟩ | hh
  · rw [hh] at h; cases h; exact ha
  · rw [hh] at h; cases h
  · rw [hh] at h; cases o <;> cases h
  · rw [hh] at h; cases h
  · simp only [List.mem_cons, List.not_mem_nil, or_false] at hh
    rcases hh with hh | hh | hh | hh | hh | hh <;> rw [hh] at h <;> cases h

theorem isAsync_of_mem_emitted (h : .asyncDecl callee ∈ ctx.emitted t) : ctx.isAsync callee = true := by
  induction t using ctx.induction_on_parts with
  | step t ih =>
      rcases mem_emitted_iff.mp h with ⟨part, hp, he⟩ | hh
      · exact ih part hp he
      · exact isAsync_of_head hh

end Context

/-! ## Calls of declarations that never suspend -/

/-- All calls in the body of a declaration that is not exempt and never suspends lead to such declarations. -/
theorem staysIn_of_not_suspends {u : CompileUnit} {id : DeclId} {d : Declaration} {body : Expression}
    {ts : List CallTarget} {t : CallTarget} (he : (Guard.of u).isExempt id = false)
    (hq : ¬ u.Suspends (Guard.of u) id) (hd : u.declaration? id = some d) (hb : d.body = some body)
    (hr : u.Resolves body.callIds ts) (ht : t ∈ ts) :
    t.StaysIn (Guard.of u) (fun callee => ¬ u.Suspends (Guard.of u) callee) := by
  obtain ⟨call, arguments, hmem, htarget⟩ := hr.exists_call ht
  have hvisible : (Expression.call call arguments).isSuspendingCall u = true → t ∈ u.targets id := by
    intro hc
    have hv := visible_of_isSuspendingCall he hd hb hmem hc
    exact CompileUnit.mem_targets_iff.mpr ⟨call, ⟨body, arguments, (CompileUnit.body?_eq hd).trans hb, hv⟩, htarget⟩
  by_contra h
  refine hq (.of_target (hvisible ?_) h)
  cases t with
  | asyncDecl callee => simp [Expression.isSuspendingCall, htarget]
  | suspension => simp [Expression.isSuspendingCall, htarget]
  | syncDecl _ => exact absurd trivial h
  | unknown => exact absurd trivial h

/-! ## Reported functions -/

section

variable {path source : String} {tree : SyntaxTree} {config : LoweringConfig} {rule : RuleConfig} {id : DeclId}

theorem exists_entry_of_isAsync {ctx : Context} (h : ctx.isAsync id = true) :
    ∃ e, ctx.registry.entries[id]? = some e ∧ e.isAsync = true := by
  simpa [Context.isAsync, Option.any_eq_true] using h

theorem targetsValid_unitOfTree (path source : String) (tree : SyntaxTree) (config : LoweringConfig) :
    (unitOfTree path source tree config).TargetsValid := by
  rw [CompileUnit.targetsValid_iff, (unitOfTree_lowered path source tree config).callTargets, size_unitOfTree]
  intro t ht
  obtain ⟨e, _, he⟩ : ∃ e ∈ (Registry.of source tree config).entries,
      t ∈ e.emitted (Registry.of source tree config) config := by simpa using ht
  cases t with
  | asyncDecl callee =>
      cases hb : e.body with
      | none => simp [FnEntry.emitted, hb] at he
      | some body =>
          have hm : .asyncDecl callee ∈ (e.context (Registry.of source tree config) config).emitted body := by
            simpa [FnEntry.emitted, hb] using he
          obtain ⟨_, hentry, _⟩ := exists_entry_of_isAsync (Context.isAsync_of_mem_emitted hm)
          exact decide_eq_true (List.getElem?_eq_some_iff.mp hentry).1
  | _ => rfl

/-- A reported function has a body, and all calls in it lead to declarations that are neither exempt nor suspend. -/
theorem body_of_reported {u : CompileUnit} (hu : unitOfTree path source tree config = u) (h : id ∈ rule.reported u) :
    ∃ e body, (Registry.of source tree config).entries[id]? = some e ∧ e.body = some body ∧
      ∀ t ∈ (e.context (Registry.of source tree config) config).emitted body,
        t.StaysIn (Guard.of u) fun callee => ¬ u.Suspends (Guard.of u) callee := by
  subst hu
  obtain ⟨_, d, hd⟩ := (mem_reported_iff (targetsValid_unitOfTree path source tree config)).mp h
  obtain ⟨e, lowered, he, rfl, hbecomes⟩ := exists_entry_of_declaration? hd.declared
  unfold FnEntry.Becomes at hbecomes
  cases hb : e.body with
  | none =>
      rw [hb] at hbecomes
      cases hbecomes
      exact absurd (.bodiless hd.declared rfl) hd.quiet
  | some body =>
      rw [hb] at hbecomes
      cases hbecomes with
      | some hr =>
          exact ⟨e, body, he, hb, fun t ht => staysIn_of_not_suspends hd.notExempt hd.quiet hd.declared rfl hr ht⟩

/-- An async function of the source that is neither exempt nor suspends is reported. -/
theorem reported_of_isAsync {u : CompileUnit} (hu : unitOfTree path source tree config = u) {ctx : Context}
    {callee : DeclId} (hctx : ctx.registry = Registry.of source tree config)
    (hactive : rule.active = true) (hall : rule.reportNonPublic = true) (ha : ctx.isAsync callee = true)
    (h : (CallTarget.asyncDecl callee).StaysIn (Guard.of u) fun callee => ¬ u.Suspends (Guard.of u) callee) :
    ∃ d, u.declaration? callee = some d ∧ d.isAsync = true ∧ d.body.isSome = true ∧ callee ∈ rule.reported u := by
  subst hu
  obtain ⟨e, hentry, hasync⟩ := exists_entry_of_isAsync ha
  obtain ⟨body, hdecl, _⟩ := declaration?_unitOfTree path (hctx ▸ hentry)
  refine ⟨_, hdecl, hasync, ?_, ?_⟩
  · cases body with
    | none => exact absurd (.bodiless hdecl rfl) h.2
    | some body => rfl
  · exact (mem_reported_iff (targetsValid_unitOfTree path source tree config)).mpr
      ⟨hactive, _, hdecl, hasync, h.1, h.2, Or.inr hall⟩

end

/-- The awaits inside the body of a reported function all await calls of functions that are reported as well, and no
macro call inside it is taken for a suspension. -/
theorem reported_closed_under_await (path source : String) (config : LoweringConfig) (rule : RuleConfig)
    (u : CompileUnit) (hu : unitOfSource? path source config = some u) (hall : rule.reportNonPublic = true) :
    (∃ findings emitted, rule.run u = .ok findings ∧
      List.Forall₂ (fun id f => ∃ d, u.declaration? id = some d ∧ f = .of rule.severity d) (rule.reported u) emitted ∧
      StableSort (fun a b => a.location.compare b.location) emitted findings) ∧
    ∀ id ∈ rule.reported u, ∃ tree e body, parse? source = some tree ∧
      (Registry.of source tree config).entries[id]? = some e ∧ e.body = some body ∧
      (∀ t, body.Holds t → t.isNode .awaitExpr = true → ∃ operand callee d,
        t.exprs.head? = some operand ∧ (e.context (Registry.of source tree config) config).Calls operand callee ∧
        u.declaration? callee = some d ∧ d.isAsync = true ∧ d.body.isSome = true ∧ callee ∈ rule.reported u) ∧
      (∀ t, body.Holds t → t.isNode .macroCall = true →
        ((e.context (Registry.of source tree config) config).macroForm t).head ≠ .call .suspension) := by
  obtain ⟨tree, hparse, hunit⟩ := Option.map_eq_some_iff.mp hu
  refine ⟨run_findings_reported rule (hunit ▸ targetsValid_unitOfTree path source tree config), fun id hid => ?_⟩
  obtain ⟨e, body, he, hb, hstays⟩ := body_of_reported hunit hid
  have hactive := ((mem_reported_iff (hunit ▸ targetsValid_unitOfTree path source tree config)).mp hid).1
  refine ⟨tree, e, body, hparse, he, hb, fun t ht hawait => ?_, fun t ht hmac hhead => ?_⟩
  · have hcall : t.isCall = false := SyntaxTree.isCall_of_isNode hawait
    rcases Context.form_of_await (e.context (Registry.of source tree config) config) hawait with
      hf | ⟨operand, callee, ho, hcalls, hasync, hf⟩
    · exact False.elim (hstays .suspension (Context.mem_emitted_of_holds ht hcall (by rw [hf]; rfl)))
    · have hs := hstays _ (Context.mem_emitted_of_holds ht hcall (by rw [hf]; rfl))
      obtain ⟨d, hd⟩ := reported_of_isAsync hunit rfl hactive hall hasync hs
      exact ⟨operand, callee, d, ho, hcalls, hd⟩
  · have hcall : t.isCall = false := SyntaxTree.isCall_of_isNode hmac
    have hf := Context.form_of_macroCall (e.context (Registry.of source tree config) config) hmac
    exact hstays .suspension (Context.mem_emitted_of_holds ht hcall (by rw [hf, hhead]; rfl))

/-- Two functions, of which the second awaits the first. -/
def relaySource : String :=
  braced "async fn leaf()" [] ++ " " ++ braced "async fn outer()" ["leaf().await"]

theorem reported_closed_under_await_relay : ∃ u, unitOfSource? "relay.rs" relaySource {} = some u ∧
    ({} : RuleConfig).reported u = [0, 1] ∧
    ∃ tree e body t operand callee d, parse? relaySource = some tree ∧
      (Registry.of relaySource tree {}).entries[1]? = some e ∧ e.body = some body ∧
      body.Holds t ∧ t.isNode .awaitExpr = true ∧ t.exprs.head? = some operand ∧
      (e.context (Registry.of relaySource tree {}) {}).Calls operand callee ∧
      u.declaration? callee = some d ∧ d.isAsync = true ∧ d.body.isSome = true ∧
      callee ∈ ({} : RuleConfig).reported u := by
  have hreported : (unitOfSource? "relay.rs" relaySource {}).any
      (fun u => ({} : RuleConfig).reported u == [0, 1]) = true := by decide +kernel
  have hawaits : (parse? relaySource).all (fun tree => (Registry.of relaySource tree {}).entries[1]?.all fun e =>
      e.body.all fun body => body.operands.any (·.isNode .awaitExpr)) = true := by decide +kernel
  obtain ⟨u, hu, hr⟩ := (Option.any_eq_true _ _).mp hreported
  have hr : ({} : RuleConfig).reported u = [0, 1] := by simpa using hr
  obtain ⟨tree, e, body, hparse, he, hb, hclosed, _⟩ :=
    (reported_closed_under_await "relay.rs" relaySource {} {} u hu rfl).2 1 (by simp [hr])
  obtain ⟨t, ht, hk⟩ : ∃ t ∈ body.operands, t.isNode .awaitExpr = true := by simpa [hparse, he, hb] using hawaits
  obtain ⟨operand, callee, d, h⟩ := hclosed t (.operand ht .here) hk
  exact ⟨u, hu, hr, tree, e, body, t, operand, callee, d, hparse, he, hb, .operand ht .here, hk, h⟩

end AsyncLint
