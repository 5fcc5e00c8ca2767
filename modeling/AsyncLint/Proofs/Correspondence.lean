import AsyncLint.Proofs.Lossless
import AsyncLint.Proofs.Sites

/-!
# Awaits and the calls they become

Lowering makes one call that suspends out of every await and every suspending macro call of a body, in the same order,
and no other call that suspends.
-/

namespace AsyncLint

open Source Text

/-! ## Lowered sites -/

/-- Whether a call with this target suspends. -/
def CallTarget.suspends : CallTarget → Bool
  | .asyncDecl _ | .suspension => true
  | .syncDecl _ | .unknown => false

theorem Text.hasPart_iff {part cs : List Char} : hasPart part cs = true ↔ part <:+: cs := by
  induction cs with
  | nil => simp [hasPart]
  | cons c cs ih => simp [hasPart, ih, List.infix_cons_iff]

namespace Context

variable {ctx : Context} {t : SyntaxTree}

/-- What the calls that suspend in a lowered tree resolve to. -/
def suspensions (ctx : Context) (t : SyntaxTree) : List CallTarget :=
  (ctx.emitted t).filter CallTarget.suspends

/-- What an await or suspending macro call resolves to. -/
def siteTarget (ctx : Context) (t : SyntaxTree) : CallTarget :=
  (ctx.form t).head.target?.getD .suspension

theorem suspensions_eq (ctx : Context) (t : SyntaxTree) : ctx.suspensions t =
    (ctx.form t).parts.flatMap ctx.suspensions ++ (ctx.form t).head.target?.toList.filter CallTarget.suspends := by
  rw [suspensions, emitted_eq, List.filter_append, List.filter_flatMap]
  rfl

theorem macroForm_eq (ctx : Context) (t : SyntaxTree) : ctx.macroForm t =
    { head := if t.isSuspendingMacro ctx.config then .call .suspension else .inert } := by
  simp only [macroForm, SyntaxTree.isSuspendingMacro, Bool.or_comm, ← hasPart_iff, Bool.decide_eq_true]
  split <;> rfl

theorem not_suspends_plainTarget (callee : Option DeclId) : (plainTarget callee).suspends = false := by
  cases callee <;> rfl

/-- An expression that does not suspend by itself suspends as its parts do. -/
theorem suspensions_of_form (head : Head) {parts : List SyntaxTree} (hform : ctx.form t = ⟨head, parts⟩)
    (hhead : head.target?.any CallTarget.suspends = false) : ctx.suspensions t = parts.flatMap ctx.suspensions := by
  rw [suspensions_eq, hform]
  cases h : head.target? with
  | none => exact List.append_nil _
  | some target => simp_all

theorem suspensions_of_path (h : t.isNode .pathExpr = true) : ctx.suspensions t = [] := by
  obtain ⟨hhead, hparts⟩ := ctx.form_of_path h
  rw [suspensions_eq, hhead, hparts]
  rfl

/-- Nothing suspends in the path of a function that is called by its name. -/
theorem suspensions_callParts (ctx : Context) (t : SyntaxTree) : (callParts t).flatMap ctx.suspensions =
    (t.exprs.head?.toList ++ t.callArguments).flatMap ctx.suspensions := by
  unfold callParts
  cases t.exprs.head? with
  | none => rfl
  | some callee =>
      cases h : callee.isNode .pathExpr with
      | true => simp [Option.filter, h, suspensions_of_path h]
      | false => simp [Option.filter, h]

theorem suspensions_of_call {operand : SyntaxTree} {callee : DeclId} (h : ctx.Calls operand callee) :
    ctx.suspensions operand = (ctx.form operand).parts.flatMap ctx.suspensions := by
  rcases h with ⟨hk, _⟩ | ⟨hk, _⟩
  · exact suspensions_of_form (.call (plainTarget (ctx.callee? operand)))
      (by simp only [form, SyntaxTree.isNode_iff.mp hk]) (not_suspends_plainTarget _)
  · exact suspensions_of_form (.call (plainTarget (ctx.method? operand)))
      (by simp only [form, SyntaxTree.isNode_iff.mp hk]) (not_suspends_plainTarget _)

theorem suspensions_of_await (h : t.isNode .awaitExpr = true) :
    ctx.suspensions t = t.exprs.head?.toList.flatMap ctx.suspensions ++ [ctx.siteTarget t] := by
  rcases ctx.form_of_await h with hf | ⟨operand, callee, ho, hcalls, _, hf⟩
  · rw [suspensions_eq, siteTarget, hf]
    rfl
  · rw [suspensions_eq, siteTarget, hf, ho, Option.toList_some, List.flatMap_singleton, suspensions_of_call hcalls]
    rfl

theorem suspensions_of_macroCall (h : t.isNode .macroCall = true) :
    ctx.suspensions t = if t.isSuspendingMacro ctx.config then [ctx.siteTarget t] else [] := by
  rw [suspensions_eq, siteTarget, ctx.form_of_macroCall h, macroForm_eq]
  split <;> rfl

theorem suspensions_of_macroExpr (h : t.isNode .macroExpr = true) :
    ctx.suspensions t = (t.child? .macroCall).toList.flatMap ctx.suspensions := by
  have hform : ctx.form t = (t.child? .macroCall).elim { head := .inert } ctx.macroForm := by
    simp only [form, SyntaxTree.isNode_iff.mp h]
  cases hm : t.child? .macroCall with
  | none => rw [suspensions_eq, hform, hm]; rfl
  | some m =>
      rw [suspensions_eq, hform, hm, Option.toList_some, List.flatMap_singleton, suspensions_eq ctx m,
        ctx.form_of_macroCall (List.find?_some hm)]
      rfl

theorem suspensions_of_other (hawait : t.isNode .awaitExpr = false) (hmac : t.isNode .macroCall = false) :
    ctx.suspensions t = t.operands.flatMap ctx.suspensions := by
  unfold SyntaxTree.operands
  split <;> rename_i hkind
  · rw [← suspensions_callParts]
    exact suspensions_of_form (.call (plainTarget (ctx.callee? t))) (by simp only [form, hkind])
      (not_suspends_plainTarget _)
  · exact suspensions_of_form (.call (plainTarget (ctx.method? t))) (by simp only [form, hkind]; rfl)
      (not_suspends_plainTarget _)
  · rw [SyntaxTree.isNode_iff.mpr hkind] at hawait
    cases hawait
  · exact suspensions_of_form .closure (by simp only [form, hkind]) rfl
  · exact suspensions_of_form .conditional (by simp only [form, hkind]) rfl
  · exact suspensions_of_form .loop (by simp only [form, hkind]) rfl
  · exact suspensions_of_form .loop (by simp only [form, hkind]) rfl
  · exact suspensions_of_form .loop (by simp only [form, hkind]) rfl
  · exact suspensions_of_macroExpr (SyntaxTree.isNode_iff.mpr hkind)
  · rw [SyntaxTree.isNode_iff.mpr hkind] at hmac
    cases hmac
  · exact suspensions_of_path (SyntaxTree.isNode_iff.mpr hkind)
  · exact suspensions_of_form .inert (by simp only [form, hkind]) rfl
  · -- of the kinds with a form of their own only blocks are left
    have hform : ∃ head, ctx.form t = ⟨head, t.nearestBelow⟩ ∧ head.target? = none := by
      unfold form
      split <;> simp_all
      · cases t.hasToken "async" <;> rfl
      · split <;> simp_all [Head.target?]
    obtain ⟨head, hform, hhead⟩ := hform
    exact suspensions_of_form head hform (by rw [hhead]; rfl)

theorem suspensions_operands (ctx : Context) (t : SyntaxTree) : ctx.suspensions t =
    t.operands.flatMap ctx.suspensions ++ ([t].filter (·.isSite ctx.config)).map ctx.siteTarget := by
  cases hawait : t.isNode .awaitExpr with
  | true =>
      rw [suspensions_of_await hawait]
      simp [SyntaxTree.operands, SyntaxTree.isNode_iff.mp hawait, SyntaxTree.isSite, hawait]
  | false =>
      cases hmac : t.isNode .macroCall with
      | true =>
          rw [suspensions_of_macroCall hmac]
          cases hs : t.isSuspendingMacro ctx.config <;>
            simp [SyntaxTree.operands, SyntaxTree.isNode_iff.mp hmac, SyntaxTree.isSite, hawait, hmac, hs]
      | false => simp [suspensions_of_other hawait hmac, SyntaxTree.isSite, hawait, hmac]

/-- In a regular tree the sites are what suspends, in the same order. -/
theorem suspensions_eq_sites (h : t.Regular) (ht : t.isPart = true) :
    ctx.suspensions t = (t.awaitSites ctx.config).map ctx.siteTarget := by
  induction t using SyntaxTree.induction_on_operands with
  | step t ih =>
      rw [suspensions_operands, h.sites_operands ht, List.map_append, List.map_flatMap]
      congr 1
      exact List.flatMap_congr fun c hc => ih c hc (h.of_mem_operands hc) (SyntaxTree.isPart_of_mem_operands hc)

/-! ## Targets of sites -/

/-- The await `t` is applied directly to a call of the async declaration `callee`. -/
def AwaitsCall (ctx : Context) (u : CompileUnit) (t : SyntaxTree) (callee : DeclId) : Prop :=
  t.isNode .awaitExpr = true ∧ ∃ operand d, t.exprs = [operand] ∧ ctx.Calls operand callee ∧
    u.declaration? callee = some d ∧ d.isAsync = true

theorem siteTarget_of_awaitsCall {operand : SyntaxTree} {callee : DeclId} (h : t.isNode .awaitExpr = true)
    (ho : t.exprs.head? = some operand) (hc : ctx.Calls operand callee) (ha : ctx.isAsync callee = true) :
    ctx.siteTarget t = .asyncDecl callee := by
  rw [siteTarget]
  simp only [form, SyntaxTree.isNode_iff.mp h, awaitForm, ho]
  rcases hc with ⟨hk, hc⟩ | ⟨hk, hc⟩
  · simp [hk, hc, ha, Option.filter, Head.target?]
  · have hk' : operand.isNode .callExpr = false := by
      rw [SyntaxTree.isNode_of_kind? (SyntaxTree.isNode_iff.mp hk)]
      rfl
    simp [hk, hk', hc, ha, Option.filter, Head.target?]

theorem siteTarget_cases (h : t.isSite ctx.config = true) :
    ctx.siteTarget t = .suspension ∨ ∃ operand callee, t.isNode .awaitExpr = true ∧ t.exprs.head? = some operand ∧
      ctx.Calls operand callee ∧ ctx.isAsync callee = true ∧ ctx.siteTarget t = .asyncDecl callee := by
  simp only [SyntaxTree.isSite, Bool.or_eq_true, Bool.and_eq_true] at h
  rcases h with hawait | ⟨hmac, hs⟩
  · rcases ctx.form_of_await hawait with hf | ⟨operand, callee, ho, hcalls, ha, hf⟩
    · exact Or.inl (by rw [siteTarget, hf]; rfl)
    · exact Or.inr ⟨operand, callee, hawait, ho, hcalls, ha, by rw [siteTarget, hf]; rfl⟩
  · exact Or.inl (by rw [siteTarget, ctx.form_of_macroCall hmac, macroForm_eq, hs]; rfl)

section

variable {u : CompileUnit} (hasync : ∀ c, ctx.isAsync c = true ↔ ∃ d, u.declaration? c = some d ∧ d.isAsync = true)

include hasync

/-- A site resolves to an async declaration exactly if it awaits a call of it. -/
theorem siteTarget_eq_asyncDecl_iff (h : t.Regular) (hs : t.isSite ctx.config = true) (callee : DeclId) :
    ctx.siteTarget t = .asyncDecl callee ↔ ctx.AwaitsCall u t callee := by
  constructor
  · intro htarget
    rcases siteTarget_cases hs with hsusp | ⟨operand, callee', hawait, ho, hcalls, ha, htarget'⟩
    · cases htarget.symm.trans hsusp
    · cases htarget.symm.trans htarget'
      obtain ⟨d, hd, hda⟩ := (hasync callee).mp ha
      obtain ⟨operand', hexprs⟩ := h.exprs_of_await hawait
      cases (congrArg List.head? hexprs).symm.trans ho
      exact ⟨hawait, operand, d, hexprs, hcalls, hd, hda⟩
  · rintro ⟨hawait, operand, d, hexprs, hcalls, hd, hda⟩
    exact siteTarget_of_awaitsCall hawait (by rw [hexprs]; rfl) hcalls ((hasync callee).mpr ⟨d, hd, hda⟩)

theorem siteTarget_eq_suspension_iff (h : t.Regular) (hs : t.isSite ctx.config = true) :
    ctx.siteTarget t = .suspension ↔ ∀ callee, ¬ ctx.AwaitsCall u t callee := by
  constructor
  · intro htarget callee hawaits
    cases htarget.symm.trans ((siteTarget_eq_asyncDecl_iff hasync h hs callee).mpr hawaits)
  · intro hnone
    rcases siteTarget_cases hs with hsusp | ⟨_, callee, _, _, _, _, htarget⟩
    · exact hsusp
    · exact absurd ((siteTarget_eq_asyncDecl_iff hasync h hs callee).mp htarget) (hnone callee)

end

end Context

/-! ## Calls of lowered bodies -/

theorem CompileUnit.Resolves.suspendingCalls {u : CompileUnit} {es : List Expression} {ts : List CallTarget}
    (h : u.Resolves (es.filterMap Expression.callId?) ts) :
    List.Forall₂ (fun t n => ∃ id arguments, n = .call id arguments ∧ u.callTarget id = t)
      (ts.filter CallTarget.suspends) (es.filter (·.isSuspendingCall u)) := by
  induction es generalizing ts with
  | nil =>
      obtain rfl : ts = [] := by simpa [CompileUnit.Resolves] using h
      exact .nil
  | cons e es ih =>
      cases e with
      | call id arguments =>
          obtain ⟨t, ts, rfl, ht, hts⟩ := List.map_eq_cons_iff.mp h.symm
          have htarget : u.callTarget id = t := congrArg (fun target? => target?.getD CallTarget.unknown) ht.symm
          have hcall : (Expression.call id arguments).isSuspendingCall u = t.suspends := by
            rw [Expression.isSuspendingCall, htarget]
            cases t <;> rfl
          cases hs : t.suspends with
          | true =>
              rw [List.filter_cons_of_pos hs, List.filter_cons_of_pos (hcall.trans hs)]
              exact .cons ⟨id, arguments, rfl, htarget⟩ (ih hts.symm)
          | false =>
              rw [List.filter_cons_of_neg (by simp [hs]), List.filter_cons_of_neg (by simp [hcall, hs])]
              exact ih hts.symm
      | _ => exact ih h

/-! ## Functions of a source -/

section

variable {source : String} {tree body : SyntaxTree} {config : LoweringConfig} {e : FnEntry}

theorem body_of_mem_entries (h : tree.Regular) (he : e ∈ (Registry.of source tree config).entries)
    (hb : e.body = some body) : body.Regular ∧ body.isPart = true := by
  obtain ⟨site, hsite, hdescribe⟩ := List.mem_filterMap.mp he
  obtain ⟨name, _, rfl⟩ := Option.map_eq_some_iff.mp hdescribe
  have hregular := of_mem_fnSites (fun _ _ h c hc => h.of_mem_children hc) {} 0 tree h hsite
  refine ⟨hregular.of_mem_children (SyntaxTree.mem_children_of_child? hb), ?_⟩
  rw [SyntaxTree.isPart, SyntaxTree.isExpr_of_kind? (SyntaxTree.isNode_iff.mp (List.find?_some hb))]
  rfl

theorem isAsync_iff_declaration (path : String) {ctx : Context}
    (hctx : ctx.registry = Registry.of source tree config) (c : DeclId) : ctx.isAsync c = true ↔
      ∃ d, (unitOfTree path source tree config).declaration? c = some d ∧ d.isAsync = true := by
  constructor
  · intro h
    obtain ⟨e, he, ha⟩ := exists_entry_of_isAsync h
    obtain ⟨body, hd, _⟩ := declaration?_unitOfTree path (hctx ▸ he)
    exact ⟨_, hd, ha⟩
  · rintro ⟨d, hd, ha⟩
    obtain ⟨e, body, he, rfl, _⟩ := exists_entry_of_declaration? hd
    rw [Context.isAsync, hctx, he]
    exact ha

end

/-- In the body of every function, the calls that suspend stand for the awaits and suspending macro calls of the
source, one for one and in the same order. A call leads to an async declaration exactly if it stands for an await that
is applied to a call of this declaration. -/
theorem suspendingCalls_of_awaitSites (path source : String) (config : LoweringConfig) (u : CompileUnit)
    (hu : unitOfSource? path source config = some u) :
    ∃ tree, parse? source = some tree ∧ ∀ id e body,
      (Registry.of source tree config).entries[id]? = some e → e.body = some body →
      ∃ d lowered, u.declaration? id = some d ∧ d.body = some lowered ∧
        List.Forall₂ (fun site call => ∃ callId arguments, call = .call callId arguments ∧
            (∀ callee, u.callTarget callId = .asyncDecl callee ↔
              (e.context (Registry.of source tree config) config).AwaitsCall u site callee) ∧
            (u.callTarget callId = .suspension ↔
              ∀ callee, ¬ (e.context (Registry.of source tree config) config).AwaitsCall u site callee))
          (body.awaitSites config) (lowered.postorder.filter (·.isSuspendingCall u)) := by
  obtain ⟨tree, hparse, rfl⟩ := Option.map_eq_some_iff.mp hu
  refine ⟨tree, hparse, fun id e body he hb => ?_⟩
  obtain ⟨hregular, hpart⟩ := body_of_mem_entries (parse?_regular hparse) (List.mem_of_getElem? he) hb
  obtain ⟨lowered, hd, hbecomes⟩ := declaration?_unitOfTree path he
  unfold FnEntry.Becomes at hbecomes
  rw [hb] at hbecomes
  cases hbecomes with
  | some hresolves =>
      refine ⟨_, _, hd, rfl, ?_⟩
      have hcalls := hresolves.suspendingCalls
      rw [← Context.suspensions, Context.suspensions_eq_sites hregular hpart, List.forall₂_map_left_iff] at hcalls
      refine ((List.forall₂_and_left _ _).mpr ⟨fun site hs => hregular.isSite_of_mem hpart hs, hcalls⟩).imp ?_
      rintro site call ⟨⟨hsite, hsr⟩, callId, arguments, rfl, htarget⟩
      refine ⟨callId, arguments, rfl, ?_⟩
      rw [htarget]
      exact ⟨Context.siteTarget_eq_asyncDecl_iff (isAsync_iff_declaration path rfl) hsr hsite,
        Context.siteTarget_eq_suspension_iff (isAsync_iff_declaration path rfl) hsr hsite⟩

/-- A function with an await inside the operand of another, and a macro call with an await among its tokens. -/
def nestedSource : String :=
  braced "async fn leaf()" [] ++ " " ++
    braced "async fn outer()" ["twice(leaf().await).await;", "select!(a.await => b)"]

theorem suspendingCalls_of_awaitSites_nested : ∃ u tree e body d lowered,
    unitOfSource? "nested.rs" nestedSource {} = some u ∧ parse? nestedSource = some tree ∧
    (Registry.of nestedSource tree {}).entries[1]? = some e ∧ e.body = some body ∧
    u.declaration? 1 = some d ∧ d.body = some lowered ∧ (body.awaitSites {}).length = 3 ∧
    (lowered.postorder.filter (·.isSuspendingCall u)).length = 3 := by
  have hunit : (unitOfSource? "nested.rs" nestedSource {}).isSome = true := by decide +kernel
  have hsites : (parse? nestedSource).all (fun tree => (Registry.of nestedSource tree {}).entries[1]?.any fun e =>
      e.body.any fun body => (body.awaitSites {}).length == 3) = true := by decide +kernel
  obtain ⟨u, hu⟩ := Option.isSome_iff_exists.mp hunit
  obtain ⟨tree, hparse, hbodies⟩ := suspendingCalls_of_awaitSites "nested.rs" nestedSource {} u hu
  rw [hparse, Option.all_some, Option.any_eq_true] at hsites
  obtain ⟨e, he, hbody⟩ := hsites
  obtain ⟨body, hb, hlength⟩ := (Option.any_eq_true _ _).mp hbody
  obtain ⟨d, lowered, hd, hlowered, hcalls⟩ := hbodies 1 e body he hb
  have hlength : (body.awaitSites {}).length = 3 := by simpa using hlength
  exact ⟨u, tree, e, body, d, lowered, hu, hparse, he, hb, hd, hlowered, hlength, hcalls.length_eq.symm.trans hlength⟩

/-- The first function of a source has more sites or fewer than calls that suspend, if `hides` says what is hidden. -/
def Miscounts (hides : NodeKind → NodeKind → Bool) (source : String) : Prop :=
  ∃ u tree e body d lowered, unitOfSource? "test.rs" source {} = some u ∧ parse? source = some tree ∧
    (Registry.of source tree {}).entries[0]? = some e ∧ e.body = some body ∧
    u.declaration? 0 = some d ∧ d.body = some lowered ∧
    (body.sites hides {}).length ≠ (lowered.postorder.filter (·.isSuspendingCall u)).length

theorem miscounts_of_any {hides : NodeKind → NodeKind → Bool} {source : String}
    (h : (unitOfSource? "test.rs" source {}).any (fun u => (parse? source).any fun tree =>
      (Registry.of source tree {}).entries[0]?.any fun e => e.body.any fun body => (u.declaration? 0).any fun d =>
      d.body.any fun lowered =>
        (body.sites hides {}).length != (lowered.postorder.filter (·.isSuspendingCall u)).length) = true) :
    Miscounts hides source := by
  simp only [Option.any_eq_true, bne_iff_ne] at h
  obtain ⟨u, hu, tree, hparse, e, he, body, hb, d, hd, lowered, hlowered, hne⟩ := h
  exact ⟨u, tree, e, body, d, lowered, hu, hparse, he, hb, hd, hlowered, hne⟩

/-- The attributes of all expressions with a form of their own are hidden, and the binders of closures are not. -/
def Source.NodeKind.hidesAttributes (k c : NodeKind) : Bool :=
  if k = .blockExpr then c == .attr else k.hides c && c != .closureBinder

/-- The attributes of a block are lowered, and the binder of a closure is not. -/
theorem miscounts_hidesAttributes :
    Miscounts NodeKind.hidesAttributes (braced "async fn f()" [braced "#[a = x.await]" []]) ∧
    Miscounts NodeKind.hidesAttributes
      (braced "async fn f()" [braced "for<const N: usize =" ["x.await"] ++ "> |a| a;"]) :=
  ⟨miscounts_of_any (by decide +kernel), miscounts_of_any (by decide +kernel)⟩

end AsyncLint
