import AsyncLint.Proofs.Await
import AsyncLint.Proofs.Regular

/-!
# Awaits of a body

The awaits and suspending macro calls of a body are listed by going through the whole tree, apart from items, macro
calls and some children of some expressions. In a regular tree the same list comes from the operands of expressions,
which lowering picks one by one: no child is forgotten.
-/

namespace AsyncLint

open Source

/-! ## Sites -/

namespace Source

/-- Whether expressions of kind `k` have no use for the expressions in a child of kind `c`. -/
def NodeKind.hides (k c : NodeKind) : Bool :=
  match k with
  | .closureExpr => c == .attr || c == .closureBinder || c == .paramList || c == .retType
  | .forExpr => c == .attr || c.isPattern
  | .methodCallExpr => c == .attr || c == .genericArgList
  | .pathExpr => c == .attr || c == .path
  | .awaitExpr | .callExpr | .ifExpr | .loopExpr | .whileExpr | .macroExpr | .literal => c == .attr
  | _ => false

namespace SyntaxTree

/-- Whether a macro call suspends: its name is known for it, or its tokens show an await. -/
def isSuspendingMacro (config : LoweringConfig) (t : SyntaxTree) : Bool :=
  config.isSuspendingMacro (((t.child? .path).map (·.text)).getD "") ||
    (t.child? .tokenTree).any fun tokens => decide (".await".toList <:+: tokens.text.toList)

mutual

/-- The awaits and suspending macro calls at or below a tree, each after those below it. What stands in items, in macro
calls or in children that are hidden does not count. -/
def sites (hides : NodeKind → NodeKind → Bool) (config : LoweringConfig) : SyntaxTree → List SyntaxTree
  | .token _ _ => []
  | .node kind children =>
    if kind = .macroCall then [SyntaxTree.node kind children].filter (·.isSuspendingMacro config)
    else if kind.isItem then []
    else sitesOf hides config kind children ++ if kind = .awaitExpr then [.node kind children] else []

/-- The awaits and suspending macro calls in the children of a node. -/
def sitesOf (hides : NodeKind → NodeKind → Bool) (config : LoweringConfig) (kind : NodeKind) :
    List SyntaxTree → List SyntaxTree
  | [] => []
  | c :: cs => (if c.kind?.any (hides kind) then [] else c.sites hides config) ++ sitesOf hides config kind cs

end

/-- The awaits and suspending macro calls of a body. -/
abbrev awaitSites (config : LoweringConfig) (t : SyntaxTree) : List SyntaxTree :=
  t.sites NodeKind.hides config

end SyntaxTree

/-! ## Children that matter -/

namespace NodeKind

variable {k c : NodeKind} {ks : List NodeKind}

/-- Whether there is never an expression in nodes of this kind. -/
def isBarren : NodeKind → Bool
  | .label | .lifetime | .nameRef => true
  | _ => false

/-- Whether a child of kind `c` matters for an expression of kind `k`. -/
def needs (k c : NodeKind) : Bool :=
  !k.hides c && !c.isBarren

theorem not_isExpr_of_hides (h : k.hides c = true) : c.isExpr = false := by
  have hpat : ∀ c : NodeKind, c.isPattern = true → c.isExpr = false := by
    intro c h
    cases c <;> first | rfl | cases h
  unfold hides at h
  split at h
  all_goals simp only [Bool.or_eq_true, beq_iff_eq, Bool.false_eq_true] at h
  · rcases h with ((rfl | rfl) | rfl) | rfl <;> rfl
  · exact h.elim (fun h => h ▸ rfl) (hpat c)
  all_goals first | (obtain rfl := h; rfl) | (rcases h with rfl | rfl <;> rfl)

theorem hides_of_not_isExpr (h : k.isExpr = false) (c : NodeKind) : k.hides c = false := by
  unfold hides
  split <;> first | rfl | cases h

theorem needs_of_isExpr (h : c.isExpr = true) : k.needs c = true := by
  have hides : k.hides c = false := by
    by_contra hh
    rw [not_isExpr_of_hides (Bool.eq_true_of_not_eq_false hh)] at h
    cases h
  have hbarren : c.isBarren = false := by
    cases c <;> first | rfl | cases h
  simp [needs, hides, hbarren]

theorem not_isItem_of_isExpr (h : k.isExpr = true) : k.isItem = false := by
  cases k <;> first | rfl | cases h

theorem needs_argList (k : NodeKind) : k.needs .argList = true := by
  cases k <;> rfl

theorem needs_macroCall (k : NodeKind) : k.needs .macroCall = true := by
  cases k <;> rfl

/-- The children that matter in a node are those of the kinds `ks`. -/
def Consists (k : NodeKind) (ks : List NodeKind) : Prop :=
  match k with
  | .awaitExpr | .closureExpr => ∃ e, e.isExpr = true ∧ ks = [e]
  | .callExpr | .methodCallExpr => ∃ e, e.isExpr = true ∧ ks = [e, .argList]
  | .ifExpr => ks.length ≤ 3 ∧ ∀ e ∈ ks, e.isExpr = true
  | .loopExpr => ks = [.blockExpr]
  | .whileExpr | .forExpr => ∃ e, e.isExpr = true ∧ ks = [e, .blockExpr]
  | .macroExpr => ks = [.macroCall]
  | .argList => ∀ e ∈ ks, e.isExpr = true
  | .pathExpr | .literal | .label | .lifetime | .nameRef => ks = []
  | _ => True

theorem Admits.consists (h : k.Admits ks) : k.Consists (ks.filter k.needs) := by
  induction h with
  | @free k ks h => cases k <;> trivial
  | @attr k ks hk h ih => cases k <;> first | exact ih | trivial
  | literal | lifetime | nameRef | label | pathExpr | macroExpr | loop => rfl
  | @argList ks h => exact fun e he => h e (List.mem_filter.mp he).1
  | @await e h => exact ⟨e, h, by simp [needs_of_isExpr h]⟩
  | @call e h => exact ⟨e, h, by simp [needs_of_isExpr h, needs_argList]⟩
  | @methodCall e h | @genericCall e h =>
      exact ⟨e, h, by rw [List.filter_cons_of_pos (needs_of_isExpr h)]; rfl⟩
  | binder _ ih => exact ih
  | @closure e h | @typedClosure e h => exact ⟨e, h, List.filter_cons_of_pos (l := []) (needs_of_isExpr h)⟩
  | @ifThen c h | @ifElse c h | @ifElseIf c h =>
      rw [List.filter_cons_of_pos (needs_of_isExpr h)]
      exact ⟨Nat.succ_le_succ (by decide), List.forall_mem_cons.mpr ⟨h, by decide⟩⟩
  | @labelled k ks hk h ih => cases k <;> exact ih
  | @whileLoop e h => exact ⟨e, h, by rw [List.filter_cons_of_pos (needs_of_isExpr h)]; rfl⟩
  | @forLoop p e hp h =>
      have hneeds : needs .forExpr p = false := by simp [needs, hides, hp]
      exact ⟨e, h, by simp [hneeds, needs_of_isExpr h]; rfl⟩

theorem eq_nil_of_consists (hk : k.isBarren = true) (h : k.Consists ks) : ks = [] := by
  cases k <;> first | exact h | cases hk

theorem not_isItem_of_isBarren (hk : k.isBarren = true) : k.isItem = false := by
  cases k <;> first | rfl | cases hk

end NodeKind

namespace SyntaxTree

variable {k : NodeKind} {cs : List SyntaxTree} {t : SyntaxTree}

/-- The children that matter in a node of kind `k`. -/
def needed (k : NodeKind) (cs : List SyntaxTree) : List SyntaxTree :=
  cs.filter (·.kind?.any k.needs)

theorem kinds_needed (k : NodeKind) (cs : List SyntaxTree) :
    (needed k cs).map kind? = ((cs.filterMap kind?).filter k.needs).map some := by
  induction cs with
  | nil => rfl
  | cons c cs ih =>
      cases c with
      | token kind text => exact ih
      | node kind children =>
          cases h : k.needs kind <;> simp_all [needed, kind?]

theorem Regular.consists (h : Regular (.node k cs)) :
    ∃ ks, (needed k cs).map kind? = ks.map some ∧ k.Consists ks := by
  cases h with
  | node admits _ => exact ⟨_, kinds_needed k cs, admits.consists⟩

theorem exprs_node (k : NodeKind) (cs : List SyntaxTree) : (node k cs).exprs = (needed k cs).filter (·.isExpr) := by
  simp only [exprs, children, needed, List.filter_filter]
  refine List.filter_congr fun c _ => ?_
  cases c with
  | token kind text => rfl
  | node kind children =>
      cases h : kind.isExpr <;> simp [isExpr, kind?, h, NodeKind.needs_of_isExpr]

theorem child?_node {c : NodeKind} (h : k.needs c = true) (cs : List SyntaxTree) :
    (node k cs).child? c = (needed k cs).find? (·.isNode c) := by
  rw [needed, List.find?_filter]
  refine congrArg (List.find? · cs) (funext fun t => ?_)
  cases t with
  | token kind text => rfl
  | node kind children =>
      by_cases hk : kind = c
      · simp [isNode, kind?, hk, h]
      · simp [isNode, kind?, hk]

/-! ## Sites below a node -/

variable {config : LoweringConfig}

theorem sitesOf_needed (h : ∀ c ∈ cs, c.kind?.any NodeKind.isBarren = true → c.awaitSites config = []) :
    sitesOf NodeKind.hides config k cs = (needed k cs).flatMap (awaitSites config) := by
  induction cs with
  | nil => rfl
  | cons c cs ih =>
      rw [sitesOf, ih fun c hc => h c (List.mem_cons_of_mem _ hc)]
      cases c with
      | token kind text => rfl
      | node kind children =>
          have hbarren := h _ List.mem_cons_self
          cases hh : k.hides kind <;> cases hb : kind.isBarren <;>
            simp_all [needed, kind?, NodeKind.needs]

theorem sites_eq_sitesOf (hk : k.isItem = false) : (node k cs).awaitSites config =
    sitesOf NodeKind.hides config k cs ++ if k = .awaitExpr then [.node k cs] else [] := by
  have hmac : k ≠ .macroCall := fun h => by subst h; cases hk
  rw [awaitSites, sites, if_neg hmac, if_neg (by simp [hk])]

theorem Regular.sites_of_barren (h : t.Regular) (hb : t.kind?.any NodeKind.isBarren = true) :
    t.awaitSites config = [] := by
  induction h with
  | token => rfl
  | @node kind children admits below ih =>
      -- a label still holds a lifetime, which the induction hypothesis covers
      obtain ⟨ks, hks, hconsists⟩ := Regular.consists (.node admits below)
      obtain rfl := NodeKind.eq_nil_of_consists hb hconsists
      have hawait : kind ≠ .awaitExpr := fun h => by subst h; cases hb
      rw [sites_eq_sitesOf (NodeKind.not_isItem_of_isBarren hb), sitesOf_needed ih, List.map_eq_nil_iff.mp hks,
        if_neg hawait]
      rfl

theorem Regular.sites_node (h : Regular (.node k cs)) (hk : k.isItem = false) :
    (SyntaxTree.node k cs).awaitSites config =
      (needed k cs).flatMap (awaitSites config) ++ if k = .awaitExpr then [.node k cs] else [] := by
  cases h with
  | node _ below => rw [sites_eq_sitesOf hk, sitesOf_needed fun c hc => (below c hc).sites_of_barren]

mutual

/-- Only the nearest expressions and macro calls have sites. -/
theorem sites_nearest : (t : SyntaxTree) → t.awaitSites config = t.nearest.flatMap (awaitSites config)
  | .token _ _ => rfl
  | .node kind children => by
      rw [nearest]
      split
      · simp
      · rename_i hmac
        split
        · rename_i hitem
          simp [sites, hmac, hitem]
        · rename_i hitem
          split
          · simp
          · rename_i hexpr
            have hawait : kind ≠ .awaitExpr := fun h => hexpr (h ▸ rfl)
            have hhides : ∀ c, kind.hides c = false := NodeKind.hides_of_not_isExpr (by simpa using hexpr)
            rw [sites_eq_sitesOf (by simpa using hitem), if_neg hawait, List.append_nil]
            exact sitesOf_nearest hhides children

theorem sitesOf_nearest {kind : NodeKind} (hkind : ∀ c, kind.hides c = false) : (cs : List SyntaxTree) →
    sitesOf NodeKind.hides config kind cs = (nearestOf cs).flatMap (awaitSites config)
  | [] => rfl
  | c :: cs => by
      have hvisible : c.kind?.any kind.hides = false := by cases c <;> simp [kind?, hkind]
      rw [sitesOf, nearestOf, List.flatMap_append, ← sites_nearest c, ← sitesOf_nearest hkind cs, hvisible]
      rfl

end

theorem isExpr_of_kind? {e : NodeKind} (h : t.kind? = some e) : t.isExpr = e.isExpr := by
  rw [isExpr, h, Option.any_some]

theorem isNode_of_kind? {e c : NodeKind} (h : t.kind? = some e) : t.isNode c = (e == c) := by
  rw [isNode, h, Option.some_beq_some]

theorem Regular.of_mem_needed {c : SyntaxTree} (h : Regular (.node k cs)) (hc : c ∈ needed k cs) : c.Regular := by
  cases h with
  | node _ below => exact below c (List.mem_filter.mp hc).1

section

variable {ks : List NodeKind} {e e' : NodeKind}

theorem exprs_of_needed (hks : (needed k cs).map kind? = ks.map some) (h : ∀ e ∈ ks, e.isExpr = true) :
    (node k cs).exprs = needed k cs := by
  rw [exprs_node, List.filter_eq_self]
  intro c hc
  obtain ⟨e, he, hce⟩ := List.mem_map.mp (hks ▸ List.mem_map_of_mem hc)
  rw [isExpr_of_kind? hce.symm, h e he]

theorem needed_eq_singleton (hks : (needed k cs).map kind? = [e].map some) :
    ∃ x, needed k cs = [x] ∧ x.kind? = some e :=
  List.map_eq_singleton_iff.mp hks

theorem head?_exprs_of_needed (he : e.isExpr = true) (hks : (needed k cs).map kind? = [e].map some) :
    (node k cs).exprs.head?.toList = needed k cs := by
  obtain ⟨x, hn, _⟩ := needed_eq_singleton hks
  rw [exprs_of_needed hks (by simpa using he), hn]
  rfl

theorem needed_eq_pair (hks : (needed k cs).map kind? = [e, e'].map some) :
    ∃ x y, needed k cs = [x, y] ∧ x.kind? = some e ∧ y.kind? = some e' := by
  obtain ⟨x, l, hn, hx, hl⟩ := List.map_eq_cons_iff.mp hks
  obtain ⟨y, rfl, hy⟩ := List.map_eq_singleton_iff.mp hl
  exact ⟨x, y, hn, hx, hy⟩

end

theorem Regular.sites_argList (h : t.Regular) (hk : t.kind? = some .argList) :
    t.awaitSites config = t.exprs.flatMap (awaitSites config) := by
  cases t with
  | token kind text => cases hk
  | node k cs =>
      cases hk
      obtain ⟨ks, hks, hconsists⟩ := h.consists
      rw [h.sites_node rfl, exprs_of_needed hks hconsists]
      exact List.append_nil _

theorem Regular.sites_call {e : NodeKind} (h : Regular (.node k cs)) (he : e.isExpr = true)
    (hks : (needed k cs).map kind? = [e, .argList].map some) :
    (needed k cs).flatMap (awaitSites config) = ((SyntaxTree.node k cs).exprs.head?.toList ++
      (SyntaxTree.node k cs).callArguments).flatMap (awaitSites config) := by
  obtain ⟨x, y, hn, hx, hy⟩ := needed_eq_pair hks
  have hxe : x.isExpr = true := (isExpr_of_kind? hx).trans he
  have hxa : x.isNode .argList = false := by
    rw [isNode_of_kind? hx, beq_eq_false_iff_ne]
    exact fun h => by subst h; cases he
  have hexprs : (SyntaxTree.node k cs).exprs = [x] := by
    simp [exprs_node, hn, hxe, isExpr_of_kind? hy, NodeKind.isExpr]
  have hargs : (SyntaxTree.node k cs).callArguments = y.exprs := by
    simp [callArguments, child?_node (NodeKind.needs_argList k), hn, hxa, isNode_of_kind? hy]
  have hy' : y.awaitSites config = y.exprs.flatMap (awaitSites config) :=
    (h.of_mem_needed (by simp [hn])).sites_argList hy
  rw [hn, hexprs, hargs]
  simp [hy']

theorem operands_of_loop {e : NodeKind} (he : e.isExpr = true)
    (hks : (needed k cs).map kind? = [e, .blockExpr].map some) :
    Context.conditionOf (.node k cs) ++ Context.loopBody (.node k cs) = needed k cs := by
  have hexprs := exprs_of_needed hks (by simpa [NodeKind.isExpr] using he)
  obtain ⟨x, y, hn, hx, hy⟩ := needed_eq_pair hks
  have hyb : y.isNode .blockExpr = true := isNode_of_kind? hy
  cases hxb : x.isNode .blockExpr <;> simp [Context.conditionOf, Context.loopBody, hexprs, hn, hxb, hyb]

/-- The children that matter are the operands, as far as sites go. -/
theorem Regular.sites_needed (h : Regular (.node k cs)) (hk : k.isExpr = true) :
    (needed k cs).flatMap (awaitSites config) = (SyntaxTree.node k cs).operands.flatMap (awaitSites config) := by
  obtain ⟨ks, hks, hconsists⟩ := h.consists
  unfold operands
  split <;> rename_i hkind
  · cases hkind
    obtain ⟨e, he, rfl⟩ := hconsists
    exact h.sites_call he hks
  · cases hkind
    obtain ⟨e, he, rfl⟩ := hconsists
    exact h.sites_call he hks
  · cases hkind
    obtain ⟨e, he, rfl⟩ := hconsists
    rw [head?_exprs_of_needed he hks]
  · cases hkind
    obtain ⟨e, he, rfl⟩ := hconsists
    rw [head?_exprs_of_needed he hks]
  · cases hkind
    obtain ⟨hlen, hexprs⟩ := hconsists
    have hlen : (needed .ifExpr cs).length ≤ 3 := by
      rwa [← List.length_map (f := kind?), hks, List.length_map]
    rw [exprs_of_needed hks hexprs, List.take_of_length_le hlen]
  · cases hkind
    obtain rfl := hconsists
    obtain ⟨x, hn, hx⟩ := needed_eq_singleton hks
    have hexprs := exprs_of_needed hks (by simp [NodeKind.isExpr])
    simp [Context.loopBody, hexprs, hn, isNode_of_kind? hx]
  · cases hkind
    obtain ⟨e, he, rfl⟩ := hconsists
    rw [operands_of_loop he hks]
  · cases hkind
    obtain ⟨e, he, rfl⟩ := hconsists
    rw [operands_of_loop he hks]
  · cases hkind
    obtain rfl := hconsists
    obtain ⟨x, hn, hx⟩ := needed_eq_singleton hks
    simp [child?_node (NodeKind.needs_macroCall .macroExpr), hn, isNode_of_kind? hx]
  · cases hkind
    cases hk
  · cases hkind
    obtain rfl := hconsists
    rw [List.map_eq_nil_iff.mp hks]
  · cases hkind
    obtain rfl := hconsists
    rw [List.map_eq_nil_iff.mp hks]
  · -- the kinds left hide nothing
    have hhides : ∀ c, k.hides c = false := by
      intro c
      unfold NodeKind.hides
      split <;> simp_all [kind?]
    cases h with
    | node _ below =>
        rw [← sitesOf_needed fun c hc => (below c hc).sites_of_barren]
        exact sitesOf_nearest hhides cs

/-! ## Operands -/

/-- Whether the tree is an expression or a macro call. -/
def isPart (t : SyntaxTree) : Bool :=
  t.isExpr || t.isNode .macroCall

/-- Whether the tree is an await or a suspending macro call. -/
def isSite (config : LoweringConfig) (t : SyntaxTree) : Bool :=
  t.isNode .awaitExpr || t.isNode .macroCall && t.isSuspendingMacro config

mutual

theorem mem_nearest {c : SyntaxTree} : (t : SyntaxTree) → c ∈ t.nearest → c.isPart = true ∧ (t.Regular → c.Regular)
  | .token _ _, hc => by cases hc
  | .node kind children, hc => by
      rw [nearest] at hc
      split at hc
      · rename_i hmac
        obtain rfl := List.mem_singleton.mp hc
        exact ⟨by simp [isPart, isNode, kind?, hmac], id⟩
      · split at hc
        · cases hc
        · split at hc
          · rename_i hexpr
            obtain rfl := List.mem_singleton.mp hc
            exact ⟨by simp [isPart, isExpr, kind?, hexpr], id⟩
          · obtain ⟨hpart, hregular⟩ := mem_nearestOf children hc
            exact ⟨hpart, fun h => by cases h with | node _ below => exact hregular below⟩

theorem mem_nearestOf {c : SyntaxTree} :
    (ts : List SyntaxTree) → c ∈ nearestOf ts → c.isPart = true ∧ ((∀ t ∈ ts, t.Regular) → c.Regular)
  | [], hc => by cases hc
  | t :: ts, hc => by
      rw [nearestOf] at hc
      rcases List.mem_append.mp hc with hc | hc
      · obtain ⟨hpart, hregular⟩ := mem_nearest t hc
        exact ⟨hpart, fun h => hregular (h t List.mem_cons_self)⟩
      · obtain ⟨hpart, hregular⟩ := mem_nearestOf ts hc
        exact ⟨hpart, fun h => hregular fun t ht => h t (List.mem_cons_of_mem _ ht)⟩

end

variable {c : SyntaxTree}

theorem Regular.of_mem_children (h : t.Regular) (hc : c ∈ t.children) : c.Regular := by
  cases h with
  | token => cases hc
  | node _ below => exact below c hc

theorem mem_operands (hc : c ∈ t.operands) :
    c ∈ t.exprs ∨ c ∈ t.callArguments ∨ t.child? .macroCall = some c ∨ c ∈ t.nearestBelow := by
  unfold operands at hc
  split at hc
  · exact (List.mem_append.mp hc).imp (fun h => List.mem_of_mem_head? (Option.mem_toList.mp h)) Or.inl
  · exact (List.mem_append.mp hc).imp (fun h => List.mem_of_mem_head? (Option.mem_toList.mp h)) Or.inl
  · exact Or.inl (List.mem_of_mem_head? (Option.mem_toList.mp hc))
  · exact Or.inl (List.mem_of_mem_head? (Option.mem_toList.mp hc))
  · exact Or.inl (List.mem_of_mem_take hc)
  · exact Or.inl (Context.mem_exprs_of_mem_loopBody hc)
  · exact Or.inl ((List.mem_append.mp hc).elim Context.mem_exprs_of_mem_conditionOf Context.mem_exprs_of_mem_loopBody)
  · exact Or.inl ((List.mem_append.mp hc).elim Context.mem_exprs_of_mem_conditionOf Context.mem_exprs_of_mem_loopBody)
  · exact Or.inr (Or.inr (Or.inl (Option.mem_toList.mp hc)))
  · cases hc
  · cases hc
  · cases hc
  · exact Or.inr (Or.inr (Or.inr hc))

theorem sizeOf_lt_of_mem_operands (hc : c ∈ t.operands) : sizeOf c < sizeOf t := by
  rcases mem_operands hc with hc | hc | hc | hc
  · exact sizeOf_lt_of_mem_exprs hc
  · exact sizeOf_lt_of_mem_callArguments hc
  · exact sizeOf_lt_of_mem_children (mem_children_of_child? hc)
  · exact sizeOf_lt_of_mem_nearestBelow hc

theorem exists_of_mem_callArguments (hc : c ∈ t.callArguments) : ∃ list ∈ t.children, c ∈ list.exprs := by
  unfold callArguments at hc
  cases hlist : t.child? .argList with
  | none => rw [hlist] at hc; cases hc
  | some list => exact ⟨list, mem_children_of_child? hlist, by rwa [hlist] at hc⟩

theorem isPart_of_mem_exprs (hc : c ∈ t.exprs) : c.isPart = true := by
  rw [isPart, (List.mem_filter.mp hc).2, Bool.true_or]

theorem isPart_of_mem_operands (hc : c ∈ t.operands) : c.isPart = true := by
  rcases mem_operands hc with hc | hc | hc | hc
  · exact isPart_of_mem_exprs hc
  · obtain ⟨list, _, hc⟩ := exists_of_mem_callArguments hc
    exact isPart_of_mem_exprs hc
  · rw [isPart, List.find?_some hc, Bool.or_true]
  · exact (mem_nearestOf t.children hc).1

theorem Regular.of_mem_operands (h : t.Regular) (hc : c ∈ t.operands) : c.Regular := by
  rcases mem_operands hc with hc | hc | hc | hc
  · exact h.of_mem_children (mem_children_of_mem_exprs hc)
  · obtain ⟨list, hlist, hc⟩ := exists_of_mem_callArguments hc
    exact (h.of_mem_children hlist).of_mem_children (mem_children_of_mem_exprs hc)
  · exact h.of_mem_children (mem_children_of_child? hc)
  · exact (mem_nearestOf t.children hc).2 fun _ => h.of_mem_children

/-- A property of all trees follows from the step from the operands of a node to the node. -/
@[elab_as_elim]
theorem induction_on_operands {P : SyntaxTree → Prop} (t : SyntaxTree)
    (step : ∀ t, (∀ c ∈ t.operands, P c) → P t) : P t :=
  step t fun c _ => induction_on_operands c step
termination_by sizeOf t
decreasing_by exact sizeOf_lt_of_mem_operands (by assumption)

/-- The sites of an expression are those of its operands, and the expression itself if it is one. -/
theorem Regular.sites_operands (h : t.Regular) (ht : t.isPart = true) :
    t.awaitSites config = t.operands.flatMap (awaitSites config) ++ [t].filter (·.isSite config) := by
  cases t with
  | token kind text => cases ht
  | node k cs =>
      by_cases hmac : k = .macroCall
      · subst hmac
        rfl
      · have hexpr : k.isExpr = true := by simpa [isPart, isExpr, isNode, kind?, hmac] using ht
        rw [h.sites_node (NodeKind.not_isItem_of_isExpr hexpr), h.sites_needed hexpr]
        by_cases hawait : k = .awaitExpr <;> simp [isSite, isNode, kind?, hawait, hmac]

theorem Regular.exprs_of_await (h : t.Regular) (ht : t.isNode .awaitExpr = true) : ∃ operand, t.exprs = [operand] := by
  cases t with
  | token kind text => cases ht
  | node k cs =>
      cases isNode_iff.mp ht
      obtain ⟨ks, hks, e, he, rfl⟩ := h.consists
      obtain ⟨x, hn, _⟩ := needed_eq_singleton hks
      exact ⟨x, by rw [exprs_of_needed hks (by simpa using he), hn]⟩

theorem Regular.isSite_of_mem {s : SyntaxTree} (h : t.Regular) (ht : t.isPart = true)
    (hs : s ∈ t.awaitSites config) : s.isSite config = true ∧ s.Regular := by
  induction t using induction_on_operands with
  | step t ih =>
      rw [h.sites_operands ht] at hs
      rcases List.mem_append.mp hs with hs | hs
      · obtain ⟨c, hc, hs⟩ := List.mem_flatMap.mp hs
        exact ih c hc (h.of_mem_operands hc) (isPart_of_mem_operands hc) hs
      · obtain ⟨hs, hsite⟩ := List.mem_filter.mp hs
        obtain rfl := List.mem_singleton.mp hs
        exact ⟨hsite, h⟩

end SyntaxTree

end Source

end AsyncLint
