import AsyncLint.Proofs.Await
import Mathlib.Data.List.Perm.Lattice

/-!
# Calls on self

Calls on `self` and paths behind `Self` lead to methods with the scope of the function at hand, that is with the same
type or trait by name. A method is found if it is the only one of its name and scope in the whole source. So a call can
lead to a type of the same name in another module, and it does so exactly if its own module has no such method.
-/

namespace AsyncLint

open Source

/-! ## Looking functions up -/

namespace Registry

variable {r : Registry} {fits : FnEntry → Bool} {id : DeclId} {scope name : String}

/-- Entry `id` fits and no other entry does. -/
def OnlyFit (r : Registry) (P : FnEntry → Prop) (id : DeclId) : Prop :=
  ∃ e, r.entries[id]? = some e ∧ P e ∧
    ∀ (other : DeclId) (e' : FnEntry), r.entries[other]? = some e' → P e' → other = id

theorem unique?_eq_some_iff : r.unique? fits = some id ↔ r.OnlyFit (fun e => fits e = true) id := by
  have hmem : ∀ e i, (e, i) ∈ r.entries.zipIdx.filter (fun p => fits p.1) ↔ r.entries[i]? = some e ∧ fits e = true := by
    intro e i
    rw [List.mem_filter, List.mem_zipIdx_iff_getElem?]
  have hunique : r.unique? fits = some id ↔ ∃ e, r.entries.zipIdx.filter (fun p => fits p.1) = [(e, id)] := by
    unfold unique?
    constructor
    · intro h
      split at h
      · rename_i e i hfilter
        obtain rfl := Option.some.inj h
        exact ⟨e, hfilter⟩
      · cases h
    · rintro ⟨e, hfilter⟩
      split
      · rename_i e' i hfilter'
        cases hfilter'.symm.trans hfilter
        rfl
      · rename_i hnone
        exact absurd hfilter (hnone e id)
  rw [hunique]
  constructor
  · rintro ⟨e, hfilter⟩
    simp only [hfilter, List.mem_singleton, Prod.mk.injEq] at hmem
    obtain ⟨hid, hfits⟩ := (hmem e id).mp ⟨rfl, rfl⟩
    exact ⟨e, hid, hfits, fun other e' hother hfits' => ((hmem e' other).mpr ⟨hother, hfits'⟩).2⟩
  · rintro ⟨e, hid, hfits, honly⟩
    refine ⟨e, List.perm_singleton.mp ?_⟩
    -- the numbers of the entries are different, so nothing is listed twice
    have hnodup : (r.entries.zipIdx.filter (fun p => fits p.1)).Nodup :=
      (List.Nodup.of_map Prod.snd (by simpa using List.nodup_range')).filter _
    rw [List.perm_ext_iff_of_nodup hnodup (List.nodup_singleton _)]
    rintro ⟨e', i⟩
    rw [hmem, List.mem_singleton, Prod.mk.injEq]
    constructor
    · rintro ⟨hi, hfits'⟩
      obtain rfl := honly i e' hi hfits'
      exact ⟨Option.some.inj (hi.symm.trans hid), rfl⟩
    · rintro ⟨rfl, rfl⟩
      exact ⟨hid, hfits⟩

end Registry

/-- A method of this name in the scope of a type or trait. -/
def FnEntry.IsMethod (e : FnEntry) (scope name : String) : Prop :=
  e.owner.scope? = some scope ∧ e.name = name

theorem Registry.method?_eq_some_iff {r : Registry} {scope name : String} {id : DeclId} :
    r.method? scope name = some id ↔ r.OnlyFit (·.IsMethod scope name) id := by
  rw [method?, unique?_eq_some_iff]
  simp only [Bool.and_eq_true, beq_iff_eq, FnEntry.IsMethod]

/-! ## Calls on self and paths behind Self -/

namespace Source.SyntaxTree

/-- The tree is the method call `self.n(..)`. -/
structure IsSelfMethod (t : SyntaxTree) (n : String) : Prop where
  kind : t.isNode .methodCallExpr = true
  receiver : t.exprs.head?.map (·.text) = some "self"
  name : (t.child? .nameRef).map (·.firstToken) = some n

/-- The tree is the path `Self::n`. -/
structure IsSelfPath (t : SyntaxTree) (n : String) : Prop where
  kind : t.isNode .pathExpr = true
  qualifier : ((t.child? .path).bind (·.child? .path)).bind segments? = some ["Self"]
  name : (((t.child? .path).bind (·.child? .pathSegment)).bind (·.child? .nameRef)).map (·.firstToken) = some n

instance (t : SyntaxTree) (n : String) : Decidable (t.IsSelfMethod n) :=
  decidable_of_iff (t.isNode .methodCallExpr = true ∧ t.exprs.head?.map (·.text) = some "self" ∧
    (t.child? .nameRef).map (·.firstToken) = some n)
    ⟨fun ⟨hk, hr, hn⟩ => ⟨hk, hr, hn⟩, fun ⟨hk, hr, hn⟩ => ⟨hk, hr, hn⟩⟩

end Source.SyntaxTree

namespace Context

variable {ctx : Context} {t : SyntaxTree} {n : String} {id : DeclId}

/-- The function that a method call or a path stands for. -/
def Denotes (ctx : Context) (t : SyntaxTree) (id : DeclId) : Prop :=
  t.isNode .methodCallExpr = true ∧ ctx.method? t = some id ∨ t.isNode .pathExpr = true ∧ ctx.resolve? t = some id

theorem method?_of_isSelfMethod (h : t.IsSelfMethod n) :
    ctx.method? t = ctx.scope.bind fun scope => ctx.registry.method? scope n := by
  obtain ⟨receiver, hreceiver, hself⟩ := Option.map_eq_some_iff.mp h.receiver
  obtain ⟨nameRef, hname, rfl⟩ := Option.map_eq_some_iff.mp h.name
  simp [method?, hreceiver, hself, hname]

theorem resolve?_of_isSelfPath (h : t.IsSelfPath n) :
    ctx.resolve? t = ctx.scope.bind fun scope => ctx.registry.method? scope n := by
  obtain ⟨qualifier, hq, hsegments⟩ := Option.bind_eq_some_iff.mp h.qualifier
  obtain ⟨path, hpath, hqualifier⟩ := Option.bind_eq_some_iff.mp hq
  obtain ⟨nameRef, hn, rfl⟩ := Option.map_eq_some_iff.mp h.name
  simp only [hpath, Option.bind_some] at hn
  obtain ⟨segment, hsegment, hnameRef⟩ := Option.bind_eq_some_iff.mp hn
  simp [resolve?, hpath, hsegment, hnameRef, hqualifier, hsegments, resolveBehind?]

theorem denotes_iff (h : t.IsSelfMethod n ∨ t.IsSelfPath n) :
    ctx.Denotes t id ↔ ∃ scope, ctx.scope = some scope ∧ ctx.registry.OnlyFit (·.IsMethod scope n) id := by
  have hmethod : (ctx.scope.bind fun scope => ctx.registry.method? scope n) = some id ↔
      ∃ scope, ctx.scope = some scope ∧ ctx.registry.OnlyFit (·.IsMethod scope n) id := by
    simp only [Option.bind_eq_some_iff, Registry.method?_eq_some_iff]
  rcases h with h | h
  · have hkind : t.isNode .pathExpr = false := by
      simp [SyntaxTree.isNode, SyntaxTree.isNode_iff.mp h.kind]
    rw [Denotes, h.kind, hkind, method?_of_isSelfMethod h, ← hmethod]
    simp
  · have hkind : t.isNode .methodCallExpr = false := by
      simp [SyntaxTree.isNode, SyntaxTree.isNode_iff.mp h.kind]
    rw [Denotes, h.kind, hkind, resolve?_of_isSelfPath h, ← hmethod]
    simp

end Context

/-- The only method of its name and scope is in a module exactly if the module has such a method. -/
theorem Registry.OnlyFit.module_eq_iff {r : Registry} {scope n : String} {id : DeclId} {e : FnEntry}
    (h : r.OnlyFit (·.IsMethod scope n) id) (he : r.entries[id]? = some e) (module : List String) :
    e.module = module ↔ ∃ e' ∈ r.entries, e'.IsMethod scope n ∧ e'.module = module := by
  obtain ⟨e₀, he₀, hmethod, honly⟩ := h
  obtain rfl := Option.some.inj (he₀.symm.trans he)
  constructor
  · intro hmodule
    exact ⟨e₀, List.mem_of_getElem? he, hmethod, hmodule⟩
  · rintro ⟨e', he', hmethod', rfl⟩
    obtain ⟨other, hother⟩ := List.mem_iff_getElem?.mp he'
    obtain rfl := honly other e' hother hmethod'
    rw [Option.some.inj (he.symm.trans hother)]

/-- A call on `self` or a path behind `Self` leads to the only method of that name and scope in the whole source. The
method is in the module of the function at hand exactly if that module has a method of that name and scope. -/
theorem self_call_resolution (path source : String) (config : LoweringConfig) (tree : SyntaxTree)
    (htree : parse? source = some tree) (r : Registry) (hr : r = Registry.of source tree config) (d : FnEntry)
    (scope : String) (hscope : d.owner.scope? = some scope) (t : SyntaxTree) (n : String)
    (ht : t.IsSelfMethod n ∨ t.IsSelfPath n) (id : DeclId) :
    ((d.context r config).Denotes t id ↔ r.OnlyFit (·.IsMethod scope n) id) ∧
    ((d.context r config).Denotes t id → ∃ u callee e, unitOfSource? path source config = some u ∧
      u.declaration? id = some callee ∧ callee.name = n ∧ callee.enclosingType = some scope ∧
      r.entries[id]? = some e ∧
      (e.module = d.module ↔ ∃ e' ∈ r.entries, e'.IsMethod scope n ∧ e'.module = d.module)) := by
  subst hr
  have hdenotes : (d.context (Registry.of source tree config) config).Denotes t id ↔
      (Registry.of source tree config).OnlyFit (·.IsMethod scope n) id := by
    rw [Context.denotes_iff ht, FnEntry.context, hscope]
    simp
  refine ⟨hdenotes, fun h => ?_⟩
  have honly := hdenotes.mp h
  obtain ⟨e, he, ⟨howner, hname⟩, _⟩ := hdenotes.mp h
  obtain ⟨body, hdeclaration, _⟩ := declaration?_unitOfTree path he
  refine ⟨_, _, e, by rw [unitOfSource?, htree]; rfl, hdeclaration, hname, howner, he, ?_⟩
  exact honly.module_eq_iff he d.module

/-- Two types of one name in different modules; the first calls a method of its own. -/
def twins : String :=
  braced "mod a" [braced "impl S"
      [braced "async fn f(&self)" ["self.g().await;"], braced "async fn g(&self)" []]] ++ " " ++
    braced "mod b" [braced "impl S" [braced "fn h()" []]]

theorem self_call_resolution_twins : ∃ tree d t u callee e, parse? twins = some tree ∧
    (Registry.of twins tree {}).entries[0]? = some d ∧ d.owner.scope? = some "S" ∧ t.IsSelfMethod "g" ∧
    (d.context (Registry.of twins tree {}) {}).Denotes t 1 ∧ unitOfSource? "twins.rs" twins {} = some u ∧
    u.declaration? 1 = some callee ∧ callee.name = "g" ∧ callee.enclosingType = some "S" ∧
    (Registry.of twins tree {}).entries[1]? = some e ∧ e.module = d.module := by
  have hsome : ((parse? twins).any fun tree => ((Registry.of twins tree {}).entries[0]?).any fun d =>
      ((Registry.of twins tree {}).entries[1]?).any fun g =>
        (d.body.bind fun body => body.nearestBelow.head?.bind (·.exprs.head?)).any fun t =>
          decide (d.owner.scope? = some "S") && decide (t.IsSelfMethod "g") &&
            decide ((d.context (Registry.of twins tree {}) {}).method? t = some 1) &&
            decide (g.owner.scope? = some "S" ∧ g.name = "g") && decide (g.module = d.module)) = true := by
    decide +kernel
  simp only [Option.any_eq_true, Bool.and_eq_true, decide_eq_true_eq] at hsome
  obtain ⟨tree, htree, d, hd, g, hg, t, _, ⟨⟨⟨hscope, ht⟩, hmethod⟩, hisMethod⟩, hmodule⟩ := hsome
  have hdenotes : (d.context (Registry.of twins tree {}) {}).Denotes t 1 := Or.inl ⟨ht.kind, hmethod⟩
  obtain ⟨u, callee, e, hu, hcallee, hname, htype, he, hiff⟩ :=
    (self_call_resolution "twins.rs" twins {} tree htree _ rfl d "S" hscope t "g" (Or.inl ht) 1).2 hdenotes
  exact ⟨tree, d, t, u, callee, e, htree, hd, hscope, ht, hdenotes, hu, hcallee, hname, htype, he,
    hiff.mpr ⟨g, List.mem_of_getElem? hg, hisMethod, hmodule⟩⟩

/-- The first function of a source calls the second one, which belongs to a type of the same name in another module. -/
def Captures (source : String) : Prop :=
  ∃ tree, parse? source = some tree ∧
    ((Registry.of source tree {}).entries.map fun e => (e.owner.scope?, e.module)) =
      [(some "S", ["a"]), (some "S", ["b"])] ∧
    (unitOfTree "a.rs" source tree {}).callTargets = #[.asyncDecl 1]

theorem captures_of_any {source : String} (h : ((parse? source).any fun tree =>
      decide (((Registry.of source tree {}).entries.map fun e => (e.owner.scope?, e.module)) =
        [(some "S", ["a"]), (some "S", ["b"])]) &&
      decide ((unitOfTree "a.rs" source tree {}).callTargets = #[.asyncDecl 1])) = true) : Captures source := by
  simpa [Option.any_eq_true, Captures] using h

/-- A call on `self` or behind `Self` can lead to a type of the same name in another module. -/
theorem self_calls_captured :
    Captures (braced "mod a" ["struct S;", braced "impl S" [braced "async fn f(&self)" ["self.g().await;"]]] ++ " " ++
      braced "mod b" ["struct S;", braced "impl S" [braced "async fn g(&self)" []]]) ∧
    Captures (braced "mod a" ["struct S;", braced "impl S" [braced "async fn f()" ["Self::g().await;"]]] ++ " " ++
      braced "mod b" ["struct S;", braced "impl S" [braced "async fn g()" []]]) :=
  ⟨captures_of_any (by decide +kernel), captures_of_any (by decide +kernel)⟩

end AsyncLint
