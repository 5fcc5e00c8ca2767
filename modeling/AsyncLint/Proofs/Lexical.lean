import AsyncLint.Proofs.Spelling

/-!
# Names and scopes

A name without path is looked up among the free functions of the current module, and those include the functions that
are nested in bodies. So a name can lead to a function that is not in scope where the name stands. It does so exactly
if no free function of that name is in scope there.

Places in a tree are given by addresses: the numbers of the children to descend to, from the root on.
-/

namespace AsyncLint

open Source

namespace Source.SyntaxTree

/-! ## Addresses -/

/-- The tree at an address. -/
def subtreeAt? (t : SyntaxTree) : List Nat → Option SyntaxTree
  | [] => some t
  | i :: rest => t.children[i]?.bind fun c => c.subtreeAt? rest

/-- The kind of the node at an address. -/
def kindAt? (t : SyntaxTree) (a : List Nat) : Option NodeKind :=
  (t.subtreeAt? a).bind kind?

/-- What surrounds the tree at an address. -/
def surroundingsAt (t : SyntaxTree) (s : Surroundings) : List Nat → Surroundings
  | [] => s
  | i :: rest =>
    t.children[i]?.elim (t.surroundingsBelow s) fun c => c.surroundingsAt (t.surroundingsBelow s) rest

variable {t n c : SyntaxTree} {a b : List Nat} {i : Nat}

theorem subtreeAt?_append (t : SyntaxTree) (a b : List Nat) :
    t.subtreeAt? (a ++ b) = (t.subtreeAt? a).bind (·.subtreeAt? b) := by
  induction a generalizing t with
  | nil => rfl
  | cons i rest ih =>
      rw [List.cons_append, subtreeAt?, subtreeAt?, Option.bind_assoc]
      exact Option.bind_congr fun c _ => ih c

theorem kindAt?_append (hn : t.subtreeAt? b = some n) (a : List Nat) : t.kindAt? (b ++ a) = n.kindAt? a := by
  rw [kindAt?, subtreeAt?_append, hn, Option.bind_some, kindAt?]

theorem kindAt?_cons (hc : t.children[i]? = some c) (a : List Nat) : t.kindAt? (i :: a) = c.kindAt? a := by
  rw [kindAt?, subtreeAt?, hc, Option.bind_some, kindAt?]

theorem surroundingsAt_cons (hc : t.children[i]? = some c) (s : Surroundings) (a : List Nat) :
    t.surroundingsAt s (i :: a) = c.surroundingsAt (t.surroundingsBelow s) a := by
  rw [surroundingsAt, hc, Option.elim_some]

theorem surroundingsAt_append (hn : t.subtreeAt? b = some n) (s : Surroundings) (a : List Nat) :
    t.surroundingsAt s (b ++ a) = n.surroundingsAt (t.surroundingsAt s b) a := by
  induction b generalizing t s with
  | nil =>
      obtain rfl := Option.some.inj hn
      rfl
  | cons i rest ih =>
      obtain ⟨c, hc, hn⟩ := Option.bind_eq_some_iff.mp hn
      rw [List.cons_append, surroundingsAt_cons hc, surroundingsAt_cons hc, ih hn]

/-- The modules around an address are those around the root if there is none on the way. -/
theorem module_surroundingsAt (s : Surroundings) (h : ∀ j < a.length, t.kindAt? (a.take j) ≠ some .module) :
    (t.surroundingsAt s a).module = s.module := by
  induction a generalizing t s with
  | nil => rfl
  | cons i rest ih =>
      have hbelow : (t.surroundingsBelow s).module = s.module := by
        have hroot : t.kind? ≠ some .module := h 0 (Nat.zero_lt_succ _)
        simp [module_surroundingsBelow, isNode, hroot]
      cases hc : t.children[i]? with
      | none => rw [surroundingsAt, hc, Option.elim_none, hbelow]
      | some c =>
          rw [surroundingsAt_cons hc, ih, hbelow]
          intro j hj
          have hchild := h (j + 1) (Nat.succ_lt_succ hj)
          rwa [List.take_succ_cons, kindAt?_cons hc] at hchild

/-- The address `a` is below `b`, and no node strictly between them is of a kind with `barrier`. -/
def Reaches (t : SyntaxTree) (barrier : NodeKind → Bool) (b a : List Nat) : Prop :=
  b.length < a.length ∧ a.take b.length = b ∧
    ∀ j < a.length, b.length < j → (t.kindAt? (a.take j)).any barrier = false

instance (t : SyntaxTree) (barrier : NodeKind → Bool) (b a : List Nat) : Decidable (t.Reaches barrier b a) :=
  inferInstanceAs (Decidable (_ ∧ _ ∧ _))

/-- Addresses below one node are in the same modules if no module lies between. -/
theorem Reaches.module_eq {barrier : NodeKind → Bool} (h : t.Reaches barrier b a) (hbarrier : barrier .module = true)
    (hn : t.subtreeAt? b = some n) (s : Surroundings) :
    (t.surroundingsAt s a).module = (n.surroundingsBelow (t.surroundingsAt s b)).module := by
  obtain ⟨hlt, htake, hbetween⟩ := h
  obtain ⟨i, rest, rfl⟩ : ∃ i rest, a = b ++ i :: rest := by
    have hsplit := List.take_append_drop b.length a
    rw [htake] at hsplit
    obtain ⟨i, rest, hdrop⟩ := List.exists_cons_of_length_pos (l := a.drop b.length) (by rw [List.length_drop]; omega)
    exact ⟨i, rest, by rw [← hdrop, hsplit]⟩
  rw [surroundingsAt_append hn]
  cases hc : n.children[i]? with
  | none => rw [surroundingsAt, hc, Option.elim_none]
  | some c =>
      -- the node at `b` may be a module itself, those below it on the way to `a` are none
      rw [surroundingsAt_cons hc]
      refine module_surroundingsAt _ fun j hj hmodule => ?_
      have hnone := hbetween (b.length + (j + 1)) (by simp; omega) (by omega)
      rw [List.take_length_add_append, List.take_succ_cons, kindAt?_append hn, kindAt?_cons hc, hmodule, Option.any_some,
        hbarrier] at hnone
      cases hnone

/-! ## Functions at addresses -/

mutual

/-- The addresses of all functions with a name, in the order of the text. -/
def fnAddresses : SyntaxTree → List (List Nat)
  | .token _ _ => []
  | .node kind children =>
    let below := fnAddressesFrom 0 children
    if kind = .fn ∧ (SyntaxTree.node kind children).name?.isSome then [] :: below else below

/-- The addresses of all functions with a name below trees that stand side by side from child `i` on. -/
def fnAddressesFrom (i : Nat) : List SyntaxTree → List (List Nat)
  | [] => []
  | t :: ts => t.fnAddresses.map (i :: ·) ++ fnAddressesFrom (i + 1) ts

end

end Source.SyntaxTree

/-- Entry `e` is that of the function at address `a`. -/
structure FnEntry.StandsAt (e : FnEntry) (s : Surroundings) (t : SyntaxTree) (a : List Nat) : Prop where
  node : ∃ f, t.subtreeAt? a = some f ∧ f.isNode .fn = true ∧ f.name? = some e.name
  owner : e.owner = (t.surroundingsAt s a).owner
  module : e.module = (t.surroundingsAt s a).module

theorem FnEntry.StandsAt.cons {e : FnEntry} {s : Surroundings} {t c : SyntaxTree} {i : Nat} {a : List Nat}
    (hc : t.children[i]? = some c) (h : e.StandsAt (t.surroundingsBelow s) c a) : e.StandsAt s t (i :: a) where
  node := by
    obtain ⟨f, hf, hfn⟩ := h.node
    exact ⟨f, by rw [SyntaxTree.subtreeAt?, hc, Option.bind_some, hf], hfn⟩
  owner := by rw [SyntaxTree.surroundingsAt_cons hc, h.owner]
  module := by rw [SyntaxTree.surroundingsAt_cons hc, h.module]

theorem FnEntry.standsAt_of_describe? {source : String} {config : LoweringConfig} {s : Surroundings} {offset : Nat}
    {t : SyntaxTree} {e : FnEntry} (ht : t.isNode .fn = true)
    (h : FnSite.describe? { surroundings := s, offset, node := t } source config = some e) : e.StandsAt s t [] := by
  obtain ⟨name, hname, rfl⟩ := Option.map_eq_some_iff.mp h
  exact ⟨⟨t, rfl, ht, hname⟩, rfl, rfl⟩

section

variable (source : String) (config : LoweringConfig)

mutual

theorem forall₂_fnSites_fnAddresses (s : Surroundings) (offset : Nat) : (t : SyntaxTree) →
    List.Forall₂ (fun e a => e.StandsAt s t a) ((fnSites s offset t).filterMap (·.describe? source config)) t.fnAddresses
  | .token _ _ => .nil
  | .node kind children => by
      have hbelow : List.Forall₂ (fun e a => FnEntry.StandsAt e s (.node kind children) a)
          ((fnSitesOf ((SyntaxTree.node kind children).surroundingsBelow s) offset children).filterMap
            (·.describe? source config)) (SyntaxTree.fnAddressesFrom 0 children) := by
        refine (forall₂_fnSitesOf_fnAddressesFrom _ offset children 0).imp ?_
        rintro e a ⟨j, c, rest, rfl, hc, h⟩
        rw [Nat.zero_add]
        exact h.cons hc
      rw [fnSites, SyntaxTree.fnAddresses]
      by_cases hk : kind = .fn
      · rw [if_pos hk]
        cases hd : FnSite.describe? { surroundings := s, offset, node := .node kind children } source config with
        | none =>
            have hname : (SyntaxTree.node kind children).name? = none := Option.map_eq_none_iff.mp hd
            rw [if_neg (by simp [hname])]
            simpa only [List.filterMap_cons, hd] using hbelow
        | some e =>
            obtain ⟨name, hname, _⟩ := Option.map_eq_some_iff.mp hd
            have hname : (SyntaxTree.node kind children).name? = some name := hname
            rw [if_pos ⟨hk, by simp [hname]⟩]
            simp only [List.filterMap_cons, hd]
            exact .cons (FnEntry.standsAt_of_describe? (by simp [SyntaxTree.isNode, SyntaxTree.kind?, hk]) hd) hbelow
      · rw [if_neg hk, if_neg (fun h => hk h.1)]
        exact hbelow

theorem forall₂_fnSitesOf_fnAddressesFrom (s : Surroundings) (offset : Nat) : (ts : List SyntaxTree) → (i : Nat) →
    List.Forall₂ (fun e a => ∃ j c rest, a = (i + j) :: rest ∧ ts[j]? = some c ∧ FnEntry.StandsAt e s c rest)
      ((fnSitesOf s offset ts).filterMap (·.describe? source config)) (SyntaxTree.fnAddressesFrom i ts)
  | [], _ => .nil
  | t :: ts, i => by
      rw [fnSitesOf, SyntaxTree.fnAddressesFrom, List.filterMap_append]
      refine List.rel_append ?_ ?_
      · rw [List.forall₂_map_right_iff]
        exact (forall₂_fnSites_fnAddresses s offset t).imp fun e a h => ⟨0, t, a, rfl, rfl, h⟩
      · refine (forall₂_fnSitesOf_fnAddressesFrom s _ ts (i + 1)).imp ?_
        rintro e a ⟨j, c, rest, rfl, hc, h⟩
        exact ⟨j + 1, c, rest, by rw [Nat.add_assoc, Nat.add_comm 1], hc, h⟩

end

end

/-- Entries and addresses of functions are listed in the same order. -/
theorem Registry.standsAt {source : String} {tree : SyntaxTree} {config : LoweringConfig} {id : DeclId} {e : FnEntry}
    (he : (Registry.of source tree config).entries[id]? = some e) :
    ∃ a, tree.fnAddresses[id]? = some a ∧ e.StandsAt {} tree a := by
  have hall := forall₂_fnSites_fnAddresses source config {} 0 tree
  obtain ⟨hid, rfl⟩ := List.getElem?_eq_some_iff.mp he
  have hid' : id < tree.fnAddresses.length := hall.length_eq ▸ hid
  exact ⟨_, List.getElem?_eq_getElem hid', hall.get hid hid'⟩

/-! ## Scopes -/

/-- Whether names that are declared in nodes of this kind are known only there. -/
def Source.NodeKind.isScope : NodeKind → Bool
  | .sourceFile | .module | .blockExpr => true
  | _ => false

/-- Whether a function inside a node of this kind is not declared in the scope around it. The functions of an `extern`
block are. -/
def Source.NodeKind.confines (k : NodeKind) : Bool :=
  k.isScope || k.isItem && k != .externBlock

namespace Source.SyntaxTree

/-- The function at `a` is in scope at `p`: the file, module or block that it is declared in is also around `p`, with no
other module between. -/
def InScope (t : SyntaxTree) (a p : List Nat) : Prop :=
  ∃ b ∈ a.inits, (t.kindAt? b).any NodeKind.isScope = true ∧ t.Reaches NodeKind.confines b a ∧
    t.Reaches (· == .module) b p

instance (t : SyntaxTree) (a p : List Nat) : Decidable (t.InScope a p) :=
  inferInstanceAs (Decidable (∃ b ∈ a.inits, _))

/-- Where a function is in scope, it is in the current module. -/
theorem InScope.module_eq {t : SyntaxTree} {a p : List Nat} (h : t.InScope a p) (s : Surroundings) :
    (t.surroundingsAt s a).module = (t.surroundingsAt s p).module := by
  obtain ⟨b, _, hscope, ha, hp⟩ := h
  rw [Option.any_eq_true] at hscope
  obtain ⟨k, hk, _⟩ := hscope
  obtain ⟨n, hn, _⟩ := Option.bind_eq_some_iff.mp hk
  rw [ha.module_eq rfl hn, hp.module_eq rfl hn]

/-- An address in a function, outside of all items in there, is in the modules around the function. -/
theorem Reaches.module_eq_of_fn {t f : SyntaxTree} {home place : List Nat} (h : t.Reaches NodeKind.isItem home place)
    (hf : t.subtreeAt? home = some f) (hfn : f.isNode .fn = true) (s : Surroundings) :
    (t.surroundingsAt s place).module = (t.surroundingsAt s home).module := by
  have hkind : f.isNode .module = false := by simp [isNode, isNode_iff.mp hfn]
  rw [h.module_eq rfl hf, module_surroundingsBelow, hkind]
  simp

end Source.SyntaxTree

theorem Context.resolve?_eq_some_iff {ctx : Context} {t : SyntaxTree} {name : String} {id : DeclId}
    (h : t.names? = some [name]) : ctx.resolve? t = some id ↔
      ctx.registry.OnlyFit (fun e => e.owner = .free ∧ e.module = ctx.module ∧ e.name = name) id := by
  have hnames : t.names? = some ([] ++ [name]) := h
  rw [resolve?_of_names? hnames, resolveNames?, if_pos rfl]
  exact Registry.freeFunction?_eq_some_iff

/-- A name without path in a function leads to the only free function of that name in the same module, wherever it is
nested. That function is in scope exactly if any free function of that name is in scope. -/
theorem plain_name_resolution (source : String) (tree : SyntaxTree) (config : LoweringConfig) (r : Registry)
    (hr : r = Registry.of source tree config) (caller : DeclId) (d : FnEntry) (hd : r.entries[caller]? = some d)
    (home place : List Nat) (hhome : tree.fnAddresses[caller]? = some home)
    (hplace : tree.Reaches NodeKind.isItem home place) (name : String)
    (hname : (tree.subtreeAt? place).bind (·.names?) = some [name]) (id : DeclId) :
    ((tree.subtreeAt? place).bind (d.context r config).resolve? = some id ↔
      r.OnlyFit (fun e => e.owner = .free ∧ e.module = d.module ∧ e.name = name) id) ∧
    ((tree.subtreeAt? place).bind (d.context r config).resolve? = some id → ∃ a f,
      tree.fnAddresses[id]? = some a ∧ tree.subtreeAt? a = some f ∧ f.isNode .fn = true ∧ f.name? = some name ∧
      (tree.InScope a place ↔ ∃ (other : DeclId) (e : FnEntry) (a' : List Nat), r.entries[other]? = some e ∧
        e.owner = .free ∧ e.name = name ∧ tree.fnAddresses[other]? = some a' ∧ tree.InScope a' place)) := by
  subst hr
  obtain ⟨t, ht, hname⟩ := Option.bind_eq_some_iff.mp hname
  rw [ht, Option.bind_some, Context.resolve?_eq_some_iff hname]
  refine ⟨Iff.rfl, ?_⟩
  rintro ⟨e, he, ⟨howner, _, rfl⟩, honly⟩
  obtain ⟨a, ha, hstands⟩ := Registry.standsAt he
  obtain ⟨f, hf, hfn, hfname⟩ := hstands.node
  refine ⟨a, f, ha, hf, hfn, hfname, ?_⟩
  constructor
  · intro hscope
    exact ⟨id, e, a, he, howner, rfl, ha, hscope⟩
  · rintro ⟨other, e', a', he', howner', hname', ha', hscope⟩
    -- a function in scope is in the module of the caller, so it is the one that was found
    have hmodule : e'.module = d.module := by
      obtain ⟨_, ha'', hstands'⟩ := Registry.standsAt he'
      obtain rfl := Option.some.inj (ha'.symm.trans ha'')
      obtain ⟨_, hhome', hcaller⟩ := Registry.standsAt hd
      obtain rfl := Option.some.inj (hhome.symm.trans hhome')
      obtain ⟨g, hg, hgfn, _⟩ := hcaller.node
      rw [hstands'.module, hscope.module_eq, hplace.module_eq_of_fn hg hgfn, hcaller.module]
    obtain rfl := honly other e' he' ⟨howner', hmodule, hname'⟩
    obtain rfl := Option.some.inj (ha'.symm.trans ha)
    exact hscope

/-- A function nested in a body, a call of it from deep in the same body, and a function of the same name outside. -/
def nested : String :=
  braced "mod m" [braced "fn f()" [braced "fn h()" [], braced "if a" ["|| h();"]]] ++ " " ++ braced "fn h()" []

theorem plain_name_resolution_nested : ∃ tree d a f place, parse? nested = some tree ∧
    (Registry.of nested tree {}).entries[0]? = some d ∧ (tree.subtreeAt? place).bind (·.names?) = some ["h"] ∧
    (tree.subtreeAt? place).bind (d.context (Registry.of nested tree {}) {}).resolve? = some 1 ∧
    tree.fnAddresses[1]? = some a ∧ tree.subtreeAt? a = some f ∧ f.name? = some "h" ∧ tree.InScope a place := by
  have hsome : ((parse? nested).any fun tree => ((Registry.of nested tree {}).entries[0]?).any fun d =>
      ((Registry.of nested tree {}).entries[1]?).any fun h =>
        decide (tree.fnAddresses = [[0, 4, 2], [0, 4, 2, 5, 0, 2], [2]]) &&
        decide (tree.Reaches NodeKind.isItem [0, 4, 2] [0, 4, 2, 5, 0, 4, 4, 0, 2, 0, 2, 0]) &&
        decide ((tree.subtreeAt? [0, 4, 2, 5, 0, 4, 4, 0, 2, 0, 2, 0]).bind (·.names?) = some ["h"]) &&
        decide ((tree.subtreeAt? [0, 4, 2, 5, 0, 4, 4, 0, 2, 0, 2, 0]).bind
          (d.context (Registry.of nested tree {}) {}).resolve? = some 1) &&
        decide (h.owner = .free ∧ h.name = "h") &&
        decide (tree.InScope [0, 4, 2, 5, 0, 2] [0, 4, 2, 5, 0, 4, 4, 0, 2, 0, 2, 0])) = true := by decide +kernel
  simp only [Option.any_eq_true, Bool.and_eq_true, decide_eq_true_eq] at hsome
  obtain ⟨tree, htree, d, hd, h, hh, ⟨⟨⟨⟨hfns, hplace⟩, hname⟩, hresolve⟩, howner, hh'⟩, hscope⟩ := hsome
  obtain ⟨a, f, ha, hf, _, hfname, hiff⟩ := (plain_name_resolution nested tree {} _ rfl 0 d hd [0, 4, 2] _
    (by rw [hfns]; rfl) hplace "h" hname 1).2 hresolve
  exact ⟨tree, d, a, f, _, htree, hd, hname, hresolve, ha, hf, hfname,
    hiff.mpr ⟨1, h, _, hh, howner, hh', by rw [hfns]; rfl, hscope⟩⟩

/-- Function `caller` of a source has a name without path in its body that leads to function `id`, which is not in scope
there. It is the only call of the source. -/
def Strays (source : String) (caller : DeclId) (place : List Nat) (id : DeclId) : Prop :=
  ∃ tree d home a name, parse? source = some tree ∧ (Registry.of source tree {}).entries[caller]? = some d ∧
    tree.fnAddresses[caller]? = some home ∧ tree.Reaches NodeKind.isItem home place ∧
    (tree.subtreeAt? place).bind (·.names?) = some [name] ∧ tree.fnAddresses[id]? = some a ∧
    (tree.subtreeAt? place).bind (d.context (Registry.of source tree {}) {}).resolve? = some id ∧
    ¬ tree.InScope a place ∧ (unitOfTree "test.rs" source tree {}).callTargets = #[.asyncDecl id]

theorem strays_of_any {source : String} {caller id : DeclId} {place : List Nat} (name : String)
    (h : ((parse? source).any fun tree => ((Registry.of source tree {}).entries[caller]?).any fun d =>
      (tree.fnAddresses[caller]?).any fun home => (tree.fnAddresses[id]?).any fun a =>
        decide (tree.Reaches NodeKind.isItem home place ∧
          (tree.subtreeAt? place).bind (·.names?) = some [name] ∧
          (tree.subtreeAt? place).bind (d.context (Registry.of source tree {}) {}).resolve? = some id ∧
          ¬ tree.InScope a place ∧ (unitOfTree "test.rs" source tree {}).callTargets = #[.asyncDecl id])) = true) :
    Strays source caller place id := by
  simp only [Option.any_eq_true, decide_eq_true_eq] at h
  obtain ⟨tree, htree, d, hd, home, hhome, a, ha, hplace, hname, hrest⟩ := h
  exact ⟨tree, d, home, a, name, htree, hd, hhome, hplace, hname, ha, hrest⟩

/-- A name can stray into the body of another function, into a module of the same name in there, and into the value of a
constant. -/
theorem strays_into_bodies :
    Strays ("use net::helper; " ++ braced "fn g()" [braced "async fn helper()" []] ++ " " ++
      braced "async fn f()" ["helper().await;"]) 2 [4, 7, 0, 2, 0, 0, 0] 1 ∧
    Strays ("use net::h; " ++ braced "mod m" ["use super::h;", braced "async fn f()" ["h().await;"]] ++ " " ++
      braced "fn g()" [braced "mod m" [braced "pub async fn h()" []]]) 0 [2, 4, 4, 7, 0, 2, 0, 0, 0] 2 ∧
    Strays ("use net::h; " ++ braced "const N: u8 =" [braced "async fn h()" [], "0"] ++ "; " ++
      braced "async fn f()" ["h().await;"]) 1 [4, 7, 0, 2, 0, 0, 0] 0 :=
  ⟨strays_of_any "helper" (by decide +kernel), strays_of_any "h" (by decide +kernel),
    strays_of_any "h" (by decide +kernel)⟩

end AsyncLint
