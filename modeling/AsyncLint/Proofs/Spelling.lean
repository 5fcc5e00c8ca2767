import AsyncLint.Proofs.Modules
import AsyncLint.Proofs.Scope

/-!
# Spellings of modules

A path can name one module in several ways: from the module at hand, with or without `self`, from a module inside of it
with `super`, and from the root with `crate`. The function behind the path is the same in all of them, also where the
path names no module of the source.
-/

namespace AsyncLint

open Source Text

/-! ## Functions and the modules around them -/

section

variable {site : FnSite}

mutual

/-- A function is in the module at hand or in one that is declared below. -/
theorem module_of_mem_fnSites (s : Surroundings) (offset : Nat) : (t : SyntaxTree) → site ∈ fnSites s offset t →
    site.surroundings.module = s.module ∨ site.surroundings.module ∈ modulePaths s t
  | .token _ _, hs => by cases hs
  | .node kind children, hs => by
      have hbelow : site ∈ fnSitesOf ((SyntaxTree.node kind children).surroundingsBelow s) offset children →
          site.surroundings.module = s.module ∨ site.surroundings.module ∈ modulePaths s (.node kind children) := by
        intro hs
        have hinside := module_of_mem_fnSitesOf _ offset children hs
        rw [modulePaths]
        by_cases hk : kind = .module
        · rw [if_pos hk]
          exact Or.inr (List.mem_cons.mpr hinside)
        · rw [if_neg hk]
          have hsame : ((SyntaxTree.node kind children).surroundingsBelow s).module = s.module := by
            simp [SyntaxTree.module_surroundingsBelow, SyntaxTree.isNode, SyntaxTree.kind?, hk]
          rwa [hsame] at hinside
      rw [fnSites] at hs
      split at hs
      · rcases List.mem_cons.mp hs with rfl | hs
        · exact Or.inl rfl
        · exact hbelow hs
      · exact hbelow hs

theorem module_of_mem_fnSitesOf (s : Surroundings) (offset : Nat) :
    (ts : List SyntaxTree) → site ∈ fnSitesOf s offset ts →
    site.surroundings.module = s.module ∨ site.surroundings.module ∈ modulePathsOf s ts
  | [], hs => by cases hs
  | t :: ts, hs => by
      rw [fnSitesOf] at hs
      rw [modulePathsOf, List.mem_append]
      rcases List.mem_append.mp hs with hs | hs
      · exact (module_of_mem_fnSites s offset t hs).imp_right Or.inl
      · exact (module_of_mem_fnSitesOf s _ ts hs).imp_right Or.inr

end

end

namespace Registry

variable {source : String} {tree : SyntaxTree} {config : LoweringConfig} {module : List String}

/-- The registry knows the module of each of its functions. -/
theorem hasModule_of_mem_entries {e : FnEntry} (he : e ∈ (Registry.of source tree config).entries) :
    (Registry.of source tree config).hasModule e.module = true := by
  obtain ⟨site, hsite, hdescribe⟩ := List.mem_filterMap.mp he
  obtain ⟨name, _, rfl⟩ := Option.map_eq_some_iff.mp hdescribe
  rw [hasModule, List.contains_iff_mem, of]
  exact List.mem_cons.mpr (module_of_mem_fnSites {} 0 tree hsite)

theorem freeFunction?_eq_some_iff {r : Registry} {name : String} {id : DeclId} : r.freeFunction? module name = some id ↔
    r.OnlyFit (fun e => e.owner = .free ∧ e.module = module ∧ e.name = name) id := by
  rw [freeFunction?, unique?_eq_some_iff]
  simp only [Bool.and_eq_true, beq_iff_eq, and_assoc]

/-- There is no function in a module that is not declared. -/
theorem freeFunction?_eq_none (hm : (Registry.of source tree config).hasModule module = false) (name : String) :
    (Registry.of source tree config).freeFunction? module name = none := by
  refine Option.eq_none_iff_forall_ne_some.mpr fun id h => ?_
  obtain ⟨e, he, ⟨_, rfl, _⟩, _⟩ := freeFunction?_eq_some_iff.mp h
  rw [hasModule_of_mem_entries (List.mem_of_getElem? he)] at hm
  cases hm

end Registry

/-! ## Names along a path -/

/-- The names along a path expression, that of the function last. -/
def Source.SyntaxTree.names? (t : SyntaxTree) : Option (List String) := do
  let path ← t.child? .path
  let segment ← path.child? .pathSegment
  let name := (← segment.child? .nameRef).firstToken
  match path.child? .path with
  | none => return [name]
  | some qualifier => return (← segments? qualifier) ++ [name]

theorem segments?_ne_nil {t : SyntaxTree} {names : List String} (h : segments? t = some names) : names ≠ [] := by
  cases t with
  | token => simp [segments?] at h
  | node kind children =>
      simp only [segments?, Option.bind_eq_bind, Option.bind_eq_some_iff, Option.pure_def, Option.some.injEq] at h
      obtain ⟨before, _, segment, _, n, _, rfl⟩ := h
      simp

namespace Context

variable {ctx ctx' : Context} {segments before : List String} {name : String}

/-- The function that `name` stands for behind the path `segments`, which may be empty. -/
def resolveNames? (ctx : Context) (segments : List String) (name : String) : Option DeclId :=
  if segments = [] then ctx.registry.freeFunction? ctx.module name else ctx.resolveBehind? segments name

theorem resolve?_of_names? {t : SyntaxTree} (h : t.names? = some (segments ++ [name])) :
    ctx.resolve? t = ctx.resolveNames? segments name := by
  simp only [SyntaxTree.names?, Option.bind_eq_bind, Option.bind_eq_some_iff] at h
  obtain ⟨path, hpath, segment, hsegment, nameRef, hnameRef, h⟩ := h
  simp only [resolve?, hpath, hsegment, hnameRef, Option.bind_eq_bind, Option.bind_some]
  cases hq : path.child? .path with
  | none =>
      rw [hq] at h
      have h : [] ++ [nameRef.firstToken] = segments ++ [name] := Option.some.inj h
      obtain ⟨rfl, hname⟩ := List.append_inj' h rfl
      obtain rfl := List.singleton_inj.mp hname
      rw [resolveNames?, if_pos rfl]
  | some qualifier =>
      rw [hq] at h
      obtain ⟨names, hnames, h⟩ := Option.bind_eq_some_iff.mp h
      obtain ⟨rfl, hname⟩ := List.append_inj' (Option.some.inj h).symm rfl
      obtain rfl := List.singleton_inj.mp hname
      dsimp only
      rw [resolveNames?, if_neg (segments?_ne_nil hnames), hnames, Option.bind_some]

/-! ## Modules along a path -/

theorem bind_guard_eq_filter {α : Type} (x : Option α) (p : α → Bool) :
    (x >>= fun a => guard (p a = true) >>= fun _ => pure a) = x.filter p := by
  cases x with
  | none => rfl
  | some a =>
      rw [Option.filter_some, Option.bind_eq_bind, Option.bind_some]
      by_cases h : p a = true
      · rw [guard, if_pos h, if_pos h]
        rfl
      · rw [guard, if_neg h, if_neg h]
        rfl

theorem modulePath?_crate (ctx : Context) (segments : List String) :
    ctx.modulePath? ("crate" :: segments) = (follow? [] segments).filter ctx.registry.hasModule :=
  bind_guard_eq_filter _ _

theorem modulePath?_self (ctx : Context) (segments : List String) :
    ctx.modulePath? ("self" :: segments) = (follow? ctx.module segments).filter ctx.registry.hasModule :=
  bind_guard_eq_filter _ _

theorem modulePath?_of_head (h : ∀ first ∈ segments.head?, first ∉ ["self", "crate"]) :
    ctx.modulePath? segments = (follow? ctx.module segments).filter ctx.registry.hasModule := by
  unfold modulePath?
  split
  · exact absurd (h "crate" rfl) (by decide)
  · exact absurd (h "self" rfl) (by decide)
  · exact bind_guard_eq_filter _ _

theorem modulePath?_super (ctx : Context) (segments : List String) : ctx.modulePath? ("super" :: segments) =
    (follow? ctx.module ("super" :: segments)).filter ctx.registry.hasModule :=
  modulePath?_of_head fun first h => by cases h; decide

theorem follow?_super (module : List String) (child : String) (segments : List String) :
    follow? (module ++ [child]) ("super" :: segments) = follow? module segments := by
  rw [follow?, if_pos rfl, if_neg (by simp), List.dropLast_concat]

/-- A name behind one of the keywords that stand for a module is that of a free function. -/
theorem resolveBehind?_keyword {keyword : String} (h : keyword ∈ ["self", "super", "crate"]) :
    ctx.resolveBehind? [keyword] name =
      (ctx.modulePath? [keyword]).bind fun module => ctx.registry.freeFunction? module name := by
  have hall : ∀ k ∈ ["self", "super", "crate"], k ≠ "Self" ∧ k.toList.head?.any isUpper = false := by decide +kernel
  obtain ⟨hself, hupper⟩ := hall keyword h
  simp [resolveBehind?, hself, hupper]

/-- A path is resolved through the module that it leads to, with or without its last segment. -/
theorem resolveBehind?_append (lead : List String) (hne : segments ≠ []) (hself : lead ++ segments ≠ ["Self"]) :
    ctx.resolveBehind? (lead ++ segments) name =
      if (segments.getLast hne).toList.head?.any isUpper then
        (ctx.modulePath? (lead ++ segments.dropLast)).bind fun module =>
          ctx.registry.methodIn? module (segments.getLast hne) name
      else (ctx.modulePath? (lead ++ segments)).bind fun module => ctx.registry.freeFunction? module name := by
  have hlast : (lead ++ segments).getLast? = some (segments.getLast hne) := by
    rw [List.getLast?_append_of_ne_nil _ hne, List.getLast?_eq_some_getLast hne]
  have hnotSelf : ¬ (segments.getLast hne = "Self" ∧ (lead ++ segments).length = 1) := by
    rintro ⟨hs, hlength⟩
    obtain ⟨s, hs'⟩ := List.length_eq_one_iff.mp hlength
    rw [hs', List.getLast?_singleton, Option.some.injEq, hs] at hlast
    exact hself (by rw [hs', hlast])
  rw [resolveBehind?, hlast, Option.bind_eq_bind, Option.bind_some, if_neg hnotSelf,
    List.dropLast_append_of_ne_nil hne]
  rfl

/-- Two ways to begin a path are the same if they lead to the same modules, however the path goes on. -/
theorem resolveBehind?_congr (hr : ctx.registry = ctx'.registry) (lead lead' : List String) (hne : segments ≠ [])
    (hlead : ∀ part, part <+: segments → ctx.modulePath? (lead ++ part) = ctx'.modulePath? (lead' ++ part))
    (hself : lead ++ segments ≠ ["Self"]) (hself' : lead' ++ segments ≠ ["Self"]) :
    ctx.resolveBehind? (lead ++ segments) name = ctx'.resolveBehind? (lead' ++ segments) name := by
  rw [resolveBehind?_append lead hne hself, resolveBehind?_append lead' hne hself', hr,
    hlead segments (List.prefix_refl _), hlead segments.dropLast (List.dropLast_prefix _)]

/-- Keywords that lead to the same modules can stand for each other. -/
theorem resolveNames?_keyword {k k' : String} (hr : ctx.registry = ctx'.registry) (hk : k ∈ ["self", "super", "crate"])
    (hk' : k' ∈ ["self", "super", "crate"]) (h : ∀ part, ctx.modulePath? (k :: part) = ctx'.modulePath? (k' :: part)) :
    ctx.resolveNames? (k :: segments) name = ctx'.resolveNames? (k' :: segments) name := by
  rw [resolveNames?, resolveNames?, if_neg (List.cons_ne_nil _ _), if_neg (List.cons_ne_nil _ _)]
  cases segments with
  | nil => rw [resolveBehind?_keyword hk, resolveBehind?_keyword hk', h, hr]
  | cons s segments =>
      exact resolveBehind?_congr hr [k] [k'] (List.cons_ne_nil _ _) (fun part _ => h part) (by simp) (by simp)

/-- `self` before a path makes no difference. Without it the first name of the path must be no keyword. -/
theorem resolveNames?_self {source : String} {tree : SyntaxTree} {config : LoweringConfig}
    (hr : ctx.registry = Registry.of source tree config) (hr' : ctx'.registry = Registry.of source tree config)
    (hmodule : ctx.module = ctx'.module)
    (hhead : ∀ first ∈ segments.head?, first ∉ ["self", "crate", "super", "Self"]) :
    ctx.resolveNames? ("self" :: segments) name = ctx'.resolveNames? segments name := by
  rw [resolveNames?, if_neg (List.cons_ne_nil _ _)]
  cases segments with
  | nil =>
      rw [resolveNames?, if_pos rfl, resolveBehind?_keyword (by simp), modulePath?_self, follow?, Option.filter_some, hr,
        hr', hmodule]
      split
      · rfl
      · exact (Registry.freeFunction?_eq_none (Bool.eq_false_iff.mpr ‹_›) name).symm
  | cons s segments =>
      rw [resolveNames?, if_neg (List.cons_ne_nil _ _)]
      have hs := hhead s rfl
      refine resolveBehind?_congr (hr.trans hr'.symm) ["self"] [] (List.cons_ne_nil _ _) (fun part hpart => ?_)
        (by simp) ?_
      · have hfirst : ∀ first ∈ part.head?, first ∉ ["self", "crate"] := by
          intro first hf
          obtain rfl : s = first := by
            cases part with
            | nil => cases hf
            | cons p part => simpa using ((List.cons_prefix_cons.mp hpart).1.symm.trans (Option.some.inj hf))
          simp_all
        rw [List.singleton_append, List.nil_append, modulePath?_self, modulePath?_of_head hfirst, hr, hr', hmodule]
      · rintro h
        obtain ⟨rfl, _⟩ := List.cons.inj h
        exact hs (by simp)

/-- Names are resolved in a module of the source. -/
def IsIn (ctx : Context) (r : Registry) (module : List String) : Prop :=
  ctx.registry = r ∧ ctx.module = module

end Context

/-- A function is the same however the path to it begins: from a module with or without `self`, from a module inside of
it with `super`, and from the root with `crate` wherever the path stands. -/
theorem spellings_resolve_alike (source : String) (tree : SyntaxTree) (config : LoweringConfig) (r : Registry)
    (hr : r = Registry.of source tree config) (m tail : List String) (hne : tail ≠ [])
    (hhead : ∀ first ∈ tail.head?, first ∉ ["self", "crate", "super", "Self"]) (plain : SyntaxTree)
    (hplain : plain.names? = some tail) (here : Context) (hhere : here.IsIn r m) :
    (∀ viaSelf, viaSelf.names? = some ("self" :: tail) →
      (∀ ctx : Context, ctx.IsIn r m → ctx.resolve? viaSelf = here.resolve? plain) ∧
      ∀ viaSuper, viaSuper.names? = some ("super" :: tail) → ∀ (ctx : Context) (child : String),
        ctx.IsIn r (m ++ [child]) → ctx.resolve? viaSuper = here.resolve? viaSelf) ∧
    ∀ viaCrate, viaCrate.names? = some ("crate" :: tail) → ∀ root : Context, root.IsIn r [] →
      here.resolve? viaCrate = root.resolve? plain := by
  obtain ⟨segments, name, rfl⟩ := (List.eq_nil_or_concat' tail).resolve_left hne
  have hfirst : ∀ first ∈ segments.head?, first ∉ ["self", "crate", "super", "Self"] := by
    intro first hf
    exact hhead first (by rw [List.head?_append, Option.mem_def.mp hf]; rfl)
  have hvia : ∀ (ctx : Context) (k : String) (t : SyntaxTree), t.names? = some (k :: segments ++ [name]) →
      ctx.resolve? t = ctx.resolveNames? (k :: segments) name := fun _ _ _ h => Context.resolve?_of_names? h
  obtain ⟨hregistry, rfl⟩ := hhere
  refine ⟨fun viaSelf hself => ⟨?_, ?_⟩, ?_⟩
  · rintro ctx ⟨hctx, hmodule⟩
    rw [hvia ctx "self" viaSelf hself, Context.resolve?_of_names? hplain]
    exact Context.resolveNames?_self (hctx.trans hr) (hregistry.trans hr) hmodule hfirst
  · rintro viaSuper hsuper ctx child ⟨hctx, hmodule⟩
    rw [hvia ctx "super" viaSuper hsuper, hvia here "self" viaSelf hself]
    refine Context.resolveNames?_keyword (hctx.trans hregistry.symm) (by simp) (by simp) fun part => ?_
    rw [Context.modulePath?_super, Context.modulePath?_self, hmodule, Context.follow?_super, hctx, hregistry]
  · rintro viaCrate hcrate root ⟨hctx, hmodule⟩
    rw [hvia here "crate" viaCrate hcrate, Context.resolve?_of_names? hplain]
    -- from the root, `crate` is `self`
    rw [← Context.resolveNames?_self (hctx.trans hr) (hctx.trans hr) rfl hfirst]
    refine Context.resolveNames?_keyword (hregistry.trans hctx.symm) (by simp) (by simp) fun part => ?_
    rw [Context.modulePath?_crate, Context.modulePath?_self, hmodule, hregistry, hctx]

/-- Two types of one name, one of them in a module, and four paths to a method of theirs. -/
def spellings : String :=
  braced "mod a" [braced "impl S" [braced "fn make()" []],
      braced "fn f()" ["S::make();", "self::S::make();", "crate::S::make();"],
      braced "mod b" [braced "fn g()" ["super::S::<u8>::make();"]]] ++ " " ++
    braced "impl S" [braced "fn make()" []]

/-- The path of the call at a place in the body of a function. -/
def FnEntry.calledPath? (e : FnEntry) (place : Nat) : Option SyntaxTree :=
  (e.body.bind (·.nearestBelow[place]?)).bind (·.exprs.head?)

theorem spellings_resolve_alike_method : ∃ tree r f g make plain viaSelf viaCrate viaSuper,
    parse? spellings = some tree ∧ r = Registry.of spellings tree {} ∧ f ∈ r.entries ∧ f.module = ["a"] ∧
    g ∈ r.entries ∧ g.module = ["a", "b"] ∧ make ∈ r.entries ∧ make.module = [] ∧
    plain.names? = some ["S", "make"] ∧ viaSelf.names? = some ["self", "S", "make"] ∧
    viaCrate.names? = some ["crate", "S", "make"] ∧ viaSuper.names? = some ["super", "S", "make"] ∧
    (f.context r {}).resolve? plain = some 0 ∧ (make.context r {}).resolve? plain = some 3 ∧
    (f.context r {}).resolve? viaSelf = (f.context r {}).resolve? plain ∧
    (g.context r {}).resolve? viaSuper = (f.context r {}).resolve? viaSelf ∧
    (f.context r {}).resolve? viaCrate = (make.context r {}).resolve? plain := by
  have hsome : ((parse? spellings).any fun tree => ((Registry.of spellings tree {}).entries[1]?).any fun f =>
      ((Registry.of spellings tree {}).entries[2]?).any fun g =>
        ((Registry.of spellings tree {}).entries[3]?).any fun make => (f.calledPath? 0).any fun plain =>
          (f.calledPath? 1).any fun viaSelf => (f.calledPath? 2).any fun viaCrate => (g.calledPath? 0).any fun viaSuper =>
            decide (f.module = ["a"] ∧ g.module = ["a", "b"] ∧ make.module = []) &&
            decide (plain.names? = some ["S", "make"] ∧ viaSelf.names? = some ["self", "S", "make"] ∧
              viaCrate.names? = some ["crate", "S", "make"] ∧ viaSuper.names? = some ["super", "S", "make"]) &&
            decide ((f.context (Registry.of spellings tree {}) {}).resolve? plain = some 0 ∧
              (make.context (Registry.of spellings tree {}) {}).resolve? plain = some 3)) = true := by decide +kernel
  simp only [Option.any_eq_true, Bool.and_eq_true, decide_eq_true_eq] at hsome
  obtain ⟨tree, htree, f, hf, g, hg, make, hmake, plain, _, viaSelf, _, viaCrate, _, viaSuper, _,
    ⟨⟨hfm, hgm, hmm⟩, hplain, hself, hcrate, hsuper⟩, hfirst, hlast⟩ := hsome
  obtain ⟨hbehind, hroot⟩ := spellings_resolve_alike spellings tree {} _ rfl ["a"] ["S", "make"] (by simp) (by simp) plain
    hplain (f.context _ {}) ⟨rfl, hfm⟩
  obtain ⟨hsame, hinner⟩ := hbehind viaSelf hself
  exact ⟨tree, _, f, g, make, plain, viaSelf, viaCrate, viaSuper, htree, rfl, List.mem_of_getElem? hf, hfm,
    List.mem_of_getElem? hg, hgm, List.mem_of_getElem? hmake, hmm, hplain, hself, hcrate, hsuper, hfirst, hlast,
    hsame _ ⟨rfl, hfm⟩, hinner viaSuper hsuper _ "b" ⟨rfl, hgm⟩, hroot viaCrate hcrate _ ⟨rfl, hmm⟩⟩

end AsyncLint
