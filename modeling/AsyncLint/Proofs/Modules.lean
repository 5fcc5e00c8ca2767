import AsyncLint.Lowering.Form
import AsyncLint.Proofs.Lossless

/-!
# Modules of a source

The modules of a source are those whose declarations stand anywhere in it, also in the body of a function. Each goes by
the names of the modules around it and its own.
-/

namespace AsyncLint

open Source

namespace Source.SyntaxTree

/-- There is a module in the tree with the last of the names, inside of modules with the names before it. -/
inductive DeclaresModule : SyntaxTree → List String → Prop where
  | here {t : SyntaxTree} {n : String} (hk : t.isNode .module = true) (hn : t.name? = some n) : DeclaresModule t [n]
  | inside {t c : SyntaxTree} {n : String} {path : List String} (hk : t.isNode .module = true) (hn : t.name? = some n)
      (hc : c ∈ t.children) (h : DeclaresModule c path) : DeclaresModule t (n :: path)
  | beneath {t c : SyntaxTree} {path : List String} (hk : t.isNode .module = true → t.name? = none)
      (hc : c ∈ t.children) (h : DeclaresModule c path) : DeclaresModule t path

variable {t : SyntaxTree} {path : List String}

theorem DeclaresModule.ne_nil (h : t.DeclaresModule path) : path ≠ [] := by
  induction h with
  | here => exact List.cons_ne_nil _ _
  | inside => exact List.cons_ne_nil _ _
  | beneath _ _ _ ih => exact ih

/-- What a module is declared in is declared as well. -/
theorem DeclaresModule.outer {a b : List String} (h : t.DeclaresModule (a ++ b)) (ha : a ≠ []) :
    t.DeclaresModule a := by
  generalize hpath : a ++ b = path at h
  induction h generalizing a with
  | here hk hn =>
      obtain ⟨n, a, rfl⟩ := List.exists_cons_of_ne_nil ha
      obtain ⟨rfl, hnil⟩ := List.cons.inj hpath
      rw [(List.append_eq_nil_iff.mp hnil).1]
      exact .here hk hn
  | inside hk hn hc _ ih =>
      obtain ⟨n, a, rfl⟩ := List.exists_cons_of_ne_nil ha
      obtain ⟨rfl, hrest⟩ := List.cons.inj hpath
      by_cases ha' : a = []
      · rw [ha']
        exact .here hk hn
      · exact .inside hk hn hc (ih ha' hrest)
  | beneath hk hc _ ih => exact .beneath hk hc (ih ha hpath)

theorem Named.isWord_of_name? {n : String} (h : t.Named) (hn : t.name? = some n) : IsWord n := by
  obtain ⟨c, hc, rfl⟩ := Option.map_eq_some_iff.mp hn
  exact ((h.of_mem_children (List.mem_of_find?_eq_some hc)).name (List.find?_some hc)).1

theorem DeclaresModule.isWord (h : t.DeclaresModule path) (hnamed : t.Named) : ∀ n ∈ path, IsWord n := by
  induction h with
  | here _ hn => simpa using hnamed.isWord_of_name? hn
  | inside _ hn hc _ ih =>
      rw [List.forall_mem_cons]
      exact ⟨hnamed.isWord_of_name? hn, ih (hnamed.of_mem_children hc)⟩
  | beneath _ hc _ ih => exact ih (hnamed.of_mem_children hc)

theorem module_surroundingsBelow (t : SyntaxTree) (s : Surroundings) :
    (t.surroundingsBelow s).module = s.module ++ if t.isNode .module then t.name?.toList else [] := by
  unfold surroundingsBelow isNode
  split <;> simp_all

end Source.SyntaxTree

theorem modulePathsOf_eq (s : Surroundings) (ts : List SyntaxTree) :
    modulePathsOf s ts = ts.flatMap (modulePaths s) := by
  induction ts with
  | nil => rfl
  | cons t ts ih => rw [modulePathsOf, ih, List.flatMap_cons]

theorem modulePaths_eq (s : Surroundings) (t : SyntaxTree) :
    modulePaths s t = (if t.isNode .module then [(t.surroundingsBelow s).module] else []) ++
      t.children.flatMap (modulePaths (t.surroundingsBelow s)) := by
  cases t with
  | token => rfl
  | node kind children =>
      by_cases hk : kind = .module <;>
        simp [modulePaths, modulePathsOf_eq, SyntaxTree.isNode, SyntaxTree.kind?, SyntaxTree.children, hk]

/-- Only declared modules are entered, apart from those whose name is missing. -/
theorem declaresModule_of_mem {path : List String} (s : Surroundings) (t : SyntaxTree) (h : path ∈ modulePaths s t) :
    ∃ rest, path = s.module ++ rest ∧ (rest = [] ∨ t.DeclaresModule rest) := by
  rw [modulePaths_eq, List.mem_append, List.mem_flatMap] at h
  by_cases hn : ∃ n, t.isNode .module = true ∧ t.name? = some n
  · obtain ⟨n, hk, hn⟩ := hn
    have hinside : (t.surroundingsBelow s).module = s.module ++ [n] := by simp [t.module_surroundingsBelow, hk, hn]
    rcases h with h | ⟨c, hc, h⟩
    · exact ⟨[n], by simpa [hk, hinside] using h, Or.inr (.here hk hn)⟩
    · obtain ⟨rest, rfl, hrest⟩ := declaresModule_of_mem _ c h
      refine ⟨n :: rest, by simp [hinside], Or.inr ?_⟩
      rcases hrest with rfl | hd
      · exact .here hk hn
      · exact .inside hk hn hc hd
  · have hnone : t.isNode .module = true → t.name? = none := by
      intro hk
      exact Option.eq_none_iff_forall_ne_some.mpr fun n he => hn ⟨n, hk, he⟩
    have hinside : (t.surroundingsBelow s).module = s.module := by
      by_cases hk : t.isNode .module = true
      · simp [t.module_surroundingsBelow, hk, hnone hk]
      · simp [t.module_surroundingsBelow, hk]
    rcases h with h | ⟨c, hc, h⟩
    · refine ⟨[], ?_, Or.inl rfl⟩
      split at h
      · simpa [hinside] using h
      · cases h
    · obtain ⟨rest, rfl, hrest⟩ := declaresModule_of_mem _ c h
      exact ⟨rest, by rw [hinside], hrest.imp_right (.beneath hnone hc)⟩
termination_by sizeOf t
decreasing_by all_goals exact SyntaxTree.sizeOf_lt_of_mem_children (by assumption)

theorem mem_modulePaths {t : SyntaxTree} {path : List String} (h : t.DeclaresModule path) (s : Surroundings) :
    s.module ++ path ∈ modulePaths s t := by
  induction h generalizing s with
  | @here t n hk hn =>
      rw [modulePaths_eq]
      exact List.mem_append_left _ (by simp [hk, t.module_surroundingsBelow, hn])
  | @inside t c n path hk hn hc _ ih =>
      rw [modulePaths_eq]
      refine List.mem_append_right _ (List.mem_flatMap.mpr ⟨c, hc, ?_⟩)
      simpa [t.module_surroundingsBelow, hk, hn] using ih (t.surroundingsBelow s)
  | @beneath t c path hk hc _ ih =>
      rw [modulePaths_eq]
      refine List.mem_append_right _ (List.mem_flatMap.mpr ⟨c, hc, ?_⟩)
      have hinside := ih (t.surroundingsBelow s)
      by_cases hm : t.isNode .module = true
      · simpa [t.module_surroundingsBelow, hm, hk hm] using hinside
      · simpa [t.module_surroundingsBelow, hm] using hinside

theorem declaresModule_iff {t : SyntaxTree} {path : List String} :
    t.DeclaresModule path ↔ path ≠ [] ∧ path ∈ modulePaths {} t := by
  constructor
  · intro h
    exact ⟨h.ne_nil, mem_modulePaths h {}⟩
  · rintro ⟨hne, h⟩
    obtain ⟨rest, rfl, hrest⟩ := declaresModule_of_mem {} t h
    exact hrest.resolve_left fun hnil => hne (by rw [hnil])

instance (t : SyntaxTree) (path : List String) : Decidable (t.DeclaresModule path) :=
  decidable_of_iff _ declaresModule_iff.symm

theorem Registry.hasModule_iff {source : String} {tree : SyntaxTree} {config : LoweringConfig} {path : List String} :
    (Registry.of source tree config).hasModule path = true ↔ path = [] ∨ tree.DeclaresModule path := by
  rw [hasModule, of, List.contains_iff_mem, List.mem_cons, declaresModule_iff]
  by_cases hp : path = [] <;> simp [hp]

end AsyncLint
