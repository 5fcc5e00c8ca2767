import AsyncLint.Proofs.Classification
import AsyncLint.Proofs.Place

/-!
# What the rule reports

A run reports exactly the declarations that are async, not exempt, never suspend and are visible enough. What earlier
runs and classifications have left in the cache makes no difference.
-/

namespace AsyncLint

open Cache

variable {u : CompileUnit} {rule : RuleConfig} {id : DeclId} {c c' : Cache}

/-- Declaration `d` under the number `id` is one that the rule reports. -/
structure RuleConfig.Flags (rule : RuleConfig) (u : CompileUnit) (id : DeclId) (d : Declaration) : Prop where
  declared : u.declaration? id = some d
  isAsync : d.isAsync = true
  notExempt : (Guard.of u).isExempt id = false
  quiet : ¬ u.Suspends (Guard.of u) id
  visible : d.visibility = .exported ∨ rule.reportNonPublic = true

/-- What the rule says about declaration `id`: the finding that it gives, if it gives one. -/
def RuleConfig.Judges (rule : RuleConfig) (u : CompileUnit) (id : DeclId) (judgement : Option Finding) : Prop :=
  ∀ f, judgement = some f ↔ ∃ d, rule.Flags u id d ∧ f = .of rule.severity d

theorem RuleConfig.Judges.unique {a b : Option Finding} (ha : rule.Judges u id a) (hb : rule.Judges u id b) : a = b :=
  Option.ext fun f => (ha f).trans (hb f).symm

theorem judges_none (h : ∀ d, ¬ rule.Flags u id d) : rule.Judges u id none := by
  intro f
  constructor
  · nofun
  · rintro ⟨d, hd, _⟩
    exact absurd hd (h d)

theorem judges_some {d : Declaration} (h : rule.Flags u id d) : rule.Judges u id (some (.of rule.severity d)) := by
  intro f
  constructor
  · intro hf
    exact ⟨d, h, (Option.some.inj hf).symm⟩
  · rintro ⟨d', hd', rfl⟩
    rw [Option.some.inj (h.declared.symm.trans hd'.declared)]

theorem mem_asyncIds_iff : id ∈ u.asyncIds ↔ ∃ d, u.declaration? id = some d ∧ d.isAsync = true := by
  simp only [CompileUnit.asyncIds, CompileUnit.ids, List.mem_filter, List.mem_range, Option.any_eq_true]
  constructor
  · rintro ⟨_, d, hd, ha⟩
    exact ⟨d, hd, ha⟩
  · rintro ⟨d, hd, ha⟩
    exact ⟨(Array.getElem?_eq_some_iff.mp hd).1, d, hd, ha⟩

/-! ## One declaration -/

theorem judge_ends (hu : u.TargetsValid) (hc : Resting u (Guard.of u) c) (hid : id ∈ u.asyncIds) :
    ∃ judgement c', (rule.judge u (Guard.of u) id).Ends c judgement c' ∧ Resting u (Guard.of u) c' ∧
      rule.Judges u id judgement := by
  obtain ⟨d, hd, ha⟩ := mem_asyncIds_iff.mp hid
  have hlt : id < u.size := (Array.getElem?_eq_some_iff.mp hd).1
  have heq : ∀ {d'}, rule.Flags u id d' → d' = d := fun h => Option.some.inj (h.declared.symm.trans hd)
  unfold RuleConfig.judge
  rw [hd]
  cases he : (Guard.of u).isExempt id with
  | true =>
      refine ⟨none, c, rfl, hc, judges_none fun d' h => ?_⟩
      rw [h.notExempt] at he; cases he
  | false =>
      obtain ⟨v, c', hend, hc', _, hv⟩ := classify_ends hu hc hlt
      cases v with
      | true =>
          refine ⟨none, c', hend.bind rfl, hc', judges_none fun d' h => ?_⟩
          exact h.quiet (hv.mp rfl)
      | false =>
          have hquiet : ¬ u.Suspends (Guard.of u) id := fun h => by cases hv.mpr h
          by_cases hvis : (!rule.reportNonPublic && decide (d.visibility ≠ .exported)) = true
          · refine ⟨none, c', hend.bind ?_, hc', judges_none fun d' h => ?_⟩
            · simp only [Bool.false_eq_true, if_false, if_pos hvis]
              rfl
            · obtain rfl := heq h
              rcases h.visible with h | h <;> simp [h] at hvis
          · refine ⟨some (.of rule.severity d), c', hend.bind ?_, hc', judges_some ⟨hd, ha, he, hquiet, ?_⟩⟩
            · simp only [Bool.false_eq_true, if_false, if_neg hvis]
              rfl
            · by_contra hno
              simp_all

/-! ## All declarations -/

theorem judgements_unique {ids : List DeclId} {as bs : List (Option Finding)} (ha : List.Forall₂ (rule.Judges u) ids as)
    (hb : List.Forall₂ (rule.Judges u) ids bs) : as = bs := by
  induction ha generalizing bs with
  | nil => cases hb; rfl
  | cons h _ ih =>
      cases hb with
      | cons h' hb => rw [h.unique h', ih hb]

/-- The declarations among `ids` that a finding is given for. -/
def flaggedIds (ids : List DeclId) (judgements : List (Option Finding)) : List DeclId :=
  (ids.zip judgements).filterMap fun (id, judgement) => judgement.map fun _ => id

theorem flaggedIds_sublist {ids : List DeclId} {judgements : List (Option Finding)}
    (h : List.Forall₂ (rule.Judges u) ids judgements) : (flaggedIds ids judgements).Sublist ids := by
  induction h with
  | nil => exact .refl _
  | @cons id judgement _ _ _ _ ih =>
      cases judgement with
      | none => exact ih.cons id
      | some f => exact ih.cons_cons id

theorem mem_flaggedIds_iff {ids : List DeclId} {judgements : List (Option Finding)}
    (h : List.Forall₂ (rule.Judges u) ids judgements) :
    id ∈ flaggedIds ids judgements ↔ id ∈ ids ∧ ∃ d, rule.Flags u id d := by
  induction h with
  | nil => simp [flaggedIds]
  | @cons id' judgement ids judgements hj _ ih =>
      cases judgement with
      | none =>
          change id ∈ flaggedIds ids judgements ↔ _
          rw [ih, List.mem_cons]
          constructor
          · rintro ⟨he, hd⟩
            exact ⟨Or.inr he, hd⟩
          · rintro ⟨rfl | he, d, hd⟩
            · cases (hj _).mpr ⟨d, hd, rfl⟩
            · exact ⟨he, d, hd⟩
      | some f =>
          obtain ⟨d, hd, rfl⟩ := (hj f).mp rfl
          change id ∈ id' :: flaggedIds ids judgements ↔ _
          rw [List.mem_cons, List.mem_cons, ih]
          constructor
          · rintro (rfl | ⟨he, hd⟩)
            · exact ⟨Or.inl rfl, d, hd⟩
            · exact ⟨Or.inr he, hd⟩
          · rintro ⟨rfl | he, hd⟩
            · exact Or.inl rfl
            · exact Or.inr ⟨he, hd⟩

theorem flaggedIds_findings {ids : List DeclId} {judgements : List (Option Finding)}
    (h : List.Forall₂ (rule.Judges u) ids judgements) :
    List.Forall₂ (fun id f => ∃ d, u.declaration? id = some d ∧ f = .of rule.severity d) (flaggedIds ids judgements)
      (judgements.filterMap fun j => j) := by
  induction h with
  | nil => exact .nil
  | @cons id judgement _ _ hj _ ih =>
      cases judgement with
      | none => exact ih
      | some f =>
          obtain ⟨d, hd, hf⟩ := (hj f).mp rfl
          exact .cons ⟨d, hd.declared, hf⟩ ih

theorem mem_flaggedIds_asyncIds_iff {judgements : List (Option Finding)}
    (h : List.Forall₂ (rule.Judges u) u.asyncIds judgements) :
    id ∈ flaggedIds u.asyncIds judgements ↔ ∃ d, rule.Flags u id d := by
  rw [mem_flaggedIds_iff h, and_iff_right_of_imp]
  rintro ⟨d, hd⟩
  exact mem_asyncIds_iff.mpr ⟨d, hd.declared, hd.isAsync⟩

theorem judgements_end (rule : RuleConfig) (hu : u.TargetsValid) (hc : Resting u (Guard.of u) c) :
    ∃ judgements c', (u.asyncIds.mapM (rule.judge u (Guard.of u))).Ends c judgements c' ∧
      Resting u (Guard.of u) c' ∧ List.Forall₂ (rule.Judges u) u.asyncIds judgements :=
  Visiting.mapM_ends u.asyncIds (fun _ hid _ hc => judge_ends hu hc hid) hc

theorem runCached_ends (rule : RuleConfig) (hu : u.TargetsValid) (hc : Resting u (Guard.of u) c) :
    ∃ findings c', (rule.runCached u).Ends c findings c' ∧ Resting u (Guard.of u) c' ∧
      (rule.active = false → findings = []) ∧
      (rule.active = true → ∃ judgements, List.Forall₂ (rule.Judges u) u.asyncIds judgements ∧
        findings = RuleConfig.sortFindings (judgements.filterMap fun j => j)) := by
  unfold RuleConfig.runCached
  cases ha : rule.active with
  | false => exact ⟨[], c, rfl, hc, fun _ => rfl, nofun⟩
  | true =>
      obtain ⟨judgements, c', hend, hc', hj⟩ := judgements_end rule hu hc
      exact ⟨_, c', hend.bind rfl, hc', nofun, fun _ => ⟨judgements, hj, rfl⟩⟩

/-! ## Caches that a unit has been analysed with -/

/-- What becomes of a new cache by classifications, runs with any settings, and clearing, all for one unit. -/
inductive Cache.Used (u : CompileUnit) : Cache → Prop where
  | new : Used u {}
  | sized (n : Nat) : Used u (sized n)
  | classified {c c' : Cache} {id : DeclId} {verdict : Bool} (h : Used u c)
      (he : (classify u (Guard.of u) id).run.run c = (.ok verdict, c')) : Used u c'
  | ran {c c' : Cache} {rule : RuleConfig} {findings : List Finding} (h : Used u c)
      (he : (rule.runCached u).run.run c = (.ok findings, c')) : Used u c'
  | cleared {c : Cache} (h : Used u c) : Used u c.clear

/-- A classification of a declaration that is missing does not end. -/
theorem lt_size_of_classify_ends {g : Guard} {verdict : Bool} (hc : Resting u g c)
    (h : (classify u g id).Ends c verdict c') : id < u.size := by
  by_contra hid
  have hst : c.state id = .unvisited := by
    by_contra hst
    exact hid (hc.valid id hst)
  obtain ⟨_, _, hvisit, _⟩ := Visiting.ends_bind_iff.mp h
  obtain ⟨d, _, hd, _⟩ := exists_declaration_of_ends hvisit hst
  exact hid (Array.getElem?_eq_some_iff.mp hd).1

theorem Cache.Used.resting (hu : u.TargetsValid) (h : Used u c) : Resting u (Guard.of u) c := by
  induction h with
  | new => exact Blank.new.resting
  | sized n => exact (Blank.sized n).resting
  | classified _ he ih =>
      obtain ⟨_, _, hend, hc', _⟩ := classify_ends hu ih (lt_size_of_classify_ends ih he)
      obtain ⟨_, rfl⟩ := hend.unique he
      exact hc'
  | @ran _ _ rule _ _ he ih =>
      obtain ⟨_, _, hend, hc', _⟩ := runCached_ends rule hu ih
      obtain ⟨_, rfl⟩ := hend.unique he
      exact hc'
  | cleared _ _ => exact (Blank.cleared _).resting

/-! ## The findings of a run -/

theorem run_eq_of_runCached_ends {findings : List Finding} (hu : u.TargetsValid) (hc : Resting u (Guard.of u) c)
    (h : (rule.runCached u).Ends c findings c') : rule.run u = .ok findings := by
  obtain ⟨fs, c₁, hend, _, hoff, hon⟩ := runCached_ends rule hu hc
  obtain ⟨fs', c₂, hend', _, hoff', hon'⟩ := runCached_ends rule hu (Blank.sized u.size).resting
  obtain ⟨rfl, _⟩ := hend.unique h
  have heq : fs' = fs := by
    cases ha : rule.active with
    | false => rw [hoff ha, hoff' ha]
    | true =>
        obtain ⟨js, hjs, rfl⟩ := hon ha
        obtain ⟨js', hjs', rfl⟩ := hon' ha
        rw [judgements_unique hjs hjs']
  have hrun : ((rule.runCached u).run.run (sized u.size)).1 = .ok fs' := by rw [hend']
  rw [RuleConfig.run, hrun, heq]

/-! ## The declarations that a run reports -/

/-- The declarations that a run gives a finding for. -/
def RuleConfig.reported (rule : RuleConfig) (u : CompileUnit) : List DeclId :=
  if rule.active then
    match (u.asyncIds.mapM (rule.judge u (Guard.of u))).run.run (sized u.size) with
    | (.ok judgements, _) => flaggedIds u.asyncIds judgements
    | (.error _, _) => []
  else []

theorem reported_of_inactive (h : rule.active = false) : rule.reported u = [] := by
  rw [RuleConfig.reported, h, if_neg Bool.false_ne_true]

theorem reported_of_active {judgements : List (Option Finding)} (hu : u.TargetsValid) (h : rule.active = true)
    (hj : List.Forall₂ (rule.Judges u) u.asyncIds judgements) : rule.reported u = flaggedIds u.asyncIds judgements := by
  obtain ⟨judgements', c', hend, _, hj'⟩ := judgements_end rule hu (Blank.sized u.size).resting
  rw [RuleConfig.reported, h, if_pos rfl, hend, judgements_unique hj hj']

theorem mem_reported_iff (hu : u.TargetsValid) :
    id ∈ rule.reported u ↔ rule.active = true ∧ ∃ d, rule.Flags u id d := by
  cases ha : rule.active with
  | false => simp [reported_of_inactive ha]
  | true =>
      obtain ⟨judgements, _, _, _, hj⟩ := judgements_end rule hu (Blank.sized u.size).resting
      rw [reported_of_active hu ha hj, mem_flaggedIds_asyncIds_iff hj, and_iff_right rfl]

theorem reported_pairwise (rule : RuleConfig) (hu : u.TargetsValid) : (rule.reported u).Pairwise (· < ·) := by
  cases ha : rule.active with
  | false => simp [reported_of_inactive ha]
  | true =>
      obtain ⟨judgements, _, _, _, hj⟩ := judgements_end rule hu (Blank.sized u.size).resting
      rw [reported_of_active hu ha hj]
      exact (List.pairwise_lt_range.sublist List.filter_sublist).sublist (flaggedIds_sublist hj)

/-- The findings of a run are those of the declarations that it reports. -/
theorem run_findings_reported (rule : RuleConfig) (hu : u.TargetsValid) :
    ∃ findings emitted, rule.run u = .ok findings ∧
      List.Forall₂ (fun id f => ∃ d, u.declaration? id = some d ∧ f = .of rule.severity d) (rule.reported u) emitted ∧
      StableSort (fun a b => a.location.compare b.location) emitted findings := by
  have hrest := (Blank.sized u.size).resting (u := u) (g := Guard.of u)
  obtain ⟨findings, c', hend, _, hoff, hon⟩ := runCached_ends rule hu hrest
  have hrun := run_eq_of_runCached_ends hu hrest hend
  cases ha : rule.active with
  | false =>
      obtain rfl := hoff ha
      refine ⟨[], [], hrun, reported_of_inactive ha ▸ .nil, ?_⟩
      simpa [RuleConfig.sortFindings] using stableSort_sortFindings []
  | true =>
      obtain ⟨judgements, hj, rfl⟩ := hon ha
      exact ⟨_, _, hrun, reported_of_active hu ha hj ▸ flaggedIds_findings hj, stableSort_sortFindings _⟩

/-- The finding for declaration `id`. -/
def RuleConfig.finding? (rule : RuleConfig) (u : CompileUnit) (id : DeclId) : Option Finding :=
  (u.declaration? id).map (.of rule.severity)

theorem eq_filterMap_finding? {ids : List DeclId} {findings : List Finding}
    (h : List.Forall₂ (fun id f => ∃ d, u.declaration? id = some d ∧ f = .of rule.severity d) ids findings) :
    findings = ids.filterMap (rule.finding? u) := by
  induction h with
  | nil => rfl
  | @cons id f _ _ hf _ ih =>
      obtain ⟨d, hd, rfl⟩ := hf
      have hid : rule.finding? u id = some (.of rule.severity d) := by rw [RuleConfig.finding?, hd, Option.map_some]
      rw [List.filterMap_cons_some hid, ih]

theorem mem_sortFindings {findings : List Finding} {f : Finding} :
    f ∈ RuleConfig.sortFindings findings ↔ f ∈ findings :=
  List.mem_mergeSort

theorem run_eq_sortFindings (rule : RuleConfig) (hu : u.TargetsValid) :
    rule.run u = .ok (RuleConfig.sortFindings ((rule.reported u).filterMap (rule.finding? u))) := by
  have hrest := (Blank.sized u.size).resting (u := u) (g := Guard.of u)
  obtain ⟨findings, c', hend, _, hoff, hon⟩ := runCached_ends rule hu hrest
  rw [run_eq_of_runCached_ends hu hrest hend]
  cases ha : rule.active with
  | false => simp [hoff ha, reported_of_inactive ha, RuleConfig.sortFindings]
  | true =>
      obtain ⟨judgements, hj, rfl⟩ := hon ha
      rw [reported_of_active hu ha hj, eq_filterMap_finding? (flaggedIds_findings hj)]

/-- A run on a cache that has been used for the same unit in any way reports nothing if the rule is inactive, and else
one finding for each declaration that the rule flags, sorted by place. A run on a new cache gives the same. -/
theorem runCached_exact (u : CompileUnit) (hu : u.TargetsValid) (rule : RuleConfig) (c : Cache) (hc : c.Used u) :
    ∃ findings c', (rule.runCached u).run.run c = (.ok findings, c') ∧
      rule.run u = .ok findings ∧
      (rule.active = false → findings = []) ∧
      (rule.active = true → ∃ flagged emitted,
        flagged.Pairwise (· < ·) ∧
        (∀ id, id ∈ flagged ↔ ∃ d, rule.Flags u id d) ∧
        List.Forall₂ (fun id f => ∃ d, u.declaration? id = some d ∧ f = .of rule.severity d) flagged emitted ∧
        StableSort (fun a b => a.location.compare b.location) emitted findings) := by
  have hrest := hc.resting hu
  obtain ⟨findings, c', hend, _, hoff, _⟩ := runCached_ends rule hu hrest
  have hrun := run_eq_of_runCached_ends hu hrest hend
  obtain ⟨findings', emitted, hrun', hemitted, hsort⟩ := run_findings_reported rule hu
  obtain rfl : findings' = findings := Except.ok.inj (hrun'.symm.trans hrun)
  refine ⟨findings', c', hend, hrun, hoff, fun ha => ?_⟩
  refine ⟨rule.reported u, emitted, reported_pairwise rule hu, fun id => ?_, hemitted, hsort⟩
  rw [mem_reported_iff hu, and_iff_right ha]

theorem runCached_exact_relay : relay.TargetsValid ∧ ∃ c : Cache, c.Used relay ∧
    ∃ findings c', (({} : RuleConfig).runCached relay).run.run c = (.ok findings, c') ∧
      ({} : RuleConfig).run relay = .ok findings ∧
      (({} : RuleConfig).active = false → findings = []) ∧
      (({} : RuleConfig).active = true → ∃ flagged emitted,
        flagged.Pairwise (· < ·) ∧
        (∀ id, id ∈ flagged ↔ ∃ d, ({} : RuleConfig).Flags relay id d) ∧
        List.Forall₂ (fun id f => ∃ d, relay.declaration? id = some d ∧ f = .of .warning d) flagged emitted ∧
        StableSort (fun a b => a.location.compare b.location) emitted findings) := by
  -- a cache that a classification of the second function has left behind
  obtain ⟨v, c, hend, _⟩ := classify_ends (u := relay) (g := Guard.of relay) (by decide) Blank.new.resting
    (by decide : 1 < relay.size)
  have hused : c.Used relay := .classified .new hend
  exact ⟨by decide, c, hused, runCached_exact relay (by decide) {} c hused⟩

end AsyncLint
