import AsyncLint.Proofs.Visit

/-!
# Classifications

Any number of classifications, in any order and on one cache, answer whether a declaration suspends, as defined
without the search. Between two of them the cache holds verdicts only, and verdicts are never taken back.
-/

namespace AsyncLint

open Cache

variable {u : CompileUnit} {g : Guard} {id : DeclId} {c c' : Cache}

/-- Caches that know nothing yet. -/
inductive Cache.Blank : Cache → Prop where
  | new : Blank {}
  | sized (n : Nat) : Blank (sized n)
  | cleared (c : Cache) : Blank c.clear

theorem Cache.Blank.resting (h : Blank c) : Resting u g c := by
  cases h with
  | new => exact resting_of_unvisited (fun d => by simp [state]) rfl rfl
  | sized n => exact resting_of_unvisited (state_sized n) rfl rfl
  | cleared c => exact resting_of_unvisited (state_clear c) rfl rfl

/-! ## The budget -/

/-- A visit that ends has not met a missing declaration and has not run out of its budget. -/
theorem exists_declaration_of_ends {budget : Nat} {outcome : Outcome} (h : (visit u g budget id).Ends c outcome c')
    (hst : c.state id = .unvisited) : ∃ d rest, u.declaration? id = some d ∧ budget = rest + 1 := by
  unfold visit at h
  obtain ⟨_, _, hget, hopen⟩ := Visiting.ends_bind_iff.mp h
  obtain ⟨rfl, rfl⟩ := hget.unique (Visiting.ends_get c)
  simp only [hst] at hopen
  obtain ⟨_, _, _, hbody⟩ := Visiting.ends_bind_iff.mp hopen
  cases hd : u.declaration? id with
  | none => exact absurd (by simpa only [hd] using hbody) Visiting.not_ends_throw
  | some d =>
      cases budget with
      | zero => exact absurd (by simpa only [hd] using hbody) Visiting.not_ends_throw
      | succ rest => exact ⟨d, rest, rfl, rfl⟩

theorem visit_refines_of_visited {budget budget' : Nat} {outcome : Outcome} (hst : c.state id ≠ .unvisited)
    (h : (visit u g budget id).Ends c outcome c') : (visit u g budget' id).Ends c outcome c' := by
  unfold visit at h ⊢
  obtain ⟨_, _, hget, hknown⟩ := Visiting.ends_bind_iff.mp h
  obtain ⟨rfl, rfl⟩ := hget.unique (Visiting.ends_get c)
  refine (Visiting.ends_get _).bind ?_
  split at hknown
  · simp_all only
  · simp_all only
  · simp_all only
  · simp_all only
  · contradiction

/-- A visit that ends does so in the same way with a larger budget. -/
theorem visit_refines_succ (budget : Nat) (id : DeclId) : (visit u g budget id).Refines (visit u g (budget + 1) id) := by
  induction budget generalizing id with
  | zero =>
      intro c outcome c' h
      by_cases hst : c.state id = .unvisited
      · obtain ⟨_, _, _, hb⟩ := exists_declaration_of_ends h hst
        cases hb
      · exact visit_refines_of_visited hst h
  | succ budget ih =>
      intro c outcome c' h
      by_cases hst : c.state id = .unvisited
      · obtain ⟨d, _, hd, _⟩ := exists_declaration_of_ends h hst
        rw [visit_ends_iff hd hst] at h ⊢
        exact (walkBody_refines ih d).bind (fun o => .refl _) _ _ _ h
      · exact visit_refines_of_visited hst h

theorem visit_refines_of_le {budget budget' : Nat} (hle : budget ≤ budget') (id : DeclId) :
    (visit u g budget id).Refines (visit u g budget' id) := by
  induction hle with
  | refl => exact .refl _
  | step _ ih => exact fun c outcome c' h => visit_refines_succ _ id c outcome c' (ih c outcome c' h)

/-! ## Runs -/

/-- What has a state keeps it. -/
def Cache.Keeps (c c' : Cache) : Prop :=
  ∀ d, c.state d ≠ .unvisited → c'.state d = c.state d

theorem Cache.Keeps.trans {c₁ c₂ : Cache} (h₁ : c.Keeps c₁) (h₂ : c₁.Keeps c₂) : c.Keeps c₂ := by
  intro d hd
  have hs := h₁ d hd
  rw [h₂ d (hs ▸ hd), hs]

/-- Any number of classifications in any order give the right answers, leave nothing open and take nothing back. -/
theorem classifyAll_ends (hu : u.TargetsValid) (hc : Resting u g c) {ids : List DeclId} (hids : ∀ id ∈ ids, id < u.size) :
    ∃ vs c', (ids.mapM (classify u g)).Ends c vs c' ∧ Resting u g c' ∧ c.Keeps c' ∧
      List.Forall₂ (fun id v => v = true ↔ u.Suspends g id) ids vs := by
  obtain ⟨vs, c', hend, ⟨hc', hk⟩, hvs⟩ := Visiting.mapM_ends (f := classify u g)
    (I := fun c' => Resting u g c' ∧ c.Keeps c') (R := fun id v => v = true ↔ u.Suspends g id) ids
    (fun id hid c₁ ⟨hc₁, hk⟩ => by
      obtain ⟨v, c₂, hend, hc₂, he, hv⟩ := classify_ends hu hc₁ (hids id hid)
      exact ⟨v, c₂, hend, ⟨hc₂, hk.trans he.kept⟩, hv⟩)
    ⟨hc, fun _ _ => rfl⟩
  exact ⟨vs, c', hend, hc', hk, hvs⟩

/-! ## The answers -/

/-- Classifications on a cache that started blank answer whether the declarations suspend. -/
theorem classify_iff_suspends (u : CompileUnit) (hu : u.TargetsValid) (start : Cache) (hstart : start.Blank)
    (ids : List DeclId) (hids : ∀ id ∈ ids, id < u.size) :
    ∃ verdicts c, (ids.mapM (classify u (Guard.of u))).run.run start = (.ok verdicts, c) ∧
      List.Forall₂ (fun id verdict => verdict = true ↔ u.Suspends (Guard.of u) id) ids verdicts := by
  obtain ⟨verdicts, c, hend, _, _, hvs⟩ := classifyAll_ends hu (hstart.resting (g := Guard.of u)) hids
  exact ⟨verdicts, c, hend, hvs⟩

/-- Two functions that await each other, the second of them also one that suspends, and one that awaits itself. -/
def relay : CompileUnit where
  name := "relay.rs"
  declarations := #[
    { name := "ping", location := ⟨"relay.rs", 1, 1⟩, isAsync := true, body := some (.call 0 []) },
    { name := "pong", location := ⟨"relay.rs", 2, 1⟩, isAsync := true, body := some (.block [.call 1 [], .call 2 []]) },
    { name := "wait", location := ⟨"relay.rs", 3, 1⟩, isAsync := true, body := some (.call 3 [.inert]) },
    { name := "spin", location := ⟨"relay.rs", 4, 1⟩, isAsync := true, body := some (.loop [] (.call 4 [])) }]
  callTargets := #[.asyncDecl 1, .asyncDecl 0, .asyncDecl 2, .suspension, .asyncDecl 3]

theorem classify_iff_suspends_relay : relay.TargetsValid ∧ (∀ id ∈ [1, 3, 0, 1, 2], id < relay.size) ∧
    ∃ verdicts c, ([1, 3, 0, 1, 2].mapM (classify relay (Guard.of relay))).run.run {} = (.ok verdicts, c) ∧
      List.Forall₂ (fun id verdict => verdict = true ↔ relay.Suspends (Guard.of relay) id) [1, 3, 0, 1, 2] verdicts :=
  ⟨by decide, by decide, classify_iff_suspends relay (by decide) {} .new [1, 3, 0, 1, 2] (by decide)⟩

/-! ## The cache over whole runs -/

/-- With nothing open, the number of declarations bounds how deep visits nest: a larger budget changes nothing. -/
theorem visit_budget_irrelevant (hu : u.TargetsValid) (hc : Resting u g c) (hid : id < u.size) {budget : Nat}
    (hb : u.size ≤ budget) : (visit u g budget id).run.run c = (visit u g u.size id).run.run c := by
  obtain ⟨outcome, c', hend, _⟩ := visits_end hu u.size id c hid hc.toSound (hc.leadsTo id) (Nat.le_add_right _ _)
  exact (visit_refines_of_le hb id c outcome c' hend).trans hend.symm

/-- Every call in a run of classifications comes to an end, at whatever depth it is cut off beyond the number of
declarations. It leaves verdicts only, one for each declaration that was ever entered; no later call takes them back;
and it has touched nothing but what `id` reaches. -/
theorem classify_cache_discipline (u : CompileUnit) (hu : u.TargetsValid) (start : Cache) (hstart : start.Blank)
    (earlier : List DeclId) (id : DeclId) (later : List DeclId) (hearlier : ∀ d ∈ earlier, d < u.size)
    (hid : id < u.size) (hlater : ∀ d ∈ later, d < u.size) :
    ∃ vs c v c' ws c'',
      (earlier.mapM (classify u (Guard.of u))).run.run start = (.ok vs, c) ∧
      (classify u (Guard.of u) id).run.run c = (.ok v, c') ∧
      (later.mapM (classify u (Guard.of u))).run.run c' = (.ok ws, c'') ∧
      (∀ budget, u.size ≤ budget →
        (visit u (Guard.of u) budget id).run.run c = (visit u (Guard.of u) u.size id).run.run c) ∧
      (∀ d, c'.state d ≠ .inProgress ∧ c'.state d ≠ .pending) ∧
      c'.pending = [] ∧
      c'.entered = c'.resolved ∧
      (∀ d, c'.state d = .suspends ∨ c'.state d = .doesNotSuspend → c''.state d = c'.state d) ∧
      ∀ d, c'.state d ≠ c.state d → u.Reaches (Guard.of u) id d := by
  obtain ⟨vs, c, hvs, hc, _, _⟩ := classifyAll_ends hu (hstart.resting (g := Guard.of u)) hearlier
  obtain ⟨v, c', hv, hc', he, _⟩ := classify_ends hu hc hid
  obtain ⟨ws, c'', hws, _, hk, _⟩ := classifyAll_ends hu hc' hlater
  refine ⟨vs, c, v, c', ws, c'', hvs, hv, hws, fun _ hb => visit_budget_irrelevant hu hc hid hb, ?_,
    hc'.pending_eq_nil, hc'.entered_eq_resolved, ?_, he.reached⟩
  · intro d
    have hd := hc'.closed d
    constructor <;> intro hs <;> rw [hs] at hd <;> cases hd
  · rintro d (hs | hs) <;> exact hk d (by rw [hs]; simp)

theorem classify_cache_discipline_relay : relay.TargetsValid ∧ 1 < relay.size ∧
    ∃ vs c v c' ws c'',
      ([3, 0].mapM (classify relay (Guard.of relay))).run.run (Cache.sized 2).clear = (.ok vs, c) ∧
      (classify relay (Guard.of relay) 1).run.run c = (.ok v, c') ∧
      ([2, 1].mapM (classify relay (Guard.of relay))).run.run c' = (.ok ws, c'') ∧
      (∀ budget, relay.size ≤ budget →
        (visit relay (Guard.of relay) budget 1).run.run c = (visit relay (Guard.of relay) relay.size 1).run.run c) ∧
      (∀ d, c'.state d ≠ .inProgress ∧ c'.state d ≠ .pending) ∧
      c'.pending = [] ∧
      c'.entered = c'.resolved ∧
      (∀ d, c'.state d = .suspends ∨ c'.state d = .doesNotSuspend → c''.state d = c'.state d) ∧
      ∀ d, c'.state d ≠ c.state d → relay.Reaches (Guard.of relay) 1 d :=
  ⟨by decide, by decide, classify_cache_discipline relay (by decide) (Cache.sized 2).clear (.cleared _) [3, 0] 1 [2, 1]
    (by decide) (by decide) (by decide)⟩

end AsyncLint
