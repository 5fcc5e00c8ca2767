import AsyncLint.Proofs.Findings

/-!
# Cleared caches

Clearing a cache keeps the length of its table and the numbers under which declarations were entered. Neither can be
noticed: a number is read only while its declaration is open, and entering a declaration gives it a new one. So whatever
is asked of a cleared cache, the answers and all that can be seen of the cache are those of a new one.
-/

namespace AsyncLint

open Cache

namespace Cache

variable {c c' : Cache} {id : DeclId} {s : VisitState}

/-- The caches differ at most in the length of the table and in the numbers of what is not visited. -/
structure Alike (c c' : Cache) : Prop where
  entered : c.entered = c'.entered
  pending : c.pending = c'.pending
  state : ∀ d, c.state d = c'.state d
  number : ∀ d, c.state d ≠ .unvisited → c.number d = c'.number d
  waiting : ∀ d ∈ c.pending, c.state d ≠ .unvisited

theorem alike_clear (c : Cache) : Alike c.clear {} where
  entered := rfl
  pending := rfl
  state d := by rw [state_clear]; rfl
  number d hd := absurd (state_clear c d) hd
  waiting d hd := by cases hd

namespace Alike

theorem enter (h : Alike c c') (id : DeclId) : Alike (c.enter id) (c'.enter id) where
  entered := by rw [entered_enter, entered_enter, h.entered]
  pending := h.pending
  state d := by rw [state_enter, state_enter, h.state]
  number d hd := by
    rw [state_enter] at hd
    rw [number_enter, number_enter]
    split
    · exact h.entered
    · exact h.number d (by rwa [if_neg ‹_›] at hd)
  waiting d hd := by
    rw [state_enter]
    split
    · decide
    · exact h.waiting d hd

/-- Only what is visited may get another state: the caches agree on its number. -/
theorem suspendJudgement (h : Alike c c') (hid : c.state id ≠ .unvisited) :
    Alike (c.suspendJudgement id) (c'.suspendJudgement id) where
  entered := h.entered
  pending := by rw [pending_suspendJudgement, pending_suspendJudgement, h.pending]
  state d := by rw [state_suspendJudgement, state_suspendJudgement, h.state]
  number d hd := by
    rw [state_suspendJudgement] at hd
    rw [number_suspendJudgement, number_suspendJudgement]
    by_cases he : d = id
    · rw [he]
      exact h.number id hid
    · exact h.number d (by rwa [if_neg he] at hd)
  waiting d hd := by
    rw [pending_suspendJudgement, List.mem_append, List.mem_singleton] at hd
    rw [state_suspendJudgement]
    split
    · decide
    · exact h.waiting d (hd.resolve_right ‹_›)

theorem commit (h : Alike c c') (hid : c.state id ≠ .unvisited) (mark : Nat) (hs : s ≠ .unvisited) :
    Alike (c.commit id mark s) (c'.commit id mark s) where
  entered := by rw [entered_commit, entered_commit, h.entered]
  pending := by rw [pending_commit, pending_commit, h.pending]
  state d := by rw [state_commit, state_commit, h.pending, h.state]
  number d hd := by
    rw [state_commit] at hd
    rw [number_commit, number_commit]
    by_cases he : d = id ∨ d ∈ c.pending.drop mark
    · -- what is settled has waited since it was entered
      rcases he with rfl | he
      · exact h.number d hid
      · exact h.number d (h.waiting d (List.mem_of_mem_drop he))
    · exact h.number d (by rwa [if_neg he] at hd)
  waiting d hd := by
    rw [pending_commit] at hd
    rw [state_commit]
    split
    · exact hs
    · exact h.waiting d (List.mem_of_mem_take hd)

theorem resolved (h : Alike c c') : c.resolved = c'.resolved := by
  have hbound : ∀ d, (c.state d).verdict?.isSome → d < max c.visits.size c'.visits.size := by
    intro d hd
    refine lt_max_of_lt_left (lt_size_of_state_ne fun hs => ?_)
    rw [hs] at hd
    cases hd
  rw [resolved_eq_card hbound, resolved_eq_card (by simpa only [h.state] using hbound)]
  simp only [h.state]

end Alike

/-- What is visited stays so. -/
def Grows (c c' : Cache) : Prop :=
  ∀ d, c.state d ≠ .unvisited → c'.state d ≠ .unvisited

theorem grows_enter (c : Cache) (id : DeclId) : c.Grows (c.enter id) := by
  intro d hd
  rw [state_enter]
  split
  · decide
  · exact hd

theorem grows_suspendJudgement (c : Cache) (id : DeclId) : c.Grows (c.suspendJudgement id) := by
  intro d hd
  rw [state_suspendJudgement]
  split
  · decide
  · exact hd

theorem grows_commit (c : Cache) (id : DeclId) (mark : Nat) (hs : s ≠ .unvisited) : c.Grows (c.commit id mark s) := by
  intro d hd
  rw [state_commit]
  split
  · exact hs
  · exact hd

end Cache

/-! ## Steps from caches that are alike -/

namespace Visiting

variable {α β : Type} {c c' : Cache} {x : Visiting α} {f : α → Visiting β}

/-- Begun in either of the caches, the step has the same result, and it leaves caches that are alike again. -/
structure SameFrom (x : Visiting α) (c c' : Cache) : Prop where
  result : (x.run.run c).1 = (x.run.run c').1
  alike : Alike (x.run.run c).2 (x.run.run c').2
  grows : c.Grows (x.run.run c).2

/-- The step does not tell apart caches that are alike. -/
def Agrees (x : Visiting α) : Prop :=
  ∀ c c', Alike c c' → x.SameFrom c c'

theorem sameFrom_pure (a : α) (h : Alike c c') : (pure a : Visiting α).SameFrom c c' :=
  ⟨rfl, h, fun _ hd => hd⟩

theorem sameFrom_throw (e : Fault) (h : Alike c c') : (throw e : Visiting α).SameFrom c c' :=
  ⟨rfl, h, fun _ hd => hd⟩

/-- A step that goes on as `y` in other caches. -/
theorem SameFrom.of_run {y : Visiting α} {c₁ c₁' : Cache} (hx : x.run.run c = y.run.run c₁)
    (hx' : x.run.run c' = y.run.run c₁') (hgrows : c.Grows c₁) (hy : y.SameFrom c₁ c₁') : x.SameFrom c c' := by
  refine ⟨?_, ?_, ?_⟩
  · rw [hx, hx', hy.result]
  · rw [hx, hx']
    exact hy.alike
  · rw [hx]
    exact fun d hd => hy.grows d (hgrows d hd)

theorem SameFrom.bind (hx : x.SameFrom c c')
    (hf : ∀ a c₁ c₁', Alike c₁ c₁' → c.Grows c₁ → (f a).SameFrom c₁ c₁') : (x >>= f).SameFrom c c' := by
  obtain ⟨hresult, halike, hgrows⟩ := hx
  rcases h₁ : x.run.run c with ⟨r, c₁⟩
  rcases h₂ : x.run.run c' with ⟨r', c₁'⟩
  rw [h₁, h₂] at hresult halike
  rw [h₁] at hgrows
  obtain rfl : r = r' := hresult
  cases r with
  | error e =>
      have hrun : ∀ {b b' : Cache}, x.run.run b = (.error e, b') →
          (x >>= f).run.run b = (throw e : Visiting β).run.run b' := by
        intro b b' hb
        simp only [ExceptT.run_bind, StateT.run_bind, hb]
        rfl
      exact .of_run (hrun h₁) (hrun h₂) hgrows (sameFrom_throw e halike)
  | ok a =>
      have hrun : ∀ {b b' : Cache}, x.run.run b = (.ok a, b') → (x >>= f).run.run b = (f a).run.run b' := by
        intro b b' hb
        simp only [ExceptT.run_bind, StateT.run_bind, hb]
        rfl
      exact .of_run (hrun h₁) (hrun h₂) hgrows (hf a c₁ c₁' halike hgrows)

theorem run_get_bind (f : Cache → Visiting α) (c : Cache) : (get >>= f).run.run c = (f c).run.run c := rfl

/-- A step that ends in the same way in both caches and changes neither. -/
theorem SameFrom.of_ends {a : α} (h : Alike c c') (hx : x.Ends c a c) (hx' : x.Ends c' a c') : x.SameFrom c c' := by
  refine ⟨?_, ?_, ?_⟩
  · rw [hx, hx']
  · rw [hx, hx']
    exact h
  · rw [hx]
    exact fun _ hd => hd

theorem agrees_pure (a : α) : (pure a : Visiting α).Agrees :=
  fun _ _ h => sameFrom_pure a h

theorem Agrees.bind (hx : x.Agrees) (hf : ∀ a, (f a).Agrees) : (x >>= f).Agrees :=
  fun c c' h => (hx c c' h).bind fun a c₁ c₁' h₁ _ => hf a c₁ c₁' h₁

theorem Agrees.andThen {x y : Visiting Outcome} (hx : x.Agrees) (hy : y.Agrees) : (x.andThen y).Agrees := by
  refine hx.bind fun o => ?_
  cases o with
  | suspends => exact agrees_pure _
  | quiet low =>
      refine hy.bind fun o => ?_
      cases o <;> exact agrees_pure _

theorem Agrees.mapM {f : α → Visiting β} (hf : ∀ a, (f a).Agrees) (as : List α) : (as.mapM f).Agrees := by
  induction as with
  | nil => exact agrees_pure _
  | cons a as ih =>
      rw [List.mapM_cons]
      exact (hf a).bind fun b => ih.bind fun bs => agrees_pure _

end Visiting

/-! ## Classification -/

open Visiting

section

variable {u : CompileUnit} {g : Guard}

theorem visitAll_agrees {visit : DeclId → Visiting Outcome} (h : ∀ id, (visit id).Agrees) (ts : List CallTarget) :
    (visitAll g visit ts).Agrees := by
  induction ts with
  | nil => exact agrees_pure _
  | cons t ts ih =>
      refine Agrees.andThen ?_ ih
      cases t with
      | asyncDecl callee =>
          rw [visitTarget]
          split
          · exact agrees_pure _
          · exact h callee
      | suspension => exact agrees_pure _
      | syncDecl _ => exact agrees_pure _
      | unknown => exact agrees_pure _

theorem walkBody_agrees {visit : DeclId → Visiting Outcome} (h : ∀ id, (visit id).Agrees) (d : Declaration) :
    (walkBody u g visit d).Agrees := by
  unfold walkBody
  cases d.body with
  | none => exact agrees_pure _
  | some body =>
      dsimp only
      rw [walk_eq]
      exact visitAll_agrees h _

theorem settle_sameFrom {c c' : Cache} {id : DeclId} (h : Alike c c') (hid : c.state id ≠ .unvisited) (number mark : Nat)
    (outcome : Outcome) : (settle id number mark outcome).SameFrom c c' := by
  cases outcome with
  | suspends => exact ⟨rfl, h.commit hid mark (by decide), grows_commit c id mark (by decide)⟩
  | quiet low =>
      rw [settle]
      split
      · exact ⟨rfl, h.commit hid mark (by decide), grows_commit c id mark (by decide)⟩
      · exact ⟨rfl, h.suspendJudgement hid, grows_suspendJudgement c id⟩

section

variable {c : Cache} {id : DeclId} {budget : Nat} (hst : c.state id = .unvisited)

include hst

theorem run_visit_of_unvisited {d : Declaration} (hd : u.declaration? id = some d) :
    (visit u g (budget + 1) id).run.run c =
      (walkBody u g (visit u g budget) d >>= settle id c.entered c.pending.length).run.run (c.enter id) := by
  unfold visit walkBody
  rw [run_get_bind]
  simp only [hst, hd]
  cases d.body <;> rfl

theorem run_visit_of_stuck (h : u.declaration? id = none ∨ budget = 0) :
    (visit u g budget id).run.run c = (throw (.noDeclaration id) : Visiting Outcome).run.run (c.enter id) := by
  unfold visit
  rw [run_get_bind]
  simp only [hst]
  rcases h with hd | rfl
  · rw [hd]
    rfl
  · cases u.declaration? id <;> rfl

end

theorem visit_sameFrom_of_visited {c c' : Cache} {id : DeclId} (h : Alike c c') (hst : c.state id ≠ .unvisited)
    (budget : Nat) : (visit u g budget id).SameFrom c c' := by
  have hnumber := h.number id hst
  have hstate := h.state id
  unfold visit
  cases hs : c.state id with
  | unvisited => exact absurd hs hst
  | suspends =>
      exact .of_ends h ((ends_get c).bind (by rw [hs]; rfl)) ((ends_get c').bind (by rw [← hstate, hs]; rfl))
  | doesNotSuspend =>
      exact .of_ends h ((ends_get c).bind (by rw [hs]; rfl)) ((ends_get c').bind (by rw [← hstate, hs]; rfl))
  | inProgress | pending =>
      exact .of_ends h ((ends_get c).bind (by rw [hs]; rfl))
        ((ends_get c').bind (by rw [← hstate, hs, hnumber]; rfl))

/-- A visit reads the number of a declaration only after the declaration was entered. -/
theorem visit_agrees (budget : Nat) (id : DeclId) : (visit u g budget id).Agrees := by
  induction budget generalizing id with
  | zero =>
      intro c c' h
      by_cases hst : c.state id = .unvisited
      · exact .of_run (run_visit_of_stuck hst (.inr rfl)) (run_visit_of_stuck (h.state id ▸ hst) (.inr rfl)) (grows_enter c id)
          (sameFrom_throw _ (h.enter id))
      · exact visit_sameFrom_of_visited h hst 0
  | succ budget ih =>
      intro c c' h
      by_cases hst : c.state id = .unvisited
      · have hst' : c'.state id = .unvisited := h.state id ▸ hst
        cases hd : u.declaration? id with
        | none =>
            exact .of_run (run_visit_of_stuck hst (.inl hd)) (run_visit_of_stuck hst' (.inl hd)) (grows_enter c id)
              (sameFrom_throw _ (h.enter id))
        | some d =>
            have hrun' : (visit u g (budget + 1) id).run.run c' =
                (walkBody u g (visit u g budget) d >>= settle id c.entered c.pending.length).run.run (c'.enter id) := by
              rw [h.entered, h.pending]
              exact run_visit_of_unvisited hst' hd
            refine .of_run (run_visit_of_unvisited hst hd) hrun' (grows_enter c id) ?_
            refine (walkBody_agrees ih d _ _ (h.enter id)).bind fun outcome c₁ c₁' h₁ hgrows => ?_
            exact settle_sameFrom h₁ (hgrows id (by simp)) _ _ outcome
      · exact visit_sameFrom_of_visited h hst (budget + 1)

theorem classify_agrees (id : DeclId) : (classify u g id).Agrees :=
  (visit_agrees u.size id).bind fun _ => agrees_pure _

theorem judge_agrees (rule : RuleConfig) (id : DeclId) : (rule.judge u g id).Agrees := by
  unfold RuleConfig.judge
  split
  · exact fun c c' h => sameFrom_throw _ h
  · split
    · exact agrees_pure _
    · refine (classify_agrees id).bind fun suspends => ?_
      cases suspends with
      | true => exact agrees_pure _
      | false =>
          simp only [Bool.false_eq_true, if_false]
          split <;> exact agrees_pure _

theorem runCached_agrees (rule : RuleConfig) (u : CompileUnit) : (rule.runCached u).Agrees := by
  unfold RuleConfig.runCached
  split
  · exact (Agrees.mapM (judge_agrees rule) u.asyncIds).bind fun _ => agrees_pure _
  · exact agrees_pure _

end

/-! ## What can be seen of a cache -/

/-- What a cache is used for. -/
inductive Query where
  | classify (u : CompileUnit) (id : DeclId)
  | run (u : CompileUnit) (rule : RuleConfig)

inductive Answer where
  | verdict (suspends : Bool)
  | findings (findings : List Finding)

/-- What is seen after a query: its answer or fault, and what the cache shows from then on. -/
structure Observation where
  answer : Except Fault Answer
  state : DeclId → VisitState
  entered : Nat
  resolved : Nat

namespace Query

def answer : Query → Visiting Answer
  | classify u id => return .verdict (← AsyncLint.classify u (Guard.of u) id)
  | run u rule => return .findings (← rule.runCached u)

/-- The query is about declarations of `u`. -/
def IsAbout (u : CompileUnit) : Query → Prop
  | classify v id => v = u ∧ id < u.size
  | run v _ => v = u

theorem answer_agrees (q : Query) : q.answer.Agrees := by
  cases q with
  | classify u id => exact (classify_agrees id).bind fun _ => agrees_pure _
  | run u rule => exact (runCached_agrees rule u).bind fun _ => agrees_pure _

theorem answer_ends {u : CompileUnit} {q : Query} {c : Cache} (hu : u.TargetsValid) (hq : q.IsAbout u)
    (hc : Resting u (Guard.of u) c) : ∃ a c', q.answer.Ends c a c' ∧ Resting u (Guard.of u) c' := by
  cases q with
  | classify v id =>
      obtain ⟨rfl, hid⟩ := hq
      obtain ⟨verdict, c', hend, hc', _⟩ := classify_ends hu hc hid
      exact ⟨.verdict verdict, c', hend.bind (ends_pure _ _), hc'⟩
  | run v rule =>
      obtain rfl : v = u := hq
      obtain ⟨findings, c', hend, hc', _⟩ := runCached_ends rule hu hc
      exact ⟨.findings findings, c', hend.bind (ends_pure _ _), hc'⟩

end Query

/-- What is seen when queries are put one after the other. A query that fails leaves the cache as far as it has come. -/
def observe : List Query → Cache → List Observation
  | [], _ => []
  | q :: qs, c =>
    let next := q.answer.run.run c
    { answer := next.1, state := next.2.state, entered := next.2.entered, resolved := next.2.resolved } ::
      observe qs next.2

theorem Cache.Alike.observe_eq {c c' : Cache} (h : Alike c c') (qs : List Query) : observe qs c = observe qs c' := by
  induction qs generalizing c c' with
  | nil => rfl
  | cons q qs ih =>
      obtain ⟨hanswer, halike, _⟩ := q.answer_agrees c c' h
      simp only [observe]
      rw [hanswer, funext halike.state, halike.entered, halike.resolved, ih halike]

theorem exists_answer_of_mem_observe {u : CompileUnit} {qs : List Query} {c : Cache} {o : Observation}
    (hu : u.TargetsValid) (hqs : ∀ q ∈ qs, q.IsAbout u) (hc : Resting u (Guard.of u) c) (ho : o ∈ observe qs c) :
    ∃ a, o.answer = .ok a := by
  induction qs generalizing c with
  | nil => cases ho
  | cons q qs ih =>
      obtain ⟨a, c', hend, hc'⟩ := Query.answer_ends hu (hqs q List.mem_cons_self) hc
      simp only [observe, show q.answer.run.run c = (.ok a, c') from hend] at ho
      rcases List.mem_cons.mp ho with rfl | ho
      · exact ⟨a, rfl⟩
      · exact ih (fun q hq => hqs q (List.mem_cons_of_mem _ hq)) hc' ho

/-- Whatever was in a cache, once it is cleared nothing that is seen of it differs from a new one. All queries about a
unit whose calls lead to declarations of it are answered. -/
theorem observe_clear_eq_new (c : Cache) (qs : List Query) : observe qs c.clear = observe qs {} ∧
    ∀ u : CompileUnit, u.TargetsValid → (∀ q ∈ qs, q.IsAbout u) → ∀ o ∈ observe qs c.clear, ∃ a, o.answer = .ok a :=
  ⟨(alike_clear c).observe_eq qs, fun _ hu hqs _ ho =>
    exists_answer_of_mem_observe hu hqs (Blank.cleared c).resting ho⟩

/-- A cache that a classification has left in the middle. -/
def abandoned : Cache where
  visits := #[⟨.pending, 7⟩, ⟨.inProgress, 3⟩, ⟨.suspends, 1⟩, ⟨.unvisited, 8⟩, ⟨.pending, 2⟩, ⟨.doesNotSuspend, 0⟩]
  entered := 9
  pending := [4, 0]

theorem observe_clear_eq_new_abandoned :
    observe [.classify relay 1, .run relay {}, .classify relay 3] abandoned.clear =
      observe [.classify relay 1, .run relay {}, .classify relay 3] {} ∧
    relay.TargetsValid ∧ (∀ q ∈ [Query.classify relay 1, .run relay {}, .classify relay 3], q.IsAbout relay) ∧
    ∀ o ∈ observe [.classify relay 1, .run relay {}, .classify relay 3] abandoned.clear, ∃ a, o.answer = .ok a := by
  have habout : ∀ q ∈ [Query.classify relay 1, .run relay {}, .classify relay 3], q.IsAbout relay := by
    simp only [List.mem_cons, List.not_mem_nil, or_false, forall_eq_or_imp, forall_eq]
    exact ⟨⟨rfl, by decide⟩, rfl, rfl, by decide⟩
  obtain ⟨hsame, hanswers⟩ := observe_clear_eq_new abandoned [.classify relay 1, .run relay {}, .classify relay 3]
  exact ⟨hsame, by decide, habout, hanswers relay (by decide) habout⟩

end AsyncLint
