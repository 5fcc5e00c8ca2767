import AsyncLint.Analysis.Cache
import Mathlib.Data.Finset.Card
import Mathlib.Data.Finset.Range

/-!
# Operations on the cache

What each operation does to the state and the entry number of every declaration, whatever the length of the table.
-/

namespace AsyncLint

/-- Whether the classification of a declaration has begun and not ended. -/
def VisitState.isOpen : VisitState → Bool
  | .inProgress | .pending => true
  | .unvisited | .suspends | .doesNotSuspend => false

namespace Cache

/-! ## The table -/

theorem visits_grow (c : Cache) (id d : DeclId) : (c.grow id).visits[d]?.getD {} = c.visits[d]?.getD {} := by
  simp only [grow, Array.getElem?_append, Array.getElem?_replicate]
  split
  · rfl
  · split <;> simp_all

theorem visits_modify (c : Cache) (id d : DeclId) (f : Visit → Visit) :
    ((c.grow id).visits.modify id f)[d]?.getD {} =
      if d = id then f (c.visits[d]?.getD {}) else c.visits[d]?.getD {} := by
  have hlt : (c.grow id).visits.size > id := by
    simp only [grow, Array.size_append, Array.size_replicate]; omega
  rw [Array.getElem?_modify]
  by_cases h : d = id
  · subst h
    have hg := visits_grow c d d
    rw [Array.getElem?_eq_getElem hlt] at hg ⊢
    simp_all
  · simp [h, Ne.symm h, visits_grow]

theorem lt_size_of_state_ne {c : Cache} {d : DeclId} (h : c.state d ≠ .unvisited) : d < c.visits.size := by
  by_contra hd
  exact h (by simp [state, Array.getElem?_eq_none (Nat.le_of_not_lt hd)])

/-! ## One declaration -/

@[simp] theorem state_setState (c : Cache) (id d : DeclId) (s : VisitState) :
    (c.setState id s).state d = if d = id then s else c.state d := by
  simp only [state, setState, visits_modify]
  split <;> rfl

@[simp] theorem number_setState (c : Cache) (id d : DeclId) (s : VisitState) :
    (c.setState id s).number d = c.number d := by
  simp only [number, setState, visits_modify]
  split <;> rfl

@[simp] theorem pending_setState (c : Cache) (id : DeclId) (s : VisitState) :
    (c.setState id s).pending = c.pending := rfl

@[simp] theorem entered_setState (c : Cache) (id : DeclId) (s : VisitState) :
    (c.setState id s).entered = c.entered := rfl

@[simp] theorem state_enter (c : Cache) (id d : DeclId) :
    (c.enter id).state d = if d = id then .inProgress else c.state d := by
  simp only [state, enter, visits_modify]
  split <;> rfl

@[simp] theorem number_enter (c : Cache) (id d : DeclId) :
    (c.enter id).number d = if d = id then c.entered else c.number d := by
  simp only [number, enter, visits_modify]
  split <;> rfl

@[simp] theorem pending_enter (c : Cache) (id : DeclId) : (c.enter id).pending = c.pending := rfl

@[simp] theorem entered_enter (c : Cache) (id : DeclId) : (c.enter id).entered = c.entered + 1 := rfl

@[simp] theorem state_suspendJudgement (c : Cache) (id d : DeclId) :
    (c.suspendJudgement id).state d = if d = id then .pending else c.state d :=
  state_setState c id d .pending

@[simp] theorem number_suspendJudgement (c : Cache) (id d : DeclId) :
    (c.suspendJudgement id).number d = c.number d :=
  number_setState c id d .pending

@[simp] theorem pending_suspendJudgement (c : Cache) (id : DeclId) :
    (c.suspendJudgement id).pending = c.pending ++ [id] := rfl

@[simp] theorem entered_suspendJudgement (c : Cache) (id : DeclId) : (c.suspendJudgement id).entered = c.entered := rfl

/-! ## Many declarations at once -/

theorem state_foldl_setState (ids : List DeclId) (c : Cache) (d : DeclId) (s : VisitState) :
    (ids.foldl (fun c id => c.setState id s) c).state d = if d ∈ ids then s else c.state d := by
  induction ids generalizing c with
  | nil => simp
  | cons id ids ih =>
      rw [List.foldl_cons, ih, state_setState]
      by_cases h : d ∈ ids
      · simp [h]
      · by_cases hd : d = id <;> simp [h, hd]

/-- Everything that `setState` leaves alone is left alone when many states are set. -/
theorem foldl_setState_eq {α : Type} (f : Cache → α) (hf : ∀ c id s, f (c.setState id s) = f c)
    (ids : List DeclId) (c : Cache) (s : VisitState) : f (ids.foldl (fun c id => c.setState id s) c) = f c := by
  induction ids generalizing c with
  | nil => rfl
  | cons id ids ih => rw [List.foldl_cons, ih, hf]

@[simp] theorem state_settlePending (c : Cache) (mark : Nat) (s : VisitState) (d : DeclId) :
    (c.settlePending mark s).state d = if d ∈ c.pending.drop mark then s else c.state d :=
  state_foldl_setState _ _ d s

@[simp] theorem number_settlePending (c : Cache) (mark : Nat) (s : VisitState) (d : DeclId) :
    (c.settlePending mark s).number d = c.number d :=
  foldl_setState_eq (·.number d) (fun c id s => number_setState c id d s) _ _ s

@[simp] theorem pending_settlePending (c : Cache) (mark : Nat) (s : VisitState) :
    (c.settlePending mark s).pending = c.pending.take mark :=
  foldl_setState_eq (·.pending) pending_setState _ _ s

@[simp] theorem entered_settlePending (c : Cache) (mark : Nat) (s : VisitState) :
    (c.settlePending mark s).entered = c.entered :=
  foldl_setState_eq (·.entered) entered_setState _ _ s

/-- The state `s` for `id` and for everything that began to wait after the first `mark`. -/
def commit (c : Cache) (id : DeclId) (mark : Nat) (s : VisitState) : Cache :=
  (c.setState id s).settlePending mark s

theorem state_commit (c : Cache) (id : DeclId) (mark : Nat) (s : VisitState) (d : DeclId) :
    (c.commit id mark s).state d = if d = id ∨ d ∈ c.pending.drop mark then s else c.state d := by
  rw [commit, state_settlePending, pending_setState, state_setState]
  by_cases hp : d ∈ c.pending.drop mark
  · simp [hp]
  · simp [hp]

@[simp] theorem number_commit (c : Cache) (id : DeclId) (mark : Nat) (s : VisitState) (d : DeclId) :
    (c.commit id mark s).number d = c.number d := by
  rw [commit, number_settlePending, number_setState]

@[simp] theorem pending_commit (c : Cache) (id : DeclId) (mark : Nat) (s : VisitState) :
    (c.commit id mark s).pending = c.pending.take mark := by
  rw [commit, pending_settlePending, pending_setState]

@[simp] theorem entered_commit (c : Cache) (id : DeclId) (mark : Nat) (s : VisitState) :
    (c.commit id mark s).entered = c.entered := by
  rw [commit, entered_settlePending, entered_setState]

/-! ## New and cleared caches -/

@[simp] theorem state_sized (n : Nat) (d : DeclId) : (sized n).state d = .unvisited := by
  simp only [state, sized, Array.getElem?_replicate]
  split <;> rfl

@[simp] theorem state_clear (c : Cache) (d : DeclId) : c.clear.state d = .unvisited := by
  simp only [state, clear, Array.getElem?_map]
  cases c.visits[d]? <;> rfl

/-! ## Counting verdicts -/

theorem countP_eq_card {α : Type} (xs : List α) (p : α → Bool) (a : α) :
    xs.countP p = ((Finset.range xs.length).filter fun i => p (xs[i]?.getD a)).card := by
  induction xs using List.reverseRecOn with
  | nil => rfl
  | append_singleton xs x ih =>
      have hlt : (Finset.range xs.length).filter (fun i => p ((xs ++ [x])[i]?.getD a)) =
          (Finset.range xs.length).filter fun i => p (xs[i]?.getD a) := by
        apply Finset.filter_congr
        intro i hi
        rw [List.getElem?_append_left (Finset.mem_range.mp hi)]
      rw [List.countP_append, ih, List.length_append, List.length_singleton, Finset.range_add_one,
        Finset.filter_insert, hlt]
      cases hx : p x <;> simp [hx]

/-- The number of verdicts is the number of declarations that have one. -/
theorem resolved_eq_card {c : Cache} {n : Nat} (h : ∀ d, (c.state d).verdict?.isSome → d < n) :
    c.resolved = ((Finset.range n).filter fun d => (c.state d).verdict?.isSome).card := by
  rw [resolved, ← Array.countP_toList, countP_eq_card _ _ {}]
  congr 1
  ext d
  simp only [Finset.mem_filter, Finset.mem_range, Array.getElem?_toList, Array.length_toList]
  constructor
  · rintro ⟨_, hd⟩
    exact ⟨h d hd, hd⟩
  · rintro ⟨_, hd⟩
    refine ⟨lt_size_of_state_ne fun hs => ?_, hd⟩
    rw [hs] at hd
    cases hd

end Cache

end AsyncLint
