import AsyncLint.Proofs.Cache
import AsyncLint.Proofs.Visiting

/-!
# What holds during a classification

At every moment a verdict in the cache is right, and the calls of a declaration that waits lead only to declarations
that are open or known not to suspend. A part of a classification only adds to what the cache knows: whatever has been
visited before it keeps its state and its entry number.
-/

namespace AsyncLint

/-- Whether a callee in this state has given no reason to suspend so far. -/
def VisitState.isQuiet : VisitState → Bool
  | .inProgress | .pending | .doesNotSuspend => true
  | .unvisited | .suspends => false

theorem VisitState.ne_unvisited_of_isOpen {s : VisitState} (h : s.isOpen) : s ≠ .unvisited := by
  rintro rfl; cases h

theorem VisitState.ne_unvisited_of_isQuiet {s : VisitState} (h : s.isQuiet) : s ≠ .unvisited := by
  rintro rfl; cases h

theorem VisitState.isQuiet_iff {s : VisitState} : s.isQuiet ↔ s = .doesNotSuspend ∨ s.isOpen := by
  cases s <;> simp [isQuiet, isOpen]

namespace Cache

/-- The declarations of the unit whose classification has begun. -/
def begun (u : CompileUnit) (c : Cache) : Finset DeclId :=
  (Finset.range u.size).filter fun d => c.state d ≠ .unvisited

/-- What holds of the cache at every moment of a classification. -/
structure Sound (u : CompileUnit) (g : Guard) (c : Cache) : Prop where
  valid : ∀ d, c.state d ≠ .unvisited → d < u.size
  suspends : ∀ d, c.state d = .suspends → u.Suspends g d
  settled : ∀ d, c.state d = .doesNotSuspend → u.StaysIn g (fun e => c.state e = .doesNotSuspend) d
  waiting : ∀ d, c.state d = .pending → u.StaysIn g (fun e => (c.state e).isQuiet) d
  listed : ∀ d, c.state d = .pending ↔ d ∈ c.pending
  numbered : ∀ d, (c.state d).isOpen → c.number d < c.entered
  counted : c.entered = (c.begun u).card

/-- Every open declaration reaches `id`: `id` is the end of the current path, or is about to be. -/
def LeadsTo (u : CompileUnit) (g : Guard) (c : Cache) (id : DeclId) : Prop :=
  ∀ d, (c.state d).isOpen → u.Reaches g d id

/-- How a part of a classification that looks only at what `id` reaches changes the cache. -/
structure Extends (u : CompileUnit) (g : Guard) (id : DeclId) (c c' : Cache) : Prop where
  kept : ∀ d, c.state d ≠ .unvisited → c'.state d = c.state d
  number_kept : ∀ d, c.state d ≠ .unvisited → c'.number d = c.number d
  entered_le : c.entered ≤ c'.entered
  /-- What has been opened since then and is still open waits, under a new number. -/
  fresh : ∀ d, c.state d = .unvisited → (c'.state d).isOpen → c'.state d = .pending ∧ c.entered ≤ c'.number d
  pending : ∃ new, c'.pending = c.pending ++ new ∧ ∀ d ∈ new, c.state d = .unvisited
  reached : ∀ d, c'.state d ≠ c.state d → u.Reaches g id d

/-- What a low link says at the end of a quiet part of a classification. It is at most the number of every open
declaration that the part has met, and it is the number of one that `id` reaches. -/
structure Quiet (u : CompileUnit) (g : Guard) (id : DeclId) (met : DeclId → Prop) (low : LowLink) (c c' : Cache) :
    Prop where
  quiet : ∀ e, met e → (c'.state e).isQuiet
  atMost_met : ∀ e, met e → (c'.state e).isOpen → low.AtMost (c'.number e)
  atMost_new : ∀ d e, c.state d = .unvisited → c'.state d = .pending → .asyncDecl e ∈ u.targets d →
    (c'.state e).isOpen → low.AtMost (c'.number e)
  attained : ∀ l, low = some l → ∃ e, (c'.state e).isOpen ∧ c'.number e = l ∧ u.Reaches g id e

variable {u : CompileUnit} {g : Guard} {id : DeclId} {c c' c₁ c₂ : Cache}

/-! ## Caches without open declarations -/

/-- A cache between two classifications: nothing is open. -/
structure Resting (u : CompileUnit) (g : Guard) (c : Cache) : Prop extends Sound u g c where
  closed : ∀ d, (c.state d).isOpen = false

theorem Sound.not_suspends (h : Sound u g c) {d : DeclId} (hd : c.state d = .doesNotSuspend) : ¬ u.Suspends g d :=
  CompileUnit.not_suspends_of_closed h.settled hd

theorem Resting.pending_eq_nil (h : Resting u g c) : c.pending = [] := by
  apply List.eq_nil_iff_forall_not_mem.mpr
  intro d hd
  have ho := h.closed d
  rw [(h.listed d).mpr hd] at ho
  cases ho

theorem Resting.leadsTo (h : Resting u g c) (id : DeclId) : LeadsTo u g c id := by
  intro d hd
  rw [h.closed d] at hd
  cases hd

/-- Between two classifications every declaration that was entered has a verdict. -/
theorem Resting.entered_eq_resolved (h : Resting u g c) : c.entered = c.resolved := by
  have hv : ∀ d, (c.state d).verdict?.isSome = decide (c.state d ≠ .unvisited) := by
    intro d
    have hd := h.closed d
    cases hs : c.state d <;> simp_all [VisitState.isOpen, VisitState.verdict?]
  rw [h.counted, resolved_eq_card (n := u.size) fun d hd => h.valid d (by simpa [hv] using hd)]
  congr 1
  apply Finset.filter_congr
  intro d _
  simp [hv]

/-- A cache that knows nothing. -/
theorem resting_of_unvisited (hs : ∀ d, c.state d = .unvisited) (he : c.entered = 0) (hp : c.pending = []) :
    Resting u g c where
  valid d hd := absurd (hs d) hd
  suspends d hd := by rw [hs d] at hd; cases hd
  settled d hd := by rw [hs d] at hd; cases hd
  waiting d hd := by rw [hs d] at hd; cases hd
  listed d := by simp [hs d, hp]
  numbered d hd := by rw [hs d] at hd; cases hd
  counted := by simp [begun, hs, he]
  closed d := by rw [hs d]; rfl

/-! ## Extensions -/

theorem Extends.refl (u : CompileUnit) (g : Guard) (id : DeclId) (c : Cache) : Extends u g id c c where
  kept _ _ := rfl
  number_kept _ _ := rfl
  entered_le := Nat.le_refl _
  fresh d hd ho := absurd hd (VisitState.ne_unvisited_of_isOpen ho)
  pending := ⟨[], by simp⟩
  reached d hd := absurd rfl hd

theorem Extends.unvisited (h : Extends u g id c c') {d : DeclId} (hd : c'.state d = .unvisited) :
    c.state d = .unvisited := by
  by_contra hc
  exact hc ((h.kept d hc).symm.trans hd)

theorem Extends.trans (h₁ : Extends u g id c c₁) (h₂ : Extends u g id c₁ c₂) : Extends u g id c c₂ := by
  have hkept : ∀ d, c.state d ≠ .unvisited → c₂.state d = c.state d ∧ c₂.number d = c.number d := by
    intro d hd
    have hs := h₁.kept d hd
    have hd₁ : c₁.state d ≠ .unvisited := hs ▸ hd
    exact ⟨(h₂.kept d hd₁).trans hs, (h₂.number_kept d hd₁).trans (h₁.number_kept d hd)⟩
  refine ⟨fun d hd => (hkept d hd).1, fun d hd => (hkept d hd).2, Nat.le_trans h₁.entered_le h₂.entered_le, ?_, ?_, ?_⟩
  · intro d hd ho
    by_cases hd₁ : c₁.state d = .unvisited
    · obtain ⟨hp, hn⟩ := h₂.fresh d hd₁ ho
      exact ⟨hp, Nat.le_trans h₁.entered_le hn⟩
    · rw [h₂.kept d hd₁] at ho ⊢
      obtain ⟨hp, hn⟩ := h₁.fresh d hd ho
      exact ⟨hp, by rw [h₂.number_kept d hd₁]; exact hn⟩
  · obtain ⟨new₁, he₁, hn₁⟩ := h₁.pending
    obtain ⟨new₂, he₂, hn₂⟩ := h₂.pending
    refine ⟨new₁ ++ new₂, by rw [he₂, he₁, List.append_assoc], fun d hd => ?_⟩
    rcases List.mem_append.mp hd with hd | hd
    · exact hn₁ d hd
    · exact h₁.unvisited (hn₂ d hd)
  · intro d hd
    by_cases hd₁ : c₁.state d = c.state d
    · exact h₂.reached d (hd₁ ▸ hd)
    · exact h₁.reached d hd₁

theorem Extends.of_reaches {top : DeclId} (h : Extends u g id c c') (ht : u.Reaches g top id) :
    Extends u g top c c' :=
  { h with reached := fun d hd => Relation.ReflTransGen.trans ht (h.reached d hd) }

/-! ## Quiet parts one after the other -/

theorem Quiet.trans {met met' : DeclId → Prop} {low low' : LowLink} (hs : Sound u g c₁)
    (h₁ : Quiet u g id met low c c₁) (he : Extends u g id c₁ c₂) (h₂ : Quiet u g id met' low' c₁ c₂) :
    Quiet u g id (fun e => met e ∨ met' e) (low.min low') c c₂ := by
  -- what has been met in the first part is no longer unvisited, so the second part leaves it as it is
  have hsame : ∀ e, (c₁.state e).isQuiet → c₂.state e = c₁.state e ∧ c₂.number e = c₁.number e := fun e hq =>
    ⟨he.kept e (VisitState.ne_unvisited_of_isQuiet hq), he.number_kept e (VisitState.ne_unvisited_of_isQuiet hq)⟩
  refine ⟨?_, ?_, ?_, ?_⟩
  · rintro e (hm | hm)
    · rw [(hsame e (h₁.quiet e hm)).1]; exact h₁.quiet e hm
    · exact h₂.quiet e hm
  · rintro e (hm | hm) ho
    · obtain ⟨hst, hnu⟩ := hsame e (h₁.quiet e hm)
      rw [hst] at ho; rw [hnu]
      exact (h₁.atMost_met e hm ho).min_left low'
    · exact (h₂.atMost_met e hm ho).min_right low
  · intro d e hd hp ht ho
    by_cases hd₁ : c₁.state d = .unvisited
    · exact (h₂.atMost_new d e hd₁ hp ht ho).min_right low
    · have hp₁ : c₁.state d = .pending := (he.kept d hd₁).symm.trans hp
      obtain ⟨hst, hnu⟩ := hsame e ((hs.waiting d hp₁).calls _ ht).2
      rw [hst] at ho; rw [hnu]
      exact (h₁.atMost_new d e hd hp₁ ht ho).min_left low'
  · intro l hl
    rcases LowLink.min_eq_some hl with hl | hl
    · obtain ⟨e, ho, hn, hr⟩ := h₁.attained l hl
      have hne := VisitState.ne_unvisited_of_isOpen ho
      exact ⟨e, by rw [he.kept e hne]; exact ho, by rw [he.number_kept e hne]; exact hn, hr⟩
    · exact h₂.attained l hl

end Cache

end AsyncLint
