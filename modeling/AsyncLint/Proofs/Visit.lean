import AsyncLint.Proofs.Invariant

/-!
# One visit

A visit opens a declaration, walks its body and closes it again. Whatever is open when it begins must reach the
declaration; then the verdicts that are settled at its end are right, and what still waits afterwards reaches something
that was open before.
-/

namespace AsyncLint

open Cache

variable {u : CompileUnit} {g : Guard} {id : DeclId} {c c' c₁ c₂ : Cache}

/-! ## Opening a declaration -/

theorem begun_congr (h : ∀ d, c'.state d ≠ .unvisited ↔ c.state d ≠ .unvisited) : c'.begun u = c.begun u :=
  Finset.filter_congr fun d _ => h d

theorem begun_enter (hid : id < u.size) : (c.enter id).begun u = insert id (c.begun u) := by
  ext d
  simp only [begun, state_enter, Finset.mem_filter, Finset.mem_range, Finset.mem_insert]
  by_cases hd : d = id
  · subst hd; simp [hid]
  · simp [hd]

theorem Cache.Sound.enter (h : Sound u g c) (hid : id < u.size) (hs : c.state id = .unvisited) :
    Sound u g (c.enter id) := by
  have hne : ∀ {d}, c.state d ≠ .unvisited → d ≠ id := fun hd he => hd (he ▸ hs)
  refine ⟨?_, ?_, ?_, ?_, ?_, ?_, ?_⟩
  · intro d hd
    by_cases he : d = id
    · exact he ▸ hid
    · exact h.valid d (by simpa [he] using hd)
  · intro d hd
    by_cases he : d = id
    · simp [he] at hd
    · exact h.suspends d (by simpa [he] using hd)
  · intro d hd
    by_cases he : d = id
    · simp [he] at hd
    · refine (h.settled d (by simpa [he] using hd)).mono fun e _ hq => ?_
      rw [state_enter, if_neg (hne (by rw [hq]; simp))]
      exact hq
  · intro d hd
    by_cases he : d = id
    · simp [he] at hd
    · refine (h.waiting d (by simpa [he] using hd)).mono fun e _ hq => ?_
      rw [state_enter, if_neg (hne (VisitState.ne_unvisited_of_isQuiet hq))]
      exact hq
  · intro d
    rw [state_enter, pending_enter, ← h.listed d]
    by_cases he : d = id
    · simp [he, hs]
    · simp [he]
  · intro d hd
    rw [number_enter, entered_enter]
    by_cases he : d = id
    · simp [he]
    · rw [if_neg he]
      exact Nat.lt_succ_of_lt (h.numbered d (by simpa [he] using hd))
  · rw [entered_enter, h.counted, begun_enter hid, Finset.card_insert_of_notMem]
    simp [begun, hs]

theorem Cache.LeadsTo.enter (h : LeadsTo u g c id) : LeadsTo u g (c.enter id) id := by
  intro d hd
  by_cases he : d = id
  · exact he ▸ .refl
  · exact h d (by simpa [he] using hd)

/-- As long as some declaration is unvisited, not all have been entered. -/
theorem Cache.Sound.entered_lt (h : Sound u g c) (hid : id < u.size) (hs : c.state id = .unvisited) :
    c.entered < u.size := by
  have hlt : (c.begun u).card < (Finset.range u.size).card := by
    apply Finset.card_lt_card
    refine ⟨Finset.filter_subset _ _, fun hsub => ?_⟩
    have hmem := hsub (Finset.mem_range.mpr hid)
    simp [begun, hs] at hmem
  rw [h.counted]
  simpa using hlt

/-! ## Results -/

/-- What the walk of a part of the body of `id` leaves behind, if the calls of that part resolve to `ts`. -/
structure WalkResult (u : CompileUnit) (g : Guard) (id : DeclId) (ts : List CallTarget) (c : Cache)
    (outcome : Outcome) (c' : Cache) : Prop where
  sound : Sound u g c'
  change : Extends u g id c c'
  leadsTo : LeadsTo u g c' id
  suspends : outcome = .suspends → u.Suspends g id
  stays : ∀ low, outcome = .quiet low → ∀ t ∈ ts, t.StaysIn g fun _ => True
  quiet : ∀ low, outcome = .quiet low → Quiet u g id (fun e => .asyncDecl e ∈ ts) low c c'

/-- What a visit of `id` leaves behind. -/
structure VisitResult (u : CompileUnit) (g : Guard) (id : DeclId) (c : Cache) (outcome : Outcome) (c' : Cache) :
    Prop where
  sound : Sound u g c'
  change : Extends u g id c c'
  anchored : ∀ d, c.state d = .unvisited → (c'.state d).isOpen → ∃ e, (c.state e).isOpen ∧ u.Reaches g d e
  suspends : outcome = .suspends → u.Suspends g id
  quiet : ∀ low, outcome = .quiet low → Quiet u g id (· = id) low c c'

theorem VisitResult.leadsTo {outcome : Outcome} (h : VisitResult u g id c outcome c') {top : DeclId}
    (ht : LeadsTo u g c top) : LeadsTo u g c' top := by
  intro d hd
  by_cases hs : c.state d = .unvisited
  · obtain ⟨e, he, hr⟩ := h.anchored d hs hd
    exact hr.trans (ht e he)
  · exact ht d (by rw [← h.change.kept d hs]; exact hd)

/-! ## Closing a declaration -/

/-- The moment before `id` is closed. It was opened in cache `c`, and `new` have begun to wait since then. -/
structure Closing (u : CompileUnit) (g : Guard) (id : DeclId) (c : Cache) (new : List DeclId) (c₂ : Cache) :
    Prop where
  before : Sound u g c
  now : Sound u g c₂
  unvisited : c.state id = .unvisited
  change : Extends u g id (c.enter id) c₂
  leadsTo : LeadsTo u g c₂ id
  pending : c₂.pending = c.pending ++ new
  new_unvisited : ∀ d ∈ new, c.state d = .unvisited

namespace Closing

variable {new : List DeclId} {d : DeclId}

theorem of_walk {ts : List CallTarget} {outcome : Outcome} (hs : Sound u g c) (hid : c.state id = .unvisited)
    (h : WalkResult u g id ts (c.enter id) outcome c₂) : ∃ new, Closing u g id c new c₂ := by
  obtain ⟨new, hp, hn⟩ := h.change.pending
  refine ⟨new, hs, h.sound, hid, h.change, h.leadsTo, hp, fun d hd => ?_⟩
  by_cases he : d = id
  · exact he ▸ hid
  · simpa [he] using hn d hd

theorem inProgress (h : Closing u g id c new c₂) : c₂.state id = .inProgress := by
  rw [h.change.kept id (by simp)]; simp

theorem number (h : Closing u g id c new c₂) : c₂.number id = c.entered := by
  rw [h.change.number_kept id (by simp)]; simp

theorem ne_id (h : Closing u g id c new c₂) (hd : c.state d ≠ .unvisited) : d ≠ id := by
  rintro rfl
  exact hd h.unvisited

theorem kept (h : Closing u g id c new c₂) (hd : c.state d ≠ .unvisited) :
    c₂.state d = c.state d ∧ c₂.number d = c.number d := by
  have hne := h.ne_id hd
  have hs : (c.enter id).state d ≠ .unvisited := by simpa [hne] using hd
  rw [h.change.kept d hs, h.change.number_kept d hs]
  simp [hne]

theorem mem_new_iff (h : Closing u g id c new c₂) : d ∈ new ↔ c.state d = .unvisited ∧ c₂.state d = .pending := by
  have hl := h.now.listed d
  rw [h.pending, List.mem_append, ← h.before.listed d] at hl
  constructor
  · intro hd
    exact ⟨h.new_unvisited d hd, hl.mpr (Or.inr hd)⟩
  · rintro ⟨hu, hp⟩
    rcases hl.mp hp with hc | hn
    · rw [hu] at hc; cases hc
    · exact hn

/-- What is open now was visited before, or is `id`, or has begun to wait under a larger number. -/
theorem open_cases (h : Closing u g id c new c₂) (ho : (c₂.state d).isOpen) :
    (c.state d).isOpen ∧ c₂.number d = c.number d ∧ d ∉ new ∧ d ≠ id ∨ d = id ∨ d ∈ new ∧ c.entered < c₂.number d := by
  by_cases hu : c.state d = .unvisited
  · by_cases he : d = id
    · exact Or.inr (Or.inl he)
    · obtain ⟨hp, hn⟩ := h.change.fresh d (by simpa [he] using hu) ho
      exact Or.inr (Or.inr ⟨h.mem_new_iff.mpr ⟨hu, hp⟩, hn⟩)
  · obtain ⟨hs, hn⟩ := h.kept hu
    exact Or.inl ⟨hs ▸ ho, hn, fun hd => hu (h.new_unvisited d hd), h.ne_id hu⟩

/-- What is open now and has a number from that of `id` on is `id` or has begun to wait since `id` was opened. -/
theorem mem_of_entered_le (h : Closing u g id c new c₂) (ho : (c₂.state d).isOpen) (hn : c.entered ≤ c₂.number d) :
    d = id ∨ d ∈ new := by
  rcases h.open_cases ho with ⟨hc, he, _⟩ | hd | ⟨hd, _⟩
  · have := h.before.numbered d hc
    omega
  · exact Or.inl hd
  · exact Or.inr hd

theorem reached (h : Closing u g id c new c₂) (hd : c₂.state d ≠ c.state d) : u.Reaches g id d := by
  by_cases he : d = id
  · exact he ▸ .refl
  · exact h.change.reached d (by simpa [he] using hd)

theorem entered_le (h : Closing u g id c new c₂) : c.entered ≤ c₂.entered :=
  Nat.le_of_succ_le h.change.entered_le

/-! ### With a verdict -/

theorem state_commit (h : Closing u g id c new c₂) (s : VisitState) (d : DeclId) :
    (c₂.commit id c.pending.length s).state d = if d = id ∨ d ∈ new then s else c₂.state d := by
  rw [Cache.state_commit, h.pending, List.drop_left]

theorem state_commit_of_visited (h : Closing u g id c new c₂) (s : VisitState) (hd : c.state d ≠ .unvisited) :
    (c₂.commit id c.pending.length s).state d = c.state d := by
  rw [h.state_commit, if_neg, (h.kept hd).1]
  rintro (he | hn)
  · exact h.ne_id hd he
  · exact hd (h.new_unvisited d hn)

/-- After a verdict, what is open was open before, in the same state. -/
theorem open_of_open_commit (h : Closing u g id c new c₂) {s : VisitState} (hs : s.isOpen = false)
    (ho : ((c₂.commit id c.pending.length s).state d).isOpen) : (c.state d).isOpen ∧ c₂.state d = c.state d := by
  rw [h.state_commit] at ho
  split at ho
  · rw [hs] at ho; cases ho
  · rename_i hd
    rcases h.open_cases ho with ⟨hc, _, _⟩ | he | ⟨hn, _⟩
    · exact ⟨hc, (h.kept (VisitState.ne_unvisited_of_isOpen hc)).1⟩
    · exact absurd (Or.inl he) hd
    · exact absurd (Or.inr hn) hd

theorem extends_commit (h : Closing u g id c new c₂) {s : VisitState} (hs : s.isOpen = false) :
    Extends u g id c (c₂.commit id c.pending.length s) where
  kept d hd := h.state_commit_of_visited s hd
  number_kept d hd := by rw [number_commit, (h.kept hd).2]
  entered_le := by rw [entered_commit]; exact h.entered_le
  fresh d hd ho := by
    have hc := (h.open_of_open_commit hs ho).1
    rw [hd] at hc; cases hc
  pending := ⟨[], by rw [pending_commit, h.pending, List.take_left, List.append_nil], by simp⟩
  reached d hd := by
    rw [h.state_commit] at hd
    split at hd
    · rename_i hm
      rcases hm with rfl | hn
      · exact .refl
      · obtain ⟨hu, hp⟩ := h.mem_new_iff.mp hn
        exact h.reached (by rw [hu, hp]; simp)
    · exact h.reached hd

/-- A verdict on `id` and all that waits for it keeps the cache sound, if it is right for `id` and no call leads out of
what it settles. -/
theorem sound_commit (h : Closing u g id c new c₂) {s : VisitState}
    (hs : s = .suspends ∧ u.Suspends g id ∨ s = .doesNotSuspend ∧ ∀ d, d = id ∨ d ∈ new →
      u.StaysIn g (fun e => c₂.state e = .doesNotSuspend ∨ e = id ∨ e ∈ new) d) :
    Sound u g (c₂.commit id c.pending.length s) := by
  have hclosed : s.isOpen = false := by
    rcases hs with ⟨rfl, _⟩ | ⟨rfl, _⟩ <;> rfl
  have hmember : ∀ {d}, d = id ∨ d ∈ new → (c₂.state d).isOpen := by
    rintro d (rfl | hd)
    · rw [h.inProgress]; rfl
    · rw [(h.mem_new_iff.mp hd).2]; rfl
  have hbegun : ∀ d, (c₂.commit id c.pending.length s).state d ≠ .unvisited ↔ c₂.state d ≠ .unvisited := by
    intro d
    rw [h.state_commit]
    split
    · rename_i hd
      have hne := VisitState.ne_unvisited_of_isOpen (hmember hd)
      rcases hs with ⟨rfl, _⟩ | ⟨rfl, _⟩ <;> simp [hne]
    · rfl
  refine ⟨?_, ?_, ?_, ?_, ?_, ?_, ?_⟩
  · intro d hd
    exact h.now.valid d ((hbegun d).mp hd)
  · intro d hd
    rw [h.state_commit] at hd
    split at hd
    · rename_i hm
      rcases hs with ⟨_, hid⟩ | ⟨rfl, _⟩
      · exact hid.of_reaches (h.leadsTo d (hmember hm))
      · cases hd
    · exact h.now.suspends d hd
  · intro d hd
    have hstay : u.StaysIn g (fun e => c₂.state e = .doesNotSuspend ∨ s = .doesNotSuspend ∧ (e = id ∨ e ∈ new)) d := by
      rw [h.state_commit] at hd
      split at hd
      · rename_i hm
        rcases hs with ⟨rfl, _⟩ | ⟨rfl, hin⟩
        · cases hd
        · exact (hin d hm).mono fun e _ he => he.imp_right fun he => ⟨rfl, he⟩
      · exact (h.now.settled d hd).mono fun e _ he => Or.inl he
    refine hstay.mono fun e _ he => ?_
    rw [h.state_commit]
    rcases he with he | ⟨he, hm⟩
    · rw [if_neg, he]
      intro hm
      have ho := hmember hm
      rw [he] at ho; cases ho
    · rw [if_pos hm, he]
  · intro d hd
    obtain ⟨ho, _⟩ := h.open_of_open_commit (d := d) hclosed (by rw [hd]; rfl)
    have hp : c.state d = .pending := by
      rw [h.state_commit_of_visited s (VisitState.ne_unvisited_of_isOpen ho)] at hd
      exact hd
    refine (h.before.waiting d hp).mono fun e _ hq => ?_
    rw [h.state_commit_of_visited s (VisitState.ne_unvisited_of_isQuiet hq)]
    exact hq
  · intro d
    rw [pending_commit, h.pending, List.take_left, ← h.before.listed d]
    constructor
    · intro hd
      obtain ⟨ho, _⟩ := h.open_of_open_commit (d := d) hclosed (by rw [hd]; rfl)
      rw [h.state_commit_of_visited s (VisitState.ne_unvisited_of_isOpen ho)] at hd
      exact hd
    · intro hd
      rw [h.state_commit_of_visited s (by rw [hd]; simp), hd]
  · intro d hd
    obtain ⟨ho, he⟩ := h.open_of_open_commit hclosed hd
    rw [number_commit, entered_commit]
    exact h.now.numbered d (by rw [he]; exact ho)
  · rw [entered_commit, h.now.counted, begun_congr hbegun]

theorem visitResult_suspends (h : Closing u g id c new c₂) (hid : u.Suspends g id) :
    VisitResult u g id c .suspends (c₂.commit id c.pending.length .suspends) where
  sound := h.sound_commit (Or.inl ⟨rfl, hid⟩)
  change := h.extends_commit rfl
  anchored d _ ho := ⟨d, (h.open_of_open_commit rfl ho).1, .refl⟩
  suspends _ := hid
  quiet low hl := by cases hl

/-- If the low link does not lie below the number of `id`, nothing open from before `id` is called by `id` or by what
has begun to wait since then. -/
theorem staysIn_members (h : Closing u g id c new c₂) {low : LowLink} (hb : (u.body? id).isSome)
    (hts : ∀ t ∈ u.targets id, t.StaysIn g fun _ => True)
    (hq : Quiet u g id (fun e => .asyncDecl e ∈ u.targets id) low (c.enter id) c₂)
    (hlow : ∀ l, low = some l → c.entered ≤ l) {d : DeclId} (hd : d = id ∨ d ∈ new) :
    u.StaysIn g (fun e => c₂.state e = .doesNotSuspend ∨ e = id ∨ e ∈ new) d := by
  have hstay : u.StaysIn g (fun e => (c₂.state e).isQuiet) d := by
    rcases hd with rfl | hd
    · exact ⟨hb, fun t ht => (hts t ht).mono fun e he _ => hq.quiet e (he ▸ ht)⟩
    · exact h.now.waiting d (h.mem_new_iff.mp hd).2
  refine hstay.mono fun e ht he => ?_
  rcases VisitState.isQuiet_iff.mp he with he | ho
  · exact Or.inl he
  · obtain ⟨l, hl, hle⟩ : low.AtMost (c₂.number e) := by
      rcases hd with rfl | hd
      · exact hq.atMost_met e ht ho
      · obtain ⟨hu, hp⟩ := h.mem_new_iff.mp hd
        have hne : d ≠ id := by rintro rfl; rw [h.inProgress] at hp; cases hp
        exact hq.atMost_new d e (by simpa [hne] using hu) hp ht ho
    exact Or.inr (h.mem_of_entered_le ho (Nat.le_trans (hlow l hl) hle))

theorem visitResult_settled (h : Closing u g id c new c₂)
    (hin : ∀ d, d = id ∨ d ∈ new → u.StaysIn g (fun e => c₂.state e = .doesNotSuspend ∨ e = id ∨ e ∈ new) d) :
    VisitResult u g id c (.quiet none) (c₂.commit id c.pending.length .doesNotSuspend) where
  sound := h.sound_commit (Or.inr ⟨rfl, hin⟩)
  change := h.extends_commit rfl
  anchored d _ ho := ⟨d, (h.open_of_open_commit rfl ho).1, .refl⟩
  suspends hs := by cases hs
  quiet low hl := by
    cases hl
    have hid : (c₂.commit id c.pending.length .doesNotSuspend).state id = .doesNotSuspend := by
      rw [h.state_commit, if_pos (Or.inl rfl)]
    refine ⟨?_, ?_, ?_, ?_⟩
    · rintro e rfl
      rw [hid]; rfl
    · rintro e rfl ho
      rw [hid] at ho; cases ho
    · intro d e hd hp _ _
      have hc := (h.open_of_open_commit (d := d) rfl (by rw [hp]; rfl)).1
      rw [hd] at hc; cases hc
    · intro l hl
      cases hl

/-! ### Without a verdict -/

theorem sound_suspendJudgement (h : Closing u g id c new c₂) (hid : u.StaysIn g (fun e => (c₂.state e).isQuiet) id) :
    Sound u g (c₂.suspendJudgement id) := by
  have hquiet : ∀ e, (c₂.state e).isQuiet → ((c₂.suspendJudgement id).state e).isQuiet := by
    intro e he
    rw [state_suspendJudgement]
    split
    · rfl
    · exact he
  have hbegun : ∀ d, (c₂.suspendJudgement id).state d ≠ .unvisited ↔ c₂.state d ≠ .unvisited := by
    intro d
    rw [state_suspendJudgement]
    split
    · rename_i he
      rw [he, h.inProgress]; simp
    · rfl
  refine ⟨?_, ?_, ?_, ?_, ?_, ?_, ?_⟩
  · intro d hd
    exact h.now.valid d ((hbegun d).mp hd)
  · intro d hd
    by_cases he : d = id
    · simp [he] at hd
    · exact h.now.suspends d (by simpa [he] using hd)
  · intro d hd
    by_cases he : d = id
    · simp [he] at hd
    · refine (h.now.settled d (by simpa [he] using hd)).mono fun e _ hq => ?_
      rw [state_suspendJudgement, if_neg, hq]
      rintro rfl
      rw [h.inProgress] at hq; cases hq
  · intro d hd
    by_cases he : d = id
    · rw [he]
      exact hid.mono fun e _ hq => hquiet e hq
    · exact (h.now.waiting d (by simpa [he] using hd)).mono fun e _ hq => hquiet e hq
  · intro d
    rw [pending_suspendJudgement, state_suspendJudgement, List.mem_append, ← h.now.listed d, List.mem_singleton]
    by_cases he : d = id
    · simp [he]
    · simp [he]
  · intro d hd
    rw [number_suspendJudgement, entered_suspendJudgement]
    apply h.now.numbered d
    by_cases he : d = id
    · rw [he, h.inProgress]; rfl
    · simpa [he] using hd
  · rw [entered_suspendJudgement, h.now.counted, begun_congr hbegun]

theorem extends_suspendJudgement (h : Closing u g id c new c₂) : Extends u g id c (c₂.suspendJudgement id) where
  kept d hd := by rw [state_suspendJudgement, if_neg (h.ne_id hd), (h.kept hd).1]
  number_kept d hd := by rw [number_suspendJudgement, (h.kept hd).2]
  entered_le := h.entered_le
  fresh d hd ho := by
    rw [number_suspendJudgement]
    by_cases he : d = id
    · exact ⟨by simp [he], by rw [he, h.number]⟩
    · rw [state_suspendJudgement, if_neg he] at ho ⊢
      obtain ⟨hp, hn⟩ := h.change.fresh d (by simpa [he] using hd) ho
      exact ⟨hp, Nat.le_of_succ_le hn⟩
  pending := by
    refine ⟨new ++ [id], by rw [pending_suspendJudgement, h.pending, List.append_assoc], fun d hd => ?_⟩
    rcases List.mem_append.mp hd with hd | hd
    · exact h.new_unvisited d hd
    · rw [List.mem_singleton.mp hd]; exact h.unvisited
  reached d hd := by
    by_cases he : d = id
    · exact he ▸ .refl
    · exact h.reached (by simpa [he] using hd)

theorem visitResult_waiting (h : Closing u g id c new c₂) {l : Nat} (hb : (u.body? id).isSome)
    (hts : ∀ t ∈ u.targets id, t.StaysIn g fun _ => True)
    (hq : Quiet u g id (fun e => .asyncDecl e ∈ u.targets id) (some l) (c.enter id) c₂) (hlow : l < c.entered) :
    VisitResult u g id c (.quiet (some l)) (c₂.suspendJudgement id) := by
  have hid : u.StaysIn g (fun e => (c₂.state e).isQuiet) id :=
    ⟨hb, fun t ht => (hts t ht).mono fun e he _ => hq.quiet e (he ▸ ht)⟩
  have hopen : ∀ d, ((c₂.suspendJudgement id).state d).isOpen ↔ (c₂.state d).isOpen := by
    intro d
    rw [state_suspendJudgement]
    split
    · rename_i he
      rw [he, h.inProgress]; simp [VisitState.isOpen]
    · rfl
  obtain ⟨w, hw, hn, hr⟩ := hq.attained l rfl
  refine ⟨h.sound_suspendJudgement hid, h.extends_suspendJudgement, ?_, ?_, ?_⟩
  · -- the declaration under the low link was open before `id`, since its number is smaller
    intro d _ ho
    refine ⟨w, ?_, Relation.ReflTransGen.trans (h.leadsTo d ((hopen d).mp ho)) hr⟩
    rcases h.open_cases hw with ⟨hc, _, _⟩ | rfl | ⟨_, hlt⟩
    · exact hc
    · rw [h.number] at hn; omega
    · omega
  · intro hs
    cases hs
  · intro low he
    cases he
    refine ⟨?_, ?_, ?_, ?_⟩
    · rintro e rfl
      rw [state_suspendJudgement, if_pos rfl]; rfl
    · rintro e rfl _
      rw [number_suspendJudgement, h.number]
      exact ⟨l, rfl, Nat.le_of_lt hlow⟩
    · intro d e hd hp ht ho
      rw [number_suspendJudgement]
      by_cases he : d = id
      · exact hq.atMost_met e (he ▸ ht) ((hopen e).mp ho)
      · rw [state_suspendJudgement, if_neg he] at hp
        exact hq.atMost_new d e (by simpa [he] using hd) hp ht ((hopen e).mp ho)
    · intro l' hl'
      cases hl'
      exact ⟨w, (hopen w).mpr hw, by rw [number_suspendJudgement, hn], hr⟩

end Closing

/-- Closing a declaration ends, whatever the walk of its body has found. -/
theorem settle_ends {outcome : Outcome} (hs : Sound u g c) (hid : c.state id = .unvisited)
    (hb : outcome ≠ .suspends → (u.body? id).isSome)
    (h : WalkResult u g id (u.targets id) (c.enter id) outcome c₂) :
    ∃ outcome' c', (settle id c.entered c.pending.length outcome).Ends c₂ outcome' c' ∧
      VisitResult u g id c outcome' c' := by
  obtain ⟨new, hc⟩ := Closing.of_walk hs hid h
  cases outcome with
  | suspends => exact ⟨_, _, rfl, hc.visitResult_suspends (h.suspends rfl)⟩
  | quiet low =>
      have hq := h.quiet low rfl
      have hts := h.stays low rfl
      have hbody := hb (by simp)
      by_cases hlow : low.all (c.entered ≤ ·) = true
      · have hle : ∀ l, low = some l → c.entered ≤ l := by
          rintro l rfl
          simpa using hlow
        refine ⟨.quiet none, c₂.commit id c.pending.length .doesNotSuspend, ?_,
          hc.visitResult_settled fun d hd => hc.staysIn_members hbody hts hq hle hd⟩
        simp only [settle, if_pos hlow]
        exact (Visiting.ends_modify _ _).bind (Visiting.ends_pure _ _)
      · cases low with
        | none => exact absurd rfl hlow
        | some l =>
            refine ⟨.quiet (some l), c₂.suspendJudgement id, ?_,
              hc.visitResult_waiting hbody hts hq (by simpa using hlow)⟩
            simp only [settle, if_neg hlow]
            exact (Visiting.ends_modify _ _).bind (Visiting.ends_pure _ _)

/-! ## Walking a body -/

namespace WalkResult

variable {ts ts' : List CallTarget} {t : CallTarget}

theorem nil (hs : Sound u g c) (ht : LeadsTo u g c id) : WalkResult u g id [] c (.quiet none) c where
  sound := hs
  change := .refl u g id c
  leadsTo := ht
  suspends hs := by cases hs
  stays _ _ t ht := by cases ht
  quiet low hl := by
    cases hl
    refine ⟨fun e he => (nomatch he), fun e he => (nomatch he), fun d e hd hp => ?_, nofun⟩
    rw [hd] at hp; cases hp

theorem of_suspends (hs : Sound u g c) (ht : LeadsTo u g c id) (hid : u.Suspends g id) :
    WalkResult u g id ts c .suspends c where
  sound := hs
  change := .refl u g id c
  leadsTo := ht
  suspends _ := hid
  stays _ hl := by cases hl
  quiet _ hl := by cases hl

/-- A call that is not followed adds nothing. -/
theorem ignored (h : WalkResult u g id [] c (.quiet none) c') (ht : t.StaysIn g fun _ => True)
    (hn : ∀ callee, t ≠ .asyncDecl callee) : WalkResult u g id [t] c (.quiet none) c' :=
  { h with
    stays := fun _ _ t' ht' => List.mem_singleton.mp ht' ▸ ht
    quiet := fun low hl => by
      have hq := h.quiet low hl
      refine ⟨fun e he => ?_, fun e he => ?_, hq.atMost_new, hq.attained⟩
      · exact absurd (List.mem_singleton.mp he).symm (hn e)
      · exact absurd (List.mem_singleton.mp he).symm (hn e) }

/-- A call that is followed adds what the visit of the callee has found. -/
theorem followed {callee : DeclId} {outcome : Outcome} (ht : LeadsTo u g c id) (hf : u.Follows g id callee)
    (h : VisitResult u g callee c outcome c') : WalkResult u g id [.asyncDecl callee] c outcome c' where
  sound := h.sound
  change := h.change.of_reaches (.single hf)
  leadsTo := h.leadsTo ht
  suspends hs := (h.suspends hs).of_follows hf
  stays _ _ t ht := List.mem_singleton.mp ht ▸ ⟨hf.choose_spec.2.2, trivial⟩
  quiet low hl := by
    have hq := h.quiet low hl
    have hmet : ∀ {e}, .asyncDecl e ∈ [CallTarget.asyncDecl callee] → e = callee := by simp
    refine ⟨fun e he => hq.quiet e (hmet he), fun e he => hq.atMost_met e (hmet he), hq.atMost_new, fun l hl => ?_⟩
    obtain ⟨w, hw, hn, hr⟩ := hq.attained l hl
    exact ⟨w, hw, hn, .head hf hr⟩

theorem append {low : LowLink} {outcome : Outcome} (h₁ : WalkResult u g id ts c (.quiet low) c₁)
    (h₂ : WalkResult u g id ts' c₁ outcome c₂) :
    WalkResult u g id (ts ++ ts') c
      (match outcome with
        | .suspends => .suspends
        | .quiet low' => .quiet (low.min low')) c₂ where
  sound := h₂.sound
  change := h₁.change.trans h₂.change
  leadsTo := h₂.leadsTo
  suspends hs := by
    cases outcome with
    | suspends => exact h₂.suspends rfl
    | quiet low' => cases hs
  stays low'' hl t ht := by
    cases outcome with
    | suspends => cases hl
    | quiet low' =>
        rcases List.mem_append.mp ht with ht | ht
        · exact h₁.stays low rfl t ht
        · exact h₂.stays low' rfl t ht
  quiet low'' hl := by
    cases outcome with
    | suspends => cases hl
    | quiet low' =>
        cases hl
        simpa only [List.mem_append] using (h₁.quiet low rfl).trans h₁.sound h₂.change (h₂.quiet low' rfl)

theorem suspends_append (ts' : List CallTarget) (h : WalkResult u g id ts c .suspends c') :
    WalkResult u g id (ts ++ ts') c .suspends c' :=
  { h with
    stays := fun _ hl => by cases hl
    quiet := fun _ hl => by cases hl }

end WalkResult

/-- What is said of every visit with the same budget or a smaller one. -/
def VisitsEnd (u : CompileUnit) (g : Guard) (budget : Nat) : Prop :=
  ∀ id c, id < u.size → Sound u g c → LeadsTo u g c id → u.size ≤ budget + c.entered →
    ∃ outcome c', (visit u g budget id).Ends c outcome c' ∧ VisitResult u g id c outcome c'

theorem visitTarget_ends {budget : Nat} {t : CallTarget} (hv : VisitsEnd u g budget) (hu : u.TargetsValid)
    (ht : t ∈ u.targets id) (hs : Sound u g c) (hl : LeadsTo u g c id) (hb : u.size ≤ budget + c.entered) :
    ∃ outcome c', (visitTarget g (visit u g budget) t).Ends c outcome c' ∧ WalkResult u g id [t] c outcome c' := by
  cases t with
  | suspension => exact ⟨_, _, rfl, .of_suspends hs hl (.of_target ht fun h => h)⟩
  | syncDecl callee => exact ⟨_, _, rfl, (WalkResult.nil hs hl).ignored trivial nofun⟩
  | unknown => exact ⟨_, _, rfl, (WalkResult.nil hs hl).ignored trivial nofun⟩
  | asyncDecl callee =>
      cases he : g.isExempt callee with
      | true =>
          refine ⟨_, c, ?_, .of_suspends hs hl (.of_target ht fun h => ?_)⟩
          · simp only [visitTarget, he]; rfl
          · exact absurd h.1 (by simp [he])
      | false =>
          have hf : u.Follows g id callee := CompileUnit.follows_iff.mpr ⟨ht, he⟩
          obtain ⟨outcome, c', hend, hr⟩ := hv callee c (hu.lt_size ht) hs (fun d hd => (hl d hd).tail hf) hb
          refine ⟨outcome, c', ?_, .followed hl hf hr⟩
          simpa only [visitTarget, he, Bool.false_eq_true, if_false] using hend

theorem visitAll_ends {budget : Nat} (hv : VisitsEnd u g budget) (hu : u.TargetsValid) (ts : List CallTarget)
    (hts : ∀ t ∈ ts, t ∈ u.targets id) (hs : Sound u g c) (hl : LeadsTo u g c id)
    (hb : u.size ≤ budget + c.entered) :
    ∃ outcome c', (visitAll g (visit u g budget) ts).Ends c outcome c' ∧ WalkResult u g id ts c outcome c' := by
  induction ts generalizing c with
  | nil => exact ⟨_, _, rfl, .nil hs hl⟩
  | cons t ts ih =>
      obtain ⟨outcome, c₁, hend, hr⟩ := visitTarget_ends hv hu (hts t (by simp)) hs hl hb
      cases outcome with
      | suspends => exact ⟨_, _, hend.andThen_suspends _, hr.suspends_append ts⟩
      | quiet low =>
          have hb₁ : u.size ≤ budget + c₁.entered := Nat.le_trans hb (Nat.add_le_add_left hr.change.entered_le _)
          obtain ⟨outcome', c₂, hend', hr'⟩ := ih (fun t ht => hts t (by simp [ht])) hr.sound hr.leadsTo hb₁
          cases outcome' with
          | suspends => exact ⟨_, _, hend.andThen_quiet_suspends hend', hr.append hr'⟩
          | quiet low' => exact ⟨_, _, hend.andThen_quiet hend', hr.append hr'⟩

/-- Walks the body of a declaration; a missing body counts as one that suspends. -/
def walkBody (u : CompileUnit) (g : Guard) (visit : DeclId → Visiting Outcome) (d : Declaration) : Visiting Outcome :=
  match d.body with
  | some body => walk u g visit body
  | none => pure .suspends

theorem walkBody_ends {budget : Nat} {d : Declaration} (hv : VisitsEnd u g budget) (hu : u.TargetsValid)
    (hd : u.declaration? id = some d) (hs : Sound u g c) (hl : LeadsTo u g c id) (hb : u.size ≤ budget + c.entered) :
    ∃ outcome c', (walkBody u g (visit u g budget) d).Ends c outcome c' ∧
      WalkResult u g id (u.targets id) c outcome c' ∧ (outcome ≠ .suspends → (u.body? id).isSome) := by
  have hbody := CompileUnit.body?_eq hd
  unfold walkBody
  cases hdb : d.body with
  | none => exact ⟨_, _, rfl, .of_suspends hs hl (.bodiless hd hdb), fun h => absurd rfl h⟩
  | some body =>
      have hts : u.targets id = body.targets u := by rw [CompileUnit.targets, hbody, hdb, Option.elim_some]
      obtain ⟨outcome, c', hend, hr⟩ := visitAll_ends hv hu (u.targets id) (fun _ ht => ht) hs hl hb
      refine ⟨outcome, c', ?_, hr, fun _ => by rw [hbody, hdb]; rfl⟩
      simpa only [walk_eq, hts] using hend

theorem walkBody_refines {visit visit' : DeclId → Visiting Outcome} (h : ∀ id, (visit id).Refines (visit' id))
    (d : Declaration) : (walkBody u g visit d).Refines (walkBody u g visit' d) := by
  unfold walkBody
  cases d.body with
  | none => exact .refl _
  | some body =>
      simp only [walk_eq]
      exact visitAll_refines h _

/-! ## Visits -/

theorem visitResult_suspends_known (hs : Sound u g c) (hid : c.state id = .suspends) :
    VisitResult u g id c .suspends c where
  sound := hs
  change := .refl u g id c
  anchored d _ ho := ⟨d, ho, .refl⟩
  suspends _ := hs.suspends id hid
  quiet _ hl := by cases hl

theorem visitResult_quiet_known {low : LowLink} (hs : Sound u g c) (hid : (c.state id).isQuiet)
    (hlow : (c.state id).isOpen → low.AtMost (c.number id))
    (hatt : ∀ l, low = some l → (c.state id).isOpen ∧ c.number id = l) : VisitResult u g id c (.quiet low) c where
  sound := hs
  change := .refl u g id c
  anchored d _ ho := ⟨d, ho, .refl⟩
  suspends hs := by cases hs
  quiet low hl := by
    cases hl
    refine ⟨?_, ?_, ?_, ?_⟩
    · rintro e rfl
      exact hid
    · rintro e rfl
      exact hlow
    · intro d e hd hp
      rw [hd] at hp; cases hp
    · intro l hl
      exact ⟨id, (hatt l hl).1, (hatt l hl).2, .refl⟩

theorem visit_ends_of_visited {budget : Nat} (hs : Sound u g c) (hid : c.state id ≠ .unvisited) :
    ∃ outcome c', (visit u g budget id).Ends c outcome c' ∧ VisitResult u g id c outcome c' := by
  unfold visit
  cases hst : c.state id with
  | unvisited => exact absurd hst hid
  | suspends =>
      exact ⟨_, c, (Visiting.ends_get c).bind (by rw [hst]; rfl), visitResult_suspends_known hs hst⟩
  | doesNotSuspend =>
      refine ⟨.quiet none, c, (Visiting.ends_get c).bind (by rw [hst]; rfl), visitResult_quiet_known hs ?_ ?_ nofun⟩
      · rw [hst]; rfl
      · rw [hst]; nofun
  | inProgress | pending =>
      have ho : (c.state id).isOpen := by rw [hst]; rfl
      refine ⟨_, c, (Visiting.ends_get c).bind (by rw [hst]; rfl),
        visitResult_quiet_known hs ?_ (fun _ => ⟨_, rfl, Nat.le_refl _⟩) fun l hl => ⟨ho, Option.some.inj hl⟩⟩
      exact VisitState.isQuiet_iff.mpr (Or.inr ho)

/-- An unvisited declaration is opened, its body is walked, and it is closed again. -/
theorem visit_ends_iff {budget : Nat} {d : Declaration} {outcome : Outcome} (hd : u.declaration? id = some d)
    (hst : c.state id = .unvisited) :
    (visit u g (budget + 1) id).Ends c outcome c' ↔
      (walkBody u g (visit u g budget) d >>= settle id c.entered c.pending.length).Ends (c.enter id) outcome c' := by
  unfold visit walkBody
  constructor
  · intro h
    obtain ⟨_, _, hget, hopen⟩ := Visiting.ends_bind_iff.mp h
    obtain ⟨rfl, rfl⟩ := hget.unique (Visiting.ends_get c)
    simp only [hst, hd] at hopen
    obtain ⟨_, _, hset, hwalk⟩ := Visiting.ends_bind_iff.mp hopen
    obtain ⟨_, rfl⟩ := hset.unique (Visiting.ends_set _ _)
    cases hdb : d.body <;> rw [hdb] at hwalk <;> exact hwalk
  · intro h
    refine (Visiting.ends_get c).bind ?_
    simp only [hst, hd]
    refine (Visiting.ends_set _ _).bind ?_
    cases hdb : d.body <;> rw [hdb] at h <;> exact h

theorem visit_ends_of_unvisited {budget : Nat} (hv : VisitsEnd u g budget) (hu : u.TargetsValid) (hid : id < u.size)
    (hs : Sound u g c) (hl : LeadsTo u g c id) (hst : c.state id = .unvisited) (hb : u.size ≤ budget + 1 + c.entered) :
    ∃ outcome c', (visit u g (budget + 1) id).Ends c outcome c' ∧ VisitResult u g id c outcome c' := by
  obtain ⟨d, hd⟩ := CompileUnit.declaration?_eq_some hid
  have hb₁ : u.size ≤ budget + (c.enter id).entered := by rw [entered_enter]; omega
  obtain ⟨outcome, c₂, hend, hr, hbody⟩ := walkBody_ends hv hu hd (hs.enter hid hst) hl.enter hb₁
  obtain ⟨outcome', c', hend', hr'⟩ := settle_ends hs hst hbody hr
  exact ⟨outcome', c', (visit_ends_iff hd hst).mpr (hend.bind hend'), hr'⟩

/-- Every visit ends. The number of declarations that can still be opened bounds how deep visits nest. -/
theorem visits_end (hu : u.TargetsValid) (budget : Nat) : VisitsEnd u g budget := by
  induction budget with
  | zero =>
      intro id c hid hs _ hb
      refine visit_ends_of_visited hs fun hst => ?_
      have := hs.entered_lt hid hst
      omega
  | succ budget ih =>
      intro id c hid hs hl hb
      by_cases hst : c.state id = .unvisited
      · exact visit_ends_of_unvisited ih hu hid hs hl hst hb
      · exact visit_ends_of_visited hs hst

/-! ## Classifications one after the other -/

/-- A classification that begins with nothing open gives the right answer and leaves nothing open. -/
theorem classify_ends (hu : u.TargetsValid) (hc : Resting u g c) (hid : id < u.size) :
    ∃ v c', (classify u g id).Ends c v c' ∧ Resting u g c' ∧ Extends u g id c c' ∧ (v = true ↔ u.Suspends g id) := by
  obtain ⟨outcome, c', hend, hr⟩ := visits_end hu u.size id c hid hc.toSound (hc.leadsTo id) (Nat.le_add_right _ _)
  have hclosed : ∀ d, (c'.state d).isOpen = false := by
    intro d
    by_contra ho
    obtain ⟨e, he, _⟩ : ∃ e, (c.state e).isOpen ∧ u.Reaches g d e := by
      by_cases hd : c.state d = .unvisited
      · exact hr.anchored d hd (by simpa using ho)
      · exact ⟨d, by rw [← hr.change.kept d hd]; simpa using ho, .refl⟩
    rw [hc.closed e] at he; cases he
  refine ⟨outcome.isSuspends, c', hend.bind (Visiting.ends_pure _ _), ⟨hr.sound, hclosed⟩, hr.change, ?_⟩
  cases outcome with
  | suspends => exact ⟨fun _ => hr.suspends rfl, fun _ => rfl⟩
  | quiet low =>
      have hq := (hr.quiet low rfl).quiet id rfl
      have hst : c'.state id = .doesNotSuspend := by
        rcases VisitState.isQuiet_iff.mp hq with hst | ho
        · exact hst
        · rw [hclosed id] at ho; cases ho
      exact ⟨nofun, fun h => absurd h (hr.sound.not_suspends hst)⟩

end AsyncLint
