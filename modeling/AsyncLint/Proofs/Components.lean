import AsyncLint.Proofs.Findings

/-!
# What is settled together

A classification is a tree of visits. When one of them closes its declaration without a suspension, the declaration and
those that stop waiting with it are a strongly connected component of the calls that are followed. In every cache on the
way, whatever waits leads to a declaration in progress that was entered before it.
-/

namespace AsyncLint

open Cache

/-- A visit that begins: the declaration, the cache it finds and the number of declarations it may still open. -/
structure Invocation where
  budget : Nat
  id : DeclId
  cache : Cache

namespace Invocation

/-- While `v` walks the body of its declaration it begins the visit `w`. The calls before that one were quiet, for the
walk stops at the first suspension. -/
inductive Begins (u : CompileUnit) (g : Guard) : Invocation → Invocation → Prop where
  | call {budget : Nat} {id callee : DeclId} {c c₁ : Cache} {before after : List CallTarget} {low : LowLink}
      (hid : c.state id = .unvisited) (hts : u.targets id = before ++ .asyncDecl callee :: after)
      (he : g.isExempt callee = false)
      (hquiet : (visitAll g (visit u g budget) before).Ends (c.enter id) (.quiet low) c₁) :
      Begins u g ⟨budget + 1, id, c⟩ ⟨budget, callee, c₁⟩

/-- Visits that begin during a visit, at any depth; the visit itself counts. -/
def Contains (u : CompileUnit) (g : Guard) : Invocation → Invocation → Prop :=
  Relation.ReflTransGen (Begins u g)

/-- The visit opens its declaration, the walk of the body leaves the cache `before`, and closing the declaration turns
it into `after`. -/
inductive Settles (u : CompileUnit) (g : Guard) : Invocation → Cache → Cache → Prop where
  | close {budget : Nat} {id : DeclId} {c before after : Cache} {d : Declaration} {found outcome : Outcome}
      (hid : c.state id = .unvisited) (hd : u.declaration? id = some d)
      (hwalk : (walkBody u g (visit u g budget) d).Ends (c.enter id) found before)
      (hsettle : (settle id c.entered c.pending.length found).Ends before outcome after) :
      Settles u g ⟨budget + 1, id, c⟩ before after

/-- The caches that a visit passes, those of the visits that begin during it apart. -/
inductive Passes (u : CompileUnit) (g : Guard) (v : Invocation) : Cache → Prop where
  | start : Passes u g v v.cache
  | opened (hid : v.cache.state v.id = .unvisited) : Passes u g v (v.cache.enter v.id)
  | walked {before after : Cache} (h : Settles u g v before after) : Passes u g v before
  | ended {outcome : Outcome} {c' : Cache} (h : (visit u g v.budget v.id).Ends v.cache outcome c') : Passes u g v c'

end Invocation

/-- Nothing waits twice, and what waits leads to something in progress that was entered before it. -/
structure Cache.Anchored (u : CompileUnit) (g : Guard) (c : Cache) : Prop where
  nodup : c.pending.Nodup
  anchor : ∀ d, c.state d = .pending → ∃ e, c.state e = .inProgress ∧ c.number e < c.number d ∧ u.Reaches g d e

/-- Declaration `d` waits in the first cache and no longer in the second. -/
def Cache.Releases (c c' : Cache) (d : DeclId) : Prop :=
  c.state d = .pending ∧ c'.state d ≠ .pending

variable {u : CompileUnit} {g : Guard} {id : DeclId} {c c' c₂ : Cache}

/-! ## Closing a declaration -/

theorem settle_cases {number mark : Nat} {found outcome : Outcome} (h : (settle id number mark found).Ends c outcome c') :
    found = .suspends ∧ c' = c.commit id mark .suspends ∨
      (∃ low, found = .quiet low ∧ (∀ l, low = some l → number ≤ l) ∧ c' = c.commit id mark .doesNotSuspend) ∨
      ∃ l, found = .quiet (some l) ∧ l < number ∧ c' = c.suspendJudgement id := by
  cases found with
  | suspends =>
      obtain ⟨_, rfl⟩ := h.unique ((Visiting.ends_modify _ _).bind (Visiting.ends_pure _ _))
      exact Or.inl ⟨rfl, rfl⟩
  | quiet low =>
      by_cases hlow : low.all (number ≤ ·) = true
      · simp only [settle, if_pos hlow] at h
        obtain ⟨_, rfl⟩ := h.unique ((Visiting.ends_modify _ _).bind (Visiting.ends_pure _ _))
        refine Or.inr (Or.inl ⟨low, rfl, ?_, rfl⟩)
        rintro l rfl
        simpa using hlow
      · simp only [settle, if_neg hlow] at h
        obtain ⟨_, rfl⟩ := h.unique ((Visiting.ends_modify _ _).bind (Visiting.ends_pure _ _))
        cases low with
        | none => exact absurd rfl hlow
        | some l => exact Or.inr (Or.inr ⟨l, rfl, by simpa using hlow, rfl⟩)

/-- From what is settled as not suspending, calls lead only to more of the kind. -/
theorem Cache.Sound.doesNotSuspend_of_reaches (h : Sound u g c) {d e : DeclId} (hd : c.state d = .doesNotSuspend)
    (hr : u.Reaches g d e) : c.state e = .doesNotSuspend := by
  induction hr with
  | refl => exact hd
  | tail _ hf ih => exact ((h.settled _ ih).calls _ (CompileUnit.follows_iff.mp hf).1).2

namespace Closing

variable {new : List DeclId}

theorem releases_commit_iff (h : Closing u g id c new c₂) {s : VisitState} (hs : s.isOpen = false) {d : DeclId} :
    c₂.Releases (c₂.commit id c.pending.length s) d ↔ d ∈ new := by
  rw [Releases, h.state_commit]
  constructor
  · rintro ⟨hp, hn⟩
    split at hn
    · rename_i hm
      refine hm.resolve_left ?_
      rintro rfl
      rw [h.inProgress] at hp; cases hp
    · exact absurd hp hn
  · intro hd
    refine ⟨(h.mem_new_iff.mp hd).2, ?_⟩
    rw [if_pos (Or.inr hd)]
    rintro rfl
    cases hs

theorem reaches_member (h : Closing u g id c new c₂) {d : DeclId} (hd : d = id ∨ d ∈ new) :
    u.Reaches g id d ∧ u.Reaches g d id := by
  rcases hd with rfl | hd
  · exact ⟨.refl, .refl⟩
  · obtain ⟨hu, hp⟩ := h.mem_new_iff.mp hd
    exact ⟨h.reached (by rw [hu, hp]; simp), h.leadsTo d (by rw [hp]; rfl)⟩

theorem of_releases_commit (h : Closing u g id c new c₂) {s : VisitState} (hs : s.isOpen = false) {d : DeclId}
    (hd : c₂.Releases (c₂.commit id c.pending.length s) d) :
    (c₂.commit id c.pending.length s).state d = (c₂.commit id c.pending.length s).state id ∧ u.Reaches g d id := by
  have hm : d = id ∨ d ∈ new := Or.inr ((h.releases_commit_iff hs).mp hd)
  refine ⟨?_, (h.reaches_member hm).2⟩
  rw [h.state_commit, h.state_commit, if_pos hm, if_pos (Or.inl rfl)]

/-- If the only calls that lead out of `id` and what has begun to wait since it was opened go to what does not suspend,
these are the strongly connected component of `id`. -/
theorem member_iff (h : Closing u g id c new c₂)
    (hin : ∀ d, d = id ∨ d ∈ new → u.StaysIn g (fun e => c₂.state e = .doesNotSuspend ∨ e = id ∨ e ∈ new) d)
    {d : DeclId} : (d = id ∨ d ∈ new) ↔ u.Reaches g id d ∧ u.Reaches g d id := by
  have hreached : ∀ {e}, u.Reaches g id e → c₂.state e = .doesNotSuspend ∨ e = id ∨ e ∈ new := by
    intro e hr
    induction hr with
    | refl => exact Or.inr (Or.inl rfl)
    | tail _ hf ih =>
        rcases ih with ih | ih
        · exact Or.inl (h.now.doesNotSuspend_of_reaches ih (.single hf))
        · exact ((hin _ ih).calls _ (CompileUnit.follows_iff.mp hf).1).2
  refine ⟨h.reaches_member, fun ⟨hto, hback⟩ => (hreached hto).resolve_left fun hsettled => ?_⟩
  -- what is settled does not lead back to `id`, which is still in progress
  have hid := h.now.doesNotSuspend_of_reaches hsettled hback
  rw [h.inProgress] at hid
  cases hid

/-! ### Anchors -/

/-- After a verdict only declarations from before the visit wait, and their anchors are untouched. -/
theorem anchored_commit (h : Closing u g id c new c₂) (hc : Anchored u g c) {s : VisitState} (hs : s.isOpen = false) :
    Anchored u g (c₂.commit id c.pending.length s) where
  nodup := by rw [pending_commit, h.pending, List.take_left]; exact hc.nodup
  anchor d hd := by
    obtain ⟨ho, _⟩ := h.open_of_open_commit (d := d) hs (by rw [hd]; rfl)
    have hdv := VisitState.ne_unvisited_of_isOpen ho
    rw [h.state_commit_of_visited s hdv] at hd
    obtain ⟨e, he, hlt, hr⟩ := hc.anchor d hd
    have hev : c.state e ≠ .unvisited := by rw [he]; simp
    refine ⟨e, by rw [h.state_commit_of_visited s hev, he], ?_, hr⟩
    rw [number_commit, number_commit, (h.kept hev).2, (h.kept hdv).2]
    exact hlt

/-- The low link of a declaration that has to wait leads to one in progress from before it. -/
theorem exists_anchor (h : Closing u g id c new c₂) (hc₂ : Anchored u g c₂) {met : DeclId → Prop} {l : Nat}
    (hq : Quiet u g id met (some l) (c.enter id) c₂) (hlow : l < c.entered) :
    ∃ e, c₂.state e = .inProgress ∧ c₂.number e < c₂.number id ∧ u.Reaches g id e := by
  obtain ⟨w, hw, rfl, hr⟩ := hq.attained l rfl
  rw [← h.number] at hlow
  cases hst : c₂.state w with
  | inProgress => exact ⟨w, hst, hlow, hr⟩
  | pending =>
      obtain ⟨e, he, hlt, hre⟩ := hc₂.anchor w hst
      exact ⟨e, he, Nat.lt_trans hlt hlow, hr.trans hre⟩
  | unvisited => rw [hst] at hw; cases hw
  | suspends => rw [hst] at hw; cases hw
  | doesNotSuspend => rw [hst] at hw; cases hw

theorem anchored_suspendJudgement (h : Closing u g id c new c₂) (hc₂ : Anchored u g c₂) {met : DeclId → Prop} {l : Nat}
    (hq : Quiet u g id met (some l) (c.enter id) c₂) (hlow : l < c.entered) :
    Anchored u g (c₂.suspendJudgement id) := by
  obtain ⟨w, hw, hlt, hr⟩ := h.exists_anchor hc₂ hq hlow
  have hkeep : ∀ {e}, c₂.state e = .inProgress → e ≠ id → (c₂.suspendJudgement id).state e = .inProgress := by
    intro e he hne
    rw [state_suspendJudgement, if_neg hne, he]
  have hwid : w ≠ id := by rintro rfl; exact Nat.lt_irrefl _ hlt
  refine ⟨?_, fun d hd => ?_⟩
  · rw [pending_suspendJudgement]
    refine hc₂.nodup.append (List.nodup_singleton id) fun d hd hd' => ?_
    obtain rfl := List.mem_singleton.mp hd'
    have hp := (h.now.listed d).mpr hd
    rw [h.inProgress] at hp; cases hp
  · simp only [number_suspendJudgement]
    rw [state_suspendJudgement] at hd
    split at hd
    · rename_i he
      exact ⟨w, hkeep hw hwid, he ▸ hlt, he ▸ hr⟩
    · obtain ⟨e, he, hlt', hr'⟩ := hc₂.anchor d hd
      by_cases hne : e = id
      · -- the anchor itself begins to wait, and hands on to its own
        subst hne
        exact ⟨w, hkeep hw hwid, Nat.lt_trans hlt hlt', hr'.trans hr⟩
      · exact ⟨e, hkeep he hne, hlt', hr'⟩

end Closing

/-! ## Visits in visits -/

/-- What a visit may rely on when it begins, and the walk of a body all along. -/
structure Invocation.Ready (u : CompileUnit) (g : Guard) (v : Invocation) : Prop where
  declared : v.id < u.size
  sound : Sound u g v.cache
  leadsTo : LeadsTo u g v.cache v.id
  enough : u.size ≤ v.budget + v.cache.entered
  anchored : Anchored u g v.cache

theorem Cache.Anchored.enter (h : Anchored u g c) (hid : c.state id = .unvisited) : Anchored u g (c.enter id) where
  nodup := h.nodup
  anchor d hd := by
    have hdid : d ≠ id := by rintro rfl; simp at hd
    rw [state_enter, if_neg hdid] at hd
    obtain ⟨e, he, hlt, hr⟩ := h.anchor d hd
    have heid : e ≠ id := by rintro rfl; rw [hid] at he; cases he
    refine ⟨e, by rw [state_enter, if_neg heid, he], ?_, hr⟩
    rw [number_enter, number_enter, if_neg heid, if_neg hdid]
    exact hlt

namespace Invocation.Ready

variable {budget : Nat} {ts : List CallTarget} {outcome : Outcome}

theorem enter (h : Ready u g ⟨budget + 1, id, c⟩) (hid : c.state id = .unvisited) :
    Ready u g ⟨budget, id, c.enter id⟩ where
  declared := h.declared
  sound := h.sound.enter h.declared hid
  leadsTo := h.leadsTo.enter
  enough := by
    have hb := h.enough
    simp only [entered_enter] at hb ⊢
    omega
  anchored := h.anchored.enter hid

/-- A part of the body has been walked, and the walk goes on. -/
theorem of_walk (h : Ready u g ⟨budget, id, c⟩) (hr : WalkResult u g id ts c outcome c') (hc' : Anchored u g c') :
    Ready u g ⟨budget, id, c'⟩ where
  declared := h.declared
  sound := hr.sound
  leadsTo := hr.leadsTo
  enough := Nat.le_trans h.enough (Nat.add_le_add_left hr.change.entered_le _)
  anchored := hc'

theorem follow (hu : u.TargetsValid) (h : Ready u g ⟨budget, id, c⟩) {callee : DeclId}
    (ht : .asyncDecl callee ∈ u.targets id) (he : g.isExempt callee = false) : Ready u g ⟨budget, callee, c⟩ where
  declared := hu.lt_size ht
  sound := h.sound
  leadsTo d hd := (h.leadsTo d hd).tail (CompileUnit.follows_iff.mpr ⟨ht, he⟩)
  enough := h.enough
  anchored := h.anchored

end Invocation.Ready

theorem visit_ends_cache_of_visited {budget : Nat} {outcome : Outcome} (hid : c.state id ≠ .unvisited)
    (h : (visit u g budget id).Ends c outcome c') : c' = c := by
  unfold visit at h
  obtain ⟨_, _, hget, hknown⟩ := Visiting.ends_bind_iff.mp h
  obtain ⟨rfl, rfl⟩ := (Visiting.ends_get c).unique hget
  cases hst : c.state id with
  | unvisited => exact absurd hst hid
  | suspends | doesNotSuspend | inProgress | pending =>
      simp only [hst] at hknown
      exact (hknown.unique (Visiting.ends_pure _ _)).2

/-- What is said of the visits with the same budget. -/
def VisitsAnchor (u : CompileUnit) (g : Guard) (budget : Nat) : Prop :=
  ∀ id c outcome c', Invocation.Ready u g ⟨budget, id, c⟩ → (visit u g budget id).Ends c outcome c' → Anchored u g c'

namespace VisitsAnchor

variable {budget : Nat} {outcome : Outcome}

theorem visitTarget (hv : VisitsAnchor u g budget) (hu : u.TargetsValid) {t : CallTarget} (ht : t ∈ u.targets id)
    (hc : Invocation.Ready u g ⟨budget, id, c⟩) (h : (visitTarget g (visit u g budget) t).Ends c outcome c') :
    Anchored u g c' := by
  cases t with
  | suspension | syncDecl _ | unknown => exact (h.unique (Visiting.ends_pure _ _)).2 ▸ hc.anchored
  | asyncDecl callee =>
      cases he : g.isExempt callee with
      | true =>
          simp only [AsyncLint.visitTarget, he, if_true] at h
          exact (h.unique (Visiting.ends_pure _ _)).2 ▸ hc.anchored
      | false =>
          simp only [AsyncLint.visitTarget, he, Bool.false_eq_true, if_false] at h
          exact hv callee c outcome c' (hc.follow hu ht he) h

theorem visitAll (hv : VisitsAnchor u g budget) (hu : u.TargetsValid) (ts : List CallTarget)
    (hts : ∀ t ∈ ts, t ∈ u.targets id) (hc : Invocation.Ready u g ⟨budget, id, c⟩)
    (h : (visitAll g (visit u g budget) ts).Ends c outcome c') : Anchored u g c' := by
  induction ts generalizing c c' outcome with
  | nil => exact (h.unique (Visiting.ends_pure _ _)).2 ▸ hc.anchored
  | cons t ts ih =>
      have ht := hts t (by simp)
      obtain ⟨first, c₁, hfirst, hrest⟩ := Visiting.ends_bind_iff.mp h
      obtain ⟨_, _, hend, hr⟩ := visitTarget_ends (visits_end hu budget) hu ht hc.sound hc.leadsTo hc.enough
      obtain ⟨rfl, rfl⟩ := hfirst.unique hend
      have hc₁ := hv.visitTarget hu ht hc hfirst
      cases first with
      | suspends => exact (hrest.unique (Visiting.ends_pure _ _)).2 ▸ hc₁
      | quiet low =>
          obtain ⟨second, c₂, hsecond, hlast⟩ := Visiting.ends_bind_iff.mp hrest
          have hc₂ := ih (fun t ht => hts t (by simp [ht])) (hc.of_walk hr hc₁) hsecond
          cases second <;> exact (hlast.unique (Visiting.ends_pure _ _)).2 ▸ hc₂

theorem walkBody (hv : VisitsAnchor u g budget) (hu : u.TargetsValid) {d : Declaration}
    (hd : u.declaration? id = some d) (hc : Invocation.Ready u g ⟨budget, id, c⟩)
    (h : (walkBody u g (visit u g budget) d).Ends c outcome c') : Anchored u g c' := by
  unfold AsyncLint.walkBody at h
  cases hdb : d.body with
  | none =>
      rw [hdb] at h
      exact (h.unique (Visiting.ends_pure _ _)).2 ▸ hc.anchored
  | some body =>
      have hts : u.targets id = body.targets u := by
        rw [CompileUnit.targets, CompileUnit.body?_eq hd, hdb, Option.elim_some]
      rw [hdb] at h
      simp only [walk_eq] at h
      exact hv.visitAll hu _ (fun t ht => hts ▸ ht) hc h

end VisitsAnchor

/-- The moment before a visit closes its declaration. -/
theorem Invocation.Ready.exists_closing {budget : Nat} (hu : u.TargetsValid) (h : Ready u g ⟨budget + 1, id, c⟩)
    (hid : c.state id = .unvisited) {d : Declaration} (hd : u.declaration? id = some d) {found : Outcome}
    (hwalk : (walkBody u g (visit u g budget) d).Ends (c.enter id) found c₂) :
    ∃ new, Closing u g id c new c₂ ∧ WalkResult u g id (u.targets id) (c.enter id) found c₂ ∧
      (found ≠ .suspends → (u.body? id).isSome) := by
  have hin := h.enter hid
  obtain ⟨_, _, hend, hr, hbody⟩ := walkBody_ends (visits_end hu budget) hu hd hin.sound hin.leadsTo hin.enough
  obtain ⟨rfl, rfl⟩ := hend.unique hwalk
  obtain ⟨new, hnew⟩ := Closing.of_walk h.sound hid hr
  exact ⟨new, hnew, hr, hbody⟩

/-- A visit keeps the anchors, whatever it opens and closes. -/
theorem visits_anchor (hu : u.TargetsValid) (budget : Nat) : VisitsAnchor u g budget := by
  induction budget with
  | zero =>
      intro id c outcome c' h hend
      by_cases hid : c.state id = .unvisited
      · obtain ⟨_, _, _, hb⟩ := exists_declaration_of_ends hend hid
        cases hb
      · exact visit_ends_cache_of_visited hid hend ▸ h.anchored
  | succ budget ih =>
      intro id c outcome c' h hend
      by_cases hid : c.state id = .unvisited
      · obtain ⟨d, _, hd, _⟩ := exists_declaration_of_ends hend hid
        obtain ⟨found, c₂, hwalk, hsettle⟩ := Visiting.ends_bind_iff.mp ((visit_ends_iff hd hid).mp hend)
        obtain ⟨new, hnew, hr, _⟩ := h.exists_closing hu hid hd hwalk
        rcases settle_cases hsettle with ⟨_, rfl⟩ | ⟨_, _, _, rfl⟩ | ⟨l, rfl, hlow, rfl⟩
        · exact hnew.anchored_commit h.anchored rfl
        · exact hnew.anchored_commit h.anchored rfl
        · exact hnew.anchored_suspendJudgement (ih.walkBody hu hd (h.enter hid) hwalk) (hr.quiet _ rfl) hlow
      · exact visit_ends_cache_of_visited hid hend ▸ h.anchored

namespace Invocation

variable {v w : Invocation} {before after : Cache}

/-- Visits that a ready visit begins are ready. -/
theorem Ready.begins (hu : u.TargetsValid) (h : Ready u g v) (hw : Begins u g v w) : Ready u g w := by
  obtain ⟨hid, hts, he, hquiet⟩ := hw
  rename_i budget id callee c c₁ before after low
  have hin := h.enter hid
  have hbefore : ∀ t ∈ before, t ∈ u.targets id := fun t ht => by rw [hts]; exact List.mem_append_left _ ht
  have hcallee : .asyncDecl callee ∈ u.targets id := by simp [hts]
  obtain ⟨_, _, hend, hr⟩ := visitAll_ends (visits_end hu budget) hu before hbefore hin.sound hin.leadsTo hin.enough
  obtain ⟨rfl, rfl⟩ := hend.unique hquiet
  exact (hin.of_walk hr ((visits_anchor hu budget).visitAll hu before hbefore hin hquiet)).follow hu hcallee he

theorem Ready.contains (hu : u.TargetsValid) (h : Ready u g v) (hw : Contains u g v w) : Ready u g w := by
  induction hw with
  | refl => exact h
  | tail _ hb ih => exact ih.begins hu hb

/-- A classification of a unit's declaration begins with a visit that is ready. -/
theorem ready_of_resting (hc : Resting u g c) (hid : id < u.size) : Ready u g ⟨u.size, id, c⟩ where
  declared := hid
  sound := hc.toSound
  leadsTo := hc.leadsTo id
  enough := Nat.le_add_right _ _
  anchored := by
    refine ⟨by rw [hc.pending_eq_nil]; exact List.nodup_nil, fun d hd => ?_⟩
    have ho := hc.closed d
    rw [hd] at ho; cases ho

/-- Every cache on the way is sound, and whatever waits in it is anchored. -/
theorem Ready.passes (hu : u.TargetsValid) (h : Ready u g v) (hp : Passes u g v c') :
    Sound u g c' ∧ Anchored u g c' := by
  cases hp with
  | start => exact ⟨h.sound, h.anchored⟩
  | opened hid => exact ⟨h.sound.enter h.declared hid, h.anchored.enter hid⟩
  | walked hs =>
      obtain ⟨hid, hd, hwalk, _⟩ := hs
      obtain ⟨_, hnew, _⟩ := h.exists_closing hu hid hd hwalk
      exact ⟨hnew.now, (visits_anchor hu _).walkBody hu hd (h.enter hid) hwalk⟩
  | ended hend =>
      obtain ⟨_, c₁, hend', hr⟩ := visits_end hu v.budget v.id v.cache h.declared h.sound h.leadsTo h.enough
      obtain ⟨rfl, rfl⟩ := hend'.unique hend
      exact ⟨hr.sound, visits_anchor hu v.budget v.id v.cache _ _ h hend⟩

/-- A visit of an unvisited declaration comes to the point where it closes the declaration, and ends there. -/
theorem Ready.exists_settles (hu : u.TargetsValid) (h : Ready u g v) (hid : v.cache.state v.id = .unvisited) :
    ∃ before after outcome, Settles u g v before after ∧ (visit u g v.budget v.id).Ends v.cache outcome after := by
  obtain ⟨budget, id, c⟩ := v
  obtain ⟨outcome, after, hend, _⟩ := visits_end hu budget id c h.declared h.sound h.leadsTo h.enough
  obtain ⟨d, rest, hd, rfl⟩ := exists_declaration_of_ends hend hid
  obtain ⟨found, before, hwalk, hsettle⟩ := Visiting.ends_bind_iff.mp ((visit_ends_iff hd hid).mp hend)
  exact ⟨before, after, outcome, .close hid hd hwalk hsettle, hend⟩

/-- What stops waiting gets the verdict of the declaration that is closed, and leads to it. If the verdict is that it
does not suspend, they are its strongly connected component. -/
theorem Ready.settles (hu : u.TargetsValid) (h : Ready u g v) (hs : Settles u g v before after) :
    (∀ e, before.Releases after e → after.state e = after.state v.id ∧ u.Reaches g e v.id) ∧
      (after.state v.id = .doesNotSuspend →
        ∀ e, e = v.id ∨ before.Releases after e ↔ u.Reaches g v.id e ∧ u.Reaches g e v.id) := by
  obtain ⟨hid, hd, hwalk, hsettle⟩ := hs
  obtain ⟨new, hnew, hr, hbody⟩ := h.exists_closing hu hid hd hwalk
  rcases settle_cases hsettle with ⟨_, rfl⟩ | ⟨low, rfl, hlow, rfl⟩ | ⟨l, _, _, rfl⟩
  · refine ⟨fun e => hnew.of_releases_commit rfl, fun hn => ?_⟩
    rw [hnew.state_commit, if_pos (Or.inl rfl)] at hn
    cases hn
  · refine ⟨fun e => hnew.of_releases_commit rfl, fun _ e => ?_⟩
    rw [hnew.releases_commit_iff rfl]
    exact hnew.member_iff fun d hd =>
      hnew.staysIn_members (hbody (by simp)) (hr.stays low rfl) (hr.quiet low rfl) hlow hd
  · refine ⟨fun e he => ?_, fun hn => ?_⟩
    · -- a declaration that begins to wait releases nothing
      obtain ⟨hp, hn⟩ := he
      rw [state_suspendJudgement] at hn
      split at hn
      · exact absurd rfl hn
      · exact absurd hp hn
    · rw [state_suspendJudgement, if_pos rfl] at hn
      cases hn

/-! ## Whole classifications -/

/-- The visit closes its declaration together with the right others, and what waits is in order all along. -/
structure SettlesTogether (u : CompileUnit) (g : Guard) (v : Invocation) : Prop where
  closes : v.cache.state v.id = .unvisited →
    ∃ before after outcome, Settles u g v before after ∧ (visit u g v.budget v.id).Ends v.cache outcome after
  /-- What stops waiting gets the verdict of the declaration that is closed, and leads to it. -/
  released : ∀ before after, Settles u g v before after →
    ∀ e, before.Releases after e → after.state e = after.state v.id ∧ u.Reaches g e v.id
  /-- If they do not suspend, they are a strongly connected component. -/
  component : ∀ before after, Settles u g v before after → after.state v.id = .doesNotSuspend →
    ∀ e, e = v.id ∨ before.Releases after e ↔ u.Reaches g v.id e ∧ u.Reaches g e v.id
  /-- Every cache on the way lists what waits, once, and this leads to a declaration in progress from before it. -/
  waiting : ∀ c', Passes u g v c' → c'.pending.Nodup ∧ (∀ d, d ∈ c'.pending ↔ c'.state d = .pending) ∧
    ∀ d ∈ c'.pending, ∃ e, c'.state e = .inProgress ∧ c'.number e < c'.number d ∧ u.Reaches g d e

theorem Ready.settlesTogether (hu : u.TargetsValid) (h : Ready u g v) : SettlesTogether u g v where
  closes := h.exists_settles hu
  released _ _ hs := (h.settles hu hs).1
  component _ _ hs := (h.settles hu hs).2
  waiting c' hp := by
    obtain ⟨hs, ha⟩ := h.passes hu hp
    exact ⟨ha.nodup, fun d => (hs.listed d).symm, fun d hd => ha.anchor d ((hs.listed d).mpr hd)⟩

/-- In every visit during a classification, declarations are settled together as they should be: whatever is exempt, if
the cache is one between two classifications, and so in every cache that a unit has been analysed with. -/
theorem components_settle_together (u : CompileUnit) (hu : u.TargetsValid) (id : DeclId) (hid : id < u.size) :
    (∀ g c, Resting u g c → ∀ v, Contains u g ⟨u.size, id, c⟩ v → SettlesTogether u g v) ∧
    ∀ c, c.Used u → ∀ v, Contains u (Guard.of u) ⟨u.size, id, c⟩ v → SettlesTogether u (Guard.of u) v := by
  have hresting : ∀ g c, Resting u g c → ∀ v, Contains u g ⟨u.size, id, c⟩ v → SettlesTogether u g v := by
    intro g c hc v hv
    exact ((ready_of_resting hc hid).contains hu hv).settlesTogether hu
  exact ⟨hresting, fun c hc => hresting _ c (hc.resting hu)⟩

/-- Three functions in two cycles that share the second of them. -/
def knot : CompileUnit where
  name := "knot.rs"
  declarations := #[
    { name := "over", location := ⟨"knot.rs", 1, 1⟩, isAsync := true, body := some (.call 0 []) },
    { name := "under", location := ⟨"knot.rs", 2, 1⟩, isAsync := true, body := some (.call 1 []) },
    { name := "through", location := ⟨"knot.rs", 3, 1⟩, isAsync := true,
      body := some (.block [.call 2 [], .call 3 []]) }]
  callTargets := #[.asyncDecl 1, .asyncDecl 2, .asyncDecl 1, .asyncDecl 0]

theorem components_settle_together_knot : knot.TargetsValid ∧ 0 < knot.size ∧
    ∃ before after, Settles knot (Guard.of knot) ⟨knot.size, 0, {}⟩ before after ∧ after.state 0 = .doesNotSuspend ∧
      ∀ e, e = 0 ∨ before.Releases after e ↔
        knot.Reaches (Guard.of knot) 0 e ∧ knot.Reaches (Guard.of knot) e 0 := by
  have hu : knot.TargetsValid := by decide
  obtain ⟨hcloses, _, hcomponent, _⟩ :=
    (components_settle_together knot hu 0 (by decide)).2 {} .new ⟨knot.size, 0, {}⟩ .refl
  obtain ⟨before, after, outcome, hs, hend⟩ := hcloses rfl
  have hverdict : ((visit knot (Guard.of knot) knot.size 0).run.run {}).2.state 0 = .doesNotSuspend := by
    decide +kernel
  rw [hend] at hverdict
  exact ⟨hu, by decide, before, after, hs, hverdict, hcomponent before after hs hverdict⟩

end Invocation

end AsyncLint
