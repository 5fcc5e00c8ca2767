import AsyncLint.Proofs.Classification
import AsyncLint.Proofs.Exemption

/-!
# Calls inside lambdas

A classification passes over what stands in a lambda behind a parameter that is not async. For a declaration that is not
exempt this makes no difference: its verdict is the one that follows from all calls of the body, wherever they stand.
-/

namespace AsyncLint

namespace CompileUnit

variable (u : CompileUnit) (g : Guard)

/-- The call numbered `call` stands somewhere in the body of declaration `id`, under whatever lambdas. -/
def Contains (id : DeclId) (call : CallId) : Prop :=
  ∃ body arguments, u.body? id = some body ∧ .call call arguments ∈ body.descendants

/-- Declaration `id` can suspend, if all lambdas in all bodies run where they stand. -/
inductive SuspendsOpenly : DeclId → Prop where
  | bodiless {id : DeclId} {d : Declaration} (hd : u.declaration? id = some d) (hb : d.body = none) : SuspendsOpenly id
  | primitive {id : DeclId} {call : CallId} (hc : u.Contains id call) (ht : u.callTarget call = .suspension) :
      SuspendsOpenly id
  | exempt {id callee : DeclId} {call : CallId} (hc : u.Contains id call) (ht : u.callTarget call = .asyncDecl callee)
      (he : g.isExempt callee = true) : SuspendsOpenly id
  | callee {id callee : DeclId} {call : CallId} (hc : u.Contains id call) (ht : u.callTarget call = .asyncDecl callee)
      (hs : SuspendsOpenly callee) : SuspendsOpenly id

end CompileUnit

open CompileUnit Expression

variable {u : CompileUnit} {id : DeclId} {call : CallId}

theorem Expression.Visible.mem_preorder {e n : Expression} (h : e.Visible u n) : n ∈ e.preorder := by
  induction h with
  | here => exact self_mem_preorder _
  | under _ hc _ ih => exact mem_preorder_of_mem_children hc ih

theorem CompileUnit.Makes.contains (h : u.Makes id call) : u.Contains id call := by
  obtain ⟨body, arguments, hb, hv⟩ := h
  exact ⟨body, arguments, hb, by rw [descendants_eq_preorder]; exact hv.mem_preorder⟩

theorem Expression.isSuspendingCall_iff {arguments : List Expression} :
    (Expression.call call arguments).isSuspendingCall u = true ↔
      u.callTarget call = .suspension ∨ ∃ callee, u.callTarget call = .asyncDecl callee := by
  cases ht : u.callTarget call <;> simp [isSuspendingCall, ht]

/-- A declaration that is not exempt hides no call that may suspend. -/
theorem CompileUnit.Contains.makes (h : u.Contains id call) (he : (Guard.of u).isExempt id = false)
    (ht : u.callTarget call = .suspension ∨ ∃ callee, u.callTarget call = .asyncDecl callee) : u.Makes id call := by
  obtain ⟨body, arguments, hb, hn⟩ := h
  obtain ⟨d, hd, hbody⟩ := Option.bind_eq_some_iff.mp hb
  rw [descendants_eq_preorder] at hn
  exact ⟨body, arguments, hb, visible_of_isSuspendingCall he hd hbody hn (isSuspendingCall_iff.mpr ht)⟩

theorem CompileUnit.Suspends.openly {g : Guard} (h : u.Suspends g id) : u.SuspendsOpenly g id := by
  induction h with
  | bodiless hd hb => exact .bodiless hd hb
  | primitive hm ht => exact .primitive hm.contains ht
  | exempt hm ht he => exact .exempt hm.contains ht he
  | callee hm ht _ ih => exact .callee hm.contains ht ih

/-- Along calls of declarations that are not exempt, no lambda hides a call; an exempt callee counts as one that suspends
on either side. -/
theorem CompileUnit.SuspendsOpenly.suspends (h : u.SuspendsOpenly (Guard.of u) id)
    (he : (Guard.of u).isExempt id = false) : u.Suspends (Guard.of u) id := by
  induction h with
  | bodiless hd hb => exact .bodiless hd hb
  | primitive hc ht => exact .primitive (hc.makes he (Or.inl ht)) ht
  | exempt hc ht hx => exact .exempt (hc.makes he (Or.inr ⟨_, ht⟩)) ht hx
  | @callee _ callee _ hc ht _ ih =>
      have hm := hc.makes he (Or.inr ⟨_, ht⟩)
      cases hx : (Guard.of u).isExempt callee with
      | true => exact .exempt hm ht hx
      | false => exact .callee hm ht (ih hx)

/-- The verdict on a declaration that is not exempt is what all calls of its body amount to, with every lambda taken to
run where it stands. -/
theorem classify_iff_suspendsOpenly (u : CompileUnit) (hu : u.TargetsValid) (start : Cache) (hstart : start.Blank)
    (id : DeclId) (hid : id < u.size) (he : (Guard.of u).isExempt id = false) :
    ∃ verdict c, (classify u (Guard.of u) id).run.run start = (.ok verdict, c) ∧
      (verdict = true ↔ u.SuspendsOpenly (Guard.of u) id) := by
  obtain ⟨verdict, c, hend, _, _, hv⟩ := classify_ends hu (hstart.resting (g := Guard.of u)) hid
  exact ⟨verdict, c, hend, hv.trans ⟨Suspends.openly, fun h => h.suspends he⟩⟩

/-- Two functions that await each other inside lambdas: the calls of the first stand in an async lambda, one of them in a
further lambda that is not async. The second also awaits a function that hides an await. -/
def errands : CompileUnit where
  name := "errands.rs"
  declarations := #[
    { name := "send", location := ⟨"errands.rs", 1, 1⟩, isAsync := true,
      body := some (.lambda 0 (.block [.lambda 1 (.call 0 []), .call 1 [.lambda 1 .inert]])) },
    { name := "reply", location := ⟨"errands.rs", 2, 1⟩, isAsync := true,
      body := some (.conditional (.call 2 []) (.lambda 0 (.call 3 [])) none) },
    { name := "defer", location := ⟨"errands.rs", 3, 1⟩, isAsync := true,
      body := some (.block [.lambda 1 (.lambda 0 (.call 4 []))]) }]
  callTargets := #[.syncDecl 2, .asyncDecl 1, .asyncDecl 0, .asyncDecl 2, .suspension]
  asyncSlots := #[true, false]

theorem classify_iff_suspendsOpenly_errands : errands.TargetsValid ∧ 0 < errands.size ∧
    (Guard.of errands).isExempt 0 = false ∧
    ∃ verdict c, (classify errands (Guard.of errands) 0).run.run (Cache.sized 3) = (.ok verdict, c) ∧
      (verdict = true ↔ errands.SuspendsOpenly (Guard.of errands) 0) :=
  ⟨by decide, by decide, by decide +kernel,
    classify_iff_suspendsOpenly errands (by decide) (Cache.sized 3) (.sized 3) 0 (by decide) (by decide +kernel)⟩

end AsyncLint
