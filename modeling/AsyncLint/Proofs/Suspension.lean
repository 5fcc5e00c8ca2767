import AsyncLint.Analysis.Exemption
import AsyncLint.Proofs.Expression
import Mathlib.Logic.Relation

/-!
# What it means to suspend

Suspension is defined by what a body shows, without any order of visits: a declaration suspends if it has no body or
if one of its visible calls suspends. It is the least such predicate, so it is refuted by a set of declarations whose
visible calls never leave the set.
-/

namespace AsyncLint

/-- Whether an async callee lies below `n`. -/
def CallTarget.isWithin (n : Nat) : CallTarget → Bool
  | .asyncDecl callee => callee < n
  | .syncDecl _ | .suspension | .unknown => true

namespace CompileUnit

variable (u : CompileUnit) (g : Guard)

/-- Every async callee is a declaration of the unit. -/
def TargetsValid : Prop :=
  ∀ call callee, u.callTarget call = .asyncDecl callee → callee < u.size

def body? (id : DeclId) : Option Expression :=
  (u.declaration? id).bind (·.body)

/-- The body of declaration `id` makes the call numbered `call`, and the call is visible. -/
def Makes (id : DeclId) (call : CallId) : Prop :=
  ∃ body arguments, u.body? id = some body ∧ body.Visible u (.call call arguments)

/-- Declaration `id` can suspend. An exempt callee has no verdict to rely on, so it counts as one that suspends. -/
inductive Suspends : DeclId → Prop where
  | bodiless {id : DeclId} {d : Declaration} (hd : u.declaration? id = some d) (hb : d.body = none) : Suspends id
  | primitive {id : DeclId} {call : CallId} (hm : u.Makes id call) (ht : u.callTarget call = .suspension) :
      Suspends id
  | exempt {id callee : DeclId} {call : CallId} (hm : u.Makes id call) (ht : u.callTarget call = .asyncDecl callee)
      (he : g.isExempt callee = true) : Suspends id
  | callee {id callee : DeclId} {call : CallId} (hm : u.Makes id call) (ht : u.callTarget call = .asyncDecl callee)
      (hc : Suspends callee) : Suspends id

/-- Declaration `id` makes a visible call of the async declaration `callee`, which is not exempt. -/
def Follows (id callee : DeclId) : Prop :=
  ∃ call, u.Makes id call ∧ u.callTarget call = .asyncDecl callee ∧ g.isExempt callee = false

/-- Calls of this kind lead from one declaration to another in any number of steps. -/
def Reaches : DeclId → DeclId → Prop :=
  Relation.ReflTransGen (u.Follows g)

theorem targetsValid_iff : u.TargetsValid ↔ ∀ t ∈ u.callTargets.toList, t.isWithin u.size = true := by
  unfold TargetsValid callTarget
  constructor
  · intro h t ht
    obtain ⟨call, hc⟩ := Array.mem_iff_getElem?.mp (Array.mem_toList_iff.mp ht)
    cases t with
    | asyncDecl callee => simpa [CallTarget.isWithin] using h call callee (by simp [hc])
    | _ => rfl
  · intro h call callee ht
    cases hc : u.callTargets[call]? with
    | none => rw [hc] at ht; cases ht
    | some t =>
        obtain rfl : t = .asyncDecl callee := by simpa [hc] using ht
        simpa [CallTarget.isWithin] using h _ (Array.mem_toList_iff.mpr (Array.mem_of_getElem? hc))

instance : Decidable u.TargetsValid :=
  decidable_of_iff _ u.targetsValid_iff.symm

/-- What the visible calls of declaration `id` resolve to. -/
def targets (id : DeclId) : List CallTarget :=
  (u.body? id).elim [] (·.targets u)

end CompileUnit

/-- A call that does not suspend by itself and, if it is followed, leads to a declaration with `P`. -/
def CallTarget.StaysIn (g : Guard) (P : DeclId → Prop) : CallTarget → Prop
  | .asyncDecl callee => g.isExempt callee = false ∧ P callee
  | .suspension => False
  | .syncDecl _ | .unknown => True

theorem CallTarget.StaysIn.mono {g : Guard} {P Q : DeclId → Prop} {t : CallTarget} (h : t.StaysIn g P)
    (hpq : ∀ callee, t = .asyncDecl callee → P callee → Q callee) : t.StaysIn g Q := by
  cases t with
  | asyncDecl callee => exact ⟨h.1, hpq callee rfl h.2⟩
  | suspension => exact h
  | syncDecl _ => trivial
  | unknown => trivial

namespace CompileUnit

variable {u : CompileUnit} {g : Guard} {P Q : DeclId → Prop} {id callee : DeclId}

/-- The body of declaration `id` is known, and all its visible calls stay among the declarations with `P`. -/
structure StaysIn (u : CompileUnit) (g : Guard) (P : DeclId → Prop) (id : DeclId) : Prop where
  hasBody : (u.body? id).isSome
  calls : ∀ t ∈ u.targets id, t.StaysIn g P

theorem StaysIn.mono (h : u.StaysIn g P id) (hpq : ∀ callee, .asyncDecl callee ∈ u.targets id → P callee → Q callee) :
    u.StaysIn g Q id :=
  ⟨h.hasBody, fun t ht => (h.calls t ht).mono fun callee he hp => hpq callee (he ▸ ht) hp⟩

theorem mem_targets_iff {t : CallTarget} : t ∈ u.targets id ↔ ∃ call, u.Makes id call ∧ u.callTarget call = t := by
  unfold targets Makes
  cases hb : u.body? id with
  | none => simp
  | some body =>
      simp only [Option.elim_some, Expression.mem_targets_iff, Option.some.injEq]
      constructor
      · rintro ⟨call, arguments, hv, ht⟩
        exact ⟨call, ⟨body, arguments, rfl, hv⟩, ht⟩
      · rintro ⟨call, ⟨body', arguments, rfl, hv⟩, ht⟩
        exact ⟨call, arguments, hv, ht⟩

theorem follows_iff : u.Follows g id callee ↔ .asyncDecl callee ∈ u.targets id ∧ g.isExempt callee = false := by
  rw [mem_targets_iff]
  constructor
  · rintro ⟨call, hm, ht, he⟩
    exact ⟨⟨call, hm, ht⟩, he⟩
  · rintro ⟨⟨call, hm, ht⟩, he⟩
    exact ⟨call, hm, ht, he⟩

theorem TargetsValid.lt_size (hu : u.TargetsValid) (h : .asyncDecl callee ∈ u.targets id) : callee < u.size := by
  obtain ⟨call, _, ht⟩ := mem_targets_iff.mp h
  exact hu call callee ht

/-! ## Suspension along calls -/

theorem Suspends.of_follows (h : u.Follows g id callee) (hc : u.Suspends g callee) : u.Suspends g id := by
  obtain ⟨call, hm, ht, _⟩ := h
  exact .callee hm ht hc

theorem Suspends.of_reaches (h : u.Reaches g id callee) (hc : u.Suspends g callee) : u.Suspends g id := by
  induction h using Relation.ReflTransGen.head_induction_on with
  | refl => exact hc
  | head hf _ ih => exact ih.of_follows hf

/-- A call that does not stay among the declarations that never suspend makes its declaration suspend. -/
theorem Suspends.of_target {t : CallTarget} (ht : t ∈ u.targets id)
    (h : ¬ t.StaysIn g (fun callee => ¬ u.Suspends g callee)) : u.Suspends g id := by
  obtain ⟨call, hm, ht⟩ := mem_targets_iff.mp ht
  cases t with
  | asyncDecl callee =>
      by_cases he : g.isExempt callee = true
      · exact .exempt hm ht he
      · refine .callee hm ht (Classical.not_not.mp fun hc => h ⟨?_, hc⟩)
        simpa using he
  | suspension => exact .primitive hm ht
  | syncDecl _ => exact absurd trivial h
  | unknown => exact absurd trivial h

theorem declaration?_eq_some (h : id < u.size) : ∃ d, u.declaration? id = some d :=
  ⟨u.declarations[id], Array.getElem?_eq_getElem h⟩

theorem body?_eq {d : Declaration} (hd : u.declaration? id = some d) : u.body? id = d.body := by
  rw [body?, hd, Option.bind_some]

/-- A declaration that stays in a set which all its members stay in never suspends. -/
theorem not_suspends_of_closed (hP : ∀ id, P id → u.StaysIn g P id) (hid : P id) : ¬ u.Suspends g id := by
  intro hs
  induction hs with
  | bodiless hd hb =>
      have h := (hP _ hid).hasBody
      rw [body?_eq hd, hb] at h
      cases h
  | primitive hm ht => exact (hP _ hid).calls _ (mem_targets_iff.mpr ⟨_, hm, ht⟩)
  | exempt hm ht he =>
      have h := (hP _ hid).calls _ (mem_targets_iff.mpr ⟨_, hm, ht⟩)
      exact absurd he (by simp [h.1])
  | callee hm ht _ ih => exact ih ((hP _ hid).calls _ (mem_targets_iff.mpr ⟨_, hm, ht⟩)).2

end CompileUnit

end AsyncLint
