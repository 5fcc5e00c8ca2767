import AsyncLint.Analysis.Classifier
import AsyncLint.Proofs.Suspension
import Mathlib.Data.List.Forall2

/-!
# Steps of a classification

A step ends with a result in a cache, or it fails. Walking a body is the same as visiting, in turn, what its visible
calls resolve to.
-/

namespace AsyncLint

namespace LowLink

theorem min_assoc (a b c : LowLink) : (a.min b).min c = a.min (b.min c) := by
  cases a <;> cases b <;> cases c <;> simp [LowLink.min, Nat.min_assoc]

/-- The low link is there and is at most `n`. -/
def AtMost (low : LowLink) (n : Nat) : Prop :=
  ∃ l, low = some l ∧ l ≤ n

theorem AtMost.min_left {a : LowLink} {n : Nat} (b : LowLink) (h : a.AtMost n) : (a.min b).AtMost n := by
  obtain ⟨l, rfl, hl⟩ := h
  cases b with
  | none => exact ⟨l, rfl, hl⟩
  | some m => exact ⟨Nat.min l m, rfl, Nat.le_trans (Nat.min_le_left _ _) hl⟩

theorem AtMost.min_right {b : LowLink} {n : Nat} (a : LowLink) (h : b.AtMost n) : (a.min b).AtMost n := by
  obtain ⟨l, rfl, hl⟩ := h
  cases a with
  | none => exact ⟨l, rfl, hl⟩
  | some m => exact ⟨Nat.min m l, rfl, Nat.le_trans (Nat.min_le_right _ _) hl⟩

theorem min_eq_some {a b : LowLink} {l : Nat} (h : a.min b = some l) : a = some l ∨ b = some l := by
  cases a with
  | none => exact Or.inr h
  | some m =>
      cases b with
      | none => exact Or.inl h
      | some n =>
          obtain rfl : Nat.min m n = l := Option.some.inj h
          rcases Nat.le_total m n with hmn | hmn
          · exact Or.inl (congrArg some (Nat.min_eq_left hmn).symm)
          · exact Or.inr (congrArg some (Nat.min_eq_right hmn).symm)

end LowLink

namespace Visiting

variable {α β : Type} {c c' : Cache}

/-- Begun in cache `c`, the step ends with the result `a` in cache `c'`. -/
def Ends (x : Visiting α) (c : Cache) (a : α) (c' : Cache) : Prop :=
  x.run.run c = (.ok a, c')

theorem ends_pure (a : α) (c : Cache) : (pure a : Visiting α).Ends c a c := rfl

theorem ends_get (c : Cache) : (get : Visiting Cache).Ends c c c := rfl

theorem ends_set (c c' : Cache) : (set c' : Visiting PUnit).Ends c ⟨⟩ c' := rfl

theorem ends_modify (f : Cache → Cache) (c : Cache) : (modify f : Visiting PUnit).Ends c ⟨⟩ (f c) := rfl

theorem not_ends_throw {e : Fault} {a : α} : ¬ (throw e : Visiting α).Ends c a c' := by
  intro h
  injection (show ((.error e : Except Fault α), c) = (.ok a, c') from h) with he
  cases he

theorem Ends.bind {x : Visiting α} {f : α → Visiting β} {a : α} {b : β} {c₁ : Cache} (hx : x.Ends c a c₁)
    (hf : (f a).Ends c₁ b c') : (x >>= f).Ends c b c' := by
  simp only [Ends, ExceptT.run_bind, StateT.run_bind] at *
  rw [hx]
  exact hf

theorem ends_bind_iff {x : Visiting α} {f : α → Visiting β} {b : β} :
    (x >>= f).Ends c b c' ↔ ∃ a c₁, x.Ends c a c₁ ∧ (f a).Ends c₁ b c' := by
  refine ⟨fun h => ?_, fun ⟨_, _, hx, hf⟩ => hx.bind hf⟩
  simp only [Ends, ExceptT.run_bind, StateT.run_bind] at h
  rcases hx : StateT.run (ExceptT.run x) c with ⟨r, c₁⟩
  rw [hx] at h
  cases r with
  | error e =>
      injection (show ((.error e : Except Fault β), c₁) = (.ok b, c') from h) with he
      cases he
  | ok a => exact ⟨a, c₁, hx, h⟩

/-- A step has at most one end. -/
theorem Ends.unique {x : Visiting α} {a b : α} {c₁ c₂ : Cache} (h₁ : x.Ends c a c₁) (h₂ : x.Ends c b c₂) :
    a = b ∧ c₁ = c₂ := by
  injection h₁.symm.trans h₂ with ha hc
  exact ⟨Except.ok.inj ha, hc⟩

/-- Steps for each element of a list, each of which keeps `I`, keep `I` together. -/
theorem mapM_ends {f : α → Visiting β} {I : Cache → Prop} {R : α → β → Prop} (as : List α)
    (step : ∀ a ∈ as, ∀ c, I c → ∃ b c', (f a).Ends c b c' ∧ I c' ∧ R a b) (hc : I c) :
    ∃ bs c', (as.mapM f).Ends c bs c' ∧ I c' ∧ List.Forall₂ R as bs := by
  induction as generalizing c with
  | nil => exact ⟨[], c, ends_pure _ _, hc, .nil⟩
  | cons a as ih =>
      obtain ⟨b, c₁, hb, hc₁, hr⟩ := step a (by simp) c hc
      obtain ⟨bs, c₂, hbs, hc₂, hrs⟩ := ih (fun a ha => step a (by simp [ha])) hc₁
      refine ⟨b :: bs, c₂, ?_, hc₂, .cons hr hrs⟩
      rw [List.mapM_cons]
      exact hb.bind (hbs.bind (ends_pure _ _))

/-- Wherever `x` ends, `y` ends in the same way. -/
def Refines (x y : Visiting α) : Prop :=
  ∀ c a c', x.Ends c a c' → y.Ends c a c'

theorem Refines.refl (x : Visiting α) : Refines x x := fun _ _ _ h => h

theorem Refines.bind {x y : Visiting α} {f h : α → Visiting β} (hx : Refines x y) (hf : ∀ a, Refines (f a) (h a)) :
    Refines (x >>= f) (y >>= h) := by
  intro c b c' he
  obtain ⟨a, c₁, ha, hb⟩ := ends_bind_iff.mp he
  exact (hx c a c₁ ha).bind (hf a c₁ b c' hb)

/-! ## One after the other -/

theorem Refines.andThen {x x' y y' : Visiting Outcome} (hx : Refines x x') (hy : Refines y y') :
    Refines (x.andThen y) (x'.andThen y') := by
  refine hx.bind fun o => ?_
  cases o with
  | suspends => exact .refl _
  | quiet low => exact hy.bind fun o => .refl _

theorem Ends.andThen_suspends {x : Visiting Outcome} (y : Visiting Outcome) (hx : x.Ends c .suspends c') :
    (x.andThen y).Ends c .suspends c' :=
  hx.bind (ends_pure _ _)

theorem Ends.andThen_quiet_suspends {x y : Visiting Outcome} {low : LowLink} {c₁ : Cache}
    (hx : x.Ends c (.quiet low) c₁) (hy : y.Ends c₁ .suspends c') : (x.andThen y).Ends c .suspends c' :=
  hx.bind (hy.bind (ends_pure _ _))

theorem Ends.andThen_quiet {x y : Visiting Outcome} {low low' : LowLink} {c₁ : Cache}
    (hx : x.Ends c (.quiet low) c₁) (hy : y.Ends c₁ (.quiet low') c') :
    (x.andThen y).Ends c (.quiet (low.min low')) c' :=
  hx.bind (hy.bind (ends_pure _ _))

theorem andThen_assoc (x y z : Visiting Outcome) : (x.andThen y).andThen z = x.andThen (y.andThen z) := by
  simp only [andThen, bind_assoc]
  congr 1
  funext o
  cases o with
  | suspends => simp only [pure_bind]
  | quiet low =>
      simp only [bind_assoc]
      congr 1
      funext o
      cases o with
      | suspends => simp only [pure_bind]
      | quiet low' =>
          simp only [pure_bind, bind_assoc]
          congr 1
          funext o
          cases o with
          | suspends => simp only [pure_bind]
          | quiet low'' => simp only [pure_bind, LowLink.min_assoc]

theorem quiet_none_andThen (x : Visiting Outcome) : (pure (.quiet none) : Visiting Outcome).andThen x = x := by
  simp only [andThen, pure_bind]
  refine (bind_congr fun o => ?_).trans (bind_pure x)
  cases o <;> rfl

end Visiting

/-! ## Walking a body -/

section Walk

variable (u : CompileUnit) (g : Guard) (visit : DeclId → Visiting Outcome)

/-- Visits what calls resolve to, in turn, up to the first suspension. -/
def visitAll : List CallTarget → Visiting Outcome
  | [] => pure (.quiet none)
  | t :: ts => (visitTarget g visit t).andThen (visitAll ts)

theorem visitAll_append (ts ts' : List CallTarget) :
    visitAll g visit (ts ++ ts') = (visitAll g visit ts).andThen (visitAll g visit ts') := by
  induction ts with
  | nil => exact (Visiting.quiet_none_andThen _).symm
  | cons t ts ih => rw [List.cons_append, visitAll, visitAll, ih, Visiting.andThen_assoc]

variable {g visit} in
theorem visitAll_refines {visit' : DeclId → Visiting Outcome} (h : ∀ id, (visit id).Refines (visit' id))
    (ts : List CallTarget) : (visitAll g visit ts).Refines (visitAll g visit' ts) := by
  induction ts with
  | nil => exact .refl _
  | cons t ts ih =>
      refine Visiting.Refines.andThen ?_ ih
      cases t with
      | asyncDecl callee =>
          simp only [visitTarget]
          split
          · exact .refl _
          · exact h callee
      | suspension => exact .refl _
      | syncDecl _ => exact .refl _
      | unknown => exact .refl _

mutual

theorem walk_eq : (e : Expression) → walk u g visit e = visitAll g visit (e.targets u)
  | .call id arguments => by
      rw [walk, walkList_eq arguments, Expression.targets_eq_of_opens (e := .call id arguments) rfl]; rfl
  | .block items => by
      rw [walk, walkList_eq items, Expression.targets_eq_of_opens (e := .block items) rfl]; rfl
  | .conditional c t e => by
      rw [walk, walk_eq c, walk_eq t, walkOption_eq e, ← visitAll_append, ← visitAll_append,
        Expression.targets_eq_of_opens (e := .conditional c t e) rfl]
      rfl
  | .tryCatch b hs f => by
      rw [walk, walk_eq b, walkList_eq hs, walkOption_eq f, ← visitAll_append, ← visitAll_append,
        Expression.targets_eq_of_opens (e := .tryCatch b hs f) rfl, ← List.flatMap_append]
      rfl
  | .loop header body => by
      rw [walk, walkList_eq header, walk_eq body, ← visitAll_append,
        Expression.targets_eq_of_opens (e := .loop header body) rfl]
      simp [Expression.ownTargets, Expression.children]
  | .lambda slot body => by
      rw [walk, walk_eq body, Expression.targets_eq u (.lambda slot body)]
      simp only [Expression.ownTargets, Expression.opens, Expression.children, List.nil_append, List.flatMap_cons,
        List.flatMap_nil, List.append_nil]
      cases u.slotIsAsync slot <;> rfl
  | .reference slot target => by
      rw [walk, Expression.targets_eq_of_opens (e := .reference slot target) rfl]; rfl
  | .inert => by
      rw [walk, Expression.targets_eq_of_opens (e := .inert) rfl]; rfl

theorem walkList_eq : (es : List Expression) →
    walkList u g visit es = visitAll g visit (es.flatMap (Expression.targets u))
  | [] => by rw [walkList]; rfl
  | e :: es => by rw [walkList, walk_eq e, walkList_eq es, ← visitAll_append, List.flatMap_cons]

theorem walkOption_eq : (e : Option Expression) →
    walkOption u g visit e = visitAll g visit (e.toList.flatMap (Expression.targets u))
  | none => by rw [walkOption]; rfl
  | some e => by
      rw [walkOption, walk_eq e, Option.toList_some, List.flatMap_cons, List.flatMap_nil, List.append_nil]

end

end Walk

end AsyncLint
