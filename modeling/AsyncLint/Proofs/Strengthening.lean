import AsyncLint.Proofs.Exemption
import AsyncLint.Proofs.Findings
import Mathlib.Data.List.Sort

/-!
# More suspensions, fewer findings

If more is known about the calls of a unit, or more of its declarations are exempt, the rule reports no declaration that
it did not report before. An exemption takes a declaration out of the search and turns the calls of it into suspensions;
both can only take findings away.
-/

namespace AsyncLint

/-- `t'` is at least as close to a suspension as `t`. -/
inductive CallTarget.StrengthensTo : CallTarget → CallTarget → Prop where
  | same (t : CallTarget) : StrengthensTo t t
  | suspension (t : CallTarget) : StrengthensTo t .suspension
  | unknownToAsync (callee : DeclId) : StrengthensTo .unknown (.asyncDecl callee)
  | syncToAsync (before callee : DeclId) : StrengthensTo (.syncDecl before) (.asyncDecl callee)

/-- `d'` is `d`, perhaps with further reasons not to judge it. -/
structure Declaration.StrengthensTo (d d' : Declaration) : Prop where
  same : d' = { d with overridable := d'.overridable, implicitProtocol := d'.implicitProtocol }
  overridable : d.overridable = true → d'.overridable = true
  implicitProtocol : d.implicitProtocol = true → d'.implicitProtocol = true

/-- `u'` has the declarations, bodies and slots of `u`, and may know more about its calls and exemptions. -/
structure CompileUnit.StrengthensTo (u u' : CompileUnit) : Prop where
  declarations : ∀ id, Option.Rel Declaration.StrengthensTo (u.declaration? id) (u'.declaration? id)
  callTargets : ∀ call, (u.callTarget call).StrengthensTo (u'.callTarget call)
  asyncSlots : u'.asyncSlots = u.asyncSlots

namespace Declaration.StrengthensTo

variable {d d' : Declaration} (h : d.StrengthensTo d')

include h

theorem body_eq : d'.body = d.body := by rw [h.same]

theorem isAsync_eq : d'.isAsync = d.isAsync := by rw [h.same]

theorem visibility_eq : d'.visibility = d.visibility := by rw [h.same]

theorem finding_eq (severity : Severity) : Finding.of severity d' = Finding.of severity d := by rw [h.same]; rfl

end Declaration.StrengthensTo

namespace CompileUnit.StrengthensTo

variable {u u' : CompileUnit} {id : DeclId} {d d' : Declaration} {e n : Expression} (h : u.StrengthensTo u')

include h

/-! ## What stays the same -/

theorem exists_after (hd : u.declaration? id = some d) : ∃ d', u'.declaration? id = some d' ∧ d.StrengthensTo d' := by
  have hrel := h.declarations id
  rw [hd] at hrel
  generalize u'.declaration? id = o' at hrel ⊢
  cases hrel with
  | some hdd => exact ⟨_, rfl, hdd⟩

theorem exists_before (hd : u'.declaration? id = some d') : ∃ d, u.declaration? id = some d ∧ d.StrengthensTo d' := by
  have hrel := h.declarations id
  rw [hd] at hrel
  generalize u.declaration? id = o at hrel ⊢
  cases hrel with
  | some hdd => exact ⟨_, rfl, hdd⟩

theorem slotIsAsync_eq (slot : SlotId) : u'.slotIsAsync slot = u.slotIsAsync slot := by
  rw [CompileUnit.slotIsAsync, CompileUnit.slotIsAsync, h.asyncSlots]

theorem visible (hv : e.Visible u n) : e.Visible u' n := by
  induction hv with
  | here => exact .here
  | @under e c n ho hc _ ih =>
      refine .under ?_ hc ih
      cases e with
      | lambda slot body => exact (h.slotIsAsync_eq slot).trans ho
      | _ => rfl

theorem makes {call : CallId} (hm : u.Makes id call) : u'.Makes id call := by
  obtain ⟨body, arguments, hb, hv⟩ := hm
  obtain ⟨d, hd, hbody⟩ := Option.bind_eq_some_iff.mp hb
  obtain ⟨d', hd', hdd⟩ := h.exists_after hd
  exact ⟨body, arguments, by rw [CompileUnit.body?_eq hd', hdd.body_eq, hbody], h.visible hv⟩

theorem finding?_eq (rule : RuleConfig) (id : DeclId) : rule.finding? u' id = rule.finding? u id := by
  have hrel := h.declarations id
  unfold RuleConfig.finding?
  generalize u.declaration? id = o at *
  generalize u'.declaration? id = o' at *
  cases hrel with
  | none => rfl
  | some hdd => exact congrArg some (hdd.finding_eq rule.severity)

/-! ## What can only grow -/

theorem isSuspendingCall (hc : n.isSuspendingCall u = true) : n.isSuspendingCall u' = true := by
  cases n with
  | call id arguments =>
      have ht := h.callTargets id
      simp only [Expression.isSuspendingCall] at hc ⊢
      generalize u.callTarget id = t at hc ht
      generalize u'.callTarget id = t' at ht ⊢
      cases ht with
      | same => exact hc
      | suspension => rfl
      | unknownToAsync => rfl
      | syncToAsync => rfl
  | _ => cases hc

theorem mem_escaping (hid : id ∈ u.escaping) : id ∈ u'.escaping := by
  obtain ⟨other, d, body, slot, hd, hb, hr, hs⟩ := mem_escaping_iff.mp hid
  obtain ⟨d', hd', hdd⟩ := h.exists_after hd
  exact mem_escaping_iff.mpr ⟨other, d', body, slot, hd', hdd.body_eq.trans hb, hr, (h.slotIsAsync_eq slot).trans hs⟩

theorem hidesSuspension (hdd : d.StrengthensTo d') (hs : u.hidesSuspension d = true) : u'.hidesSuspension d' = true := by
  obtain ⟨body, slot, inner, n, hb, hl, hs, hn, hc⟩ := hidesSuspension_iff.mp hs
  exact hidesSuspension_of_mem (hdd.body_eq.trans hb) hl ((h.slotIsAsync_eq slot).trans hs) hn (h.isSuspendingCall hc)

theorem isExempt (hx : (Guard.of u).isExempt id = true) : (Guard.of u').isExempt id = true := by
  obtain ⟨d, hd⟩ := exists_declaration_of_isExempt hx
  obtain ⟨d', hd', hdd⟩ := h.exists_after hd
  rw [isExempt_iff hd] at hx
  rw [isExempt_iff hd']
  exact hx.imp hdd.overridable (Or.imp hdd.implicitProtocol (Or.imp h.mem_escaping (h.hidesSuspension hdd)))

/-- What suspends still suspends: every call on the way to a suspension is now one itself, or leads the same way. -/
theorem suspends (hs : u.Suspends (Guard.of u) id) : u'.Suspends (Guard.of u') id := by
  -- what an async callee has become of
  have hasync : ∀ {call callee : Nat}, u.callTarget call = .asyncDecl callee →
      u'.callTarget call = .asyncDecl callee ∨ u'.callTarget call = .suspension := by
    intro call callee ht
    have hst := h.callTargets call
    rw [ht] at hst
    generalize u'.callTarget call = t' at hst ⊢
    cases hst with
    | same => exact Or.inl rfl
    | suspension => exact Or.inr rfl
  induction hs with
  | bodiless hd hb =>
      obtain ⟨d', hd', hdd⟩ := h.exists_after hd
      exact .bodiless hd' (hdd.body_eq.trans hb)
  | @primitive id call hm ht =>
      have hst := h.callTargets call
      rw [ht] at hst
      refine .primitive (h.makes hm) ?_
      generalize u'.callTarget call = t' at hst ⊢
      cases hst <;> rfl
  | exempt hm ht he =>
      rcases hasync ht with ht' | ht'
      · exact .exempt (h.makes hm) ht' (h.isExempt he)
      · exact .primitive (h.makes hm) ht'
  | callee hm ht _ ih =>
      rcases hasync ht with ht' | ht'
      · exact .callee (h.makes hm) ht' ih
      · exact .primitive (h.makes hm) ht'

theorem flags {rule : RuleConfig} (hf : rule.Flags u' id d') : ∃ d, rule.Flags u id d := by
  obtain ⟨d, hd, hdd⟩ := h.exists_before hf.declared
  refine ⟨d, hd, hdd.isAsync_eq ▸ hf.isAsync, ?_, fun hs => hf.quiet (h.suspends hs), hdd.visibility_eq ▸ hf.visible⟩
  cases hx : (Guard.of u).isExempt id with
  | false => rfl
  | true => exact absurd (h.isExempt hx) (by rw [hf.notExempt]; exact Bool.false_ne_true)

theorem reported_sublist (hu : u.TargetsValid) (hu' : u'.TargetsValid) (rule : RuleConfig) :
    (rule.reported u').Sublist (rule.reported u) := by
  have hsub : rule.reported u' ⊆ rule.reported u := by
    intro id hid
    obtain ⟨ha, d', hf⟩ := (mem_reported_iff hu').mp hid
    exact (mem_reported_iff hu).mpr ⟨ha, h.flags hf⟩
  have hlt := reported_pairwise rule hu'
  exact List.sublist_of_subperm_of_pairwise (List.subperm_of_subset (hlt.imp Nat.ne_of_lt) hsub) hlt
    (reported_pairwise rule hu)

end CompileUnit.StrengthensTo

/-- Of two runs, one on a unit and one on the unit strengthened, the second reports only what the first reports. -/
theorem run_strengthened_sublist (u u' : CompileUnit) (hu : u.TargetsValid) (hu' : u'.TargetsValid)
    (h : u.StrengthensTo u') (rule : RuleConfig) :
    ∃ findings findings', rule.run u = .ok findings ∧ rule.run u' = .ok findings' ∧
      findings = RuleConfig.sortFindings ((rule.reported u).filterMap (rule.finding? u)) ∧
      findings' = RuleConfig.sortFindings ((rule.reported u').filterMap (rule.finding? u')) ∧
      (∀ id ∈ rule.reported u', id ∈ rule.reported u) ∧
      findings'.Sublist findings := by
  have hsub := h.reported_sublist hu hu' rule
  refine ⟨_, _, run_eq_sortFindings rule hu, run_eq_sortFindings rule hu', rfl, rfl, fun id hid => hsub.subset hid, ?_⟩
  rw [funext (h.finding?_eq rule)]
  exact sortFindings_sublist (hsub.filterMap _)

/-- A function that awaits another one, and a third that calls something unknown. -/
def outpost : CompileUnit where
  name := "outpost.rs"
  declarations := #[
    { name := "leaf", location := ⟨"outpost.rs", 1, 1⟩, isAsync := true, body := some (.block []) },
    { name := "outer", location := ⟨"outpost.rs", 2, 1⟩, isAsync := true, body := some (.call 0 []) },
    { name := "lone", location := ⟨"outpost.rs", 3, 1⟩, isAsync := true, body := some (.call 1 [.call 2 []]) }]
  callTargets := #[.asyncDecl 0, .unknown, .syncDecl 0]

/-- The same functions. The first is run by generated code, and the call inside the third is one of itself. -/
def manned : CompileUnit where
  name := "outpost.rs"
  declarations := #[
    { name := "leaf", location := ⟨"outpost.rs", 1, 1⟩, isAsync := true, implicitProtocol := true,
      body := some (.block []) },
    { name := "outer", location := ⟨"outpost.rs", 2, 1⟩, isAsync := true, body := some (.call 0 []) },
    { name := "lone", location := ⟨"outpost.rs", 3, 1⟩, isAsync := true, body := some (.call 1 [.call 2 []]) }]
  callTargets := #[.asyncDecl 0, .unknown, .asyncDecl 2]

theorem outpost_strengthensTo_manned : outpost.StrengthensTo manned where
  declarations
    | 0 | 1 | 2 => .some ⟨rfl, by decide, by decide⟩
    | _ + 3 => .none
  callTargets
    | 0 | 1 => .same _
    | 2 => .syncToAsync 0 2
    | _ + 3 => .same _
  asyncSlots := rfl

theorem run_strengthened_sublist_outpost : outpost.TargetsValid ∧ manned.TargetsValid ∧ outpost.StrengthensTo manned ∧
    ({} : RuleConfig).reported outpost = [0, 1, 2] ∧ ({} : RuleConfig).reported manned = [2] ∧
    ∃ findings findings', ({} : RuleConfig).run outpost = .ok findings ∧ ({} : RuleConfig).run manned = .ok findings' ∧
      findings = RuleConfig.sortFindings (({} : RuleConfig).reported outpost |>.filterMap (({} : RuleConfig).finding? outpost)) ∧
      findings' = RuleConfig.sortFindings (({} : RuleConfig).reported manned |>.filterMap (({} : RuleConfig).finding? manned)) ∧
      (∀ id ∈ ({} : RuleConfig).reported manned, id ∈ ({} : RuleConfig).reported outpost) ∧
      findings'.Sublist findings :=
  ⟨by decide, by decide, outpost_strengthensTo_manned, by decide +kernel, by decide +kernel,
    run_strengthened_sublist outpost manned (by decide) (by decide) outpost_strengthensTo_manned {}⟩

end AsyncLint
