import AsyncLint.Proofs.Exemption
import AsyncLint.Proofs.Findings
import Mathlib.Data.List.Perm.Basic
import Mathlib.Logic.Equiv.Basic

/-!
# The order of declarations

The analysis does not depend on the numbers of the declarations, nor on the order in which a block has its items and a
call its arguments. The search meets declarations in another order then, and other ones become entry points of cycles;
exemptions, verdicts and findings are the same.
-/

namespace AsyncLint

/-! ## Expressions in another order -/

/-- The target of a call after declarations have been renumbered by `p`. -/
def CallTarget.renumber (p : DeclId → DeclId) : CallTarget → CallTarget
  | .asyncDecl callee => .asyncDecl (p callee)
  | .syncDecl callee => .syncDecl (p callee)
  | .suspension => .suspension
  | .unknown => .unknown

namespace Expression

/-- `e'` is `e` with declarations renumbered by `p`, the items of blocks and the arguments of calls in any order. -/
inductive Rearranges (p : DeclId → DeclId) : Expression → Expression → Prop where
  | call {id : CallId} {arguments mid arguments' : List Expression} (h : List.Forall₂ (Rearranges p) arguments mid)
      (hp : mid.Perm arguments') : Rearranges p (.call id arguments) (.call id arguments')
  | block {items mid items' : List Expression} (h : List.Forall₂ (Rearranges p) items mid) (hp : mid.Perm items') :
      Rearranges p (.block items) (.block items')
  | conditional {c c' t t' : Expression} {e e' : Option Expression} (hc : Rearranges p c c') (ht : Rearranges p t t')
      (he : Option.Rel (Rearranges p) e e') : Rearranges p (.conditional c t e) (.conditional c' t' e')
  | tryCatch {b b' : Expression} {hs hs' : List Expression} {f f' : Option Expression} (hb : Rearranges p b b')
      (hh : List.Forall₂ (Rearranges p) hs hs') (hf : Option.Rel (Rearranges p) f f') :
      Rearranges p (.tryCatch b hs f) (.tryCatch b' hs' f')
  | loop {header header' : List Expression} {body body' : Expression} (hh : List.Forall₂ (Rearranges p) header header')
      (hb : Rearranges p body body') : Rearranges p (.loop header body) (.loop header' body')
  | lambda {slot : SlotId} {body body' : Expression} (hb : Rearranges p body body') :
      Rearranges p (.lambda slot body) (.lambda slot body')
  | reference {slot : SlotId} {target : DeclId} : Rearranges p (.reference slot target) (.reference slot (p target))
  | inert : Rearranges p .inert .inert

end Expression

section Lists

variable {α β : Type} {R : α → β → Prop} {S : β → α → Prop}

theorem exists_of_forall₂ {xs : List α} {ys : List β} {x : α} (h : List.Forall₂ R xs ys) (hx : x ∈ xs) :
    ∃ y ∈ ys, R x y := by
  induction h with
  | nil => cases hx
  | cons hr _ ih =>
      rcases List.mem_cons.mp hx with rfl | hx
      · exact ⟨_, List.mem_cons_self, hr⟩
      · obtain ⟨y, hy, hxy⟩ := ih hx
        exact ⟨y, List.mem_cons_of_mem _ hy, hxy⟩

theorem forall₂_flip {xs : List α} {ys : List β} (h : List.Forall₂ R xs ys) (hs : ∀ x ∈ xs, ∀ y, R x y → S y x) :
    List.Forall₂ S ys xs := by
  induction h with
  | nil => exact .nil
  | cons hr _ ih =>
      exact .cons (hs _ List.mem_cons_self _ hr) (ih fun x hx => hs x (List.mem_cons_of_mem _ hx))

theorem rel_flip {o : Option α} {o' : Option β} (h : Option.Rel R o o') (hs : ∀ x ∈ o.toList, ∀ y, R x y → S y x) :
    Option.Rel S o' o := by
  cases h with
  | none => exact .none
  | some hr => exact .some (hs _ (by simp) _ hr)

theorem forall₂_toList {o : Option α} {o' : Option β} (h : Option.Rel R o o') :
    List.Forall₂ R o.toList o'.toList := by
  cases h with
  | none => exact .nil
  | some hr => exact .cons hr .nil

end Lists

namespace Expression.Rearranges

variable {p q : DeclId → DeclId} {e e' c n : Expression}

theorem children (h : e.Rearranges p e') :
    ∃ mid, List.Forall₂ (Rearranges p) e.children mid ∧ mid.Perm e'.children := by
  cases h with
  | call h hp => exact ⟨_, h, hp⟩
  | block h hp => exact ⟨_, h, hp⟩
  | conditional hc ht he => exact ⟨_, .cons hc (.cons ht (forall₂_toList he)), .refl _⟩
  | tryCatch hb hh hf => exact ⟨_, .cons hb (List.rel_append hh (forall₂_toList hf)), .refl _⟩
  | loop hh hb => exact ⟨_, List.rel_append hh (.cons hb .nil), .refl _⟩
  | lambda hb => exact ⟨_, .cons hb .nil, .refl _⟩
  | reference => exact ⟨_, .nil, .refl _⟩
  | inert => exact ⟨_, .nil, .refl _⟩

theorem exists_child (h : e.Rearranges p e') (hc : c ∈ e.children) : ∃ c' ∈ e'.children, c.Rearranges p c' := by
  obtain ⟨mid, hmid, hp⟩ := h.children
  obtain ⟨c', hc', hcc⟩ := exists_of_forall₂ hmid hc
  exact ⟨c', hp.subset hc', hcc⟩

theorem exists_node (h : e.Rearranges p e') (hn : n ∈ e.preorder) : ∃ n' ∈ e'.preorder, n.Rearranges p n' := by
  induction e using induction_on_children generalizing e' with
  | step e ih =>
      rcases mem_preorder_iff.mp hn with rfl | ⟨c, hc, hn⟩
      · exact ⟨e', self_mem_preorder e', h⟩
      · obtain ⟨c', hc', hcc⟩ := h.exists_child hc
        obtain ⟨n', hn', hnn⟩ := ih c hc hcc hn
        exact ⟨n', mem_preorder_of_mem_children hc' hn', hnn⟩

/-- What has been put in another order can be put back. -/
theorem symm (hpq : ∀ id, q (p id) = id) (h : e.Rearranges p e') : e'.Rearranges q e := by
  induction e using induction_on_children generalizing e' with
  | step e ih =>
      have hlist : ∀ {es mid es' : List Expression}, es ⊆ e.children → List.Forall₂ (Rearranges p) es mid →
          mid.Perm es' → ∃ mid', List.Forall₂ (Rearranges q) es' mid' ∧ mid'.Perm es := fun hs h hp =>
        List.perm_comp_forall₂ hp.symm (forall₂_flip h fun c hc c' hcc => ih c (hs hc) hcc)
      cases h with
      | call h hp =>
          obtain ⟨mid', h', hp'⟩ := hlist (fun _ hc => hc) h hp
          exact .call h' hp'
      | block h hp =>
          obtain ⟨mid', h', hp'⟩ := hlist (fun _ hc => hc) h hp
          exact .block h' hp'
      | conditional hc ht he =>
          refine .conditional (ih _ (by simp [Expression.children]) hc) (ih _ (by simp [Expression.children]) ht) ?_
          exact rel_flip he fun x hx _ hxy => ih x (by simp_all [Expression.children]) hxy
      | tryCatch hb hh hf =>
          refine .tryCatch (ih _ (by simp [Expression.children]) hb) ?_ ?_
          · exact forall₂_flip hh fun x hx _ hxy => ih x (by simp [Expression.children, hx]) hxy
          · exact rel_flip hf fun x hx _ hxy => ih x (by simp_all [Expression.children]) hxy
      | loop hh hb =>
          refine .loop ?_ (ih _ (by simp [Expression.children]) hb)
          exact forall₂_flip hh fun x hx _ hxy => ih x (by simp [Expression.children, hx]) hxy
      | lambda hb => exact .lambda (ih _ (by simp [Expression.children]) hb)
      | @reference slot target =>
          have hback : Rearranges q (.reference slot (p target)) (.reference slot (q (p target))) := .reference
          rwa [hpq] at hback
      | inert => exact .inert

end Expression.Rearranges

/-! ## Units in another order -/

/-- `d'` is `d` with its body rearranged. -/
structure Declaration.Rearranges (p : DeclId → DeclId) (d d' : Declaration) : Prop where
  same : d' = { d with body := d'.body }
  body : Option.Rel (Expression.Rearranges p) d.body d'.body

/-- `u'` is `u` with declaration `id` moved to the number `p id` and all its uses renumbered, and with the items of
blocks and the arguments of calls in any order. -/
structure CompileUnit.Rearranges (u : CompileUnit) (p : Equiv.Perm DeclId) (u' : CompileUnit) : Prop where
  declarations : ∀ id, Option.Rel (Declaration.Rearranges p) (u.declaration? id) (u'.declaration? (p id))
  callTargets : ∀ call, u'.callTarget call = (u.callTarget call).renumber p
  asyncSlots : u'.asyncSlots = u.asyncSlots

theorem Declaration.Rearranges.symm {p q : DeclId → DeclId} (hpq : ∀ id, q (p id) = id) {d d' : Declaration}
    (h : d.Rearranges p d') : d'.Rearranges q d := by
  refine ⟨?_, rel_flip h.body fun _ _ _ hb => hb.symm hpq⟩
  rw [h.same]

theorem Declaration.Rearranges.exists_body {p : DeclId → DeclId} {d d' : Declaration} {body : Expression}
    (h : d.Rearranges p d') (hb : d.body = some body) : ∃ body', d'.body = some body' ∧ body.Rearranges p body' := by
  have hrel := h.body
  rw [hb] at hrel
  generalize d'.body = o' at hrel ⊢
  cases hrel with
  | some hbb => exact ⟨_, rfl, hbb⟩

namespace CompileUnit.Rearranges

variable {u u' : CompileUnit} {p : Equiv.Perm DeclId} {id : DeclId} {d d' : Declaration} {e e' n n' : Expression}
  (h : u.Rearranges p u')

include h

theorem symm : u'.Rearranges p.symm u := by
  have hp : ∀ id, p.symm (p id) = id := p.symm_apply_apply
  refine ⟨fun id => ?_, fun call => ?_, h.asyncSlots.symm⟩
  · have hrel := h.declarations (p.symm id)
    rw [p.apply_symm_apply] at hrel
    exact rel_flip hrel fun _ _ _ hd => hd.symm hp
  · rw [h.callTargets]
    cases u.callTarget call <;> simp [CallTarget.renumber]

/-! ### Nodes -/

theorem exists_declaration (hd : u.declaration? id = some d) :
    ∃ d', u'.declaration? (p id) = some d' ∧ d.Rearranges p d' := by
  have hrel := h.declarations id
  rw [hd] at hrel
  generalize u'.declaration? (p id) = o' at hrel ⊢
  cases hrel with
  | some hdd => exact ⟨_, rfl, hdd⟩

theorem slotIsAsync_eq (slot : SlotId) : u'.slotIsAsync slot = u.slotIsAsync slot := by
  rw [slotIsAsync, slotIsAsync, h.asyncSlots]

theorem isSuspendingCall (hn : n.Rearranges p n') (hc : n.isSuspendingCall u = true) : n'.isSuspendingCall u' = true := by
  cases hn with
  | @call id _ _ _ _ _ =>
      simp only [Expression.isSuspendingCall, h.callTargets] at hc ⊢
      cases ht : u.callTarget id <;> simp_all [CallTarget.renumber]
  | _ => cases hc

theorem exists_visible (he : e.Rearranges p e') (hv : e.Visible u n) : ∃ n', e'.Visible u' n' ∧ n.Rearranges p n' := by
  induction hv generalizing e' with
  | here => exact ⟨e', .here, he⟩
  | @under e c n ho hc _ ih =>
      obtain ⟨c', hc', hcc⟩ := he.exists_child hc
      obtain ⟨n', hn', hnn⟩ := ih hcc
      refine ⟨n', .under ?_ hc' hn', hnn⟩
      cases he with
      | lambda => exact (h.slotIsAsync_eq _).trans ho
      | _ => rfl

/-! ### Exemptions -/

theorem mem_escaping (hid : id ∈ u.escaping) : p id ∈ u'.escaping := by
  obtain ⟨other, d, body, slot, hd, hb, hr, hs⟩ := mem_escaping_iff.mp hid
  obtain ⟨d', hd', hdd⟩ := h.exists_declaration hd
  obtain ⟨body', hb', hbb⟩ := hdd.exists_body hb
  obtain ⟨n', hn', hnn⟩ := hbb.exists_node hr
  cases hnn with
  | reference => exact mem_escaping_iff.mpr ⟨p other, d', body', slot, hd', hb', hn', (h.slotIsAsync_eq slot).trans hs⟩

theorem hidesSuspension (hdd : d.Rearranges p d') (hs : u.hidesSuspension d = true) : u'.hidesSuspension d' = true := by
  obtain ⟨body, slot, inner, n, hb, hl, hs, hn, hc⟩ := hidesSuspension_iff.mp hs
  obtain ⟨body', hb', hbb⟩ := hdd.exists_body hb
  obtain ⟨l', hl', hll⟩ := hbb.exists_node hl
  cases hll with
  | lambda hi =>
      obtain ⟨n', hn', hnn⟩ := hi.exists_node hn
      exact hidesSuspension_of_mem hb' hl' ((h.slotIsAsync_eq slot).trans hs) hn' (h.isSuspendingCall hnn hc)

theorem exemption?_eq (id : DeclId) : (Guard.of u').exemption? (p id) = (Guard.of u).exemption? id := by
  have hrel := h.declarations id
  cases hd : u.declaration? id with
  | none =>
      rw [hd] at hrel
      have hd' : u'.declaration? (p id) = none := by
        generalize u'.declaration? (p id) = o' at hrel
        cases hrel
        rfl
      rw [exemption?_eq_none hd, exemption?_eq_none hd']
  | some d =>
      obtain ⟨d', hd', hdd⟩ := h.exists_declaration hd
      have hesc : u'.escaping.contains (p id) = u.escaping.contains id := by
        rw [Bool.eq_iff_iff, List.contains_iff_mem, List.contains_iff_mem]
        exact ⟨fun hm => by simpa using h.symm.mem_escaping hm, h.mem_escaping⟩
      have hhides : u'.hidesSuspension d' = u.hidesSuspension d := by
        rw [Bool.eq_iff_iff]
        exact ⟨h.symm.hidesSuspension (hdd.symm p.symm_apply_apply), h.hidesSuspension hdd⟩
      have hflags : d'.overridable = d.overridable ∧ d'.implicitProtocol = d.implicitProtocol := by
        rw [hdd.same]
        exact ⟨rfl, rfl⟩
      rw [exemption?_of hd, exemption?_of hd', exemptionAmong?, exemptionAmong?, hd, hd', Option.bind_some,
        Option.bind_some, hesc, hhides, hflags.1, hflags.2]

theorem isExempt_eq (id : DeclId) : (Guard.of u').isExempt (p id) = (Guard.of u).isExempt id := by
  rw [Guard.isExempt, Guard.isExempt, h.exemption?_eq]

/-! ### Verdicts -/

theorem makes {call : CallId} (hm : u.Makes id call) : u'.Makes (p id) call := by
  obtain ⟨body, arguments, hb, hv⟩ := hm
  obtain ⟨d, hd, hbody⟩ := Option.bind_eq_some_iff.mp hb
  obtain ⟨d', hd', hdd⟩ := h.exists_declaration hd
  obtain ⟨body', hbody', hbb⟩ := hdd.exists_body hbody
  obtain ⟨n', hv', hnn⟩ := h.exists_visible hbb hv
  cases hnn with
  | call => exact ⟨body', _, by rw [body?_eq hd', hbody'], hv'⟩

theorem callTarget_of_async {call : CallId} {callee : DeclId} (ht : u.callTarget call = .asyncDecl callee) :
    u'.callTarget call = .asyncDecl (p callee) := by
  rw [h.callTargets, ht]
  rfl

theorem suspends (hs : u.Suspends (Guard.of u) id) : u'.Suspends (Guard.of u') (p id) := by
  induction hs with
  | bodiless hd hb =>
      obtain ⟨d', hd', hdd⟩ := h.exists_declaration hd
      have hrel := hdd.body
      rw [hb] at hrel
      refine .bodiless hd' ?_
      generalize d'.body = o' at hrel
      cases hrel
      rfl
  | primitive hm ht => exact .primitive (h.makes hm) (by rw [h.callTargets, ht]; rfl)
  | exempt hm ht he => exact .exempt (h.makes hm) (h.callTarget_of_async ht) ((h.isExempt_eq _).trans he)
  | callee hm ht _ ih => exact .callee (h.makes hm) (h.callTarget_of_async ht) ih

theorem suspends_iff : u'.Suspends (Guard.of u') (p id) ↔ u.Suspends (Guard.of u) id :=
  ⟨fun hs => by simpa using h.symm.suspends hs, h.suspends⟩

theorem lt_size (hid : id < u.size) : p id < u'.size := by
  obtain ⟨d, hd⟩ := declaration?_eq_some hid
  obtain ⟨d', hd', _⟩ := h.exists_declaration hd
  exact (Array.getElem?_eq_some_iff.mp hd').1

theorem targetsValid (hu : u.TargetsValid) : u'.TargetsValid := by
  intro call callee ht
  have hback := h.lt_size (hu call _ (h.symm.callTarget_of_async ht))
  rwa [p.apply_symm_apply] at hback

/-! ### Findings -/

theorem finding?_eq (rule : RuleConfig) (id : DeclId) : rule.finding? u' (p id) = rule.finding? u id := by
  have hrel := h.declarations id
  unfold RuleConfig.finding?
  generalize u.declaration? id = o at *
  generalize u'.declaration? (p id) = o' at *
  cases hrel with
  | none => rfl
  | some hdd =>
      rw [Option.map_some, Option.map_some, hdd.same]
      rfl

theorem flags {rule : RuleConfig} (hf : rule.Flags u id d) : ∃ d', rule.Flags u' (p id) d' := by
  obtain ⟨d', hd', hdd⟩ := h.exists_declaration hf.declared
  have hmarks : d'.isAsync = d.isAsync ∧ d'.visibility = d.visibility := by
    rw [hdd.same]
    exact ⟨rfl, rfl⟩
  exact ⟨d', hd', hmarks.1.trans hf.isAsync, (h.isExempt_eq id).trans hf.notExempt,
    fun hs => hf.quiet (h.suspends_iff.mp hs), hmarks.2 ▸ hf.visible⟩

theorem mem_reported_iff {rule : RuleConfig} (hu : u.TargetsValid) : p id ∈ rule.reported u' ↔ id ∈ rule.reported u := by
  rw [AsyncLint.mem_reported_iff hu, AsyncLint.mem_reported_iff (h.targetsValid hu)]
  refine and_congr_right fun _ => ⟨?_, ?_⟩
  · rintro ⟨d', hf⟩
    simpa using h.symm.flags hf
  · rintro ⟨d, hf⟩
    exact h.flags hf

theorem reported_perm (rule : RuleConfig) (hu : u.TargetsValid) : (rule.reported u').Perm ((rule.reported u).map p) := by
  have hnodup : (rule.reported u).Nodup := (reported_pairwise rule hu).imp Nat.ne_of_lt
  have hnodup' : (rule.reported u').Nodup := (reported_pairwise rule (h.targetsValid hu)).imp Nat.ne_of_lt
  rw [List.perm_ext_iff_of_nodup hnodup' (hnodup.map p.injective)]
  intro id
  rw [List.mem_map]
  constructor
  · intro hid
    exact ⟨p.symm id, (h.mem_reported_iff hu).mp (by rwa [p.apply_symm_apply]), p.apply_symm_apply id⟩
  · rintro ⟨id, hid, rfl⟩
    exact (h.mem_reported_iff hu).mpr hid

theorem emitted_perm (rule : RuleConfig) (hu : u.TargetsValid) :
    ((rule.reported u').filterMap (rule.finding? u')).Perm ((rule.reported u).filterMap (rule.finding? u)) := by
  refine ((h.reported_perm rule hu).filterMap (rule.finding? u')).trans ?_
  rw [List.filterMap_map]
  exact .of_eq (List.filterMap_congr fun id _ => h.finding?_eq rule id)

end CompileUnit.Rearranges

/-- No two declarations stand at places that compare as equal. -/
def CompileUnit.PlacesDistinct (u : CompileUnit) : Prop :=
  ∀ i j d e, u.declaration? i = some d → u.declaration? j = some e → d.location.compare e.location = .eq → i = j

theorem exists_of_mem_filterMap_finding? {u : CompileUnit} {rule : RuleConfig} {ids : List DeclId} {f : Finding}
    (h : f ∈ ids.filterMap (rule.finding? u)) : ∃ id d, u.declaration? id = some d ∧ f = .of rule.severity d := by
  obtain ⟨id, _, hf⟩ := List.mem_filterMap.mp h
  obtain ⟨d, hd, rfl⟩ := Option.map_eq_some_iff.mp hf
  exact ⟨id, d, hd, rfl⟩

/-- Where places are distinct there is only one way to sort the findings. -/
theorem sortFindings_eq_of_perm {u : CompileUnit} {rule : RuleConfig} {ids : List DeclId} {findings : List Finding}
    (hplaces : u.PlacesDistinct) (hp : findings.Perm (ids.filterMap (rule.finding? u))) :
    RuleConfig.sortFindings findings = RuleConfig.sortFindings (ids.filterMap (rule.finding? u)) := by
  have hsort := stableSort_sortFindings findings
  have hsort' := stableSort_sortFindings (ids.filterMap (rule.finding? u))
  refine List.Perm.eq_of_pairwise ?_ hsort.sorted hsort'.sorted ((hsort.perm.trans hp).trans hsort'.perm.symm)
  intro f f' hf hf' hle hge
  obtain ⟨i, d, hd, rfl⟩ := exists_of_mem_filterMap_finding? ((hsort.perm.trans hp).subset hf)
  obtain ⟨j, d', hd', rfl⟩ := exists_of_mem_filterMap_finding? (hsort'.perm.subset hf')
  have heq : d.location.compare d'.location = .eq := by
    have horiented : Std.OrientedCmp fun a b : Finding => a.location.compare b.location := inferInstance
    have hswap : d'.location.compare d.location = (d.location.compare d'.location).swap :=
      horiented.eq_swap (a := .of rule.severity d') (b := .of rule.severity d)
    change d.location.compare d'.location ≠ .gt at hle
    change d'.location.compare d.location ≠ .gt at hge
    rw [hswap] at hge
    cases hc : d.location.compare d'.location <;> simp_all
  obtain rfl := hplaces i j d d' hd hd' heq
  rw [Option.some.inj (hd.symm.trans hd')]

/-- Moving declarations to other numbers, items of blocks and arguments of calls to other places changes no exemption, no
verdict and no finding, except for the order of findings at one place. -/
theorem analysis_rearranged (u u' : CompileUnit) (p : Equiv.Perm DeclId) (hu : u.TargetsValid) (h : u.Rearranges p u') :
    (∀ id, (Guard.of u').exemption? (p id) = (Guard.of u).exemption? id) ∧
    (∀ start start' : Cache, start.Blank → start'.Blank → ∀ id < u.size, ∃ verdict c c',
      (classify u (Guard.of u) id).run.run start = (.ok verdict, c) ∧
      (classify u' (Guard.of u') (p id)).run.run start' = (.ok verdict, c')) ∧
    ∀ rule : RuleConfig, ∃ findings findings', rule.run u = .ok findings ∧ rule.run u' = .ok findings' ∧
      findings'.Perm findings ∧ (u.PlacesDistinct → findings' = findings) := by
  have hu' := h.targetsValid hu
  refine ⟨h.exemption?_eq, fun start start' hstart hstart' id hid => ?_, fun rule => ?_⟩
  · obtain ⟨v, c, hv, _, _, hvs⟩ := classify_ends hu hstart.resting hid
    obtain ⟨v', c', hv', _, _, hvs'⟩ := classify_ends hu' hstart'.resting (h.lt_size hid)
    have hsame : v' = v := by rw [Bool.eq_iff_iff, hvs, hvs', h.suspends_iff]
    exact ⟨v, c, c', hv, hsame ▸ hv'⟩
  · have hperm := h.emitted_perm rule hu
    refine ⟨_, _, run_eq_sortFindings rule hu, run_eq_sortFindings rule hu', ?_, fun hplaces => ?_⟩
    · exact ((stableSort_sortFindings _).perm.trans hperm).trans (stableSort_sortFindings _).perm.symm
    · exact sortFindings_eq_of_perm hplaces hperm

/-- The functions of `relay`, the second and the fourth in each other's place, and the two calls of the second swapped. -/
def relayback : CompileUnit where
  name := "relay.rs"
  declarations := #[
    { name := "ping", location := ⟨"relay.rs", 1, 1⟩, isAsync := true, body := some (.call 0 []) },
    { name := "spin", location := ⟨"relay.rs", 4, 1⟩, isAsync := true, body := some (.loop [] (.call 4 [])) },
    { name := "wait", location := ⟨"relay.rs", 3, 1⟩, isAsync := true, body := some (.call 3 [.inert]) },
    { name := "pong", location := ⟨"relay.rs", 2, 1⟩, isAsync := true, body := some (.block [.call 2 [], .call 1 []]) }]
  callTargets := #[.asyncDecl 3, .asyncDecl 0, .asyncDecl 2, .suspension, .asyncDecl 1]

theorem swap_add_four (n : Nat) : Equiv.swap 1 3 (n + 4) = n + 4 :=
  Equiv.swap_apply_of_ne_of_ne (by omega) (by omega)

theorem relay_rearranges_relayback : relay.Rearranges (Equiv.swap 1 3) relayback where
  declarations
    | 0 => .some ⟨rfl, .some (.call .nil .nil)⟩
    | 1 => .some ⟨rfl, .some (.block (.cons (.call .nil .nil) (.cons (.call .nil .nil) .nil)) (.swap _ _ _))⟩
    | 2 => .some ⟨rfl, .some (.call (.cons .inert .nil) (.refl _))⟩
    | 3 => .some ⟨rfl, .some (.loop .nil (.call .nil .nil))⟩
    | n + 4 => by rw [swap_add_four]; exact .none
  callTargets
    | 0 | 1 | 2 | 3 | 4 => rfl
    | _ + 5 => rfl
  asyncSlots := rfl

theorem relay_placesDistinct : relay.PlacesDistinct := by
  have hline : ∀ (i : DeclId) (d : Declaration), relay.declaration? i = some d → d.location.line = i + 1
    | 0, _, rfl | 1, _, rfl | 2, _, rfl | 3, _, rfl => rfl
  intro i j d e hd he hc
  have hlines : compare d.location.line e.location.line = .eq := by
    simp only [Location.compare, Ordering.then_eq_eq] at hc
    exact hc.2.1
  rw [Nat.compare_eq_eq, hline i d hd, hline j e he] at hlines
  exact Nat.succ.inj hlines

theorem analysis_rearranged_relay : relay.TargetsValid ∧ relay.Rearranges (Equiv.swap 1 3) relayback ∧
    (∀ id, (Guard.of relayback).exemption? (Equiv.swap 1 3 id) = (Guard.of relay).exemption? id) ∧
    (∃ verdict c c', (classify relay (Guard.of relay) 1).run.run {} = (.ok verdict, c) ∧
      (classify relayback (Guard.of relayback) 3).run.run (Cache.sized 4) = (.ok verdict, c')) ∧
    ∃ findings, ({} : RuleConfig).run relay = .ok findings ∧ ({} : RuleConfig).run relayback = .ok findings := by
  obtain ⟨hguard, hclassify, hrun⟩ :=
    analysis_rearranged relay relayback (Equiv.swap 1 3) (by decide) relay_rearranges_relayback
  obtain ⟨findings, findings', hf, hf', _, heq⟩ := hrun {}
  exact ⟨by decide, relay_rearranges_relayback, hguard, hclassify {} (Cache.sized 4) .new (.sized 4) 1 (by decide),
    findings, hf, heq relay_placesDistinct ▸ hf'⟩

end AsyncLint
