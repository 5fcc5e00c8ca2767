import AsyncLint.Proofs.Suspension

/-!
# Declarations that are not exempt

A suspending call inside a lambda behind a parameter that is not async makes its declaration exempt. So all suspending
calls of a declaration that is not exempt are visible.
-/

namespace AsyncLint

variable {u : CompileUnit} {id : DeclId} {d : Declaration} {body n : Expression}

theorem exemption?_of (hd : u.declaration? id = some d) :
    (Guard.of u).exemption? id = u.exemptionAmong? u.escaping id := by
  have hlt : id < u.size := (Array.getElem?_eq_some_iff.mp hd).1
  simp [Guard.exemption?, Guard.of, CompileUnit.ids, List.getElem?_range hlt]

theorem exemption?_eq_none (hd : u.declaration? id = none) : (Guard.of u).exemption? id = none := by
  have hle : u.size ≤ id := by simpa [CompileUnit.declaration?, CompileUnit.size] using hd
  simp [Guard.exemption?, Guard.of, CompileUnit.ids, hle]

theorem exists_declaration_of_isExempt (h : (Guard.of u).isExempt id = true) : ∃ d, u.declaration? id = some d := by
  cases hd : u.declaration? id with
  | some d => exact ⟨d, rfl⟩
  | none => rw [Guard.isExempt, exemption?_eq_none hd] at h; cases h

theorem isExempt_of_hidesSuspension (hd : u.declaration? id = some d) (h : u.hidesSuspension d = true) :
    (Guard.of u).isExempt id = true := by
  rw [Guard.isExempt, exemption?_of hd, CompileUnit.exemptionAmong?, hd, Option.bind_some, h, Bool.or_true, if_pos rfl]
  cases d.overridable <;> cases d.implicitProtocol <;> rfl

theorem hidesSuspension_of_mem {slot : SlotId} {inner : Expression} (hb : d.body = some body)
    (hl : .lambda slot inner ∈ body.preorder) (hs : u.slotIsAsync slot = false) (hn : n ∈ inner.preorder)
    (hc : n.isSuspendingCall u = true) : u.hidesSuspension d = true := by
  rw [CompileUnit.hidesSuspension, hb, Option.any_some, Expression.descendants_eq_preorder, List.any_eq_true]
  refine ⟨_, hl, ?_⟩
  rw [Expression.isSuspendingDelegate, hs, Bool.not_false, Bool.true_and, Expression.descendants_eq_preorder,
    List.any_eq_true]
  exact ⟨n, hn, hc⟩

/-! ## When a declaration is exempt -/

theorem mem_bodies_iff : body ∈ u.bodies ↔ ∃ id d, u.declaration? id = some d ∧ d.body = some body := by
  simp only [CompileUnit.bodies, List.mem_filterMap, CompileUnit.declaration?, ← Array.getElem?_toList]
  constructor
  · rintro ⟨d, hd, hb⟩
    obtain ⟨id, hid⟩ := List.mem_iff_getElem?.mp hd
    exact ⟨id, d, hid, hb⟩
  · rintro ⟨id, d, hid, hb⟩
    exact ⟨d, List.mem_iff_getElem?.mpr ⟨id, hid⟩, hb⟩

theorem escapingTarget?_eq_some_iff {target : DeclId} :
    n.escapingTarget? u = some target ↔ ∃ slot, n = .reference slot target ∧ u.slotIsAsync slot = false := by
  cases n with
  | reference slot target' => cases hs : u.slotIsAsync slot <;> simp [Expression.escapingTarget?, hs, and_assoc]
  | _ => simp [Expression.escapingTarget?]

/-- A declaration escapes if some body hands it to a parameter that is not async. -/
theorem mem_escaping_iff {target : DeclId} : target ∈ u.escaping ↔
    ∃ id d body slot, u.declaration? id = some d ∧ d.body = some body ∧ .reference slot target ∈ body.preorder ∧
      u.slotIsAsync slot = false := by
  simp only [CompileUnit.escaping, List.mem_flatMap, List.mem_filterMap, Expression.descendants_eq_preorder,
    mem_bodies_iff, escapingTarget?_eq_some_iff]
  constructor
  · rintro ⟨body, ⟨id, d, hd, hb⟩, _, hn, slot, rfl, hs⟩
    exact ⟨id, d, body, slot, hd, hb, hn, hs⟩
  · rintro ⟨id, d, body, slot, hd, hb, hn, hs⟩
    exact ⟨body, ⟨id, d, hd, hb⟩, _, hn, slot, rfl, hs⟩

theorem hidesSuspension_iff : u.hidesSuspension d = true ↔
    ∃ body slot inner n, d.body = some body ∧ .lambda slot inner ∈ body.preorder ∧ u.slotIsAsync slot = false ∧
      n ∈ inner.preorder ∧ n.isSuspendingCall u = true := by
  constructor
  · intro h
    obtain ⟨body, hb, h⟩ := (Option.any_eq_true _ _).mp h
    obtain ⟨l, hl, h⟩ := List.any_eq_true.mp h
    rw [Expression.descendants_eq_preorder] at hl
    cases l with
    | lambda slot inner =>
        simp only [Expression.isSuspendingDelegate, Bool.and_eq_true, Bool.not_eq_true', List.any_eq_true,
          Expression.descendants_eq_preorder] at h
        obtain ⟨hs, n, hn, hc⟩ := h
        exact ⟨body, slot, inner, n, hb, hl, hs, hn, hc⟩
    | _ => cases h
  · rintro ⟨body, slot, inner, n, hb, hl, hs, hn, hc⟩
    exact hidesSuspension_of_mem hb hl hs hn hc

theorem isExempt_iff (hd : u.declaration? id = some d) : (Guard.of u).isExempt id = true ↔
    d.overridable = true ∨ d.implicitProtocol = true ∨ id ∈ u.escaping ∨ u.hidesSuspension d = true := by
  rw [Guard.isExempt, exemption?_of hd, CompileUnit.exemptionAmong?, hd, Option.bind_some, ← List.contains_iff_mem]
  cases d.overridable <;> cases d.implicitProtocol <;> cases u.escaping.contains id <;>
    cases u.hidesSuspension d <;> simp

/-! ## Calls of declarations that are not exempt -/

theorem visible_of_isSuspendingCall (he : (Guard.of u).isExempt id = false) (hd : u.declaration? id = some d)
    (hb : d.body = some body) (hn : n ∈ body.preorder) (hc : n.isSuspendingCall u = true) : body.Visible u n := by
  rcases Expression.visible_or_hidden hn with hv | ⟨slot, inner, hl, hs, hi⟩
  · exact hv
  · have hx := isExempt_of_hidesSuspension hd (hidesSuspension_of_mem hb hl hs hi hc)
    rw [he] at hx
    cases hx

end AsyncLint
