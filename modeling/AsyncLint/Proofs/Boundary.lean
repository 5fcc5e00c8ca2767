import AsyncLint.Proofs.Exemption

/-!
# Exactly the exemptions

An exemption depends on the two flags of a declaration and on what stands in the bodies of the unit: references to the
declaration behind parameters that are not async, and suspending calls inside its own lambdas behind such parameters.
The scans that look for them walk through bodies with a stack. Here both are said by a relation with one rule for every
place in which an expression can stand.
-/

namespace AsyncLint

namespace Expression

/-- `Occurs n e`: node `n` stands somewhere in `e`, under whatever lambdas. -/
inductive Occurs (n : Expression) : Expression → Prop where
  | here : Occurs n n
  | argument {id : CallId} {arguments : List Expression} {a : Expression} (ha : a ∈ arguments) (h : Occurs n a) :
      Occurs n (.call id arguments)
  | item {items : List Expression} {i : Expression} (hi : i ∈ items) (h : Occurs n i) : Occurs n (.block items)
  | condition {c t : Expression} {e : Option Expression} (h : Occurs n c) : Occurs n (.conditional c t e)
  | thenBranch {c t : Expression} {e : Option Expression} (h : Occurs n t) : Occurs n (.conditional c t e)
  | elseBranch {c t e : Expression} (h : Occurs n e) : Occurs n (.conditional c t (some e))
  | tried {b : Expression} {hs : List Expression} {f : Option Expression} (h : Occurs n b) : Occurs n (.tryCatch b hs f)
  | handler {b x : Expression} {hs : List Expression} {f : Option Expression} (hx : x ∈ hs) (h : Occurs n x) :
      Occurs n (.tryCatch b hs f)
  | finallyBranch {b f : Expression} {hs : List Expression} (h : Occurs n f) : Occurs n (.tryCatch b hs (some f))
  | header {header : List Expression} {b x : Expression} (hx : x ∈ header) (h : Occurs n x) : Occurs n (.loop header b)
  | repeated {header : List Expression} {b : Expression} (h : Occurs n b) : Occurs n (.loop header b)
  | delegate {slot : SlotId} {b : Expression} (h : Occurs n b) : Occurs n (.lambda slot b)

variable {n c e : Expression}

theorem Occurs.of_mem_children (hc : c ∈ e.children) (h : Occurs n c) : Occurs n e := by
  cases e with
  | call id arguments => exact .argument hc h
  | block items => exact .item hc h
  | conditional a t o =>
      simp only [children, List.mem_cons, Option.mem_toList] at hc
      rcases hc with rfl | rfl | rfl
      · exact .condition h
      · exact .thenBranch h
      · exact .elseBranch h
  | tryCatch b hs f =>
      simp only [children, List.cons_append, List.mem_cons, List.mem_append, Option.mem_toList] at hc
      rcases hc with rfl | hc | rfl
      · exact .tried h
      · exact .handler hc h
      · exact .finallyBranch h
  | loop header b =>
      simp only [children, List.mem_append, List.mem_singleton] at hc
      rcases hc with hc | rfl
      · exact .header hc h
      · exact .repeated h
  | lambda slot b =>
      obtain rfl := List.mem_singleton.mp hc
      exact .delegate h
  | reference slot target => cases hc
  | inert => cases hc

/-- The walk with a stack meets every node that stands in the tree, and no other. -/
theorem mem_descendants_iff : n ∈ e.descendants ↔ Occurs n e := by
  rw [descendants_eq_preorder]
  constructor
  · intro h
    induction e using induction_on_children with
    | step e ih =>
        rcases mem_preorder_iff.mp h with rfl | ⟨c, hc, hn⟩
        · exact .here
        · exact .of_mem_children hc (ih c hc hn)
  · intro h
    induction h with
    | here => exact self_mem_preorder n
    | argument ha _ ih => exact mem_preorder_of_mem_children ha ih
    | item hi _ ih => exact mem_preorder_of_mem_children hi ih
    | condition _ ih => exact mem_preorder_of_mem_children List.mem_cons_self ih
    | thenBranch _ ih => exact mem_preorder_of_mem_children (by simp [children]) ih
    | elseBranch _ ih => exact mem_preorder_of_mem_children (by simp [children]) ih
    | tried _ ih => exact mem_preorder_of_mem_children List.mem_cons_self ih
    | handler hx _ ih => exact mem_preorder_of_mem_children (by simp [children, hx]) ih
    | finallyBranch _ ih => exact mem_preorder_of_mem_children (by simp [children]) ih
    | header hx _ ih => exact mem_preorder_of_mem_children (List.mem_append_left _ hx) ih
    | repeated _ ih => exact mem_preorder_of_mem_children (by simp [children]) ih
    | delegate _ ih => exact mem_preorder_of_mem_children (List.mem_singleton_self _) ih

end Expression

open Expression

namespace CompileUnit

/-- The parameter recorded under `slot` is async. -/
def SlotAsync (u : CompileUnit) (slot : SlotId) : Prop :=
  u.asyncSlots[slot]? = some true

/-- The call recorded under `call` resolves to an async declaration or to a construct that suspends. -/
def CallSuspends (u : CompileUnit) (call : CallId) : Prop :=
  u.callTargets[call]? = some .suspension ∨ ∃ callee, u.callTargets[call]? = some (.asyncDecl callee)

/-- Some body of the unit hands declaration `id` to a parameter that is not async. -/
def HandsOver (u : CompileUnit) (id : DeclId) : Prop :=
  ∃ (other : DeclId) (d : Declaration) (body : Expression) (slot : SlotId), u.declarations[other]? = some d ∧
    d.body = some body ∧ Occurs (.reference slot id) body ∧ ¬ u.SlotAsync slot

/-- The body of `d` hands a lambda with a suspending call somewhere inside to a parameter that is not async. -/
def Conceals (u : CompileUnit) (d : Declaration) : Prop :=
  ∃ body slot inner call arguments, d.body = some body ∧ Occurs (.lambda slot inner) body ∧ ¬ u.SlotAsync slot ∧
    Occurs (.call call arguments) inner ∧ u.CallSuspends call

end CompileUnit

variable {u : CompileUnit} {id : DeclId} {d : Declaration}

theorem slotIsAsync_eq_false_iff {slot : SlotId} : u.slotIsAsync slot = false ↔ ¬ u.SlotAsync slot := by
  unfold CompileUnit.slotIsAsync CompileUnit.SlotAsync
  cases u.asyncSlots[slot]? <;> simp

theorem isSuspendingCall_eq_true_iff {n : Expression} :
    n.isSuspendingCall u = true ↔ ∃ call arguments, n = .call call arguments ∧ u.CallSuspends call := by
  cases n with
  | call id arguments =>
      simp only [isSuspendingCall, CompileUnit.callTarget, CompileUnit.CallSuspends]
      cases ht : u.callTargets[id]? with
      | none => simp [ht]
      | some target => cases target <;> simp [ht]
  | _ => simp [isSuspendingCall]

theorem mem_escaping_iff_handsOver : id ∈ u.escaping ↔ u.HandsOver id := by
  rw [mem_escaping_iff]
  simp only [CompileUnit.HandsOver, CompileUnit.declaration?, ← mem_descendants_iff, descendants_eq_preorder,
    slotIsAsync_eq_false_iff]

theorem hidesSuspension_iff_conceals : u.hidesSuspension d = true ↔ u.Conceals d := by
  rw [hidesSuspension_iff]
  simp only [CompileUnit.Conceals, ← mem_descendants_iff, descendants_eq_preorder, slotIsAsync_eq_false_iff,
    isSuspendingCall_eq_true_iff]
  constructor
  · rintro ⟨body, slot, inner, _, hb, hl, hs, hn, call, arguments, rfl, hc⟩
    exact ⟨body, slot, inner, call, arguments, hb, hl, hs, hn, hc⟩
  · rintro ⟨body, slot, inner, call, arguments, hb, hl, hs, hn, hc⟩
    exact ⟨body, slot, inner, _, hb, hl, hs, hn, call, arguments, rfl, hc⟩

/-- The first rule that applies to a declaration decides. -/
theorem exemption?_cases (hd : u.declarations[id]? = some d) :
    d.overridable = true ∧ (Guard.of u).exemption? id = some .overridable ∨
    d.overridable = false ∧ d.implicitProtocol = true ∧ (Guard.of u).exemption? id = some .implicitProtocol ∨
    d.overridable = false ∧ d.implicitProtocol = false ∧ (u.HandsOver id ∨ u.Conceals d) ∧
      (Guard.of u).exemption? id = some .delegateBoundary ∨
    d.overridable = false ∧ d.implicitProtocol = false ∧ ¬ (u.HandsOver id ∨ u.Conceals d) ∧
      (Guard.of u).exemption? id = none := by
  have hboundary : (u.escaping.contains id || u.hidesSuspension d) = true ↔ u.HandsOver id ∨ u.Conceals d := by
    rw [Bool.or_eq_true, List.contains_iff_mem, mem_escaping_iff_handsOver, hidesSuspension_iff_conceals]
  have hrules : (Guard.of u).exemption? id =
      if d.overridable then some .overridable
      else if d.implicitProtocol then some .implicitProtocol
      else if u.escaping.contains id || u.hidesSuspension d then some .delegateBoundary
      else none := by
    rw [exemption?_of hd, CompileUnit.exemptionAmong?, CompileUnit.declaration?, hd, Option.bind_some]
  cases ho : d.overridable with
  | true => simp [hrules, ho]
  | false =>
      cases hp : d.implicitProtocol with
      | true => simp [hrules, ho, hp]
      | false =>
          by_cases hb : u.HandsOver id ∨ u.Conceals d
          · have he : (Guard.of u).exemption? id = some .delegateBoundary := by
              rw [hrules, ho, hp, if_pos (hboundary.mpr hb)]
              rfl
            simp [hb, he]
          · have he : (Guard.of u).exemption? id = none := by
              rw [hrules, ho, hp, if_neg (mt hboundary.mp hb)]
              rfl
            simp [hb, he]

/-- A declaration has the exemption that its flags and the bodies of the unit call for, the flags first. A number
outside of the unit has none. -/
theorem exemption?_exact (u : CompileUnit) (id : DeclId) :
    ((Guard.of u).exemption? id = some .overridable ↔
      ∃ d, u.declarations[id]? = some d ∧ d.overridable = true) ∧
    ((Guard.of u).exemption? id = some .implicitProtocol ↔
      ∃ d, u.declarations[id]? = some d ∧ d.overridable = false ∧ d.implicitProtocol = true) ∧
    ((Guard.of u).exemption? id = some .delegateBoundary ↔
      ∃ d, u.declarations[id]? = some d ∧ d.overridable = false ∧ d.implicitProtocol = false ∧
        (u.HandsOver id ∨ u.Conceals d)) ∧
    ((Guard.of u).exemption? id = none ↔ u.declarations.size ≤ id ∨
      ∃ d, u.declarations[id]? = some d ∧ d.overridable = false ∧ d.implicitProtocol = false ∧
        ¬ u.HandsOver id ∧ ¬ u.Conceals d) := by
  cases hd : u.declarations[id]? with
  | none =>
      have hle : u.declarations.size ≤ id := Array.getElem?_eq_none_iff.mp hd
      rw [exemption?_eq_none hd]
      simp [hle]
  | some d =>
      have hlt : ¬ u.declarations.size ≤ id := Nat.not_le.mpr (Array.getElem?_eq_some_iff.mp hd).1
      rcases exemption?_cases hd with ⟨ho, he⟩ | ⟨ho, hp, he⟩ | ⟨ho, hp, hb, he⟩ | ⟨ho, hp, hb, he⟩
      · simp [he, ho, hlt]
      · simp [he, ho, hp, hlt]
      · simp [he, ho, hp, hb, hlt, ← not_or]
      · simp [he, ho, hp, hb, hlt, ← not_or]

end AsyncLint
