import AsyncLint.Unit.Basic

/-!
# Nodes of a body

Which nodes a body has, and which of them run where the body runs. A node is visible unless a lambda behind a
parameter that is not async stands above it. What the visible calls resolve to is all that a classification looks at.
-/

namespace AsyncLint

namespace Expression

/-- A property of all trees follows from the step from the children of a node to the node. -/
@[elab_as_elim]
theorem induction_on_children {P : Expression → Prop} (e : Expression)
    (step : ∀ e, (∀ c ∈ e.children, P c) → P e) : P e :=
  step e fun c _ => induction_on_children c step
termination_by sizeOf e
decreasing_by exact sizeOf_lt_of_mem_children (by assumption)

/-! ## All nodes -/

theorem unfoldStack_eq (stack : List Expression) : unfoldStack stack = stack.flatMap preorder := by
  induction stack using unfoldStack.induct with
  | case1 => rw [unfoldStack, List.flatMap_nil]
  | case2 e rest ih =>
      rw [unfoldStack, ih, List.flatMap_append, List.flatMap_cons, preorder_eq, List.cons_append]

theorem descendants_eq_preorder (e : Expression) : e.descendants = e.preorder := by
  rw [descendants, unfoldStack_eq, List.flatMap_cons, List.flatMap_nil, List.append_nil]

theorem mem_preorder_iff {n e : Expression} : n ∈ e.preorder ↔ n = e ∨ ∃ c ∈ e.children, n ∈ c.preorder := by
  rw [preorder_eq, List.mem_cons, List.mem_flatMap]

theorem self_mem_preorder (e : Expression) : e ∈ e.preorder :=
  mem_preorder_iff.mpr (Or.inl rfl)

theorem mem_preorder_of_mem_children {n c e : Expression} (hc : c ∈ e.children) (h : n ∈ c.preorder) :
    n ∈ e.preorder :=
  mem_preorder_iff.mpr (Or.inr ⟨c, hc, h⟩)

/-! ## Nodes from the leaves up -/

/-- The nodes below each child in turn, lambda bodies included, then the node itself. -/
def postorder (e : Expression) : List Expression :=
  (e.children.attach.map fun ⟨c, _⟩ => c.postorder).flatten ++ [e]
termination_by sizeOf e
decreasing_by exact sizeOf_lt_of_mem_children (by assumption)

theorem postorder_eq (e : Expression) : e.postorder = e.children.flatMap postorder ++ [e] := by
  rw [postorder, List.flatMap]
  congr 2
  exact List.attach_map_val (f := postorder)

theorem mem_postorder_iff {n e : Expression} : n ∈ e.postorder ↔ n ∈ e.preorder := by
  induction e using induction_on_children with
  | step e ih =>
      rw [postorder_eq, mem_preorder_iff, List.mem_append, List.mem_flatMap, List.mem_singleton, or_comm]
      exact or_congr_right (exists_congr fun c => and_congr_right (ih c))

/-- The number of a node, if it is a call. -/
def callId? : Expression → Option CallId
  | .call id _ => some id
  | _ => none

/-- The numbers of all calls, each after those below it. -/
def callIds (e : Expression) : List CallId :=
  e.postorder.filterMap callId?

theorem callIds_eq (e : Expression) : e.callIds = e.children.flatMap callIds ++ e.callId?.toList := by
  rw [callIds, postorder_eq, List.filterMap_append, List.filterMap_flatMap]
  rfl

@[simp]
theorem callIds_call (id : CallId) (arguments : List Expression) :
    (call id arguments).callIds = arguments.flatMap callIds ++ [id] :=
  callIds_eq _

@[simp]
theorem callIds_block (items : List Expression) : (block items).callIds = items.flatMap callIds := by
  simp [callIds_eq (block _), children, callId?]

@[simp]
theorem callIds_conditional (c t : Expression) (e : Option Expression) :
    (conditional c t e).callIds = c.callIds ++ (t.callIds ++ e.toList.flatMap callIds) := by
  simp [callIds_eq (conditional _ _ _), children, callId?]

@[simp]
theorem callIds_loop (header : List Expression) (body : Expression) :
    (loop header body).callIds = header.flatMap callIds ++ body.callIds := by
  simp [callIds_eq (loop _ _), children, callId?]

@[simp]
theorem callIds_lambda (slot : SlotId) (body : Expression) : (lambda slot body).callIds = body.callIds := by
  simp [callIds_eq (lambda _ _), children, callId?]

@[simp]
theorem callIds_reference (slot : SlotId) (target : DeclId) : (reference slot target).callIds = [] := by
  simp [callIds_eq (reference _ _), children, callId?]

@[simp]
theorem callIds_inert : inert.callIds = [] := by
  simp [callIds_eq inert, children, callId?]

theorem mem_callIds_iff {id : CallId} {e : Expression} :
    id ∈ e.callIds ↔ ∃ arguments, .call id arguments ∈ e.preorder := by
  simp only [callIds, List.mem_filterMap, mem_postorder_iff]
  constructor
  · rintro ⟨n, hn, hid⟩
    cases n with
    | call id' arguments =>
        obtain rfl : id' = id := by simpa [callId?] using hid
        exact ⟨arguments, hn⟩
    | _ => simp [callId?] at hid
  · rintro ⟨arguments, hn⟩
    exact ⟨_, hn, rfl⟩

/-! ## Visible nodes -/

/-- Whether what stands below a node runs where the node does. A lambda runs here only if its parameter is async. -/
def opens (u : CompileUnit) : Expression → Bool
  | .lambda slot _ => u.slotIsAsync slot
  | _ => true

/-- `Visible u e n`: node `n` is met on the way down from `e`, with no lambda on the way that runs elsewhere. -/
inductive Visible (u : CompileUnit) : Expression → Expression → Prop where
  | here {e : Expression} : Visible u e e
  | under {e c n : Expression} (ho : e.opens u = true) (hc : c ∈ e.children) (h : Visible u c n) : Visible u e n

variable {u : CompileUnit}

/-- A node that is not visible stands inside a lambda behind a parameter that is not async. -/
theorem visible_or_hidden {n e : Expression} (h : n ∈ e.preorder) :
    Visible u e n ∨
      ∃ slot body, .lambda slot body ∈ e.preorder ∧ u.slotIsAsync slot = false ∧ n ∈ body.preorder := by
  induction e using induction_on_children with
  | step e ih =>
      rcases mem_preorder_iff.mp h with rfl | ⟨c, hc, hn⟩
      · exact Or.inl .here
      · cases ho : e.opens u with
        | true =>
            rcases ih c hc hn with hv | ⟨slot, body, hl, hs, hb⟩
            · exact Or.inl (.under ho hc hv)
            · exact Or.inr ⟨slot, body, mem_preorder_of_mem_children hc hl, hs, hb⟩
        | false =>
            -- only a lambda can keep what is below it from running here
            cases e with
            | lambda slot body =>
                obtain rfl : c = body := by simpa [children] using hc
                exact Or.inr ⟨slot, c, self_mem_preorder _, ho, hn⟩
            | _ => simp [opens] at ho

/-! ## What the visible calls resolve to -/

/-- What a node itself resolves to, if it is a call. -/
def ownTargets (u : CompileUnit) : Expression → List CallTarget
  | .call id _ => [u.callTarget id]
  | _ => []

/-- What the visible calls of a tree resolve to, in the order in which they are met. -/
def targets (u : CompileUnit) (e : Expression) : List CallTarget :=
  e.ownTargets u ++ if e.opens u then (e.children.attach.map fun ⟨c, _⟩ => c.targets u).flatten else []
termination_by sizeOf e
decreasing_by exact sizeOf_lt_of_mem_children (by assumption)

theorem targets_eq (u : CompileUnit) (e : Expression) :
    e.targets u = e.ownTargets u ++ if e.opens u then e.children.flatMap (targets u) else [] := by
  rw [targets, List.flatMap]
  congr 3
  exact List.attach_map_val (f := targets u)

theorem targets_eq_of_opens {e : Expression} (h : e.opens u = true) :
    e.targets u = e.ownTargets u ++ e.children.flatMap (targets u) := by
  rw [targets_eq, if_pos h]

theorem mem_targets_iff {t : CallTarget} {e : Expression} :
    t ∈ e.targets u ↔ ∃ id arguments, Visible u e (.call id arguments) ∧ u.callTarget id = t := by
  constructor
  · intro h
    induction e using induction_on_children with
    | step e ih =>
        rw [targets_eq, List.mem_append] at h
        rcases h with h | h
        · cases e with
          | call id arguments =>
              obtain rfl : t = u.callTarget id := by simpa [ownTargets] using h
              exact ⟨id, arguments, .here, rfl⟩
          | _ => simp [ownTargets] at h
        · cases ho : e.opens u with
          | true =>
              rw [ho, if_pos rfl, List.mem_flatMap] at h
              obtain ⟨c, hc, ht⟩ := h
              obtain ⟨id, arguments, hv, hid⟩ := ih c hc ht
              exact ⟨id, arguments, .under ho hc hv, hid⟩
          | false => simp [ho] at h
  · rintro ⟨id, arguments, hv, rfl⟩
    generalize hn : Expression.call id arguments = n at hv
    induction hv with
    | here =>
        subst hn
        rw [targets_eq_of_opens rfl]
        exact List.mem_append_left _ (by simp [ownTargets])
    | under ho hc _ ih =>
        rw [targets_eq_of_opens ho]
        exact List.mem_append_right _ (List.mem_flatMap.mpr ⟨_, hc, ih hn⟩)

end Expression

end AsyncLint
